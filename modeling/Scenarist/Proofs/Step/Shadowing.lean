/-
**An intent whose words hold others is shadowed by them.** A step that an intent holds of has that
intent or one that is asked before it (`Intent.ofStep_mem`). Whatever presses the enter key enters
something, and whatever presses a key presses, so the intent to press a key is asked last and never
found (`Intent.ofStep_ne_pressKey`).
-/

import Scenarist.Proofs.Step.Classification
import Scenarist.Step.Interpretation

namespace Scenarist

namespace Intent

open Text (Occurs)

/-- A step that an intent holds of has that intent or an earlier one. -/
theorem ofStep_mem {intent : Intent} (earlier later : List Intent)
    (order : ruled = earlier ++ intent :: later) {step : Text} (holds : intent.Holds step) :
    ofStep step ∈ earlier ++ [intent] := by
  have here : (intent :: later).find? (·.claims step) = some intent := by
    simp [(claims_iff_holds intent step).mpr holds]
  rw [ofStep, order, List.find?_append, here]
  cases found : earlier.find? (·.claims step) with
  | none => exact List.mem_append_right _ List.mem_cons_self
  | some other => exact List.mem_append_left _ (List.mem_of_find?_eq_some found)

/-- The intent of a step holds of it, unless the step has none. -/
theorem holds_ofStep (step : Text) :
    (ofStep step).Holds step ∨ ofStep step = unrecognized := by
  rw [ofStep]
  cases found : ruled.find? (·.claims step) with
  | none => exact Or.inr rfl
  | some intent =>
    have claimed : intent.claims step = true := by simpa using List.find?_some found
    exact Or.inl ((claims_iff_holds intent step).mp claimed)

/-- Pressing the enter key is entering something. -/
theorem ofStep_pressEnter {step : Text} (presses : Occurs "press enter" step) :
    ofStep step ∈ [navigate, fillEmail, fillPassword, fillField] :=
  ofStep_mem [navigate, fillEmail, fillPassword] _ rfl
    (Or.inl (Occurs.part "press " "enter" [] presses))

/-- Pressing a key is pressing. -/
theorem ofStep_pressKey {step : Text} (presses : Occurs "press key" step) :
    ofStep step ∈ [navigate, fillEmail, fillPassword, fillField, click] :=
  ofStep_mem [navigate, fillEmail, fillPassword, fillField] _ rfl
    (Or.inr (Occurs.part [] "press" " key" presses))

/-- **No step has the intent to press a key.** -/
theorem ofStep_ne_pressKey (step : Text) : ofStep step ≠ pressKey := by
  intro same
  have holds := holds_ofStep step
  rw [same] at holds
  rcases holds with (presses | presses) | none
  · have earlier := ofStep_pressEnter presses
    rw [same] at earlier
    exact absurd earlier (by decide)
  · have earlier := ofStep_pressKey presses
    rw [same] at earlier
    exact absurd earlier (by decide)
  · cases none

end Intent

/-- **No command in the place of a step presses a key.** -/
theorem Step.press_not_mem {step selector key : Text} :
    .press selector key ∉ Step.commands (Intent.ofStep step) step := by
  intro member
  have other := Intent.ofStep_ne_pressKey step
  cases intent : Intent.ofStep step with
  | pressKey => exact other intent
  | fillField =>
    rw [intent, Step.commands] at member
    split at member
    · cases List.mem_singleton.mp member
    · cases member
  | _ =>
    rw [intent] at member
    cases List.mem_singleton.mp member

end Scenarist
