/-
**Which intent a step has, said by the words in it.** An intent holds of a step (`Intent.Holds`) when
its words occur there, up to case, in the order that it asks for. The search for its pattern finds
that out (`Intent.claims_iff_holds`), so a step has the first intent that holds of it
(`Intent.ofStep_eq_first`).
-/

import Scenarist.Proofs.Text.Pattern
import Scenarist.Step.Intent

namespace Scenarist.Intent

open Text (BeginsWith Occurs OccursThen)
open Text.Pattern (search_either search_start search_words search_words_line)

/-- What a step says that has the intent. -/
def Holds (intent : Intent) (step : Text) : Prop :=
  match intent with
  | navigate => BeginsWith "Given I " "am on" step ∨ BeginsWith "Given I " "navigate to" step ∨
      BeginsWith "Given I " "open" step
  | fillEmail => OccursThen "enter" "email" step
  | fillPassword => OccursThen "enter" "password" step
  | fillField => Occurs "enter" step ∨ OccursThen "fill" "field" step ∨
      OccursThen "fill" "box" step ∨ OccursThen "fill" "input" step
  | click => Occurs "click" step ∨ Occurs "press" step
  | wait => Occurs "wait" step
  | assertText => Occurs "should see" step ∨ Occurs "should contain" step ∨ Occurs "contains" step
  | assertVisible =>
    Occurs "should be visible" step ∨ Occurs "is visible" step ∨ Occurs "appears" step
  | assertUrl => Occurs "should be on" step ∨ Occurs "should be at" step ∨ Occurs "am on" step
  | search => Occurs "search" step ∨ Occurs "type" step
  | pressKey => Occurs "press enter" step ∨ Occurs "press key" step
  | unrecognized => False

section Options

variable {P : Text → Prop} {a b c : Text}

theorem exists_mem_one : (∃ t ∈ [a], P t) ↔ P a := by
  simp only [List.mem_singleton, exists_eq_left]

theorem exists_mem_pair : (∃ t ∈ [a, b], P t) ↔ P a ∨ P b := by
  simp only [List.mem_cons, List.not_mem_nil, or_false, exists_eq_or_imp, exists_eq_left]

theorem exists_mem_triple : (∃ t ∈ [a, b, c], P t) ↔ P a ∨ P b ∨ P c := by
  simp only [List.mem_cons, List.not_mem_nil, or_false, exists_eq_or_imp, exists_eq_left]

end Options

/-- **An intent claims the steps that it holds of.** -/
theorem claims_iff_holds (intent : Intent) (step : Text) :
    intent.claims step = true ↔ intent.Holds step := by
  cases intent with
  | navigate => exact search_start.trans (exists_mem_one.trans exists_mem_triple)
  | fillEmail => exact search_words_line.trans (exists_mem_one.trans exists_mem_one)
  | fillPassword => exact search_words_line.trans (exists_mem_one.trans exists_mem_one)
  | fillField =>
    have entered : (Text.Pattern.words ["enter"]).search step = true ↔ Occurs "enter" step :=
      search_words.trans exists_mem_one
    exact search_either.trans
      (or_congr entered (search_words_line.trans (exists_mem_one.trans exists_mem_triple)))
  | click => exact search_words.trans exists_mem_pair
  | wait => exact search_words.trans exists_mem_one
  | assertText => exact search_words.trans exists_mem_triple
  | assertVisible => exact search_words.trans exists_mem_triple
  | assertUrl => exact search_words.trans exists_mem_triple
  | search => exact search_words.trans exists_mem_pair
  | pressKey => exact search_words.trans exists_mem_pair
  | unrecognized =>
    refine search_words.trans ⟨?_, False.elim⟩
    rintro ⟨_, member, -⟩
    cases member

/-- **The words of a step decide its intent.** An intent claims a step exactly when it holds of it,
and a step has the first intent in the order of `Intent.ruled` that holds of it, or none of them if
none does. -/
theorem ofStep_eq_first (step : Text) :
    (∀ intent : Intent, intent.claims step = true ↔ intent.Holds step) ∧
    ∀ intent, ofStep step = intent ↔
      (∃ earlier later, ruled = earlier ++ intent :: later ∧ intent.Holds step ∧
        ∀ other ∈ earlier, ¬ other.Holds step) ∨
      (intent = unrecognized ∧ ∀ other ∈ ruled, ¬ other.Holds step) := by
  refine ⟨fun intent => claims_iff_holds intent step, fun intent => ?_⟩
  have first : ruled.find? (·.claims step) = some intent ↔
      ∃ earlier later, ruled = earlier ++ intent :: later ∧ intent.Holds step ∧
        ∀ other ∈ earlier, ¬ other.Holds step := by
    simp only [List.find?_eq_some_iff_append, claims_iff_holds, Bool.not_eq_true', ← Bool.not_eq_true]
    constructor
    · rintro ⟨holds, earlier, later, order, none⟩
      exact ⟨earlier, later, order, holds, none⟩
    · rintro ⟨earlier, later, order, holds, none⟩
      exact ⟨holds, earlier, later, order, none⟩
  have none : ruled.find? (·.claims step) = none ↔ ∀ other ∈ ruled, ¬ other.Holds step := by
    simp only [List.find?_eq_none, claims_iff_holds]
  rw [← first, ← none, ofStep]
  cases ruled.find? (·.claims step) <;> simp [eq_comm]

end Scenarist.Intent
