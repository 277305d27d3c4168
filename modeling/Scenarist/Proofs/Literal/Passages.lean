/-
**Quoted passages.** The first double quote of a text opens a passage and the next one closes it;
reading goes on behind that one (`passages_append`). The first passage is the one between the first
two double quotes, if there are two (`firstPassage?_eq_some`).
-/

import Mathlib.Tactic.ByContra
import Scenarist.Literal.Basic

namespace Scenarist.Literal

/-- The text quotes the passage first: it stands between the first double quote and the next one. -/
def Quotes (passage t : Text) : Prop :=
  ∃ front back, t = front ++ '"' :: (passage ++ '"' :: back) ∧ '"' ∉ front ∧ '"' ∉ passage

/-- Up to the first double quote nothing is quoted. -/
theorem passagesFrom_outside {front : Text} (unquoted : '"' ∉ front) (rest : Text) :
    passagesFrom none (front ++ '"' :: rest) = passagesFrom (some []) rest := by
  induction front with
  | nil => rfl
  | cons c front ih =>
    rw [List.mem_cons, not_or] at unquoted
    rw [List.cons_append, passagesFrom, if_neg (Ne.symm unquoted.1), ih unquoted.2]

/-- Up to the next one the passage goes on. -/
theorem passagesFrom_inside {passage : Text} (unquoted : '"' ∉ passage) (begun rest : Text) :
    passagesFrom (some begun) (passage ++ '"' :: rest) =
      (begun.reverse ++ passage) :: passages rest := by
  induction passage generalizing begun with
  | nil =>
    rw [List.nil_append, passagesFrom, if_pos rfl, List.append_nil]
    rfl
  | cons c passage ih =>
    rw [List.mem_cons, not_or] at unquoted
    rw [List.cons_append, passagesFrom, if_neg (Ne.symm unquoted.1), ih unquoted.2,
      List.reverse_cons, List.append_assoc, List.singleton_append]

/-- Without a double quote nothing is quoted any more. -/
theorem passagesFrom_unquoted {t : Text} (unquoted : '"' ∉ t) (begun : Option Text) :
    passagesFrom begun t = [] := by
  induction t generalizing begun with
  | nil => cases begun <;> rfl
  | cons c t ih =>
    rw [List.mem_cons, not_or] at unquoted
    cases begun with
    | none => rw [passagesFrom, if_neg (Ne.symm unquoted.1), ih unquoted.2]
    | some begun => rw [passagesFrom, if_neg (Ne.symm unquoted.1), ih unquoted.2]

/-- **A passage is quoted between two double quotes**, and reading goes on behind them. -/
theorem passages_append {front passage : Text} (before : '"' ∉ front) (inside : '"' ∉ passage)
    (back : Text) :
    passages (front ++ '"' :: (passage ++ '"' :: back)) = passage :: passages back := by
  rw [passages, passagesFrom_outside before, passagesFrom_inside inside, List.reverse_nil,
    List.nil_append]

/-- **The first passage is the one that the text quotes first.** -/
theorem firstPassage?_eq_some {t passage : Text} :
    firstPassage? t = some passage ↔ Quotes passage t := by
  constructor
  · intro found
    have opened : '"' ∈ t := by
      by_contra unquoted
      rw [firstPassage?, passages, passagesFrom_unquoted unquoted] at found
      cases found
    obtain ⟨front, rest, rfl, before⟩ := List.eq_append_cons_of_mem opened
    have closed : '"' ∈ rest := by
      by_contra unquoted
      rw [firstPassage?, passages, passagesFrom_outside before,
        passagesFrom_unquoted unquoted] at found
      cases found
    obtain ⟨inner, back, rfl, inside⟩ := List.eq_append_cons_of_mem closed
    rw [firstPassage?, passages_append before inside, List.head?_cons] at found
    obtain rfl := Option.some_inj.mp found
    exact ⟨front, back, rfl, before, inside⟩
  · rintro ⟨front, back, rfl, before, inside⟩
    rw [firstPassage?, passages_append before inside, List.head?_cons]

theorem firstPassage?_eq_none {t : Text} :
    firstPassage? t = none ↔ ∀ passage, ¬ Quotes passage t := by
  simp only [Option.eq_none_iff_forall_ne_some, ne_eq, firstPassage?_eq_some]

end Scenarist.Literal
