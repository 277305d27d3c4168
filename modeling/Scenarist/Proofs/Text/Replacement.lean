/-
**Replacements in turn.** A text in which characters are replaced in turn by pieces is the text with
all of them replaced at once, if no piece holds a character that is replaced later
(`replacedAll_eq`). Otherwise a later replacement reaches into an earlier piece.
-/

import Mathlib.Data.List.Basic
import Scenarist.Text.Basic

namespace Scenarist.Text

/-- The text with a piece in the place of a character. -/
def replaced (c : Char) (piece t : Text) : Text := t.flatMap fun d => if d = c then piece else [d]

/-- The text with the replacements of a table made in turn. -/
def replacedAll (table : List (Char × Text)) (t : Text) : Text :=
  table.foldl (fun t entry => replaced entry.1 entry.2 t) t

/-- What a character becomes when all replacements of a table are made at once. -/
def replacement (table : List (Char × Text)) (c : Char) : Text := (table.lookup c).getD [c]

theorem replacement_cons (entry : Char × Text) (table : List (Char × Text)) (c : Char) :
    replacement (entry :: table) c = if c = entry.1 then entry.2 else replacement table c := by
  obtain ⟨d, piece⟩ := entry
  rw [replacement, List.lookup_cons]
  split
  · next same => rw [if_pos (beq_iff_eq.mp same), Option.getD_some]
  · next apart =>
    rw [if_neg (beq_eq_false_iff_ne.mp apart)]
    rfl

/-- A text without the characters of the table stays as it is. -/
theorem flatMap_replacement {table : List (Char × Text)} {t : Text}
    (apart : ∀ entry ∈ table, entry.1 ∉ t) : t.flatMap (replacement table) = t := by
  have each : ∀ c ∈ t, replacement table c = [c] := by
    intro c member
    induction table with
    | nil => rfl
    | cons entry table ih =>
      obtain ⟨here, below⟩ := List.forall_mem_cons.mp apart
      have different : c ≠ entry.1 := fun same => here (same ▸ member)
      rw [replacement_cons, if_neg different, ih below]
  rw [List.flatMap_congr each, List.flatMap_singleton']

/-- **Replacing in turn is replacing at once**, if no piece holds a character that is replaced
later. -/
theorem replacedAll_eq {table : List (Char × Text)}
    (ordered : table.Pairwise fun earlier later => later.1 ∉ earlier.2) (t : Text) :
    replacedAll table t = t.flatMap (replacement table) := by
  unfold replacedAll
  induction table generalizing t with
  | nil => exact (List.flatMap_singleton' t).symm
  | cons entry table ih =>
    obtain ⟨apart, orderedBelow⟩ := List.pairwise_cons.mp ordered
    rw [List.foldl_cons, ih orderedBelow, replaced, List.flatMap_assoc]
    refine List.flatMap_congr fun c _ => ?_
    rw [replacement_cons]
    split
    · exact flatMap_replacement apart
    · exact List.flatMap_singleton ..

/-- With the backslash last, the ones that came in are doubled as well. -/
example : replacedAll [('\'', "\\'"), ('\\', "\\\\")] "'" = "\\\\'" := by decide

end Scenarist.Text
