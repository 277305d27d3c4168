/-
**Double quotes pair from left to right.** Cut at its double quotes, a text quotes the pieces with an
odd number that have a double quote behind them (`getElem?_passages`), so that every other double
quote closes a passage (`length_passages`) and a last one without a partner counts for nothing. The
same passages are found by a scan that looks for a passage at one place after the other and goes on
behind each that it finds (`scans_iff`), and the first of them by a search (`firstPassage?_eq_firstAt`).
The laws go by induction on the pairs of double quotes (`byPairs`).
-/

import Scenarist.Proofs.Literal.Passages
import Scenarist.Proofs.Text.Search
import Scenarist.Proofs.Text.Lines

namespace Scenarist.Literal

/-! ### Pairs of double quotes -/

/-- **Induction on the pairs of double quotes**: a text has no double quote, or only one, or a passage
between its first two and a text behind them. -/
@[elab_as_elim]
theorem byPairs {P : Text → Prop} (unquoted : ∀ t, '"' ∉ t → P t)
    (opened : ∀ front rest, '"' ∉ front → '"' ∉ rest → P (front ++ '"' :: rest))
    (paired : ∀ front passage back, '"' ∉ front → '"' ∉ passage → P back →
      P (front ++ '"' :: (passage ++ '"' :: back))) (t : Text) : P t := by
  induction size : t.length using Nat.strongRecOn generalizing t with
  | _ n ih =>
    by_cases first : '"' ∈ t
    · obtain ⟨front, rest, rfl, before⟩ := List.eq_append_cons_of_mem first
      by_cases second : '"' ∈ rest
      · obtain ⟨passage, back, rfl, inside⟩ := List.eq_append_cons_of_mem second
        refine paired front passage back before inside (ih back.length ?_ back rfl)
        simp only [List.length_append, List.length_cons] at size
        omega
      · exact opened front rest before second
    · exact unquoted t first

section Pairs

variable {front passage rest : Text}

theorem passages_unquoted {t : Text} (unquoted : '"' ∉ t) : passages t = [] :=
  passagesFrom_unquoted unquoted none

/-- A double quote without a partner quotes nothing. -/
theorem passages_opened (before : '"' ∉ front) (inside : '"' ∉ rest) :
    passages (front ++ '"' :: rest) = [] := by
  rw [passages, passagesFrom_outside before, passagesFrom_unquoted inside]

/-- Up to the first passage there are two double quotes. -/
theorem count_paired (before : '"' ∉ front) (inside : '"' ∉ passage) (back : Text) :
    (front ++ '"' :: (passage ++ '"' :: back)).count '"' = back.count '"' + 2 := by
  rw [List.count_append, List.count_cons_self, List.count_append, List.count_cons_self,
    List.count_eq_zero.mpr before, List.count_eq_zero.mpr inside, Nat.zero_add, Nat.zero_add]

theorem count_opened (before : '"' ∉ front) (inside : '"' ∉ rest) :
    (front ++ '"' :: rest).count '"' = 1 := by
  rw [List.count_append, List.count_cons_self, List.count_eq_zero.mpr before,
    List.count_eq_zero.mpr inside]

end Pairs

/-- **A passage is a piece with an odd number that has a double quote behind it.** -/
theorem getElem?_passages (t : Text) (k : Nat) : (passages t)[k]? =
    if 2 * k + 1 < t.count '"' then (Text.cut '"' t)[2 * k + 1]? else none := by
  induction t using byPairs generalizing k with
  | unquoted t unquoted =>
    have few : ¬ 2 * k + 1 < t.count '"' := by
      rw [List.count_eq_zero.mpr unquoted]
      omega
    rw [passages_unquoted unquoted, if_neg few, List.getElem?_nil]
  | opened front rest before inside =>
    have few : ¬ 2 * k + 1 < (front ++ '"' :: rest).count '"' := by
      rw [count_opened before inside]
      omega
    rw [passages_opened before inside, if_neg few, List.getElem?_nil]
  | paired front passage back before inside ih =>
    rw [passages_append before inside, count_paired before inside, Text.cut_append_mark before,
      Text.cut_append_mark inside]
    cases k with
    | zero => rw [if_pos (by omega), List.getElem?_cons_zero, List.getElem?_cons_succ,
        List.getElem?_cons_zero]
    | succ k =>
      have shift : 2 * (k + 1) + 1 = 2 * k + 1 + 1 + 1 := by omega
      rw [List.getElem?_cons_succ, ih, shift, List.getElem?_cons_succ, List.getElem?_cons_succ]
      simp only [Nat.add_lt_add_iff_right]

/-- **There are half as many passages as double quotes.** -/
theorem length_passages (t : Text) : (passages t).length = t.count '"' / 2 := by
  induction t using byPairs with
  | unquoted t unquoted => rw [passages_unquoted unquoted, List.count_eq_zero.mpr unquoted]; rfl
  | opened front rest before inside =>
    rw [passages_opened before inside, count_opened before inside]
    rfl
  | paired front passage back before inside ih =>
    rw [passages_append before inside, count_paired before inside, List.length_cons, ih,
      Nat.add_div_right _ Nat.zero_lt_two]

/-! ### Scanning for passages -/

/-- The passage that stands at the start of a text, and what is behind its closing quote. -/
def passageAt? : Text → Option (Text × Text)
  | [] => none
  | c :: rest => if c = '"' then Text.cutFirst? '"' rest else none

theorem passageAt?_eq_some {t passage after : Text} : passageAt? t = some (passage, after) ↔
    t = '"' :: (passage ++ '"' :: after) ∧ '"' ∉ passage := by
  cases t with
  | nil => simp [passageAt?]
  | cons c rest =>
    rw [passageAt?]
    split
    · next same => rw [Text.cutFirst?_eq_some, same, List.cons_inj_right]
    · next different =>
      constructor
      · intro found
        cases found
      · rintro ⟨whole, -⟩
        exact absurd (List.head_eq_of_cons_eq whole) different

/-- A passage that stands at the start is the first one, and reading goes on behind it. -/
theorem passages_of_some {t passage after : Text} (found : passageAt? t = some (passage, after)) :
    passages t = passage :: passages after := by
  obtain ⟨rfl, inside⟩ := passageAt?_eq_some.mp found
  exact passages_append List.not_mem_nil inside after

/-- A place where no passage stands is passed over. -/
theorem passages_of_none {c : Char} {rest : Text} (silent : passageAt? (c :: rest) = none) :
    passages (c :: rest) = passages rest := by
  by_cases quote : c = '"'
  · subst quote
    have alone : '"' ∉ rest := by
      intro closed
      obtain ⟨passage, after, rfl, inside⟩ := List.eq_append_cons_of_mem closed
      rw [passageAt?_eq_some.mpr ⟨rfl, inside⟩] at silent
      cases silent
    rw [passages_unquoted alone, passages, passagesFrom, if_pos rfl, passagesFrom_unquoted alone]
  · rw [passages, passagesFrom, if_neg quote, passages]

/-- The scan of a text from left to right: at each place a passage is looked for, and the scan goes on
behind the passage, or at the next place where there is none. -/
inductive Scans : Text → List Text → Prop
  | done : Scans [] []
  | skip {c : Char} {rest : Text} {found : List Text} (silent : passageAt? (c :: rest) = none)
      (below : Scans rest found) : Scans (c :: rest) found
  | take {t passage after : Text} {found : List Text}
      (here : passageAt? t = some (passage, after)) (below : Scans after found) :
      Scans t (passage :: found)

/-- Every text is scanned to its end. -/
theorem scans_passages (t : Text) : Scans t (passages t) := by
  induction size : t.length using Nat.strongRecOn generalizing t with
  | _ n ih =>
    cases t with
    | nil => exact .done
    | cons c rest =>
      cases here : passageAt? (c :: rest) with
      | none =>
        rw [passages_of_none here]
        exact .skip here (ih rest.length (size ▸ Nat.lt_succ_self _) rest rfl)
      | some found =>
        obtain ⟨passage, after⟩ := found
        rw [passages_of_some here]
        refine .take here (ih after.length ?_ after rfl)
        have whole := congrArg List.length (passageAt?_eq_some.mp here).1
        simp only [List.length_append, List.length_cons] at whole size
        omega

/-- **The scan finds the passages**, and nothing else. -/
theorem scans_iff {t : Text} {found : List Text} : Scans t found ↔ found = passages t := by
  constructor
  · intro scans
    induction scans with
    | done => rfl
    | skip silent below ih => rw [passages_of_none silent, ih]
    | take here below ih => rw [passages_of_some here, ih]
  · rintro rfl
    exact scans_passages t

/-- **The first passage is the one at the first place where one stands.** -/
theorem firstPassage?_eq_firstAt (t : Text) :
    firstPassage? t = (Text.firstAt passageAt? t).map Prod.fst := by
  induction t with
  | nil => rfl
  | cons c rest ih =>
    rw [Text.firstAt, firstPassage?]
    cases here : passageAt? (c :: rest) with
    | none =>
      rw [passages_of_none here]
      exact ih
    | some found =>
      obtain ⟨passage, after⟩ := found
      rw [passages_of_some here]
      rfl

/-! ### Quoted texts in a row -/

/-- **Values in double quotes with texts between them are quoted one by one.** -/
theorem passages_row {front : Text} {row : List (Text × Text)} (before : '"' ∉ front)
    (each : ∀ pair ∈ row, '"' ∉ pair.1 ∧ '"' ∉ pair.2) :
    passages (front ++ row.flatMap fun pair => '"' :: (pair.1 ++ '"' :: pair.2)) =
      row.map Prod.fst := by
  induction row generalizing front with
  | nil => exact passages_unquoted (by rwa [List.flatMap_nil, List.append_nil])
  | cons pair row ih =>
    obtain ⟨here, below⟩ := List.forall_mem_cons.mp each
    rw [List.flatMap_cons, List.cons_append, List.append_assoc, List.cons_append,
      passages_append before here.1, ih here.2 below, List.map_cons]

/-- **Double quotes pair from left to right.** Of the pieces that a text is cut into at its double
quotes, one more than there are double quotes, its passages are those with an odd number less than the
last, in their order; there are half as many as double quotes. They are what a scan finds that goes on
behind each passage, and the first of them, or else the default, is what a search finds. Values without
double quotes that stand in double quotes with such texts between them are the passages of the text. -/
theorem passages_paired (t : Text) :
    (∀ k, (passages t)[k]? =
      if 2 * k + 1 < t.count '"' then (Text.cut '"' t)[2 * k + 1]? else none) ∧
    (Text.cut '"' t).length = t.count '"' + 1 ∧
    (passages t).length = t.count '"' / 2 ∧
    (∀ found, Scans t found ↔ found = passages t) ∧
    firstPassage? t = (Text.firstAt passageAt? t).map Prod.fst ∧
    (∀ default : Option Text,
      (firstPassage? t).or default = ((passages t).map some).headD default) ∧
    ∀ (front : Text) (row : List (Text × Text)), '"' ∉ front →
      (∀ pair ∈ row, '"' ∉ pair.1 ∧ '"' ∉ pair.2) →
      passages (front ++ row.flatMap fun pair => '"' :: (pair.1 ++ '"' :: pair.2)) =
        row.map Prod.fst := by
  refine ⟨getElem?_passages t, Text.length_cut '"' t, length_passages t, fun _ => scans_iff,
    firstPassage?_eq_firstAt t, fun default => ?_, fun front row => passages_row⟩
  rw [firstPassage?]
  cases passages t <;> rfl

/-- An empty passage and one that spans lines. -/
theorem passages_paired_lines :
    '"' ∉ ("in " : Text) ∧
    (∀ pair ∈ [(("" : Text), (" type " : Text)), ("a\nb", "")], '"' ∉ pair.1 ∧ '"' ∉ pair.2) ∧
    passages "in \"\" type \"a\nb\"" = ["".toList, "a\nb".toList] := by
  obtain ⟨-, -, -, -, -, -, row⟩ := passages_paired []
  refine ⟨by decide, by decide, ?_⟩
  exact row "in " [("", " type "), ("a\nb", "")] (by decide) (by decide)

end Scenarist.Literal
