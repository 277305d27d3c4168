/-
The search for the first place in a text that has an answer passes over the places that have none
(`firstAt_drop`). What is looked for stands mostly behind a word with a blank behind it (`Leads`).
Whether it does depends on the shapes of characters only, in which case and the kind of blank do not
count, so that a stretch of a text that clashes with each of the words is passed over whatever
stands behind it (`not_leads_of_clash`).
-/

import Mathlib.Data.List.Infix
import Scenarist.Proofs.Text.Pattern
import Scenarist.Text.Basic

namespace Scenarist.Text

/-! ### The first place that has an answer -/

section FirstAt

variable {α : Type} {look : Text → Option α}

/-- Places without an answer are passed over. -/
theorem firstAt_drop {t : Text} {n : Nat} (silent : ∀ place < n, look (t.drop place) = none) :
    firstAt look t = firstAt look (t.drop n) := by
  induction n generalizing t with
  | zero => rfl
  | succ n ih =>
    cases t with
    | nil => rfl
    | cons c t =>
      have here : look (c :: t) = none := silent 0 n.succ_pos
      rw [firstAt, here]
      exact ih fun place less => silent (place + 1) (Nat.succ_lt_succ less)

/-- An answer at the first place is the one that is found. -/
theorem firstAt_of_eq_some {t : Text} {answer : α} (found : look t = some answer) :
    firstAt look t = some answer := by
  cases t with
  | nil => exact found
  | cons c t =>
    rw [firstAt, found]
    rfl

/-- Nothing is found where no place has an answer. -/
theorem firstAt_eq_none {t : Text} (silent : ∀ place, look (t.drop place) = none) :
    firstAt look t = none := by
  have last := silent t.length
  rw [List.drop_length] at last
  rw [firstAt_drop fun place _ => silent place, t.drop_length]
  exact last

/-- **The answer that is found is that of the first place that has one.** -/
theorem firstAt_eq_some {t : Text} {answer : α} :
    firstAt look t = some answer ↔ ∃ place, look (t.drop place) = some answer ∧
      ∀ earlier < place, look (t.drop earlier) = none := by
  constructor
  · intro found
    induction t with
    | nil => exact ⟨0, found, fun _ less => absurd less (Nat.not_lt_zero _)⟩
    | cons c t ih =>
      rw [firstAt] at found
      cases here : look (c :: t) with
      | some other =>
        rw [here] at found
        exact ⟨0, here.trans found, fun _ less => absurd less (Nat.not_lt_zero _)⟩
      | none =>
        rw [here] at found
        obtain ⟨place, there, silent⟩ := ih found
        refine ⟨place + 1, there, fun earlier less => ?_⟩
        cases earlier with
        | zero => exact here
        | succ earlier => exact silent earlier (Nat.lt_of_succ_lt_succ less)
  · rintro ⟨place, found, silent⟩
    rw [firstAt_drop silent]
    exact firstAt_of_eq_some found

/-- Where nothing is found no place has an answer. -/
theorem firstAt_eq_none_iff {t : Text} :
    firstAt look t = none ↔ ∀ place, look (t.drop place) = none := by
  refine ⟨fun found place => ?_, firstAt_eq_none⟩
  induction t generalizing place with
  | nil => rwa [List.drop_nil]
  | cons c t ih =>
    rw [firstAt] at found
    cases here : look (c :: t) with
    | some answer =>
      rw [here] at found
      cases found
    | none =>
      rw [here] at found
      cases place with
      | zero => exact here
      | succ place => exact ih found place

end FirstAt

/-! ### Words before a blank -/

/-- The text starts with one of the words, up to case, and a blank behind it. -/
def Leads (words : List Text) (t : Text) : Prop :=
  ∃ word ∈ words, ∃ found blank rest, t = found ++ blank :: rest ∧ Alike word found ∧
    isBlank blank = true

/-- A text leads with one of the words when one of them is read off and a blank is behind it. -/
theorem leads_iff {words : List Text} {t : Text} :
    Leads words t ↔ ∃ word ∈ words, ((afterWord? word t).bind List.head?).any isBlank = true := by
  constructor
  · rintro ⟨word, member, found, blank, rest, rfl, alike, isBlank⟩
    refine ⟨word, member, ?_⟩
    rw [afterWord?_eq_some.mpr ⟨found, rfl, alike⟩]
    exact isBlank
  · rintro ⟨word, member, blank⟩
    obtain ⟨c, first, isBlank⟩ := (Option.any_eq_true _ _).mp blank
    obtain ⟨rest, follows, head⟩ := Option.bind_eq_some_iff.mp first
    obtain ⟨more, rfl⟩ := List.head?_eq_some_iff.mp head
    obtain ⟨found, rfl, alike⟩ := afterWord?_eq_some.mp follows
    exact ⟨word, member, found, c, more, rfl, alike, isBlank⟩

instance (words : List Text) (t : Text) : Decidable (Leads words t) :=
  decidable_of_iff _ leads_iff.symm

/-- A blank is no letter in any case. -/
theorem plain_of_isBlank {c : Char} (blank : isBlank c = true) : plain c = c := by
  by_contra other
  have letter : ('A' ≤ c ∧ c ≤ 'Z') ∨ c = 'ſ' ∨ c = '\u212A' ∨ c = '\u0131' ∨ c = '\u0130' := by
    rw [plain] at other
    split_ifs at other with capital longS kelvin oddI
    · exact Or.inl capital
    · exact Or.inr (Or.inl longS)
    · exact Or.inr (Or.inr (Or.inl kelvin))
    · exact Or.inr (Or.inr (Or.inr oddI))
    · exact absurd rfl other
  rcases letter with ⟨low, high⟩ | rfl | rfl | rfl | rfl
  · have low : 65 ≤ c.toNat := low
    have high : c.toNat ≤ 90 := high
    simp only [isBlank, CodeRanges.has, blankRanges, List.any_cons, List.any_nil, Bool.or_eq_true,
      Bool.and_eq_true, decide_eq_true_eq, Bool.or_false] at blank
    omega
  all_goals exact absurd blank (by decide)

/-- A character up to case, and a space for a blank of any kind. -/
def shape (c : Char) : Char := if isBlank (plain c) then ' ' else plain c

theorem shape_of_isBlank {c : Char} (blank : isBlank c = true) : shape c = ' ' := by
  rw [shape, plain_of_isBlank blank, if_pos blank]

/-- Texts that are alike have one shape. -/
theorem Alike.map_shape {word found : Text} (alike : Alike word found) :
    found.map shape = word.map shape := by
  have shapes (t : Text) : t.map shape = (t.map plain).map fun c => if isBlank c then ' ' else c := by
    rw [List.map_map]
    rfl
  rw [shapes, shapes, alike]

/-- The stretch differs from each of the words with a blank behind it before one of the two ends. -/
def Clashes (words : List Text) (stretch : Text) : Prop :=
  ∀ word ∈ words, ¬ stretch.map shape <+: word.map shape ++ [' '] ∧
    ¬ word.map shape ++ [' '] <+: stretch.map shape

instance (words : List Text) (stretch : Text) : Decidable (Clashes words stretch) :=
  inferInstanceAs (Decidable (∀ _ ∈ _, _))

/-- A text that starts with a stretch of a shape that clashes leads with none of the words. -/
theorem not_leads_of_clash {words : List Text} {stretch found rest : Text}
    (same : found.map shape = stretch.map shape) (clash : Clashes words stretch) :
    ¬ Leads words (found ++ rest) := by
  rintro ⟨word, member, start, blank, more, whole, alike, isBlank⟩
  have shapes := congrArg (List.map shape) whole
  rw [List.map_append, List.map_append, same, alike.map_shape, List.map_cons,
    shape_of_isBlank isBlank] at shapes
  have one : stretch.map shape <+: stretch.map shape ++ rest.map shape := List.prefix_append _ _
  have two : word.map shape ++ [' '] <+: stretch.map shape ++ rest.map shape :=
    ⟨more.map shape, by rw [shapes, List.append_assoc]; rfl⟩
  rcases List.prefix_or_prefix_of_prefix one two with within | within
  · exact (clash word member).1 within
  · exact (clash word member).2 within

/-! ### What stands behind words -/

/-- Of words of which none starts another the one that stands there is read. -/
theorem afterOneOf?_of_alike {words : List Text} {word found : Text}
    (apart : ∀ one ∈ words, ∀ other ∈ words, one.map plain <+: other.map plain → one = other)
    (member : word ∈ words) (alike : Alike word found) (rest : Text) :
    afterOneOf? words (found ++ rest) = some rest := by
  have follows : afterWord? word (found ++ rest) = some rest :=
    afterWord?_eq_some.mpr ⟨found, rfl, alike⟩
  cases read : afterOneOf? words (found ++ rest) with
  | none =>
    rw [List.findSome?_eq_none_iff.mp read word member] at follows
    cases follows
  | some other =>
    obtain ⟨first, among, reads⟩ := List.exists_of_findSome?_eq_some read
    obtain ⟨start, whole, likewise⟩ := afterWord?_eq_some.mp reads
    have one : word = first := by
      have here : found <+: found ++ rest := List.prefix_append _ _
      have there : start <+: found ++ rest := ⟨other, whole.symm⟩
      rcases List.prefix_or_prefix_of_prefix here there with within | within
      · exact apart word member first among (alike ▸ likewise ▸ within.map plain)
      · exact (apart first among word member (alike ▸ likewise ▸ within.map plain)).symm
    rw [← one, follows] at reads
    exact reads.symm

/-- Up to case the stretch differs from each of the words before one of the two ends. -/
def Differs (words : List Text) (stretch : Text) : Prop :=
  ∀ word ∈ words, ¬ stretch.map plain <+: word.map plain ∧ ¬ word.map plain <+: stretch.map plain

instance (words : List Text) (stretch : Text) : Decidable (Differs words stretch) :=
  inferInstanceAs (Decidable (∀ _ ∈ _, _))

/-- None of the words is read from a stretch that differs from them, whatever stands behind it. -/
theorem afterOneOf?_of_differs {words : List Text} {stretch found : Text}
    (alike : Alike stretch found) (differs : Differs words stretch) (rest : Text) :
    afterOneOf? words (found ++ rest) = none := by
  refine List.findSome?_eq_none_iff.mpr fun word member => ?_
  cases follows : afterWord? word (found ++ rest) with
  | none => rfl
  | some more =>
    obtain ⟨start, whole, likewise⟩ := afterWord?_eq_some.mp follows
    have here : found <+: found ++ rest := List.prefix_append _ _
    have there : start <+: found ++ rest := ⟨more, whole.symm⟩
    rcases List.prefix_or_prefix_of_prefix here there with within | within
    · exact absurd (alike ▸ likewise ▸ within.map plain) (differs word member).1
    · exact absurd (alike ▸ likewise ▸ within.map plain) (differs word member).2

/-- What has to stand behind a blank is not found where no word leads. -/
theorem afterOneOf?_bind_eq_none {α : Type} {words : List Text} {read : Text → Option α} {t : Text}
    (unread : ∀ rest, (∀ c ∈ rest.head?, isBlank c = false) → read rest = none)
    (absent : ¬ Leads words t) : (afterOneOf? words t).bind read = none := by
  cases follows : afterOneOf? words t with
  | none => rfl
  | some rest =>
    refine unread rest fun c first => ?_
    obtain ⟨word, member, here⟩ := List.exists_of_findSome?_eq_some follows
    refine Bool.eq_false_iff.mpr fun blank => absent (leads_iff.mpr ⟨word, member, ?_⟩)
    have head : rest.head? = some c := first
    rw [here, Option.bind_some, head]
    exact blank

end Scenarist.Text
