/-
The laws of cutting and stripping. A text cut at a mark falls into pieces without the mark, and
lines that each end with the mark are cut into themselves and an empty rest. A stripped text is one
with no blank at either end.
-/

import Mathlib.Data.List.DropRight
import Scenarist.Text.Basic

namespace Scenarist.Text

/-! ### Leads -/

/-- A lead is followed by the rest exactly when the text is the two in a row. -/
theorem afterLead?_eq_some {lead t rest : Text} :
    afterLead? lead t = some rest ↔ t = lead ++ rest := by
  induction lead generalizing t with
  | nil => simp [afterLead?, eq_comm]
  | cons l lead ih =>
    cases t with
    | nil => simp [afterLead?]
    | cons c t =>
      by_cases same : l = c
      · simp [afterLead?, same, ih]
      · simp [afterLead?, same, Ne.symm same]

@[simp] theorem afterLead?_append (lead rest : Text) : afterLead? lead (lead ++ rest) = some rest :=
  afterLead?_eq_some.mpr rfl

theorem startsWith_iff {t lead : Text} : startsWith t lead = true ↔ lead <+: t :=
  List.isPrefixOf_iff_prefix

/-- A text without a lead does not start with it. -/
theorem afterLead?_eq_none {lead t : Text} :
    afterLead? lead t = none ↔ startsWith t lead = false := by
  rw [← Bool.not_eq_true, startsWith_iff, Option.eq_none_iff_forall_ne_some]
  constructor
  · rintro absent ⟨rest, rfl⟩
    exact absent rest (afterLead?_append lead rest)
  · intro absent rest found
    exact absent ⟨rest, (afterLead?_eq_some.mp found).symm⟩

/-- A text has a rest behind a lead exactly when it starts with the lead. -/
theorem isSome_afterLead? (lead t : Text) : (afterLead? lead t).isSome = startsWith t lead := by
  cases found : afterLead? lead t with
  | none => exact (afterLead?_eq_none.mp found).symm
  | some rest => exact (startsWith_iff.mpr ⟨rest, (afterLead?_eq_some.mp found).symm⟩).symm

/-! ### Cutting -/

/-- A character other than the mark belongs to the first piece. -/
theorem cut_cons_of_ne {mark c : Char} {t piece : Text} {pieces : List Text} (different : c ≠ mark)
    (first : cut mark t = piece :: pieces) : cut mark (c :: t) = (c :: piece) :: pieces := by
  rw [cut, if_neg different, first]

/-- A piece without the mark stands before the first mark. -/
theorem cut_append_mark {mark : Char} {piece : Text} (unmarked : mark ∉ piece) (rest : Text) :
    cut mark (piece ++ mark :: rest) = piece :: cut mark rest := by
  induction piece with
  | nil => simp [cut]
  | cons c piece ih =>
    have different : c ≠ mark := fun same => unmarked (same ▸ List.mem_cons_self)
    have below : mark ∉ piece := fun member => unmarked (List.mem_cons_of_mem _ member)
    exact cut_cons_of_ne different (ih below)

/-- A text without the mark is its own only piece. -/
theorem cut_eq_singleton {mark : Char} {t : Text} (unmarked : mark ∉ t) : cut mark t = [t] := by
  induction t with
  | nil => rfl
  | cons c t ih =>
    have different : c ≠ mark := fun same => unmarked (same ▸ List.mem_cons_self)
    have below : mark ∉ t := fun member => unmarked (List.mem_cons_of_mem _ member)
    exact cut_cons_of_ne different (ih below)

theorem cut_ne_nil (mark : Char) (t : Text) : cut mark t ≠ [] := by
  cases t with
  | nil => simp [cut]
  | cons c t =>
    rw [cut]
    split
    · simp
    · split <;> simp

/-- A text is cut at each of its marks. -/
theorem cut_append (mark : Char) (t rest : Text) :
    cut mark (t ++ mark :: rest) = cut mark t ++ cut mark rest := by
  induction t with
  | nil => simp [cut]
  | cons c t ih =>
    rw [List.cons_append, cut, cut, ih]
    obtain ⟨piece, pieces, first⟩ := List.exists_cons_of_ne_nil (cut_ne_nil mark t)
    rw [first]
    split <;> rfl

/-- What stands before a text without being cut belongs to its first piece. -/
theorem cut_prepend {mark : Char} {lead t piece : Text} {pieces : List Text}
    (unmarked : mark ∉ lead) (first : cut mark t = piece :: pieces) :
    cut mark (lead ++ t) = (lead ++ piece) :: pieces := by
  induction lead with
  | nil => exact first
  | cons c lead ih =>
    rw [List.mem_cons, not_or] at unmarked
    exact cut_cons_of_ne (Ne.symm unmarked.1) (ih unmarked.2)

/-- A text has one piece more than marks. -/
theorem length_cut (mark : Char) (t : Text) : (cut mark t).length = t.count mark + 1 := by
  induction t with
  | nil => rfl
  | cons c t ih =>
    rw [cut]
    split
    · next same => rw [List.length_cons, ih, same, List.count_cons_self]
    · next different =>
      obtain ⟨piece, pieces, first⟩ := List.exists_cons_of_ne_nil (cut_ne_nil mark t)
      rw [first] at ih ⊢
      rw [List.count_cons_of_ne different, ← ih]
      rfl

/-- Lines that each end with the mark are cut one by one, and an empty rest is left. -/
theorem cut_ended (mark : Char) (lines : List Text) :
    cut mark (lines.flatMap fun line => line ++ [mark]) = lines.flatMap (cut mark) ++ [[]] := by
  induction lines with
  | nil => rfl
  | cons line lines ih =>
    rw [List.flatMap_cons, List.append_assoc, List.singleton_append, cut_append, ih,
      List.flatMap_cons, List.append_assoc]

/-- **Lines that each end with the mark are cut into themselves and an empty rest.** -/
theorem cut_lines {mark : Char} {lines : List Text} (unmarked : ∀ line ∈ lines, mark ∉ line) :
    cut mark (lines.flatMap fun line => line ++ [mark]) = lines ++ [[]] := by
  rw [cut_ended, List.flatMap_congr fun line member => cut_eq_singleton (unmarked line member),
    List.flatMap_singleton']

/-- The texts before and behind the first mark. -/
theorem cutFirst?_eq_some {mark : Char} {t before after : Text} :
    cutFirst? mark t = some (before, after) ↔ t = before ++ mark :: after ∧ mark ∉ before := by
  constructor
  · intro found
    induction t generalizing before with
    | nil => cases found
    | cons c t ih =>
      rw [cutFirst?] at found
      split at found
      · next same =>
        obtain ⟨rfl, rfl⟩ := Prod.mk.inj (Option.some_inj.mp found)
        exact ⟨congrArg (· :: t) same, List.not_mem_nil⟩
      · next different =>
        obtain ⟨⟨front, back⟩, below, whole⟩ := Option.map_eq_some_iff.mp found
        obtain ⟨rfl, rfl⟩ := Prod.mk.inj whole
        obtain ⟨rfl, unmarked⟩ := ih below
        exact ⟨rfl, List.not_mem_cons_of_ne_of_not_mem (Ne.symm different) unmarked⟩
  · rintro ⟨rfl, unmarked⟩
    induction before with
    | nil => rw [List.nil_append, cutFirst?, if_pos rfl]
    | cons c before ih =>
      rw [List.mem_cons, not_or] at unmarked
      rw [List.cons_append, cutFirst?, if_neg (Ne.symm unmarked.1), ih unmarked.2]
      rfl

/-- Texts in a row with the mark between them are cut one by one. -/
theorem cut_joined {mark : Char} {row : List Text} (present : row ≠ []) :
    cut mark (joined [mark] row) = row.flatMap (cut mark) := by
  induction row with
  | nil => exact absurd rfl present
  | cons t row ih =>
    cases row with
    | nil => simp [joined]
    | cons next more =>
      have apart : joined [mark] (t :: next :: more) = t ++ mark :: joined [mark] (next :: more) := by
        simp [joined]
      rw [apart, cut_append, ih (by simp)]
      rfl

/-- The pieces in a row with the mark between them are the text. -/
theorem joined_cut (mark : Char) (t : Text) : joined [mark] (cut mark t) = t := by
  induction t with
  | nil => rfl
  | cons c t ih =>
    obtain ⟨piece, pieces, first⟩ := List.exists_cons_of_ne_nil (cut_ne_nil mark t)
    rw [first] at ih
    rw [cut, first]
    split
    · next same => simp [joined, ih, same]
    · cases pieces with
      | nil => simpa [joined] using ih
      | cons next more => simpa [joined] using ih

/-- No piece has the mark in it. -/
theorem not_mem_of_mem_cut {mark : Char} {t piece : Text} (member : piece ∈ cut mark t) :
    mark ∉ piece := by
  induction t generalizing piece with
  | nil =>
    rw [cut, List.mem_singleton] at member
    simp [member]
  | cons c t ih =>
    rw [cut] at member
    split at member
    · rcases List.mem_cons.mp member with rfl | member
      · simp
      · exact ih member
    · next different =>
      split at member
      · rw [List.mem_singleton] at member
        simp [member, Ne.symm different]
      · next first pieces cutRest =>
        rcases List.mem_cons.mp member with rfl | member
        · have below : mark ∉ first := ih (by rw [cutRest]; exact List.mem_cons_self)
          simp [below, Ne.symm different]
        · exact ih (by rw [cutRest]; exact List.mem_cons_of_mem _ member)

/-! ### Stripping -/

theorem dropEnd_eq_rdropWhile (drop : Char → Bool) (t : Text) :
    dropEnd drop t = t.rdropWhile drop := by
  induction t with
  | nil => rfl
  | cons c t ih =>
    rw [dropEnd, ih, List.rdropWhile, List.rdropWhile, List.reverse_cons, List.dropWhile_append]
    cases kept : t.reverse.dropWhile drop with
    | nil => by_cases dropped : drop c = true <;> simp [dropped]
    | cons d more =>
      cases shown : (d :: more).reverse with
      | nil => simp at shown
      | cons e others => simp [← shown]

theorem trim_eq (drop : Char → Bool) (t : Text) :
    trim drop t = (t.dropWhile drop).rdropWhile drop :=
  dropEnd_eq_rdropWhile drop _

/-- What trimming leaves is a part of the text. -/
theorem mem_of_mem_trim {drop : Char → Bool} {t : Text} {c : Char} (member : c ∈ trim drop t) :
    c ∈ t := by
  rw [trim_eq] at member
  exact (List.dropWhile_sublist drop).subset ((List.rdropWhile_prefix drop _).subset member)

/-- Neither end of a trimmed text is to be dropped. -/
theorem trim_ends (drop : Char → Bool) (t : Text) :
    (∀ c ∈ (trim drop t).head?, drop c = false) ∧
      ∀ c ∈ (trim drop t).getLast?, drop c = false := by
  rw [trim_eq]
  constructor
  · intro c first
    have atHead := List.head?_dropWhile_not drop t
    obtain ⟨more, whole⟩ := List.rdropWhile_prefix drop (t.dropWhile drop)
    rw [← whole, List.head?_append_of_ne_nil, first] at atHead
    · exact atHead
    · rintro empty
      rw [empty] at first
      cases first
  · intro c last
    have nonempty : (t.dropWhile drop).rdropWhile drop ≠ [] := by
      rintro empty
      rw [empty] at last
      cases last
    rw [List.getLast?_eq_some_getLast nonempty] at last
    cases last
    simpa using List.rdropWhile_last_not drop (t.dropWhile drop) nonempty

/-- **A text is trimmed when neither end is to be dropped.** -/
theorem trim_eq_self_iff {drop : Char → Bool} {t : Text} :
    trim drop t = t ↔ (∀ c ∈ t.head?, drop c = false) ∧ ∀ c ∈ t.getLast?, drop c = false := by
  constructor
  · intro trimmed
    have ends := trim_ends drop t
    rwa [trimmed] at ends
  · rintro ⟨first, last⟩
    have front : t.dropWhile drop = t := by
      cases t with
      | nil => rfl
      | cons c rest => simp [first c rfl]
    rw [trim_eq, front, List.rdropWhile_eq_self_iff]
    intro nonempty
    simp [last _ (List.getLast?_eq_some_getLast nonempty)]

/-- Trimming twice is trimming once. -/
@[simp] theorem trim_trim (drop : Char → Bool) (t : Text) :
    trim drop (trim drop t) = trim drop t :=
  trim_eq_self_iff.mpr (trim_ends drop t)

/-- A blank at the start is stripped off. -/
theorem strip_cons_blank {c : Char} (blank : isBlank c = true) (t : Text) :
    strip (c :: t) = strip t := by
  simp [strip, trim, blank]

/-- Blanks at the two ends are stripped off. -/
theorem strip_pad {front back : Text} (before : ∀ c ∈ front, isBlank c = true)
    (behind : ∀ c ∈ back, isBlank c = true) (t : Text) : strip (front ++ t ++ back) = strip t := by
  have gone : back.dropWhile isBlank = [] := List.dropWhile_eq_nil_iff.mpr behind
  rw [strip, strip, trim_eq, trim_eq, List.append_assoc, List.dropWhile_append_of_pos before,
    List.dropWhile_append]
  split
  · next blank =>
    rw [gone, List.isEmpty_iff.mp blank]
  · rw [List.rdropWhile, List.rdropWhile, List.reverse_append,
      List.dropWhile_append_of_pos (by simpa using behind)]

/-- Nothing but blanks is stripped off. -/
theorem exists_pad (t : Text) : ∃ front back : Text,
    (∀ c ∈ front, isBlank c = true) ∧ (∀ c ∈ back, isBlank c = true) ∧
      t = front ++ strip t ++ back := by
  refine ⟨t.takeWhile isBlank, ((t.dropWhile isBlank).reverse.takeWhile isBlank).reverse,
    fun c => List.mem_takeWhile_imp, fun c member => ?_, ?_⟩
  · exact List.mem_takeWhile_imp (List.mem_reverse.mp member)
  · rw [strip, trim_eq, List.rdropWhile, List.append_assoc, ← List.reverse_append,
      List.takeWhile_append_dropWhile, List.reverse_reverse, List.takeWhile_append_dropWhile]

/-! ### Texts that are a line of their own -/

/-- No line feed is in the text and no blank is at its ends. -/
def IsLine (t : Text) : Prop := '\n' ∉ t ∧ strip t = t

theorem isLine_nil : IsLine [] := ⟨by simp, rfl⟩

/-- A stripped text without a line feed is a line. -/
theorem isLine_strip {t : Text} (unbroken : '\n' ∉ t) : IsLine (strip t) :=
  ⟨fun member => unbroken (mem_of_mem_trim member), trim_trim _ _⟩

/-- Lines stay one line when they are set in a row with a text between them that breaks no line. -/
theorem IsLine.append {first last : Text} (one : IsLine first) (two : IsLine last)
    (begun : first ≠ []) (ended : last ≠ []) (between : Text) (unbroken : '\n' ∉ between) :
    IsLine (first ++ between ++ last) := by
  obtain ⟨firstUnbroken, firstStripped⟩ := one
  obtain ⟨lastUnbroken, lastStripped⟩ := two
  refine ⟨by simp [firstUnbroken, lastUnbroken, unbroken], ?_⟩
  rw [strip, trim_eq_self_iff] at firstStripped lastStripped ⊢
  constructor
  · rw [List.append_assoc, List.head?_append_of_ne_nil _ begun]
    exact firstStripped.1
  · rw [List.getLast?_append_of_ne_nil _ ended]
    exact lastStripped.2

end Scenarist.Text
