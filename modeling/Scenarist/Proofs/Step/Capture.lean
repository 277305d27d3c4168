/-
**What is captured behind blanks.** Behind a word the runs of blanks are tried from the longest on.
What is captured holds no double quote (`not_mem_captured?`). Where nothing can be captured behind
the blanks (`Hollow`) a single blank leaves nothing, but of several the last one is captured itself
(`Takes.findSome?_eq_none`). So what is captured is blank not only where blanks are quoted, but also
behind several blanks (`findSome?_captured?_blank`).
-/

import Mathlib.Data.List.TakeWhile
import Scenarist.Proofs.Text.Search
import Scenarist.Step.Interpretation

namespace Scenarist.Step

/-- No character of the text but a blank. -/
def Blank (t : Text) : Prop := ∀ c ∈ t, Text.isBlank c = true

/-- The text does not start with a blank. -/
def Solid (t : Text) : Prop := ∀ c ∈ t.head?, Text.isBlank c = false

theorem blank_cons {c : Char} {t : Text} : Blank (c :: t) ↔ Text.isBlank c = true ∧ Blank t :=
  List.forall_mem_cons

/-! ### Blanks and what is behind them -/

/-- Every text is blanks and a text that does not start with one. -/
theorem exists_gap (t : Text) : ∃ gap rest, t = gap ++ rest ∧ Blank gap ∧ Solid rest := by
  refine ⟨t.takeWhile Text.isBlank, t.dropWhile Text.isBlank, List.takeWhile_append_dropWhile.symm,
    fun c => List.mem_takeWhile_imp, fun c first => ?_⟩
  have stopped := List.head?_dropWhile_not Text.isBlank t
  rw [Option.mem_def.mp first] at stopped
  exact stopped

/-- There is only one way to cut the blanks off. -/
theorem gap_unique {gap rest other more : Text} (same : gap ++ rest = other ++ more)
    (blank : Blank gap) (solid : Solid rest) (otherBlank : Blank other) (moreSolid : Solid more) :
    gap = other ∧ rest = more := by
  have dropped {gap rest : Text} (blank : Blank gap) (solid : Solid rest) :
      (gap ++ rest).dropWhile Text.isBlank = rest := by
    rw [List.dropWhile_append_of_pos blank]
    cases rest with
    | nil => rfl
    | cons c rest =>
      have stops : Text.isBlank c = false := solid c rfl
      rw [List.dropWhile_cons, stops]
      rfl
  have rests : rest = more := by
    rw [← dropped blank solid, same, dropped otherBlank moreSolid]
  subst rests
  exact ⟨List.append_cancel_right same, rfl⟩

/-- Where no blank is in front nothing is behind blanks. -/
theorem afterBlanks_eq_nil {t : Text} (solid : Solid t) : afterBlanks t = [] := by
  cases t with
  | nil => rfl
  | cons c t =>
    have solid : Text.isBlank c = false := solid c rfl
    rw [afterBlanks, solid]
    rfl

/-- The longest run of blanks is tried first. -/
theorem head?_afterBlanks {blanks t : Text} (spaced : blanks ≠ []) (blank : Blank blanks)
    (solid : Solid t) : (afterBlanks (blanks ++ t)).head? = some t := by
  induction blanks with
  | nil => exact absurd rfl spaced
  | cons c blanks ih =>
    rw [List.cons_append, afterBlanks, if_pos (blank c List.mem_cons_self), List.head?_append]
    cases blanks with
    | nil =>
      rw [List.nil_append, afterBlanks_eq_nil solid]
      rfl
    | cons d blanks =>
      rw [ih (List.cons_ne_nil d blanks) fun e member => blank e (List.mem_cons_of_mem c member)]
      rfl

section Tries

variable {look : Text → Option Text} {t : Text}

/-- What is found behind all blanks counts. -/
theorem findSome?_afterBlanks {blanks answer : Text} (spaced : blanks ≠ []) (blank : Blank blanks)
    (solid : Solid t) (found : look t = some answer) :
    (afterBlanks (blanks ++ t)).findSome? look = some answer := by
  obtain ⟨others, order⟩ := List.head?_eq_some_iff.mp (head?_afterBlanks spaced blank solid)
  rw [order, List.findSome?_cons, found]

/-- Behind a single blank there is one try. -/
theorem findSome?_afterBlanks_single {b : Char} (blank : Text.isBlank b = true) (solid : Solid t) :
    (afterBlanks (b :: t)).findSome? look = look t := by
  rw [afterBlanks, if_pos blank, afterBlanks_eq_nil solid, List.nil_append,
    List.findSome?_singleton]

/-- Behind several blanks the second try is behind all but the last of them. -/
theorem findSome?_afterBlanks_several {front answer : Text} {a b : Char}
    (blank : Blank (front ++ [a, b])) (solid : Solid t) (silent : look t = none)
    (found : look (b :: t) = some answer) :
    (afterBlanks (front ++ a :: b :: t)).findSome? look = some answer := by
  induction front with
  | nil =>
    have both := blank_cons.mp blank
    rw [List.nil_append, afterBlanks, if_pos both.1, List.findSome?_append,
      findSome?_afterBlanks_single (blank_cons.mp both.2).1 solid, silent, Option.none_or,
      List.findSome?_singleton, found]
  | cons c front ih =>
    have both := blank_cons.mp blank
    rw [List.cons_append, afterBlanks, if_pos both.1, List.findSome?_append, ih both.2]
    rfl

end Tries

/-! ### What is captured -/

/-- Nothing can be captured: the text ends, or a double quote ends it, or two double quotes stand
there with nothing between them. -/
def Hollow (t : Text) : Prop := t = [] ∨ t = ['"'] ∨ ∃ rest, t = '"' :: '"' :: rest

theorem hollow_cons {c : Char} {t : Text} :
    Hollow (c :: t) ↔ c = '"' ∧ ∀ d ∈ t.head?, d = '"' := by
  cases t with
  | nil => simp [Hollow]
  | cons d t => simp [Hollow]

/-- What is hollow does not start with a blank. -/
theorem Hollow.solid {t : Text} (hollow : Hollow t) : Solid t := by
  rcases hollow with rfl | rfl | ⟨rest, rfl⟩
  · rintro c ⟨⟩
  · rintro c ⟨⟩
    decide
  · rintro c ⟨⟩
    decide

/-- Up to a double quote, or to the end, that stands behind a text without one. -/
theorem takeWhile_unquoted {passage back : Text} (unquoted : '"' ∉ passage)
    (closed : ∀ c ∈ back.head?, c = '"') :
    (passage ++ back).takeWhile (· ≠ '"') = passage := by
  have whole : ∀ c ∈ passage, decide (c ≠ '"') = true := fun c member =>
    decide_eq_true fun same => unquoted (same ▸ member)
  rw [List.takeWhile_append_of_pos whole]
  cases back with
  | nil => rw [List.takeWhile_nil, List.append_nil]
  | cons d back =>
    rw [closed d rfl, List.takeWhile_cons_of_neg (by simp), List.append_nil]

/-- Behind a double quote the text is captured up to the next one. -/
theorem captured?_opened {passage back : Text} (filled : passage ≠ []) (unquoted : '"' ∉ passage)
    (closed : ∀ c ∈ back.head?, c = '"') :
    captured? ('"' :: (passage ++ back)) = some passage := by
  obtain ⟨c, more, rfl⟩ := List.exists_cons_of_ne_nil filled
  simp only [captured?, takeWhile_unquoted unquoted closed, Option.orElse_some]

/-- A passage in quotes is captured as it is. -/
theorem captured?_quoted {passage : Text} (back : Text) (filled : passage ≠ [])
    (closed : '"' ∉ passage) : captured? ('"' :: (passage ++ '"' :: back)) = some passage :=
  captured?_opened filled closed fun _ first => (Option.some_inj.mp first).symm

/-- Where no double quote is in front the text is captured up to the next one. -/
theorem captured?_open {c : Char} (other : c ≠ '"') (t : Text) :
    captured? (c :: t) = some (c :: t.takeWhile (· ≠ '"')) := by
  have kept : (c :: t).takeWhile (· ≠ '"') = c :: t.takeWhile (· ≠ '"') :=
    List.takeWhile_cons_of_pos (decide_eq_true other)
  unfold captured?
  split
  · next same => exact absurd (List.head_eq_of_cons_eq same) other
  · simp only [kept]

/-- **Nothing is captured exactly where the text is hollow.** -/
theorem captured?_eq_none {t : Text} : captured? t = none ↔ Hollow t := by
  cases t with
  | nil => exact ⟨fun _ => Or.inl rfl, fun _ => rfl⟩
  | cons c t =>
    rw [hollow_cons]
    by_cases quote : c = '"'
    · subst quote
      cases t with
      | nil => simp [captured?]
      | cons d t =>
        by_cases again : d = '"'
        · subst again
          simp [captured?]
        · simp [captured?, again]
    · simp [captured?_open quote, quote]

/-- A text is captured behind a double quote or from its start. -/
theorem captured?_cases {t passage : Text} (found : captured? t = some passage) :
    passage ≠ [] ∧ '"' ∉ passage ∧ ∃ back, (∀ c ∈ back.head?, c = '"') ∧
      (t = '"' :: (passage ++ back) ∨ (t = passage ++ back ∧ t.head? ≠ some '"')) := by
  have unquoted (t : Text) : '"' ∉ t.takeWhile (· ≠ '"') := fun member => by
    simpa using List.mem_takeWhile_imp member
  have closed (t : Text) : ∀ c ∈ (t.dropWhile (· ≠ '"')).head?, c = '"' := fun c first => by
    have stopped := List.head?_dropWhile_not (fun c => decide (c ≠ '"')) t
    rw [Option.mem_def.mp first] at stopped
    simpa using stopped
  cases t with
  | nil => cases found
  | cons c t =>
    by_cases quote : c = '"'
    · subst quote
      have filled : t.takeWhile (· ≠ '"') ≠ [] := by
        intro empty
        have hollow : Hollow ('"' :: t) := by
          refine hollow_cons.mpr ⟨rfl, fun d first => ?_⟩
          obtain ⟨rest, rfl⟩ := List.head?_eq_some_iff.mp first
          by_contra other
          simp [other] at empty
        rw [captured?_eq_none.mpr hollow] at found
        cases found
      have split : t = t.takeWhile (· ≠ '"') ++ t.dropWhile (· ≠ '"') :=
        List.takeWhile_append_dropWhile.symm
      have opened := captured?_opened filled (unquoted t) (closed t)
      rw [← split, found] at opened
      obtain rfl := Option.some_inj.mp opened
      exact ⟨filled, unquoted t, _, closed t, Or.inl (congrArg _ split)⟩
    · rw [captured?_open quote] at found
      obtain rfl := Option.some_inj.mp found
      refine ⟨List.cons_ne_nil _ _, ?_, t.dropWhile (· ≠ '"'), closed t, Or.inr ⟨?_, ?_⟩⟩
      · rw [List.mem_cons, not_or]
        exact ⟨Ne.symm quote, unquoted t⟩
      · rw [List.cons_append, List.takeWhile_append_dropWhile]
      · exact fun first => quote (Option.some_inj.mp first)

/-- What is captured holds no double quote. -/
theorem not_mem_captured? {t passage : Text} (found : captured? t = some passage) :
    '"' ∉ passage := (captured?_cases found).2.1

/-! ### When blanks are captured -/

/-- A way of looking takes whatever it can: it finds nothing only where the text is hollow, and a
blank if the text is hollow behind it. -/
structure Takes (look : Text → Option Text) : Prop where
  eq_none_iff : ∀ {t}, look t = none ↔ Hollow t
  blank : ∀ {b t}, Text.isBlank b = true → Hollow t → look (b :: t) = some [b]

theorem takes_captured? : Takes captured? where
  eq_none_iff := captured?_eq_none
  blank {b t} isBlank hollow := by
    have other : b ≠ '"' := by
      rintro rfl
      exact absurd isBlank (by decide)
    rw [captured?_open other]
    rcases hollow with rfl | rfl | ⟨rest, rfl⟩ <;> simp

namespace Takes

variable {look : Text → Option Text} (takes : Takes look) {gap rest : Text}
include takes

/-- Behind several blanks the last of them is found, if nothing is found behind all of them. -/
theorem findSome?_several (wide : 2 ≤ gap.length) (blank : Blank gap) (hollow : Hollow rest) :
    ∃ b, Text.isBlank b = true ∧ (afterBlanks (gap ++ rest)).findSome? look = some [b] := by
  obtain rfl | ⟨most, b, rfl⟩ := List.eq_nil_or_concat' gap
  · cases wide
  obtain rfl | ⟨front, a, rfl⟩ := List.eq_nil_or_concat' most
  · simp at wide
  have isBlank : Text.isBlank b = true := blank b (List.mem_append_right _ List.mem_cons_self)
  have shape : front ++ [a] ++ [b] = front ++ [a, b] := List.append_assoc _ _ _
  rw [shape] at blank ⊢
  refine ⟨b, isBlank, ?_⟩
  rw [List.append_assoc]
  exact findSome?_afterBlanks_several blank hollow.solid (takes.eq_none_iff.mpr hollow)
    (takes.blank isBlank hollow)

/-- **Nothing is found** where there is no blank, or a single one with nothing to find behind it. -/
theorem findSome?_eq_none (blank : Blank gap) (solid : Solid rest) :
    (afterBlanks (gap ++ rest)).findSome? look = none ↔
      gap = [] ∨ gap.length = 1 ∧ Hollow rest := by
  match gap with
  | [] => simp [afterBlanks_eq_nil solid]
  | [b] =>
    rw [List.singleton_append, findSome?_afterBlanks_single (blank_cons.mp blank).1 solid,
      takes.eq_none_iff]
    simp
  | a :: b :: more =>
    have wide : 2 ≤ (a :: b :: more).length := by simp
    have found : (afterBlanks (a :: b :: more ++ rest)).findSome? look ≠ none := by
      cases here : look rest with
      | some answer =>
        rw [findSome?_afterBlanks (List.cons_ne_nil a _) blank solid here]
        exact Option.some_ne_none _
      | none =>
        obtain ⟨c, -, found⟩ := takes.findSome?_several wide blank (takes.eq_none_iff.mp here)
        rw [found]
        exact Option.some_ne_none _
    refine iff_of_false found ?_
    rintro (empty | ⟨single, -⟩)
    · cases empty
    · simp at single

/-- **Blanks are found** behind several blanks with nothing to find behind them, and wherever blanks
are found behind all of them. -/
theorem findSome?_blank (blank : Blank gap) (solid : Solid rest) :
    (∃ answer, (afterBlanks (gap ++ rest)).findSome? look = some answer ∧ Blank answer) ↔
      2 ≤ gap.length ∧ Hollow rest ∨ gap ≠ [] ∧ ∃ answer, look rest = some answer ∧ Blank answer := by
  by_cases spaced : gap = []
  · subst spaced
    simp [afterBlanks_eq_nil solid]
  cases here : look rest with
  | some answer =>
    have filled : ¬ Hollow rest := fun hollow => by
      rw [takes.eq_none_iff.mpr hollow] at here
      cases here
    rw [findSome?_afterBlanks spaced blank solid here]
    simp [spaced, filled]
  | none =>
    have hollow := takes.eq_none_iff.mp here
    by_cases wide : 2 ≤ gap.length
    · obtain ⟨b, isBlank, found⟩ := takes.findSome?_several wide blank hollow
      rw [found]
      simp [wide, hollow, Blank, isBlank]
    · have single : gap.length = 1 := by
        have := List.length_pos_iff.mpr spaced
        omega
      rw [(takes.findSome?_eq_none blank solid).mpr (Or.inr ⟨single, hollow⟩)]
      simp [wide]

end Takes

/-- Blanks are quoted there: behind a double quote nothing but blanks stands up to the next one, or
to the end. -/
def QuotesBlanks (t : Text) : Prop :=
  ∃ inner back, t = '"' :: (inner ++ back) ∧ inner ≠ [] ∧ Blank inner ∧ ∀ c ∈ back.head?, c = '"'

/-- Behind blanks nothing is named, and yet something is captured: there are several blanks with
nothing to capture behind them, or blanks are quoted. -/
def Vacant (t : Text) : Prop :=
  ∃ gap rest, t = gap ++ rest ∧ Blank gap ∧
    (2 ≤ gap.length ∧ Hollow rest ∨ gap ≠ [] ∧ QuotesBlanks rest)

theorem QuotesBlanks.solid {t : Text} (quotes : QuotesBlanks t) : Solid t := by
  obtain ⟨inner, back, rfl, -⟩ := quotes
  rintro c ⟨⟩
  decide

theorem vacant_iff {gap rest : Text} (blank : Blank gap) (solid : Solid rest) :
    Vacant (gap ++ rest) ↔ 2 ≤ gap.length ∧ Hollow rest ∨ gap ≠ [] ∧ QuotesBlanks rest := by
  constructor
  · rintro ⟨other, more, same, otherBlank, either⟩
    have moreSolid : Solid more := by
      rcases either with ⟨-, hollow⟩ | ⟨-, quotes⟩
      · exact hollow.solid
      · exact quotes.solid
    obtain ⟨rfl, rfl⟩ := gap_unique same blank solid otherBlank moreSolid
    exact either
  · exact fun either => ⟨gap, rest, rfl, blank, either⟩

/-- From a text that does not start with a blank only quoted blanks are captured. -/
theorem captured?_blank {t : Text} (solid : Solid t) :
    (∃ passage, captured? t = some passage ∧ Blank passage) ↔ QuotesBlanks t := by
  constructor
  · rintro ⟨passage, found, blank⟩
    obtain ⟨filled, -, back, closed, rfl | ⟨rfl, -⟩⟩ := captured?_cases found
    · exact ⟨passage, back, rfl, filled, blank, closed⟩
    · obtain ⟨c, more, rfl⟩ := List.exists_cons_of_ne_nil filled
      have first : Text.isBlank c = false := solid c rfl
      rw [(blank_cons.mp blank).1] at first
      cases first
  · rintro ⟨inner, back, rfl, filled, blank, closed⟩
    refine ⟨inner, captured?_opened filled (fun member => ?_) closed, blank⟩
    exact absurd (blank _ member) (by decide)

/-- **Blanks are captured exactly where the text is vacant.** -/
theorem findSome?_captured?_blank {t : Text} :
    (∃ passage, (afterBlanks t).findSome? captured? = some passage ∧ Blank passage) ↔ Vacant t := by
  obtain ⟨gap, rest, rfl, blank, solid⟩ := exists_gap t
  rw [takes_captured?.findSome?_blank blank solid, vacant_iff blank solid, captured?_blank solid]

end Scenarist.Step
