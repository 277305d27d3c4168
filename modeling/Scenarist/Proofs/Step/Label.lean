/-
**What a click is labelled.** A label that is quoted behind the word of a click is the label, without
the blanks around it, and no label holds a double quote or has a blank at its ends
(`actions_click`). The label is looked for up to the first place at which one is read, and a blank
one counts (`label?_blank`): the step that leaves its click unlabelled (`Unlabelled`) is one in which
only blanks can be read behind the word, or behind the article, at that place. No label is read
where a single blank with nothing behind it follows each word of a click (`label?_eq_none`).
-/

import Scenarist.Proofs.Step.Capture
import Scenarist.Proofs.Text.Lines

namespace Scenarist.Step

open Text (Alike Leads)

/-! ### Behind the blanks -/

/-- The article that a label may have in front. -/
def article : Text := "the"

/-- What is named behind the blanks, with the article passed over if there is one. -/
def named? (rest : Text) : Option Text :=
  let afterArticle : List Text := match Text.afterWord? article rest with
    | some more => afterBlanks more
    | none => []
  (afterArticle ++ [rest]).findSome? captured?

theorem labelAfter?_eq (t : Text) : labelAfter? t = (afterBlanks t).findSome? named? := rfl

/-- Without an article what stands there is captured. -/
theorem named?_plain {rest : Text} (plain : Text.afterWord? article rest = none) :
    named? rest = captured? rest := by
  rw [named?, plain]
  exact List.findSome?_singleton

/-- Behind an article what stands behind it is captured, and otherwise what stands there with it. -/
theorem named?_article {rest more : Text} (follows : Text.afterWord? article rest = some more) :
    named? rest = ((afterBlanks more).findSome? captured?).or (captured? rest) := by
  rw [named?, follows]
  show (afterBlanks more ++ [rest]).findSome? captured? = _
  rw [List.findSome?_append, List.findSome?_singleton]

theorem plain_ne_of_isBlank {b : Char} (blank : Text.isBlank b = true) : Text.plain b ≠ 't' := by
  rw [Text.plain_of_isBlank blank]
  rintro rfl
  exact absurd blank (by decide)

/-- What starts with another letter starts with no article. -/
theorem afterWord?_article {c : Char} (other : Text.plain c ≠ 't') (t : Text) :
    Text.afterWord? article (c :: t) = none := if_neg other

/-- An article starts with a letter. -/
theorem exists_letter {found : Text} (alike : Alike article found) :
    ∃ c t, found = c :: t ∧ Text.plain c = 't' := by
  obtain ⟨c, t, rfl, first, -⟩ := List.map_eq_cons_iff.mp alike
  exact ⟨c, t, rfl, first⟩

/-- An article is no blank. -/
theorem solid_article {found : Text} (alike : Alike article found) (rest : Text) :
    Solid (found ++ rest) := by
  obtain ⟨c, t, rfl, letter⟩ := exists_letter alike
  rintro d ⟨⟩
  exact Bool.eq_false_iff.mpr fun blank => plain_ne_of_isBlank blank letter

/-- From an article on more than blanks is captured. -/
theorem captured?_article {rest more : Text} (follows : Text.afterWord? article rest = some more) :
    ∃ passage, captured? rest = some passage ∧ ¬ Blank passage := by
  obtain ⟨found, rfl, alike⟩ := Text.afterWord?_eq_some.mp follows
  obtain ⟨c, t, rfl, letter⟩ := exists_letter alike
  have unquoted : c ≠ '"' := by
    rintro rfl
    exact absurd letter (by decide)
  refine ⟨_, captured?_open unquoted (t ++ more), fun blank => ?_⟩
  exact plain_ne_of_isBlank (blank_cons.mp blank).1 letter

theorem takes_named? : Takes named? where
  eq_none_iff {t} := by
    rw [← captured?_eq_none]
    cases follows : Text.afterWord? article t with
    | none => rw [named?_plain follows]
    | some more =>
      obtain ⟨passage, found, -⟩ := captured?_article follows
      rw [named?_article follows, found]
      simp
  blank {b t} isBlank hollow := by
    rw [named?_plain (afterWord?_article (plain_ne_of_isBlank isBlank) t)]
    exact takes_captured?.blank isBlank hollow

/-! ### Behind the word of a click -/

/-- Behind the word of a click there is no label but blanks: behind its blanks, or behind an article
and the blanks there. -/
def Unnamed (behind : Text) : Prop :=
  Vacant behind ∨ ∃ gap found rest, behind = gap ++ (found ++ rest) ∧ gap ≠ [] ∧ Blank gap ∧
    Alike article found ∧ Vacant rest

/-- Blanks are named behind all blanks when they are quoted there, or captured behind an article. -/
theorem named?_blank {rest : Text} (solid : Solid rest) :
    (∃ passage, named? rest = some passage ∧ Blank passage) ↔
      QuotesBlanks rest ∨ ∃ found more, rest = found ++ more ∧ Alike article found ∧ Vacant more := by
  cases follows : Text.afterWord? article rest with
  | none =>
    have absent : ¬ ∃ found more, rest = found ++ more ∧ Alike article found ∧ Vacant more := by
      rintro ⟨found, more, whole, alike, -⟩
      rw [Text.afterWord?_eq_some.mpr ⟨found, whole, alike⟩] at follows
      cases follows
    rw [named?_plain follows, captured?_blank solid, or_iff_left absent]
  | some more =>
    obtain ⟨passage, found, unlike⟩ := captured?_article follows
    have unquoted : ¬ QuotesBlanks rest := fun quotes => by
      obtain ⟨other, same, blank⟩ := (captured?_blank solid).mpr quotes
      rw [found] at same
      exact unlike (Option.some_inj.mp same ▸ blank)
    have behind : (∃ first last, rest = first ++ last ∧ Alike article first ∧ Vacant last) ↔
        Vacant more := by
      constructor
      · rintro ⟨first, last, whole, alike, vacant⟩
        rw [Text.afterWord?_eq_some.mpr ⟨first, whole, alike⟩] at follows
        exact Option.some_inj.mp follows ▸ vacant
      · intro vacant
        obtain ⟨first, whole, alike⟩ := Text.afterWord?_eq_some.mp follows
        exact ⟨first, more, whole, alike, vacant⟩
    rw [or_iff_right unquoted, behind, ← findSome?_captured?_blank, named?_article follows, found]
    cases (afterBlanks more).findSome? captured? with
    | some answer => simp
    | none => simp [unlike]

/-- **A blank label is read exactly where nothing is named.** -/
theorem labelAfter?_blank {behind : Text} :
    (∃ passage, labelAfter? behind = some passage ∧ Blank passage) ↔ Unnamed behind := by
  obtain ⟨gap, rest, rfl, blank, solid⟩ := exists_gap behind
  have articled : (∃ before found last, gap ++ rest = before ++ (found ++ last) ∧ before ≠ [] ∧
      Blank before ∧ Alike article found ∧ Vacant last) ↔
      gap ≠ [] ∧ ∃ found last, rest = found ++ last ∧ Alike article found ∧ Vacant last := by
    constructor
    · rintro ⟨before, found, last, same, spaced, beforeBlank, alike, vacant⟩
      obtain ⟨rfl, rfl⟩ := gap_unique same blank solid beforeBlank (solid_article alike last)
      exact ⟨spaced, found, last, rfl, alike, vacant⟩
    · rintro ⟨spaced, found, last, rfl, alike, vacant⟩
      exact ⟨gap, found, last, rfl, spaced, blank, alike, vacant⟩
  rw [labelAfter?_eq, takes_named?.findSome?_blank blank solid, named?_blank solid, Unnamed,
    vacant_iff blank solid, articled, and_or_left, or_assoc]

/-- No label is read where no blank stands, or a single one with nothing to read behind it. -/
theorem labelAfter?_eq_none {behind : Text} :
    labelAfter? behind = none ↔
      ∀ b rest, behind = b :: rest → Text.isBlank b = true → Hollow rest := by
  obtain ⟨gap, rest, rfl, blank, solid⟩ := exists_gap behind
  rw [labelAfter?_eq, takes_named?.findSome?_eq_none blank solid]
  constructor
  · rintro (rfl | ⟨single, hollow⟩) b t whole isBlank
    · rw [List.nil_append] at whole
      subst whole
      have begun : Text.isBlank b = false := solid b rfl
      rw [isBlank] at begun
      cases begun
    · obtain ⟨c, rfl⟩ := List.length_eq_one_iff.mp single
      obtain ⟨-, rfl⟩ := List.cons_eq_cons.mp whole
      exact hollow
  · intro silent
    cases gap with
    | nil => exact Or.inl rfl
    | cons b gap =>
      have hollow : Hollow (gap ++ rest) := silent b _ rfl (blank_cons.mp blank).1
      cases gap with
      | nil => exact Or.inr ⟨rfl, hollow⟩
      | cons c gap =>
        have solid : Text.isBlank c = false := hollow.solid c rfl
        rw [(blank_cons.mp (blank_cons.mp blank).2).1] at solid
        cases solid

/-! ### The place at which the label is read -/

/-- The words that a label is looked for behind. -/
def clickWords : List Text := ["click", "press"]

/-- The label behind a word at the start of a text. -/
def labelAt? (here : Text) : Option Text :=
  (Text.afterOneOf? clickWords here).bind labelAfter?

theorem label?_eq_firstAt (step : Text) : label? step = Text.firstAt labelAt? step := rfl

theorem clickWords_apart : ∀ one ∈ clickWords, ∀ other ∈ clickWords,
    one.map Text.plain <+: other.map Text.plain → one = other := by decide

/-- Behind a word the label is read behind it. -/
theorem labelAt?_word {word found : Text} (member : word ∈ clickWords) (alike : Alike word found)
    (behind : Text) : labelAt? (found ++ behind) = labelAfter? behind := by
  rw [labelAt?, Text.afterOneOf?_of_alike clickWords_apart member alike, Option.bind_some]

/-- Where something is read a word stands, and it is read behind that. -/
theorem exists_of_labelAt? {here passage : Text} (found : labelAt? here = some passage) :
    ∃ word ∈ clickWords, ∃ start behind, here = start ++ behind ∧ Alike word start ∧
      labelAfter? behind = some passage := by
  obtain ⟨behind, follows, reads⟩ := Option.bind_eq_some_iff.mp found
  obtain ⟨word, member, after⟩ := List.exists_of_findSome?_eq_some follows
  obtain ⟨start, whole, alike⟩ := Text.afterWord?_eq_some.mp after
  exact ⟨word, member, start, behind, whole, alike, reads⟩

/-- No label stands at the start of the text: if a word of a click is there with a blank behind it,
then nothing to read is behind that blank. -/
def Silent (here : Text) : Prop :=
  ∀ word ∈ clickWords, ∀ found b rest, here = found ++ b :: rest → Alike word found →
    Text.isBlank b = true → Hollow rest

theorem labelAt?_eq_none {here : Text} : labelAt? here = none ↔ Silent here := by
  constructor
  · rintro silent word member found b rest rfl alike blank
    rw [labelAt?_word member alike, labelAfter?_eq_none] at silent
    exact silent b rest rfl blank
  · intro silent
    cases follows : Text.afterOneOf? clickWords here with
    | none => rw [labelAt?, follows, Option.bind_none]
    | some behind =>
      obtain ⟨word, member, after⟩ := List.exists_of_findSome?_eq_some follows
      obtain ⟨start, rfl, alike⟩ := Text.afterWord?_eq_some.mp after
      rw [labelAt?_word member alike, labelAfter?_eq_none]
      rintro b rest rfl blank
      exact silent word member start b rest rfl alike blank

/-- **No label is read** in a step in which none stands at any place. -/
theorem label?_eq_none {step : Text} :
    label? step = none ↔ ∀ place, Silent (step.drop place) := by
  rw [label?_eq_firstAt, Text.firstAt_eq_none_iff]
  exact forall_congr' fun place => labelAt?_eq_none

/-- The step leaves its click without a label: at the first place at which one is read, nothing is
named behind the word. -/
def Unlabelled (step : Text) : Prop :=
  ∃ place, (∀ earlier < place, Silent (step.drop earlier)) ∧ ∃ word ∈ clickWords, ∃ found behind,
    step.drop place = found ++ behind ∧ Alike word found ∧ Unnamed behind

/-- **A blank label is read exactly in a step that leaves its click without one.** -/
theorem label?_blank {step : Text} :
    (∃ passage, label? step = some passage ∧ Blank passage) ↔ Unlabelled step := by
  simp only [label?_eq_firstAt, Text.firstAt_eq_some, labelAt?_eq_none]
  constructor
  · rintro ⟨passage, ⟨place, reads, silent⟩, blank⟩
    obtain ⟨word, member, found, behind, whole, alike, here⟩ := exists_of_labelAt? reads
    exact ⟨place, silent, word, member, found, behind, whole, alike,
      labelAfter?_blank.mp ⟨passage, here, blank⟩⟩
  · rintro ⟨place, silent, word, member, found, behind, whole, alike, unnamed⟩
    obtain ⟨passage, here, blank⟩ := labelAfter?_blank.mpr unnamed
    refine ⟨passage, ⟨place, ?_, silent⟩, blank⟩
    rw [whole, labelAt?_word member alike]
    exact here

/-- No label that is read holds a double quote. -/
theorem not_mem_label? {step passage : Text} (found : label? step = some passage) :
    '"' ∉ passage := by
  rw [label?_eq_firstAt, Text.firstAt_eq_some] at found
  obtain ⟨place, reads, -⟩ := found
  obtain ⟨-, -, -, behind, -, -, here⟩ := exists_of_labelAt? reads
  rw [labelAfter?_eq] at here
  obtain ⟨rest, -, names⟩ := List.exists_of_findSome?_eq_some here
  obtain ⟨t, -, captured⟩ := List.exists_of_findSome?_eq_some names
  exact not_mem_captured? captured

/-! ### Quoted labels -/

/-- A step quotes a label: behind a word of a click, found up to case, there are blanks, perhaps an
article with blanks, and a passage between two double quotes, not empty. -/
structure QuotedLabel (step : Text) where
  front : Text
  found : Text
  blanks : Text
  articled : Text
  label : Text
  back : Text
  whole : step = front ++ (found ++ (blanks ++ (articled ++ '"' :: (label ++ '"' :: back))))
  alike : Alike "click" found ∨ Alike "press" found
  spaced : blanks ≠ []
  blank : ∀ c ∈ blanks, Text.isBlank c = true
  isArticle : articled = [] ∨ ∃ word gap, articled = word ++ gap ∧ Alike "the" word ∧ gap ≠ [] ∧
    ∀ c ∈ gap, Text.isBlank c = true
  filled : label ≠ []
  closed : '"' ∉ label

namespace QuotedLabel

variable {step : Text}

/-- At no earlier place of the step a word of a click has a blank behind it. -/
def First (q : QuotedLabel step) : Prop :=
  ∀ place < q.front.length, ¬ Leads clickWords (step.drop place)

instance (q : QuotedLabel step) : Decidable q.First :=
  inferInstanceAs (Decidable (∀ _ < _, _))

/-- What stands behind the blanks. -/
def behind (q : QuotedLabel step) : Text := q.articled ++ '"' :: (q.label ++ '"' :: q.back)

theorem solid_quoted (t : Text) : Solid ('"' :: t) := by
  rintro c ⟨⟩
  decide

/-- With an article or without one the label is named. -/
theorem named?_behind (q : QuotedLabel step) : named? q.behind = some q.label := by
  have captured := captured?_quoted q.back q.filled q.closed
  rcases q.isArticle with none | ⟨word, gap, whole, alike, spaced, blank⟩
  · rw [behind, none, List.nil_append, named?_plain (afterWord?_article (by decide) _), captured]
  · have follows : Text.afterWord? article q.behind =
        some (gap ++ '"' :: (q.label ++ '"' :: q.back)) := by
      refine Text.afterWord?_eq_some.mpr ⟨word, ?_, alike⟩
      rw [behind, whole, List.append_assoc]
    rw [named?_article follows, findSome?_afterBlanks spaced blank (solid_quoted _) captured,
      Option.some_or]

/-- What stands behind the blanks does not start with one. -/
theorem solid_behind (q : QuotedLabel step) : Solid q.behind := by
  rcases q.isArticle with none | ⟨word, gap, whole, alike, -⟩
  · rw [behind, none]
    exact solid_quoted _
  · rw [behind, whole, List.append_assoc]
    exact solid_article alike _

/-- **The label that is quoted is the one that is read.** -/
theorem label?_eq (q : QuotedLabel step) (first : q.First) : label? step = some q.label := by
  have member : ∃ word ∈ clickWords, Alike word q.found := by
    rcases q.alike with alike | alike
    · exact ⟨_, List.mem_cons_self, alike⟩
    · exact ⟨_, List.mem_cons_of_mem _ List.mem_cons_self, alike⟩
  obtain ⟨word, member, alike⟩ := member
  rw [label?_eq_firstAt, Text.firstAt_eq_some]
  refine ⟨q.front.length, ?_, fun earlier less => ?_⟩
  · have here : step.drop q.front.length = q.found ++ (q.blanks ++ q.behind) :=
      (congrArg (List.drop _) q.whole).trans List.drop_left
    rw [here, labelAt?_word member alike, labelAfter?_eq]
    exact findSome?_afterBlanks q.spaced q.blank q.solid_behind q.named?_behind
  · refine Text.afterOneOf?_bind_eq_none (fun rest solid => ?_) (first earlier less)
    rw [labelAfter?_eq, afterBlanks_eq_nil solid]
    rfl

end QuotedLabel

/-! ### The label of a click -/

/-- The label of a click: the one that is read, without the blanks around it, or the default one. -/
def clickLabel (step : Text) : Text := ((label? step).map Text.strip).getD defaultButton

theorem actions_click_eq (step : Text) :
    actions .click step = [⟨"click", [("label", clickLabel step)]⟩] := rfl

/-- A click has the default label if none is read. -/
theorem clickLabel_of_silent {step : Text} (silent : ∀ place, Silent (step.drop place)) :
    clickLabel step = defaultButton := by
  rw [clickLabel, label?_eq_none.mpr silent]
  rfl

/-- Nothing is left of blanks, and of nothing else. -/
theorem strip_eq_nil {t : Text} : Text.strip t = [] ↔ Blank t := by
  constructor
  · intro empty
    obtain ⟨front, back, before, behind, whole⟩ := Text.exists_pad t
    rw [empty, List.append_nil] at whole
    rw [whole]
    exact fun c member => (List.mem_append.mp member).elim (before c) (behind c)
  · intro blank
    have padded := Text.strip_pad blank (fun _ => nofun : Blank []) []
    rwa [List.append_nil, List.append_nil] at padded

/-- **The label of a click is empty exactly in a step that leaves it without one.** -/
theorem clickLabel_eq_nil {step : Text} : clickLabel step = [] ↔ Unlabelled step := by
  rw [← label?_blank, clickLabel]
  cases label? step with
  | none => exact iff_of_false (by decide) (by rintro ⟨_, ⟨⟩, -⟩)
  | some passage => simp [strip_eq_nil]

/-- **A click is labelled as the step quotes it**, blanks around the label left out. And whatever the
step says, its click has one label, which holds no double quote and has no blank at either end. -/
theorem actions_click (step : Text) :
    (∀ q : QuotedLabel step, q.First →
      actions .click step = [⟨"click", [("label", Text.strip q.label)]⟩]) ∧
    ∃ label, actions .click step = [⟨"click", [("label", label)]⟩] ∧ '"' ∉ label ∧
      (∀ c ∈ label.head?, Text.isBlank c = false) ∧
      ∀ c ∈ label.getLast?, Text.isBlank c = false := by
  constructor
  · intro q first
    rw [actions_click_eq, clickLabel, q.label?_eq first]
    rfl
  · have trimmed : ∃ passage, clickLabel step = Text.strip passage ∧ '"' ∉ passage := by
      rw [clickLabel]
      cases read : label? step with
      | none => exact ⟨defaultButton, by rfl, by decide⟩
      | some passage => exact ⟨passage, rfl, not_mem_label? read⟩
    obtain ⟨passage, stripped, unquoted⟩ := trimmed
    refine ⟨clickLabel step, actions_click_eq step, ?_⟩
    rw [stripped]
    exact ⟨fun member => unquoted (Text.mem_of_mem_trim member),
      Text.trim_ends Text.isBlank passage⟩

/-- A quoted label that starts with an article and holds the words of a click. -/
def pressedLabel : QuotedLabel "When I PREſS \u00A0The  \" the click \" or press \"x\"" where
  front := "When I "
  found := "PREſS"
  blanks := " \u00A0"
  articled := "The  "
  label := " the click "
  back := " or press \"x\""
  whole := by decide +kernel
  alike := by decide +kernel
  spaced := by decide
  blank := List.all_eq_true.mp (by decide)
  isArticle := Or.inr ⟨"The", "  ", by decide, by decide, by decide, List.all_eq_true.mp (by decide)⟩
  filled := by decide
  closed := by decide

theorem actions_click_sample :
    pressedLabel.First ∧
    actions .click "When I PREſS \u00A0The  \" the click \" or press \"x\"" =
      [⟨"click", [("label", "the click")]⟩] := by
  have first : pressedLabel.First := by decide
  have labelled := (actions_click _).1 pressedLabel first
  have stripped : Text.strip pressedLabel.label = "the click".toList := by decide
  rw [stripped] at labelled
  exact ⟨first, labelled⟩

end Scenarist.Step
