/-
**What a step expects to see is the passage that it quotes behind its phrase.** The phrases that make
an expectation (`Intent.pattern`) and the words that the expected text is looked for behind
(`sightWords`) are two lists. A phrase that ends in one of the words leads to the passage
(`Quotation.expected?_of_word`). A phrase that goes on behind its word is passed over: what stands
behind the phrase is searched as if the step began there (`Quotation.expected?_of_clash`). Both rest
on the places at which no word can lead, told from the phrase alone (`Quotation.expected?_eq`).
-/

import Scenarist.Proofs.Step.Capture

namespace Scenarist.Step

open Text (Alike Clashes Leads)

/-! ### The place where it is looked for -/

/-- The words that the expected text is looked for behind. -/
def sightWords : List Text := ["see", "contain"]

/-- The expected text behind one of the words at the start of a text. -/
def expectedAfter? (here : Text) : Option Text :=
  (Text.afterOneOf? sightWords here).bind fun rest => (afterBlanks rest).findSome? captured?

theorem expected?_eq_firstAt (step : Text) : expected? step = Text.firstAt expectedAfter? step := rfl

/-- Nothing is expected where no word leads. -/
theorem expectedAfter?_eq_none {t : Text} (absent : ¬ Leads sightWords t) :
    expectedAfter? t = none := by
  refine Text.afterOneOf?_bind_eq_none (fun rest solid => ?_) absent
  rw [afterBlanks_eq_nil solid]
  rfl

/-- Where no word leads at any place nothing is expected. -/
theorem expected?_eq_none {t : Text} (absent : ∀ place, ¬ Leads sightWords (t.drop place)) :
    expected? t = none :=
  Text.firstAt_eq_none fun place => expectedAfter?_eq_none (absent place)

/-- A step quotes a passage directly behind a phrase: the phrase is found in it up to case, blanks
are behind the phrase, and behind them there is a passage between two double quotes, not empty. -/
structure Quotation (phrase step : Text) where
  front : Text
  found : Text
  blanks : Text
  passage : Text
  back : Text
  whole : step = front ++ (found ++ (blanks ++ '"' :: (passage ++ '"' :: back)))
  alike : Alike phrase found
  spaced : blanks ≠ []
  blank : ∀ c ∈ blanks, Text.isBlank c = true
  filled : passage ≠ []
  closed : '"' ∉ passage

namespace Quotation

variable {phrase step : Text}

/-- What stands behind the phrase. -/
def behind (q : Quotation phrase step) : Text := q.blanks ++ '"' :: (q.passage ++ '"' :: q.back)

/-- At no earlier place of the step one of the words has a blank behind it. -/
def First (q : Quotation phrase step) : Prop :=
  ∀ place < q.front.length, ¬ Leads sightWords (step.drop place)

instance (q : Quotation phrase step) : Decidable q.First :=
  inferInstanceAs (Decidable (∀ _ < _, _))

/-- The passage is expected behind a word that its blanks follow. -/
theorem expectedAfter?_eq (q : Quotation phrase step) {word found : Text}
    (member : word ∈ sightWords) (alike : Alike word found) :
    expectedAfter? (found ++ q.behind) = some q.passage := by
  have apart : ∀ one ∈ sightWords, ∀ other ∈ sightWords,
      one.map Text.plain <+: other.map Text.plain → one = other := by decide
  have solid : ∀ c ∈ ('"' :: (q.passage ++ '"' :: q.back)).head?, Text.isBlank c = false := by
    rintro c ⟨⟩
    decide
  obtain ⟨others, order⟩ := List.head?_eq_some_iff.mp (head?_afterBlanks q.spaced q.blank solid)
  rw [expectedAfter?, Text.afterOneOf?_of_alike apart member alike, Option.bind_some, behind, order,
    List.findSome?_cons, captured?_quoted q.back q.filled q.closed]

/-- What stands at the phrase and behind it. -/
theorem drop_front (q : Quotation phrase step) (k : Nat) :
    step.drop (q.front.length + k) = (q.found ++ q.behind).drop k := by
  have whole : step = q.front ++ (q.found ++ q.behind) := q.whole
  calc step.drop (q.front.length + k)
      = (q.front ++ (q.found ++ q.behind)).drop (q.front.length + k) := congrArg _ whole
    _ = (q.found ++ q.behind).drop k := by rw [← List.drop_drop, List.drop_left]

/-- A blank stands directly behind the phrase. -/
theorem exists_blank (q : Quotation phrase step) :
    ∃ b rest, q.behind = b :: rest ∧ Text.isBlank b = true := by
  obtain ⟨b, blanks, spaced⟩ := List.exists_cons_of_ne_nil q.spaced
  refine ⟨b, blanks ++ '"' :: (q.passage ++ '"' :: q.back), ?_, ?_⟩
  · rw [behind, spaced, List.cons_append]
  · exact q.blank b (spaced ▸ List.mem_cons_self)

/-- At a place of the phrase no word leads whose letters differ from those of the phrase, and of the
space behind it. -/
theorem not_leads (q : Quotation phrase step) {k : Nat} (within : k ≤ phrase.length)
    (clash : Clashes sightWords ((phrase ++ [' ']).drop k)) :
    ¬ Leads sightWords ((q.found ++ q.behind).drop k) := by
  -- the first of the blanks counts with the phrase: without it the last letter of "contains" could
  -- begin a word
  obtain ⟨b, rest, spaced, blank⟩ := q.exists_blank
  have same : (q.found ++ [b]).map Text.shape = (phrase ++ [' ']).map Text.shape := by
    rw [List.map_append, List.map_append, q.alike.map_shape, List.map_singleton,
      Text.shape_of_isBlank blank]
    rfl
  have split : (q.found ++ q.behind).drop k = (q.found ++ [b]).drop k ++ rest := by
    rw [spaced, List.append_cons, List.drop_append_of_le_length]
    rw [List.length_append, q.alike.length_eq]
    exact Nat.le_add_right_of_le within
  rw [split]
  refine Text.not_leads_of_clash ?_ clash
  rw [List.map_drop, List.map_drop, same]

/-- **The places of the phrase at which no word can lead are passed over**, and with them all that
is before the phrase. -/
theorem expected?_eq (q : Quotation phrase step) (first : q.First) {n : Nat}
    (within : n ≤ phrase.length)
    (clash : ∀ k < n, Clashes sightWords ((phrase ++ [' ']).drop k)) :
    expected? step = Text.firstAt expectedAfter? ((q.found ++ q.behind).drop n) := by
  have silent : ∀ place < q.front.length + n, expectedAfter? (step.drop place) = none := by
    intro place less
    refine expectedAfter?_eq_none ?_
    -- before the phrase by assumption, inside it by its letters
    by_cases before : place < q.front.length
    · exact first place before
    · obtain ⟨k, rfl⟩ := Nat.exists_eq_add_of_le (Nat.le_of_not_lt before)
      have less : k < n := Nat.lt_of_add_lt_add_left less
      rw [q.drop_front]
      exact q.not_leads (less.le.trans within) (clash k less)
  rw [expected?_eq_firstAt, Text.firstAt_drop silent, q.drop_front]

/-- A phrase that ends in one of the words leads to the passage. -/
theorem expected?_of_word (lead word : Text) (q : Quotation (lead ++ word) step) (first : q.First)
    (member : word ∈ sightWords)
    (clash : ∀ k < lead.length, Clashes sightWords ((lead ++ word ++ [' ']).drop k)) :
    expected? step = some q.passage := by
  obtain ⟨start, rest, whole, alike, likewise⟩ := q.alike.split
  have within : lead.length ≤ (lead ++ word).length := by
    rw [List.length_append]
    exact Nat.le_add_right _ _
  rw [q.expected?_eq first within clash, whole, List.append_assoc, ← alike.length_eq,
    List.drop_left]
  exact Text.firstAt_of_eq_some (q.expectedAfter?_eq member likewise)

/-- A phrase in which no word leads is passed over as a whole. -/
theorem expected?_of_clash (q : Quotation phrase step) (first : q.First)
    (clash : ∀ k < phrase.length, Clashes sightWords ((phrase ++ [' ']).drop k)) :
    expected? step = expected? q.behind := by
  rw [q.expected?_eq first le_rfl clash, ← q.alike.length_eq, List.drop_left]
  rfl

end Quotation

/-- The step is interpreted by the text that it expects. -/
theorem interpret_assertText {step : Text} (claimed : Intent.ofStep step = .assertText) :
    interpret step = ⟨step, "assert_text",
      [⟨"expect_text", [("text", (expected? step).getD "expected text")]⟩]⟩ := by
  rw [interpret, claimed]
  rfl

/-- **A step expects the passage that it quotes behind its phrase, as it is written.** This is so
for the phrases that end in one of the words. The phrase "contains" goes on behind its word, so it is
passed over: the step expects what is found behind it, and the default text if no word leads there. -/
theorem interpret_quoted {step : Text} (claimed : Intent.ofStep step = .assertText) :
    (∀ phrase ∈ (["should see", "should contain"] : List Text), ∀ q : Quotation phrase step,
      q.First → interpret step =
        ⟨step, "assert_text", [⟨"expect_text", [("text", q.passage)]⟩]⟩) ∧
    ∀ q : Quotation "contains" step, q.First →
      interpret step = ⟨step, "assert_text",
        [⟨"expect_text", [("text", (expected? q.behind).getD "expected text")]⟩]⟩ ∧
      ((∀ place, ¬ Leads sightWords (q.behind.drop place)) → expected? q.behind = none) := by
  have interpreted := interpret_assertText claimed
  refine ⟨fun phrase member q first => ?_, fun q first => ⟨?_, expected?_eq_none⟩⟩
  · have found : expected? step = some q.passage := by
      rcases List.mem_pair.mp member with rfl | rfl
      · exact Quotation.expected?_of_word "should " "see" q first (by decide) (by decide)
      · exact Quotation.expected?_of_word "should " "contain" q first (by decide) (by decide)
    rw [interpreted, found]
    rfl
  · have passed : expected? step = expected? q.behind :=
      q.expected?_of_clash first (by decide)
    rw [interpreted, passed]

/-- A quotation behind a phrase that ends in one of the words. -/
def seenPassage : Quotation "should see" "Then I Should See  \"Welcome back\" again" where
  front := "Then I "
  found := "Should See"
  blanks := "  "
  passage := "Welcome back"
  back := " again"
  whole := by decide +kernel
  alike := by decide +kernel
  spaced := by decide
  blank := List.all_eq_true.mp (by decide)
  filled := by decide
  closed := by decide

/-- A quotation behind the phrase that goes on behind its word. -/
def containedPassage : Quotation "contains" "Then the page contains \"Welcome\"" where
  front := "Then the page "
  found := "contains"
  blanks := " "
  passage := "Welcome"
  back := ""
  whole := by decide +kernel
  alike := by decide +kernel
  spaced := by decide
  blank := List.all_eq_true.mp (by decide)
  filled := by decide
  closed := by decide

theorem interpret_quoted_sample :
    Intent.ofStep "Then I Should See  \"Welcome back\" again" = .assertText ∧
    interpret "Then I Should See  \"Welcome back\" again" =
      ⟨"Then I Should See  \"Welcome back\" again", "assert_text",
        [⟨"expect_text", [("text", "Welcome back")]⟩]⟩ ∧
    Intent.ofStep "Then the page contains \"Welcome\"" = .assertText ∧
    interpret "Then the page contains \"Welcome\"" =
      ⟨"Then the page contains \"Welcome\"", "assert_text",
        [⟨"expect_text", [("text", "expected text")]⟩]⟩ := by
  have sees : Intent.ofStep "Then I Should See  \"Welcome back\" again" = .assertText := by
    decide +kernel
  have seen : seenPassage.First := by decide +kernel
  have contains : Intent.ofStep "Then the page contains \"Welcome\"" = .assertText := by
    decide +kernel
  have contained : containedPassage.First := by decide +kernel
  have passed : expected? containedPassage.behind = none := by decide +kernel
  have default := ((interpret_quoted contains).2 containedPassage contained).1
  rw [passed] at default
  exact ⟨sees, (interpret_quoted sees).1 _ List.mem_cons_self seenPassage seen, contains, default⟩

/-- The passage behind "contains" is not what the step expects. -/
theorem interpret_contained_ne :
    Intent.ofStep "Then the page contains \"Welcome\"" = .assertText ∧ containedPassage.First ∧
    interpret "Then the page contains \"Welcome\"" ≠
      ⟨"Then the page contains \"Welcome\"", "assert_text",
        [⟨"expect_text", [("text", containedPassage.passage)]⟩]⟩ := by
  decide +kernel

end Scenarist.Step
