/-
**A search finds a pattern exactly when a part of the text matches it.** Which parts match is said
without any order of tries (`Pattern.Matches`). A way through a pattern leads over a part that
matches, and over each such part there is a way (`Pattern.tryAt_eq_true`), so that giving up one way
for another loses nothing. The patterns in use come down to words that occur in a text, to words that
follow others on a line, and to words that the text begins with.
-/

import Scenarist.Text.Pattern

namespace Scenarist.Text

/-! ### Words up to case -/

/-- The text is the word up to case. -/
def Alike (word found : Text) : Prop := found.map plain = word.map plain

instance (word found : Text) : Decidable (Alike word found) :=
  inferInstanceAs (Decidable (found.map plain = word.map plain))

/-- The text has a part that is the word up to case. -/
def Occurs (word t : Text) : Prop :=
  ∃ before found after, t = before ++ found ++ after ∧ Alike word found

/-- A part of the text is the first word up to case, and behind it, on the same line, there is one
that is the second. -/
def OccursThen (first second t : Text) : Prop :=
  ∃ before found between later after, t = before ++ found ++ between ++ later ++ after ∧
    Alike first found ∧ '\n' ∉ between ∧ Alike second later

/-- The text begins with the first word up to case, and the second one directly behind it. -/
def BeginsWith (first second t : Text) : Prop :=
  ∃ found next after, t = found ++ next ++ after ∧ Alike first found ∧ Alike second next

/-- What follows a word stands behind a text that is the word up to case. -/
theorem afterWord?_eq_some {word t rest : Text} :
    afterWord? word t = some rest ↔ ∃ found, t = found ++ rest ∧ Alike word found := by
  induction word generalizing t with
  | nil =>
    rw [afterWord?, Option.some_inj]
    constructor
    · rintro rfl
      exact ⟨[], rfl, rfl⟩
    · rintro ⟨found, rfl, alike⟩
      rw [List.map_eq_nil_iff.mp alike, List.nil_append]
  | cons w word ih =>
    cases t with
    | nil => simp [afterWord?, Alike]
    | cons c t =>
      by_cases same : plain c = plain w
      · rw [afterWord?, if_pos same, ih]
        constructor
        · rintro ⟨found, rfl, alike⟩
          exact ⟨c :: found, rfl, List.cons_eq_cons.mpr ⟨same, alike⟩⟩
        · rintro ⟨found, whole, alike⟩
          obtain ⟨d, below, rfl, -, mapped⟩ := List.map_eq_cons_iff.mp alike
          obtain ⟨rfl, rfl⟩ := List.cons_eq_cons.mp whole
          exact ⟨below, rfl, mapped⟩
      · rw [afterWord?, if_neg same]
        constructor
        · rintro ⟨⟩
        · rintro ⟨found, whole, alike⟩
          obtain ⟨d, below, rfl, first, -⟩ := List.map_eq_cons_iff.mp alike
          obtain ⟨rfl, -⟩ := List.cons_eq_cons.mp whole
          exact absurd first same

theorem Alike.length_eq {word found : Text} (alike : Alike word found) :
    found.length = word.length := by
  have mapped := congrArg List.length alike
  rwa [List.length_map, List.length_map] at mapped

/-- A text that is two words in a row up to case has the one in front of the other. -/
theorem Alike.split {front back found : Text} (alike : Alike (front ++ back) found) :
    ∃ start rest, found = start ++ rest ∧ Alike front start ∧ Alike back rest := by
  rw [Alike, List.map_append] at alike
  exact List.map_eq_append_iff.mp alike

/-- A text that is words in a row up to case has a part that is the one in the middle. -/
theorem Alike.part {front word back found : Text} (alike : Alike (front ++ word ++ back) found) :
    ∃ before here after, found = before ++ here ++ after ∧ Alike word here := by
  obtain ⟨rest, after, rfl, alike, -⟩ := alike.split
  obtain ⟨before, here, rfl, -, same⟩ := alike.split
  exact ⟨before, here, after, rfl, same⟩

/-- Where words in a row occur the one in the middle does. -/
theorem Occurs.part (front word back : Text) {t : Text} (occurs : Occurs (front ++ word ++ back) t) :
    Occurs word t := by
  obtain ⟨before, found, after, rfl, alike⟩ := occurs
  obtain ⟨start, here, rest, rfl, same⟩ := alike.part
  exact ⟨before ++ start, here, rest ++ after, by simp only [List.append_assoc], same⟩

namespace Pattern

/-! ### What a pattern matches -/

/-- The pattern matches the text, before which `index` characters stand. -/
def Matches : Pattern → (index : Nat) → (found : Text) → Prop
  | start, index, found => index = 0 ∧ found = []
  | words options, _, found => ∃ word ∈ options, Alike word found
  | line, _, found => '\n' ∉ found
  | seq first second, index, found => ∃ one two, found = one ++ two ∧
      first.Matches index one ∧ second.Matches (index + one.length) two
  | either first second, index, found => first.Matches index found ∨ second.Matches index found

/-- Going on behind some characters of a line is going on behind a part without a line feed. -/
theorem throughLine_eq_true {next : Nat → Text → Bool} {index : Nat} {t : Text} :
    throughLine next index t = true ↔ ∃ found rest, t = found ++ rest ∧ '\n' ∉ found ∧
      next (index + found.length) rest = true := by
  induction t generalizing index with
  | nil =>
    constructor
    · intro went
      exact ⟨[], [], rfl, List.not_mem_nil, went⟩
    · rintro ⟨found, rest, whole, -, went⟩
      obtain ⟨rfl, rfl⟩ := List.append_eq_nil_iff.mp whole.symm
      exact went
  | cons c t ih =>
    rw [throughLine, Bool.or_eq_true, Bool.and_eq_true, decide_eq_true_eq, ih]
    constructor
    · rintro (⟨unbroken, found, rest, rfl, absent, went⟩ | went)
      · refine ⟨c :: found, rest, rfl, ?_, ?_⟩
        · rw [List.mem_cons, not_or]
          exact ⟨Ne.symm unbroken, absent⟩
        · rwa [List.length_cons, Nat.add_comm found.length, ← Nat.add_assoc]
      · exact ⟨[], c :: t, rfl, List.not_mem_nil, went⟩
    · rintro ⟨found, rest, whole, absent, went⟩
      cases found with
      | nil =>
        obtain rfl : c :: t = rest := whole
        exact Or.inr went
      | cons d found =>
        obtain ⟨rfl, rfl⟩ := List.cons_eq_cons.mp whole
        rw [List.mem_cons, not_or] at absent
        rw [List.length_cons, Nat.add_comm found.length, ← Nat.add_assoc] at went
        exact Or.inl ⟨Ne.symm absent.1, found, rest, rfl, absent.2, went⟩

/-- **There is a way through a pattern exactly over what it matches.** -/
theorem tryAt_eq_true {pattern : Pattern} {next : Nat → Text → Bool} {index : Nat} {t : Text} :
    pattern.tryAt next index t = true ↔ ∃ found rest, t = found ++ rest ∧
      pattern.Matches index found ∧ next (index + found.length) rest = true := by
  induction pattern generalizing next index t with
  | start =>
    rw [tryAt, Bool.and_eq_true, decide_eq_true_eq]
    constructor
    · rintro ⟨first, went⟩
      exact ⟨[], t, rfl, ⟨first, rfl⟩, went⟩
    · rintro ⟨_, rest, rfl, ⟨first, rfl⟩, went⟩
      exact ⟨first, went⟩
  | words options =>
    rw [tryAt, List.any_eq_true]
    constructor
    · rintro ⟨word, member, went⟩
      cases follows : afterWord? word t with
      | none =>
        rw [follows] at went
        cases went
      | some rest =>
        rw [follows] at went
        obtain ⟨found, rfl, alike⟩ := afterWord?_eq_some.mp follows
        exact ⟨found, rest, rfl, ⟨word, member, alike⟩, alike.length_eq ▸ went⟩
    · rintro ⟨found, rest, rfl, ⟨word, member, alike⟩, went⟩
      have follows : afterWord? word (found ++ rest) = some rest :=
        afterWord?_eq_some.mpr ⟨found, rfl, alike⟩
      refine ⟨word, member, ?_⟩
      rw [follows]
      exact alike.length_eq ▸ went
  | line => exact throughLine_eq_true
  | seq first second one two =>
    rw [tryAt, one]
    constructor
    · rintro ⟨found, rest, rfl, here, went⟩
      obtain ⟨later, rest, rfl, there, went⟩ := two.mp went
      refine ⟨found ++ later, rest, (List.append_assoc ..).symm, ⟨found, later, rfl, here, there⟩, ?_⟩
      rwa [List.length_append, ← Nat.add_assoc]
    · rintro ⟨_, rest, rfl, ⟨found, later, rfl, here, there⟩, went⟩
      rw [List.length_append, ← Nat.add_assoc] at went
      exact ⟨found, later ++ rest, List.append_assoc .., here, two.mpr ⟨later, rest, rfl, there, went⟩⟩
  | either first second one two =>
    rw [tryAt, Bool.or_eq_true, one, two]
    constructor
    · rintro (⟨found, rest, whole, here, went⟩ | ⟨found, rest, whole, here, went⟩)
      · exact ⟨found, rest, whole, Or.inl here, went⟩
      · exact ⟨found, rest, whole, Or.inr here, went⟩
    · rintro ⟨found, rest, whole, here | here, went⟩
      · exact Or.inl ⟨found, rest, whole, here, went⟩
      · exact Or.inr ⟨found, rest, whole, here, went⟩

/-- The pattern is tried at every position that there is. -/
theorem searchFrom_eq_true {pattern : Pattern} {index : Nat} {t : Text} :
    pattern.searchFrom index t = true ↔ ∃ before found after, t = before ++ found ++ after ∧
      pattern.Matches (index + before.length) found := by
  have here {index : Nat} {t : Text} : pattern.tryAt (fun _ _ => true) index t = true ↔
      ∃ found after, t = found ++ after ∧ pattern.Matches index found := by
    rw [tryAt_eq_true]
    simp only [and_true]
  induction t generalizing index with
  | nil =>
    rw [searchFrom, here]
    constructor
    · rintro ⟨found, after, whole, matched⟩
      exact ⟨[], found, after, whole, matched⟩
    · rintro ⟨before, found, after, whole, matched⟩
      obtain ⟨inner, rfl⟩ := List.append_eq_nil_iff.mp whole.symm
      obtain ⟨rfl, rfl⟩ := List.append_eq_nil_iff.mp inner
      exact ⟨[], [], rfl, matched⟩
  | cons c t ih =>
    rw [searchFrom, Bool.or_eq_true]
    refine (or_congr here ih).trans ⟨?_, ?_⟩
    · rintro (⟨found, after, whole, matched⟩ | ⟨before, found, after, rfl, matched⟩)
      · exact ⟨[], found, after, whole, matched⟩
      · refine ⟨c :: before, found, after, rfl, ?_⟩
        rwa [List.length_cons, Nat.add_comm before.length, ← Nat.add_assoc]
    · rintro ⟨before, found, after, whole, matched⟩
      cases before with
      | nil => exact Or.inl ⟨found, after, whole, matched⟩
      | cons d before =>
        obtain ⟨rfl, rfl⟩ := List.cons_eq_cons.mp whole
        rw [List.length_cons, Nat.add_comm before.length, ← Nat.add_assoc] at matched
        exact Or.inr ⟨before, found, after, rfl, matched⟩

/-- **A text has a pattern exactly when a part of it matches.** -/
theorem search_eq_true {pattern : Pattern} {t : Text} :
    pattern.search t = true ↔ ∃ before found after, t = before ++ found ++ after ∧
      pattern.Matches before.length found := by
  rw [search, searchFrom_eq_true]
  simp only [Nat.zero_add]

/-! ### The patterns in use -/

/-- One of two patterns is there when the first is or the second is. -/
theorem search_either {first second : Pattern} {t : Text} :
    (either first second).search t = true ↔ first.search t = true ∨ second.search t = true := by
  simp only [search_eq_true, Matches]
  constructor
  · rintro ⟨before, found, after, whole, here | here⟩
    · exact Or.inl ⟨before, found, after, whole, here⟩
    · exact Or.inr ⟨before, found, after, whole, here⟩
  · rintro (⟨before, found, after, whole, here⟩ | ⟨before, found, after, whole, here⟩)
    · exact ⟨before, found, after, whole, Or.inl here⟩
    · exact ⟨before, found, after, whole, Or.inr here⟩

/-- Words are found when one of them occurs. -/
theorem search_words {options : List Text} {t : Text} :
    (words options).search t = true ↔ ∃ word ∈ options, Occurs word t := by
  rw [search_eq_true]
  constructor
  · rintro ⟨before, found, after, whole, word, member, alike⟩
    exact ⟨word, member, before, found, after, whole, alike⟩
  · rintro ⟨word, member, before, found, after, whole, alike⟩
    exact ⟨before, found, after, whole, word, member, alike⟩

/-- Words with others behind them on the line are found when two of them occur so. -/
theorem search_words_line {options others : List Text} {t : Text} :
    (seq (words options) (seq line (words others))).search t = true ↔
      ∃ word ∈ options, ∃ other ∈ others, OccursThen word other t := by
  rw [search_eq_true]
  constructor
  · rintro ⟨before, _, after, rfl, found, _, rfl, ⟨word, member, alike⟩, between, later, rfl,
      unbroken, other, among, likewise⟩
    refine ⟨word, member, other, among, before, found, between, later, after, ?_, alike, unbroken,
      likewise⟩
    simp only [List.append_assoc]
  · rintro ⟨word, member, other, among, before, found, between, later, after, rfl, alike, unbroken,
      likewise⟩
    refine ⟨before, found ++ (between ++ later), after, ?_, found, between ++ later, rfl,
      ⟨word, member, alike⟩, between, later, rfl, unbroken, other, among, likewise⟩
    simp only [List.append_assoc]

/-- Words at the start with others behind them are found when the text begins with two of them. -/
theorem search_start {options others : List Text} {t : Text} :
    (seq start (seq (words options) (words others))).search t = true ↔
      ∃ word ∈ options, ∃ other ∈ others, BeginsWith word other t := by
  rw [search_eq_true]
  constructor
  · rintro ⟨before, _, after, rfl, _, _, rfl, ⟨first, rfl⟩, found, next, rfl,
      ⟨word, member, alike⟩, other, among, likewise⟩
    obtain rfl := List.length_eq_zero_iff.mp first
    exact ⟨word, member, other, among, found, next, after, rfl, alike, likewise⟩
  · rintro ⟨word, member, other, among, found, next, after, rfl, alike, likewise⟩
    exact ⟨[], found ++ next, after, rfl, [], found ++ next, rfl, ⟨rfl, rfl⟩, found, next, rfl,
      ⟨word, member, alike⟩, other, among, likewise⟩

end Pattern

end Scenarist.Text
