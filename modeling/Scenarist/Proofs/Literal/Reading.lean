/-
**Reading literals.** A literal stands between two marks. Behind a backslash a character means
another one or announces the digits of a code point; up to the closing mark every other character
means itself. What an escape means and which characters may stand for themselves are the rules of
a kind of literal.

A piece of text *spells* a character when reading takes the piece for it whatever follows
(`Spells`). A text that is spelled character by character and closed by the mark is read back whole,
with what stands behind the literal (`readFrom_spelled`).
-/

import Scenarist.Literal.Basic
import Scenarist.Proofs.Text.Lines

namespace Scenarist.Literal

/-! ### The reader -/

/-- What a character behind a backslash announces. -/
inductive Escape where
  /-- A character. -/
  | char (meant : Char)
  /-- A code point in so many hexadecimal digits, and one more. -/
  | code (more : Nat)
  deriving DecidableEq, Repr

/-- The rules that a kind of literal is read by. -/
structure Rules where
  /-- What a character behind a backslash announces. -/
  escape? : Char → Option Escape
  /-- May the character stand for itself? -/
  allows : Char → Bool

/-- A place inside a literal. -/
inductive Place where
  | plain
  /-- Behind a backslash. -/
  | escaped
  /-- Before the next digit of a code point, with how many digits more to come and the number that
  the digits before it make. -/
  | code (more value : Nat)

/-- Puts a character before what was read. -/
def pushed (c : Char) (read : Text × Text) : Text × Text := (c :: read.1, read.2)

/-- Reads on inside a literal: the rest of its text, and what stands behind its closing mark. -/
def readFrom (rules : Rules) (mark : Text) : Place → Text → Option (Text × Text)
  | _, [] => none
  | .plain, c :: rest =>
    match Text.afterLead? mark (c :: rest) with
    | some after => some ([], after)
    | none =>
      if c = '\\' then readFrom rules mark .escaped rest
      else if rules.allows c then (readFrom rules mark .plain rest).map (pushed c)
      else none
  | .escaped, c :: rest =>
    match rules.escape? c with
    | some (.char meant) => (readFrom rules mark .plain rest).map (pushed meant)
    | some (.code more) => readFrom rules mark (.code more 0) rest
    | none => none
  | .code more value, c :: rest =>
    match Text.hexDigit? c with
    | none => none
    | some digit =>
      match more with
      | more + 1 => readFrom rules mark (.code more (value * 16 + digit)) rest
      | 0 =>
        if (value * 16 + digit).isValidChar then
          (readFrom rules mark .plain rest).map (pushed (Char.ofNat (value * 16 + digit)))
        else none

/-- Reads the literal at the start of a text, and what stands behind it. -/
def read (rules : Rules) (mark t : Text) : Option (Text × Text) :=
  (Text.afterLead? mark t).bind (readFrom rules mark .plain)

/-- The characters that end a line of code or may not stand in one. -/
def isBreak (c : Char) : Bool :=
  c = '\n' || c = '\r' || c = '\x00' || c = '\u2028' || c = '\u2029'

/-- The rules of apostrophe literals. -/
def singleRules : Rules where
  escape? c := [('\\', .char '\\'), ('\'', .char '\''), ('n', .char '\n'), ('r', .char '\r'),
    ('x', .code 1), ('u', .code 3)].lookup c
  allows c := !isBreak c

/-- Reads the apostrophe literal at the start of a text. -/
def readSingle (t : Text) : Option (Text × Text) := read singleRules ['\''] t

/-- The rules of the other literals; between three quotes they may span lines. -/
def quotedRules (spansLines : Bool) : Rules where
  escape? c := [('\\', .char '\\'), ('\'', .char '\''), ('"', .char '"'), ('n', .char '\n'),
    ('r', .char '\r'), ('t', .char '\t'), ('x', .code 1), ('u', .code 3), ('U', .code 7)].lookup c
  allows c := !isBreak c || (spansLines && c = '\n')

/-- The marks that these literals stand between; three quotes are looked for before one. -/
def marks : List Text := [tripleQuote, "'''", "\"", "'"]

/-- Reads the literal between any of the marks at the start of a text. -/
def readQuoted (t : Text) : Option (Text × Text) :=
  (marks.find? (Text.startsWith t)).bind fun mark => read (quotedRules (mark.length = 3)) mark t

/-- The rules of a text whose backslashes and double quotes have a backslash before them. -/
def slashedRules : Rules where
  escape? c := [('\\', .char '\\'), ('"', .char '"')].lookup c
  allows _ := true

/-- What stands before the label in the selector of a button. -/
def buttonLead : Text := "button:has-text("

/-- What stands between the labels in the selector of a button or link. -/
def linkLead : Text := "), a:has-text("

/-- Reads the label of a button or link off its selector: both halves have to name it. -/
def readLabel (selector : Text) : Option Text := do
  let rest ← Text.afterLead? buttonLead selector
  let (label, rest) ← read slashedRules ['"'] rest
  let rest ← Text.afterLead? linkLead rest
  let (again, rest) ← read slashedRules ['"'] rest
  if again = label ∧ rest = [')'] then some label else none

/-! ### Spelling -/

section Spelling

variable {rules : Rules} {mark : Text}

/-- Reading takes the piece for the character, whatever follows. -/
def Spells (rules : Rules) (mark piece : Text) (c : Char) : Prop :=
  ∀ rest, readFrom rules mark .plain (piece ++ rest) =
    (readFrom rules mark .plain rest).map (pushed c)

theorem afterLead?_cons_ne {m c : Char} (different : m ≠ c) (more rest : Text) :
    Text.afterLead? (m :: more) (c :: rest) = none := by
  rw [Text.afterLead?, if_neg different]

/-- A character that the rules allow spells itself. -/
theorem spells_self {m c : Char} {more : Text} (unmarked : m ≠ c) (unescaped : c ≠ '\\')
    (allowed : rules.allows c = true) : Spells rules (m :: more) [c] c := by
  intro rest
  rw [List.singleton_append, readFrom, afterLead?_cons_ne unmarked]
  simp only [if_neg unescaped, if_pos allowed]

/-- A backslash leads to what the character behind it announces. -/
theorem readFrom_backslash {m : Char} {more : Text} (unmarked : m ≠ '\\') (rest : Text) :
    readFrom rules (m :: more) .plain ('\\' :: rest) =
      readFrom rules (m :: more) .escaped rest := by
  rw [readFrom, afterLead?_cons_ne unmarked]
  simp only [if_true]

/-- An escape that announces a character spells it. -/
theorem spells_char {m d c : Char} {more : Text} (unmarked : m ≠ '\\')
    (announced : rules.escape? d = some (.char c)) : Spells rules (m :: more) ['\\', d] c := by
  intro rest
  show readFrom rules (m :: more) .plain ('\\' :: d :: rest) = _
  rw [readFrom_backslash unmarked, readFrom, announced]

/-! ### Code points -/

theorem hexDigit?_digitChar : ∀ d, d < 16 → Text.hexDigit? (Nat.digitChar d) = some d := by
  decide

/-- Digits of a code point are read as the number they make. -/
theorem readFrom_digits {c : Char} (digits : List Nat) (small : ∀ d ∈ digits, d < 16) (last : Nat)
    (lastSmall : last < 16) (value : Nat)
    (made : digits.foldl (fun value d => value * 16 + d) value * 16 + last = c.toNat)
    (rest : Text) :
    readFrom rules mark (.code digits.length value)
        (digits.map Nat.digitChar ++ Nat.digitChar last :: rest) =
      (readFrom rules mark .plain rest).map (pushed c) := by
  induction digits generalizing value with
  | nil =>
    have whole : value * 16 + last = c.toNat := made
    show readFrom rules mark (.code 0 value) (Nat.digitChar last :: rest) = _
    simp only [readFrom, hexDigit?_digitChar last lastSmall, whole]
    have valid : c.toNat.isValidChar := c.valid
    rw [if_pos valid, Char.ofNat_toNat]
  | cons d digits ih =>
    have firstSmall : d < 16 := small d List.mem_cons_self
    have below := ih (fun other member => small other (List.mem_cons_of_mem _ member)) _ made
    show readFrom rules mark (.code (digits.length + 1) value)
      (Nat.digitChar d :: (digits.map Nat.digitChar ++ Nat.digitChar last :: rest)) = _
    simp only [readFrom, hexDigit?_digitChar d firstSmall]
    exact below

/-- The digits of a number in base sixteen. -/
theorem toDigits_eq_map (n : Nat) : ∃ digits : List Nat, ∃ last, last < 16 ∧
    (∀ d ∈ digits, d < 16) ∧ Nat.toDigits 16 n = digits.map Nat.digitChar ++ [Nat.digitChar last] ∧
      Text.number 16 digits * 16 + last = n := by
  induction n using Nat.strongRecOn with
  | _ n ih =>
    by_cases small : n < 16
    · exact ⟨[], n, small, by simp, Nat.toDigits_of_lt_base small, by simp [Text.number]⟩
    · obtain ⟨digits, last, lastSmall, each, spelled, made⟩ := ih (n / 16) (by omega)
      refine ⟨digits ++ [last], n % 16, by omega, ?_, ?_, ?_⟩
      · intro d member
        rcases List.mem_append.mp member with member | member
        · exact each d member
        · rwa [List.mem_singleton.mp member]
      · rw [Nat.toDigits_of_base_le (by decide) (by omega), spelled]
        simp
      · simp only [Text.number, List.foldl_append, List.foldl_cons, List.foldl_nil] at made ⊢
        omega

/-- Zeros before the digits of a number do not change it. -/
theorem number_zeros (count : Nat) (digits : List Nat) :
    Text.number 16 (List.replicate count 0 ++ digits) = Text.number 16 digits := by
  induction count with
  | zero => rfl
  | succ count ih => simpa [Text.number, List.replicate_succ] using ih

/-- A number in `width` hexadecimal digits, where it fits into them. -/
theorem hex_eq_map {width n : Nat} (fits : n < Nat.pow 16 (width + 1)) :
    ∃ digits : List Nat, ∃ last, last < 16 ∧ (∀ d ∈ digits, d < 16) ∧ digits.length = width ∧
      Text.hex (width + 1) n = digits.map Nat.digitChar ++ [Nat.digitChar last] ∧
      Text.number 16 digits * 16 + last = n := by
  obtain ⟨digits, last, lastSmall, small, spelled, made⟩ := toDigits_eq_map n
  have short : (Nat.toDigits 16 n).length ≤ width + 1 :=
    (Nat.length_toDigits_le_iff (by decide) (by omega)).mpr fits
  have size : (Nat.toDigits 16 n).length = digits.length + 1 := by rw [spelled]; simp
  refine ⟨List.replicate (width + 1 - (digits.length + 1)) 0 ++ digits, last, lastSmall, ?_, ?_, ?_,
    ?_⟩
  · intro d member
    rcases List.mem_append.mp member with member | member
    · rw [(List.mem_replicate.mp member).2]
      decide
    · exact small d member
  · rw [List.length_append, List.length_replicate]
    omega
  · simp only [Text.hex, size]
    rw [spelled, List.map_append, List.map_replicate, List.append_assoc]
    rfl
  · rw [number_zeros, made]

/-- An escape that announces a code point spells its character. -/
theorem spells_code {m d c : Char} {more : Text} {width : Nat} (unmarked : m ≠ '\\')
    (announced : rules.escape? d = some (.code width))
    (fits : c.toNat < Nat.pow 16 (width + 1)) :
    Spells rules (m :: more) ('\\' :: d :: Text.hex (width + 1) c.toNat) c := by
  intro rest
  obtain ⟨digits, last, lastSmall, small, size, spelled, made⟩ := hex_eq_map fits
  show readFrom rules (m :: more) .plain ('\\' :: d :: (Text.hex (width + 1) c.toNat ++ rest)) = _
  rw [readFrom_backslash unmarked, readFrom, announced, spelled, List.append_assoc,
    List.singleton_append, ← size]
  exact readFrom_digits digits small last lastSmall 0 made rest

/-! ### Whole literals -/

/-- **A text spelled character by character is read back up to the closing mark.** -/
theorem readFrom_spelled (t : Text) (spell : Char → Text)
    (spells : ∀ c ∈ t, Spells rules mark (spell c) c) (marked : mark ≠ []) (rest : Text) :
    readFrom rules mark .plain (t.flatMap spell ++ mark ++ rest) = some (t, rest) := by
  induction t with
  | nil =>
    obtain ⟨m, more, rfl⟩ := List.exists_cons_of_ne_nil marked
    have closed : Text.afterLead? (m :: more) (m :: (more ++ rest)) = some rest :=
      Text.afterLead?_append (m :: more) rest
    show readFrom rules (m :: more) .plain (m :: (more ++ rest)) = _
    rw [readFrom, closed]
  | cons c t ih =>
    have below := ih fun other member => spells other (List.mem_cons_of_mem _ member)
    rw [List.flatMap_cons, List.append_assoc, List.append_assoc, spells c List.mem_cons_self,
      ← List.append_assoc, below]
    rfl

/-- The same for a literal with both of its marks. -/
theorem read_spelled (t : Text) (spell : Char → Text)
    (spells : ∀ c ∈ t, Spells rules mark (spell c) c) (marked : mark ≠ []) (rest : Text) :
    read rules mark (mark ++ t.flatMap spell ++ mark ++ rest) = some (t, rest) := by
  rw [read, List.append_assoc, List.append_assoc, Text.afterLead?_append, Option.bind_some,
    ← List.append_assoc, readFrom_spelled t spell spells marked]

end Spelling

end Scenarist.Literal
