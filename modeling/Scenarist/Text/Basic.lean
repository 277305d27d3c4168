/-
Texts as lists of characters, and the operations that the rest of the library is written in:
cutting a text at a character, reading a lead off its start, looking through its positions; sets of
characters; stripping a text and breaking it into tokens at its blanks; digits of every script; and
words, which are written in ASCII letters and spaces and found whatever the case of the letters.
-/

namespace Scenarist

/-- A text is the list of its characters, so that laws about texts go by induction on lists. -/
abbrev Text := List Char

/-- A string stands for the list of its characters. -/
instance : Coe String Text := ⟨String.toList⟩

namespace Text

/-- The pieces between the occurrences of `mark`; a text without one is its own only piece. -/
def cut (mark : Char) : Text → List Text
  | [] => [[]]
  | c :: rest =>
    if c = mark then [] :: cut mark rest
    else match cut mark rest with
      | [] => [[c]]
      | piece :: pieces => (c :: piece) :: pieces

/-- What follows `lead` at the start of a text, if the text starts with it. -/
def afterLead? : Text → Text → Option Text
  | [], t => some t
  | _ :: _, [] => none
  | l :: lead, c :: t => if l = c then afterLead? lead t else none

/-- Does `t` start with `lead`? -/
def startsWith (t lead : Text) : Bool := lead.isPrefixOf t

/-- Does `t` end with `tail`? -/
def endsWith (t tail : Text) : Bool := tail.isSuffixOf t

/-- The first answer of `look` at a position of the text, its end included, from left to right. -/
def firstAt {α : Type} (look : Text → Option α) : Text → Option α
  | [] => look []
  | c :: rest => (look (c :: rest)).orElse fun _ => firstAt look rest

/-- The texts in a row, with `mark` between neighbours. -/
def joined (mark : Text) : List Text → Text
  | [] => []
  | [t] => t
  | t :: more => t ++ mark ++ joined mark more

/-- The text before the last occurrence of `mark` and the text after it. -/
def cutLast? (mark : Char) : Text → Option (Text × Text)
  | [] => none
  | c :: rest =>
    match cutLast? mark rest with
    | some (before, after) => some (c :: before, after)
    | none => if c = mark then some ([], rest) else none

/-- The text before the first occurrence of `mark` and the text after it. -/
def cutFirst? (mark : Char) : Text → Option (Text × Text)
  | [] => none
  | c :: rest =>
    if c = mark then some ([], rest)
    else (cutFirst? mark rest).map fun (before, after) => (c :: before, after)

/-- The text with a line feed for every carriage return, alone or before a line feed. -/
def unifyBreaks : Text → Text
  | [] => []
  | '\r' :: '\n' :: rest => '\n' :: unifyBreaks rest
  | c :: rest => (if c = '\r' then '\n' else c) :: unifyBreaks rest

/-- The order of texts by code points: does `a` stand before `b`, or are they one? -/
def le : Text → Text → Bool
  | [], _ => true
  | _ :: _, [] => false
  | c :: a, d :: b => if c = d then le a b else decide (c.toNat < d.toNat)

/-- A number in decimal digits. -/
def ofNat (n : Nat) : Text := Nat.toDigits 10 n

/-- An integer in decimal digits, with a minus sign when it is negative. -/
def ofInt : Int → Text
  | .ofNat n => ofNat n
  | .negSucc n => '-' :: ofNat (n + 1)

/-- A number in `width` lower-case hexadecimal digits, or in as many as it needs. -/
def hex (width n : Nat) : Text :=
  let digits := Nat.toDigits 16 n
  List.replicate (width - digits.length) '0' ++ digits

/-- The value of a decimal digit. -/
def digit? (c : Char) : Option Nat :=
  if '0' ≤ c ∧ c ≤ '9' then some (c.toNat - 48) else none

/-- The value of a hexadecimal digit of either case. -/
def hexDigit? (c : Char) : Option Nat :=
  if '0' ≤ c ∧ c ≤ '9' then some (c.toNat - 48)
  else if 'a' ≤ c ∧ c ≤ 'f' then some (c.toNat - 87)
  else if 'A' ≤ c ∧ c ≤ 'F' then some (c.toNat - 55)
  else none

/-- Horner's rule: the number written by `digits` in `base`, the first digit leading. -/
def number (base : Nat) (digits : List Nat) : Nat :=
  digits.foldl (fun value d => value * base + d) 0

/-! ### Sets of characters -/

/-- Closed ranges of code points, in ascending order: the form in which the properties of the Unicode
character database (version 14) are held. -/
abbrev CodeRanges := List (Nat × Nat)

/-- Is the character in one of the ranges? -/
def CodeRanges.has (ranges : CodeRanges) (c : Char) : Bool :=
  ranges.any fun range => range.1 ≤ c.toNat && c.toNat ≤ range.2

/-! ### Blanks -/

/-- White space of every script, and the four information separators. -/
def blankRanges : CodeRanges :=
  [(0x9, 0xD), (0x1C, 0x20), (0x85, 0x85), (0xA0, 0xA0), (0x1680, 0x1680), (0x2000, 0x200A),
   (0x2028, 0x2029), (0x202F, 0x202F), (0x205F, 0x205F), (0x3000, 0x3000)]

/-- Is `c` white space? -/
def isBlank (c : Char) : Bool := blankRanges.has c

/-- The text without the characters of `drop` at its end. -/
def dropEnd (drop : Char → Bool) : Text → Text
  | [] => []
  | c :: rest =>
    match dropEnd drop rest with
    | [] => if drop c then [] else [c]
    | kept => c :: kept

/-- The text without the characters of `drop` at its two ends. -/
def trim (drop : Char → Bool) (t : Text) : Text := dropEnd drop (t.dropWhile drop)

/-- The text without the blanks at its two ends. -/
def strip (t : Text) : Text := trim isBlank t

/-- Breaks the text at its blanks; the first argument is the token begun, last character first. -/
def tokensFrom : Text → Text → List Text
  | token, [] => if token.isEmpty then [] else [token.reverse]
  | token, c :: rest =>
    if isBlank c then
      if token.isEmpty then tokensFrom [] rest else token.reverse :: tokensFrom [] rest
    else tokensFrom (c :: token) rest

/-- The longest runs of characters that are not blank, from left to right. -/
def tokens (t : Text) : List Text := tokensFrom [] t

/-! ### Digits of every script -/

/-- The digits zero (general category Nd). Each stands before the digits one to nine of its kind. -/
def zeros : List Nat :=
  [0x30, 0x660, 0x6F0, 0x7C0, 0x966, 0x9E6, 0xA66, 0xAE6, 0xB66, 0xBE6, 0xC66, 0xCE6, 0xD66,
   0xDE6, 0xE50, 0xED0, 0xF20, 0x1040, 0x1090, 0x17E0, 0x1810, 0x1946, 0x19D0, 0x1A80, 0x1A90,
   0x1B50, 0x1BB0, 0x1C40, 0x1C50, 0xA620, 0xA8D0, 0xA900, 0xA9D0, 0xA9F0, 0xAA50, 0xABF0,
   0xFF10, 0x104A0, 0x10D30, 0x11066, 0x110F0, 0x11136, 0x111D0, 0x112F0, 0x11450, 0x114D0,
   0x11650, 0x116C0, 0x11730, 0x118E0, 0x11950, 0x11C50, 0x11D50, 0x11DA0, 0x16A60, 0x16AC0,
   0x16B50, 0x1D7CE, 0x1D7D8, 0x1D7E2, 0x1D7EC, 0x1D7F6, 0x1E140, 0x1E2F0, 0x1E950, 0x1FBF0]

/-- The value of a decimal digit of any script. -/
def decimal? (c : Char) : Option Nat :=
  (zeros.find? fun start => start ≤ c.toNat && c.toNat < start + 10).map fun start =>
    c.toNat - start

/-- What `c` is in a number: an ASCII character is itself; beyond ASCII a digit is the ASCII digit
of its value, white space is a space, and everything else is a mark that no number holds. -/
def numeral (c : Char) : Char :=
  if c.toNat < 127 then c
  else if isBlank c then ' '
  else match decimal? c with
    | some d => Char.ofNat (0x30 + d)
    | none => '?'

/-- May `c` stand before and behind a number? -/
def isPadding (c : Char) : Bool := c = ' ' || ('\t' ≤ c && c ≤ '\r')

/-! ### Words up to case -/

/-- The small ASCII letter that `c` counts as, or `c` itself. Besides the capitals the long s, the
Kelvin sign, the dotless i and the dotted capital I count as a letter. -/
def plain (c : Char) : Char :=
  if 'A' ≤ c ∧ c ≤ 'Z' then Char.ofNat (c.toNat + 32)
  else if c = 'ſ' then 's'
  else if c = '\u212A' then 'k'
  else if c = '\u0131' ∨ c = '\u0130' then 'i'
  else c

/-- What follows `word` at the start of a text, if it stands there up to case. -/
def afterWord? : Text → Text → Option Text
  | [], t => some t
  | _ :: _, [] => none
  | w :: word, c :: t => if plain c = plain w then afterWord? word t else none

/-- What follows the first of `words` that stands at the start of a text. -/
def afterOneOf? (words : List Text) (t : Text) : Option Text :=
  words.findSome? (afterWord? · t)

end Text

end Scenarist
