/-
Texts in code, and texts quoted in running text. Literals have two forms: `single` always uses the
apostrophe and escapes what would end the literal or its line; `printable` picks the quote from the
content and shows only printable characters, and is also the form in which texts stand in messages;
bytes have one like it. Comments and docstrings share a line with the marks around them and write the
characters that end a line of code, the line feed left out, as escapes. A quoted passage stands
between a double quote and the next one, read from left to right.
-/

import Scenarist.Text.Printable

namespace Scenarist.Literal

/-! ### Literals -/

/-- One character inside an apostrophe literal. -/
def singleChar (c : Char) : Text :=
  if c = '\\' then "\\\\"
  else if c = '\'' then "\\'"
  else if c = '\n' then "\\n"
  else if c = '\r' then "\\r"
  else if c = '\x00' then "\\x00"
  else if c = '\u2028' then "\\u2028"
  else if c = '\u2029' then "\\u2029"
  else [c]

/-- The apostrophe literal of a text. -/
def single (t : Text) : Text := '\'' :: t.flatMap singleChar ++ ['\'']

/-- A character by its code point, in two, four or eight hexadecimal digits. -/
def codeEscape (c : Char) : Text :=
  if c.toNat < 0x100 then "\\x" ++ Text.hex 2 c.toNat
  else if c.toNat < 0x10000 then "\\u" ++ Text.hex 4 c.toNat
  else "\\U" ++ Text.hex 8 c.toNat

/-- One character inside a printable literal between `quote`s. -/
def printableChar (quote c : Char) : Text :=
  if c = quote ∨ c = '\\' then ['\\', c]
  else if c = '\t' then "\\t"
  else if c = '\n' then "\\n"
  else if c = '\r' then "\\r"
  else if Text.isPrintable c then [c]
  else codeEscape c

/-- Apostrophes stand around a text unless it holds an apostrophe and no double quote. -/
def quoteFor (t : Text) : Char :=
  if t.contains '\'' && !t.contains '"' then '"' else '\''

/-- The printable literal of a text. -/
def printable (t : Text) : Text :=
  let quote := quoteFor t
  quote :: t.flatMap (printableChar quote) ++ [quote]

/-- One byte inside a printable literal between `quote`s. -/
def byteChar (quote : Char) (b : UInt8) : Text :=
  if b < 0x7F then printableChar quote (Char.ofNat b.toNat) else "\\x" ++ Text.hex 2 b.toNat

/-- The printable literal of bytes. -/
def bytes (bs : List UInt8) : Text :=
  let quote := quoteFor (bs.map fun b => Char.ofNat b.toNat)
  'b' :: quote :: bs.flatMap (byteChar quote) ++ [quote]

/-! ### Comments and docstrings -/

/-- One character behind a comment mark. -/
def commentChar (c : Char) : Text :=
  if c = '\r' then "\\r"
  else if c = '\x00' then "\\x00"
  else if c = '\u2028' then "\\u2028"
  else if c = '\u2029' then "\\u2029"
  else [c]

/-- A text as it stands behind a comment mark. -/
def comment (t : Text) : Text := t.flatMap commentChar

/-- A text with a backslash before each of its backslashes and double quotes. -/
def slashed (t : Text) : Text :=
  t.flatMap fun c => if c = '\\' then "\\\\" else if c = '"' then "\\\"" else [c]

/-- The three double quotes at either end of a docstring. -/
def tripleQuote : Text := "\"\"\""

/-- The docstring of a text. -/
def docstring (t : Text) : Text := tripleQuote ++ comment (slashed t) ++ tripleQuote

/-- The selector of a button or link by the text it shows. -/
def hasText (label : Text) : Text :=
  "button:has-text(\"" ++ slashed label ++ "\"), a:has-text(\"" ++ slashed label ++ "\")"

/-! ### Quoted passages -/

/-- Reads on, outside a passage or inside one whose text so far is given last character first. -/
def passagesFrom : Option Text → Text → List Text
  | _, [] => []
  | none, c :: rest =>
    if c = '"' then passagesFrom (some []) rest else passagesFrom none rest
  | some passage, c :: rest =>
    if c = '"' then passage.reverse :: passagesFrom none rest
    else passagesFrom (some (c :: passage)) rest

/-- The quoted passages of a text, without their quotes. A quote left open quotes nothing. -/
def passages (t : Text) : List Text := passagesFrom none t

/-- The first quoted passage of a text. -/
def firstPassage? (t : Text) : Option Text := (passages t).head?

end Scenarist.Literal
