/-
Why a YAML text has no value, and the wording of it. Most flaws make the text no YAML; the others
come up when a character, a number or a moment that it asks for does not exist.
-/

import Scenarist.Literal.Basic
import Scenarist.Settings.Moment
import Scenarist.Text.Bytes

namespace Scenarist.Yaml

/-- Why a text has no value. -/
inductive Flaw where
  /-- The text is not one well-formed document of known tags. -/
  | malformed
  /-- The text ends where it has to go on. -/
  | cutShort
  /-- The bytes of the text are no UTF-8. -/
  | encoding (e : Utf8.Error)
  /-- An escape names a number above the last code point. -/
  | codePoint
  /-- An escape names a number of more than 31 bits. -/
  | codePointSize
  /-- A number has no digits that can be read in its base. -/
  | integer (base : Nat) (digits : Text)
  /-- A decimal number has too many digits. -/
  | digitCount (digits : Nat)
  /-- A tagged decimal is none. -/
  | decimal (text : Text)
  /-- A decimal in base sixty has too many parts. -/
  | decimalSize
  /-- A tagged truth value is none. -/
  | truth (text : Text)
  /-- A tagged number is empty. -/
  | emptyNumber
  /-- A tagged moment has not the form of one. -/
  | momentForm
  /-- A moment is tagged that stands in a mapping. -/
  | momentKind
  /-- There is no such moment. -/
  | moment (fault : Moment.Fault)
  /-- Collections are nested too deeply, or without an end. -/
  | tooDeep
  deriving DecidableEq, Repr

namespace Flaw

/-- How much of a literal is shown when it is no number. -/
def shownWidth : Nat := 200

/-- The wording of the limit on digits. -/
def digitLimitMessage (count : Text) : Text :=
  "Exceeds the limit (4300 digits) for integer string conversion" ++ count ++
    "; use sys.set_int_max_str_digits() to increase the limit"

/-- The wording of values nested without an end. -/
def depthMessage : Text := "maximum recursion depth exceeded"

/-- The wording of a flaw. -/
def message : Flaw → Text
  | malformed => "malformed"
  | cutShort => "malformed"
  | encoding e => e.message
  | codePoint => "chr() arg not in range(0x110000)"
  | codePointSize => "Python int too large to convert to C int"
  | integer base digits =>
    "invalid literal for int() with base " ++ Text.ofNat base ++ ": " ++
      (Literal.printable digits).take shownWidth
  | digitCount digits => digitLimitMessage (": value has " ++ Text.ofNat digits ++ " digits")
  | decimal text => "could not convert string to float: " ++ Literal.printable text
  | decimalSize => "int too large to convert to float"
  | truth text => Literal.printable text
  | emptyNumber => "string index out of range"
  | momentForm => "'NoneType' object has no attribute 'groupdict'"
  | momentKind => "expected string or bytes-like object, got 'list'"
  | moment fault => fault.message
  | tooDeep => depthMessage

/-- Is the flaw one of the text or of what a value may be? The others are slips in the making of a
value. -/
def isExpected : Flaw → Bool
  | codePointSize => false
  | decimalSize => false
  | truth _ => false
  | emptyNumber => false
  | momentForm => false
  | momentKind => false
  | tooDeep => false
  | _ => true

end Flaw

end Scenarist.Yaml
