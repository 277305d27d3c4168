/-
Tags: what kind of value a node stands for. A plain scalar without a tag is tried as truth value,
decimal, integer, merge mark, null and moment in turn, and is a text if it is none of them.
-/

import Scenarist.Settings.Moment

namespace Scenarist.Yaml

/-- The kinds of value. -/
inductive Tag where
  | null
  | bool
  | int
  | float
  | str
  | binary
  | timestamp
  | seq
  | map
  /-- A list of pairs in order. -/
  | omap
  /-- A list of pairs. -/
  | pairs
  | set
  /-- The key `<<`, whose mappings join the one around it. -/
  | merge
  /-- The key `=`. -/
  | value
  | other
  deriving DecidableEq, Repr

namespace Tag

/-- The kinds that can be asked for by name. -/
def names : List (Text × Tag) :=
  [("null", null), ("bool", bool), ("int", int), ("float", float), ("str", str), ("seq", seq),
   ("map", map), ("binary", binary), ("timestamp", timestamp), ("omap", omap), ("pairs", pairs),
   ("set", set), ("merge", merge), ("value", value)]

/-- What the full names of these kinds start with. -/
def lead : Text := "tag:yaml.org,2002:"

/-- The kind with this full name. -/
def ofText (t : Text) : Tag :=
  ((Text.afterLead? lead t).bind fun name => names.lookup name).getD other

/-- The spellings of the two truth values. -/
def truths : List (Text × Bool) :=
  [("yes", true), ("true", true), ("on", true), ("no", false), ("false", false), ("off", false)]

/-- A word in small letters, with a capital at its start, and in capitals. -/
def cases (word : Text) : List Text :=
  let capital (c : Char) : Char := Char.ofNat (c.toNat - 32)
  match word with
  | [] => [[]]
  | c :: rest => [word, capital c :: rest, word.map capital]

/-- Is the plain scalar a truth value? -/
def isTruth (t : Text) : Bool := (truths.flatMap fun word => cases word.1).contains t

/-- Is the plain scalar a null? -/
def isNull (t : Text) : Bool := t = "~" || (cases "null").contains t

/-- Is `c` an ASCII digit or a low line? -/
def isDigitOrLine (c : Char) : Bool := c.isDigit || c = '_'

/-- The number without its sign. -/
def unsigned : Text → Text
  | '-' :: rest => rest
  | '+' :: rest => rest
  | t => t

/-- Is the text a number below sixty in one or two digits? -/
def isSixtieth : Text → Bool
  | [c] => c.isDigit
  | [c, d] => '0' ≤ c && c ≤ '5' && d.isDigit
  | _ => false

/-- Does the text start with a digit and hold nothing but digits and low lines? -/
def isDigits : Text → Bool
  | [] => false
  | c :: rest => c.isDigit && rest.all isDigitOrLine

/-- Is the plain scalar an integer: binary, octal, hexadecimal, decimal or in base sixty? -/
def isInteger (t : Text) : Bool :=
  match unsigned t with
  | ['0'] => true
  | '0' :: 'b' :: rest => !rest.isEmpty && rest.all fun c => c = '0' || c = '1' || c = '_'
  | '0' :: 'x' :: rest =>
    !rest.isEmpty && rest.all fun c => (Text.hexDigit? c).isSome || c = '_'
  | '0' :: rest => rest.all fun c => ('0' ≤ c && c ≤ '7') || c = '_'
  | body =>
    match Text.cut ':' body with
    | whole :: sixtieths => isDigits whole && sixtieths.all isSixtieth
    | [] => false

/-- Is the text a fraction of digits and low lines, with a signed exponent or without one? -/
def isFraction (t : Text) : Bool :=
  let digits := t.takeWhile isDigitOrLine
  match t.drop digits.length with
  | [] => true
  | e :: sign :: exponent =>
    (e = 'e' || e = 'E') && (sign = '-' || sign = '+') && !exponent.isEmpty &&
      exponent.all Char.isDigit
  | _ => false

/-- Is the plain scalar a decimal: with a point, in base sixty with a point, or one of the special
values? -/
def isDecimal (t : Text) : Bool :=
  match t with
  | '.' :: c :: rest =>
    (c.isDigit && isFraction rest) ||
      ([".inf", ".Inf", ".INF", ".nan", ".NaN", ".NAN"] : List Text).contains t
  | _ =>
    match unsigned t with
    | '.' :: _ => ([".inf", ".Inf", ".INF"] : List Text).contains (unsigned t)
    | body =>
      match Text.cutFirst? '.' body with
      | none => false
      | some (before, after) =>
        match Text.cut ':' before with
        | [whole] => isDigits whole && isFraction after
        | whole :: sixtieths =>
          isDigits whole && sixtieths.all isSixtieth && after.all isDigitOrLine
        | [] => false

/-- The kind of a scalar without a tag that is not empty. -/
def ofWord (t : Text) : Tag :=
  if isTruth t then bool
  else if isDecimal t then float
  else if isInteger t then int
  else if t = "<<" then merge
  else if isNull t then null
  else if Moment.isPlain t then timestamp
  else if t = "=" then value
  else if t = "!" || t = "&" || t = "*" then other
  else str

/-- The text without the line feed at its end, if there is one. -/
def withoutBreak (t : Text) : Text :=
  if t.getLast? = some '\n' then t.dropLast else t

/-- The kind of a scalar without a tag. Nothing at all is a null, and a line feed at the end does
not count. -/
def ofPlain (t : Text) : Tag :=
  if t.isEmpty then null
  else if (withoutBreak t).isEmpty then str
  else ofWord (withoutBreak t)

end Tag

end Scenarist.Yaml
