/-
Reading the numbers of settings: integers in four bases and in base sixty, decimals with a point, an
exponent or parts in base sixty. Digits of every script count, and white space may stand around a
number.
-/

import Scenarist.Decimal.Binary64
import Scenarist.Settings.Value
import Scenarist.Text.Basic
import Scenarist.Text.Lower
import Scenarist.Yaml.Flaw
import Scenarist.Yaml.Tag

namespace Scenarist.Yaml

/-- The number without the low lines between its digits. -/
def withoutLines (t : Text) : Text := t.filter (· ≠ '_')

/-- Does the number have a minus sign? -/
def isNegative (t : Text) : Bool := t.head? = some '-'

/-- The letter that may stand with a zero before digits of a base. -/
def baseLetter? : Nat → Option Char
  | 2 => some 'b'
  | 8 => some 'o'
  | 16 => some 'x'
  | _ => none

/-- The digits without the mark of their base. -/
def withoutMark (base : Nat) (t : Text) : Text :=
  match t with
  | '0' :: c :: rest => if baseLetter? base = some c.toLower then rest else t
  | _ => t

/-- Reads a whole number: its digits after a sign or none and the mark of the base or none, with
white space around them or none. -/
def whole (base : Nat) (t : Text) : Except Flaw Int :=
  let body := (t.map Text.numeral).dropWhile Text.isPadding
  let digit (c : Char) : Option Nat := (Text.hexDigit? c).filter (· < base)
  let start := withoutMark base (Tag.unsigned body)
  let digits := start.takeWhile fun c => (digit c).isSome
  if base = 10 && digitLimit < digits.length then .error (.digitCount digits.length)
  else if digits.isEmpty || !(start.drop digits.length).all Text.isPadding then
    .error (.integer base t)
  else
    let size : Int := Text.number base (digits.filterMap digit)
    .ok (if isNegative body then -size else size)

/-- Reads an integer without its sign: binary, octal, hexadecimal, decimal or in base sixty. -/
def unsignedInteger (t : Text) : Except Flaw Int :=
  match t with
  | [] => .error .emptyNumber
  | ['0'] => .ok 0
  | '0' :: 'b' :: rest => whole 2 rest
  | '0' :: 'x' :: rest => whole 16 rest
  | '0' :: rest => whole 8 ('0' :: rest)
  | _ => ((Text.cut ':' t).mapM (whole 10)).map fun parts =>
    parts.foldl (fun value part => value * 60 + part) 0

/-- The value of an integer. -/
def integer (t : Text) : Except Flaw Int :=
  let t := withoutLines t
  (unsignedInteger (Tag.unsigned t)).map fun size => if isNegative t then -size else size

/-- The power of ten that an exponent asks for: none, or the letter `e` with a whole number. -/
def exponent? : Text → Option Int
  | [] => some 0
  | 'e' :: power =>
    match (Tag.unsigned power).mapM Text.digit? with
    | some (d :: more) =>
      let size : Int := Text.number 10 (d :: more)
      some (if isNegative power then -size else size)
    | _ => none
  | _ => none

/-- The value of decimal digits with a point and an exponent, or of a special value. -/
def plainDecimal (t : Text) : Except Flaw Binary64 :=
  let stripped := Text.trim Text.isPadding (t.map Text.numeral)
  let body := Tag.unsigned stripped
  let before := body.takeWhile Char.isDigit
  let (fraction, rest) : Text × Text := match body.drop before.length with
    | '.' :: rest => (rest.takeWhile Char.isDigit, rest.dropWhile Char.isDigit)
    | rest => ([], rest)
  match (before ++ fraction).mapM Text.digit?, exponent? rest with
  | some (d :: more), some power =>
    .ok (Binary64.ofDecimal (isNegative stripped) (Text.number 10 (d :: more))
      (power - fraction.length))
  | _, _ =>
    if body = "inf" || body = "infinity" then .ok (.infinite (isNegative stripped))
    else if body = "nan" then .ok .nan
    else .error (.decimal t)

/-- The sum of the parts of a number in base sixty, the last part first; `scale` is what the first
of them counts. -/
def sixtieths : Nat → Binary64 → List Binary64 → Except Flaw Binary64
  | _, sum, [] => .ok sum
  | scale, sum, part :: rest =>
    match Binary64.ofNat? scale with
    | some factor => sixtieths (scale * 60) (sum.add (part.mul factor)) rest
    | none => .error .decimalSize

/-- The value of a decimal in small letters and without low lines. -/
def lowerDecimal (t : Text) : Except Flaw Binary64 := do
  let body := Tag.unsigned t
  if t.isEmpty then .error .emptyNumber
  else if body = ".inf" then return .infinite (isNegative t)
  else if body = ".nan" then return .nan
  else if body.contains ':' then
    let parts ← (Text.cut ':' body).mapM plainDecimal
    return (← sixtieths 1 (Binary64.zero false) parts.reverse).withSign (isNegative t)
  else return (← plainDecimal body).withSign (isNegative t)

/-- The letters and digits that make up a decimal. -/
def decimalBody (t : Text) : Text := Text.lower (withoutLines t)

/-- Is the decimal the value `.nan`, which is the same wherever it is written? -/
def isSharedNan (t : Text) : Bool := Tag.unsigned (decimalBody t) = ".nan"

end Scenarist.Yaml
