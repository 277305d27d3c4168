/-
The shortest decimal text of a floating-point number: the fewest digits that read back as the
number, and of those the nearest to it. Whole numbers keep a zero behind the point; numbers from
1e16 on and below 1e-4 are written with an exponent.
-/

import Scenarist.Decimal.Binary64
import Scenarist.Text.Basic

namespace Scenarist.Binary64

/-- A positive number between the limits of what rounds to it, all over one denominator. -/
structure Interval where
  value : Nat
  low : Nat
  high : Nat
  den : Nat
  /-- Do the limits themselves round to the number? -/
  closed : Bool

/-- The interval of a mantissa and an exponent. Below a power of two the next number is only half
as far. -/
def interval (mantissa : Nat) (exponent : Int) : Interval :=
  let below := if mantissa = twoTo 52 ∧ -1074 < exponent then 1 else 2
  let (unit, den) : Nat × Nat :=
    if 0 ≤ exponent then (twoTo exponent.toNat, 4) else (1, 4 * twoTo (-exponent).toNat)
  { value := 4 * mantissa * unit
    low := 4 * mantissa * unit - below * unit
    high := 4 * mantissa * unit + 2 * unit
    den := den
    closed := mantissa % 2 = 0 }

/-- Does `digits * 10 ^ power` round to the number of the interval? -/
def Interval.has (i : Interval) (digits : Nat) (power : Int) : Bool :=
  let (point, scale) : Nat × Nat :=
    if 0 ≤ power then (digits * tenTo power.toNat * i.den, 1)
    else (digits * i.den, tenTo (-power).toNat)
  if i.closed then i.low * scale ≤ point && point ≤ i.high * scale
  else i.low * scale < point && point < i.high * scale

/-- The multiple of `10 ^ power` in the interval that is nearest to its number. -/
def Interval.onGrid? (i : Interval) (power : Int) : Option Nat :=
  let (num, den) : Nat × Nat :=
    if 0 ≤ power then (i.value, i.den * tenTo power.toNat)
    else (i.value * tenTo (-power).toNat, i.den)
  let nearest := divNearest num den
  let other := if nearest = num / den then nearest + 1 else num / den
  if i.has nearest power then some nearest
  else if i.has other power then some other
  else none

/-- The least power of ten above `num / den`, found by stepping down from `start`. -/
def magnitude (num den : Nat) : Nat → Int → Int
  | 0, power => power
  | fuel + 1, power =>
    let reaches : Bool :=
      if 0 ≤ power - 1 then den * tenTo (power - 1).toNat ≤ num
      else den ≤ num * tenTo (1 - power).toNat
    if reaches then power else magnitude num den fuel (power - 1)

/-- The digits of the coarsest grid that has a point in the interval, with the grid's power. -/
def Interval.shortest (i : Interval) (top : Int) : Nat → Nat → Nat × Int
  | 0, _ => (0, 0)
  | fuel + 1, places =>
    match i.onGrid? (top - places) with
    | some digits => (digits, top - places)
    | none => Interval.shortest i top fuel (places + 1)

/-- The digits without the zeros at their end. -/
def significant (digits : Text) : Text := (digits.reverse.dropWhile (· = '0')).reverse

/-- Digits with the point after `point` of them: positional between 1e-4 and 1e16, otherwise with an
exponent of two digits at least. -/
def layout (digits : Text) (point : Int) : Text :=
  if -4 < point ∧ point ≤ 16 then
    if point ≤ 0 then "0." ++ List.replicate (-point).toNat '0' ++ digits
    else if (digits.length : Int) ≤ point then
      digits ++ List.replicate (point.toNat - digits.length) '0' ++ ".0"
    else digits.take point.toNat ++ '.' :: digits.drop point.toNat
  else
    let power := point - 1
    let size := Text.ofNat power.natAbs
    let size := if size.length < 2 then '0' :: size else size
    let fraction : Text := match digits with
      | [] => []
      | [d] => [d]
      | d :: more => d :: '.' :: more
    fraction ++ 'e' :: (if power < 0 then '-' else '+') :: size

/-- The shortest text of a number. -/
def text : Binary64 → Text
  | .nan => "nan"
  | .infinite negative => (if negative then ['-'] else []) ++ "inf"
  | .finite negative mantissa exponent =>
    let sign : Text := if negative then ['-'] else []
    if mantissa = 0 then sign ++ "0.0"
    else
      let i := interval mantissa exponent
      let top := magnitude i.value i.den 700 310
      let (digits, power) := i.shortest top 18 1
      let all := Text.ofNat digits
      sign ++ layout (significant all) (all.length + power)

end Scenarist.Binary64
