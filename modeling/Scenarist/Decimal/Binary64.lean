/-
Floating-point numbers of 64 bits as exact values: a mantissa below 2^53 times a power of two from
2^-1074 on. Every result is rounded to the nearest such value, a tie to the even mantissa.
-/

namespace Scenarist

/-- A floating-point number. A finite one is `mantissa * 2 ^ exponent` up to its sign, with the
smallest exponent that keeps the mantissa exact and at least -1074. -/
inductive Binary64 where
  | nan
  | infinite (negative : Bool)
  | finite (negative : Bool) (mantissa : Nat) (exponent : Int)
  deriving DecidableEq, Repr

namespace Binary64

/-- Zero, with a sign. -/
def zero (negative : Bool) : Binary64 := .finite negative 0 0

/-- A power of two. -/
def twoTo (n : Nat) : Nat := Nat.pow 2 n

/-- A power of ten. -/
def tenTo (n : Nat) : Nat := Nat.pow 10 n

/-- The number of 53 bits that a mantissa stays below. -/
def mantissaBound : Nat := twoTo 53

/-- `num / den` to the nearest integer, a tie to the even one. -/
def divNearest (num den : Nat) : Nat :=
  let quotient := num / den
  let rest := num % den
  if 2 * rest < den then quotient
  else if den < 2 * rest then quotient + 1
  else if quotient % 2 = 0 then quotient else quotient + 1

/-- `num / (den * 2 ^ exponent)` as a quotient of natural numbers. -/
def scaled (num den : Nat) (exponent : Int) : Nat × Nat :=
  if 0 ≤ exponent then (num, den * twoTo exponent.toNat) else (num * twoTo (-exponent).toNat, den)

/-- The exponent at which the quotient `num / den` has 53 bits, or -1074 if that is more. -/
def exponentFor (num den : Nat) : Int :=
  let guess : Int := (Nat.log2 num : Int) - Nat.log2 den - 52
  let (n, d) := scaled num den guess
  max (if n / d < twoTo 52 then guess - 1 else guess) (-1074)

/-- The floating-point number nearest to a quotient. -/
def ofRatio (negative : Bool) (num den : Nat) : Binary64 :=
  if num = 0 then zero negative
  else
    let exponent := exponentFor num den
    let (n, d) := scaled num den exponent
    let mantissa := divNearest n d
    if mantissa = 0 then zero negative
    else
      let (mantissa, exponent) :=
        if mantissa = mantissaBound then (twoTo 52, exponent + 1) else (mantissa, exponent)
      if 971 < exponent then .infinite negative else .finite negative mantissa exponent

/-- The floating-point number nearest to `digits * 10 ^ power`. Powers far out of range are not
computed. -/
def ofDecimal (negative : Bool) (digits : Nat) (power : Int) : Binary64 :=
  if digits = 0 then zero negative
  else
    let size : Int := (Nat.toDigits 10 digits).length + power
    if 400 < size then .infinite negative
    else if size < -400 then zero negative
    else if 0 ≤ power then ofRatio negative (digits * tenTo power.toNat) 1
    else ofRatio negative digits (tenTo (-power).toNat)

/-- The floating-point number nearest to `mantissa * 2 ^ exponent`. -/
def ofScaled (negative : Bool) (mantissa : Nat) (exponent : Int) : Binary64 :=
  let (n, d) := scaled mantissa 1 (-exponent)
  ofRatio negative n d

/-- A finite number as an integer at a smaller exponent. -/
def aligned (negative : Bool) (mantissa : Nat) (exponent least : Int) : Int :=
  let size : Int := (mantissa * twoTo (exponent - least).toNat : Nat)
  if negative then -size else size

/-- The sum of two numbers. Zeros of different signs make a zero without one, and so do numbers that
cancel out. -/
def add : Binary64 → Binary64 → Binary64
  | .nan, _ => .nan
  | _, .nan => .nan
  | .infinite s, .infinite t => if s = t then .infinite s else .nan
  | .infinite s, .finite _ _ _ => .infinite s
  | .finite _ _ _, .infinite t => .infinite t
  | .finite s m e, .finite t n f =>
    let least := min e f
    let sum := aligned s m e least + aligned t n f least
    if sum = 0 then zero (s && t) else ofScaled (decide (sum < 0)) sum.natAbs least

/-- The product of two numbers. -/
def mul : Binary64 → Binary64 → Binary64
  | .nan, _ => .nan
  | _, .nan => .nan
  | .infinite s, .infinite t => .infinite (s != t)
  | .infinite s, .finite t n _ => if n = 0 then .nan else .infinite (s != t)
  | .finite s m _, .infinite t => if m = 0 then .nan else .infinite (s != t)
  | .finite s m e, .finite t n f => ofScaled (s != t) (m * n) (e + f)

/-- The floating-point number nearest to a natural number, unless that is too large. -/
def ofNat? (n : Nat) : Option Binary64 :=
  match ofRatio false n 1 with
  | .finite s m e => some (.finite s m e)
  | _ => none

/-- The number with its sign changed if `negative`. -/
def withSign (negative : Bool) : Binary64 → Binary64
  | .nan => .nan
  | .infinite sign => .infinite (sign != negative)
  | .finite sign m e => .finite (sign != negative) m e

/-- Is the number a zero? -/
def isZero : Binary64 → Bool
  | .finite _ m _ => m = 0
  | _ => false

/-- The integer that the number is. -/
def integer? : Binary64 → Option Int
  | .finite negative m e =>
    let sign : Int := if negative then -1 else 1
    if 0 ≤ e then some (sign * (m * twoTo e.toNat : Nat))
    else
      let scale := twoTo (-e).toNat
      if m % scale = 0 then some (sign * (m / scale : Nat)) else none
  | _ => none

end Binary64

end Scenarist
