/-!
# Binary floating point

The numbers of the IEEE 754 format binary64, as exact values. A finite number is
`mantissa * 2 ^ exponent` with a sign, in its one canonical form: the mantissa has 53 binary digits
unless the exponent is the least one. Reading rounds a decimal to the nearest such number, and of
two equally near ones to that with the even mantissa.

A NaN bears a mark. As numbers all of them are alike, and none is equal to any; the mark tells which
of them are one and the same where they are not taken as numbers.
-/

namespace ClientGen.Number

/-- A binary64 number. -/
inductive Binary64
  | finite (negative : Bool) (mantissa : Nat) (exponent : Int)
  | infinite (negative : Bool)
  | nan (mark : Nat)
  deriving DecidableEq, Repr, Inhabited

/-- A power of a natural number. -/
def power (base exponent : Nat) : Nat := Nat.pow base exponent

namespace Binary64

/-- The least exponent of a finite number. -/
def minExponent : Int := -1074

/-- The greatest exponent of a finite number. -/
def maxExponent : Int := 971

/-- Nearest integer to `num / den`, a half going to the even neighbour. -/
def roundDiv (num den : Nat) : Nat :=
  let q := num / den
  let r := num % den
  if 2 * r < den then q else if den < 2 * r then q + 1 else if q % 2 = 0 then q else q + 1

/-- The nearest integer to `num / (den * 2 ^ e)`. -/
def roundScaled (num den : Nat) (e : Int) : Nat :=
  if 0 ≤ e then roundDiv num (den * power 2 e.toNat)
  else roundDiv (num * power 2 (-e).toNat) den

/-- Whether `num / (den * 2 ^ e)` is below `2 ^ 53`. -/
def fits (num den : Nat) (e : Int) : Bool :=
  if 0 ≤ e then num < power 2 53 * (den * power 2 e.toNat)
  else num * power 2 (-e).toNat < power 2 53 * den

/-- The number nearest to `num / den`, for a positive `den`. -/
def ofRatio (negative : Bool) (num den : Nat) : Binary64 :=
  let guess : Int := (num.log2 : Int) - den.log2 - 53
  let e := max minExponent (if fits num den guess then guess else guess + 1)
  let m := roundScaled num den e
  let (m, e) := if m = power 2 53 then (power 2 52, e + 1) else (m, e)
  if maxExponent < e then .infinite negative else .finite negative m e

/-- The number nearest to `digits * 10 ^ exponent`. Exponents far outside the range are decided by
the count of digits, without computing the power. -/
def ofDecimal (negative : Bool) (digits : Nat) (exponent : Int) : Binary64 :=
  let places : Int := (Nat.toDigits 10 digits).length
  if digits = 0 then .finite negative 0 minExponent
  else if places + exponent > 310 then .infinite negative
  else if places + exponent < -330 then .finite negative 0 minExponent
  else if 0 ≤ exponent then ofRatio negative (digits * power 10 exponent.toNat) 1
  else ofRatio negative digits (power 10 (-exponent).toNat)

/-- The absolute value of a finite number as a fraction. -/
def magnitude (mantissa : Nat) (exponent : Int) : Nat × Nat :=
  if 0 ≤ exponent then (mantissa * power 2 exponent.toNat, 1)
  else (mantissa, power 2 (-exponent).toNat)

/-- The integer a number is equal to, if there is one. -/
def toInt? : Binary64 → Option Int
  | .finite negative m e =>
    let (num, den) := magnitude m e
    if num % den = 0 then
      let n : Int := num / den
      some (if negative then -n else n)
    else none
  | .infinite _ => none
  | .nan _ => none

/-- Whether a number is one of the two zeros. -/
def isZero : Binary64 → Bool
  | .finite _ m _ => m == 0
  | .infinite _ => false
  | .nan _ => false

/-- Equality of numbers: NaN differs from itself, and the two zeros are equal. -/
def eq : Binary64 → Binary64 → Bool
  | .nan _, _ => false
  | _, .nan _ => false
  | a, b => a == b || (a.isZero && b.isZero)

end Binary64

end ClientGen.Number
