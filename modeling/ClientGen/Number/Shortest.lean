import ClientGen.Number.Binary64

/-!
# Shortest decimal text

The decimal with the fewest digits among those that read back as a given binary64 number, and of
these the nearest to it, an exact tie going to the even digit. It is written positionally from
`0.0001` up to sixteen digits before the point, and with a power of ten outside that range.
-/

namespace ClientGen.Number

/-- `10 ^ e` as a fraction. -/
def powTen (e : Int) : Nat × Nat :=
  if 0 ≤ e then (power 10 e.toNat, 1) else (1, power 10 (-e).toNat)

namespace Binary64

/-- The two ends of the interval of reals that round to `mantissa * 2 ^ exponent`, each as a
numerator over the common denominator that is the third component. Below a power of two the
neighbour is only half as far away. -/
def roundingInterval (mantissa : Nat) (exponent : Int) : Nat × Nat × Nat :=
  let (num, den) := magnitude 1 exponent
  let low := if mantissa = power 2 52 ∧ minExponent < exponent then 4 * mantissa - 1
    else 4 * mantissa - 2
  (low * num, (4 * mantissa + 2) * num, 4 * den)

/-- The decimal `d * 10 ^ e` reads back as `mantissa * 2 ^ exponent`: it lies in the interval, the
ends of which belong to it exactly when the mantissa is even. -/
def readsBack (mantissa : Nat) (exponent : Int) (d : Nat) (e : Int) : Bool :=
  let (low, high, den) := roundingInterval mantissa exponent
  let (num, scale) := powTen e
  let x := d * num * den
  if mantissa % 2 = 0 then low * scale ≤ x && x ≤ high * scale
  else low * scale < x && x < high * scale

/-- The number of decimal places before the point of the fraction `num / den`: the least `p` with
`num / den < 10 ^ p`. -/
def decimalPlaces (num den : Nat) : Int :=
  let guess : Int := (Nat.toDigits 10 num).length - (Nat.toDigits 10 den).length
  let (n, d) := powTen guess
  if num * d < n * den then guess else guess + 1

/-- The neighbour of `num / den` on the grid of multiples of `10 ^ e` that reads back, the nearer
one if both do, an even one on a tie. -/
def gridPoint? (mantissa : Nat) (exponent : Int) (e : Int) : Option Nat :=
  let (num, den) := magnitude mantissa exponent
  let (n, d) := powTen e
  let low := num * d / (den * n)
  let rest := num * d % (den * n)
  let high := low + 1
  match readsBack mantissa exponent low e, readsBack mantissa exponent high e with
  | true, true =>
    if 2 * rest < den * n then some low
    else if den * n < 2 * rest then some high
    else if low % 2 = 0 then some low else some high
  | true, false => some low
  | false, true => some high
  | false, false => none

/-- The first grid, from `left` digits below seventeen on, that has a point which reads back. -/
def shortestFrom (mantissa : Nat) (exponent : Int) (places : Int) : Nat → Nat × Int
  | 0 => (mantissa, 0)
  | left + 1 =>
    let e := places - (17 - left : Int)
    match gridPoint? mantissa exponent e with
    | some d => (d, e)
    | none => shortestFrom mantissa exponent places left

/-- The shortest decimal of a positive finite number, as digits and a power of ten. -/
def shortest (mantissa : Nat) (exponent : Int) : Nat × Int :=
  let (num, den) := magnitude mantissa exponent
  shortestFrom mantissa exponent (decimalPlaces num den) 17

/-- The digits of a number and the place of its point among them, without zeros at the end. -/
def significant (d : Nat) (e : Int) : List Char × Int :=
  let digits := Nat.toDigits 10 d
  let kept := (digits.reverse.dropWhile (· == '0')).reverse
  (kept, digits.length + e)

/-- Where the point goes: `point` digits stand before it. -/
def positional (digits : List Char) (point : Int) : List Char :=
  if point ≤ 0 then '0' :: '.' :: List.replicate (-point).toNat '0' ++ digits
  else
    let p := point.toNat
    if digits.length ≤ p then digits ++ List.replicate (p - digits.length) '0' ++ ['.', '0']
    else digits.take p ++ '.' :: digits.drop p

/-- One digit before the point and a power of ten with a sign and at least two digits. -/
def scientific (digits : List Char) (point : Int) : List Char :=
  let power := point - 1
  let ds := Nat.toDigits 10 power.natAbs
  let fraction := match digits with
    | [] => ['0']
    | [d] => [d]
    | d :: ds => d :: '.' :: ds
  fraction ++ 'e' :: (if power < 0 then '-' else '+') :: List.replicate (2 - ds.length) '0' ++ ds

/-- The text of a number. -/
def text : Binary64 → String
  | .nan _ => "nan"
  | .infinite negative => if negative then "-inf" else "inf"
  | .finite negative m e =>
    let body :=
      if m = 0 then ['0', '.', '0']
      else
        let (d, power) := shortest m e
        let (digits, point) := significant d power
        if -4 < point && point ≤ 16 then positional digits point else scientific digits point
    String.ofList (if negative then '-' :: body else body)

end Binary64

end ClientGen.Number
