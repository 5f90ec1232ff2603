import ClientGen.Number.Binary64
import ClientGen.Text.Chars

/-!
# Reading numbers

Numbers as they are written in text, with white space around them. The digits may be those of any
script.
-/

/-!
## Arithmetic of binary floating point

Sums and products of binary64 numbers: the exact result, rounded once.
-/

namespace ClientGen.Number.Binary64

/-- Whether a number has the sign of the negative ones. -/
def isNegative : Binary64 → Bool
  | .finite negative _ _ => negative
  | .infinite negative => negative
  | .nan _ => false

/-- A zero of either sign. -/
def zero (negative : Bool) : Binary64 :=
  .finite negative 0 minExponent

/-- The other sign. -/
def negated : Binary64 → Binary64
  | .finite negative m e => .finite (!negative) m e
  | .infinite negative => .infinite (!negative)
  | .nan mark => .nan mark

/-- The same number; a NaN with another mark. -/
def marked (mark : Nat) : Binary64 → Binary64
  | .nan _ => .nan mark
  | x => x

/-- A fraction, rounded. -/
def ofFraction (negative : Bool) (num den : Nat) : Binary64 :=
  if num = 0 then zero negative else ofRatio negative num den

/-- An integer of a magnitude, rounded. -/
def ofNat (n : Nat) : Binary64 :=
  ofFraction false n 1

/-- The product of two numbers, rounded. -/
def times (x y : Binary64) : Binary64 :=
  let negative := x.isNegative != y.isNegative
  match x, y with
  | .nan mark, _ => .nan mark
  | _, .nan mark => .nan mark
  | .infinite _, y => if y.isZero then .nan 0 else .infinite negative
  | x, .infinite _ => if x.isZero then .nan 0 else .infinite negative
  | .finite _ m e, .finite _ m' e' =>
    let (num, den) := magnitude m e
    let (num', den') := magnitude m' e'
    ofFraction negative (num * num') (den * den')

/-- The sum of two numbers, rounded. -/
def plus (x y : Binary64) : Binary64 :=
  match x, y with
  | .nan mark, _ => .nan mark
  | _, .nan mark => .nan mark
  | .infinite a, .infinite b => if a == b then .infinite a else .nan 0
  | .infinite a, _ => .infinite a
  | _, .infinite b => .infinite b
  | .finite a m e, .finite b m' e' =>
    let (num, den) := magnitude m e
    let (num', den') := magnitude m' e'
    let signed (negative : Bool) (n : Nat) : Int := if negative then -n else n
    let total := signed a (num * den') + signed b (num' * den)
    if total = 0 then zero (a && b) else ofRatio (total < 0) total.natAbs (den * den')

end ClientGen.Number.Binary64

/-! ## Numbers in texts -/

namespace ClientGen.Number

open ClientGen.Text

/-- White space around numbers. -/
def isNumberSpace (c : Char) : Bool :=
  c == ' ' || (9 ≤ c.toNat && c.toNat ≤ 13)

/-- A character of a number in ASCII: a digit of any script as the digit of its value, white space
beyond ASCII as a space, and anything else beyond it as what stands in no number. -/
def inAscii (c : Char) : Char :=
  if c.toNat < 0x7F then c
  else if isBlank c then ' '
  else
    match digitValue? c with
    | some d => Char.ofNat ('0'.toNat + d)
    | none => '?'

/-- The characters of a number in ASCII, without the white space around them. -/
def numberChars (s : List Char) : List Char :=
  stripWhile isNumberSpace (s.map inAscii)

/-- A text without a sign in front, and whether there was a minus. -/
def unsigned : List Char → Bool × List Char
  | '-' :: rest => (true, rest)
  | '+' :: rest => (false, rest)
  | rest => (false, rest)

/-- The value of digits in a base; there has to be one, and each below the base. -/
def natIn? (base : Nat) (digits : List Char) : Option Nat :=
  if digits.isEmpty then none
  else
    digits.foldlM (fun n c => do
      let d ← hexValue? c
      if d < base then some (n * base + d) else none) 0

/-- The letter that may stand behind a zero in front of digits in a base. -/
def baseMark? (base : Nat) : Option Char :=
  if base = 2 then some 'b' else if base = 8 then some 'o' else if base = 16 then some 'x' else none

/-- Digits without the mark of their base. -/
def withoutBaseMark (base : Nat) (s : List Char) : List Char :=
  match s with
  | '0' :: c :: rest => if baseMark? base == some c.toLower then rest else s
  | _ => s

/-- An integer in a base, perhaps with a sign and the mark of the base. -/
def integerIn? (base : Nat) (s : List Char) : Option Int := do
  let (negative, digits) := unsigned (numberChars s)
  let n ← natIn? base (withoutBaseMark base digits)
  return if negative then -(n : Int) else n

namespace Binary64

/-- The number of unsigned decimal text, with an exponent or without. -/
def ofDecimalText? (negative : Bool) (s : List Char) : Option Binary64 := do
  let (mantissa, rest) := s.span fun c => c != 'e' && c != 'E'
  let (whole, rest') := mantissa.span (· != '.')
  let fraction := rest'.drop 1
  let digits ← natIn? 10 (whole ++ fraction)
  let exponent ← match rest with
    | [] => some 0
    | _ :: e =>
      let (down, ds) := unsigned e
      (natIn? 10 ds).map fun n => if down then -(n : Int) else n
  return .ofDecimal negative digits (exponent - fraction.length)

/-- A number in decimal text, perhaps with a sign. Infinity and NaN are words, in letters of either
case. -/
def ofText? (s : List Char) : Option Binary64 :=
  let (negative, s) := unsigned (numberChars s)
  let word := String.ofList (s.map Char.toLower)
  if word == "inf" || word == "infinity" then some (.infinite negative)
  else if word == "nan" then some (.nan 0)
  else ofDecimalText? negative s

end Binary64

end ClientGen.Number
