/-!
# Base 64

Bytes written as letters, six bits each. Characters outside the alphabet are passed over, and what
follows the filling signs of an incomplete group is not looked at.
-/

namespace ClientGen.Text

/-- The value of a character of the alphabet. -/
def sextet? (c : Char) : Option Nat :=
  if c.isUpper then some (c.toNat - 'A'.toNat)
  else if c.isLower then some (c.toNat - 'a'.toNat + 26)
  else if c.isDigit then some (c.toNat - '0'.toNat + 52)
  else if c == '+' then some 62
  else if c == '/' then some 63
  else none

/-- The byte that a character completes, and the value of its bits beyond that byte. `place` is the
place of the character in its group of four, and `left` the value of the bits before it. -/
def completed (place left n : Nat) : List UInt8 × Nat :=
  match place with
  | 0 => ([], n)
  | 1 => ([UInt8.ofNat (left * 4 + n / 16)], n % 16)
  | 2 => ([UInt8.ofNat (left * 16 + n / 4)], n % 4)
  | _ => ([UInt8.ofNat (left * 64 + n)], 0)

/-- The bytes of a text inside a group: the place in it, how many signs of filling came before, and
the value of the bits left. A group must be whole or be filled up. -/
def bytesFrom (place filled left : Nat) : List Char → Option (List UInt8)
  | [] => if place = 0 then some [] else none
  | c :: rest =>
    if c == '=' then
      if place < 2 then bytesFrom place filled left rest
      else if 4 ≤ place + filled + 1 then some []
      else bytesFrom place (filled + 1) left rest
    else
      match sextet? c with
      | none => bytesFrom place filled left rest
      | some n => do
        let (bytes, left) := completed place left n
        return bytes ++ (← bytesFrom ((place + 1) % 4) 0 left rest)

/-- The bytes of a text in base 64. -/
def bytesOfBase64? (s : List Char) : Option (List UInt8) :=
  bytesFrom 0 0 0 s

end ClientGen.Text
