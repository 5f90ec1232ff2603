import ClientGen.Number.Binary64

/-!
# How many digits an integer may have

An integer is neither read from decimal digits nor written in them if there are too many. Other
bases are not limited.
-/

namespace ClientGen.Number

/-- How many decimal digits an integer has at most where it is read or written. -/
def greatestDigits : Nat := 4300

/-- An integer has too many digits. How many there are is known where they are read. -/
structure DigitsFault where
  count : Option Nat := none
  deriving DecidableEq, Repr

/-- The words for a fault. -/
def DigitsFault.message (f : DigitsFault) : String :=
  "Exceeds the limit (" ++ toString greatestDigits ++ " digits) for integer string conversion" ++
    (match f.count with
      | some n => ": value has " ++ toString n ++ " digits"
      | none => "") ++
    "; use sys.set_int_max_str_digits() to increase the limit"

/-- Whether an integer has too many digits. -/
def isLong (n : Int) : Bool :=
  power 10 greatestDigits ≤ n.natAbs

/-- Refuse to read digits if there are too many. -/
def allowDigits (count : Nat) : Except DigitsFault Unit :=
  if greatestDigits < count then .error ⟨some count⟩ else .ok ()

end ClientGen.Number
