import ClientGen.Document.Shown
import ClientGen.Error
import ClientGen.Number.Digits

/-!
# Faults of YAML

Why a text has no value as YAML. Most faults are of the text as YAML, and of those nothing more is
told. The others are of scalars that have been given a meaning, by their tag or by their looks, that
they cannot have.
-/

namespace ClientGen.Yaml

open ClientGen.Document ClientGen.Text

/-- Why a text has no value. -/
inductive Fault
  /-- It is no YAML. -/
  | malformed
  /-- An escape has the number of no character. -/
  | noCharacter (number : Nat)
  /-- A truth value is no such word. -/
  | noTruthValue (word : String)
  /-- A number has no digits at all. -/
  | noDigits
  /-- An integer is none in its base. -/
  | noInteger (base : Nat) (text : String)
  /-- A floating point number is none. -/
  | noNumber (text : String)
  /-- A number in base sixty has more places than a floating point number reaches. -/
  | tooManyPlaces
  /-- A time is none. -/
  | noTime
  /-- A time is given by a mapping. -/
  | timeInMapping
  /-- A part of a time is out of its range. -/
  | outOfRange (part : TimePart)
  /-- The offset of a time is a day or more. -/
  | farOffset (minutes : Int)
  /-- An integer has too many digits. -/
  | tooManyDigits (count : Nat)
  /-- The text of a node is looked for inside of itself. -/
  | endless
  deriving DecidableEq, Repr

/-- The words for a part of a time that is out of its range. -/
def rangeText : TimePart → String
  | .year => "year 0 is out of range"
  | .month => "month must be in 1..12"
  | .day => "day is out of range for month"
  | .hour => "hour must be in 0..23"
  | .minute => "minute must be in 0..59"
  | .second => "second must be in 0..59"

/-- The greatest number that counts as that of a character at all, be there one or not. -/
def greatestNumber : Nat := 0x7FFFFFFF

/-- The words for a fault. -/
def Fault.message : Fault → String
  | .malformed => yamlFaultText
  | .noCharacter n =>
    if n ≤ greatestNumber then "chr() arg not in range(0x110000)"
    else "Python int too large to convert to C int"
  | .noTruthValue word => quoted word
  | .noDigits => "string index out of range"
  | .noInteger base text =>
    "invalid literal for int() with base " ++ toString base ++ ": " ++
      String.ofList ((quoted text).toList.take 200)
  | .noNumber text => "could not convert string to float: " ++ quoted text
  | .tooManyPlaces => "int too large to convert to float"
  | .noTime => "'NoneType' object has no attribute 'groupdict'"
  | .timeInMapping => "expected string or bytes-like object, got 'list'"
  | .outOfRange part => rangeText part
  | .farOffset minutes =>
    "offset must be a timedelta strictly between -timedelta(hours=24) and timedelta(hours=24), not " ++
      durationText minutes ++ "."
  | .tooManyDigits count => Number.DigitsFault.message ⟨some count⟩
  | .endless => endlessText

end ClientGen.Yaml
