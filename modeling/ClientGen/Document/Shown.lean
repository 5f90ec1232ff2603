import ClientGen.Document.Value
import ClientGen.Number.Digits
import ClientGen.Number.Shortest
import ClientGen.Text.Quoted

/-!
# The text of a value

A value that stands where text is expected is shown: a text as itself, any other value in the
notation below. Inside a list or a map, texts are quoted as well. A list or a map inside of itself
is cut short there.
-/

namespace ClientGen.Document

open ClientGen.Text ClientGen.Number

/-- Decimal digits, filled up with zeros in front. -/
def zeroPadded (width n : Nat) : String :=
  let ds := Nat.toDigits 10 n
  String.ofList (List.replicate (width - ds.length) '0' ++ ds)

/-- Year, month and day with hyphens. -/
def Date.text (d : Date) : String :=
  zeroPadded 4 d.year ++ "-" ++ zeroPadded 2 d.month ++ "-" ++ zeroPadded 2 d.day

/-- An offset from universal time. -/
def offsetText (minutes : Int) : String :=
  let n := minutes.natAbs
  (if minutes < 0 then "-" else "+") ++ zeroPadded 2 (n / 60) ++ ":" ++ zeroPadded 2 (n % 60)

/-- A time of day, with its microseconds when there are any. -/
def Clock.text (c : Clock) : String :=
  zeroPadded 2 c.hour ++ ":" ++ zeroPadded 2 c.minute ++ ":" ++ zeroPadded 2 c.second ++
    (if c.microsecond = 0 then "" else "." ++ zeroPadded 6 c.microsecond) ++
    (c.offset.map offsetText).getD ""

/-- A day as it appears inside a list. -/
def Date.inner (d : Date) : String :=
  "datetime.date(" ++ toString d.year ++ ", " ++ toString d.month ++ ", " ++ toString d.day ++ ")"

/-- A span of time in minutes, as days and the seconds of a day. -/
def durationText (minutes : Int) : String :=
  let days := minutes.fdiv 1440
  let seconds := minutes.fmod 1440 * 60
  let parts := (if days = 0 then [] else ["days=" ++ toString days]) ++
    (if seconds = 0 then [] else ["seconds=" ++ toString seconds])
  "datetime.timedelta(" ++ (if parts.isEmpty then "0" else ", ".intercalate parts) ++ ")"

/-- A point in time as it appears inside a list. -/
def Clock.inner (d : Date) (c : Clock) : String :=
  let parts := [d.year, d.month, d.day, c.hour, c.minute] ++
    (if c.microsecond = 0 then (if c.second = 0 then [] else [c.second])
     else [c.second, c.microsecond])
  let zone := match c.offset with
    | none => ""
    | some 0 => ", tzinfo=datetime.timezone.utc"
    | some minutes => ", tzinfo=datetime.timezone(" ++ durationText minutes ++ ")"
  "datetime.datetime(" ++ ", ".intercalate (parts.map toString) ++ zone ++ ")"

/-- What stands for a list or a map inside of itself. -/
def cutShort : Value → String
  | .list _ => "[...]"
  | _ => "\x7b...\x7d"

mutual

/-- The text of a value inside a list or a map, where the texts of the parts of a knot are given. -/
def innerWith (ofPart : Nat → String) (ofKnot : List Value → Nat → String) : Value → String
  | .null => "None"
  | .bool b => if b then "True" else "False"
  | .int n => toString n
  | .float x => x.text
  | .str s => quoted s
  | .date d => d.inner
  | .time d c => Clock.inner d c
  | .bytes b => quotedBytes b
  | .list items => "[" ++ ", ".intercalate (innerAllWith ofPart ofKnot items) ++ "]"
  | .map entries =>
    "\x7b" ++ ", ".intercalate (innerEntriesWith ofPart ofKnot entries) ++ "\x7d"
  | .set [] => "set()"
  | .set members => "\x7b" ++ ", ".intercalate (innerAllWith ofPart ofKnot members) ++ "\x7d"
  | .pair k v => "(" ++ innerWith ofPart ofKnot k ++ ", " ++ innerWith ofPart ofKnot v ++ ")"
  | .inside place => ofPart place
  | .knot _ parts place => ofKnot parts place

/-- The texts of the items of a list. -/
def innerAllWith (ofPart : Nat → String) (ofKnot : List Value → Nat → String) :
    List Value → List String
  | [] => []
  | v :: vs => innerWith ofPart ofKnot v :: innerAllWith ofPart ofKnot vs

/-- The texts of the entries of a map. -/
def innerEntriesWith (ofPart : Nat → String) (ofKnot : List Value → Nat → String) :
    List (Value × Value) → List String
  | [] => []
  | (k, v) :: rest =>
    (innerWith ofPart ofKnot k ++ ": " ++ innerWith ofPart ofKnot v) ::
      innerEntriesWith ofPart ofKnot rest

end

/-- The text of a part of a knot inside of the parts `around`; one of those is cut short. The budget
is the number of parts that are not around it, and one more. -/
def partText (parts : List Value) : Nat → List Nat → Nat → String
  | 0, _, _ => ""
  | budget + 1, around, place =>
    let part := (parts[place]?).getD .null
    if around.contains place then cutShort part
    else innerWith (partText parts budget (place :: around)) (fun _ _ => "") part

/-- The text of a value inside a list or a map. -/
def Value.inner (v : Value) : String :=
  innerWith (fun _ => "") (fun parts place => partText parts (parts.length + 1) [] place) v

/-- The text of a value. -/
def Value.shown : Value → String
  | .str s => s
  | .date d => d.text
  | .time d c => d.text ++ " " ++ c.text
  | v => v.inner

/-! ### Numbers that are too long -/

mutual

/-- Whether there is an integer with too many digits in a value, where it is told of the parts of a
knot. -/
def longWith (ofPart : Nat → Bool) (ofKnot : List Value → Nat → Bool) : Value → Bool
  | .null => false
  | .bool _ => false
  | .int n => isLong n
  | .float _ => false
  | .str _ => false
  | .date _ => false
  | .time _ _ => false
  | .bytes _ => false
  | .list items => longAmong ofPart ofKnot items
  | .map entries => longAmongEntries ofPart ofKnot entries
  | .set members => longAmong ofPart ofKnot members
  | .pair k v => longWith ofPart ofKnot k || longWith ofPart ofKnot v
  | .inside place => ofPart place
  | .knot _ parts place => ofKnot parts place

/-- Whether there is such an integer in one of some values. -/
def longAmong (ofPart : Nat → Bool) (ofKnot : List Value → Nat → Bool) : List Value → Bool
  | [] => false
  | v :: vs => longWith ofPart ofKnot v || longAmong ofPart ofKnot vs

/-- Whether there is such an integer in one of some entries. -/
def longAmongEntries (ofPart : Nat → Bool) (ofKnot : List Value → Nat → Bool) :
    List (Value × Value) → Bool
  | [] => false
  | (k, v) :: rest =>
    longWith ofPart ofKnot k || longWith ofPart ofKnot v || longAmongEntries ofPart ofKnot rest

end

/-- Whether there is an integer with too many digits in a part of a knot, outside of the parts
`around`. The budget is that of `partText`. -/
def isLongPart (parts : List Value) : Nat → List Nat → Nat → Bool
  | 0, _, _ => false
  | budget + 1, around, place =>
    !around.contains place &&
      longWith (isLongPart parts budget (place :: around)) (fun _ _ => false)
        ((parts[place]?).getD .null)

/-- Whether there is an integer with too many digits in a value. -/
def Value.hasLongInteger (v : Value) : Bool :=
  longWith (fun _ => false) (fun parts place => isLongPart parts (parts.length + 1) [] place) v

/-- The text of a value, which must not hold an integer with too many digits. -/
def Value.written (v : Value) : Except DigitsFault String :=
  if v.hasLongInteger then .error {} else .ok v.shown

end ClientGen.Document
