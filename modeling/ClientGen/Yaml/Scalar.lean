import ClientGen.Number.Reading
import ClientGen.Text.Base64
import ClientGen.Text.Lower
import ClientGen.Yaml.Fault

/-!
# Scalars of YAML

What the text of a scalar means. A plain scalar that looks like a truth value, a number, a date or
null gets that tag, and any other one is text. A tag then says how the text is read, and what is
read under a tag may look otherwise than what gets the tag by its looks.
-/

namespace ClientGen.Yaml

open ClientGen.Document ClientGen.Number ClientGen.Text

/-- The kinds of nodes that can be read. A merge or a value is one by its place only: it stands as a
key of a mapping. -/
inductive Tag
  | null
  | bool
  | int
  | float
  | timestamp
  | text
  | bytes
  | sequence
  | mapping
  | set
  /-- A sequence of mappings with one entry each. -/
  | entries
  | merge
  | value
  | other
  deriving DecidableEq, Repr

/-- The tag of a full name. -/
def Tag.ofName (name : String) : Tag :=
  let names : List (String × Tag) :=
    [("null", .null), ("bool", .bool), ("int", .int), ("float", .float), ("timestamp", .timestamp),
     ("str", .text), ("binary", .bytes), ("seq", .sequence), ("map", .mapping), ("set", .set),
     ("omap", .entries), ("pairs", .entries), ("merge", .merge), ("value", .value)]
  ((names.map fun (n, t) => ("tag:yaml.org,2002:" ++ n, t)).lookup name).getD .other

/-! ### Truth values and null -/

/-- The truth value that a lower-case word stands for. -/
def truthOf? (word : String) : Option Bool :=
  if word == "yes" || word == "true" || word == "on" then some true
  else if word == "no" || word == "false" || word == "off" then some false
  else none

/-- Whether a word is in small letters, in capitals, or in small letters with a capital in front. -/
def isEvenlyCased (word : List Char) : Bool :=
  word.all Char.isUpper || (word.drop 1).all Char.isLower

/-- Whether a text looks like a truth value. -/
def looksBool (s : List Char) : Bool :=
  isEvenlyCased s && (truthOf? (String.ofList (s.map Char.toLower))).isSome

/-- Whether a text looks like null. -/
def looksNull (s : List Char) : Bool :=
  s.isEmpty || s == ['~'] || (isEvenlyCased s && s.map Char.toLower == "null".toList)

/-! ### Integers -/

/-- Digits, which may be set apart by underscores. -/
def areDigits (s : List Char) : Bool :=
  s.all fun c => c.isDigit || c == '_'

/-- Digits behind a first one. -/
def isWhole : List Char → Bool
  | [] => false
  | c :: rest => c.isDigit && areDigits rest

/-- A number below sixty in at most two digits. -/
def isSixtieth : List Char → Bool
  | [a] => a.isDigit
  | [a, b] => '0' ≤ a && a ≤ '5' && b.isDigit
  | _ => false

/-- Whether a text looks like an integer: decimal, after `0b`, `0x` or `0` in base two, sixteen or
eight, or in base sixty with colons. -/
def looksInt (s : List Char) : Bool :=
  match (unsigned s).2 with
  | [] => false
  | '0' :: 'b' :: ds => !ds.isEmpty && ds.all (isAmong "01_")
  | '0' :: 'x' :: ds => !ds.isEmpty && ds.all fun c => c == '_' || (hexValue? c).isSome
  | '0' :: ds => ds.all (isAmong "01234567_")
  | ds =>
    match pieces ':' ds with
    | [] => false
    | first :: sixtieths => isWhole first && sixtieths.all isSixtieth
where
  /-- One of the characters of a text. -/
  isAmong (marks : String) (c : Char) : Bool := marks.toList.contains c

/-- The characters of a number under a tag, without underscores. -/
def numeralOf (text : String) : List Char :=
  text.toList.filter (· != '_')

/-- How many decimal digits a number starts with. -/
def leadingDigits (s : List Char) : Nat :=
  ((unsigned (numberChars s)).2.takeWhile Char.isDigit).length

/-- The integer of some characters, if they are one in this base. In base ten there must not be too
many digits, whatever stands behind them. -/
def integerOf (base : Nat) (s : List Char) : Except Fault Int :=
  if base = 10 ∧ greatestDigits < leadingDigits s then .error (.tooManyDigits (leadingDigits s))
  else
    match integerIn? base s with
    | some n => .ok n
    | none => .error (.noInteger base (String.ofList s))

/-- Numbers in base sixty, the most significant first. -/
def inSixties (parts : List Int) : Int :=
  parts.foldl (fun n d => n * 60 + d) 0

/-- The integer of a text under the tag. A sign may stand in front of what is an integer by itself,
with a sign of its own. -/
def intOf (text : String) : Except Fault Int := do
  let s := numeralOf text
  let (negative, digits) := unsigned s
  let n ← match digits with
    | [] => .error .noDigits
    | '0' :: 'b' :: ds => integerOf 2 ds
    | '0' :: 'x' :: ds => integerOf 16 ds
    | '0' :: _ => integerOf 8 digits
    | _ =>
      if digits.contains ':' then inSixties <$> (pieces ':' digits).mapM (integerOf 10)
      else integerOf 10 digits
  return if negative then -n else n

/-! ### Floating point numbers -/

/-- An exponent with its sign, or nothing. -/
def isExponent : List Char → Bool
  | [] => true
  | e :: sign :: ds =>
    (e == 'e' || e == 'E') && (sign == '+' || sign == '-') && !ds.isEmpty && ds.all Char.isDigit
  | _ => false

/-- Whether a text looks like a floating point number: with a point, and if it has an exponent then
that has a sign. The part in front of the point may be in base sixty. -/
def looksFloat (s : List Char) : Bool :=
  let (_, u) := unsigned s
  let word := String.ofList (u.map Char.toLower)
  if word == ".inf" then isEvenlyCased (u.drop 1)
  else if word == ".nan" then u == s && isNanCased (u.drop 1)
  else
    let (whole, rest) := u.span (· != '.')
    match rest with
    | [] => false
    | _ :: fraction =>
      let tail := fraction.dropWhile fun c => c.isDigit || c == '_'
      match pieces ':' whole with
      | [[]] => u == s && (fraction.head?.any Char.isDigit) && isExponent tail
      | [first] => isWhole first && isExponent tail
      | first :: sixtieths => isWhole first && sixtieths.all isSixtieth && tail.isEmpty
      | [] => false
where
  /-- The three ways to write that a value is no number. -/
  isNanCased (word : List Char) : Bool :=
    word == "nan".toList || word == "NaN".toList || word == "NAN".toList

/-- The floating point number of some characters, if they are one. -/
def floatingOf (s : List Char) : Except Fault Binary64 :=
  match Binary64.ofText? s with
  | some x => .ok x
  | none => .error (.noNumber (String.ofList s))

/-- Numbers in base sixty, the least significant first, the first of which has the given place. -/
def sumOfSixties (place : Nat) (total : Binary64) : List Binary64 → Except Fault Binary64
  | [] => .ok total
  | x :: rest =>
    match Binary64.ofNat (power 60 place) with
    | .infinite _ => .error .tooManyPlaces
    | scale => sumOfSixties (place + 1) (total.plus (x.times scale)) rest

/-- The floating point number of a text under the tag. A sign may stand in front of what is a number
by itself, with a sign of its own. The word for NaN is always one and the same; where no number
comes out otherwise, that is one of its own with the given mark. -/
def floatOf (mark : Nat) (text : String) : Except Fault Binary64 := do
  let s := inSmallLetters (numeralOf text)
  let (negative, digits) := unsigned s
  if s.isEmpty then .error .noDigits
  else if digits == ".inf".toList then .ok (.infinite negative)
  else if digits == ".nan".toList then .ok (.nan 0)
  else
    let x ←
      if digits.contains ':' then do
        sumOfSixties 0 (.zero false) (← (pieces ':' digits).mapM floatingOf).reverse
      else floatingOf digits
    return Binary64.marked mark (if negative then x.negated else x)

/-! ### Dates and times -/

/-- One digit or two, as many as there are. -/
def oneOrTwo : List Char → Option (Nat × List Char)
  | a :: b :: rest =>
    if a.isDigit && b.isDigit then some (value [a, b], rest)
    else if a.isDigit then some (value [a], b :: rest) else none
  | [a] => if a.isDigit then some (value [a], []) else none
  | [] => none
where
  /-- The value of decimal digits. -/
  value (digits : List Char) : Nat := (natIn? 10 digits).getD 0

/-- A number of exactly so many digits. -/
def digitsOf? (count : Nat) (s : List Char) : Option (Nat × List Char) := do
  let ds := s.take count
  if ds.length = count ∧ ds.all Char.isDigit then return ((← natIn? 10 ds), s.drop count) else none

/-- What follows a character, which has to be there. -/
def behind? (mark : Char) : List Char → Option (List Char)
  | c :: rest => if c == mark then some rest else none
  | [] => none

/-- The offset at the end of a time: none, `Z`, or hours and perhaps minutes with a sign. -/
def offsetOf? (s : List Char) : Option (Option Int) :=
  match s, s.dropWhile fun c => c == ' ' || c == '\t' with
  | [], _ => some none
  | _, ['Z'] => some (some 0)
  | _, sign :: rest =>
    if sign == '+' || sign == '-' then do
      let (hours, rest) ← oneOrTwo rest
      let minutes ← match rest with
        | [] => some 0
        | _ => do
          let (minutes, rest) ← digitsOf? 2 (← behind? ':' rest)
          if rest.isEmpty then some minutes else none
      let total : Int := hours * 60 + minutes
      return some (if sign == '-' then -total else total)
    else none
  | _, [] => none

/-- The microseconds of the digits behind the point. -/
def microsecondsOf (digits : List Char) : Nat :=
  let six := digits.take 6
  (natIn? 10 (six ++ List.replicate (6 - six.length) '0')).getD 0

/-- A time of day behind a date. -/
def clockOf? (s : List Char) : Option Clock := do
  let (hour, s) ← oneOrTwo s
  let (minute, s) ← digitsOf? 2 (← behind? ':' s)
  let (second, s) ← digitsOf? 2 (← behind? ':' s)
  let (fraction, s) := match s with
    | '.' :: rest => rest.span Char.isDigit
    | s => ([], s)
  let offset ← offsetOf? s
  return { hour, minute, second, microsecond := microsecondsOf fraction, offset }

/-- A date, and a time of day if there is one, whether the numbers are possible or not. -/
def pointOf? (s : List Char) : Option (Date × Option Clock) := do
  let (year, s) ← digitsOf? 4 s
  let (month, s) ← oneOrTwo (← behind? '-' s)
  let (day, s) ← oneOrTwo (← behind? '-' s)
  let date : Date := { year, month, day }
  match s with
  | [] => return (date, none)
  | 'T' :: rest => return (date, some (← clockOf? rest))
  | 't' :: rest => return (date, some (← clockOf? rest))
  | c :: rest =>
    if c == ' ' || c == '\t' then
      return (date, some (← clockOf? (rest.dropWhile fun c => c == ' ' || c == '\t')))
    else none

/-- Whether a text looks like a date or a time: month and day of a date alone have two digits. -/
def looksTimestamp (s : List Char) : Bool :=
  match pointOf? s with
  | none => false
  | some (_, none) => s.length == 10
  | some (_, some _) => true

/-- A text without a line feed at its end. -/
def withoutLineFeed (s : List Char) : List Char :=
  if s.getLast? == some '\n' then s.dropLast else s

/-- The date or the time of a text under the tag. -/
def timestampOf (text : String) : Except Fault Value :=
  match pointOf? (withoutLineFeed text.toList) with
  | none => .error .noTime
  | some (day, none) =>
    match day.fault? with
    | some part => .error (.outOfRange part)
    | none => .ok (.date day)
  | some (day, some clock) =>
    match clock.offset.filter (1440 ≤ ·.natAbs), day.fault?.or clock.fault? with
    | some minutes, _ => .error (.farOffset minutes)
    | none, some part => .error (.outOfRange part)
    | none, none => .ok (.time day clock)

/-! ### Tags of plain scalars and the values of tagged ones -/

/-- Whether a text is a mark that a plain scalar cannot be. -/
def looksMark (s : List Char) : Bool :=
  s == ['!'] || s == ['&'] || s == ['*']

/-- The tag of a plain scalar, by its looks. One line feed at the end does not change them. -/
def Tag.ofPlain (text : String) : Tag :=
  let s := if text == "\n" then ['\n'] else withoutLineFeed text.toList
  if looksBool s then .bool
  else if looksFloat s then .float
  else if looksInt s then .int
  else if s == "<<".toList then .merge
  else if looksNull s then .null
  else if looksTimestamp s then .timestamp
  else if s == ['='] then .value
  else if looksMark s then .other
  else .text

/-- The truth value of a text under the tag. -/
def boolOf (text : String) : Except Fault Bool :=
  let word := String.ofList (inSmallLetters text.toList)
  match truthOf? word with
  | some b => .ok b
  | none => .error (.noTruthValue word)

/-- The bytes of a text under the tag, which is in base 64 and in ASCII. -/
def bytesOf (text : String) : Except Fault (List UInt8) :=
  match text.toList.all (·.toNat < 0x80), bytesOfBase64? text.toList with
  | true, some bytes => .ok bytes
  | _, _ => .error .malformed

/-- The value of a text under a tag, with a mark for a NaN. -/
def Tag.valueOf (tag : Tag) (mark : Nat) (text : String) : Except Fault Value :=
  match tag with
  | .null => .ok .null
  | .bool => .bool <$> boolOf text
  | .int => .int <$> intOf text
  | .float => .float <$> floatOf mark text
  | .timestamp => timestampOf text
  | .text => .ok (.str text)
  | .bytes => .bytes <$> bytesOf text
  | .sequence => .error .malformed
  | .mapping => .error .malformed
  | .set => .error .malformed
  | .entries => .error .malformed
  | .merge => .error .malformed
  | .value => .error .malformed
  | .other => .error .malformed

end ClientGen.Yaml
