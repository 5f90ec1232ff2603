import ClientGen.Document.Value
import ClientGen.Number.Digits
import ClientGen.Text.Chars
import ClientGen.Text.Half

/-!
# Reading JSON

JSON text as a value. Beyond the standard the names `NaN`, `Infinity` and `-Infinity` are read as
numbers; a number with a point or an exponent is a floating point number and any other an integer
of any size. A text that is no JSON is refused with the reason and the place of the first fault.
-/

namespace ClientGen.Json

open ClientGen.Document ClientGen.Number ClientGen.Text

/-- Why a text is no JSON. -/
inductive Reason
  | byteOrderMark
  | valueExpected
  | nameExpected
  | colonExpected
  | commaExpected
  | unterminated
  | controlCharacter
  | badEscape
  | badUnicodeEscape
  | extraData
  /-- An integer has so many digits that it is not read. -/
  | tooManyDigits (count : Nat)
  deriving DecidableEq, Repr

/-- The words for a reason. -/
def Reason.message : Reason → String
  | .byteOrderMark => "Unexpected UTF-8 BOM (decode using utf-8-sig)"
  | .valueExpected => "Expecting value"
  | .nameExpected => "Expecting property name enclosed in double quotes"
  | .colonExpected => "Expecting ':' delimiter"
  | .commaExpected => "Expecting ',' delimiter"
  | .unterminated => "Unterminated string starting at"
  | .controlCharacter => "Invalid control character at"
  | .badEscape => "Invalid \\escape"
  | .badUnicodeEscape => "Invalid \\uXXXX escape"
  | .extraData => "Extra data"
  | .tooManyDigits count => DigitsFault.message ⟨some count⟩

/-- A fault, placed by how many characters of the text are left there. -/
structure Fault where
  reason : Reason
  left : Nat
  deriving DecidableEq, Repr

/-- A fault at the start of what is left. -/
def Fault.at (reason : Reason) (rest : List Char) : Fault := ⟨reason, rest.length⟩

/-- The reason of a fault and where it is: line, column and offset. -/
def Fault.message (text : List Char) (f : Fault) : String :=
  let before := numbers (text.take (text.length - f.left))
  let line := before.count '\n'.toNat + 1
  let column := (before.reverse.takeWhile (· != '\n'.toNat)).length + 1
  f.reason.message ++ ": line " ++ toString line ++ " column " ++ toString column ++
    " (char " ++ toString before.length ++ ")"

/-- White space between tokens. -/
def isSpace (c : Char) : Bool :=
  c == ' ' || c == '\t' || c == '\n' || c == '\r'

/-- What is left after white space. -/
def skipSpace (s : List Char) : List Char :=
  s.dropWhile isSpace

/-- The value of four digits in base sixteen. -/
def hexFour? : List Char → Option Nat
  | [a, b, c, d] =>
    match hexValue? a, hexValue? b, hexValue? c, hexValue? d with
    | some a, some b, some c, some d => some (((a * 16 + b) * 16 + c) * 16 + d)
    | _, _, _, _ => none
  | _ => none

/-- The character of a two-character escape. -/
def shortEscape : Char → Option Char
  | '"' => some '"'
  | '\\' => some '\\'
  | '/' => some '/'
  | 'b' => some '\x08'
  | 'f' => some '\x0c'
  | 'n' => some '\n'
  | 'r' => some '\r'
  | 't' => some '\t'
  | _ => none

/-- The rest of a text literal after its opening quote, of which `start` characters were left.
A first half of a surrogate pair takes the second half with it, and a half alone stays one. -/
def readText (start : Nat) : List Char → Except Fault (List Char × List Char)
  | [] => .error ⟨.unterminated, start⟩
  | '"' :: rest => .ok ([], rest)
  | ['\\'] => .error ⟨.unterminated, start⟩
  | '\\' :: 'u' :: a :: b :: c :: d :: '\\' :: 'u' :: e :: f :: g :: h :: i :: rest =>
    match hexFour? [a, b, c, d] with
    | none => .error ⟨.badUnicodeEscape, rest.length + 12⟩
    | some n =>
      if 0xD800 ≤ n ∧ n < 0xDC00 then
        match hexFour? [e, f, g, h] with
        | none => .error ⟨.badUnicodeEscape, rest.length + 6⟩
        | some m =>
          if 0xDC00 ≤ m ∧ m < 0xE000 then do
            let (s, left) ← readText start (i :: rest)
            .ok (ofNumber (0x10000 + (n - 0xD800) * 0x400 + (m - 0xDC00)) ++ s, left)
          else do
            let (s, left) ← readText start ('\\' :: 'u' :: e :: f :: g :: h :: i :: rest)
            .ok (ofNumber n ++ s, left)
      else do
        let (s, left) ← readText start ('\\' :: 'u' :: e :: f :: g :: h :: i :: rest)
        .ok (ofNumber n ++ s, left)
  | '\\' :: 'u' :: a :: b :: c :: d :: e :: rest =>
    match hexFour? [a, b, c, d] with
    | none => .error ⟨.badUnicodeEscape, rest.length + 6⟩
    | some n => do
      let (s, left) ← readText start (e :: rest)
      .ok (ofNumber n ++ s, left)
  | '\\' :: 'u' :: rest => .error ⟨.badUnicodeEscape, rest.length + 1⟩
  | '\\' :: c :: rest =>
    match shortEscape c with
    | none => .error ⟨.badEscape, rest.length + 2⟩
    | some e => do
      let (s, left) ← readText start rest
      .ok (e :: s, left)
  | c :: rest =>
    if c.toNat < 0x20 then .error ⟨.controlCharacter, rest.length + 1⟩
    else do
      let (s, left) ← readText start rest
      .ok (c :: s, left)

/-- The value of decimal digits. -/
def decimalValue (digits : List Char) : Nat :=
  digits.foldl (fun n c => n * 10 + (c.toNat - '0'.toNat)) 0

/-- The fraction of a number: a point with at least one digit behind it. -/
def readFraction : List Char → Option (List Char) × List Char
  | '.' :: rest =>
    match rest.takeWhile Char.isDigit with
    | [] => (none, '.' :: rest)
    | digits => (some digits, rest.dropWhile Char.isDigit)
  | s => (none, s)

/-- The exponent of a number: a letter, perhaps a sign, and at least one digit. -/
def readExponent (s : List Char) : Option Int × List Char :=
  match s with
  | e :: rest =>
    if e == 'e' || e == 'E' then
      let (negative, digits) := match rest with
        | '-' :: more => (true, more)
        | '+' :: more => (false, more)
        | more => (false, more)
      match digits.takeWhile Char.isDigit with
      | [] => (none, s)
      | ds =>
        let n : Int := decimalValue ds
        (some (if negative then -n else n), digits.dropWhile Char.isDigit)
    else (none, s)
  | [] => (none, s)

/-- The digits in front of a text, of which a zero stands alone. -/
def readWhole? (s : List Char) : Option (List Char × List Char) :=
  match s with
  | '0' :: rest => some (['0'], rest)
  | c :: _ =>
    if c.isDigit then some (s.takeWhile Char.isDigit, s.dropWhile Char.isDigit) else none
  | [] => none

/-- A number without its sign, if there is one. -/
def readNumber? (negative : Bool) (s : List Char) : Option (Except Fault (Value × List Char)) :=
  match readWhole? s with
  | none => none
  | some (digits, rest) =>
    let (fraction, rest) := readFraction rest
    let (exponent, rest) := readExponent rest
    match fraction, exponent with
    | none, none =>
      if greatestDigits < digits.length then some (.error (.at (.tooManyDigits digits.length) s))
      else
        let n : Int := decimalValue digits
        some (.ok (.int (if negative then -n else n), rest))
    | _, _ =>
      let places := fraction.getD []
      let x := Binary64.ofDecimal negative (decimalValue (digits ++ places))
        (exponent.getD 0 - places.length)
      some (.ok (.float x, rest))

/-- The words that are values. -/
def words : List (List Char × Value) :=
  [("null".toList, .null), ("true".toList, .bool true), ("false".toList, .bool false),
   ("NaN".toList, .float (.nan 0)), ("Infinity".toList, .float (.infinite false)),
   ("-Infinity".toList, .float (.infinite true))]

/-- A scalar that is no text. -/
def readScalar (s : List Char) : Except Fault (Value × List Char) :=
  match words.findSome? fun (w, v) => (dropHead? w s).map fun rest => (v, rest) with
  | some found => .ok found
  | none =>
    let number := match s with
      | '-' :: rest => readNumber? true rest
      | _ => readNumber? false s
    match number with
    | some found => found
    | none => .error (.at .valueExpected s)

mutual

/-- A value and what is left. Every step takes at least one character, so that a budget of one
more than the length of the text is never used up. -/
def readValue : Nat → List Char → Except Fault (Value × List Char)
  | 0, s => .error (.at .valueExpected s)
  | budget + 1, s =>
    match s with
    | '"' :: rest => do
      let (t, left) ← readText s.length rest
      .ok (.str (String.ofList t), left)
    | '[' :: rest =>
      match skipSpace rest with
      | ']' :: left => .ok (.list [], left)
      | rest => do
        let (items, left) ← readItems budget rest
        .ok (.list items, left)
    | '\x7b' :: rest =>
      match skipSpace rest with
      | '\x7d' :: left => .ok (.map [], left)
      | rest => do
        let (entries, left) ← readEntries budget rest
        .ok (.map (Value.ofEntries entries), left)
    | s => readScalar s

/-- The items of a list up to its closing bracket. -/
def readItems : Nat → List Char → Except Fault (List Value × List Char)
  | 0, s => .error (.at .valueExpected s)
  | budget + 1, s => do
    let (v, rest) ← readValue budget s
    match skipSpace rest with
    | ']' :: left => .ok ([v], left)
    | ',' :: rest => do
      let (vs, left) ← readItems budget (skipSpace rest)
      .ok (v :: vs, left)
    | rest => .error (.at .commaExpected rest)

/-- The entries of a map up to its closing brace. -/
def readEntries : Nat → List Char → Except Fault (List (Value × Value) × List Char)
  | 0, s => .error (.at .valueExpected s)
  | budget + 1, s =>
    match s with
    | '"' :: rest => do
      let (key, rest) ← readText s.length rest
      match skipSpace rest with
      | ':' :: rest => do
        let (v, rest) ← readValue budget (skipSpace rest)
        match skipSpace rest with
        | '\x7d' :: left => .ok ([(.str (String.ofList key), v)], left)
        | ',' :: rest => do
          let (more, left) ← readEntries budget (skipSpace rest)
          .ok ((.str (String.ofList key), v) :: more, left)
        | rest => .error (.at .commaExpected rest)
      | rest => .error (.at .colonExpected rest)
    | s => .error (.at .nameExpected s)

end

/-- A whole text as a value. -/
def readChars (s : List Char) : Except Fault Value :=
  match s with
  | '\ufeff' :: _ => .error (.at .byteOrderMark s)
  | s => do
    let (v, rest) ← readValue (s.length + 1) (skipSpace s)
    match skipSpace rest with
    | [] => .ok v
    | rest => .error (.at .extraData rest)

/-- Why a text is not read: it is no JSON, or an integer has too many digits. -/
inductive ReadError
  | malformed (message : String)
  | digits (f : DigitsFault)
  deriving DecidableEq, Repr

/-- The words for an error. -/
def ReadError.message : ReadError → String
  | .malformed message => message
  | .digits f => f.message

/-- The error that a fault of a text is. -/
def Fault.error (text : List Char) (f : Fault) : ReadError :=
  match f.reason with
  | .tooManyDigits count => .digits ⟨some count⟩
  | _ => .malformed (f.message text)

/-- A text as a value, or what its first fault is. -/
def read (text : String) : Except ReadError Value :=
  let s := text.toList
  (readChars s).mapError (Fault.error s)

end ClientGen.Json
