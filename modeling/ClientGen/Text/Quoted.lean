import ClientGen.Text.Chars
import ClientGen.Text.Half
import ClientGen.Text.Printable

/-!
# Text in quotes

A text, or a row of bytes, between quotes, as it is shown where something else than the text itself
is told about it. What cannot be printed is written as an escape.
-/

namespace ClientGen.Text

/-- How a number of a text is written between the quotes `mark`. -/
def shownNumber (mark : Char) (n : Nat) : List Char :=
  let c := Char.ofNat n
  if c == mark || c == '\\' then ['\\', c]
  else if c == '\n' then ['\\', 'n']
  else if c == '\r' then ['\\', 'r']
  else if c == '\t' then ['\\', 't']
  else if isPrintable c && !isMarked n then [c]
  else if n < 0x100 then '\\' :: 'x' :: hexDigits 2 n
  else if n < 0x10000 then '\\' :: 'u' :: hexDigits 4 n
  else '\\' :: 'U' :: hexDigits 8 n

/-- Numbers in quotes, written one by one: the quotes are single ones, unless a single one and no
double one is among what the numbers stand for. -/
def inQuotes (write : Char → Nat → List Char) (ns : List Nat) : String :=
  let mark := if ns.contains '\''.toNat && !ns.contains '"'.toNat then '"' else '\''
  String.ofList (mark :: ns.flatMap (write mark) ++ [mark])

/-- A text in quotes. -/
def quoted (s : String) : String :=
  inQuotes shownNumber (numbers s.toList)

/-- How a byte is written between the quotes `mark`. -/
def shownByte (mark : Char) (n : Nat) : List Char :=
  if n < 0x7F then shownNumber mark n else '\\' :: 'x' :: hexDigits 2 n

/-- Bytes in quotes. -/
def quotedBytes (bytes : List UInt8) : String :=
  "b" ++ inQuotes shownByte (bytes.map UInt8.toNat)

end ClientGen.Text
