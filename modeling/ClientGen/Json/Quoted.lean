import ClientGen.Text.Chars
import ClientGen.Text.Half

/-!
# String literals

A text between double quotes, with escapes. There are two forms: one that stays within ASCII and
writes every other character as one or two `\u` escapes of UTF-16 units, and one that keeps all
printable text as it is.
-/

namespace ClientGen.Json

open ClientGen.Text

/-- The escape of one UTF-16 unit. -/
def unitEscape (n : Nat) : List Char :=
  '\\' :: 'u' :: hexDigits 4 n

/-- The escapes of the number of a character or a half, as one or two UTF-16 units. -/
def unicodeEscape (n : Nat) : List Char :=
  if n < 0x10000 then unitEscape n
  else
    let m := n - 0x10000
    unitEscape (0xD800 + m / 0x400) ++ unitEscape (0xDC00 + m % 0x400)

/-- The two-character escapes. -/
def shortEscape? (n : Nat) : Option Char :=
  match Char.ofNat n with
  | '"' => some '"'
  | '\\' => some '\\'
  | '\n' => some 'n'
  | '\r' => some 'r'
  | '\t' => some 't'
  | '\x0c' => some 'f'
  | '\x08' => some 'b'
  | _ => none

/-- How a number of a text is written inside a literal; `ascii` asks for ASCII only. -/
def escaped (ascii : Bool) (n : Nat) : List Char :=
  match shortEscape? n with
  | some e => ['\\', e]
  | none => if n < 0x20 || (ascii && n ≥ 0x7f) then unicodeEscape n else ofNumber n

/-- The literal of a text. -/
def literalChars (ascii : Bool) (s : List Char) : List Char :=
  '"' :: ((numbers s).flatMap (escaped ascii)) ++ ['"']

/-- The literal of a text within ASCII. -/
def quoteAscii (s : String) : String :=
  String.ofList (literalChars true s.toList)

/-- The literal of a text that keeps characters outside ASCII. -/
def quote (s : String) : String :=
  String.ofList (literalChars false s.toList)

end ClientGen.Json
