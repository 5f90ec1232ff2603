import ClientGen.Document.Shown
import ClientGen.Json.Quoted

/-!
# Writing JSON

Values as JSON text, on one line or with an indentation of two spaces a level, within ASCII or not.
-/

namespace ClientGen.Json

open ClientGen.Document ClientGen.Number ClientGen.Text

/-- How JSON is written. -/
structure Style where
  ascii : Bool
  indented : Bool
  deriving DecidableEq, Repr

/-- On one line, keeping characters outside ASCII. -/
def Style.inline : Style := ⟨false, false⟩

/-- On several lines, within ASCII. -/
def Style.block : Style := ⟨true, true⟩

/-- The text of a number. -/
def numberText (x : Binary64) : String :=
  match x with
  | .nan _ => "NaN"
  | .infinite negative => if negative then "-Infinity" else "Infinity"
  | x => x.text

/-- The literal of a text in a style. -/
def Style.quote (style : Style) (s : String) : String :=
  if style.ascii then quoteAscii s else Json.quote s

/-- The text that stands for a key. -/
def keyText : Value → String
  | .str s => s
  | .null => "null"
  | .bool b => if b then "true" else "false"
  | .float x => numberText x
  | v => v.shown

/-- The start of a line at a level of nesting. -/
def lineStart (level : Nat) : String :=
  "\n" ++ String.ofList (List.replicate (2 * level) ' ')

/-- Parts between brackets, one a line where the style says so. -/
def Style.bracketed (style : Style) (level : Nat) (opening closing : String)
    (parts : List String) : String :=
  if parts.isEmpty then opening ++ closing
  else if style.indented then
    opening ++ lineStart (level + 1) ++ ("," ++ lineStart (level + 1)).intercalate parts ++
      lineStart level ++ closing
  else opening ++ ", ".intercalate parts ++ closing

mutual

/-- A value at a level of nesting. -/
def writeAt (style : Style) (level : Nat) : Value → String
  | .null => "null"
  | .bool b => if b then "true" else "false"
  | .int n => toString n
  | .float x => numberText x
  | .str s => style.quote s
  | .date d => style.quote d.text
  | .time d c => style.quote (d.text ++ " " ++ c.text)
  | .bytes b => style.quote (quotedBytes b)
  | .list items => style.bracketed level "[" "]" (writeItems style (level + 1) items)
  | .map entries => style.bracketed level "\x7b" "\x7d" (writeEntries style (level + 1) entries)
  | .set members => style.bracketed level "[" "]" (writeItems style (level + 1) members)
  | .pair k v =>
    style.bracketed level "[" "]" [writeAt style (level + 1) k, writeAt style (level + 1) v]
  | .inside place => style.quote (Value.inner (.inside place))
  | .knot budget parts place => style.quote (Value.inner (.knot budget parts place))

/-- The items of a list. -/
def writeItems (style : Style) (level : Nat) : List Value → List String
  | [] => []
  | v :: vs => writeAt style level v :: writeItems style level vs

/-- The entries of a map. -/
def writeEntries (style : Style) (level : Nat) : List (Value × Value) → List String
  | [] => []
  | (k, v) :: rest =>
    (style.quote (keyText k) ++ ": " ++ writeAt style level v) :: writeEntries style level rest

end

/-- A value as JSON. -/
def write (style : Style) (v : Value) : String :=
  writeAt style 0 v

end ClientGen.Json
