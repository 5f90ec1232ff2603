import ClientGen.Yaml.Token

/-!
# The stream of tokens

A YAML text as its tokens. Indentation becomes explicit: a block collection starts and ends with a
token of its own. A key on one line is recognised only at the colon behind it, and then its token is
put in front of what has been read since.

A text is read no further than is needed to tell the next token. Where it goes wrong, the stream
ends with the fault, behind the tokens that can be told without it.
-/

namespace ClientGen.Yaml

open ClientGen.Text

/-- The tokens of a text up to its end, or up to a fault. -/
structure TokenStream where
  tokens : List Token
  fault : Option Fault
  deriving DecidableEq, Repr

/-- A token that may turn out to be a key: its number, its place, and whether a key has to stand
there. -/
structure PossibleKey where
  token : Nat
  index : Nat
  line : Nat
  column : Nat
  required : Bool

/-- Reading in progress: the tokens so far in reverse and how many they are, how deep the flow
collections are nested, the columns of the block collections, whether a key may start here, and for
each depth of nesting the token that may be a key. -/
structure Lexer where
  at_ : Cursor
  tokens : List Token := []
  count : Nat := 0
  flow : Nat := 0
  indent : Int := -1
  outer : List Int := []
  keyAllowed : Bool := true
  possible : List (Nat × PossibleKey) := []

namespace Lexer

/-- Add a token. -/
def push (l : Lexer) (t : Token) : Lexer :=
  { l with tokens := t :: l.tokens, count := l.count + 1 }

/-- Put a token in front of the token of a number. -/
def insertAt (l : Lexer) (n : Nat) (t : Token) : Lexer :=
  let later := l.count - n
  { l with tokens := l.tokens.take later ++ t :: l.tokens.drop later, count := l.count + 1 }

/-- Forget the possible key at this depth, unless there has to be one. -/
def dropKey (l : Lexer) : Except Fault Lexer :=
  match l.possible.lookup l.flow with
  | some k => if k.required then .error .malformed else .ok (without l)
  | none => .ok l
where
  without (l : Lexer) : Lexer := { l with possible := l.possible.filter fun (d, _) => d != l.flow }

/-- Forget the possible keys that are on another line or too far back. -/
def dropStale (l : Lexer) : Except Fault Lexer :=
  let stale (k : PossibleKey) : Bool :=
    k.line != l.at_.line || 1024 < l.at_.index - k.index
  if l.possible.any fun (_, k) => stale k && k.required then .error .malformed
  else .ok { l with possible := l.possible.filter fun (_, k) => !stale k }

/-- Remember that the next token may be a key. -/
def saveKey (l : Lexer) : Except Fault Lexer :=
  if l.keyAllowed then do
    let l ← l.dropKey
    let k : PossibleKey :=
      { token := l.count, index := l.at_.index, line := l.at_.line, column := l.at_.column
        required := l.flow == 0 && l.indent == l.at_.column }
    return { l with possible := (l.flow, k) :: l.possible }
  else .ok l

/-- End the block collections that are indented deeper than a column, of which there are at most as
many as columns are remembered. -/
def unwind (l : Lexer) (column : Int) : Lexer :=
  if l.flow != 0 then l else go l.outer l
where
  go : List Int → Lexer → Lexer
    | [], l => l
    | i :: outer, l =>
      if column < l.indent then go outer ({ l with indent := i, outer }.push .blockEnd) else l

/-- Start a block collection at a column, if it is deeper than the others. -/
def deepen (l : Lexer) (column : Nat) : Option Lexer :=
  if l.indent < column then some { l with outer := l.indent :: l.outer, indent := column } else none

/-- Go on behind a token of some characters. -/
def take (l : Lexer) (n : Nat) (t : Token) : Lexer :=
  { l with at_ := l.at_.advance n }.push t

/-- The place of the next token: behind blanks, comments and line breaks. The budget is the number
of characters left. -/
def toNext : Nat → Lexer → Lexer
  | 0, l => l
  | budget + 1, l =>
    let s := l.at_.skip (· == ' ')
    let s := if s.peek == '#' then s.skip (!isBreakOrEnd ·) else s
    if isBreak s.peek then
      toNext budget { l with at_ := s.lineBreak.2, keyAllowed := l.keyAllowed || l.flow == 0 }
    else { l with at_ := s }

/-- A token of a document: a directive or a mark. -/
def documentToken (l : Lexer) : Except Fault Lexer := do
  let l ← (l.unwind (-1)).dropKey
  return { l with keyAllowed := false }

/-- The start of a flow collection. -/
def openFlow (l : Lexer) (t : Token) : Except Fault Lexer := do
  let l ← l.saveKey
  return { l.take 1 t with flow := l.flow + 1, keyAllowed := true }

/-- The end of a flow collection. -/
def closeFlow (l : Lexer) (t : Token) : Except Fault Lexer := do
  let l ← l.dropKey
  if l.flow == 0 then .error .malformed
  else return { l.take 1 t with flow := l.flow - 1, keyAllowed := false }

/-- The comma between entries of a flow collection. -/
def flowEntry (l : Lexer) : Except Fault Lexer := do
  let l ← { l with keyAllowed := true }.dropKey
  return l.take 1 .flowEntry

/-- Start a block collection here if the column is a new one. -/
def startBlock (l : Lexer) (t : Token) : Lexer :=
  match l.deepen l.at_.column with
  | some l => l.push t
  | none => l

/-- The mark of an entry of a block sequence. -/
def blockEntry (l : Lexer) : Except Fault Lexer := do
  if l.flow == 0 && !l.keyAllowed then .error .malformed
  else
    let l := if l.flow == 0 then l.startBlock .blockSequenceStart else l
    let l ← { l with keyAllowed := true }.dropKey
    return l.take 1 .blockEntry

/-- The mark of a key. -/
def keyMark (l : Lexer) : Except Fault Lexer := do
  if l.flow == 0 && !l.keyAllowed then .error .malformed
  else
    let l := if l.flow == 0 then l.startBlock .blockMappingStart else l
    let l ← { l with keyAllowed := l.flow == 0 }.dropKey
    return l.take 1 .key

/-- The mark of a value. The possible key at this depth becomes one. -/
def valueMark (l : Lexer) : Except Fault Lexer := do
  match l.possible.lookup l.flow with
  | some k =>
    let l := { l with possible := l.possible.filter fun (d, _) => d != l.flow }
    let l := l.insertAt k.token .key
    let l :=
      if l.flow != 0 then l
      else
        match l.deepen k.column with
        | some l => l.insertAt k.token .blockMappingStart
        | none => l
    return { l with keyAllowed := false }.take 1 .value
  | none =>
    if l.flow == 0 && !l.keyAllowed then .error .malformed
    else
      let l := if l.flow == 0 then l.startBlock .blockMappingStart else l
      let l ← { l with keyAllowed := l.flow == 0 }.dropKey
      return l.take 1 .value

/-- A token that may be a key, with the place behind it. -/
def keyable (l : Lexer) (read : Cursor → Except Fault (Token × Cursor)) : Except Fault Lexer := do
  let l ← l.saveKey
  let (t, s) ← read l.at_
  return { l with at_ := s, keyAllowed := false }.push t

/-- A block scalar. -/
def blockScalar (l : Lexer) (folded : Bool) : Except Fault Lexer := do
  let l ← { l with keyAllowed := true }.dropKey
  let (text, s) ← needed (blockText folded l.indent l.at_.step)
  return { l with at_ := s }.push (.scalar (String.ofList text) .quoted)

/-- A quoted scalar. -/
def quotedScalar (l : Lexer) (quote : Char) : Except Fault Lexer :=
  l.keyable fun s => do
    let (text, s) ← quotedText quote s.size s.step
    return (.scalar (String.ofList text) .quoted, s)

/-- A plain scalar. A key may start behind it if it ends with its line. -/
def plainScalar (l : Lexer) : Except Fault Lexer := do
  let l ← l.saveKey
  let (text, s, newLine) :=
    plainText (l.flow != 0) (l.indent + 1) l.at_.size [] false l.at_
  return { l with at_ := s, keyAllowed := newLine }.push (.scalar (String.ofList text) .plain)

/-- Whether a plain scalar starts here. -/
def startsPlain (l : Lexer) : Bool :=
  let c := l.at_.peek
  !(isBlankOrEnd c || isAmong "-?:,[]\x7b\x7d#&*!|>'\"%@\x60" c) ||
    (!isBlankOrEnd (l.at_.peek 1) && (c == '-' || (l.flow == 0 && (c == '?' || c == ':'))))

/-- Read the next token. -/
def next (l : Lexer) : Except Fault Lexer :=
  let s := l.at_
  let c := s.peek
  let alone := l.flow != 0 || isBlankOrEnd (s.peek 1)
  if c == '%' && s.column == 0 then do
    let l ← l.documentToken
    let (t, s) ← directive l.at_
    return { l with at_ := s }.push t
  else if s.column == 0 && s.atSeparator then do
    let l ← l.documentToken
    return l.take 3 (if c == '-' then .documentStart else .documentEnd)
  else if c == '[' then l.openFlow .flowSequenceStart
  else if c == '\x7b' then l.openFlow .flowMappingStart
  else if c == ']' then l.closeFlow .flowSequenceEnd
  else if c == '\x7d' then l.closeFlow .flowMappingEnd
  else if c == ',' then l.flowEntry
  else if c == '-' && isBlankOrEnd (s.peek 1) then l.blockEntry
  else if c == '?' && alone then l.keyMark
  else if c == ':' && alone then l.valueMark
  else if c == '*' then
    l.keyable fun s => needed ((anchorName s).map fun (name, s) => (.alias name, s))
  else if c == '&' then
    l.keyable fun s => needed ((anchorName s).map fun (name, s) => (.anchor name, s))
  else if c == '!' then l.keyable fun s => needed (tagToken s)
  else if c == '|' && l.flow == 0 then l.blockScalar false
  else if c == '>' && l.flow == 0 then l.blockScalar true
  else if c == '\'' || c == '"' then l.quotedScalar c
  else if l.startsPlain then l.plainScalar
  else .error .malformed

/-- Read the tokens that stand next, of which there is one at least, or none at the end of the text.
Whether it is the end is told as well. -/
def step (l : Lexer) : Except Fault (Bool × Lexer) := do
  let l ← (toNext l.at_.size l).dropStale
  let l := l.unwind l.at_.column
  if l.at_.rest.isEmpty then return (true, ← (l.unwind (-1)).dropKey)
  else return (false, ← l.next)

/-- How many tokens can be told from here on, where `known` could before: those in front of the
first one that may still turn out to be a key. No more can be told where one that has to be a key
is none. -/
def settled (l : Lexer) (known : Nat) : Nat :=
  match l.dropStale with
  | .error _ => known
  | .ok l => l.possible.foldl (fun n (_, k) => min n k.token) l.count

/-- Read all tokens, of which `known` could be told before. Each takes at least one character of the
budget. -/
def all : Nat → Nat → Lexer → TokenStream
  | 0, _, _ => ⟨[], some .malformed⟩
  | budget + 1, known, l =>
    let known := l.settled known
    match l.step with
    | .error fault => ⟨l.tokens.reverse.take known, some fault⟩
    | .ok (true, l) => ⟨l.tokens.reverse, none⟩
    | .ok (false, l) => all budget known l

end Lexer

/-- The tokens of a text. A byte order mark in front is skipped. -/
def TokenStream.ofText (text : List Char) : TokenStream :=
  if !(numbers text).all isAllowed then ⟨[], some .malformed⟩
  else
    let start : Cursor := { rest := text, size := text.length + 1 }
    let start := if start.peek == '\ufeff' then start.step else start
    Lexer.all start.size 0 { at_ := start }

end ClientGen.Yaml
