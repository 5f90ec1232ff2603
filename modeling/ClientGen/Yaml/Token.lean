import ClientGen.Yaml.Cursor
import ClientGen.Yaml.Fault

/-!
# Tokens of YAML

The smallest parts of a YAML text, and how those of them are read that are more than a mark:
directives, anchors, tags and scalars.
-/

namespace ClientGen.Yaml

open ClientGen.Number ClientGen.Text

/-- How a scalar was written. -/
inductive ScalarStyle
  | plain
  | quoted
  deriving DecidableEq, Repr

/-- A token. -/
inductive Token
  | versionDirective (major minor : Nat)
  | tagDirective (handle head : String)
  | otherDirective
  | documentStart
  | documentEnd
  | blockSequenceStart
  | blockMappingStart
  | blockEnd
  | flowSequenceStart
  | flowSequenceEnd
  | flowMappingStart
  | flowMappingEnd
  | blockEntry
  | flowEntry
  | key
  | value
  | alias (name : String)
  | anchor (name : String)
  /-- A tag: its handle, unless it is written out, and the rest of it. -/
  | tag (handle : Option String) (rest : String)
  | scalar (text : String) (style : ScalarStyle)
  deriving DecidableEq, Repr

/-! ### Directives, anchors and tags -/

/-- What has to be there, or else the text is no YAML. -/
def needed {α : Type} (x : Option α) : Except Fault α :=
  match x with
  | some a => .ok a
  | none => .error .malformed

/-- A number in decimal digits, of which there must not be too many. -/
def number (s : Cursor) : Except Fault (Nat × Cursor) :=
  match s.span Char.isDigit with
  | ([], _) => .error .malformed
  | (ds, s) =>
    if greatestDigits < ds.length then .error (.tooManyDigits ds.length)
    else .ok ((String.ofList ds).toNat?.getD 0, s)

/-- The characters of a tag that stand for themselves. -/
def isTagChar (c : Char) : Bool :=
  c.isAlphanum || isAmong "-;/?:@&=+$,_.!~*'()[]" c

/-- The rest of a tag: characters, and bytes in base sixteen behind a percent sign. The budget is
the number of characters left. -/
def tagText : Nat → Cursor → Option (List UInt8 × Cursor)
  | 0, s => some ([], s)
  | budget + 1, s =>
    if s.peek == '%' then
      match hexValue? (s.peek 1), hexValue? (s.peek 2) with
      | some a, some b => do
        let (rest, left) ← tagText budget (s.advance 3)
        return (UInt8.ofNat (a * 16 + b) :: rest, left)
      | _, _ => none
    else if isTagChar s.peek then do
      let (rest, left) ← tagText budget s.step
      return (UInt8.ofNat s.peek.toNat :: rest, left)
    else some ([], s)

/-- The rest of a tag as a text; it is not empty. -/
def tagRest (s : Cursor) : Option (String × Cursor) := do
  let (bytes, s) ← tagText s.size s
  if bytes.isEmpty then none
  else if h : (ByteArray.mk bytes.toArray).IsValidUTF8 then
    return (kept (String.fromUTF8 (ByteArray.mk bytes.toArray) h), s)
  else none

/-- The handle of a tag: an exclamation mark in front of a space, or two of them with a name between
them, which may be empty. -/
def tagHandle (s : Cursor) : Option (String × Cursor) :=
  if s.peek != '!' then none
  else
    let run := (s.rest.drop 1).takeWhile isNameChar
    if s.peek 1 == ' ' then some ("!", s.step)
    else if s.peek (run.length + 1) == '!' then
      some (String.ofList (s.rest.take (run.length + 2)), s.advance (run.length + 2))
    else none

/-- The rest of a directive that gives a version. -/
def versionDirective (s : Cursor) : Except Fault (Token × Cursor) := do
  let (major, s) ← number s
  if s.peek != '.' then .error .malformed
  else
    let (minor, s) ← number s.step
    if isSpaceOrEnd s.peek then return (.versionDirective major minor, s) else .error .malformed

/-- The rest of a directive that says what a handle stands for. -/
def tagDirective (s : Cursor) : Option (Token × Cursor) := do
  let (handle, s) ← tagHandle s
  if s.peek != ' ' then none
  else
    let (head, s) ← tagRest (s.skip (· == ' '))
    if isSpaceOrEnd s.peek then return (.tagDirective handle head, s) else none

/-- A directive. -/
def directive (s : Cursor) : Except Fault (Token × Cursor) := do
  let (name, s) := s.step.span isNameChar
  if name.isEmpty || !isSpaceOrEnd s.peek then .error .malformed
  else
    let (token, s) ←
      if name == "YAML".toList then versionDirective (s.skip (· == ' '))
      else if name == "TAG".toList then needed (tagDirective (s.skip (· == ' ')))
      else .ok (.otherDirective, s.skip (!isBreakOrEnd ·))
    return (token, ← needed s.ignoredLine)

/-- The name behind the mark of an anchor or an alias. -/
def anchorName (s : Cursor) : Option (String × Cursor) :=
  let (name, s) := s.step.span isNameChar
  if name.isEmpty then none
  else if isBlankOrEnd s.peek || isAmong "?:,]\x7d%@\x60" s.peek then some (String.ofList name, s)
  else none

/-- A tag. -/
def tagToken (s : Cursor) : Option (Token × Cursor) := do
  let (token, s) ←
    if s.peek 1 == '<' then do
      let (rest, s) ← tagRest (s.advance 2)
      if s.peek == '>' then some (Token.tag none rest, s.step) else none
    else if isBlankOrEnd (s.peek 1) then some (Token.tag none "!", s.step)
    else do
      let word := (s.rest.drop 1).takeWhile (!isSpaceOrEnd ·)
      let (handle, s) ← if word.contains '!' then tagHandle s else some ("!", s.step)
      let (rest, s) ← tagRest s
      some (Token.tag (some handle) rest, s)
  if isSpaceOrEnd s.peek then some (token, s) else none

/-! ### Scalars -/

/-- What a two-character escape stands for. -/
def shortEscape (c : Char) : Option Char :=
  match c with
  | '0' => some '\x00'
  | 'a' => some '\x07'
  | 'b' => some '\x08'
  | 't' => some '\t'
  | '\t' => some '\t'
  | 'n' => some '\n'
  | 'v' => some '\x0b'
  | 'f' => some '\x0c'
  | 'r' => some '\r'
  | 'e' => some '\x1b'
  | ' ' => some ' '
  | '"' => some '"'
  | '\\' => some '\\'
  | '/' => some '/'
  | 'N' => some '\u0085'
  | '_' => some '\u00a0'
  | 'L' => some '\u2028'
  | 'P' => some '\u2029'
  | _ => none

/-- How many digits an escape by number has. -/
def escapeDigits (c : Char) : Option Nat :=
  match c with
  | 'x' => some 2
  | 'u' => some 4
  | 'U' => some 8
  | _ => none

/-- The value of digits in base sixteen. -/
def hexNumber (digits : List Char) : Option Nat :=
  digits.foldlM (fun n c => (hexValue? c).map (n * 16 + ·)) 0

/-- What a number stands for. The halves of a pair are not joined. -/
def numberedChar (digits : Nat) (s : Cursor) : Except Fault (List Char × Cursor) := do
  let n ← needed (hexNumber (s.rest.take digits))
  if (s.rest.take digits).length < digits then .error .malformed
  else if n ≤ 0x10FFFF then return (ofNumber n, s.advance digits)
  else .error (.noCharacter n)

/-- The line breaks inside a quoted scalar, with the blanks around them taken away. A mark between
documents must not stand there. The budget is the number of characters left. -/
def quotedBreaks : Nat → Cursor → Except Fault (List Char × Cursor)
  | 0, s => .ok ([], s)
  | budget + 1, s =>
    if s.atSeparator then .error .malformed
    else
      let s := s.skip fun c => c == ' ' || c == '\t'
      if isBreak s.peek then do
        let (b, s) := s.lineBreak
        let (rest, s) ← quotedBreaks budget s
        return (b ++ rest, s)
      else .ok ([], s)

/-- Blanks inside a quoted scalar. A single line break is a space, of several all but the first
count. -/
def quotedBlanks (s : Cursor) : Except Fault (List Char × Cursor) :=
  let (blanks, s) := s.span fun c => c == ' ' || c == '\t'
  if s.peek == endMark then .error .malformed
  else if isBreak s.peek then do
    let (b, s) := s.lineBreak
    let (breaks, s) ← quotedBreaks s.size s
    let first := if b != ['\n'] then b else if breaks.isEmpty then [' '] else []
    return (first ++ breaks, s)
  else .ok (blanks, s)

/-- The rest of a quoted scalar behind its opening quote. The budget is the number of characters
left. -/
def quotedText (quote : Char) : Nat → Cursor → Except Fault (List Char × Cursor)
  | 0, _ => .error .malformed
  | budget + 1, s =>
    let c := s.peek
    if c == endMark then .error .malformed
    else if c == quote then
      if quote == '\'' && s.peek 1 == '\'' then do
        let (rest, s) ← quotedText quote budget (s.advance 2)
        return ('\'' :: rest, s)
      else .ok ([], s.step)
    else if c == ' ' || c == '\t' || isBreak c then do
      let (blanks, s) ← quotedBlanks s
      let (rest, s) ← quotedText quote budget s
      return (blanks ++ rest, s)
    else if quote == '"' && c == '\\' then do
      let e := s.peek 1
      match shortEscape e, escapeDigits e with
      | some x, _ =>
        let (rest, s) ← quotedText quote budget (s.advance 2)
        return (x :: rest, s)
      | none, some digits =>
        let (x, s) ← numberedChar digits (s.advance 2)
        let (rest, s) ← quotedText quote budget s
        return (x ++ rest, s)
      | none, none =>
        if isBreak e then
          let (breaks, s) ← quotedBreaks s.size s.step.lineBreak.2
          let (rest, s) ← quotedText quote budget s
          return (breaks ++ rest, s)
        else .error .malformed
    else do
      let (rest, s) ← quotedText quote budget s.step
      return (c :: rest, s)

/-- Whether a plain scalar ends before this character, the next one being `next`. -/
def endsPlain (inFlow : Bool) (c next : Char) : Bool :=
  isBlankOrEnd c || (c == ':' && (isBlankOrEnd next || (inFlow && isAmong ",[]\x7b\x7d" next))) ||
    (inFlow && isAmong ",?[]\x7b\x7d" c)

/-- The run of a plain scalar up to a blank or a character that ends it. -/
def plainRun (inFlow : Bool) : List Char → List Char
  | [] => []
  | c :: rest =>
    if endsPlain inFlow c (rest.headD endMark) then [] else c :: plainRun inFlow rest

/-- The further line breaks behind a line of a plain scalar, and whether a mark between documents
follows one of them. The budget is the number of characters left. -/
def plainBreaks : Nat → Cursor → List Char × Cursor × Bool
  | 0, s => ([], s, false)
  | budget + 1, s =>
    if s.peek == ' ' then plainBreaks budget s.step
    else if isBreak s.peek then
      let (b, s) := s.lineBreak
      if s.atSeparator then ([], s, true)
      else
        let (rest, s, separated) := plainBreaks budget s
        (b ++ rest, s, separated)
    else ([], s, false)

/-- The blanks behind a run of a plain scalar, and whether they hold a line break. Blanks before a
mark between documents count as none. -/
def plainBlanks (s : Cursor) : List Char × Cursor × Bool :=
  let (blanks, s) := s.span (· == ' ')
  if isBreak s.peek then
    let (b, s) := s.lineBreak
    if s.atSeparator then ([], s, true)
    else
      let (breaks, s, separated) := plainBreaks s.size s
      if separated then ([], s, true)
      else
        let first := if b != ['\n'] then b else if breaks.isEmpty then [' '] else []
        (first ++ breaks, s, true)
  else (blanks, s, false)

/-- A plain scalar: its text, the place behind it, and whether that is on a new line. `blanks` are
those in front of the next run, and the budget is the number of characters left. -/
def plainText (inFlow : Bool) (indent : Int) : Nat → List Char → Bool → Cursor →
    List Char × Cursor × Bool
  | 0, _, newLine, s => ([], s, newLine)
  | budget + 1, blanks, newLine, s =>
    let run := plainRun inFlow s.rest
    if s.peek == '#' || run.isEmpty then ([], s, newLine)
    else
      let (next, s, newLine) := plainBlanks (s.advance run.length)
      if next.isEmpty || s.peek == '#' || (!inFlow && (s.column : Int) < indent) then
        (blanks ++ run, s, newLine)
      else
        let (rest, s, newLine) := plainText inFlow indent budget next newLine s
        (blanks ++ run ++ rest, s, newLine)

/-- The signs behind the mark of a block scalar: whether line breaks at its end are kept or
dropped, and an indentation. -/
def blockSigns (s : Cursor) : Option (Option Bool × Option Nat × Cursor) :=
  let sign (s : Cursor) : Option Bool × Cursor :=
    if s.peek == '+' then (some true, s.step)
    else if s.peek == '-' then (some false, s.step) else (none, s)
  let digit (s : Cursor) : Option Nat × Cursor :=
    if s.peek.isDigit then (some (s.peek.toNat - '0'.toNat), s.step) else (none, s)
  let (keep, increment, s) := match sign s with
    | (some keep, s) => let (d, s) := digit s; (some keep, d, s)
    | (none, s) =>
      match digit s with
      | (some d, s) => let (keep, s) := sign s; (keep, some d, s)
      | (none, s) => (none, none, s)
  if increment == some 0 || !isSpaceOrEnd s.peek then none else some (keep, increment, s)

/-- The empty lines at the start of a block scalar, the place behind them, and the deepest column
met. The budget is the number of characters left. -/
def blockLead : Nat → Nat → Cursor → List Char × Nat × Cursor
  | 0, deepest, s => ([], deepest, s)
  | budget + 1, deepest, s =>
    if s.peek == ' ' then blockLead budget (max deepest s.step.column) s.step
    else if isBreak s.peek then
      let (b, s) := s.lineBreak
      let (rest, deepest, s) := blockLead budget deepest s
      (b ++ rest, deepest, s)
    else ([], deepest, s)

/-- The place behind the indentation of a line, at most at the given column. -/
def indented (indent : Nat) (s : Cursor) : Cursor :=
  s.advance ((s.rest.takeWhile (· == ' ')).length.min (indent - s.column))

/-- The empty lines inside a block scalar. The budget is the number of characters left. -/
def blockBreaks (indent : Nat) : Nat → Cursor → List Char × Cursor
  | 0, s => ([], s)
  | budget + 1, s =>
    let s := indented indent s
    if isBreak s.peek then
      let (b, s) := s.lineBreak
      let (rest, s) := blockBreaks indent budget s
      (b ++ rest, s)
    else ([], s)

/-- The lines of a block scalar: their text, its last line break, the empty lines behind it, and
the place after them. `breaks` are the empty lines in front. The budget is the number of characters
left. -/
def blockLines (folded : Bool) (indent : Nat) : Nat → List Char → Cursor →
    List Char × List Char × List Char × Cursor
  | 0, breaks, s => ([], [], breaks, s)
  | budget + 1, breaks, s =>
    if s.column == indent && s.peek != endMark then
      let startsBlank := s.peek == ' ' || s.peek == '\t'
      let (line, s) := s.span (!isBreakOrEnd ·)
      let (b, s) := s.lineBreak
      let (more, s) := blockBreaks indent s.size s
      if s.column == indent && s.peek != endMark then
        let joint :=
          if folded && b == ['\n'] && !startsBlank && s.peek != ' ' && s.peek != '\t' then
            if more.isEmpty then [' '] else []
          else b
        let (rest, last, after, s) := blockLines folded indent budget more s
        (breaks ++ line ++ joint ++ rest, last, after, s)
      else (breaks ++ line, b, more, s)
    else ([], [], breaks, s)

/-- A block scalar behind its mark, inside a collection at the column `indent`. -/
def blockText (folded : Bool) (indent : Int) (s : Cursor) : Option (List Char × Cursor) := do
  let (keep, increment, s) ← blockSigns s
  let s ← s.ignoredLine
  let least := (max 1 (indent + 1)).toNat
  let (breaks, column, s) := match increment with
    | none =>
      let (breaks, deepest, s) := blockLead s.size 0 s
      (breaks, max least deepest, s)
    | some n =>
      let column := least + n - 1
      let (breaks, s) := blockBreaks column s.size s
      (breaks, column, s)
  let (text, last, after, s) := blockLines folded column s.size breaks s
  let tail := match keep with
    | some false => []
    | none => last
    | some true => last ++ after
  return (text ++ tail, s)

end ClientGen.Yaml
