import ClientGen.Text.Half

/-!
# Places in a YAML text

A place in the text, with what is looked at from there: the next characters, runs of a class, and
the ends of lines.
-/

namespace ClientGen.Yaml

open ClientGen.Text

/-! ### Characters -/

/-- Stands for the end of the text. No text holds it. -/
def endMark : Char := '\x00'

/-- The characters that end a line. -/
def isBreak (c : Char) : Bool :=
  c == '\n' || c == '\r' || c == '\u0085' || c == '\u2028' || c == '\u2029'

/-- The end of a line or of the text. -/
def isBreakOrEnd (c : Char) : Bool :=
  c == endMark || isBreak c

/-- A space, or the end of a line or of the text. -/
def isSpaceOrEnd (c : Char) : Bool :=
  c == ' ' || isBreakOrEnd c

/-- A space or a tab, or the end of a line or of the text. -/
def isBlankOrEnd (c : Char) : Bool :=
  c == '\t' || isSpaceOrEnd c

/-- The numbers that a text may hold, among them no half. -/
def isAllowed (n : Nat) : Bool :=
  n == 0x9 || n == 0xA || n == 0xD || (0x20 ≤ n && n ≤ 0x7E) || n == 0x85 ||
    (0xA0 ≤ n && n ≤ 0xD7FF) || (0xE000 ≤ n && n ≤ 0xFFFD) || 0x10000 ≤ n

/-- The characters of the names of anchors and directives. -/
def isNameChar (c : Char) : Bool :=
  c.isAlphanum || c == '-' || c == '_'

/-- Whether a character is one of those of a text. -/
def isAmong (marks : String) (c : Char) : Bool :=
  marks.toList.contains c

/-! ### Places in the text -/

/-- A place in the text: what is left, a bound above the number of characters of the whole text,
how much came before, the line and the column. -/
structure Cursor where
  rest : List Char
  size : Nat
  index : Nat := 0
  line : Nat := 0
  column : Nat := 0

namespace Cursor

/-- The character `n` places on. -/
def peek (s : Cursor) (n : Nat := 0) : Char :=
  s.rest.getD n endMark

/-- One character on. -/
def step (s : Cursor) : Cursor :=
  match s.rest with
  | [] => s
  | c :: rest =>
    if c == halfMark then { s with rest }
    else if isBreak c && !(c == '\r' && rest.head? == some '\n') then
      { s with rest, index := s.index + 1, line := s.line + 1, column := 0 }
    else
      { s with rest, index := s.index + 1
               column := if c == '\ufeff' then s.column else s.column + 1 }

/-- Some characters on. -/
def advance (s : Cursor) : Nat → Cursor
  | 0 => s
  | n + 1 => s.step.advance n

/-- The run of characters of a class, and the place behind it. -/
def span (s : Cursor) (p : Char → Bool) : List Char × Cursor :=
  let run := s.rest.takeWhile p
  (run, s.advance run.length)

/-- The place behind a run of characters of a class. -/
def skip (s : Cursor) (p : Char → Bool) : Cursor :=
  (s.span p).2

/-- A line break, as the text it stands for, and the place behind it; nothing elsewhere. -/
def lineBreak (s : Cursor) : List Char × Cursor :=
  match s.rest with
  | '\r' :: '\n' :: _ => (['\n'], s.advance 2)
  | c :: _ =>
    if c == '\n' || c == '\r' || c == '\u0085' then (['\n'], s.step)
    else if c == '\u2028' || c == '\u2029' then ([c], s.step)
    else ([], s)
  | [] => ([], s)

/-- Whether one of the two marks between documents stands here. -/
def atSeparator (s : Cursor) : Bool :=
  match s.rest with
  | '-' :: '-' :: '-' :: rest => isBlankOrEnd (rest.headD endMark)
  | '.' :: '.' :: '.' :: rest => isBlankOrEnd (rest.headD endMark)
  | _ => false

/-- The place behind blanks and a comment, if the line ends there. -/
def ignoredLine (s : Cursor) : Option Cursor :=
  let s := s.skip (· == ' ')
  let s := if s.peek == '#' then s.skip (!isBreakOrEnd ·) else s
  if isBreakOrEnd s.peek then some s.lineBreak.2 else none

end Cursor

end ClientGen.Yaml
