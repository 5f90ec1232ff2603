import ClientGen.Template.Syntax
import ClientGen.Text.Chars
import ClientGen.Text.Identifier

/-!
# Reading templates

The source of a template as a template. A tag takes the line break behind it, and the blanks before
it if nothing else stands between it and the start of its line.
-/

namespace ClientGen.Template

open ClientGen.Text

/-- A word, a text or a sign inside a hole or a tag. -/
inductive Token
  | word (s : String)
  | text (s : String)
  | sign (c : Char)
  deriving DecidableEq, Repr

/-- The tokens up to the end mark `close`, which is a character before a closing brace, and what is
left behind it. Each step takes at least one character of the budget. -/
def tokens (close : Char) : Nat → List Char → Option (List Token × List Char)
  | 0, _ => none
  | _, [] => none
  | budget + 1, c :: rest =>
    if c == close && rest.head? == some '\x7d' then some ([], rest.tail)
    else if isBlank c then tokens close budget rest
    else if isNamePart c then do
      let (ts, left) ← tokens close budget (rest.dropWhile isNamePart)
      return (.word (String.ofList (c :: rest.takeWhile isNamePart)) :: ts, left)
    else if c == '"' || c == '\'' then do
      let body := rest.takeWhile (· != c)
      let (ts, left) ← tokens close budget (rest.drop (body.length + 1))
      if rest.length ≤ body.length then none
      else return (.text (String.ofList body) :: ts, left)
    else do
      let (ts, left) ← tokens close budget rest
      return (.sign c :: ts, left)

/-- The fields and filters behind an expression. -/
def applied (e : Expr) : List Token → Option (Expr × List Token)
  | .sign '.' :: .word f :: rest => applied (.field e f) rest
  | .sign '|' :: .word "comment" :: rest => applied (.filtered .comment e) rest
  | .sign '|' :: .word "json" :: rest => applied (.filtered .json e) rest
  | .sign '|' :: .word "join" :: .sign '(' :: .text s :: .sign ')' :: rest =>
    applied (.filtered (.join s) e) rest
  | .sign '|' :: .word "map" :: .sign '(' :: .text "json" :: .sign ')' :: rest =>
    applied (.filtered .mapJson e) rest
  | .sign _ :: _ => none
  | rest => some (e, rest)

/-- A name or a text, with what is behind it. -/
def operand : List Token → Option (Expr × List Token)
  | .word w :: rest => if w.toList.head?.any isNameStart then applied (.name w) rest else none
  | .text s :: rest => applied (.text s) rest
  | _ => none

/-- Alternatives with `or` between them. -/
def alternatives : Nat → List Token → Option (Expr × List Token)
  | 0, _ => none
  | budget + 1, ts => do
    let (e, rest) ← operand ts
    match rest with
    | .word "or" :: rest =>
      let (more, left) ← alternatives budget rest
      return (.either e more, left)
    | rest => return (e, rest)

/-- A whole expression, perhaps with a condition. -/
def expression : Nat → List Token → Option Expr
  | 0, _ => none
  | budget + 1, ts => do
    let (e, rest) ← alternatives (budget + 1) ts
    match rest with
    | [] => return e
    | .word "if" :: rest =>
      let (condition, rest) ← alternatives (budget + 1) rest
      match rest with
      | .word "else" :: rest => return .choice e condition (← expression budget rest)
      | _ => none
    | _ => none

/-- The expression of some tokens. -/
def Expr.ofTokens? (ts : List Token) : Option Expr :=
  expression (ts.length + 1) ts

/-- A segment of a source: text, a hole, or a tag, of which `ownLine` tells whether it took a line
break. -/
inductive Segment
  | text (s : String)
  | hole (e : Expr)
  | each (item : String) (items : Expr) (ownLine : Bool)
  | when (condition : Expr) (ownLine : Bool)
  | endEach
  | endWhen

/-- The segment of a tag. -/
def Segment.ofTag? (ts : List Token) (ownLine : Bool) : Option Segment :=
  match ts with
  | .word "for" :: .word item :: .word "in" :: rest => do
    return .each item (← Expr.ofTokens? rest) ownLine
  | .word "if" :: rest => do return .when (← Expr.ofTokens? rest) ownLine
  | [.word "endfor"] => some .endEach
  | [.word "endif"] => some .endWhen
  | _ => none

/-- The text before a tag, in reverse: blanks between the start of the line and the tag go. -/
def beforeTag (atLineStart : Bool) (run : List Char) : List Char :=
  let kept := run.dropWhile fun c => isBlank c && c != '\n'
  match kept with
  | [] => if atLineStart then [] else run
  | c :: _ => if c == '\n' then kept else run

/-- A run of text as a segment, unless it is empty. -/
def textSegment (run : List Char) : List Segment :=
  if run.isEmpty then [] else [.text (String.ofList run.reverse)]

/-- What is left after the line break behind a tag, and whether there was one. -/
def afterTag : List Char → Bool × List Char
  | '\n' :: rest => (true, rest)
  | rest => (false, rest)

/-- The text behind a comment's end mark. -/
def afterComment : List Char → Option (List Char)
  | [] => none
  | '#' :: '\x7d' :: rest => some rest
  | _ :: rest => afterComment rest

/-- The segments of a source. `run` is the text since the last segment in reverse, and
`atLineStart` tells whether it began at the start of a line. Each step takes at least one character
of the budget. -/
def segments : Nat → Bool → List Char → List Char → Option (List Segment)
  | 0, _, _, _ => none
  | _, _, run, [] => some (textSegment run)
  | budget + 1, _, run, '\x7b' :: '\x7b' :: rest => do
    let (ts, left) ← tokens '\x7d' (rest.length + 1) rest
    let e ← Expr.ofTokens? ts
    return textSegment run ++ .hole e :: (← segments budget false [] left)
  | budget + 1, atLineStart, run, '\x7b' :: '%' :: rest => do
    let (ts, left) ← tokens '%' (rest.length + 1) rest
    let (ownLine, left) := afterTag left
    let s ← Segment.ofTag? ts ownLine
    return textSegment (beforeTag atLineStart run) ++ s :: (← segments budget ownLine [] left)
  | budget + 1, atLineStart, run, '\x7b' :: '#' :: rest => do
    let (ownLine, left) := afterTag (← afterComment rest)
    return textSegment (beforeTag atLineStart run) ++ (← segments budget ownLine [] left)
  | budget + 1, atLineStart, run, c :: rest => segments budget atLineStart (c :: run) rest

/-- A part that is open: its opening tag, and the pieces before it in reverse. -/
structure Frame where
  opening : Segment
  before : List Piece

/-- Put one segment in its place. `done` are the pieces of the innermost open part in reverse. -/
def nest (frames : List Frame) (done : List Piece) :
    List Segment → Option Template
  | [] => if frames.isEmpty then some done.reverse else none
  | .text s :: rest => nest frames (.text s :: done) rest
  | .hole e :: rest => nest frames (.hole e :: done) rest
  | .each item items own :: rest => nest (⟨.each item items own, done⟩ :: frames) [] rest
  | .when condition own :: rest => nest (⟨.when condition own, done⟩ :: frames) [] rest
  | .endEach :: rest =>
    match frames with
    | ⟨.each item items own, before⟩ :: outer =>
      nest outer (.each item items done.reverse own :: before) rest
    | _ => none
  | .endWhen :: rest =>
    match frames with
    | ⟨.when condition own, before⟩ :: outer =>
      nest outer (.when condition done.reverse own :: before) rest
    | _ => none

/-- The template of a source, if the source is well-formed. -/
def ofSource? (source : String) : Option Template := do
  let cs := source.toList
  nest [] [] (← segments (cs.length + 1) true [] cs)

end ClientGen.Template
