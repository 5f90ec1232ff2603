import ClientGen.Text.Chars

/-!
# Path templates

A path with placeholders in braces, such as `/users/{id}`, cut into its pieces from left to right.
A placeholder has at least one character and no brace inside; any other brace stands for itself.
-/

namespace ClientGen.Api

/-- A piece of a path. -/
inductive PathPiece
  | literal (c : Char)
  | placeholder (name : List Char)
  deriving DecidableEq, Repr

/-- Whether a character may stand inside a placeholder. -/
def isPlaceholderChar (c : Char) : Bool :=
  c != '\x7b' && c != '\x7d'

theorem length_lt_of_dropWhile_eq_cons {p : Char → Bool} {c : Char} {s more : List Char}
    (h : s.dropWhile p = c :: more) : more.length < s.length + 1 := by
  have := (List.dropWhile_sublist p (l := s)).length_le
  rw [h, List.length_cons] at this
  omega

/-- The pieces of a path. -/
def pathPieces : List Char → List PathPiece
  | [] => []
  | c :: rest =>
    if c == '\x7b' then
      match h : rest.dropWhile isPlaceholderChar, rest.takeWhile isPlaceholderChar with
      | '\x7d' :: more, n :: name =>
        have : more.length < rest.length + 1 := length_lt_of_dropWhile_eq_cons h
        .placeholder (n :: name) :: pathPieces more
      | _, _ => .literal c :: pathPieces rest
    else .literal c :: pathPieces rest
termination_by s => s.length

/-- The name of a placeholder. -/
def PathPiece.name? : PathPiece → Option String
  | .placeholder name => some (String.ofList name)
  | .literal _ => none

/-- The names of the placeholders of a path, in order. -/
def placeholders (path : String) : List String :=
  (pathPieces path.toList).filterMap PathPiece.name?

/-- Whether a text is one placeholder and nothing else. -/
def isPlaceholder (s : List Char) : Bool :=
  match pathPieces s with
  | [.placeholder _] => true
  | _ => false

end ClientGen.Api
