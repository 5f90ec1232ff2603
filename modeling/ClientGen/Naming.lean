import ClientGen.Text.Chars
import ClientGen.Json.Quoted

/-!
# Names

How a name of an API description becomes a name of the generated code: a type name, a function
name, a property key, an argument, a directory. All of them keep ASCII letters and digits only and
drop every other character, so two descriptions' names may become one.
-/

namespace ClientGen.Naming

open ClientGen.Text

/-- Words that the generated language keeps for itself, and that no argument may be called. -/
def reservedWords : List String :=
  ["break", "case", "catch", "class", "const", "continue", "debugger", "default", "delete", "do",
   "else", "enum", "export", "extends", "false", "finally", "for", "function", "if", "import",
   "in", "instanceof", "new", "null", "return", "super", "switch", "this", "throw", "true", "try",
   "typeof", "var", "void", "while", "with", "yield", "let", "static", "implements", "interface",
   "package", "private", "protected", "public", "await"]

/-- Plurals that no ending explains, with their singulars. -/
def irregularPlurals : List (String × String) :=
  [("children", "child"), ("people", "person"), ("men", "man"), ("women", "woman"),
   ("mice", "mouse"), ("geese", "goose"), ("teeth", "tooth"), ("feet", "foot"),
   ("criteria", "criterion"), ("analyses", "analysis"), ("indices", "index"),
   ("appendices", "appendix"), ("matrices", "matrix"), ("vertices", "vertex")]

/-- Make the first character a capital and leave the others. -/
def capitalised : List Char → List Char
  | [] => []
  | c :: cs => c.toUpper :: cs

/-- Join the words of a name, each with a capital in front: every run of characters that are no
ASCII letters or digits separates two words, and capitals inside a word survive. -/
def pascalChars (s : List Char) : List Char :=
  ((runs Char.isAlphanum s).map capitalised).flatten

/-- `pascalChars` on texts. -/
def pascalCase (s : String) : String :=
  String.ofList (pascalChars s.toList)

/-- `pascalCase` with a small letter in front. -/
def camelCase (s : String) : String :=
  match pascalChars s.toList with
  | [] => ""
  | c :: cs => String.ofList (c.toLower :: cs)

/-- A type name: `fallback` for a text without words, and `Value` before a leading digit. -/
def typeIdentifier (s : String) (fallback : String := "Unknown") : String :=
  match pascalChars s.toList with
  | [] => fallback
  | c :: cs => if c.isDigit then "Value" ++ String.ofList (c :: cs) else String.ofList (c :: cs)

/-- The endings that tell a plural, the length a word must exceed to count, and how many characters
the singular drops. The first that fits is taken; `ies` is not here, because it becomes `y`. -/
def pluralEndings : List (String × Nat × Nat) :=
  [("ses", 3, 2), ("xes", 3, 2), ("zes", 3, 2), ("ches", 4, 2), ("shes", 4, 2), ("s", 1, 1)]

/-- The singular of a regular plural. -/
def regularSingular (s : List Char) : List Char :=
  if endsWith s "ies".toList && s.length > 3 then s.take (s.length - 3) ++ ['y']
  else
    match pluralEndings.find? fun (ending, floor, _) =>
        endsWith s ending.toList && s.length > floor with
    | some (_, _, dropped) => s.take (s.length - dropped)
    | none => s

/-- The singular of a plural noun; a word that only looks like a plural, such as `status` or
`analysis`, stays. -/
def singular (name : String) : String :=
  let s := name.toList
  let small := s.map Char.toLower
  match irregularPlurals.find? fun (plural, _) => plural.toList == small with
  | some (_, one) =>
    if s.head?.any Char.isUpper then String.ofList (capitalised one.toList) else one
  | none =>
    if endsWith small "us".toList || endsWith small "is".toList || endsWith small "ss".toList then
      name
    else String.ofList (regularSingular s)

/-- Put a hyphen between a small letter or digit and the capital that follows it. -/
def hyphenated : List Char → List Char
  | [] => []
  | c :: cs =>
    match cs with
    | d :: _ =>
      if (c.isLower || c.isDigit) && d.isUpper then c :: '-' :: hyphenated cs
      else c :: hyphenated cs
    | [] => [c]

/-- A directory name: the words of the text in small letters with hyphens between them, where a
capital also starts a word, and `default` when there is none. -/
def directoryName (s : String) : String :=
  match runs Char.isAlphanum (hyphenated s.toList) with
  | [] => "default"
  | ws => String.ofList (((ws.intersperse ['-']).flatten).map Char.toLower)

/-- The characters an identifier may start with. -/
def isIdentifierStart (c : Char) : Bool :=
  c.isAlpha || c == '_' || c == '$'

/-- The characters an identifier may go on with. -/
def isIdentifierPart (c : Char) : Bool :=
  c.isAlphanum || c == '_' || c == '$'

/-- Whether the characters after the first are those of an identifier; one line feed may end
them. -/
def isIdentifierTail : List Char → Bool
  | [] => true
  | c :: cs => (isIdentifierPart c && isIdentifierTail cs) || (c == '\n' && cs.isEmpty)

/-- Whether a text passes for an identifier. A single line feed at the end is let through. -/
def isIdentifier (s : String) : Bool :=
  match s.toList with
  | [] => false
  | c :: cs => isIdentifierStart c && isIdentifierTail cs

/-- An argument name: the text itself when it is an identifier and its camel case otherwise, made
non-empty, kept from starting with a digit and from being a reserved word. -/
def argumentName (s : String) : String :=
  let base := if isIdentifier s then s else camelCase s
  let name :=
    match base.toList with
    | [] => "param"
    | c :: _ => if c.isDigit then "_" ++ base else base
  if reservedWords.contains name then name ++ "_" else name

/-- An object key: the text itself when it is an identifier, and a quoted literal otherwise. -/
def propertyKey (s : String) : String :=
  if isIdentifier s then s else Json.quoteAscii s

end ClientGen.Naming
