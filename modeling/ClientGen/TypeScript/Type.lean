import ClientGen.Collections.Distinct
import ClientGen.Json.Writer
import ClientGen.Text.Chars

/-!
# Type expressions

The types that declarations are made of, and their text. A reference to a declaration may go through
the namespace of the file that declares it.
-/

namespace ClientGen.TypeScript

open ClientGen.Text

mutual

/-- A type expression. -/
inductive TypeExpr
  | any
  | string
  | number
  | boolean
  | blob
  /-- A declared type, perhaps of another file. -/
  | named (namespace_ : Option String) (name : String)
  | array (item : TypeExpr)
  /-- A map from texts. -/
  | record (value : TypeExpr)
  | object (members : List Member)
  | orNull (type : TypeExpr)
  /-- A type given by its text. -/
  | verbatim (text : String)

/-- A member of an object type, whose key is written as it is. -/
inductive Member
  | mk (key : String) (optional : Bool) (type : TypeExpr)

end

instance : Inhabited TypeExpr := ⟨.any⟩

/-- The text of a list type. A union or an intersection inside is put in parentheses. -/
def arrayText (item : String) : String :=
  let s := item.toList
  if occursIn " | ".toList s || occursIn " & ".toList s then "(" ++ item ++ ")[]" else item ++ "[]"

/-- The text of a name, behind its namespace if it has one. -/
def qualified (namespace_ : Option String) (name : String) : String :=
  match namespace_ with
  | some n => n ++ "." ++ name
  | none => name

mutual

/-- The text of a type. -/
def TypeExpr.text : TypeExpr → String
  | .any => "any"
  | .string => "string"
  | .number => "number"
  | .boolean => "boolean"
  | .blob => "Blob"
  | .named n name => qualified n name
  | .array item => arrayText item.text
  | .record value => "Record<string, " ++ value.text ++ ">"
  | .object members => "\x7b " ++ "; ".intercalate (Member.texts members) ++ " \x7d"
  | .orNull type => type.text ++ " | null"
  | .verbatim text => text

/-- The texts of the members of an object type. -/
def Member.texts : List Member → List String
  | [] => []
  | ⟨key, optional, type⟩ :: rest =>
    (key ++ (if optional then "?" else "") ++ ": " ++ type.text) :: Member.texts rest

end

/-- Whether a type is `any`. -/
def TypeExpr.isAny : TypeExpr → Bool
  | .any => true
  | _ => false

/-- A type with null, unless it is `any`, which has null already. -/
def TypeExpr.withNull (t : TypeExpr) : TypeExpr :=
  if t.isAny then t else .orNull t

mutual

/-- The namespaces that a type goes through, in order. -/
def TypeExpr.namespaces : TypeExpr → List String
  | .named n _ => n.toList
  | .array item => item.namespaces
  | .record value => value.namespaces
  | .object members => Member.namespacesAll members
  | .orNull type => type.namespaces
  | .any => []
  | .string => []
  | .number => []
  | .boolean => []
  | .blob => []
  | .verbatim _ => []

/-- The namespaces that the members of an object type go through. -/
def Member.namespacesAll : List Member → List String
  | [] => []
  | ⟨_, _, type⟩ :: rest => type.namespaces ++ Member.namespacesAll rest

end

/-- The union of some literals, which are written as JSON. -/
def literalUnion (values : List Document.Value) : String :=
  " | ".intercalate (values.map (Json.write Json.Style.inline))

end ClientGen.TypeScript
