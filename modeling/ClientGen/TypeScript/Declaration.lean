import ClientGen.Template.Builtin
import ClientGen.Template.Render
import ClientGen.TypeScript.Type
import ClientGen.TypeScript.Validator

/-!
# Declarations

What the generated files declare, and the template and the context that each declaration is written
with.
-/

namespace ClientGen.TypeScript

open ClientGen.Document ClientGen.Template

/-- The kinds of generated text. -/
inductive ArtifactKind
  | type
  | enumeration
  | validator
  | function
  | hook
  deriving DecidableEq, Repr

/-- The name of a kind. -/
def ArtifactKind.name : ArtifactKind → String
  | .type => "type"
  | .enumeration => "enum"
  | .validator => "validator"
  | .function => "function"
  | .hook => "hook"

/-- A generated text with its name. -/
structure Artifact where
  name : String
  kind : ArtifactKind
  content : String
  deriving DecidableEq, Repr

/-- A field of an interface. -/
structure TypeField where
  key : String
  type : TypeExpr
  optional : Bool
  description : Option String

/-- What a template sees of a field. -/
def TypeField.context (f : TypeField) : Value :=
  .record [("key", .str f.key), ("type", .str f.type.text), ("optional", .bool f.optional),
    ("description", .ofText? f.description)]

/-- A description given as a value: nothing is none, and anything else than text cannot be shown. -/
def descriptionOf (v : Value) : Except RenderError (Option String) :=
  if !v.truthy then .ok none
  else
    match v with
    | .str s => .ok (some s)
    | v => .error (.noText v)

/-- What a record holds under a key that a template asks for. -/
def needed (record : Value) (key : String) : Except RenderError Value :=
  match record.get? key with
  | some v => .ok v
  | none => .error (.noField record key)

/-- The field of a record. What is missing is told in the order in which the template asks. -/
def TypeField.ofRecord (record : Value) : Except RenderError TypeField := do
  let description ← descriptionOf (← needed record "description")
  let key ← needed record "key"
  let optional ← needed record "optional"
  let type ← needed record "type"
  return { key := key.shown, type := .verbatim type.shown, optional := optional.truthy, description }

/-- The field of a validator given as a record, or the first key that the record lacks. -/
def Field.ofRecord (record : Value) : Except String Field := do
  let under (key : String) : Except String Value :=
    match record.get? key with
    | some v => .ok v
    | none => .error key
  let key ← under "key"
  let validator ← under "expression"
  return .mk key.shown (← under "optional").truthy (.verbatim validator.shown)

/-- The declaration of a type. -/
inductive TypeDeclaration
  | interface_ (name : String) (fields : List TypeField) (description : Option String)
  | enumeration (name : String) (values : List String) (description : Option String)
  | alias (name : String) (type : TypeExpr) (description : Option String)

/-- The declaration of a validator. `annotated` gives it an explicit type, without which a value
that refers to itself has none. -/
inductive ValidatorDeclaration
  | schema (name : String) (value : Validator) (annotated : Bool) (description : Option String)
  | enumeration (name : String) (values : List String)

/-- What is common to declarations: the name they declare, their kind, and how they are written. -/
class Declares (δ : Type) where
  name : δ → String
  kind : δ → ArtifactKind
  template : δ → TemplateId
  context : δ → Scope

/-- The name that a type declaration declares. -/
def TypeDeclaration.name : TypeDeclaration → String
  | .interface_ name _ _ => name
  | .enumeration name _ _ => name
  | .alias name _ _ => name

/-- The name that a validator declaration declares. -/
def ValidatorDeclaration.name : ValidatorDeclaration → String
  | .schema name _ _ _ => name
  | .enumeration name _ => name

instance : Declares TypeDeclaration where
  name := TypeDeclaration.name
  kind
    | .interface_ _ _ _ => .type
    | .enumeration _ _ _ => .enumeration
    | .alias _ _ _ => .type
  template
    | .interface_ _ _ _ => .typeInterface
    | .enumeration _ _ _ => .typeEnum
    | .alias _ _ _ => .typeAlias
  context
    | .interface_ name fields description =>
      [("name", .str name), ("fields", .list (fields.map TypeField.context)),
       ("description", .ofText? description)]
    | .enumeration name values description =>
      [("name", .str name), ("values", .texts values), ("description", .ofText? description)]
    | .alias name type description =>
      [("name", .str name), ("type", .str type.text), ("description", .ofText? description)]

instance : Declares ValidatorDeclaration where
  name := ValidatorDeclaration.name
  kind
    | .schema _ _ _ _ => .validator
    | .enumeration _ _ => .enumeration
  template
    | .schema _ _ _ _ => .zodSchema
    | .enumeration _ _ => .zodEnum
  context
    | .schema name value annotated description =>
      [("name", .str name), ("expression", .str value.text), ("annotate", .bool annotated),
       ("description", .ofText? description)]
    | .enumeration name values => [("name", .str name), ("values", .texts values)]

/-- A declaration as it was written. -/
structure Written (δ : Type) where
  declaration : δ
  content : String

/-- The artifact of a written declaration. -/
def Written.artifact {δ : Type} [Declares δ] (w : Written δ) : Artifact :=
  { name := Declares.name w.declaration, kind := Declares.kind w.declaration, content := w.content }

/-- A text without line feeds at its end. -/
def withoutLastLines (s : String) : String :=
  String.ofList (Text.dropEndWhile (· == '\n') s.toList)

/-- Write a declaration with its template. -/
def writeDeclaration {δ : Type} [Declares δ] (templates : TemplateId → Template) (d : δ) :
    Except RenderError (Written δ) := do
  let content ← (templates (Declares.template d)).render (Declares.context d)
  return ⟨d, withoutLastLines content⟩

end ClientGen.TypeScript
