import ClientGen.Api.Description
import ClientGen.Enumeration
import ClientGen.Log
import ClientGen.Output.Layout
import ClientGen.TypeScript.Declaration

/-!
# The files being written

The two files that declare the schemas of one directory, types in the one and validators in the
other, and the registry that both take the names of enumerations from. Emission is a computation on
these that may fail; what was declared before a failure stays declared.
-/

namespace ClientGen.Emission

open ClientGen.Api ClientGen.Enumeration ClientGen.Naming ClientGen.Output ClientGen.Schema
  ClientGen.Template ClientGen.TypeScript

/-- A file of declarations: the schemas it has dealt with in the order in which it began them, those
that failed, its declarations in order, and whether it refers to the shared schemas. -/
structure DeclarationFile (δ : Type) where
  processed : List String := []
  failed : List String := []
  declarations : List (Written δ) := []
  usesCommon : Bool := false

/-- The names that a file declares. -/
def DeclarationFile.emitted {δ : Type} [Declares δ] (f : DeclarationFile δ) : List String :=
  f.declarations.map fun w => Declares.name w.declaration

/-- Add a written declaration unless its name is declared. -/
def DeclarationFile.add {δ : Type} [Declares δ] (f : DeclarationFile δ) (d : Written δ) :
    DeclarationFile δ :=
  if f.emitted.contains (Declares.name d.declaration) then f
  else { f with declarations := f.declarations ++ [d] }

/-- The artifacts of a file. -/
def DeclarationFile.artifacts {δ : Type} [Declares δ] (f : DeclarationFile δ) : List Artifact :=
  f.declarations.map Written.artifact

/-- Both files of a directory with what they share. `deferredTargets` are the schemas that some
validator looks up only when it is used. -/
structure Workspace where
  registry : Registry := {}
  types : DeclarationFile TypeDeclaration := {}
  validators : DeclarationFile ValidatorDeclaration := {}
  deferredTargets : List String := []
  log : Log := []

/-- What emission depends on. Schemas and enumerations in the two lists are declared in the shared
files; inline types nested deeper than `maxDepth` are not looked into. -/
structure Setting where
  description : Description
  templates : TemplateId → Template := builtin
  commonSchemas : List String := []
  commonDeclarations : List String := []
  maxDepth : Int := 100

/-- Why emission fails. -/
inductive EmitError
  | schema (e : SchemaError)
  | render (e : RenderError)
  /-- A field that is given as a record lacks a key. -/
  | noKey (key : String)
  /-- An integer has too many digits to be written. -/
  | digits (f : Number.DigitsFault)

/-- The words for an error. -/
def EmitError.message : EmitError → String
  | .schema e => e.message
  | .render e => e.message
  | .noKey key => Text.quoted key
  | .digits f => f.message

/-- Emission: a computation on a workspace that may fail. -/
abbrev Emit := ExceptT EmitError (StateM Workspace)

/-- Report a message. -/
def note (level : Level) (text : String) : Emit Unit :=
  modify fun w => { w with log := w.log ++ [⟨level, text⟩] }

/-- Go on unless a schema is wrong. -/
def orSchemaError {α : Type} (r : Except SchemaError α) : Emit α :=
  liftM (r.mapError EmitError.schema)

/-- Go on unless a template cannot be rendered. -/
def orRenderError {α : Type} (r : Except RenderError α) : Emit α :=
  liftM (r.mapError EmitError.render)

/-- Run a computation and give the error of a schema as a value. -/
def caught {α : Type} (x : Emit α) : Emit (Except SchemaError α) :=
  tryCatch (Except.ok <$> x) fun
    | .schema e => return .error e
    | e => throw e

/-- Ask the registry for the name of an enumeration that is a schema itself. -/
def schemaEnumName (values : List String) (schema : String) : Emit String :=
  modifyGet fun w =>
    let (name, registry) := w.registry.nameOfSchema values schema
    (name, { w with registry })

/-- Ask the registry for the name of an enumeration inside a schema. A new name is reported. -/
def inlineEnumName (values : List String) (context : Option Context) : Emit String := do
  let new := ((← get).registry.known? values context).isNone
  let name ← modifyGet fun w =>
    let (name, registry) := w.registry.nameOf values context
    (name, { w with registry })
  if new then
    note .debug ("Registered enum " ++ name ++ " for [" ++ valueKey values ++ "]")
  return name

/-- Where an enumeration stands: a property with a name that is not empty, or nowhere. -/
def contextOf (parent : String) (property : Option String) : Option Context :=
  match property with
  | some p => if p.isEmpty then none else some ⟨p, parent⟩
  | none => none

/-- The node to declare a schema from: the given one, and that of the description without one. -/
def nodeOf (c : Setting) (schema : String) (node : Option SchemaNode) : Emit SchemaNode :=
  match node with
  | some node => return node
  | none => orSchemaError (c.description.schema schema)

/-- The name that a schema is declared under. The registry names enumerations, so that types and
validators agree on them. -/
def typeName (c : Setting) (schema : String) : Emit String := do
  match ← orSchemaError (c.description.schema schema) with
  | .enumeration values _ => schemaEnumName values schema
  | _ => return typeIdentifier schema

/-- The name that the validator of a schema is declared under. -/
def constName (c : Setting) (schema : String) : Emit String :=
  validatorName <$> typeName c schema

/-- More than the schemas that can be emitted one inside the other, from a schema that the
description may not know itself. -/
def nestingBound (c : Setting) : Nat :=
  c.description.schemas.length + 1

end ClientGen.Emission
