import ClientGen.Emission.Workspace

/-!
# Emitting types

Schemas as type declarations. A schema is declared once, after the declarations it needs; a
reference to a schema that could not be declared becomes `any`. Unions and intersections become
`any` as well: only validators tell them apart.
-/

namespace ClientGen.Emission

open ClientGen.Api ClientGen.Enumeration ClientGen.Naming ClientGen.Output ClientGen.Schema
  ClientGen.Template ClientGen.TypeScript

/-- The type of a scalar. -/
def scalarType (kind : PrimitiveKind) (c : Constraints) : TypeExpr :=
  match kind with
  | .string => if c.format = some "binary" then .blob else .string
  | .number => .number
  | .integer => .number
  | .boolean => .boolean

/-- Add a declaration to the type file unless its name is declared. -/
def declareType (c : Setting) (d : TypeDeclaration) : Emit Unit := do
  let written ← orRenderError (writeDeclaration c.templates d)
  modify fun w => { w with types := w.types.add written }

/-- Declare an enumeration unless its name is declared. -/
def ensureTypeEnum (c : Setting) (name : String) (values : List String)
    (description : Option String) : Emit Unit := do
  if (← get).types.emitted.contains name then return
  declareType c (.enumeration name values description)

/-- A reference to a shared declaration. A file that is not entered through a namespace notes that
it needs the shared ones. -/
def commonType (namespace_ : Option String) (name : String) : Emit TypeExpr := do
  if namespace_.isNone then modify fun w => { w with types.usesCommon := true }
  return .named (some commonNamespace) name

/-- The type of an enumeration inside a schema. -/
def enumType (c : Setting) (namespace_ : Option String) (parent : String)
    (property : Option String) (values : List String) : Emit TypeExpr := do
  let name ← inlineEnumName values (contextOf parent property)
  if c.commonDeclarations.contains name then commonType namespace_ name
  else do
    ensureTypeEnum c name values none
    return .named namespace_ name

/-- How the types of references are found. -/
abbrev ReferenceTypes := String → Notes → Emit TypeExpr

/-- A type at a depth of nesting, with null if that is allowed; one that is too deep is not asked
for. -/
def nestedType (c : Setting) (parent : String) (depth : Int) (nullable : Bool)
    (type : Emit TypeExpr) : Emit TypeExpr :=
  if c.maxDepth < depth then do
    note .debug ("Depth guard tripped in " ++ parent ++ ", using any")
    return .any
  else do
    let type ← type
    return if nullable then type.withNull else type

mutual

/-- The type of a schema at a depth of nesting. -/
def typeAt (c : Setting) (namespace_ : Option String) (references : ReferenceTypes)
    (parent : String) : Option String → Int → SchemaNode → Emit TypeExpr
  | property, depth, node =>
    nestedType c parent depth node.nullable <|
      match node with
      | .primitive kind constraints _ => return scalarType kind constraints
      | .enumeration values _ => enumType c namespace_ parent property values
      | .array items _ _ =>
        TypeExpr.array <$> typeAt c namespace_ references parent none (depth + 1) items
      | .object [] none _ => return .record .any
      | .object [] (some value) _ =>
        TypeExpr.record <$> typeAt c namespace_ references parent none (depth + 1) value
      | .object properties _ _ =>
        TypeExpr.object <$> membersAt c namespace_ references parent (depth + 1) properties
      | .reference pointer notes => references pointer notes
      | .oneOf _ _ => return .any
      | .anyOf _ _ => return .any
      | .allOf _ _ => return .any
      | .unknown _ => return .any

/-- The members of an object type. -/
def membersAt (c : Setting) (namespace_ : Option String) (references : ReferenceTypes)
    (parent : String) : Int → List Property → Emit (List Member)
  | _, [] => return []
  | depth, ⟨name, required, schema⟩ :: rest => do
    let type ← typeAt c namespace_ references parent (some name) depth schema
    return ⟨propertyKey name, !required, type⟩ ::
      (← membersAt c namespace_ references parent depth rest)

end

/-- Declare a schema that is not dealt with yet. -/
def demandType (emit : String → SchemaNode → Emit Unit) (name : String) (target : SchemaNode) :
    Emit Unit := do
  if !(← get).types.processed.contains name then emit name target

/-- The type of a schema that has not failed. One that is not dealt with yet is declared first. -/
def declaredType (c : Setting) (namespace_ : Option String)
    (emit : String → SchemaNode → Emit Unit) (name : String) (target : SchemaNode) :
    Emit TypeExpr :=
  if c.commonSchemas.contains name then do
    commonType namespace_ (← typeName c name)
  else do
    demandType emit name target
    return .named namespace_ (← typeName c name)

/-- The type of a reference. A schema that failed is `any`. -/
def referenceType (c : Setting) (namespace_ : Option String)
    (emit : String → SchemaNode → Emit Unit) : ReferenceTypes := fun pointer notes => do
  let (name, target) ← orSchemaError (c.description.resolve pointer)
  if (← get).types.failed.contains name then return .any
  let type ← declaredType c namespace_ emit name target
  -- An enumeration declares its values only; null is up to each reference.
  return if target.isEnumeration && target.nullable && !notes.nullable then .orNull type else type

/-- A field of an interface. -/
def typeField (c : Setting) (references : ReferenceTypes) (parent name : String)
    (required : Bool) (schema : SchemaNode) : Emit TypeField := do
  let type ← typeAt c none references parent (some name) 1 schema
  return { key := propertyKey name, type, optional := !required, description := schema.description }

/-- Declare an interface whose fields are given as records. -/
def declareRecords (c : Setting) (name : String) (fields : List Document.Value)
    (description : Document.Value) : Emit Unit := do
  let description ← orRenderError (descriptionOf description)
  let fields ← orRenderError (fields.mapM TypeField.ofRecord)
  declareType c (.interface_ name fields description)

/-- Declare a schema, given how references are found. -/
def declareSchemaType (c : Setting) (references : ReferenceTypes) (name : String)
    (node : SchemaNode) : Emit Unit := do
  let identifier ← typeName c name
  match node with
  | .enumeration values _ => ensureTypeEnum c identifier values node.description
  | .object (p :: ps) _ _ =>
    let fields ← (p :: ps).mapM fun p => typeField c references name p.name p.required p.schema
    declareType c (.interface_ identifier fields node.description)
  | _ =>
    let type ← typeAt c none references name none 1 node
    declareType c (.alias identifier type node.description)

/-- Declare a schema and what it needs, unless it has been dealt with. The budget bounds how many
schemas are declared one inside the other. -/
def emitTypeWithin (c : Setting) : Nat → String → SchemaNode → Emit Unit
  | 0, _, _ => return
  | budget + 1, name, node => do
    modify fun w => { w with types.processed := w.types.processed ++ [name] }
    let references := referenceType c none (emitTypeWithin c budget)
    match ← caught (declareSchemaType c references name node) with
    | .ok () => return
    | .error e =>
      modify fun w => { w with types.failed := addNew w.types.failed name }
      throw (.schema e)

/-- How references are found from outside any schema. -/
def outerReferenceType (c : Setting) (namespace_ : Option String) : ReferenceTypes :=
  referenceType c namespace_ (emitTypeWithin c (nestingBound c))

/-- Declare a schema and what it needs, unless it has been dealt with. Without a node the schema is
that of the description. -/
def emitType (c : Setting) (name : String) (node : Option SchemaNode) : Emit Unit := do
  if (← get).types.processed.contains name then return
  emitTypeWithin c (nestingBound c) name (← nodeOf c name node)

/-- The type of a schema as it is written inside the file. -/
def localType (c : Setting) (parent : String) (property : Option String) (depth : Int)
    (node : SchemaNode) : Emit TypeExpr :=
  typeAt c none (outerReferenceType c none) parent property depth node

/-- The type of a schema as another file writes it that imports this one under a namespace. What it
needs is still declared here. -/
def qualifiedType (c : Setting) (namespace_ parent : String) (property : Option String)
    (node : SchemaNode) : Emit TypeExpr :=
  typeAt c (some namespace_) (outerReferenceType c (some namespace_)) parent property 1 node

end ClientGen.Emission
