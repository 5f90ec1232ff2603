import ClientGen.Emission.Operations
import ClientGen.Plan
import Mathlib.Data.Finset.Basic

/-!
# Emitters with fields

Emission hands down what a declaration is made for: the namespace that a type is written for and the
schemas whose validators are being declared. The emitters here keep both in fields instead. A field
is set for a part of the work and put back when the part has ended, be it with a result or with an
error.
-/

namespace ClientGen.Emission

open Api Document Enumeration Naming Output Schema Template TypeScript

/-- The fields of the emitters of a directory: the namespace that types are written for, the
namespaces that they went through since it was set, and the schemas whose validators are being
declared. -/
structure Fields where
  namespace_ : Option String := none
  used : Finset String := ∅
  processing : Finset String := ∅

/-- Emission by emitters with fields. -/
abbrev Tracked := ExceptT EmitError (StateM (Workspace × Fields))

namespace Tracked

/-! ### Fields -/

/-- Work on the files only. -/
def onFiles {α : Type} (x : Emit α) : Tracked α :=
  fun (s : Workspace × Fields) =>
    let (r, w) := x.run.run s.1
    (r, (w, s.2))

/-- The files. -/
def files : Tracked Workspace := return (← get).1

/-- The fields. -/
def fields : Tracked Fields := return (← get).2

/-- Note that a type goes through a namespace. -/
def use (namespace_ : String) : Tracked Unit :=
  modify fun s => (s.1, { s.2 with used := insert namespace_ s.2.used })

/-- Work with fields that are set at the beginning and put back at the end, however the work ends.
What is put back may depend on the fields at the beginning and on those at the end. -/
def within {α : Type} (enter : Fields → Fields) (leave : Fields → Fields → Fields)
    (x : Tracked α) : Tracked α :=
  fun (s : Workspace × Fields) =>
    let (r, (w, f)) := x.run.run (s.1, enter s.2)
    (r, (w, leave s.2 f))

/-- Run a computation and give the error of a schema as a value. -/
def caught {α : Type} (x : Tracked α) : Tracked (Except SchemaError α) :=
  tryCatch (Except.ok <$> x) fun
    | .schema e => return .error e
    | e => throw e

/-! ### Types -/

/-- A reference to a declaration of the file itself. -/
def ownType (name : String) : Tracked TypeExpr := do
  match (← fields).namespace_ with
  | none => return .named none name
  | some n =>
    use n
    return .named (some n) name

/-- A reference to a shared declaration. -/
def commonType (name : String) : Tracked TypeExpr := do
  match (← fields).namespace_ with
  | none => onFiles (modify fun w => { w with types.usesCommon := true })
  | some _ => use commonNamespace
  return .named (some commonNamespace) name

/-- The type of an enumeration inside a schema. -/
def enumType (c : Setting) (parent : String) (property : Option String) (values : List String) :
    Tracked TypeExpr := do
  let name ← onFiles (inlineEnumName values (contextOf parent property))
  if c.commonDeclarations.contains name then commonType name
  else do
    onFiles (ensureTypeEnum c name values none)
    ownType name

/-- How the types of references are found. -/
abbrev ReferenceTypes := String → Notes → Tracked TypeExpr

/-- A type at a depth of nesting. -/
def nestedType (c : Setting) (parent : String) (depth : Int) (nullable : Bool)
    (type : Tracked TypeExpr) : Tracked TypeExpr :=
  if c.maxDepth < depth then do
    onFiles (note .debug ("Depth guard tripped in " ++ parent ++ ", using any"))
    return .any
  else do
    let type ← type
    return if nullable then type.withNull else type

mutual

/-- The type of a schema at a depth of nesting. -/
def typeAt (c : Setting) (references : ReferenceTypes) (parent : String) :
    Option String → Int → SchemaNode → Tracked TypeExpr
  | property, depth, node =>
    nestedType c parent depth node.nullable <|
      match node with
      | .primitive kind constraints _ => return scalarType kind constraints
      | .enumeration values _ => enumType c parent property values
      | .array items _ _ => TypeExpr.array <$> typeAt c references parent none (depth + 1) items
      | .object [] none _ => return .record .any
      | .object [] (some value) _ =>
        TypeExpr.record <$> typeAt c references parent none (depth + 1) value
      | .object properties _ _ =>
        TypeExpr.object <$> membersAt c references parent (depth + 1) properties
      | .reference pointer notes => references pointer notes
      | .oneOf _ _ => return .any
      | .anyOf _ _ => return .any
      | .allOf _ _ => return .any
      | .unknown _ => return .any

/-- The members of an object type. -/
def membersAt (c : Setting) (references : ReferenceTypes) (parent : String) :
    Int → List Property → Tracked (List Member)
  | _, [] => return []
  | depth, ⟨name, required, schema⟩ :: rest => do
    let type ← typeAt c references parent (some name) depth schema
    return ⟨propertyKey name, !required, type⟩ :: (← membersAt c references parent depth rest)

end

/-- Declare a schema that is not dealt with yet. -/
def demandType (emit : String → SchemaNode → Tracked Unit) (name : String) (target : SchemaNode) :
    Tracked Unit := do
  if !(← files).types.processed.contains name then emit name target

/-- The type of a schema that has not failed. -/
def declaredType (c : Setting) (emit : String → SchemaNode → Tracked Unit) (name : String)
    (target : SchemaNode) : Tracked TypeExpr :=
  if c.commonSchemas.contains name then do
    commonType (← onFiles (typeName c name))
  else do
    demandType emit name target
    ownType (← onFiles (typeName c name))

/-- The type of a reference. -/
def referenceType (c : Setting) (emit : String → SchemaNode → Tracked Unit) : ReferenceTypes :=
  fun pointer notes => do
    let (name, target) ← onFiles (orSchemaError (c.description.resolve pointer))
    if (← files).types.failed.contains name then return .any
    let type ← declaredType c emit name target
    return if target.isEnumeration && target.nullable && !notes.nullable then .orNull type else type

/-- A field of an interface. -/
def typeField (c : Setting) (references : ReferenceTypes) (parent name : String) (required : Bool)
    (schema : SchemaNode) : Tracked TypeField := do
  let type ← typeAt c references parent (some name) 1 schema
  return { key := propertyKey name, type, optional := !required, description := schema.description }

/-- Declare a schema. -/
def declareSchemaType (c : Setting) (references : ReferenceTypes) (name : String)
    (node : SchemaNode) : Tracked Unit := do
  let identifier ← onFiles (typeName c name)
  match node with
  | .enumeration values _ => onFiles (ensureTypeEnum c identifier values node.description)
  | .object (p :: ps) _ _ =>
    let fields ← (p :: ps).mapM fun p => typeField c references name p.name p.required p.schema
    onFiles (declareType c (.interface_ identifier fields node.description))
  | _ =>
    let type ← typeAt c references name none 1 node
    onFiles (declareType c (.alias identifier type node.description))

/-- Declare a schema and what it needs. Inside the file no namespace is written. -/
def emitTypeWithin (c : Setting) : Nat → String → SchemaNode → Tracked Unit
  | 0, _, _ => return
  | budget + 1, name, node => do
    onFiles (modify fun w => { w with types.processed := w.types.processed ++ [name] })
    within (fun f => { f with namespace_ := none })
      (fun before f => { f with namespace_ := before.namespace_ }) do
        match ← caught (declareSchemaType c (referenceType c (emitTypeWithin c budget)) name node) with
        | .ok () => return
        | .error e =>
          onFiles (modify fun w => { w with types.failed := addNew w.types.failed name })
          throw (.schema e)

/-- How references are found from outside any schema. -/
def outerReferenceType (c : Setting) : ReferenceTypes :=
  referenceType c (emitTypeWithin c (nestingBound c))

/-- Declare a schema and what it needs, unless it has been dealt with. -/
def emitType (c : Setting) (name : String) (node : Option SchemaNode) : Tracked Unit := do
  if (← files).types.processed.contains name then return
  emitTypeWithin c (nestingBound c) name (← onFiles (nodeOf c name node))

/-- The type of a schema as another file writes it that imports this one under a namespace. -/
def qualifiedType (c : Setting) (namespace_ parent : String) (property : Option String)
    (node : SchemaNode) : Tracked TypeExpr :=
  within (fun f => { f with namespace_ := some namespace_, used := ∅ })
    (fun before f => { f with namespace_ := before.namespace_, used := before.used })
    (typeAt c (outerReferenceType c) parent property 1 node)

/-! ### Validators -/

/-- How the validators of references are found. -/
abbrev ReferenceValidators := String → Notes → Tracked Validator

/-- A validator at a depth of nesting. -/
def nestedValidator (c : Setting) (parent : String) (depth : Int) (nullable : Bool)
    (validator : Tracked Validator) : Tracked Validator :=
  if c.maxDepth < depth then do
    onFiles (note .debug ("Depth guard tripped in " ++ parent ++ ", using z.any()"))
    return .any
  else do
    let validator ← validator
    return if nullable then validator.withNull else validator

mutual

/-- The validator of a schema at a depth of nesting. -/
def validatorAt (c : Setting) (references : ReferenceValidators) (parent : String) :
    Option String → Int → SchemaNode → Tracked Validator
  | property, depth, node =>
    nestedValidator c parent depth node.nullable <|
      match node with
      | .primitive kind constraints _ =>
        onFiles (orDigitsFault (scalarValidator kind constraints).writable)
      | .enumeration values _ => onFiles (enumValidator c parent property values)
      | .array items constraints _ => do
        let item ← validatorAt c references parent none (depth + 1) items
        onFiles (orDigitsFault (Validator.array item (arrayChecks constraints)).writable)
      | .object [] none _ => return .record .any
      | .object [] (some value) _ =>
        Validator.record <$> validatorAt c references parent none (depth + 1) value
      | .object properties _ _ =>
        Validator.object (depth - 1) <$> fieldsAt c references parent (depth + 1) properties
      | .reference pointer notes => references pointer notes
      | .allOf members _ =>
        allOfValidator <$> validatorsAt c references parent property (depth + 1) members
      | .oneOf variants _ =>
        oneOfValidator <$> validatorsAt c references parent property (depth + 1) variants
      | .anyOf variants _ =>
        oneOfValidator <$> validatorsAt c references parent property (depth + 1) variants
      | .unknown _ => return .any

/-- The validators of the members of a composition. -/
def validatorsAt (c : Setting) (references : ReferenceValidators) (parent : String) :
    Option String → Int → List SchemaNode → Tracked (List Validator)
  | _, _, [] => return []
  | property, depth, node :: rest => do
    let validator ← validatorAt c references parent property depth node
    return validator :: (← validatorsAt c references parent property depth rest)

/-- The fields of an object. -/
def fieldsAt (c : Setting) (references : ReferenceValidators) (parent : String) :
    Int → List Property → Tracked (List Field)
  | _, [] => return []
  | depth, ⟨name, required, schema⟩ :: rest => do
    let validator ← validatorAt c references parent (some name) depth schema
    return ⟨propertyKey name, !required, validator⟩ :: (← fieldsAt c references parent depth rest)

end

/-- Declare a schema that is not dealt with yet. -/
def demandValidator (emit : String → SchemaNode → Tracked Unit) (name : String)
    (target : SchemaNode) : Tracked Unit := do
  if !(← files).validators.processed.contains name then emit name target

/-- The validator of a schema that has not failed. One that is being declared is looked up only when
it is used. -/
def declaredValidator (c : Setting) (emit : String → SchemaNode → Tracked Unit)
    (finish : Validator → Validator) (name : String) (target : SchemaNode) : Tracked Validator := do
  if c.commonSchemas.contains name then
    onFiles noteCommonValidators
    return finish (.named (some commonNamespace) (← onFiles (constName c name)))
  else if name ∈ (← fields).processing then
    onFiles (modify fun w => { w with deferredTargets := addNew w.deferredTargets name })
    return .deferred (← onFiles (constName c name))
  else
    demandValidator emit name target
    return finish (.named none (← onFiles (constName c name)))

/-- The validator of a reference. -/
def referenceValidator (c : Setting) (emit : String → SchemaNode → Tracked Unit) :
    ReferenceValidators := fun pointer notes => do
  let (name, target) ← onFiles (orSchemaError (c.description.resolve pointer))
  if (← files).validators.failed.contains name then return .any
  let finish (v : Validator) : Validator :=
    if target.isEnumeration && target.nullable && !notes.nullable then .orNull v else v
  declaredValidator c emit finish name target

/-- Declare the validator of a schema. -/
def declareSchemaValidator (c : Setting) (references : ReferenceValidators) (name : String)
    (node : SchemaNode) : Tracked Unit := do
  match node with
  | .enumeration values _ => onFiles do ensureValidatorEnum c (← typeName c name) values
  | _ =>
    let validator ← validatorAt c references name none 1 node
    let const ← onFiles (constName c name)
    let annotated := (← files).deferredTargets.contains name
    onFiles (declareValidator c (.schema const validator annotated node.description))

/-- Declare the validator of a schema and what it needs. It is being declared until this ends. -/
def emitValidatorWithin (c : Setting) : Nat → String → SchemaNode → Tracked Unit
  | 0, _, _ => return
  | budget + 1, name, node => do
    onFiles (modify fun w => { w with validators.processed := w.validators.processed ++ [name] })
    within (fun f => { f with processing := insert name f.processing })
      (fun _ f => { f with processing := f.processing.erase name }) do
        match ← caught (declareSchemaValidator c (referenceValidator c (emitValidatorWithin c budget))
          name node) with
        | .ok () => return
        | .error e =>
          onFiles (modify fun w => { w with validators.failed := addNew w.validators.failed name })
          throw (.schema e)

/-- How references are found from outside any schema. -/
def outerReferenceValidator (c : Setting) : ReferenceValidators :=
  referenceValidator c (emitValidatorWithin c (nestingBound c))

/-- Declare the validator of a schema and what it needs, unless it has been dealt with. -/
def emitValidator (c : Setting) (name : String) (node : Option SchemaNode) : Tracked Unit := do
  if (← files).validators.processed.contains name then return
  emitValidatorWithin c (nestingBound c) name (← onFiles (nodeOf c name node))

/-- The validator of a schema as it is written inside the file. -/
def localValidator (c : Setting) (parent : String) (property : Option String) (node : SchemaNode) :
    Tracked Validator :=
  validatorAt c (outerReferenceValidator c) parent property 1 node

/-! ### Operations -/

/-- Declare the validators of what a type needs. -/
def declareNeeds (c : Setting) (op : Operation) (parent : String) (property : Option String)
    (node : SchemaNode) : Tracked Unit := do
  let usesCommon := (← files).validators.usesCommon
  let validator ← caught (localValidator c parent property node)
  onFiles (modify fun w => { w with validators.usesCommon := usesCommon })
  match validator with
  | .ok _ => return
  | .error e =>
    onFiles (note .warning (operationLabel op ++ ": validator for " ++ parent ++ ": " ++ e.message))

/-- The type of a body, a response or a path parameter. -/
def operationType (c : Setting) (t : Target) (op : Operation) (parent : String)
    (property : Option String) (node : SchemaNode) : Tracked TypeExpr := do
  match ← caught (qualifiedType c t.namespace_ parent property node) with
  | .error e =>
    onFiles (note .warning (operationLabel op ++ ": " ++ e.message ++ ", using any"))
    return .any
  | .ok type =>
    declareNeeds c op parent property node
    return type

/-- The arguments for the placeholders of the path. -/
def pathArguments (c : Setting) (t : Target) (op : Operation) (pascal : String) :
    Tracked (List Argument) :=
  (distinct (placeholders op.path)).mapM fun name => do
    let type ← operationType c t op pascal (some name) (placeholderSchema op name)
    return { name := pathArgumentName name, type }

/-- The field of a query parameter in the type of the query. -/
def queryTypeField (c : Setting) (op : Operation) (pascal : String) (p : Parameter) :
    Tracked TypeField := do
  match ← caught (typeField c (outerReferenceType c) pascal p.name p.required p.schema) with
  | .ok field => return describedBy p field
  | .error e =>
    onFiles (note .warning
      (operationLabel op ++ ": query parameter '" ++ p.name ++ "': " ++ e.message))
    return { key := propertyKey p.name, type := .any, optional := !p.required,
             description := p.description }

/-- The field of a query parameter in the validator of the query. -/
def queryValidatorField (c : Setting) (pascal : String) (p : Parameter) : Tracked Field := do
  match ← caught (localValidator c pascal (some p.name) p.schema) with
  | .ok v => return ⟨propertyKey p.name, !p.required, v⟩
  | .error _ => return ⟨propertyKey p.name, !p.required, .any⟩

/-- Both fields of a query parameter. -/
def queryField (c : Setting) (op : Operation) (pascal : String) (p : Parameter) :
    Tracked (TypeField × Field) := do
  let field ← queryTypeField c op pascal p
  return (field, ← queryValidatorField c pascal p)

/-- The argument for the query. -/
def queryArgument (c : Setting) (t : Target) (op : Operation) (pascal : String) :
    Tracked Argument := do
  let fields ← op.queryParameters.mapM (queryField c op pascal)
  let name := pascal ++ "QueryParams"
  onFiles (declareType c (.interface_ name (fields.map Prod.fst) none))
  onFiles (declareObjectValidator c (validatorName name) (fields.map Prod.snd))
  return {
    name := "query"
    type := .named (some t.namespace_) name
    required := op.queryParameters.any (·.required)
    place := .query }

/-- The argument for the body, if the operation has one. -/
def bodyArgument? (c : Setting) (t : Target) (op : Operation) (pascal : String) :
    Tracked (Option Argument) :=
  match if op.method.hasBody then op.requestBody else none with
  | none => return none
  | some node => do
    let type ← operationType c t op (pascal ++ "Request") none node
    return some { name := "body", type, place := .body }

/-- The argument for the query, if the operation asks with one. -/
def queryArgument? (c : Setting) (t : Target) (op : Operation) (pascal : String) :
    Tracked (Option Argument) :=
  if op.method.isQuery && !op.queryParameters.isEmpty then some <$> queryArgument c t op pascal
  else return none

/-- The type of the response. -/
def operationResponse (c : Setting) (t : Target) (op : Operation) (pascal : String) :
    Tracked TypeExpr :=
  match Operation.preferredResponse op.responses with
  | none => return .any
  | some node => operationType c t op (pascal ++ "Response") none node

/-- The parts of an operation under a function name. -/
def operationParts (c : Setting) (t : Target) (functionName : String) (op : Operation) :
    Tracked OperationParts := do
  let pascal := pascalCase functionName
  let path ← pathArguments c t op pascal
  let body ← bodyArgument? c t op pascal
  let query ← queryArgument? c t op pascal
  let responseType ← operationResponse c t op pascal
  return { functionName, operation := op, path, body, query, responseType }

/-- Emit an operation under a function name. -/
def emitOperation (c : Setting) (t : Target) (functionName : String) (op : Operation) :
    Tracked ClientOperation := do
  let parts ← operationParts c t functionName op
  onFiles (orRenderError (parts.write c t))

/-! ### Directories -/

/-- Declare one schema in both files of a directory. -/
def emitSchema (c : Setting) (name : String) : Tracked (Option String) := do
  let type ← caught (emitType c name none)
  let validator ← caught (emitValidator c name none)
  let failure := match type, validator with
    | .error e, _ => some e
    | .ok (), .error e => some e
    | .ok (), .ok () => none
  match failure with
  | none => return none
  | some e =>
    onFiles (note .warning ("Skipping schema " ++ name ++ ": " ++ e.message))
    return some (name ++ ": " ++ e.message)

/-- Declare some schemas in dependency order. -/
def emitSchemas (c : Setting) (names : List String) : Tracked (List String) := do
  onFiles (modify fun w => { w with log := w.log ++ Graph.orderMessages c.description names })
  let failures ← (Graph.dependencyOrder c.description names).mapM (emitSchema c)
  return failures.filterMap id

/-- Emit the operations of a module in order. -/
def emitOperations (c : Setting) (t : Target) : List (String × Nat) → List Operation →
    Tracked (List ClientOperation × List String)
  | _, [] => return ([], [])
  | asked, op :: rest => do
    let (name, asked) := uniqueName (functionName op.method op.path op.operationId) asked
    let emitted ← caught (emitOperation c t name op)
    let (ops, failures) ← match emitted with
      | .ok op => pure ([op], [])
      | .error e => do
        onFiles (note .warning ("Skipping " ++ operationLabel op ++ ": " ++ e.message))
        pure ([], [operationLabel op ++ ": " ++ e.message])
    let (moreOps, moreFailures) ← emitOperations c t asked rest
    return (ops ++ moreOps, failures ++ moreFailures)

end Tracked

end ClientGen.Emission
