import ClientGen.Emission.Workspace

/-!
# Emitting validators

Schemas as validator declarations. The file is evaluated from top to bottom, so a schema comes after
those it needs; where it needs one that is still being declared, the validator is looked up only
when it is used, and the other declaration gets an explicit type.
-/

namespace ClientGen.Emission

open ClientGen.Api ClientGen.Enumeration ClientGen.Naming ClientGen.Output ClientGen.Schema
  ClientGen.Template ClientGen.TypeScript

/-- Add a declaration to the validator file unless its name is declared. -/
def declareValidator (c : Setting) (d : ValidatorDeclaration) : Emit Unit := do
  let written ← orRenderError (writeDeclaration c.templates d)
  modify fun w => { w with validators := w.validators.add written }

/-- Declare the validator of an enumeration unless its name is declared. -/
def ensureValidatorEnum (c : Setting) (identifier : String) (values : List String) :
    Emit Unit := do
  if (← get).validators.emitted.contains (validatorName identifier) then return
  declareValidator c (.enumeration (validatorName identifier) values)

/-- Note that the validator file refers to the shared schemas. -/
def noteCommonValidators : Emit Unit :=
  modify fun w => { w with validators.usesCommon := true }

/-- The validator of an enumeration inside a schema. -/
def enumValidator (c : Setting) (parent : String) (property : Option String)
    (values : List String) : Emit Validator := do
  let name ← inlineEnumName values (contextOf parent property)
  if c.commonDeclarations.contains name then do
    noteCommonValidators
    return .named (some commonNamespace) (validatorName name)
  else do
    ensureValidatorEnum c name values
    return .named none (validatorName name)

/-- Go on unless an integer has too many digits. -/
def orDigitsFault {α : Type} (r : Except Number.DigitsFault α) : Emit α :=
  liftM (r.mapError EmitError.digits)

/-- How the validators of references are found. -/
abbrev ReferenceValidators := String → Notes → Emit Validator

/-- A validator at a depth of nesting, which accepts null if that is allowed; one that is too deep
is not asked for. -/
def nestedValidator (c : Setting) (parent : String) (depth : Int) (nullable : Bool)
    (validator : Emit Validator) : Emit Validator :=
  if c.maxDepth < depth then do
    note .debug ("Depth guard tripped in " ++ parent ++ ", using z.any()")
    return .any
  else do
    let validator ← validator
    return if nullable then validator.withNull else validator

/-- The validator that holds all of some members to hold. -/
def allOfValidator : List Validator → Validator
  | [] => .any
  | [member] => member
  | first :: others => .both first others

/-- The validator of which one of some variants has to hold. -/
def oneOfValidator : List Validator → Validator
  | [variant] => variant
  | variants => .union variants

mutual

/-- The validator of a schema at a depth of nesting. -/
def validatorAt (c : Setting) (references : ReferenceValidators) (parent : String) :
    Option String → Int → SchemaNode → Emit Validator
  | property, depth, node =>
    nestedValidator c parent depth node.nullable <|
      match node with
      | .primitive kind constraints _ => orDigitsFault (scalarValidator kind constraints).writable
      | .enumeration values _ => enumValidator c parent property values
      | .array items constraints _ => do
        let item ← validatorAt c references parent none (depth + 1) items
        orDigitsFault (Validator.array item (arrayChecks constraints)).writable
      | .object [] none _ => return .record .any
      | .object [] (some value) _ =>
        Validator.record <$> validatorAt c references parent none (depth + 1) value
      | .object properties _ _ =>
        -- Depth counts from one, indentation from the margin.
        Validator.object (depth - 1) <$> fieldsAt c references parent (depth + 1) properties
      | .reference pointer notes => references pointer notes
      -- A member stands for the property itself, so an enumeration in it is named after both.
      | .allOf members _ =>
        allOfValidator <$> validatorsAt c references parent property (depth + 1) members
      | .oneOf variants _ =>
        oneOfValidator <$> validatorsAt c references parent property (depth + 1) variants
      | .anyOf variants _ =>
        oneOfValidator <$> validatorsAt c references parent property (depth + 1) variants
      | .unknown _ => return .any

/-- The validators of the members of a composition. -/
def validatorsAt (c : Setting) (references : ReferenceValidators) (parent : String) :
    Option String → Int → List SchemaNode → Emit (List Validator)
  | _, _, [] => return []
  | property, depth, node :: rest => do
    let validator ← validatorAt c references parent property depth node
    return validator :: (← validatorsAt c references parent property depth rest)

/-- The fields of an object. -/
def fieldsAt (c : Setting) (references : ReferenceValidators) (parent : String) :
    Int → List Property → Emit (List Field)
  | _, [] => return []
  | depth, ⟨name, required, schema⟩ :: rest => do
    let validator ← validatorAt c references parent (some name) depth schema
    return ⟨propertyKey name, !required, validator⟩ ::
      (← fieldsAt c references parent depth rest)

end

/-- Declare a schema that is not dealt with yet. -/
def demandValidator (emit : String → SchemaNode → Emit Unit) (name : String)
    (target : SchemaNode) : Emit Unit := do
  if !(← get).validators.processed.contains name then emit name target

/-- The validator of a schema that has not failed. `path` are the schemas that are being declared;
one that is not dealt with yet is declared first. `finish` is for those that are not looked up only
when they are used. -/
def declaredValidator (c : Setting) (path : List String)
    (emit : String → SchemaNode → Emit Unit) (finish : Validator → Validator) (name : String)
    (target : SchemaNode) : Emit Validator :=
  if c.commonSchemas.contains name then do
    noteCommonValidators
    return finish (.named (some commonNamespace) (← constName c name))
  else if path.contains name then do
    modify fun w => { w with deferredTargets := addNew w.deferredTargets name }
    return .deferred (← constName c name)
  else do
    demandValidator emit name target
    return finish (.named none (← constName c name))

/-- The validator of a reference. A schema that failed accepts everything. -/
def referenceValidator (c : Setting) (path : List String)
    (emit : String → SchemaNode → Emit Unit) : ReferenceValidators := fun pointer notes => do
  let (name, target) ← orSchemaError (c.description.resolve pointer)
  if (← get).validators.failed.contains name then return .any
  -- An enumeration declares its values only; null is up to each reference.
  let finish (v : Validator) : Validator :=
    if target.isEnumeration && target.nullable && !notes.nullable then .orNull v else v
  declaredValidator c path emit finish name target

/-- Declare the validator of a schema, given how references are found. -/
def declareSchemaValidator (c : Setting) (references : ReferenceValidators) (name : String)
    (node : SchemaNode) : Emit Unit := do
  match node with
  | .enumeration values _ => ensureValidatorEnum c (← typeName c name) values
  | _ =>
    let validator ← validatorAt c references name none 1 node
    let const ← constName c name
    let annotated := (← get).deferredTargets.contains name
    declareValidator c (.schema const validator annotated node.description)

/-- Declare the validator of a schema and what it needs. `path` are the schemas that are being
declared, and the budget bounds how many are declared one inside the other. -/
def emitValidatorWithin (c : Setting) : Nat → List String → String → SchemaNode → Emit Unit
  | 0, _, _, _ => return
  | budget + 1, path, name, node => do
    modify fun w => { w with validators.processed := w.validators.processed ++ [name] }
    let path := name :: path
    let references := referenceValidator c path (emitValidatorWithin c budget path)
    match ← caught (declareSchemaValidator c references name node) with
    | .ok () => return
    | .error e =>
      modify fun w => { w with validators.failed := addNew w.validators.failed name }
      throw (.schema e)

/-- How references are found from outside any schema. -/
def outerReferenceValidator (c : Setting) : ReferenceValidators :=
  referenceValidator c [] (emitValidatorWithin c (nestingBound c) [])

/-- Declare the validator of a schema and what it needs, unless it has been dealt with. Without a
node the schema is that of the description. -/
def emitValidator (c : Setting) (name : String) (node : Option SchemaNode) : Emit Unit := do
  if (← get).validators.processed.contains name then return
  emitValidatorWithin c (nestingBound c) [] name (← nodeOf c name node)

/-- The validator of a schema as it is written inside the file. -/
def localValidator (c : Setting) (parent : String) (property : Option String) (depth : Int)
    (node : SchemaNode) : Emit Validator :=
  validatorAt c (outerReferenceValidator c) parent property depth node

/-- The fields of an object as a declared validator. -/
def declareObjectValidator (c : Setting) (name : String) (fields : List Field) : Emit Unit :=
  declareValidator c (.schema name (.object 0 fields) false none)

/-- Declare a validator of an object whose fields are given as records. -/
def declareRecordValidator (c : Setting) (name : String) (fields : List Document.Value) :
    Emit Unit := do
  declareObjectValidator c name
    (← liftM ((fields.mapM Field.ofRecord).mapError EmitError.noKey))

end ClientGen.Emission
