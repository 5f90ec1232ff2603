import ClientGen.Proofs.Emission.Overlap
import ClientGen.Proofs.Schema.Positions
import Mathlib.Data.Finset.Dedup
import Mathlib.Data.Finset.Order

/-!
# Emission ends

Schemas may refer to each other in circles, and emission follows each reference before it goes on.
It ends all the same, without the guard for depth and without a budget: behind each schema that is
begun there is one less that has not been, and what is nested inside a schema is smaller than the
schema. In the whole life of an emitter no schema is begun twice, be it declared or given up.
-/

namespace ClientGen.Emission

open Api Enumeration Graph Output Schema TypeScript

/-!
## Emission out of the guard's reach

A depth that is looked into matters only as long as something is nested deeper. From the depth of
the description and of what is given on, emission comes to the same however much deeper it may look.
-/

section Reach

/-- The setting with another depth that is looked into. -/
abbrev Setting.lookingInto (c : Setting) (d : Int) : Setting :=
  { c with maxDepth := d }

/-- Every schema of the description can be declared without getting to the guard. -/
def Setting.LooksThrough (c : Setting) : Prop :=
  ∀ s n, c.description.schema? s = some n → 1 + (n.nesting : Int) ≤ c.maxDepth

variable {c : Setting} {d : Int} {namespace_ : Option String} {parent : String}

/-- A schema is nested less deep than the object whose property it is. -/
lemma nesting_lt_of_property {p q : Property} {ps : List Property} {additional : Option SchemaNode}
    {notes : Notes} (hp : p ∈ q :: ps) :
    p.schema.nesting < (SchemaNode.object (q :: ps) additional notes).nesting := by
  rw [SchemaNode.nesting_object, Nat.lt_succ_iff]
  exact (Property.exists_le_nesting (by simp)).2 ⟨p, hp, Nat.le_refl _⟩

/-- What follows on a schema matters only if there is one. -/
lemma orSchemaError_bind_congr {α β : Type} {r : Except SchemaError α} {f g : α → Emit β}
    (h : ∀ a, r = .ok a → f a = g a) : (orSchemaError r >>= f) = orSchemaError r >>= g := by
  cases r with
  | error e => rfl
  | ok a => exact h a rfl

/-! ### Types -/

section Types

lemma nestedType_lookingInto (further : c.maxDepth ≤ d) {depth : Int} {nullable : Bool}
    {type : Emit TypeExpr} (shallow : depth ≤ c.maxDepth) :
    nestedType c parent depth nullable type =
      nestedType (c.lookingInto d) parent depth nullable type := by
  rw [nestedType, nestedType, if_neg (by omega), if_neg (by dsimp only; omega)]

variable {references : ReferenceTypes}

mutual

lemma typeAt_lookingInto (further : c.maxDepth ≤ d) :
    ∀ (property : Option String) (depth : Int) (s : SchemaNode), depth + s.nesting ≤ c.maxDepth →
      typeAt c namespace_ references parent property depth s =
        typeAt (c.lookingInto d) namespace_ references parent property depth s
  | property, depth, .array items _ _, fits => by
    rw [SchemaNode.nesting] at fits
    rw [typeAt, typeAt, typeAt_lookingInto further none (depth + 1) items (by omega),
      nestedType_lookingInto further (by omega)]
  | property, depth, .object [] (some value) _, fits => by
    rw [SchemaNode.nesting] at fits
    rw [typeAt, typeAt, typeAt_lookingInto further none (depth + 1) value (by omega),
      nestedType_lookingInto further (by omega)]
  | property, depth, .object (p :: ps) _ _, fits => by
    rw [SchemaNode.nesting_object] at fits
    rw [typeAt, typeAt, membersAt_lookingInto further (depth + 1) (p :: ps) (by omega),
      nestedType_lookingInto further (by omega)]
    all_goals simp
  | property, depth, .enumeration _ _, fits => by
    rw [typeAt, typeAt, nestedType_lookingInto further (by omega)]
    rfl
  | property, depth, .primitive _ _ _, fits | property, depth, .object [] none _, fits
  | property, depth, .reference _ _, fits | property, depth, .oneOf _ _, fits
  | property, depth, .anyOf _ _, fits | property, depth, .allOf _ _, fits
  | property, depth, .unknown _, fits => by
    rw [typeAt, typeAt, nestedType_lookingInto further (by omega)]

lemma membersAt_lookingInto (further : c.maxDepth ≤ d) :
    ∀ (depth : Int) (ps : List Property), depth + Property.nesting ps ≤ c.maxDepth →
      membersAt c namespace_ references parent depth ps =
        membersAt (c.lookingInto d) namespace_ references parent depth ps
  | depth, [], _ => by rw [membersAt, membersAt]
  | depth, ⟨name, required, s⟩ :: rest, fits => by
    rw [Property.nesting] at fits
    rw [membersAt, membersAt, typeAt_lookingInto further (some name) depth s (by omega),
      membersAt_lookingInto further depth rest (by omega)]

end

lemma typeField_lookingInto (further : c.maxDepth ≤ d) {name : String} {required : Bool}
    {s : SchemaNode} (fits : 1 + (s.nesting : Int) ≤ c.maxDepth) :
    typeField c references parent name required s =
      typeField (c.lookingInto d) references parent name required s := by
  rw [typeField, typeField, typeAt_lookingInto further (some name) 1 s fits]

lemma declareSchemaType_lookingInto (further : c.maxDepth ≤ d) {name : String} {node : SchemaNode}
    (fits : 1 + (node.nesting : Int) ≤ c.maxDepth) :
    declareSchemaType c references name node =
      declareSchemaType (c.lookingInto d) references name node := by
  unfold declareSchemaType
  congr 1
  funext identifier
  split
  · rfl
  · next p ps additional notes =>
    have fields : ((p :: ps).mapM fun p => typeField c references name p.name p.required p.schema) =
        (p :: ps).mapM fun p =>
          typeField (c.lookingInto d) references name p.name p.required p.schema := by
      refine Same.mapM_congr fun q hq => typeField_lookingInto further ?_
      have less : q.schema.nesting < (SchemaNode.object (p :: ps) additional notes).nesting :=
        nesting_lt_of_property hq
      omega
    rw [fields]
    rfl
  · rw [typeAt_lookingInto further none 1 node fits]
    rfl

lemma referenceType_lookingInto {emit emit' : String → SchemaNode → Emit Unit}
    (emits : ∀ s n, c.description.schema? s = some n → emit s n = emit' s n) :
    referenceType c namespace_ emit = referenceType (c.lookingInto d) namespace_ emit' := by
  funext pointer notes
  refine orSchemaError_bind_congr ?_
  rintro ⟨s, target⟩ found
  dsimp only
  rw [declaredType, demandType, emits s target (resolve_eq_ok found)]
  rfl

lemma unrollTypes_lookingInto (further : c.maxDepth ≤ d) (through : c.LooksThrough)
    {deeper : String → SchemaNode → Emit Unit} :
    ∀ (levels : Nat) (name : String) (node : SchemaNode), 1 + (node.nesting : Int) ≤ c.maxDepth →
      unrollTypes c deeper levels name node =
        unrollTypes (c.lookingInto d) deeper levels name node
  | 0, _, _, _ => rfl
  | levels + 1, name, node, fits => by
    rw [unrollTypes, unrollTypes, enterType, enterType, declareSchemaType_lookingInto further fits,
      referenceType_lookingInto fun s n found =>
        unrollTypes_lookingInto further through levels s n (through s n found)]

end Types

/-! ### Validators -/

section Validators

lemma nestedValidator_lookingInto (further : c.maxDepth ≤ d) {depth : Int} {nullable : Bool}
    {validator : Emit Validator} (shallow : depth ≤ c.maxDepth) :
    nestedValidator c parent depth nullable validator =
      nestedValidator (c.lookingInto d) parent depth nullable validator := by
  rw [nestedValidator, nestedValidator, if_neg (by omega), if_neg (by dsimp only; omega)]

variable {references : ReferenceValidators}

mutual

lemma validatorAt_lookingInto (further : c.maxDepth ≤ d) :
    ∀ (property : Option String) (depth : Int) (s : SchemaNode), depth + s.nesting ≤ c.maxDepth →
      validatorAt c references parent property depth s =
        validatorAt (c.lookingInto d) references parent property depth s
  | property, depth, .array items _ _, fits => by
    rw [SchemaNode.nesting] at fits
    rw [validatorAt, validatorAt, validatorAt_lookingInto further none (depth + 1) items (by omega),
      nestedValidator_lookingInto further (by omega)]
  | property, depth, .object [] (some value) _, fits => by
    rw [SchemaNode.nesting] at fits
    rw [validatorAt, validatorAt, validatorAt_lookingInto further none (depth + 1) value (by omega),
      nestedValidator_lookingInto further (by omega)]
  | property, depth, .object (p :: ps) _ _, fits => by
    rw [SchemaNode.nesting_object] at fits
    rw [validatorAt, validatorAt, fieldsAt_lookingInto further (depth + 1) (p :: ps) (by omega),
      nestedValidator_lookingInto further (by omega)]
    all_goals simp
  | property, depth, .oneOf nodes _, fits | property, depth, .anyOf nodes _, fits
  | property, depth, .allOf nodes _, fits => by
    rw [SchemaNode.nesting] at fits
    rw [validatorAt, validatorAt,
      validatorsAt_lookingInto further property (depth + 1) nodes (by omega),
      nestedValidator_lookingInto further (by omega)]
  | property, depth, .enumeration _ _, fits => by
    rw [validatorAt, validatorAt, nestedValidator_lookingInto further (by omega)]
    rfl
  | property, depth, .primitive _ _ _, fits | property, depth, .object [] none _, fits
  | property, depth, .reference _ _, fits | property, depth, .unknown _, fits => by
    rw [validatorAt, validatorAt, nestedValidator_lookingInto further (by omega)]

lemma validatorsAt_lookingInto (further : c.maxDepth ≤ d) :
    ∀ (property : Option String) (depth : Int) (ss : List SchemaNode),
      depth + SchemaNode.nestingAll ss ≤ c.maxDepth →
      validatorsAt c references parent property depth ss =
        validatorsAt (c.lookingInto d) references parent property depth ss
  | _, _, [], _ => by rw [validatorsAt, validatorsAt]
  | property, depth, s :: rest, fits => by
    rw [SchemaNode.nestingAll] at fits
    rw [validatorsAt, validatorsAt, validatorAt_lookingInto further property depth s (by omega),
      validatorsAt_lookingInto further property depth rest (by omega)]

lemma fieldsAt_lookingInto (further : c.maxDepth ≤ d) :
    ∀ (depth : Int) (ps : List Property), depth + Property.nesting ps ≤ c.maxDepth →
      fieldsAt c references parent depth ps = fieldsAt (c.lookingInto d) references parent depth ps
  | _, [], _ => by rw [fieldsAt, fieldsAt]
  | depth, ⟨name, required, s⟩ :: rest, fits => by
    rw [Property.nesting] at fits
    rw [fieldsAt, fieldsAt, validatorAt_lookingInto further (some name) depth s (by omega),
      fieldsAt_lookingInto further depth rest (by omega)]

end

lemma declareSchemaValidator_lookingInto (further : c.maxDepth ≤ d) {name : String}
    {node : SchemaNode} (fits : 1 + (node.nesting : Int) ≤ c.maxDepth) :
    declareSchemaValidator c references name node =
      declareSchemaValidator (c.lookingInto d) references name node := by
  unfold declareSchemaValidator
  split
  · rfl
  · rw [validatorAt_lookingInto further none 1 node fits]
    rfl

lemma referenceValidator_lookingInto {path : List String}
    {emit emit' : String → SchemaNode → Emit Unit}
    (emits : ∀ s n, c.description.schema? s = some n → emit s n = emit' s n) :
    referenceValidator c path emit = referenceValidator (c.lookingInto d) path emit' := by
  funext pointer notes
  refine orSchemaError_bind_congr ?_
  rintro ⟨s, target⟩ found
  dsimp only
  rw [declaredValidator, demandValidator, emits s target (resolve_eq_ok found)]
  rfl

lemma unrollValidators_lookingInto (further : c.maxDepth ≤ d) (through : c.LooksThrough)
    {deeper : List String → String → SchemaNode → Emit Unit} :
    ∀ (levels : Nat) (path : List String) (name : String) (node : SchemaNode),
      1 + (node.nesting : Int) ≤ c.maxDepth →
      unrollValidators c deeper levels path name node =
        unrollValidators (c.lookingInto d) deeper levels path name node
  | 0, _, _, _, _ => rfl
  | levels + 1, path, name, node, fits => by
    rw [unrollValidators, unrollValidators, enterValidator, enterValidator,
      declareSchemaValidator_lookingInto further fits,
      referenceValidator_lookingInto fun s n found =>
        unrollValidators_lookingInto further through levels _ s n (through s n found)]

end Validators

end Reach

/-!
## Lives of emitters

Calls on the emitters of a directory, one after another, and what they come to.
-/

/-! ### Calls -/

/-- How the schemas are declared that something needs. For validators the schemas that are being
declared are given as well. -/
structure Emitters where
  types : String → SchemaNode → Emit Unit
  validators : List String → String → SchemaNode → Emit Unit

/-- So many levels of schemas, and `deeper` for those that lie deeper. -/
def Emitters.unroll (c : Setting) (deeper : Emitters) (levels : Nat) : Emitters where
  types := unrollTypes c deeper.types levels
  validators := unrollValidators c deeper.validators levels

/-- A call on the emitters of a directory: to declare a schema, perhaps from a given node; for an
expression, at a depth of nesting or for a file that imports this one; or to declare something
else. -/
inductive Call
  | emitType (schema : String) (node : Option SchemaNode)
  | type (parent : String) (property : Option String) (depth : Int) (node : SchemaNode)
  | qualifiedType (namespace_ parent : String) (property : Option String) (node : SchemaNode)
  | typeField (parent name : String) (required : Bool) (node : SchemaNode)
  | records (name : String) (fields : List Document.Value) (description : Document.Value)
  | typeEnum (name : String) (values : List String) (description : Option String)
  | typeName (schema : String)
  | emitValidator (schema : String) (node : Option SchemaNode)
  | validator (parent : String) (property : Option String) (depth : Int) (node : SchemaNode)
  | recordValidator (name : String) (fields : List Document.Value)
  | validatorEnum (identifier : String) (values : List String)
  | constName (schema : String)

/-- Declare a schema from a node that may be given, unless it is dealt with. -/
def demandTypeFrom (c : Setting) (emit : String → SchemaNode → Emit Unit) (name : String)
    (node : Option SchemaNode) : Emit Unit := do
  if (← get).types.processed.contains name then return
  emit name (← nodeOf c name node)

/-- Declare the validator of a schema from a node that may be given, unless it is dealt with. -/
def demandValidatorFrom (c : Setting) (emit : String → SchemaNode → Emit Unit) (name : String)
    (node : Option SchemaNode) : Emit Unit := do
  if (← get).validators.processed.contains name then return
  emit name (← nodeOf c name node)

/-- What a call gives. -/
inductive Answer
  | done
  | name (x : String)
  | type (type : TypeExpr)
  | field (field : TypeField)
  | validator (validator : Validator)

namespace Call

/-- What is done for a call. -/
def answer (c : Setting) : Call → Emit Answer
  | emitType s node => (fun _ => .done) <$> Emission.emitType c s node
  | type parent property depth node => .type <$> localType c parent property depth node
  | qualifiedType n parent property node =>
    .type <$> Emission.qualifiedType c n parent property node
  | typeField parent name required node =>
    .field <$> Emission.typeField c (outerReferenceType c none) parent name required node
  | records name fields description =>
    (fun _ => .done) <$> declareRecords c name fields description
  | typeEnum name values description =>
    (fun _ => .done) <$> ensureTypeEnum c name values description
  | typeName s => .name <$> Emission.typeName c s
  | emitValidator s node => (fun _ => .done) <$> Emission.emitValidator c s node
  | validator parent property depth node =>
    .validator <$> localValidator c parent property depth node
  | recordValidator name fields => (fun _ => .done) <$> declareRecordValidator c name fields
  | validatorEnum identifier values => (fun _ => .done) <$> ensureValidatorEnum c identifier values
  | constName s => .name <$> Emission.constName c s

/-- What is done for a call, given how the schemas are declared that it needs. -/
def answerBy (c : Setting) (e : Emitters) : Call → Emit Answer
  | emitType s node => (fun _ => .done) <$> demandTypeFrom c e.types s node
  | type parent property depth node =>
    .type <$> typeAt c none (referenceType c none e.types) parent property depth node
  | qualifiedType n parent property node =>
    .type <$> typeAt c (some n) (referenceType c (some n) e.types) parent property 1 node
  | typeField parent name required node =>
    .field <$> Emission.typeField c (referenceType c none e.types) parent name required node
  | emitValidator s node => (fun _ => .done) <$> demandValidatorFrom c (e.validators []) s node
  | validator parent property depth node =>
    .validator <$>
      validatorAt c (referenceValidator c [] (e.validators [])) parent property depth node
  | call => call.answer c

end Call

/-! ### Enough levels -/

section Levels

variable {c : Setting} {w : Workspace} {deeper : Emitters} {levels : Nat}

/-- More levels leave no less room. -/
lemma Setting.Room.mono {processed : List String} {levels' : Nat} (h : c.Room processed levels)
    (le : levels ≤ levels') : c.Room processed levels' :=
  Nat.lt_of_lt_of_le h le

lemma same_enterTypes (enough : nestingBound c ≤ levels) {name : String} {node : SchemaNode}
    (new : name ∉ w.types.processed) :
    Same w (emitTypeWithin c (nestingBound c) name node)
      ((deeper.unroll c levels).types name node) := by
  rw [emitTypeWithin_eq]
  exact same_unrollTypes (.refl c.description) _ _ _ _ _ trivial (fun _ _ _ _ => trivial) new
    room_nestingBound (room_nestingBound.mono enough)

lemma same_enterValidators (enough : nestingBound c ≤ levels) {path : List String} {name : String}
    {node : SchemaNode} (new : name ∉ w.validators.processed) :
    Same w (emitValidatorWithin c (nestingBound c) path name node)
      ((deeper.unroll c levels).validators path name node) := by
  rw [emitValidatorWithin_eq]
  exact same_unrollValidators (.refl c.description) _ _ _ _ _ _ trivial (fun _ _ _ _ => trivial)
    new room_nestingBound (room_nestingBound.mono enough)

lemma same_references (enough : nestingBound c ≤ levels) {namespace_ : Option String}
    {pointer : String} {notes : Notes} :
    Same w (outerReferenceType c namespace_ pointer notes)
      (referenceType c namespace_ (deeper.unroll c levels).types pointer notes) :=
  same_referenceType (.refl c.description) (fun _ _ => trivial) fun _ _ _ _ new =>
    same_enterTypes enough new

lemma same_referenceValidators (enough : nestingBound c ≤ levels) {pointer : String}
    {notes : Notes} :
    Same w (outerReferenceValidator c pointer notes)
      (referenceValidator c [] ((deeper.unroll c levels).validators []) pointer notes) :=
  same_referenceValidator (.refl c.description) (fun _ _ => trivial) fun _ _ _ _ new =>
    same_enterValidators enough new

lemma same_declareRecords {name : String} {fields : List Document.Value}
    {description : Document.Value} :
    Same w (declareRecords c name fields description) (declareRecords c name fields description) :=
  .bind .liftM fun _ _ _ => .bind .liftM fun _ _ _ => same_declareType

lemma same_declareRecordValidator {name : String} {fields : List Document.Value} :
    Same w (declareRecordValidator c name fields) (declareRecordValidator c name fields) :=
  .bind .liftM fun _ _ _ => same_declareValidator

/-- The node to declare a schema from is found without any change. -/
lemma same_nodeOf_bind {α : Type} {s : String} {node : Option SchemaNode} {f g : SchemaNode → Emit α}
    (h : ∀ n, Same w (f n) (g n)) : Same w (nodeOf c s node >>= f) (nodeOf c s node >>= g) := by
  cases node with
  | none => exact .orSchemaError_bind fun n _ => h n
  | some n => exact ⟨(h n).outcome, (h n).before⟩

/-- With enough levels a call comes to what it comes to, whatever would be done for schemas that lie
deeper. It begins no schema again. -/
lemma same_answer (deeper : Emitters) (enough : nestingBound c ≤ levels) (call : Call) :
    Same w (call.answer c) (call.answerBy c (deeper.unroll c levels)) := by
  have own {s : String} : Same w (typeName c s) (typeName c s) :=
    same_typeName (.refl c.description) trivial
  have const {s : String} : Same w (constName c s) (constName c s) :=
    same_constName (.refl c.description) trivial
  cases call with
  | emitType s node =>
    exact Same.map (.get_bind (.ite (fun _ => .pure) fun new =>
      same_nodeOf_bind fun n => same_enterTypes enough (by simpa using new)))
  | type parent property depth node =>
    exact (same_typeAt property depth node w fun _ _ _ _ _ => same_references enough).map
  | qualifiedType n parent property node =>
    exact (same_typeAt property 1 node w fun _ _ _ _ _ => same_references enough).map
  | typeField parent name required node =>
    exact (same_typeField fun _ _ _ _ _ => same_references enough).map
  | records => exact same_declareRecords.map
  | typeEnum => exact same_ensureTypeEnum.map
  | typeName => exact own.map
  | emitValidator s node =>
    exact Same.map (.get_bind (.ite (fun _ => .pure) fun new =>
      same_nodeOf_bind fun n => same_enterValidators enough (by simpa using new)))
  | validator parent property depth node =>
    exact (same_validatorAt property depth node w fun _ _ _ _ _ =>
      same_referenceValidators enough).map
  | recordValidator => exact same_declareRecordValidator.map
  | validatorEnum => exact same_ensureValidatorEnum.map
  | constName => exact const.map

end Levels

/-! ### Enough depth -/

/-- How deep a call gets by the node that it is given. -/
def Call.reach : Call → Int
  | emitType _ (some n) | emitValidator _ (some n) | qualifiedType _ _ _ n | typeField _ _ _ n =>
    1 + n.nesting
  | type _ _ depth n | validator _ _ depth n => depth + n.nesting
  | _ => 0

section Depth

variable {c : Setting} {d : Int} {deeper : Emitters} {levels : Nat}

lemma references_lookingInto (further : c.maxDepth ≤ d) (through : c.LooksThrough)
    {namespace_ : Option String} :
    referenceType c namespace_ (deeper.unroll c levels).types =
      referenceType (c.lookingInto d) namespace_ (deeper.unroll (c.lookingInto d) levels).types :=
  referenceType_lookingInto fun s n found =>
    unrollTypes_lookingInto further through levels s n (through s n found)

lemma referenceValidators_lookingInto (further : c.maxDepth ≤ d) (through : c.LooksThrough) :
    referenceValidator c [] ((deeper.unroll c levels).validators []) =
      referenceValidator (c.lookingInto d) []
        ((deeper.unroll (c.lookingInto d) levels).validators []) :=
  referenceValidator_lookingInto fun s n found =>
    unrollValidators_lookingInto further through levels [] s n (through s n found)

/-- The node to declare a schema from is the given one, or lies within the depth of the
description. -/
lemma nodeOf_bind_congr {α : Type} {s : String} {node : Option SchemaNode}
    {f g : SchemaNode → Emit α} (through : c.LooksThrough)
    (given : ∀ n, node = some n → 1 + (n.nesting : Int) ≤ c.maxDepth)
    (h : ∀ n : SchemaNode, 1 + (n.nesting : Int) ≤ c.maxDepth → f n = g n) :
    (nodeOf c s node >>= f) = nodeOf c s node >>= g := by
  cases node with
  | none => exact orSchemaError_bind_congr fun n found => h n (through s n (schema_eq_ok found))
  | some n => exact h n (given n rfl)

lemma demandTypeFrom_lookingInto (further : c.maxDepth ≤ d) (through : c.LooksThrough) {s : String}
    {node : Option SchemaNode} (given : ∀ n, node = some n → 1 + (n.nesting : Int) ≤ c.maxDepth) :
    demandTypeFrom c (deeper.unroll c levels).types s node =
      demandTypeFrom (c.lookingInto d) (deeper.unroll (c.lookingInto d) levels).types s node := by
  refine bind_congr fun w => ?_
  split
  · rfl
  · exact nodeOf_bind_congr through given fun n fits =>
      unrollTypes_lookingInto further through levels s n fits

lemma demandValidatorFrom_lookingInto (further : c.maxDepth ≤ d) (through : c.LooksThrough)
    {s : String} {node : Option SchemaNode}
    (given : ∀ n, node = some n → 1 + (n.nesting : Int) ≤ c.maxDepth) :
    demandValidatorFrom c ((deeper.unroll c levels).validators []) s node =
      demandValidatorFrom (c.lookingInto d)
        ((deeper.unroll (c.lookingInto d) levels).validators []) s node := by
  refine bind_congr fun w => ?_
  split
  · rfl
  · exact nodeOf_bind_congr through given fun n fits =>
      unrollValidators_lookingInto further through levels [] s n fits

/-- A call that does not get to the guard does not depend on where the guard is. -/
lemma answerBy_lookingInto (further : c.maxDepth ≤ d) (through : c.LooksThrough) (call : Call)
    (fits : call.reach ≤ c.maxDepth) :
    call.answerBy c (deeper.unroll c levels) =
      call.answerBy (c.lookingInto d) (deeper.unroll (c.lookingInto d) levels) := by
  cases call with
  | emitType s node =>
    rw [Call.answerBy, Call.answerBy,
      demandTypeFrom_lookingInto further through (by rintro n rfl; exact fits)]
  | type parent property depth node =>
    rw [Call.answerBy, Call.answerBy, references_lookingInto further through,
      typeAt_lookingInto further property depth node fits]
  | qualifiedType n parent property node =>
    rw [Call.answerBy, Call.answerBy, references_lookingInto further through,
      typeAt_lookingInto further property 1 node fits]
  | typeField parent name required node =>
    rw [Call.answerBy, Call.answerBy, references_lookingInto further through,
      typeField_lookingInto further fits]
  | emitValidator s node =>
    rw [Call.answerBy, Call.answerBy,
      demandValidatorFrom_lookingInto further through (by rintro n rfl; exact fits)]
  | validator parent property depth node =>
    rw [Call.answerBy, Call.answerBy, referenceValidators_lookingInto further through,
      validatorAt_lookingInto further property depth node fits]
  | records | typeEnum | typeName | recordValidator | validatorEnum | constName =>
    simp only [Call.answerBy, Call.answer]
    rfl

end Depth

/-! ### Lives -/

/-- What happens in the life of the emitters of a directory: a call, or someone else changes the
registry. -/
inductive Event
  | call (call : Call)
  | registry (registry : Registry)

/-- What some events come to, one after another, however the calls end. -/
def life (answer : Call → Emit Answer) :
    List Event → Workspace → List (Except EmitError Answer) × Workspace
  | [], w => ([], w)
  | .registry registry :: rest, w => life answer rest { w with registry }
  | .call call :: rest, w =>
    let (result, w) := outcome (answer call) w
    let (results, w) := life answer rest w
    (result :: results, w)

section Lives

variable {c : Setting} {w : Workspace} {events : List Event} {answer answer' : Call → Emit Answer}

/-- Calls that come to the same make lives that do. -/
lemma life_congr (same : ∀ call, .call call ∈ events → answer call = answer' call) :
    life answer events w = life answer' events w := by
  induction events generalizing w with
  | nil => rfl
  | cons event rest ih =>
    have later (w : Workspace) : life answer rest w = life answer' rest w :=
      ih fun call hc => same call (List.mem_cons_of_mem _ hc)
    cases event with
    | registry => exact later _
    | call call =>
      rw [life, life, same call List.mem_cons_self]
      simp only [later]

/-- If no call begins a schema again, none is begun again in the whole life. -/
lemma before_life (once : ∀ call (w : Workspace), w.Before (outcome (answer call) w).2) :
    w.Before (life answer events w).2 := by
  induction events generalizing w with
  | nil => exact .refl w
  | cons event rest ih =>
    cases event with
    | registry r =>
      have same : w.Before { w with registry := r } := ⟨.refl _, .refl _⟩
      exact same.trans ih
    | call call => exact (once call w).trans ih

/-- From some depth on neither the description nor any of the calls gets to the guard. -/
lemma exists_limit (c : Setting) (events : List Event) :
    ∃ limit : Int, (c.lookingInto limit).LooksThrough ∧
      ∀ call, .call call ∈ events → call.reach ≤ limit := by
  let depths := c.description.schemas.map fun e => 1 + (e.2.nesting : Int)
  let reaches := events.filterMap fun
    | .call call => some call.reach
    | .registry _ => none
  obtain ⟨limit, most⟩ := (depths ++ reaches).toFinset.exists_le
  refine ⟨limit, fun s n found => most _ ?_, fun call hc => most _ ?_⟩
  · have known : (s, n) ∈ c.description.schemas := mem_of_lookup found
    exact List.mem_toFinset.2 (List.mem_append_left _ (List.mem_map.2 ⟨_, known, rfl⟩))
  · exact List.mem_toFinset.2 (List.mem_append_right _ (List.mem_filterMap.2 ⟨_, hc, rfl⟩))

/-- Emission ends. Whatever the description, and whatever calls are made on fresh emitters, they come
to the same whatever would be done for schemas that lie deeper than there are schemas: the recursion
never gets there. From some depth on they come to the same however much deeper emission may look, so
that it is not the guard that ends it. And no schema is begun twice, neither for its type nor for
its validator, whether it is declared or given up. -/
theorem emission_ends (c : Setting) (registry : Registry) (log : Log) (events : List Event) :
    let start : Workspace := { registry, log }
    (∀ (deeper : Emitters) (levels : Nat), nestingBound c ≤ levels →
      life (Call.answerBy c (deeper.unroll c levels)) events start =
        life (Call.answer c) events start) ∧
    (∃ limit, ∀ d ≥ limit, ∀ (deeper : Emitters) (levels : Nat), nestingBound c ≤ levels →
      life (Call.answerBy (c.lookingInto d) (deeper.unroll (c.lookingInto d) levels)) events
        start = life (Call.answer (c.lookingInto limit)) events start) ∧
    (life (Call.answer c) events start).2.types.processed.Nodup ∧
    (life (Call.answer c) events start).2.validators.processed.Nodup := by
  intro start
  have unrolled (c : Setting) (deeper : Emitters) (levels : Nat)
      (enough : nestingBound c ≤ levels) :
      life (Call.answerBy c (deeper.unroll c levels)) events start =
        life (Call.answer c) events start :=
    life_congr fun call _ => (Same.eq fun w => same_answer deeper enough call).symm
  let undeclared : Emitters := ⟨fun _ _ => pure (), fun _ _ _ => pure ()⟩
  have before : start.Before (life (Call.answer c) events start).2 :=
    before_life fun call w => (same_answer undeclared (Nat.le_refl (nestingBound c)) call).before
  refine ⟨unrolled c, ?_, before.types.nodup .nil, before.validators.nodup .nil⟩
  obtain ⟨limit, through, reach⟩ := exists_limit c events
  refine ⟨limit, fun d further deeper levels enough => ?_⟩
  rw [← unrolled (c.lookingInto limit) deeper levels enough]
  exact life_congr fun call hc =>
    (answerBy_lookingInto (c := c.lookingInto limit) further through call (reach call hc)).symm

/-- Two schemas that refer to each other, one of which refers to a missing schema as well, are begun
once each, and so are their validators. Both types are given up, and the validator that needs the
missing schema itself. -/
example :
    let c : Setting := { description := {
      schemas := [("A", .object [⟨"b", true, .reference "#/components/schemas/B" {}⟩] none {}),
        ("B", .object [⟨"a", true, .reference "#/components/schemas/A" {}⟩,
          ⟨"c", true, .reference "#/components/schemas/C" {}⟩] none {})]
      operations := [] } }
    let w := (life (Call.answer c) [.call (.emitType "A" none), .call (.emitType "B" none),
      .call (.emitValidator "B" none), .call (.emitValidator "A" none)] {}).2
    w.types.processed = ["A", "B"] ∧ w.types.failed = ["B", "A"] ∧
      w.validators.processed = ["B", "A"] ∧ w.validators.failed = ["B"] := by
  decide +kernel

end Lives

end ClientGen.Emission
