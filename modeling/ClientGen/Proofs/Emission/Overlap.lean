import ClientGen.Proofs.Emission.OperationSchemas
import ClientGen.Proofs.Emission.SameRun

/-!
# Emission in descriptions that overlap

What is emitted for a schema depends on the schemas that it leads to and on nothing else of the
description. The budget of an emission depends on how many schemas there are; it is never used up, so
that another one does no harm.
-/

namespace ClientGen.Emission

open Api Graph Schema TypeScript

variable {c : Setting} {d' : Description} {S : String → Prop} {parent : String}
  {namespace_ : Option String} {w : Workspace}

/-! ### Types -/

section Nested

variable {references references' : ReferenceTypes}

mutual

/-- The type of a schema depends on what its references come to. -/
lemma same_typeAt : ∀ (property : Option String) (depth : Int) (s : SchemaNode) (w : Workspace),
    (∀ pointer ∈ s.pointers, ∀ notes w', w.Before w' →
      Same w' (references pointer notes) (references' pointer notes)) →
    Same w (typeAt c namespace_ references parent property depth s)
      (typeAt (c.about d') namespace_ references' parent property depth s)
  | property, depth, .primitive kind constraints _, w, _ => by
    rw [typeAt, typeAt]
    exact same_nestedType .pure
  | property, depth, .enumeration values _, w, _ => by
    rw [typeAt, typeAt]
    exact same_nestedType same_enumType
  | property, depth, .array items _ _, w, h => by
    rw [typeAt, typeAt]
    exact same_nestedType (same_typeAt none (depth + 1) items w h).map
  | property, depth, .object [] none _, w, _ => by
    rw [typeAt, typeAt]
    exact same_nestedType .pure
  | property, depth, .object [] (some value) _, w, h => by
    rw [typeAt, typeAt]
    exact same_nestedType (same_typeAt none (depth + 1) value w fun p hp =>
      h p (List.mem_append_right _ hp)).map
  | property, depth, .object (p :: ps) _ _, w, h => by
    rw [typeAt, typeAt]
    · exact same_nestedType (same_membersAt (depth + 1) (p :: ps) w fun q hq =>
        h q (List.mem_append_left _ hq)).map
    all_goals simp
  | property, depth, .reference pointer notes, w, h => by
    rw [typeAt, typeAt]
    exact same_nestedType (h pointer (List.mem_singleton_self _) notes w (.refl w))
  | property, depth, .oneOf _ _, w, _ => by
    rw [typeAt, typeAt]
    exact same_nestedType .pure
  | property, depth, .anyOf _ _, w, _ => by
    rw [typeAt, typeAt]
    exact same_nestedType .pure
  | property, depth, .allOf _ _, w, _ => by
    rw [typeAt, typeAt]
    exact same_nestedType .pure
  | property, depth, .unknown _, w, _ => by
    rw [typeAt, typeAt]
    exact same_nestedType .pure

lemma same_membersAt : ∀ (depth : Int) (ps : List Property) (w : Workspace),
    (∀ pointer ∈ Property.pointersAll ps, ∀ notes w', w.Before w' →
      Same w' (references pointer notes) (references' pointer notes)) →
    Same w (membersAt c namespace_ references parent depth ps)
      (membersAt (c.about d') namespace_ references' parent depth ps)
  | depth, [], w, _ => by
    rw [membersAt, membersAt]
    exact .pure
  | depth, ⟨name, required, s⟩ :: rest, w, h => by
    rw [membersAt, membersAt]
    refine (same_typeAt (some name) depth s w fun p hp => h p (List.mem_append_left _ hp)).bind
      fun t w' before => ?_
    exact (same_membersAt depth rest w' fun p hp notes w'' before' =>
      h p (List.mem_append_right _ hp) notes w'' (before.trans before')).bind fun _ _ _ => .pure

end

/-- A field depends on what the references inside its schema come to. -/
lemma same_typeField {name : String} {required : Bool} {s : SchemaNode}
    (h : ∀ pointer ∈ s.pointers, ∀ notes w', w.Before w' →
      Same w' (references pointer notes) (references' pointer notes)) :
    Same w (typeField c references parent name required s)
      (typeField (c.about d') references' parent name required s) :=
  (same_typeAt (some name) 1 s w h).bind fun _ _ _ => .pure

/-- The declaration of a schema depends on what the references inside it come to. -/
lemma same_declareSchemaType {name : String} {node : SchemaNode}
    (overlap : Overlap c.description d' S) (hs : S name)
    (h : ∀ pointer ∈ node.pointers, ∀ notes w', w.Before w' →
      Same w' (references pointer notes) (references' pointer notes)) :
    Same w (declareSchemaType c references name node)
      (declareSchemaType (c.about d') references' name node) := by
  refine (same_typeName overlap hs).bind fun identifier w' before => ?_
  split
  · exact same_ensureTypeEnum
  · next p ps additional notes =>
    refine (Same.mapM (p :: ps) w' fun q hq w'' before' => same_typeField fun pointer hp notes w₃
      before₃ => h pointer ?_ notes w₃ ((before.trans before').trans before₃)).bind
        fun _ _ _ => same_declareType
    exact List.mem_append_left _ (Property.pointers_subset_of_mem hq hp)
  · exact (same_typeAt none 1 node w' fun pointer hp notes w'' before' =>
      h pointer hp notes w'' (before.trans before')).bind fun _ _ _ => same_declareType

end Nested

section Types

variable {emit emit' : String → SchemaNode → Emit Unit}

/-- The type of a reference depends on the schema that it leads to. -/
lemma same_referenceType (overlap : Overlap c.description d' S) {pointer : String} {notes : Notes}
    (into : ∀ s, targetName? pointer = some s → S s)
    (emits : ∀ s n, S s → c.description.schema? s = some n → s ∉ w.types.processed →
      Same w (emit s n) (emit' s n)) :
    Same w (referenceType c namespace_ emit pointer notes)
      (referenceType (c.about d') namespace_ emit' pointer notes) := by
  unfold referenceType
  rw [← overlap.resolve into]
  refine .orSchemaError_bind ?_
  rintro ⟨s, target⟩ found
  have hs : S s := into s (targetName?_of_resolve found)
  refine .get_bind (.ite (fun _ => .pure) fun _ => .bind (.ite (fun _ => ?_) fun _ => ?_)
    fun _ _ _ => .pure)
  · exact (same_typeName overlap hs).bind fun _ _ _ => same_commonType
  · refine .bind (.get_bind (.ite (fun new => ?_) fun _ => .pure)) fun _ _ _ =>
      (same_typeName overlap hs).bind fun _ _ _ => .pure
    exact emits s target hs (resolve_eq_ok found) (by simpa using new)

/-- With more levels than schemas are left, those are declared in the same way, whatever would be
done for schemas that lie deeper. -/
lemma same_unrollTypes (overlap : Overlap c.description d' S)
    {deeper deeper' : String → SchemaNode → Emit Unit} :
    ∀ (levels levels' : Nat) (name : String) (node : SchemaNode) (w : Workspace), S name →
      LeadsInto S node → name ∉ w.types.processed →
      c.Room (w.types.processed ++ [name]) levels →
      (c.about d').Room (w.types.processed ++ [name]) levels' →
      Same w (unrollTypes c deeper levels name node)
        (unrollTypes (c.about d') deeper' levels' name node)
  | 0, _, _, _, _, _, _, _, room, _ => absurd room (Nat.not_lt_zero _)
  | _, 0, _, _, _, _, _, _, _, room => absurd room (Nat.not_lt_zero _)
  | levels + 1, levels' + 1, name, node, w, hs, into, new, room, room' => by
    rw [unrollTypes, unrollTypes, enterType, enterType]
    refine .modify_bind ⟨.begin new, .refl _⟩ ?_
    refine (same_declareSchemaType overlap hs fun pointer hp notes w' before =>
      same_referenceType overlap (into pointer hp) fun s n hs found new' => ?_).caught.bind
        fun r w' _ => ?_
    · have known := mem_schemaNames found
      exact same_unrollTypes overlap levels levels' s n w' hs (overlap.leadsInto hs found) new'
        (room.next before.types.subset known new')
        (room'.next before.types.subset ((overlap.mem_schemaNames hs).1 known) new')
    · cases r with
      | ok a => exact .pure
      | error e => exact .bind (.modify ⟨.refl _, .refl _⟩) fun _ _ _ => .throw

/-- With budgets that are not used up, schemas are declared in the same way. -/
lemma same_emitTypeWithin (overlap : Overlap c.description d' S) (budget budget' : Nat)
    (name : String) (node : SchemaNode) (w : Workspace) (hs : S name) (into : LeadsInto S node)
    (new : name ∉ w.types.processed) (room : c.Room (w.types.processed ++ [name]) budget)
    (room' : (c.about d').Room (w.types.processed ++ [name]) budget') :
    Same w (emitTypeWithin c budget name node) (emitTypeWithin (c.about d') budget' name node) := by
  rw [emitTypeWithin_eq, emitTypeWithin_eq]
  exact same_unrollTypes overlap budget budget' name node w hs into new room room'

/-- The type of a reference from outside any schema. -/
lemma same_outerReferenceType (overlap : Overlap c.description d' S) {pointer : String}
    {notes : Notes} (into : ∀ s, targetName? pointer = some s → S s) :
    Same w (outerReferenceType c namespace_ pointer notes)
      (outerReferenceType (c.about d') namespace_ pointer notes) :=
  same_referenceType overlap into fun s n hs found new =>
    same_emitTypeWithin overlap _ _ s n w hs (overlap.leadsInto hs found) new room_nestingBound
      room_nestingBound

lemma emitType_eq (overlap : Overlap c.description d' S) {name : String} (hs : S name) :
    emitType c name none = emitType (c.about d') name none := by
  refine Same.eq fun w => .get_bind (.ite (fun _ => .pure) fun new => ?_)
  unfold nodeOf
  rw [← overlap.schema_eq hs]
  refine .orSchemaError_bind fun node found => ?_
  exact same_emitTypeWithin overlap _ _ name node w hs (overlap.leadsInto hs (schema_eq_ok found))
    (by simpa using new) room_nestingBound room_nestingBound

end Types

/-! ### Validators -/

section Nested

variable {references references' : ReferenceValidators}

mutual

/-- The validator of a schema depends on what its references come to. -/
lemma same_validatorAt : ∀ (property : Option String) (depth : Int) (s : SchemaNode)
    (w : Workspace),
    (∀ pointer ∈ s.pointers, ∀ notes w', w.Before w' →
      Same w' (references pointer notes) (references' pointer notes)) →
    Same w (validatorAt c references parent property depth s)
      (validatorAt (c.about d') references' parent property depth s)
  | property, depth, .primitive kind constraints _, w, _ => by
    rw [validatorAt, validatorAt]
    exact same_nestedValidator .liftM
  | property, depth, .enumeration values _, w, _ => by
    rw [validatorAt, validatorAt]
    exact same_nestedValidator same_enumValidator
  | property, depth, .array items _ _, w, h => by
    rw [validatorAt, validatorAt]
    exact same_nestedValidator ((same_validatorAt none (depth + 1) items w h).bind fun _ _ _ =>
      .liftM)
  | property, depth, .object [] none _, w, _ => by
    rw [validatorAt, validatorAt]
    exact same_nestedValidator .pure
  | property, depth, .object [] (some value) _, w, h => by
    rw [validatorAt, validatorAt]
    exact same_nestedValidator (same_validatorAt none (depth + 1) value w fun p hp =>
      h p (List.mem_append_right _ hp)).map
  | property, depth, .object (p :: ps) _ _, w, h => by
    rw [validatorAt, validatorAt]
    · exact same_nestedValidator (same_fieldsAt (depth + 1) (p :: ps) w fun q hq =>
        h q (List.mem_append_left _ hq)).map
    all_goals simp
  | property, depth, .reference pointer notes, w, h => by
    rw [validatorAt, validatorAt]
    exact same_nestedValidator (h pointer (List.mem_singleton_self _) notes w (.refl w))
  | property, depth, .allOf members _, w, h => by
    rw [validatorAt, validatorAt]
    exact same_nestedValidator (same_validatorsAt property (depth + 1) members w h).map
  | property, depth, .oneOf variants _, w, h => by
    rw [validatorAt, validatorAt]
    exact same_nestedValidator (same_validatorsAt property (depth + 1) variants w h).map
  | property, depth, .anyOf variants _, w, h => by
    rw [validatorAt, validatorAt]
    exact same_nestedValidator (same_validatorsAt property (depth + 1) variants w h).map
  | property, depth, .unknown _, w, _ => by
    rw [validatorAt, validatorAt]
    exact same_nestedValidator .pure

lemma same_validatorsAt : ∀ (property : Option String) (depth : Int) (ss : List SchemaNode)
    (w : Workspace),
    (∀ pointer ∈ SchemaNode.pointersAll ss, ∀ notes w', w.Before w' →
      Same w' (references pointer notes) (references' pointer notes)) →
    Same w (validatorsAt c references parent property depth ss)
      (validatorsAt (c.about d') references' parent property depth ss)
  | property, depth, [], w, _ => by
    rw [validatorsAt, validatorsAt]
    exact .pure
  | property, depth, s :: rest, w, h => by
    rw [validatorsAt, validatorsAt]
    refine (same_validatorAt property depth s w fun p hp => h p (List.mem_append_left _ hp)).bind
      fun v w' before => ?_
    exact (same_validatorsAt property depth rest w' fun p hp notes w'' before' =>
      h p (List.mem_append_right _ hp) notes w'' (before.trans before')).bind fun _ _ _ => .pure

lemma same_fieldsAt : ∀ (depth : Int) (ps : List Property) (w : Workspace),
    (∀ pointer ∈ Property.pointersAll ps, ∀ notes w', w.Before w' →
      Same w' (references pointer notes) (references' pointer notes)) →
    Same w (fieldsAt c references parent depth ps)
      (fieldsAt (c.about d') references' parent depth ps)
  | depth, [], w, _ => by
    rw [fieldsAt, fieldsAt]
    exact .pure
  | depth, ⟨name, required, s⟩ :: rest, w, h => by
    rw [fieldsAt, fieldsAt]
    refine (same_validatorAt (some name) depth s w fun p hp => h p (List.mem_append_left _ hp)).bind
      fun v w' before => ?_
    exact (same_fieldsAt depth rest w' fun p hp notes w'' before' =>
      h p (List.mem_append_right _ hp) notes w'' (before.trans before')).bind fun _ _ _ => .pure

end

/-- The declaration of a validator depends on what the references inside the schema come to. -/
lemma same_declareSchemaValidator {name : String} {node : SchemaNode}
    (overlap : Overlap c.description d' S) (hs : S name)
    (h : ∀ pointer ∈ node.pointers, ∀ notes w', w.Before w' →
      Same w' (references pointer notes) (references' pointer notes)) :
    Same w (declareSchemaValidator c references name node)
      (declareSchemaValidator (c.about d') references' name node) := by
  unfold declareSchemaValidator
  split
  · exact (same_typeName overlap hs).bind fun _ _ _ => same_ensureValidatorEnum
  · exact (same_validatorAt none 1 node w h).bind fun _ _ _ =>
      (same_constName overlap hs).bind fun _ _ _ => .get_bind same_declareValidator

end Nested

section Validators

variable {path : List String} {emit emit' : String → SchemaNode → Emit Unit}

/-- The validator of a reference depends on the schema that it leads to. -/
lemma same_referenceValidator (overlap : Overlap c.description d' S) {pointer : String}
    {notes : Notes} (into : ∀ s, targetName? pointer = some s → S s)
    (emits : ∀ s n, S s → c.description.schema? s = some n → s ∉ w.validators.processed →
      Same w (emit s n) (emit' s n)) :
    Same w (referenceValidator c path emit pointer notes)
      (referenceValidator (c.about d') path emit' pointer notes) := by
  unfold referenceValidator
  rw [← overlap.resolve into]
  refine .orSchemaError_bind ?_
  rintro ⟨s, target⟩ found
  have hs : S s := into s (targetName?_of_resolve found)
  have named {w : Workspace} {finish : String → Validator} :
      Same w (constName c s >>= fun k => pure (finish k))
        (constName (c.about d') s >>= fun k => pure (finish k)) :=
    (same_constName overlap hs).bind fun _ _ _ => .pure
  refine .get_bind (.ite (fun _ => .pure) fun _ => .ite (fun _ => ?_) fun _ =>
    .ite (fun _ => ?_) fun _ => ?_)
  · exact .bind (.modify ⟨.refl _, .refl _⟩) fun _ _ _ => named
  · exact .bind (.modify ⟨.refl _, .refl _⟩) fun _ _ _ => named
  · refine .bind (.get_bind (.ite (fun new => ?_) fun _ => .pure)) fun _ _ _ => named
    exact emits s target hs (resolve_eq_ok found) (by simpa using new)

/-- With more levels than schemas are left, their validators are declared in the same way, whatever
would be done for schemas that lie deeper. -/
lemma same_unrollValidators (overlap : Overlap c.description d' S)
    {deeper deeper' : List String → String → SchemaNode → Emit Unit} :
    ∀ (levels levels' : Nat) (path : List String) (name : String) (node : SchemaNode)
      (w : Workspace), S name → LeadsInto S node → name ∉ w.validators.processed →
      c.Room (w.validators.processed ++ [name]) levels →
      (c.about d').Room (w.validators.processed ++ [name]) levels' →
      Same w (unrollValidators c deeper levels path name node)
        (unrollValidators (c.about d') deeper' levels' path name node)
  | 0, _, _, _, _, _, _, _, _, room, _ => absurd room (Nat.not_lt_zero _)
  | _, 0, _, _, _, _, _, _, _, _, room => absurd room (Nat.not_lt_zero _)
  | levels + 1, levels' + 1, path, name, node, w, hs, into, new, room, room' => by
    rw [unrollValidators, unrollValidators, enterValidator, enterValidator]
    refine .modify_bind ⟨.refl _, .begin new⟩ ?_
    refine (same_declareSchemaValidator overlap hs fun pointer hp notes w' before =>
      same_referenceValidator overlap (into pointer hp) fun s n hs found new' => ?_).caught.bind
        fun r w' _ => ?_
    · have known := mem_schemaNames found
      exact same_unrollValidators overlap levels levels' _ s n w' hs (overlap.leadsInto hs found)
        new' (room.next before.validators.subset known new')
        (room'.next before.validators.subset ((overlap.mem_schemaNames hs).1 known) new')
    · cases r with
      | ok a => exact .pure
      | error e => exact .bind (.modify ⟨.refl _, .refl _⟩) fun _ _ _ => .throw

/-- With budgets that are not used up, validators are declared in the same way. -/
lemma same_emitValidatorWithin (overlap : Overlap c.description d' S) (budget budget' : Nat)
    (path : List String) (name : String) (node : SchemaNode) (w : Workspace) (hs : S name)
    (into : LeadsInto S node) (new : name ∉ w.validators.processed)
    (room : c.Room (w.validators.processed ++ [name]) budget)
    (room' : (c.about d').Room (w.validators.processed ++ [name]) budget') :
    Same w (emitValidatorWithin c budget path name node)
      (emitValidatorWithin (c.about d') budget' path name node) := by
  rw [emitValidatorWithin_eq, emitValidatorWithin_eq]
  exact same_unrollValidators overlap budget budget' path name node w hs into new room room'

/-- The validator of a reference from outside any schema. -/
lemma same_outerReferenceValidator (overlap : Overlap c.description d' S) {pointer : String}
    {notes : Notes} (into : ∀ s, targetName? pointer = some s → S s) :
    Same w (outerReferenceValidator c pointer notes)
      (outerReferenceValidator (c.about d') pointer notes) :=
  same_referenceValidator overlap into fun s n hs found new =>
    same_emitValidatorWithin overlap _ _ [] s n w hs (overlap.leadsInto hs found) new
      room_nestingBound room_nestingBound

lemma emitValidator_eq (overlap : Overlap c.description d' S) {name : String} (hs : S name) :
    emitValidator c name none = emitValidator (c.about d') name none := by
  refine Same.eq fun w => .get_bind (.ite (fun _ => .pure) fun new => ?_)
  unfold nodeOf
  rw [← overlap.schema_eq hs]
  refine .orSchemaError_bind fun node found => ?_
  exact same_emitValidatorWithin overlap _ _ [] name node w hs
    (overlap.leadsInto hs (schema_eq_ok found)) (by simpa using new) room_nestingBound
    room_nestingBound

end Validators

/-! ### Operations -/

section Operations

variable {t : Target} {op : Operation} {pascal functionName : String} {property : Option String}
  {node : SchemaNode}

lemma typeAt_outer_eq (overlap : Overlap c.description d' S) (into : LeadsInto S node)
    {depth : Int} :
    typeAt c namespace_ (outerReferenceType c namespace_) parent property depth node =
      typeAt (c.about d') namespace_ (outerReferenceType (c.about d') namespace_) parent property
        depth node :=
  Same.eq fun w => same_typeAt property depth node w fun pointer hp _ _ _ =>
    same_outerReferenceType overlap (into pointer hp)

lemma localValidator_eq (overlap : Overlap c.description d' S) (into : LeadsInto S node)
    {depth : Int} : localValidator c parent property depth node =
      localValidator (c.about d') parent property depth node :=
  Same.eq fun w => same_validatorAt property depth node w fun pointer hp _ _ _ =>
    same_outerReferenceValidator overlap (into pointer hp)

lemma operationType_eq (overlap : Overlap c.description d' S) (into : LeadsInto S node) :
    operationType c t op parent property node =
      operationType (c.about d') t op parent property node := by
  unfold operationType declareNeeds qualifiedType
  rw [typeAt_outer_eq overlap into, localValidator_eq overlap into]

/-- The schemas of an operation lead into `S`. -/
def OperationInto (S : String → Prop) (op : Operation) : Prop :=
  ∀ node ∈ op.schemas, LeadsInto S node

lemma pathArguments_eq (overlap : Overlap c.description d' S) (into : OperationInto S op) :
    pathArguments c t op pascal = pathArguments (c.about d') t op pascal := by
  have each (name : String) : LeadsInto S (placeholderSchema op name) := by
    rcases placeholderSchema_cases op name with h | h
    · exact into _ h
    · rw [h]
      intro pointer hp
      simp [SchemaNode.pointers] at hp
  unfold pathArguments
  congr 1
  funext name
  rw [operationType_eq overlap (each name)]

lemma bodyArgument_eq (overlap : Overlap c.description d' S) (into : OperationInto S op) :
    bodyArgument? c t op pascal = bodyArgument? (c.about d') t op pascal := by
  unfold bodyArgument?
  split
  · rfl
  · next node hb =>
    rw [operationType_eq overlap (into node (mem_schemas_of_body hb))]

lemma operationResponse_eq (overlap : Overlap c.description d' S) (into : OperationInto S op) :
    operationResponse c t op pascal = operationResponse (c.about d') t op pascal := by
  unfold operationResponse
  split
  · rfl
  · next node hr =>
    exact operationType_eq overlap (into node (mem_schemas_of_response hr))

lemma queryField_eq (overlap : Overlap c.description d' S) (into : OperationInto S op)
    {p : Parameter} (hp : p ∈ op.queryParameters) :
    queryField c op pascal p = queryField (c.about d') op pascal p := by
  have hp : LeadsInto S p.schema := into _ (mem_schemas_of_query hp)
  unfold queryField queryTypeField queryValidatorField typeField
  dsimp only
  rw [typeAt_outer_eq overlap hp, localValidator_eq overlap hp]

lemma queryArgument_eq (overlap : Overlap c.description d' S) (into : OperationInto S op) :
    queryArgument? c t op pascal = queryArgument? (c.about d') t op pascal := by
  have fields : op.queryParameters.mapM (queryField c op pascal) =
      op.queryParameters.mapM (queryField (c.about d') op pascal) :=
    Same.mapM_congr fun p hp => queryField_eq overlap into hp
  unfold queryArgument? queryArgument
  rw [fields]
  rfl

/-- An operation is emitted in the same way. -/
lemma emitOperation_eq (overlap : Overlap c.description d' S) (into : OperationInto S op) :
    emitOperation c t functionName op = emitOperation (c.about d') t functionName op := by
  unfold emitOperation operationParts
  dsimp only
  rw [pathArguments_eq overlap into, bodyArgument_eq overlap into, queryArgument_eq overlap into,
    operationResponse_eq overlap into]
  rfl

end Operations

end ClientGen.Emission
