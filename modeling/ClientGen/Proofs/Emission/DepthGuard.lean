import ClientGen.Proofs.Emission.GuardReports

/-!
# The depth guard

The root of a schema has the depth one and every level inside is one deeper, except that the fields of
an interface have the depth one again. So the guards of both files replace the same positions inside a
schema, unless it is an object with properties that goes down to the limit.
-/

namespace ClientGen.Emission

open Api Enumeration Naming Output Schema Template TypeScript

variable {c : Setting} {W : Side} {s parent name : String} {w w' : Workspace} {n : SchemaNode}
  {k : Nat}

/-! ### Types -/

variable {namespace_ property : Option String} {values : List String} {depth : Int}
  {references : ReferenceTypes}

lemma declareType_trips {d : TypeDeclaration} :
    Side.types.Trips s 0 (declareType c d) w fun _ _ => True := by
  refine Side.Trips.quiet_bind (Q := fun _ _ => True) (.liftM fun _ _ => trivial) fun written w' _ => ?_
  exact .modify (by simp [Side.begun]) rfl trivial

lemma ensureTypeEnum_trips {description : Option String} :
    Side.types.Trips s 0 (ensureTypeEnum c name values description) w fun _ _ => True :=
  .get_bind (.ite (fun _ => .pure trivial) fun _ => declareType_trips)

lemma commonType_trips :
    Side.types.Trips s 0 (commonType namespace_ name) w fun t _ => t.isAny = false := by
  unfold commonType
  cases namespace_ with
  | none =>
    refine Side.Trips.quiet_bind (Q := fun _ _ => True) ?_ fun _ _ _ => .pure rfl
    exact .modify (fun _ h => h) rfl trivial
  | some _ => exact .pure rfl

lemma enumType_trips :
    Side.types.Trips s 0 (enumType c namespace_ parent property values) w
      fun t _ => t.isAny = false := by
  refine inlineEnumName_trips.quiet_bind fun x w' _ => .ite (fun _ => commonType_trips) fun _ => ?_
  exact ensureTypeEnum_trips.quiet_bind fun _ _ _ => .pure rfl

lemma isAny_scalarType {kind : PrimitiveKind} {constraints : Constraints} :
    (scalarType kind constraints).isAny = false := by
  unfold scalarType
  cases kind with
  | string => dsimp only; split <;> rfl
  | number | integer | boolean => rfl

lemma nestedType_trips {nullable : Bool} {type : Emit TypeExpr}
    (h : ∀ k, c.levels (depth + 1) = k → Side.types.Trips s (cuts s parent (k + 1) n) type w
      fun t _ => CutAt (k + 1) n t) :
    Side.types.Trips s (cuts s parent (c.levels depth) n)
      (nestedType c parent depth nullable type) w fun t _ => CutAt (c.levels depth) n t :=
  nested_trips rfl rfl (fun _ => rfl) h

/-- What each reference comes to is found without a report on `s`. -/
def Side.Quiet {τ : Type} (W : Side) (s : String) (references : String → Notes → Emit τ) : Prop :=
  ∀ pointer notes w, W.Trips s 0 (references pointer notes) w fun _ _ => True

mutual

lemma typeAt_trips (quiet : Side.types.Quiet s references) :
    ∀ (property : Option String) (depth : Int) (n : SchemaNode) (w : Workspace),
    Side.types.Trips s (cuts s parent (c.levels depth) n)
      (typeAt c namespace_ references parent property depth n) w
      fun t _ => CutAt (c.levels depth) n t
  | _, _, .primitive _ _ _, _ => by
    rw [typeAt]
    exact nestedType_trips fun _ _ => leaf_trips rfl (.pure fun _ => isAny_scalarType)
  | _, _, .enumeration _ _, _ => by
    rw [typeAt]
    exact nestedType_trips fun _ _ => leaf_trips rfl (enumType_trips.weaken fun _ _ h _ => h)
  | _, depth, .array items _ _, w => by
    rw [typeAt]
    refine nestedType_trips fun k hk => ?_
    rw [cuts_array, ← hk]
    exact .map ((typeAt_trips quiet none (depth + 1) items w).weaken fun _ _ ht => cutAt_array ht)
  | _, _, .object [] none _, _ => by
    rw [typeAt]
    exact nestedType_trips fun _ _ => leaf_trips rfl (.pure fun _ => rfl)
  | _, depth, .object [] (some value) _, w => by
    rw [typeAt]
    refine nestedType_trips fun k hk => ?_
    rw [cuts_record, ← hk]
    exact .map ((typeAt_trips quiet none (depth + 1) value w).weaken fun _ _ ht => cutAt_record ht)
  | _, depth, .object (p :: ps) _ _, w => by
    rw [typeAt]
    · refine nestedType_trips fun k hk => ?_
      rw [cuts_object, ← hk]
      exact .map ((membersAt_trips quiet (depth + 1) (p :: ps) w).weaken
        fun _ _ hms => cutAt_object hms)
    all_goals simp
  | _, _, .reference pointer notes, w => by
    rw [typeAt]
    exact nestedType_trips fun _ _ => leaf_trips rfl
      ((quiet pointer notes w).weaken fun _ _ _ => nofun)
  | _, _, .oneOf _ _, _ | _, _, .anyOf _ _, _ | _, _, .allOf _ _, _ | _, _, .unknown _, _ => by
    rw [typeAt]
    exact nestedType_trips fun _ _ => leaf_trips rfl (.pure nofun)

lemma membersAt_trips (quiet : Side.types.Quiet s references) :
    ∀ (depth : Int) (ps : List Property) (w : Workspace),
    Side.types.Trips s (propertyCuts s parent (c.levels depth) ps)
      (membersAt c namespace_ references parent depth ps) w
      fun ms _ => List.Forall₂ (fun p m => CutAt (c.levels depth) p.schema m.type) ps ms
  | _, [], _ => by
    rw [membersAt]
    exact .pure .nil
  | depth, ⟨name, _, n⟩ :: rest, w => by
    rw [membersAt]
    refine (typeAt_trips quiet (some name) depth n w).bind fun t w' ht => ?_
    exact (membersAt_trips quiet depth rest w').bind_quiet fun ms _ hms => .pure (.cons ht hms)

end

/-- The positions inside a schema that the guard replaces in its type. The fields of an interface
are as deep as the root of any other type. -/
def typeCuts (c : Setting) (n : SchemaNode) : List Position :=
  if n.isEnumeration then [] else n.atLevel (c.maxDepth.toNat + if n.isRecord then 1 else 0)

lemma levels_one : c.levels 1 = c.maxDepth.toNat := by
  unfold Setting.levels
  omega

lemma typeField_trips (quiet : Side.types.Quiet s references) {p : Property} :
    Side.types.Trips s (cuts s parent (c.levels 1) p.schema)
      (typeField c references parent p.name p.required p.schema) w
      fun field _ => CutAt (c.levels 1) p.schema field.type :=
  (typeAt_trips quiet (some p.name) 1 p.schema w).bind_quiet fun _ _ ht => .pure ht

/-- The declaration of the type of a schema that is no enumeration, before the file is given it. -/
def typeDeclaration (c : Setting) (references : ReferenceTypes) (name : String) (n : SchemaNode) :
    Emit TypeDeclaration := do
  let identifier ← typeName c name
  match n with
  | .object (p :: ps) _ _ =>
    let fields ← (p :: ps).mapM fun p => typeField c references name p.name p.required p.schema
    return .interface_ identifier fields n.description
  | _ =>
    let type ← typeAt c none references name none 1 n
    return .alias identifier type n.description

lemma declareSchemaType_eq (plain : n.isEnumeration = false) :
    declareSchemaType c references name n =
      typeDeclaration c references name n >>= declareType c := by
  unfold declareSchemaType typeDeclaration
  rw [bind_assoc]
  refine bind_congr fun identifier => ?_
  split
  · cases plain
  · simp only [bind_assoc, pure_bind]
  · next no_enum no_record =>
    split
    · exact absurd rfl (no_record _ _ _ _)
    · simp only [bind_assoc, pure_bind]

/-- The declaration of a schema has `any` where the guard has replaced something inside it. -/
lemma typeDeclaration_trips (quiet : Side.types.Quiet s references)
    (plain : n.isEnumeration = false) :
    Side.types.Trips s (share s name (typeCuts c n).length) (typeDeclaration c references name n) w
      fun d _ => Replaced n (typeCuts c n) d.shape := by
  unfold typeDeclaration
  refine typeName_trips.quiet_bind fun x w' _ => ?_
  split
  · next p ps additional notes =>
    have cuts_fields : typeCuts c (.object (p :: ps) additional notes) =
        (SchemaNode.object (p :: ps) additional notes).atLevel (c.levels 1 + 1) := by
      rw [levels_one]
      rfl
    have number : share s name (typeCuts c (.object (p :: ps) additional notes)).length =
        propertyCuts s name (c.levels 1) (p :: ps) := by
      rw [cuts_fields, ← cuts_object]
      rfl
    rw [number]
    refine (Side.Trips.mapM (p :: ps) w' fun p _ _ => typeField_trips quiet).bind_quiet
      fun fields _ hf => .pure ?_
    rw [cuts_fields]
    refine (cutAt_object ?_).replaced
    exact List.forall₂_map_right_iff.2 hf
  · next no_record =>
    have cuts_root : typeCuts c n = n.atLevel (c.levels 1) := by
      rw [levels_one]
      cases n with
      | enumeration values notes => cases plain
      | object ps additional notes => cases ps with
        | nil => rfl
        | cons p ps => exact absurd rfl (no_record p ps additional notes)
      | _ => rfl
    rw [cuts_root]
    exact (typeAt_trips quiet none 1 n w').bind_quiet fun _ _ ht => .pure ht.replaced

lemma declareSchemaType_trips (quiet : Side.types.Quiet s references) :
    Side.types.Trips s (share s name (typeCuts c n).length) (declareSchemaType c references name n) w
      fun _ _ => True := by
  cases plain : n.isEnumeration with
  | false =>
    rw [declareSchemaType_eq plain]
    exact (typeDeclaration_trips quiet plain).bind_quiet fun _ _ _ => declareType_trips
  | true =>
    obtain ⟨values, notes, rfl⟩ := SchemaNode.exists_of_isEnumeration plain
    have no_cuts : typeCuts c (.enumeration values notes) = [] := rfl
    rw [no_cuts, List.length_nil, share_zero]
    exact typeName_trips.quiet_bind fun _ _ _ => ensureTypeEnum_trips

/-- An emission of other schemas is quiet about `s`. -/
def Side.QuietBeside (W : Side) (s : String) (emit : String → SchemaNode → Emit Unit) : Prop :=
  ∀ name n w, name ≠ s → W.Trips s 0 (emit name n) w fun _ _ => True

variable {emit : String → SchemaNode → Emit Unit} {budget : Nat}

lemma referenceType_quiet (quiet : Side.types.QuietBeside s emit) :
    Side.types.Quiet s (referenceType c namespace_ emit) := by
  intro pointer notes w
  refine Side.Trips.quiet_bind (Q := fun _ _ => True) (.liftM fun _ _ => trivial) fun e w' _ => ?_
  refine .get_bind (.ite (fun _ => .pure trivial) fun _ => ?_)
  refine Side.Trips.quiet_bind (Q := fun _ _ => True) ?_ fun _ _ _ => .pure trivial
  refine .ite (fun _ => ?_) fun _ => ?_
  · exact typeName_trips.quiet_bind fun x _ _ => commonType_trips.weaken fun _ _ _ => trivial
  · refine Side.Trips.quiet_bind (Q := fun _ _ => True) (fun begun => ?_) fun _ _ _ =>
      typeName_trips.quiet_bind fun _ _ _ => .pure trivial
    -- `s` is begun, so that nobody demands it again.
    refine Side.Trips.get_bind (.ite (fun new => quiet _ _ _ ?_) fun _ => .pure trivial) begun
    rintro rfl
    simp [show e.1 ∈ w'.types.processed from begun] at new

/-- Once a schema is begun, the guard makes one report for each position that it replaces in it. -/
lemma emitTypeWithin_counts (quiet : Side.types.QuietBeside s (emitTypeWithin c budget))
    (begun : s ∈ w.types.processed ++ [name]) :
    Meets (emitTypeWithin c (budget + 1) name n) w
      (fun _ w' => s ∈ Side.types.begun w' ∧
        Side.types.trips s w' = Side.types.trips s w + share s name (typeCuts c n).length)
      fun _ _ => True := by
  refine meets_bind.2 (meets_modify.2 (Meets.imp (Side.Trips.caught (R := fun _ _ => True)
    (declareSchemaType_trips (referenceType_quiet quiet)) (fun _ _ _ => .pure trivial)
    (fun e w' => ?_) begun) ?_ ?_))
  · exact meets_bind.2 (meets_modify.2 (meets_throw.2 trivial))
  · exact fun _ _ ⟨hs, ht, _⟩ => ⟨hs, ht⟩
  · exact fun _ _ he => he

lemma emitTypeWithin_quiet : ∀ budget, Side.types.QuietBeside s (emitTypeWithin c budget)
  | 0 => fun _ _ _ _ => .pure trivial
  | budget + 1 => fun name n w other begun => by
    refine (emitTypeWithin_counts (emitTypeWithin_quiet budget)
      (List.mem_append_left _ begun)).imp ?_ fun _ _ he => he
    rintro _ w' ⟨begun', trips⟩
    exact ⟨begun', by rw [trips, share_of_ne other], trivial⟩

/-! ### Validators -/

variable {referenced : ReferenceValidators} {path : List String}

lemma declareValidator_trips {d : ValidatorDeclaration} :
    Side.validators.Trips s 0 (declareValidator c d) w fun _ _ => True := by
  refine Side.Trips.quiet_bind (Q := fun _ _ => True) (.liftM fun _ _ => trivial) fun written w' _ => ?_
  exact .modify (by simp [Side.begun]) rfl trivial

lemma ensureValidatorEnum_trips :
    Side.validators.Trips s 0 (ensureValidatorEnum c name values) w fun _ _ => True :=
  .get_bind (.ite (fun _ => .pure trivial) fun _ => declareValidator_trips)

lemma noteCommonValidators_trips :
    Side.validators.Trips s 0 noteCommonValidators w fun _ _ => True :=
  .modify (fun _ h => h) rfl trivial

lemma enumValidator_trips :
    Side.validators.Trips s 0 (enumValidator c parent property values) w
      fun v _ => v.shape.isAny = false := by
  refine inlineEnumName_trips.quiet_bind fun x w' _ => .ite (fun _ => ?_) fun _ => ?_
  · exact noteCommonValidators_trips.quiet_bind fun _ _ _ => .pure rfl
  · exact ensureValidatorEnum_trips.quiet_bind fun _ _ _ => .pure rfl

lemma writable_trips {v : Validator} :
    W.Trips s 0 (orDigitsFault v.writable) w fun v' _ => v' = v :=
  .liftM fun _ h => eq_of_writable (Contract.mapError_eq_ok h)

lemma constName_trips {t : String} : W.Trips s 0 (constName c t) w fun _ _ => True :=
  .map (typeName_trips.weaken fun _ _ _ => trivial)

lemma nestedValidator_trips {nullable : Bool} {validator : Emit Validator}
    (h : ∀ k, c.levels (depth + 1) = k → Side.validators.Trips s (cuts s parent (k + 1) n) validator w
      fun v _ => CutAt (k + 1) n v.shape) :
    Side.validators.Trips s (cuts s parent (c.levels depth) n)
      (nestedValidator c parent depth nullable validator) w
      fun v _ => CutAt (c.levels depth) n v.shape :=
  nested_trips rfl rfl Validator.shape_withNull h

/-- The fields of an object have the shapes of the validators of its properties. -/
lemma forall₂_shapes {ps : List Property} {fs : List Field}
    (h : List.Forall₂ (fun p (f : Field) => CutAt k p.schema f.validator.shape) ps fs) :
    List.Forall₂ (fun p (m : Member) => CutAt k p.schema m.type) ps (Field.shapes fs) := by
  induction h with
  | nil => exact .nil
  | @cons _ f _ _ hf _ ih =>
    obtain ⟨key, optional, v⟩ := f
    exact .cons hf ih

mutual

/-- The guard of the validators reports on a schema that is not composed what it replaces, and on
every other schema as much as it likes. -/
lemma validatorAt_trips (quiet : Side.validators.Quiet s referenced) :
    ∀ (property : Option String) (depth : Int) (n : SchemaNode) (w : Workspace),
    (parent = s → n.isComposed = false) →
    Side.validators.Trips s (cuts s parent (c.levels depth) n)
      (validatorAt c referenced parent property depth n) w
      fun v _ => CutAt (c.levels depth) n v.shape
  | _, _, .primitive kind constraints _, _, _ => by
    rw [validatorAt]
    refine nestedValidator_trips fun _ _ => leaf_trips rfl (writable_trips.weaken ?_)
    rintro v _ rfl -
    rw [scalar_shape]
    exact isAny_scalarType
  | _, _, .enumeration _ _, _, _ => by
    rw [validatorAt]
    exact nestedValidator_trips fun _ _ => leaf_trips rfl (enumValidator_trips.weaken fun _ _ h _ => h)
  | _, depth, .array items _ _, w, plain => by
    rw [validatorAt]
    refine nestedValidator_trips fun k hk => ?_
    rw [cuts_array, ← hk]
    refine (validatorAt_trips quiet none (depth + 1) items w plain).bind_quiet fun v _ hv =>
      writable_trips.weaken ?_
    rintro _ _ rfl
    exact cutAt_array hv
  | _, _, .object [] none _, _, _ => by
    rw [validatorAt]
    exact nestedValidator_trips fun _ _ => leaf_trips rfl (.pure fun _ => rfl)
  | _, depth, .object [] (some value) _, w, plain => by
    rw [validatorAt]
    refine nestedValidator_trips fun k hk => ?_
    rw [cuts_record, ← hk]
    exact .map ((validatorAt_trips quiet none (depth + 1) value w plain).weaken
      fun _ _ hv => cutAt_record hv)
  | _, depth, .object (p :: ps) _ _, w, plain => by
    rw [validatorAt]
    · refine nestedValidator_trips fun k hk => ?_
      rw [cuts_object, ← hk]
      exact .map ((fieldsAt_trips quiet (depth + 1) (p :: ps) w plain).weaken
        fun _ _ hfs => cutAt_object (forall₂_shapes hfs))
    all_goals simp
  | _, _, .reference pointer notes, w, _ => by
    rw [validatorAt]
    exact nestedValidator_trips fun _ _ => leaf_trips rfl
      ((quiet pointer notes w).weaken fun _ _ _ => nofun)
  | property, depth, .oneOf ns _, w, plain | property, depth, .anyOf ns _, w, plain
  | property, depth, .allOf ns _, w, plain => by
    rw [validatorAt]
    have other : parent ≠ s := fun h => nomatch plain h
    exact nestedValidator_trips fun _ _ => leaf_trips rfl
      (.map ((validatorsAt_trips quiet other property (depth + 1) ns w).weaken fun _ _ _ => nofun))
  | _, _, .unknown _, _, _ => by
    rw [validatorAt]
    exact nestedValidator_trips fun _ _ => leaf_trips rfl (.pure nofun)

lemma validatorsAt_trips (quiet : Side.validators.Quiet s referenced) (other : parent ≠ s) :
    ∀ (property : Option String) (depth : Int) (ns : List SchemaNode) (w : Workspace),
    Side.validators.Trips s 0 (validatorsAt c referenced parent property depth ns) w fun _ _ => True
  | _, _, [], _ => by
    rw [validatorsAt]
    exact .pure trivial
  | property, depth, n :: rest, w => by
    rw [validatorsAt]
    have here := validatorAt_trips quiet property depth n w fun h => absurd h other
    rw [cuts, share_of_ne other] at here
    exact here.quiet_bind fun v w' _ =>
      (validatorsAt_trips quiet other property depth rest w').quiet_bind fun _ _ _ => .pure trivial

lemma fieldsAt_trips (quiet : Side.validators.Quiet s referenced) :
    ∀ (depth : Int) (ps : List Property) (w : Workspace),
    (parent = s → Property.areComposed ps = false) →
    Side.validators.Trips s (propertyCuts s parent (c.levels depth) ps)
      (fieldsAt c referenced parent depth ps) w
      fun fs _ => List.Forall₂ (fun p f => CutAt (c.levels depth) p.schema f.validator.shape) ps fs
  | _, [], _, _ => by
    rw [fieldsAt]
    exact .pure .nil
  | depth, ⟨name, _, n⟩ :: rest, w, plain => by
    have both (h : parent = s) := Bool.or_eq_false_iff.1 (plain h)
    rw [fieldsAt]
    refine (validatorAt_trips quiet (some name) depth n w fun h => (both h).1).bind fun v w' hv => ?_
    exact (fieldsAt_trips quiet depth rest w' fun h => (both h).2).bind_quiet fun fs _ hfs =>
      .pure (.cons hv hfs)

end

/-- The positions inside a schema that the guard replaces in its validator. -/
def validatorCuts (c : Setting) (n : SchemaNode) : List Position :=
  if n.isEnumeration then [] else n.atLevel c.maxDepth.toNat

/-- The declaration of the validator of a schema that is no enumeration, before the file is given
it. -/
def validatorDeclaration (c : Setting) (referenced : ReferenceValidators) (name : String)
    (n : SchemaNode) : Emit ValidatorDeclaration := do
  let validator ← validatorAt c referenced name none 1 n
  let const ← constName c name
  let annotated := (← get).deferredTargets.contains name
  return .schema const validator annotated n.description

lemma declareSchemaValidator_eq (plain : n.isEnumeration = false) :
    declareSchemaValidator c referenced name n =
      validatorDeclaration c referenced name n >>= declareValidator c := by
  unfold declareSchemaValidator validatorDeclaration
  split
  · cases plain
  · simp only [bind_assoc, pure_bind]

lemma validatorDeclaration_trips (quiet : Side.validators.Quiet s referenced)
    (enum : n.isEnumeration = false) (plain : name = s → n.isComposed = false) :
    Side.validators.Trips s (share s name (validatorCuts c n).length)
      (validatorDeclaration c referenced name n) w
      fun d _ => Replaced n (validatorCuts c n) d.shape := by
  have cuts_root : validatorCuts c n = n.atLevel (c.levels 1) := by
    rw [validatorCuts, enum, levels_one]
    rfl
  rw [cuts_root]
  refine (validatorAt_trips quiet none 1 n w plain).bind_quiet fun v _ hv => ?_
  exact constName_trips.quiet_bind fun _ _ _ => .get_bind (.pure hv.replaced)

lemma declareSchemaValidator_trips (quiet : Side.validators.Quiet s referenced)
    (plain : name = s → n.isComposed = false) :
    Side.validators.Trips s (share s name (validatorCuts c n).length)
      (declareSchemaValidator c referenced name n) w fun _ _ => True := by
  cases enum : n.isEnumeration with
  | false =>
    rw [declareSchemaValidator_eq enum]
    exact (validatorDeclaration_trips quiet enum plain).bind_quiet fun _ _ _ => declareValidator_trips
  | true =>
    obtain ⟨values, notes, rfl⟩ := SchemaNode.exists_of_isEnumeration enum
    have no_cuts : validatorCuts c (.enumeration values notes) = [] := rfl
    rw [no_cuts, List.length_nil, share_zero]
    exact typeName_trips.quiet_bind fun _ _ _ => ensureValidatorEnum_trips

lemma referenceValidator_quiet (quiet : Side.validators.QuietBeside s emit) :
    Side.validators.Quiet s (referenceValidator c path emit) := by
  intro pointer notes w
  refine Side.Trips.quiet_bind (Q := fun _ _ => True) (.liftM fun _ _ => trivial) fun e w' _ => ?_
  refine .get_bind (.ite (fun _ => .pure trivial) fun _ => ?_)
  refine .ite (fun _ => ?_) fun _ => .ite (fun _ => ?_) fun _ => ?_
  · exact noteCommonValidators_trips.quiet_bind fun _ _ _ =>
      constName_trips.quiet_bind fun _ _ _ => .pure trivial
  · refine Side.Trips.quiet_bind (Q := fun _ _ => True) (.modify (fun _ h => h) rfl trivial)
      fun _ _ _ => constName_trips.quiet_bind fun _ _ _ => .pure trivial
  · refine Side.Trips.quiet_bind (Q := fun _ _ => True) (fun begun => ?_) fun _ _ _ =>
      constName_trips.quiet_bind fun _ _ _ => .pure trivial
    refine Side.Trips.get_bind (.ite (fun new => quiet _ _ _ ?_) fun _ => .pure trivial) begun
    rintro rfl
    simp [show e.1 ∈ w'.validators.processed from begun] at new

lemma emitValidatorWithin_counts
    (quiet : Side.validators.QuietBeside s (emitValidatorWithin c budget (name :: path)))
    (plain : name = s → n.isComposed = false) (begun : s ∈ w.validators.processed ++ [name]) :
    Meets (emitValidatorWithin c (budget + 1) path name n) w
      (fun _ w' => s ∈ Side.validators.begun w' ∧ Side.validators.trips s w' =
        Side.validators.trips s w + share s name (validatorCuts c n).length)
      fun _ _ => True := by
  refine meets_bind.2 (meets_modify.2 (Meets.imp (Side.Trips.caught (R := fun _ _ => True)
    (declareSchemaValidator_trips (referenceValidator_quiet quiet) plain)
    (fun _ _ _ => .pure trivial) (fun e w' => ?_) begun) ?_ ?_))
  · exact meets_bind.2 (meets_modify.2 (meets_throw.2 trivial))
  · exact fun _ _ ⟨hs, ht, _⟩ => ⟨hs, ht⟩
  · exact fun _ _ he => he

lemma emitValidatorWithin_quiet :
    ∀ budget path, Side.validators.QuietBeside s (emitValidatorWithin c budget path)
  | 0, _ => fun _ _ _ _ => .pure trivial
  | budget + 1, path => fun name n w other begun => by
    refine (emitValidatorWithin_counts (emitValidatorWithin_quiet budget (name :: path))
      (fun h => absurd h other) (List.mem_append_left _ begun)).imp ?_ fun _ _ he => he
    rintro _ w' ⟨begun', trips⟩
    exact ⟨begun', by rw [trips, share_of_ne other], trivial⟩

/-! ### Both files -/

/-- A call that declares the type of `s` from the node `n`: one from outside, which takes the node
of the description unless it is given one, or one for the sake of a reference. -/
inductive TypeEmitted (c : Setting) (s : String) (n : SchemaNode) (w w' : Workspace) : Prop
  | outer {node : Option SchemaNode} : s ∉ w.types.processed →
    node.or (c.description.schema? s) = some n → outcome (emitType c s node) w = (.ok (), w') →
    TypeEmitted c s n w w'
  | inner {budget : Nat} : outcome (emitTypeWithin c (budget + 1) s n) w = (.ok (), w') →
    TypeEmitted c s n w w'

/-- A call that declares the validator of `s` from the node `n`. -/
inductive ValidatorEmitted (c : Setting) (s : String) (n : SchemaNode) (w w' : Workspace) : Prop
  | outer {node : Option SchemaNode} : s ∉ w.validators.processed →
    node.or (c.description.schema? s) = some n →
    outcome (emitValidator c s node) w = (.ok (), w') → ValidatorEmitted c s n w w'
  | inner {budget : Nat} {path : List String} :
    outcome (emitValidatorWithin c (budget + 1) path s n) w = (.ok (), w') →
    ValidatorEmitted c s n w w'

/-- The workspace in which a file has begun a schema. -/
def Side.start : Side → String → Workspace → Workspace
  | types, s, w => { w with types.processed := w.types.processed ++ [s] }
  | validators, s, w => { w with validators.processed := w.validators.processed ++ [s] }

lemma Side.mem_begun_start : s ∈ W.begun (W.start s w) := by
  cases W <;> simp [Side.begun, Side.start]

/-- Between two workspaces, a file begins the schema `s`, a declaration of it with the shape `t` is
made ready, and the file is given the declaration. -/
def Side.Gives (c : Setting) (s : String) (n : SchemaNode) (w : Workspace) (t : TypeExpr)
    (w' : Workspace) : Side → Prop
  | types => ∃ budget d u,
    outcome (typeDeclaration c (referenceType c none (emitTypeWithin c budget)) s n)
      (types.start s w) = (.ok d, u) ∧
    outcome (declareType c d) u = (.ok (), w') ∧ d.shape = t
  | validators => ∃ budget path d u,
    outcome (validatorDeclaration c
      (referenceValidator c (s :: path) (emitValidatorWithin c budget (s :: path))) s n)
      (validators.start s w) = (.ok d, u) ∧
    outcome (declareValidator c d) u = (.ok (), w') ∧ d.shape = t

/-- Between two workspaces, the guard of a file has reported `cuts` as many times as there are
positions in it, and the file has been given a declaration of the schema in which these positions
have been replaced and nothing else. An enumeration has nothing inside to be replaced. -/
structure Side.Guards (W : Side) (c : Setting) (s : String) (n : SchemaNode) (cuts : List Position)
    (w w' : Workspace) : Prop where
  reports : W.trips s w' = W.trips s w + cuts.length
  declared : n.isEnumeration = false → ∃ t, W.Gives c s n w t w' ∧ Replaced n cuts t

variable {v v' : Workspace}

lemma outcome_nodeOf {node : Option SchemaNode}
    (known : node.or (c.description.schema? s) = some n) :
    outcome (nodeOf c s node) w = (.ok n, w) := by
  cases node with
  | some m => rw [Option.some_or, Option.some.injEq] at known; rw [known]; rfl
  | none =>
    rw [Option.none_or] at known
    rw [nodeOf, Description.schema, known]
    rfl

/-- A call from outside for a schema that has not been begun is like one for a reference. -/
lemma TypeEmitted.exists_within (h : TypeEmitted c s n w w') :
    ∃ budget, outcome (emitTypeWithin c (budget + 1) s n) w = (.ok (), w') := by
  cases h with
  | inner run => exact ⟨_, run⟩
  | outer unbegun known run =>
    refine ⟨c.description.schemas.length, ?_⟩
    rw [emitType, outcome_get_bind, if_neg (by simpa using unbegun), outcome_bind,
      outcome_nodeOf known] at run
    exact run

lemma ValidatorEmitted.exists_within (h : ValidatorEmitted c s n w w') :
    ∃ budget path, outcome (emitValidatorWithin c (budget + 1) path s n) w = (.ok (), w') := by
  cases h with
  | inner run => exact ⟨_, _, run⟩
  | outer unbegun known run =>
    refine ⟨c.description.schemas.length, [], ?_⟩
    rw [emitValidator, outcome_get_bind, if_neg (by simpa using unbegun), outcome_bind,
      outcome_nodeOf known] at run
    exact run

lemma TypeEmitted.guards (h : TypeEmitted c s n w w') :
    Side.types.Guards c s n (typeCuts c n) w w' := by
  obtain ⟨budget, run⟩ := h.exists_within
  have quiet := @emitTypeWithin_quiet c s budget
  have begun := @Side.mem_begun_start .types s w
  constructor
  · obtain ⟨-, reports⟩ := (emitTypeWithin_counts quiet begun).of_ok run
    rw [reports, share_self]
  · intro enum
    obtain ⟨⟨⟩, u, declared, ⟨⟩⟩ := exists_of_caught (outcome_modify_bind.symm.trans run)
      fun e w' => meets_bind.2 (meets_modify.2 (meets_throw.2 trivial))
    rw [declareSchemaType_eq enum] at declared
    obtain ⟨d, u, made, given⟩ := exists_of_bind declared
    obtain ⟨-, -, replaced⟩ :=
      (typeDeclaration_trips (referenceType_quiet quiet) enum begun).of_ok made
    exact ⟨d.shape, ⟨budget, d, u, made, given, rfl⟩, replaced⟩

lemma ValidatorEmitted.guards (plain : n.isComposed = false) (h : ValidatorEmitted c s n w w') :
    Side.validators.Guards c s n (validatorCuts c n) w w' := by
  obtain ⟨budget, path, run⟩ := h.exists_within
  have quiet := @emitValidatorWithin_quiet c s budget (s :: path)
  have begun := @Side.mem_begun_start .validators s w
  constructor
  · obtain ⟨-, reports⟩ := (emitValidatorWithin_counts quiet (fun _ => plain) begun).of_ok run
    rw [reports, share_self]
  · intro enum
    obtain ⟨⟨⟩, u, declared, ⟨⟩⟩ := exists_of_caught (outcome_modify_bind.symm.trans run)
      fun e w' => meets_bind.2 (meets_modify.2 (meets_throw.2 trivial))
    rw [declareSchemaValidator_eq enum] at declared
    obtain ⟨d, u, made, given⟩ := exists_of_bind declared
    obtain ⟨-, -, replaced⟩ := (validatorDeclaration_trips (referenceValidator_quiet quiet) enum
      (fun _ => plain) begun).of_ok made
    exact ⟨d.shape, ⟨budget, path, d, u, made, given, rfl⟩, replaced⟩

/-- The same positions below the root are replaced in the type and in the validator of a schema,
unless it is an object with properties that is nested down to the limit. -/
lemma cuts_agree_iff (plain : n.isComposed = false) :
    (∀ p ≠ [], p ∈ typeCuts c n ↔ p ∈ validatorCuts c n) ↔
      (n.isRecord = true → 1 + n.nesting ≤ c.maxDepth) := by
  cases record : n.isRecord with
  | false => simp [typeCuts, validatorCuts, record]
  | true =>
    have enum := SchemaNode.isEnumeration_of_isRecord record
    have fields : typeCuts c n = n.atLevel (c.maxDepth.toNat + 1) := by
      simp [typeCuts, enum, record]
    have root : validatorCuts c n = n.atLevel c.maxDepth.toNat := by
      simp [validatorCuts, enum]
    rw [fields, root]
    constructor
    · intro same _
      by_contra deep
      -- The limit is a level of the schema. Validators are cut there, or else types right below.
      have reached : max c.maxDepth.toNat 1 ≤ n.nesting := by
        have := SchemaNode.one_le_nesting record
        omega
      obtain ⟨p, hp⟩ := List.exists_mem_of_ne_nil _ ((SchemaNode.atLevel_ne_nil plain).2 reached)
      obtain ⟨level, inhabited⟩ := SchemaNode.mem_atLevel.1 hp
      have inside : p ≠ [] := by
        rintro rfl
        rw [List.length_nil] at level
        omega
      have same := same p inside
      simp only [SchemaNode.mem_atLevel, inhabited, and_true] at same
      omega
    · intro shallow p _
      have shallow := shallow rfl
      have nothing {k : Nat} (h : n.nesting < k) : n.atLevel k = [] := by
        by_contra some_
        exact Nat.not_le_of_lt h ((SchemaNode.atLevel_ne_nil plain).1 some_)
      rw [nothing (by omega), nothing (by omega)]

/-- Whatever the limit is, the guards of both files replace the positions on one level of a schema
without unions and intersections, report each of them once and replace nothing else. Apart from the
root, they replace the same positions, except of an object with properties that is nested down to the
limit: of such an object the guard of the validators replaces what is one level further out. -/
theorem guards_agree_iff (plain : n.isComposed = false) (typed : TypeEmitted c s n v v')
    (validated : ValidatorEmitted c s n w w') :
    Side.types.Guards c s n (typeCuts c n) v v' ∧
      Side.validators.Guards c s n (validatorCuts c n) w w' ∧
      ((∀ p ≠ [], p ∈ typeCuts c n ↔ p ∈ validatorCuts c n) ↔
        (n.isRecord = true → 1 + n.nesting ≤ c.maxDepth)) :=
  ⟨typed.guards, validated.guards plain, cuts_agree_iff plain⟩

/-- A box has labels, which are two levels inside, and perhaps another box. -/
def box : SchemaNode :=
  .object [
    ⟨"labels", true, .array (.primitive .string {} {}) {} {}⟩,
    ⟨"inner", false, .reference "#/components/schemas/Box" {}⟩] none {}

/-- Boxes of which one level is looked into. -/
def boxes : Setting where
  description := { schemas := [("Box", box)] }
  maxDepth := 1

/-- The interface of boxes has lists of anything, and their validator has anything for the lists and
for the other box. -/
theorem boxes_disagree : ∃ v' w', outcome (emitType boxes "Box" none) {} = (.ok (), v') ∧
    outcome (emitValidator boxes "Box" none) {} = (.ok (), w') ∧
    Side.types.Guards boxes "Box" box [[.property 0, .item]] {} v' ∧
    Side.validators.Guards boxes "Box" box [[.property 0], [.property 1]] {} w' ∧
    ¬ ∀ p ≠ [], p ∈ typeCuts boxes box ↔ p ∈ validatorCuts boxes box := by
  obtain ⟨⟨⟩, typed⟩ := exists_of_isOk (show (outcome (emitType boxes "Box" none) {}).1.isOk = true by
    decide +kernel)
  obtain ⟨⟨⟩, validated⟩ := exists_of_isOk
    (show (outcome (emitValidator boxes "Box" none) {}).1.isOk = true by decide +kernel)
  have known : (none : Option SchemaNode).or (boxes.description.schema? "Box") = some box := rfl
  obtain ⟨types, validators, agree⟩ := guards_agree_iff (by rfl)
    (TypeEmitted.outer (by decide) known typed) (.outer (by decide) known validated)
  refine ⟨_, _, typed, validated, types, validators, fun same => ?_⟩
  have deep : 1 + box.nesting ≤ boxes.maxDepth := agree.1 same rfl
  exact absurd deep (by decide)

end ClientGen.Emission
