import ClientGen.Proofs.Emission.Steps

/-!
# Steps of emitting validators

Emission of validators takes steps, and what comes of a schema is a validator of it. Only a schema
that is no enumeration leads to others while it is lowered, and so no enumeration is ever looked up
only when it is used.
-/

namespace ClientGen.Emission

open Api Enumeration Naming Output Schema Template TypeScript

variable {c : Setting} {R : Requests c} {w w' : Workspace} {property : Option String}
  {name parent : String} {values path : List String} {depth : Int} {node : SchemaNode}
  {references : ReferenceValidators} {emit : String → SchemaNode → Emit Unit}

/-! ### Declarations -/

lemma declareValidator_takes {d : ValidatorDeclaration}
    (wanted : ValidatorWanted R w.registry w.validators d) : R.Steps (declareValidator c d) w := by
  unfold declareValidator
  refine Requests.Takes.bind (Q := fun d' w' => d'.declaration = d ∧ w' = w)
    (.orRenderError fun d' hd => ⟨eq_of_writeDeclaration hd, rfl⟩) ?_
  rintro d' w' - ⟨rfl, rfl⟩
  exact .modify (.declareValidator wanted) trivial

lemma ensureValidatorEnum_takes
    (wanted : ValidatorWanted R w.registry w.validators
      (.enumeration (validatorName name) values)) :
    R.Steps (ensureValidatorEnum c name values) w :=
  .get_bind (.ite (fun _ => .pure trivial) fun _ => declareValidator_takes wanted)

lemma noteCommonValidators_takes :
    R.Takes noteCommonValidators w fun _ w' => w'.registry = w.registry :=
  .modify .noteValidators rfl

/-- The validator of an enumeration inside a schema is the constant of its name. -/
lemma enumValidator_takes (asks : R.asks (.inline values (contextOf parent property))) :
    R.Takes (enumValidator c parent property values) w fun v w' =>
      ∃ x, EnumNamed w'.registry parent property values x ∧
        v = .named (through c.commonDeclarations none x) (validatorName x) := by
  unfold enumValidator
  refine (inlineEnumName_takes asks).bind fun x w' _ hx => ?_
  refine .ite (fun h => ?_) fun h => ?_
  · refine noteCommonValidators_takes.bind fun _ w'' _ hr => .pure ⟨x, hr ▸ hx, ?_⟩
    rw [through, if_pos h]
  · refine (ensureValidatorEnum_takes (.enumeration asks hx)).bind fun _ w'' steps _ => .pure ?_
    refine ⟨x, hx.mono steps.later.registry, ?_⟩
    rw [through, if_neg h]

lemma constName_takes {s : String} (known : c.description.schema? s = some node) :
    R.Takes (constName c s) w fun k w' =>
      ∃ x, c.identifier? w'.registry s = some x ∧ k = validatorName x :=
  .map ((typeName_takes known).weaken fun x _ _ hx => ⟨x, hx, rfl⟩)

/-! ### References -/

/-- What is emitted for the sake of a reference takes steps. -/
def EmitsValidators (R : Requests c) (emit : String → SchemaNode → Emit Unit) : Prop :=
  ∀ s n w, c.description.schema? s = some n → R.Steps (emit s n) w

/-- None of the schemas that are being lowered is an enumeration. -/
def NoEnumeration (c : Setting) (path : List String) : Prop :=
  ∀ s ∈ path, ∀ n, c.description.schema? s = some n → n.isEnumeration = false

lemma declaredValidator_takes {s : String} {finish : Validator → Validator}
    (known : c.description.schema? s = some node) (plain : NoEnumeration c path)
    (emits : EmitsValidators R emit) :
    R.Takes (declaredValidator c path emit finish s node) w fun v w' =>
      ∃ x, c.identifier? w'.registry s = some x ∧
        (s ∉ c.commonSchemas ∧ node.isEnumeration = false ∧ v = .deferred (validatorName x) ∨
          v = finish (.named (through c.commonSchemas none s) (validatorName x))) := by
  refine .ite (fun h => ?_) fun h => .ite (fun hp => ?_) fun _ => ?_
  · refine Requests.Takes.bind (Q := fun _ _ => True)
      (noteCommonValidators_takes.weaken fun _ _ _ _ => trivial) fun _ w' _ _ => ?_
    refine (constName_takes known).bind fun k w'' _ ⟨x, hx, hk⟩ => .pure ⟨x, hx, .inr ?_⟩
    rw [hk, through, if_pos h]
  · refine Requests.Takes.bind (Q := fun _ _ => True) (.modify .defer trivial) fun _ w' _ _ => ?_
    refine (constName_takes known).bind fun k w'' _ ⟨x, hx, hk⟩ => .pure ⟨x, hx, .inl ?_⟩
    exact ⟨by simpa using h, plain s (by simpa using hp) node known, by rw [hk]⟩
  · refine Requests.Takes.bind (Q := fun _ _ => True) ?_ fun _ w' _ _ => ?_
    · exact .get_bind (.ite (fun _ => emits s node w known) fun _ => .pure trivial)
    · refine (constName_takes known).bind fun k w'' _ ⟨x, hx, hk⟩ => .pure ⟨x, hx, .inr ?_⟩
      rw [hk, through, if_neg h]

lemma referenceValidator_takes {pointer : String} {notes : Notes} (plain : NoEnumeration c path)
    (emits : EmitsValidators R emit)
    (broken : ∀ e, c.description.resolve pointer = .error e → R.faulty e) :
    R.Takes (referenceValidator c path emit pointer notes) w fun v w' =>
      ReferenceValidatorOf c w'.registry w'.validators.failed pointer notes v := by
  unfold referenceValidator
  refine Requests.Takes.bind (Q := fun p w' => c.description.resolve pointer = .ok p ∧ w' = w)
    (.orSchemaError (fun p hp => ⟨hp, rfl⟩) broken) ?_
  rintro ⟨s, target⟩ w' - ⟨hp, rfl⟩
  refine .get_bind (.ite (fun hf => .pure ⟨s, target, hp, .inl ⟨by simpa using hf, rfl⟩⟩) fun _ => ?_)
  exact (declaredValidator_takes (resolve_eq_ok hp) plain emits).weaken
    fun v w'' _ hv => ⟨s, target, hp, .inr hv⟩

/-! ### Validators -/

lemma nestedValidator_takes {nullable : Bool} {validator : Emit Validator}
    {lowered : Workspace → Validator → Prop}
    (h : R.Takes validator w fun v w' => lowered w' v) :
    R.Takes (nestedValidator c parent depth nullable validator) w fun v w' =>
      Nested c depth nullable .any Validator.withNull (lowered w') v := by
  refine .ite (fun deep => ?_) fun fits => ?_
  · refine Requests.Takes.bind (Q := fun _ _ => True) .note fun _ _ _ _ => .pure ?_
    rw [Nested, if_pos deep]
  · refine h.bind fun v w' _ hv => .pure ?_
    rw [Nested, if_neg fits]
    exact ⟨v, hv, rfl⟩

/-- What each reference inside a schema comes to. -/
def ValidatorsFound (R : Requests c) (references : ReferenceValidators) (pointers : List String)
    (w : Workspace) : Prop :=
  ∀ pointer ∈ pointers, ∀ notes w', Steps R w w' → R.Takes (references pointer notes) w'
    fun v w'' => ReferenceValidatorOf c w''.registry w''.validators.failed pointer notes v

lemma ValidatorsFound.later {ps qs : List String} (h : ValidatorsFound R references ps w)
    (steps : Steps R w w') (sub : qs ⊆ ps) : ValidatorsFound R references qs w' :=
  fun p hp notes w'' steps' => h p (sub hp) notes w'' (steps.trans steps')

mutual

lemma validatorAt_takes :
    ∀ (property : Option String) (depth : Int) (n : SchemaNode) (w : Workspace),
    ValidatorsFound R references n.pointers w →
    (∀ e ∈ n.enumerations property, R.asks (.inline e.2 (contextOf parent e.1))) →
    R.Takes (validatorAt c references parent property depth n) w fun v w' =>
      ValidatorOf c w'.registry w'.validators.failed parent property depth n v
  | property, depth, .primitive _ _ _, w, _, _ => by
    rw [validatorAt]
    exact nestedValidator_takes .writable
  | property, depth, .enumeration values _, w, _, asks => by
    rw [validatorAt]
    exact nestedValidator_takes (enumValidator_takes (asks (property, values)
      (by simp [SchemaNode.enumerations])))
  | property, depth, .array items _ _, w, found, asks => by
    rw [validatorAt]
    refine nestedValidator_takes ((validatorAt_takes none (depth + 1) items w found asks).bind
      fun v _ _ hv => Requests.Takes.writable.weaken fun v' _ steps hv' => ⟨v, ?_, hv'⟩)
    exact hv.mono steps.later.registry steps.later.validators.failed
  | property, depth, .object [] none _, w, _, _ => by
    rw [validatorAt]
    exact nestedValidator_takes (.pure rfl)
  | property, depth, .object [] (some value) _, w, found, asks => by
    rw [validatorAt]
    refine nestedValidator_takes (.map ((validatorAt_takes none (depth + 1) value w ?_ asks).weaken
      fun v _ _ hv => ⟨v, hv, rfl⟩))
    exact found.later .refl (by simp [SchemaNode.pointers, SchemaNode.pointersOpt])
  | property, depth, .object (p :: ps) _ _, w, found, asks => by
    rw [validatorAt]
    · exact nestedValidator_takes (.map ((fieldsAt_takes (depth + 1) (p :: ps) w
        (found.later .refl (List.subset_append_left _ _)) asks).weaken
        fun fs _ _ hfs => ⟨fs, hfs, rfl⟩))
    all_goals simp
  | property, depth, .reference pointer notes, w, found, _ => by
    rw [validatorAt]
    exact nestedValidator_takes (found pointer (by simp [SchemaNode.pointers]) notes w .refl)
  | property, depth, .allOf members _, w, found, asks => by
    rw [validatorAt]
    exact nestedValidator_takes (.map ((validatorsAt_takes property (depth + 1) members w found
      asks).weaken fun vs _ _ hvs => ⟨vs, hvs, rfl⟩))
  | property, depth, .oneOf variants _, w, found, asks
  | property, depth, .anyOf variants _, w, found, asks => by
    rw [validatorAt]
    exact nestedValidator_takes (.map ((validatorsAt_takes property (depth + 1) variants w found
      asks).weaken fun vs _ _ hvs => ⟨vs, hvs, rfl⟩))
  | property, depth, .unknown _, w, _, _ => by
    rw [validatorAt]
    exact nestedValidator_takes (.pure rfl)

lemma validatorsAt_takes :
    ∀ (property : Option String) (depth : Int) (ns : List SchemaNode) (w : Workspace),
    ValidatorsFound R references (SchemaNode.pointersAll ns) w →
    (∀ e ∈ SchemaNode.enumerationsAll property ns, R.asks (.inline e.2 (contextOf parent e.1))) →
    R.Takes (validatorsAt c references parent property depth ns) w fun vs w' =>
      ValidatorsOf c w'.registry w'.validators.failed parent property depth ns vs
  | property, depth, [], w, _, _ => by
    simp only [validatorsAt, ValidatorsOf]
    exact .pure rfl
  | property, depth, n :: rest, w, found, asks => by
    simp only [validatorsAt, ValidatorsOf]
    refine (validatorAt_takes property depth n w
      (found.later .refl (List.subset_append_left _ _))
      fun e he => asks e (List.mem_append_left _ he)).bind fun v w' steps hv => ?_
    refine (validatorsAt_takes property depth rest w'
      (found.later steps (List.subset_append_right _ _))
      fun e he => asks e (List.mem_append_right _ he)).bind fun vs w'' steps' hvs => .pure ?_
    exact ⟨v, vs, hv.mono steps'.later.registry steps'.later.validators.failed, hvs, rfl⟩

lemma fieldsAt_takes : ∀ (depth : Int) (ps : List Property) (w : Workspace),
    ValidatorsFound R references (Property.pointersAll ps) w →
    (∀ e ∈ Property.enumerations ps, R.asks (.inline e.2 (contextOf parent e.1))) →
    R.Takes (fieldsAt c references parent depth ps) w fun fs w' =>
      FieldsOf c w'.registry w'.validators.failed parent depth ps fs
  | depth, [], w, _, _ => by
    simp only [fieldsAt, FieldsOf]
    exact .pure rfl
  | depth, ⟨name, required, n⟩ :: rest, w, found, asks => by
    simp only [fieldsAt, FieldsOf]
    refine (validatorAt_takes (some name) depth n w
      (found.later .refl (List.subset_append_left _ _))
      fun e he => asks e (List.mem_append_left _ he)).bind fun v w' steps hv => ?_
    refine (fieldsAt_takes depth rest w' (found.later steps (List.subset_append_right _ _))
      fun e he => asks e (List.mem_append_right _ he)).bind fun fs w'' steps' hfs => .pure ?_
    exact ⟨v, fs, hv.mono steps'.later.registry steps'.later.validators.failed, hfs, rfl⟩

end

/-! ### Schemas -/

/-- A schema that has been begun is declared by its node in the description. -/
lemma declareSchemaValidator_takes (known : c.description.schema? name = some node)
    (begun : name ∈ w.validators.processed)
    (found : node.isEnumeration = false → ValidatorsFound R references node.pointers w) :
    R.Steps (declareSchemaValidator c references name node) w := by
  have wanted {w' : Workspace} {d : ValidatorDeclaration} (steps : Steps R w w')
      (hd : DeclaresValidator c w'.registry w'.validators.failed name d) :
      ValidatorWanted R w'.registry w'.validators d :=
    .schema (steps.later.validators.processed begun) hd
  unfold declareSchemaValidator
  split
  · exact (typeName_takes known).bind fun x w' steps hx =>
      ensureValidatorEnum_takes (wanted steps ⟨_, x, known, hx, rfl⟩)
  · next plain =>
    have hn : node.isEnumeration = false := by
      cases node <;> first | rfl | exact absurd rfl (plain _ _)
    refine (validatorAt_takes none 1 node w (found hn) fun e he => R.place known he).bind
      fun v w' steps hv => ?_
    refine (constName_takes known).bind fun k w'' steps' ⟨x, hx, hk⟩ => .get_bind ?_
    refine declareValidator_takes (wanted (steps.trans steps') ⟨node, x, known, hx, ?_⟩)
    split
    · exact absurd rfl (plain _ _)
    · exact ⟨v, _, hv.mono steps'.later.registry steps'.later.validators.failed, by rw [hk]⟩

/-- The emission of a schema takes steps, however deep it leads. -/
lemma emitValidatorWithin_takes : ∀ budget path, NoEnumeration c path →
    EmitsValidators R (emitValidatorWithin c budget path)
  | 0, _, _ => fun _ _ _ _ => .pure trivial
  | budget + 1, path, plain => fun name node w known => by
    have plain' (hn : node.isEnumeration = false) : NoEnumeration c (name :: path) := by
      intro s hs n hn'
      rcases List.mem_cons.1 hs with rfl | hs
      · rwa [← Option.some.inj (known.symm.trans hn')]
      · exact plain s hs n hn'
    rw [emitValidatorWithin]
    refine Requests.Takes.bind (Q := fun _ w' => name ∈ w'.validators.processed)
      (.modify .beginValidator (by simp)) fun _ w' _ begun => ?_
    refine (Requests.Takes.caught (Q := fun r _ => ∀ e, r = .error e → R.faulty e)
      ((declareSchemaValidator_takes known begun fun hn pointer hp notes w'' _ =>
        referenceValidator_takes (plain' hn) (emitValidatorWithin_takes budget _ (plain' hn))
          fun e => R.broken known hp).weaken fun _ _ _ _ => nofun) ?_).bind
        fun result w'' _ failed => ?_
    · rintro e _ he _ ⟨⟩
      exact he
    · cases result with
      | ok _ => exact .pure trivial
      | error e =>
        refine Requests.Takes.bind (Q := fun _ _ => True)
          (.modify (.failValidator (failed e rfl)) trivial)
          fun _ _ _ _ => meets_throw.2 ⟨.refl, ?_⟩
        rintro _ ⟨⟩
        exact failed e rfl

/-- Asking for the validator of a known schema takes steps. -/
lemma emitValidator_takes (known : c.description.schema? name = some node) :
    R.Steps (emitValidator c name none) w := by
  unfold emitValidator
  refine .get_bind (.ite (fun _ => .pure trivial) fun _ => ?_)
  refine Requests.Takes.bind (Q := fun n _ => n = node) (.orSchemaError (fun n hn => ?_)
    fun e he => absurd he (schema_ne_error known)) fun n w' _ hn => ?_
  · exact Option.some.inj ((schema_eq_ok hn).symm.trans known)
  · rw [hn]
    exact emitValidatorWithin_takes _ [] (by simp [NoEnumeration]) name node w' known

end ClientGen.Emission
