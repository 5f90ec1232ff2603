import ClientGen.Proofs.Emission.Steps

/-!
# Steps of emitting types

Emission of types takes steps, and what comes of a schema is a type of it.
-/

namespace ClientGen.Emission

open Api Enumeration Naming Output Schema Template TypeScript

variable {c : Setting} {R : Requests c} {w w' : Workspace} {namespace_ property : Option String}
  {name parent : String} {values : List String} {depth : Int} {node : SchemaNode}
  {references : ReferenceTypes} {emit : String → SchemaNode → Emit Unit}

/-! ### Declarations -/

lemma declareType_takes {d : TypeDeclaration} (wanted : TypeWanted R w.registry w.types d) :
    R.Steps (declareType c d) w := by
  unfold declareType
  refine Requests.Takes.bind (Q := fun d' w' => d'.declaration = d ∧ w' = w)
    (.orRenderError fun d' hd => ⟨eq_of_writeDeclaration hd, rfl⟩) ?_
  rintro d' w' - ⟨rfl, rfl⟩
  exact .modify (.declareType wanted) trivial

lemma ensureTypeEnum_takes {description : Option String}
    (wanted : TypeWanted R w.registry w.types (.enumeration name values description)) :
    R.Steps (ensureTypeEnum c name values description) w :=
  .get_bind (.ite (fun _ => .pure trivial) fun _ => declareType_takes wanted)

lemma commonType_takes :
    R.Takes (commonType namespace_ name) w fun t w' =>
      t = .named (some commonNamespace) name ∧ w'.registry = w.registry := by
  unfold commonType
  cases namespace_ with
  | none =>
    refine Requests.Takes.bind (Q := fun _ w' => w'.registry = w.registry)
      (.modify .noteTypes rfl) fun _ w' _ hw => .pure ⟨rfl, hw⟩
  | some n => exact .pure ⟨rfl, rfl⟩

/-- The type of an enumeration inside a schema is its name. -/
lemma enumType_takes (asks : R.asks (.inline values (contextOf parent property))) :
    R.Takes (enumType c namespace_ parent property values) w fun t w' =>
      ∃ x, EnumNamed w'.registry parent property values x ∧
        t = .named (through c.commonDeclarations namespace_ x) x := by
  unfold enumType
  refine (inlineEnumName_takes asks).bind fun x w' _ hx => ?_
  refine .ite (fun h => ?_) fun h => ?_
  · refine commonType_takes.weaken fun t w'' _ ⟨ht, hr⟩ => ⟨x, hr ▸ hx, ?_⟩
    rw [ht, through, if_pos h]
  · refine (ensureTypeEnum_takes (.enumeration asks hx)).bind fun _ w'' steps _ => .pure ?_
    refine ⟨x, hx.mono steps.later.registry, ?_⟩
    rw [through, if_neg h]

/-! ### References -/

/-- What is emitted for the sake of a reference takes steps. -/
def EmitsTypes (R : Requests c) (emit : String → SchemaNode → Emit Unit) : Prop :=
  ∀ s n w, c.description.schema? s = some n → R.Steps (emit s n) w

lemma declaredType_takes {s : String} (known : c.description.schema? s = some node)
    (emits : EmitsTypes R emit) :
    R.Takes (declaredType c namespace_ emit s node) w fun t w' =>
      ∃ x, c.identifier? w'.registry s = some x ∧
        t = .named (through c.commonSchemas namespace_ s) x := by
  refine .ite (fun h => ?_) fun h => ?_
  · refine (typeName_takes known).bind fun x w' _ hx => ?_
    refine commonType_takes.weaken fun t w'' _ ⟨ht, hr⟩ => ⟨x, hr ▸ hx, ?_⟩
    rw [ht, through, if_pos h]
  · refine Requests.Takes.bind (Q := fun _ _ => True) ?_ fun _ w' _ _ => ?_
    · exact .get_bind (.ite (fun _ => emits s node w known) fun _ => .pure trivial)
    · refine (typeName_takes known).bind fun x w'' _ hx => .pure ⟨x, hx, ?_⟩
      rw [through, if_neg h]

lemma referenceType_takes {pointer : String} {notes : Notes} (emits : EmitsTypes R emit)
    (broken : ∀ e, c.description.resolve pointer = .error e → R.faulty e) :
    R.Takes (referenceType c namespace_ emit pointer notes) w fun t w' =>
      ReferenceTypeOf c w'.registry w'.types.failed namespace_ pointer notes t := by
  unfold referenceType
  refine Requests.Takes.bind (Q := fun p w' => c.description.resolve pointer = .ok p ∧ w' = w)
    (.orSchemaError (fun p hp => ⟨hp, rfl⟩) broken) ?_
  rintro ⟨s, target⟩ w' - ⟨hp, rfl⟩
  refine .get_bind (.ite (fun hf => .pure ⟨s, target, hp, .inl ⟨by simpa using hf, rfl⟩⟩) fun _ => ?_)
  refine (declaredType_takes (resolve_eq_ok hp) emits).bind fun t w'' _ ⟨x, hx, ht⟩ => .pure ?_
  refine ⟨s, target, hp, .inr ⟨x, hx, ?_⟩⟩
  rw [ht]
  rfl

/-! ### Types -/

lemma nestedType_takes {nullable : Bool} {type : Emit TypeExpr}
    {lowered : Workspace → TypeExpr → Prop}
    (h : R.Takes type w fun t w' => lowered w' t) :
    R.Takes (nestedType c parent depth nullable type) w fun t w' =>
      Nested c depth nullable .any TypeExpr.withNull (lowered w') t := by
  refine .ite (fun deep => ?_) fun fits => ?_
  · refine Requests.Takes.bind (Q := fun _ _ => True) .note fun _ _ _ _ => .pure ?_
    rw [Nested, if_pos deep]
  · refine h.bind fun t w' _ ht => .pure ?_
    rw [Nested, if_neg fits]
    exact ⟨t, ht, rfl⟩

/-- What each reference inside a schema comes to. -/
def TypesFound (R : Requests c) (namespace_ : Option String) (references : ReferenceTypes)
    (pointers : List String) (w : Workspace) : Prop :=
  ∀ pointer ∈ pointers, ∀ notes w', Steps R w w' → R.Takes (references pointer notes) w'
    fun t w'' => ReferenceTypeOf c w''.registry w''.types.failed namespace_ pointer notes t

lemma TypesFound.later {ps qs : List String} (h : TypesFound R namespace_ references ps w)
    (steps : Steps R w w') (sub : qs ⊆ ps) : TypesFound R namespace_ references qs w' :=
  fun p hp notes w'' steps' => h p (sub hp) notes w'' (steps.trans steps')

mutual

lemma typeAt_takes : ∀ (property : Option String) (depth : Int) (n : SchemaNode) (w : Workspace),
    TypesFound R namespace_ references n.pointers w →
    (∀ e ∈ n.typeEnumerations property, R.asks (.inline e.2 (contextOf parent e.1))) →
    R.Takes (typeAt c namespace_ references parent property depth n) w fun t w' =>
      TypeOf c w'.registry w'.types.failed namespace_ parent property depth n t
  | property, depth, .primitive _ _ _, w, _, _ => by
    rw [typeAt]
    exact nestedType_takes (.pure rfl)
  | property, depth, .enumeration values _, w, _, asks => by
    rw [typeAt]
    exact nestedType_takes (enumType_takes (asks (property, values)
      (by simp [SchemaNode.typeEnumerations])))
  | property, depth, .array items _ _, w, found, asks => by
    rw [typeAt]
    exact nestedType_takes (.map ((typeAt_takes none (depth + 1) items w found asks).weaken
      fun t _ _ ht => ⟨t, ht, rfl⟩))
  | property, depth, .object [] none _, w, _, _ => by
    rw [typeAt]
    exact nestedType_takes (.pure rfl)
  | property, depth, .object [] (some value) _, w, found, asks => by
    rw [typeAt]
    refine nestedType_takes (.map ((typeAt_takes none (depth + 1) value w ?_ asks).weaken
      fun t _ _ ht => ⟨t, ht, rfl⟩))
    exact found.later .refl (by simp [SchemaNode.pointers, SchemaNode.pointersOpt])
  | property, depth, .object (p :: ps) _ _, w, found, asks => by
    rw [typeAt]
    · exact nestedType_takes (.map ((membersAt_takes (depth + 1) (p :: ps) w
        (found.later .refl (List.subset_append_left _ _)) asks).weaken
        fun ms _ _ hm => ⟨ms, hm, rfl⟩))
    all_goals simp
  | property, depth, .reference pointer notes, w, found, _ => by
    rw [typeAt]
    exact nestedType_takes (found pointer (by simp [SchemaNode.pointers]) notes w .refl)
  | property, depth, .oneOf _ _, w, _, _ | property, depth, .anyOf _ _, w, _, _
  | property, depth, .allOf _ _, w, _, _ | property, depth, .unknown _, w, _, _ => by
    rw [typeAt]
    exact nestedType_takes (.pure rfl)

lemma membersAt_takes : ∀ (depth : Int) (ps : List Property) (w : Workspace),
    TypesFound R namespace_ references (Property.pointersAll ps) w →
    (∀ e ∈ Property.typeEnumerations ps, R.asks (.inline e.2 (contextOf parent e.1))) →
    R.Takes (membersAt c namespace_ references parent depth ps) w fun ms w' =>
      MembersOf c w'.registry w'.types.failed namespace_ parent depth ps ms
  | depth, [], w, _, _ => by
    simp only [membersAt, MembersOf]
    exact .pure rfl
  | depth, ⟨name, required, n⟩ :: rest, w, found, asks => by
    simp only [membersAt, MembersOf]
    refine (typeAt_takes (some name) depth n w
      (found.later .refl (List.subset_append_left _ _))
      fun e he => asks e (List.mem_append_left _ he)).bind fun t w' steps ht => ?_
    refine (membersAt_takes depth rest w' (found.later steps (List.subset_append_right _ _))
      fun e he => asks e (List.mem_append_right _ he)).bind fun ms w'' steps' hms => .pure ?_
    exact ⟨t, ms, ht.mono steps'.later.registry steps'.later.types.failed, hms, rfl⟩

end

/-! ### Schemas -/

lemma typeField_takes {required : Bool} {n : SchemaNode}
    (found : TypesFound R none references n.pointers w)
    (asks : ∀ e ∈ n.typeEnumerations (some name), R.asks (.inline e.2 (contextOf parent e.1))) :
    R.Takes (typeField c references parent name required n) w fun field w' =>
      FieldOf c w'.registry w'.types.failed parent ⟨name, required, n⟩ field :=
  (typeAt_takes (some name) 1 n w found asks).bind fun t _ _ ht => .pure ⟨t, ht, rfl⟩

/-- A schema that has been begun is declared by its node in the description. -/
lemma declareSchemaType_takes (known : c.description.schema? name = some node)
    (begun : name ∈ w.types.processed) (found : TypesFound R none references node.pointers w) :
    R.Steps (declareSchemaType c references name node) w := by
  have asks {e : Option String × List String} (he : e ∈ node.typeEnumerations none) :
      R.asks (.inline e.2 (contextOf name e.1)) :=
    R.place known (node.mem_enumerations none he)
  have wanted {w' : Workspace} {d : TypeDeclaration} (steps : Steps R w w')
      (hd : DeclaresType c w'.registry w'.types.failed name d) :
      TypeWanted R w'.registry w'.types d :=
    .schema (steps.later.types.processed begun) hd
  unfold declareSchemaType
  refine (typeName_takes known).bind fun x w' steps hx => ?_
  split
  · exact ensureTypeEnum_takes (wanted steps ⟨_, x, known, hx, rfl⟩)
  · next p ps additional notes =>
    have fields := Requests.Takes.mapM (R := R)
      (g := fun p => typeField c references name p.name p.required p.schema)
      (T := fun p field w => FieldOf c w.registry w.types.failed name p field)
      (fun hl ⟨t, ht, hf⟩ => ⟨t, ht.mono hl.registry hl.types.failed, hf⟩) (p :: ps) w'
      fun p' hp w'' steps' => typeField_takes
        (found.later (steps.trans steps') (List.Subset.trans (Property.pointers_subset_of_mem hp)
          (List.subset_append_left _ _)))
        fun e he => asks (Property.typeEnumerations_subset_of_mem hp he)
    refine fields.bind fun fields w'' steps' hf => declareType_takes (wanted (steps.trans steps') ?_)
    exact ⟨_, x, known, identifier?_mono steps'.later.registry hx, fields, hf, rfl⟩
  · next plain object =>
    refine (typeAt_takes none 1 node w' (found.later steps (List.Subset.refl _))
      fun e he => asks he).bind fun t w'' steps' ht =>
        declareType_takes (wanted (steps.trans steps') ?_)
    refine ⟨node, x, known, identifier?_mono steps'.later.registry hx, ?_⟩
    split
    · exact absurd rfl (plain _ _)
    · exact absurd rfl (object _ _ _ _)
    · exact ⟨t, ht, rfl⟩

/-- The emission of a schema takes steps, however deep it leads. -/
lemma emitTypeWithin_takes : ∀ budget, EmitsTypes R (emitTypeWithin c budget)
  | 0 => fun _ _ _ _ => .pure trivial
  | budget + 1 => fun name node w known => by
    rw [emitTypeWithin]
    refine Requests.Takes.bind (Q := fun _ w' => name ∈ w'.types.processed)
      (.modify .beginType (by simp)) fun _ w' _ begun => ?_
    refine (Requests.Takes.caught (Q := fun r _ => ∀ e, r = .error e → R.faulty e)
      ((declareSchemaType_takes known begun fun pointer hp notes w'' _ =>
        referenceType_takes (emitTypeWithin_takes budget) fun e => R.broken known hp).weaken
        fun _ _ _ _ => nofun) ?_).bind fun result w'' _ failed => ?_
    · rintro e _ he _ ⟨⟩
      exact he
    · cases result with
      | ok _ => exact .pure trivial
      | error e =>
        refine Requests.Takes.bind (Q := fun _ _ => True) (.modify (.failType (failed e rfl)) trivial)
          fun _ _ _ _ => meets_throw.2 ⟨.refl, ?_⟩
        rintro _ ⟨⟩
        exact failed e rfl

/-- Asking for the type of a known schema takes steps. -/
lemma emitType_takes (known : c.description.schema? name = some node) :
    R.Steps (emitType c name none) w := by
  unfold emitType
  refine .get_bind (.ite (fun _ => .pure trivial) fun _ => ?_)
  refine Requests.Takes.bind (Q := fun n _ => n = node) (.orSchemaError (fun n hn => ?_)
    fun e he => absurd he (schema_ne_error known)) fun n w' _ hn => ?_
  · exact Option.some.inj ((schema_eq_ok hn).symm.trans known)
  · rw [hn]
    exact emitTypeWithin_takes _ name node w' known

end ClientGen.Emission
