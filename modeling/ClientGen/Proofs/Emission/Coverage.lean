import ClientGen.Proofs.Emission.TypeFile
import ClientGen.Proofs.Emission.ValidatorEmission

/-!
# Coverage of enumerations

The types ask the registry for no enumeration that the validators of the same schemas do not ask
for. Whoever asks first makes the name; who asks with the same key later gets it again. So once all
schemas have been dealt with in both files, every name that was made has a validator.
-/

namespace ClientGen.Emission

open Api Enumeration Naming Output Schema TypeScript

variable {c : Setting} {G : Ground c} {w w' : Workspace} {s x : String}

/-- The key that an enumeration inside the schema `s` makes its name for. -/
def askKey (s : String) (e : Option String × List String) : String :=
  Registry.ownKey e.2 (contextOf s e.1)

/-- The identifier that an enumeration inside the schema `s` has already. -/
def askKnown (r : Registry) (s : String) (e : Option String × List String) : Option String :=
  r.known? e.2 (contextOf s e.1)

/-- The name of an enumeration that is a schema itself. -/
def SchemaNamed (G : Ground c) (r : Registry) (x : String) : Prop :=
  ∃ s, G.within s ∧ (∃ values notes, c.description.schema? s = some (.enumeration values notes)) ∧
    r.lookup? (Registry.schemaKey s) = some x

lemma SchemaNamed.mono {r r' : Registry} (hle : r ≤ r') (h : SchemaNamed G r x) :
    SchemaNamed G r' x := by
  obtain ⟨s, hs, he, hx⟩ := h
  exact ⟨s, hs, he, hle _ _ hx⟩

/-- A node that the schema `s` is declared from, other than an enumeration. -/
def Setting.Composed (c : Setting) (s : String) (n : SchemaNode) : Prop :=
  c.description.schema? s = some n ∧ n.isEnumeration = false

/-! ### Types -/

/-- The name `x` was made by an enumeration that the type of a schema asks for and that was not
known before. -/
def MadeByType (c : Setting) (w w' : Workspace) (x : String) : Prop :=
  ∃ s ∈ w'.types.processed, ∃ n, c.Composed s n ∧ ∃ e ∈ n.typeEnumerations none,
    w'.registry.lookup? (askKey s e) = some x ∧ askKnown w.registry s e = none

/-- Every new name was made by a schema or for one of its enumerations. -/
structure TypesAsk (G : Ground c) (w w' : Workspace) : Prop where
  registry : w.registry ≤ w'.registry
  processed : w.types.processed ⊆ w'.types.processed
  names : ∀ key x, w'.registry.lookup? key = some x →
    w.registry.lookup? key = some x ∨ SchemaNamed G w'.registry x ∨ MadeByType c w w' x

lemma TypesAsk.refl (w : Workspace) : TypesAsk G w w :=
  ⟨le_refl _, fun _ h => h, fun _ _ h => .inl h⟩

lemma TypesAsk.of_registry (hr : w'.registry = w.registry)
    (hp : w.types.processed ⊆ w'.types.processed) : TypesAsk G w w' :=
  ⟨hr.ge, hp, fun _ _ h => .inl (hr ▸ h)⟩

lemma askKnown_eq_none {r r' : Registry} {e : Option String × List String} (hle : r ≤ r')
    (h : askKnown r' s e = none) : askKnown r s e = none := by
  unfold askKnown at h ⊢
  by_contra hn
  have := Registry.known?_mono hle (Option.isSome_iff_ne_none.2 hn)
  rw [h] at this
  simp at this

lemma TypesAsk.trans {w'' : Workspace} (h : TypesAsk G w w') (h' : TypesAsk G w' w'') :
    TypesAsk G w w'' := by
  refine ⟨h.registry.trans h'.registry, List.Subset.trans h.processed h'.processed, fun key x hx => ?_⟩
  rcases h'.names key x hx with hx | hs | ⟨s, hs, n, hn, e, he, hx, new⟩
  · rcases h.names key x hx with hx | hs | ⟨s, hs, n, hn, e, he, hx, new⟩
    · exact .inl hx
    · exact .inr (.inl (hs.mono h'.registry))
    · exact .inr (.inr ⟨s, h'.processed hs, n, hn, e, he, h'.registry _ _ hx, new⟩)
  · exact .inr (.inl hs)
  · exact .inr (.inr ⟨s, hs, n, hn, e, he, hx, askKnown_eq_none h.registry new⟩)

/-- What emission of types asks the registry for. -/
def Ground.typeAsks (G : Ground c) : Contract where
  holds _ := True
  grows := TypesAsk G
  permits _ := True
  grows_refl := .refl
  grows_trans := .trans
  quiet _ _ := ⟨.of_registry rfl fun _ h => h, id⟩

lemma typeName_asks (within : G.within s) :
    G.typeAsks.Keeps (typeName c s) w fun _ _ => True := by
  refine .of_meets typeName_meets ?_ ?_
  · rintro y w' - ⟨hy, ⟨r, hle, rfl⟩, new⟩
    refine ⟨trivial, ⟨hle, fun _ h => h, fun key x hx => ?_⟩, trivial⟩
    rcases new key x hx with hx | ⟨rfl, ⟨values, notes, hs⟩, -⟩
    · exact .inl hx
    · rw [identifier?_enumeration hs] at hy
      exact .inr (.inl ⟨s, within, ⟨values, notes, hs⟩, hy⟩)
  · rintro e w' - ⟨rfl, -⟩
    exact ⟨trivial, fun _ _ => ⟨trivial, .refl _⟩⟩

lemma declareType_asks {d : TypeDeclaration} :
    G.typeAsks.Keeps (declareType c d) w fun _ _ => True := by
  refine Contract.Keeps.bind (Q := fun _ _ => True) (.orRenderError (fun _ _ => trivial)
    fun _ _ => trivial) fun d' w' _ _ => .modify fun _ => ⟨trivial, .of_registry rfl ?_, trivial⟩
  simp

lemma ensureTypeEnum_asks {values : List String} {description : Option String} :
    G.typeAsks.Keeps (ensureTypeEnum c x values description) w fun _ _ => True :=
  .get_bind (.ite (fun _ => .pure fun _ => trivial) fun _ => declareType_asks)

lemma commonType_asks {namespace_ : Option String} :
    G.typeAsks.Keeps (commonType namespace_ x) w fun _ _ => True := by
  unfold commonType
  cases namespace_ with
  | none =>
    exact Contract.Keeps.bind (Q := fun _ _ => True) (.modify fun _ =>
      ⟨trivial, .of_registry rfl fun _ h => h, trivial⟩) fun _ _ _ _ => .pure fun _ => trivial
  | some n => exact .pure fun _ => trivial

/-- An enumeration inside a schema that has been begun is asked for. -/
lemma enumType_asks {n : SchemaNode} {e : Option String × List String}
    (begun : s ∈ w.types.processed) (hn : c.Composed s n) (he : e ∈ n.typeEnumerations none) :
    G.typeAsks.Keeps (enumType c none s e.1 e.2) w fun _ _ => True := by
  unfold enumType
  refine Contract.Keeps.bind (Q := fun _ _ => True) (.of_meets inlineEnumName_meets ?_
    fun _ _ _ h => h.elim) fun x w' _ _ => ?_
  · rintro y w' - ⟨rfl, log, rfl⟩
    refine ⟨trivial, ⟨Registry.le_nameOf, fun _ h => h, fun key x hx => ?_⟩, trivial⟩
    rcases Registry.lookup?_of_nameOf hx with hx | ⟨rfl, new⟩
    · exact .inl hx
    · exact .inr (.inr ⟨s, begun, n, hn, e, he, Registry.lookup?_nameOf_of_new new, new⟩)
  · refine .ite (fun _ => commonType_asks) fun _ => ?_
    exact ensureTypeEnum_asks.bind fun _ _ _ _ => .pure fun _ => trivial

lemma referenceType_asks {emit : String → SchemaNode → Emit Unit} {namespace_ : Option String}
    {pointer : String} {notes : Notes}
    (within : ∀ s n, c.description.resolve pointer = .ok (s, n) → G.within s)
    (emits : ∀ s n, c.description.resolve pointer = .ok (s, n) → ∀ w',
      G.typeAsks.Keeps (emit s n) w' fun _ _ => True) :
    G.typeAsks.Keeps (referenceType c namespace_ emit pointer notes) w fun _ _ => True := by
  unfold referenceType
  refine Contract.Keeps.bind (Q := fun p _ => c.description.resolve pointer = .ok p)
    (.orSchemaError (fun p hp => hp) fun _ _ => trivial) ?_
  rintro ⟨s, n⟩ w' - hp
  refine .get_bind (.ite (fun _ => .pure fun _ => trivial) fun _ => ?_)
  refine Contract.Keeps.bind (Q := fun _ _ => True) ?_ fun _ _ _ _ => .pure fun _ => trivial
  refine .ite (fun _ => ?_) fun _ => ?_
  · exact (typeName_asks (within s n hp)).bind fun _ _ _ _ => commonType_asks
  · refine Contract.Keeps.bind (Q := fun _ _ => True) ?_ fun _ w'' _ _ =>
      (typeName_asks (within s n hp)).bind fun _ _ _ _ => .pure fun _ => trivial
    exact .get_bind (.ite (fun _ => emits s n hp w') fun _ => .pure fun _ => trivial)

variable {node : SchemaNode} {references : ReferenceTypes}

lemma declareSchemaType_asks (references : ReferenceTypes)
    (known : c.description.schema? s = some node)
    (within : G.within s) (begun : s ∈ w.types.processed)
    (hr : ∀ pointer ∈ node.pointers, ∀ notes w',
      G.typeAsks.Keeps (references pointer notes) w' fun _ _ => True) :
    G.typeAsks.Keeps (declareSchemaType c references s node) w fun _ _ => True := by
  have typed (property : Option String) (n : SchemaNode) (w' : Workspace) (hg : TypesAsk G w w')
      (hp : n.pointers ⊆ node.pointers) (plain : node.isEnumeration = false)
      (he : n.typeEnumerations property ⊆ node.typeEnumerations none) :
      G.typeAsks.Keeps (typeAt c none references s property 1 n) w' fun _ _ => True :=
    (typeAt_keeps (P := fun _ _ _ => True) (fun _ _ _ _ _ h => h) property 1 n w'
      (fun p h notes w'' _ => (hr p (hp h) notes w'').weaken fun _ _ _ _ _ _ _ _ => trivial)
      fun e h w'' hg' => (enumType_asks ((hg.trans hg').processed begun) ⟨known, plain⟩
        (he h)).weaken fun _ _ _ _ _ _ _ _ => trivial).weaken fun _ _ _ _ _ => trivial
  unfold declareSchemaType
  refine (typeName_asks within).bind fun y w' hg _ => ?_
  split
  · exact ensureTypeEnum_asks
  · next p ps additional notes =>
    have fields := Contract.Keeps.mapM (K := G.typeAsks)
      (g := fun p => typeField c references s p.name p.required p.schema)
      (S := fun _ _ _ => True) (fun _ _ _ _ _ h => h) (p :: ps) w' fun p' hp' w'' hg' => by
        refine (typed (some p'.name) p'.schema w'' (hg.trans hg')
          (List.Subset.trans (Property.pointers_subset_of_mem hp') (List.subset_append_left _ _)) rfl
          (Property.typeEnumerations_subset_of_mem hp')).bind fun _ _ _ _ => .pure fun _ => trivial
    exact fields.bind fun _ _ _ _ => declareType_asks
  · next hne _ =>
    refine (typed none node w' hg (List.Subset.refl _) ?_ (List.Subset.refl _)).bind
      fun _ _ _ _ => declareType_asks
    cases node <;> first | rfl | exact absurd rfl (hne _ _)

/-- Emission of a schema asks for its enumerations and for those of the schemas it needs. -/
lemma emitTypeWithin_asks (exact : G.Exact) (own : c.commonSchemas = []) :
    ∀ (budget : Nat) (s : String) (node : SchemaNode) (w : Workspace), G.within s →
      G.lowers s node → G.typeAsks.Keeps (emitTypeWithin c budget s node) w fun _ _ => True
  | 0, _, _, _, _, _ => .pure fun _ => trivial
  | budget + 1, s, node, w, within, lowers => by
    rw [emitTypeWithin]
    refine Contract.Keeps.bind (Q := fun _ w' => s ∈ w'.types.processed) (.modify fun _ =>
      ⟨trivial, .of_registry rfl (List.subset_append_left _ _), by simp⟩) fun _ w₁ _ begun => ?_
    have closed {pointer : String} (hp : pointer ∈ node.pointers) {t : String} {m : SchemaNode}
        (ht : c.description.resolve pointer = .ok (t, m)) : G.within t ∧ G.lowers t m :=
      (G.closed lowers hp ht).2 (by simp [own])
    have body := declareSchemaType_asks (w := w₁) (referenceType c none (emitTypeWithin c budget))
      (exact lowers) within begun
      fun pointer hp notes w' => referenceType_asks (fun t m ht => (closed hp ht).1)
        fun t m ht w'' => emitTypeWithin_asks exact own budget t m w'' (closed hp ht).1
          (closed hp ht).2
    refine Contract.Keeps.bind (Q := fun _ _ => True) (.caught body fun _ _ _ _ _ => trivial)
      fun result w' _ _ => ?_
    split
    · exact .pure fun _ => trivial
    · exact Contract.Keeps.bind (Q := fun _ _ => True) (.modify fun _ =>
        ⟨trivial, .of_registry rfl fun _ h => h, trivial⟩) fun _ _ _ _ => .throw trivial

lemma emitType_asks (exact : G.Exact) (own : c.commonSchemas = []) (within : G.within s)
    (lowers : G.lowers s node) : G.typeAsks.Keeps (emitType c s none) w fun _ _ => True := by
  refine .get_bind (.ite (fun _ => .pure fun _ => trivial) fun _ => ?_)
  refine Contract.Keeps.bind (Q := fun n _ => n = node) (.orSchemaError (fun n hn => ?_)
    fun _ _ => trivial) fun n w' _ hn => ?_
  · exact Option.some.inj ((schema_eq_ok hn).symm.trans (exact lowers))
  · rw [hn]
    exact emitTypeWithin_asks exact own _ s node w' within lowers

/-! ### Validators -/

/-- The enumeration `e` inside the schema `s` is known, and the name that was made for it before has
a validator. -/
def Seen (s : String) (r : Registry) (e : Option String × List String) (w' : Workspace) : Prop :=
  (askKnown w'.registry s e).isSome ∧ ∀ x, r.lookup? (askKey s e) = some x →
    validatorName x ∈ w'.validators.emitted

/-- Every new name has a validator or is that of a schema, and a schema that has been begun has
failed or asked for its enumerations. -/
structure ValidatorsAsk (G : Ground c) (w w' : Workspace) : Prop where
  registry : w.registry ≤ w'.registry
  validators : FileGrows w.validators w'.validators
  names : ∀ key x, w'.registry.lookup? key = some x → w.registry.lookup? key = some x ∨
    validatorName x ∈ w'.validators.emitted ∨ SchemaNamed G w'.registry x
  seen : ∀ s ∈ w'.validators.processed, s ∉ w.validators.processed →
    s ∈ w'.validators.failed ∨ ∀ n, c.Composed s n → ∀ e ∈ n.enumerations none,
      Seen s w.registry e w'

lemma ValidatorsAsk.refl (w : Workspace) : ValidatorsAsk G w w :=
  ⟨le_refl _, .refl _, fun _ _ h => .inl h, fun _ h hn => absurd h hn⟩

lemma Seen.of_le {r r' : Registry} {e : Option String × List String} (hle : r ≤ r')
    (h : Seen s r' e w) : Seen s r e w :=
  ⟨h.1, fun x hx => h.2 x (hle _ _ hx)⟩

lemma Seen.grows {r : Registry} {e : Option String × List String} (hg : ValidatorsAsk G w w')
    (h : Seen s r e w) : Seen s r e w' :=
  ⟨Registry.known?_mono hg.registry h.1, fun x hx => hg.validators.emitted (h.2 x hx)⟩

lemma ValidatorsAsk.trans {w'' : Workspace} (h : ValidatorsAsk G w w')
    (h' : ValidatorsAsk G w' w'') : ValidatorsAsk G w w'' := by
  refine ⟨h.registry.trans h'.registry, h.validators.trans h'.validators, fun key x hx => ?_,
    fun s hs new => ?_⟩
  · rcases h'.names key x hx with hx | hx
    · rcases h.names key x hx with hx | hx | hx
      · exact .inl hx
      · exact .inr (.inl (h'.validators.emitted hx))
      · exact .inr (.inr (hx.mono h'.registry))
    · exact .inr hx
  · by_cases before : s ∈ w'.validators.processed
    · rcases h.seen s before new with hf | hs
      · exact .inl (h'.validators.failed hf)
      · exact .inr fun n hn e he => (hs n hn e he).grows h'
    · rcases h'.seen s hs before with hf | hs
      · exact .inl hf
      · exact .inr fun n hn e he => (hs n hn e he).of_le h.registry

/-- What emission of validators asks the registry for. -/
def Ground.validatorAsks (G : Ground c) : Contract where
  holds _ := True
  grows := ValidatorsAsk G
  permits _ := True
  grows_refl := .refl
  grows_trans := .trans
  quiet _ _ := ⟨⟨le_refl _, .refl _, fun _ _ h => .inl h, fun _ h hn => absurd h hn⟩, id⟩

/-- A step that begins no schema and makes no name. -/
lemma ValidatorsAsk.of_registry (hr : w'.registry = w.registry)
    (hp : w'.validators.processed = w.validators.processed)
    (hv : FileGrows w.validators w'.validators) : ValidatorsAsk G w w' :=
  ⟨hr.ge, hv, fun _ _ h => .inl (hr ▸ h), fun _ h hn => absurd (hp ▸ h) hn⟩

lemma typeName_validatorAsks (within : G.within s) :
    G.validatorAsks.Keeps (typeName c s) w fun _ _ => True := by
  refine .of_meets typeName_meets ?_ ?_
  · rintro y w' - ⟨hy, ⟨r, hle, rfl⟩, new⟩
    refine ⟨trivial, ⟨hle, .refl _, fun key x hx => ?_, fun _ h hn => absurd h hn⟩, trivial⟩
    rcases new key x hx with hx | ⟨rfl, ⟨values, notes, hs⟩, -⟩
    · exact .inl hx
    · rw [identifier?_enumeration hs] at hy
      exact .inr (.inr ⟨s, within, ⟨values, notes, hs⟩, hy⟩)
  · rintro e w' - ⟨rfl, -⟩
    exact ⟨trivial, fun _ _ => ⟨trivial, .refl _⟩⟩

lemma constName_asks (within : G.within s) :
    G.validatorAsks.Keeps (constName c s) w fun _ _ => True :=
  .map (typeName_validatorAsks within)

/-- The constant of an enumeration is declared afterwards, and nothing else happens. -/
lemma ensureValidatorEnum_meets {values : List String} :
    Meets (ensureValidatorEnum c x values) w
      (fun _ w' => validatorName x ∈ w'.validators.emitted ∧ w'.registry = w.registry ∧
        w'.validators.processed = w.validators.processed ∧ FileGrows w.validators w'.validators)
      fun e _ => ∀ s, e ≠ .schema s := by
  unfold ensureValidatorEnum
  refine meets_bind.2 (meets_get.2 ?_)
  split
  · next h => exact meets_pure.2 ⟨by simpa using h, rfl, rfl, .refl _⟩
  · refine declareValidator_meets.imp ?_ ?_
    · rintro _ _ ⟨d, hd, -, rfl⟩
      refine ⟨?_, rfl, by simp, DeclarationFile.grows_add⟩
      have := DeclarationFile.mem_emitted_add (f := w.validators) (d := d)
      rwa [hd] at this
    · rintro e _ ⟨e', rfl, -⟩
      exact nofun

lemma ensureValidatorEnum_asks {values : List String} :
    G.validatorAsks.Keeps (ensureValidatorEnum c x values) w fun _ _ => True :=
  .of_meets ensureValidatorEnum_meets
    (fun _ _ _ ⟨_, hr, hp, hv⟩ => ⟨trivial, .of_registry hr hp hv, trivial⟩)
    fun _ _ _ h => ⟨trivial, fun s hs => absurd hs (h s)⟩

lemma declareValidator_asks {d : ValidatorDeclaration} :
    G.validatorAsks.Keeps (declareValidator c d) w fun _ _ => True := by
  refine .of_meets declareValidator_meets ?_ ?_
  · rintro _ _ - ⟨d', -, -, rfl⟩
    exact ⟨trivial, .of_registry rfl (by simp) DeclarationFile.grows_add, trivial⟩
  · rintro e _ - ⟨e', rfl, -⟩
    exact ⟨trivial, nofun⟩

lemma noteCommonValidators_asks :
    G.validatorAsks.Keeps noteCommonValidators w fun _ _ => True :=
  .modify fun _ => ⟨trivial, .of_registry rfl rfl .useCommon, trivial⟩

/-- An enumeration inside a schema is known once it has been asked for, and the name that was made
for it before has a validator. -/
lemma enumValidator_asks {e : Option String × List String} (own : c.commonDeclarations = []) :
    G.validatorAsks.Keeps (enumValidator c s e.1 e.2) w fun _ w' => Seen s w.registry e w' := by
  intro _
  unfold enumValidator
  refine meets_bind.2 (inlineEnumName_meets.imp ?_ fun _ _ h => h.elim)
  rintro x w₁ ⟨rfl, log, rfl⟩
  have nothing : (c.commonDeclarations.contains
      (w.registry.nameOf e.2 (contextOf s e.1)).1) = false := by simp [own]
  simp only [nothing, Bool.false_eq_true, if_false]
  refine meets_bind.2 (ensureValidatorEnum_meets.imp ?_ fun _ _ h => ⟨trivial, fun s hs =>
    absurd hs (h s)⟩)
  rintro _ w' ⟨hd, hr, hp, hv⟩
  refine meets_pure.2 ⟨trivial, ⟨hr ▸ Registry.le_nameOf, hv, fun key x hx => ?_, fun t ht hn =>
    absurd (hp ▸ ht) hn⟩, ?_, fun x hx => ?_⟩
  · rw [hr] at hx
    rcases Registry.lookup?_of_nameOf hx with hx | ⟨rfl, -⟩
    · exact .inl hx
    · exact .inr (.inl hd)
  · rw [askKnown, hr]
    exact Registry.isSome_known?_nameOf
  · rw [Registry.nameOf_of_known? (Registry.known?_of_ownKey hx)] at hd
    exact hd

lemma referenceValidator_asks {path : List String} {emit : String → SchemaNode → Emit Unit}
    {pointer : String} {notes : Notes}
    (within : ∀ s n, c.description.resolve pointer = .ok (s, n) → G.within s)
    (emits : ∀ s n, c.description.resolve pointer = .ok (s, n) → ∀ w',
      G.validatorAsks.Keeps (emit s n) w' fun _ _ => True) :
    G.validatorAsks.Keeps (referenceValidator c path emit pointer notes) w fun _ _ => True := by
  unfold referenceValidator
  refine Contract.Keeps.bind (Q := fun p _ => c.description.resolve pointer = .ok p)
    (.orSchemaError (fun p hp => hp) fun _ _ => trivial) ?_
  rintro ⟨s, n⟩ w' - hp
  have named (w : Workspace) : G.validatorAsks.Keeps (constName c s) w fun _ _ => True :=
    constName_asks (within s n hp)
  refine .get_bind (.ite (fun _ => .pure fun _ => trivial) fun _ => ?_)
  refine .ite (fun _ => ?_) fun _ => .ite (fun _ => ?_) fun _ => ?_
  · exact noteCommonValidators_asks.bind fun _ w'' _ _ => (named w'').bind fun _ _ _ _ =>
      .pure fun _ => trivial
  · refine Contract.Keeps.bind (Q := fun _ _ => True) (.modify fun _ =>
      ⟨trivial, .of_registry rfl rfl (.refl _), trivial⟩) fun _ w'' _ _ => ?_
    exact (named w'').bind fun _ _ _ _ => .pure fun _ => trivial
  · refine Contract.Keeps.bind (Q := fun _ _ => True) ?_ fun _ w'' _ _ =>
      (named w'').bind fun _ _ _ _ => .pure fun _ => trivial
    exact .get_bind (.ite (fun _ => emits s n hp w') fun _ => .pure fun _ => trivial)

/-- Of the references of a schema nothing is known; its enumerations are seen once asked for. -/
def seenKnowledge (G : Ground c) (s : String) (r : Registry) : Knowledge G.validatorAsks where
  eager _ _ _ := True
  deferred _ _ := True
  asked e w' := Seen s r e w'
  eager_stable _ h := h
  deferred_stable _ h := h
  asked_stable hg h := h.grows hg

/-- A schema that is not nested too deep has asked for its enumerations once it is declared. -/
lemma declareSchemaValidator_asks (references : ReferenceValidators)
    (own : c.commonDeclarations = []) (within : G.within s) (shallow : 1 + node.nesting ≤ c.maxDepth)
    (hr : ∀ pointer ∈ node.pointers, ∀ notes w',
      G.validatorAsks.Keeps (references pointer notes) w' fun _ _ => True) :
    G.validatorAsks.Keeps (declareSchemaValidator c references s node) w fun _ w' =>
      node.isEnumeration = false → ∀ e ∈ node.enumerations none, Seen s w.registry e w' := by
  unfold declareSchemaValidator
  split
  · refine (typeName_validatorAsks within).bind fun y w' _ _ => ?_
    exact ensureValidatorEnum_asks.weaken fun _ _ _ _ _ h => by
      simp [SchemaNode.isEnumeration] at h
  · refine (validatorAt_keeps (N := seenKnowledge G s w.registry) none 1 node w
      (fun p hp notes w' _ => (hr p hp notes w').weaken fun _ _ _ _ _ =>
        ⟨fun _ _ _ => trivial, fun _ _ => trivial⟩)
      (fun e _ w' hg => (enumValidator_asks own).weaken fun _ w'' _ _ hs =>
        ⟨⟨fun _ _ _ => trivial, fun _ _ => trivial⟩, hs.of_le hg.registry⟩)
      fun _ _ => trivial).bind fun v w' hg hv => ?_
    refine (constName_asks within).bind fun k w'' hg' _ => .get_bind ?_
    refine declareValidator_asks.weaken fun _ w₃ _ hg₃ _ _ e he => ?_
    exact (hv.2 (by exact_mod_cast shallow) e he).grows (hg'.trans hg₃)

/-- Emission of a schema asks for its enumerations and for those of the schemas it needs. -/
lemma emitValidatorWithin_asks (exact : G.Exact) (schemas : c.commonSchemas = [])
    (own : c.commonDeclarations = [])
    (shallow : ∀ s n, G.lowers s n → 1 + n.nesting ≤ c.maxDepth) :
    ∀ (budget : Nat) (path : List String) (s : String) (node : SchemaNode) (w : Workspace),
      G.within s → G.lowers s node →
      G.validatorAsks.Keeps (emitValidatorWithin c budget path s node) w fun _ _ => True
  | 0, _, _, _, _, _, _ => .pure fun _ => trivial
  | budget + 1, path, s, node, w, within, lowers => by
    have closed {pointer : String} (hp : pointer ∈ node.pointers) {t : String} {m : SchemaNode}
        (ht : c.description.resolve pointer = .ok (t, m)) : G.within t ∧ G.lowers t m :=
      (G.closed lowers hp ht).2 (by simp [schemas])
    have body (w₁ : Workspace) := declareSchemaValidator_asks (w := w₁)
      (referenceValidator c (s :: path) (emitValidatorWithin c budget (s :: path)))
      own within (shallow s node lowers)
      fun pointer hp notes w' => referenceValidator_asks (fun t m ht => (closed hp ht).1)
        fun t m ht w'' => emitValidatorWithin_asks exact schemas own shallow budget (s :: path) t m
          w'' (closed hp ht).1 (closed hp ht).2
    -- What is known since the schema was marked is known since before it was.
    have marked {w' : Workspace} (hg : ValidatorsAsk G { w with validators :=
        { w.validators with processed := w.validators.processed ++ [s] } } w')
        (hs : s ∈ w'.validators.failed ∨ ∀ n, c.Composed s n → ∀ e ∈ n.enumerations none,
          Seen s w.registry e w') : ValidatorsAsk G w w' := by
      refine ⟨hg.registry, FileGrows.start.trans hg.validators, hg.names, fun t ht new => ?_⟩
      by_cases hts : t = s
      · rw [hts]
        exact hs
      · exact hg.seen t ht (by simp [new, hts])
    intro _
    rw [emitValidatorWithin]
    refine meets_bind.2 (meets_modify.2 (meets_bind.2 (meets_caught.2
      ((body _ trivial).imp ?_ ?_))))
    · rintro _ w' ⟨-, hg, hs⟩
      refine meets_pure.2 ⟨trivial, marked hg (.inr fun n hn e he => ?_), trivial⟩
      obtain rfl := Option.some.inj ((exact lowers).symm.trans hn.1)
      exact hs hn.2 e he
    · rintro (e | e | e | e) w' ⟨-, hs⟩
      · have hg := (hs e rfl).2
        refine meets_bind.2 (meets_modify.2 (meets_throw.2 ⟨trivial, fun _ _ => ⟨trivial, ?_⟩⟩))
        exact marked (hg.trans (.of_registry rfl rfl .fail)) (.inl (mem_addNew.2 (.inr rfl)))
      all_goals exact ⟨trivial, by rintro _ ⟨⟩⟩

lemma emitValidator_asks (exact : G.Exact) (schemas : c.commonSchemas = [])
    (own : c.commonDeclarations = []) (shallow : ∀ s n, G.lowers s n → 1 + n.nesting ≤ c.maxDepth)
    (within : G.within s) (lowers : G.lowers s node) :
    G.validatorAsks.Keeps (emitValidator c s none) w fun _ _ => True := by
  refine .get_bind (.ite (fun _ => .pure fun _ => trivial) fun _ => ?_)
  refine Contract.Keeps.bind (Q := fun n _ => n = node) (.orSchemaError (fun n hn => ?_)
    fun _ _ => trivial) fun n w' _ hn => ?_
  · exact Option.some.inj ((schema_eq_ok hn).symm.trans (exact lowers))
  · rw [hn]
    exact emitValidatorWithin_asks exact schemas own shallow _ [] s node w' within lowers

/-! ### Both files -/

/-- Every name that was made has a validator, or it is that of a schema, or the validators have yet
to ask for it; for what they have asked is known. -/
structure Covered (G : Ground c) (w : Workspace) : Prop where
  names : ∀ key x, w.registry.lookup? key = some x →
    validatorName x ∈ w.validators.emitted ∨ SchemaNamed G w.registry x ∨
      ∃ s ∈ w.types.processed, (s ∉ w.validators.processed ∨ s ∈ w.validators.failed) ∧
        ∃ n, c.Composed s n ∧ ∃ e ∈ n.typeEnumerations none,
          w.registry.lookup? (askKey s e) = some x
  known : ∀ s ∈ w.validators.processed, s ∈ w.validators.failed ∨
    ∀ n, c.Composed s n → ∀ e ∈ n.enumerations none, (askKnown w.registry s e).isSome

lemma Covered.empty : Covered G {} where
  names key x h := by simp [Registry.lookup?] at h
  known s h := by simp at h

/-- Types ask for nothing that the validators of the same schema have asked for already. -/
lemma Covered.types (h : Covered G w) (hg : TypesAsk G w w')
    (hv : w'.validators = w.validators) : Covered G w' where
  names key x hx := by
    rw [hv]
    rcases hg.names key x hx with hx | hs | ⟨s, hs, n, hn, e, he, hx, new⟩
    · rcases h.names key x hx with hd | hs | ⟨s, hs, hp, n, hn, e, he, hx⟩
      · exact .inl hd
      · exact .inr (.inl (hs.mono hg.registry))
      · exact .inr (.inr ⟨s, hg.processed hs, hp, n, hn, e, he, hg.registry _ _ hx⟩)
    · exact .inr (.inl hs)
    · refine .inr (.inr ⟨s, hs, ?_, n, hn, e, he, hx⟩)
      by_cases hp : s ∈ w.validators.processed
      · refine .inr ((h.known s hp).resolve_right fun hk => ?_)
        have := hk n hn e (n.mem_enumerations none he)
        rw [new] at this
        simp at this
      · exact .inl hp
  known s hs := by
    rw [hv] at hs ⊢
    exact (h.known s hs).imp_right fun hk n hn e he => Registry.known?_mono hg.registry
      (hk n hn e he)

/-- Validators ask for all that is left to ask for their schemas. -/
lemma Covered.validators (h : Covered G w) (hg : ValidatorsAsk G w w')
    (ht : w'.types = w.types) : Covered G w' where
  names key x hx := by
    rcases hg.names key x hx with hx | hx
    · rcases h.names key x hx with hd | hs | ⟨s, hs, hp, n, hn, e, he, hx⟩
      · exact .inl (hg.validators.emitted hd)
      · exact .inr (.inl (hs.mono hg.registry))
      · have hx' := hg.registry _ _ hx
        rcases hp with hp | hf
        · by_cases hp' : s ∈ w'.validators.processed
          · rcases hg.seen s hp' hp with hf | hs'
            · exact .inr (.inr ⟨s, ht ▸ hs, .inr hf, n, hn, e, he, hx'⟩)
            · exact .inl ((hs' n hn e (n.mem_enumerations none he)).2 x hx)
          · exact .inr (.inr ⟨s, ht ▸ hs, .inl hp', n, hn, e, he, hx'⟩)
        · exact .inr (.inr ⟨s, ht ▸ hs, .inr (hg.validators.failed hf), n, hn, e, he, hx'⟩)
    · exact hx.imp_right .inl
  known s hs := by
    by_cases hp : s ∈ w.validators.processed
    · rcases h.known s hp with hf | hk
      · exact .inl (hg.validators.failed hf)
      · exact .inr fun n hn e he => Registry.known?_mono hg.registry (hk n hn e he)
    · exact (hg.seen s hs hp).imp_right fun hs n hn e he => (hs n hn e he).1

end ClientGen.Emission
