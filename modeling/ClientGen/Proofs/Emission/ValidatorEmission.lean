import ClientGen.Proofs.Emission.ValidatorFile

/-!
# Emission of validators

Every emission of a schema keeps the validator file sound, whatever the schemas lead to and however
it ends, as long as it ends with a result or with an error of a schema.
-/

namespace ClientGen.Emission

open Api Enumeration Naming Output Relation Schema Template TypeScript

variable {c : Setting} {G : Ground c} {path : List String} {r : Registry} {owner s x name : String}
  {w w' : Workspace}

/-! ### The contract -/

/-- The validator file grows and with it the registry and the deferred schemas; the types stay as
they are. -/
structure ValidatorsStep (w w' : Workspace) : Prop where
  registry : w.registry ≤ w'.registry
  validators : FileProceeds w.validators w'.validators
  types : w'.types = w.types
  deferredTargets : w.deferredTargets ⊆ w'.deferredTargets

lemma ValidatorsStep.refl (w : Workspace) : ValidatorsStep w w :=
  ⟨le_refl _, .refl _, rfl, fun _ h => h⟩

lemma ValidatorsStep.trans {w'' : Workspace} (h : ValidatorsStep w w')
    (h' : ValidatorsStep w' w'') : ValidatorsStep w w'' :=
  ⟨h.registry.trans h'.registry, h.validators.trans h'.validators, h'.types.trans h.types,
    List.Subset.trans h.deferredTargets h'.deferredTargets⟩

/-- What emission of validators keeps while the schemas of `path` are being lowered. -/
def Ground.validators (G : Ground c) (path : List String) : Contract where
  holds w := ValidatorsSound c G path w.registry w.validators w.deferredTargets
  grows := ValidatorsStep
  permits := G.permits
  grows_refl := ValidatorsStep.refl
  grows_trans := ValidatorsStep.trans
  quiet _ _ := ⟨⟨le_refl _, .refl _, rfl, fun _ h => h⟩, id⟩

/-- What a validator inside the schema `owner` may refer to: as soon as it is made a declared or a
shared constant, and when it is used that of a schema of the path that `owner` leads to. -/
def validatorTarget (c : Setting) (G : Ground c) (path : List String) (owner : String) :
    Knowledge (G.validators path) where
  eager q k w := q = none ∧ k ∈ w.validators.emitted ∨ SharedConst c w.registry w.validators q k
  deferred k w := ∃ s ∈ path, s ∈ w.deferredTargets ∧ G.leads owner s ∧
    ∃ x, c.identifier? w.registry s = some x ∧ k = validatorName x
  asked _ _ := True
  eager_stable hg h := h.imp (fun h => ⟨h.1, hg.validators.emitted h.2⟩)
    (.mono hg.registry hg.validators.usesCommon)
  deferred_stable hg := fun ⟨s, hs, ht, hl, x, hx, hk⟩ =>
    ⟨s, hs, hg.deferredTargets ht, hl, x, identifier?_mono hg.registry hx, hk⟩
  asked_stable _ h := h

/-- The schema is declared in the validator file. -/
def ValidatorDeclared (c : Setting) (s : String) (w : Workspace) : Prop :=
  ∃ x, validatorName x ∈ w.validators.emitted ∧ c.identifier? w.registry s = some x

lemma ValidatorDeclared.grows (hg : ValidatorsStep w w') (h : ValidatorDeclared c s w) :
    ValidatorDeclared c s w' := by
  obtain ⟨x, hx, hn⟩ := h
  exact ⟨x, hg.validators.emitted hx, identifier?_mono hg.registry hn⟩

lemma validatorsStep_registry (hle : w.registry ≤ r) : ValidatorsStep w { w with registry := r } :=
  ⟨hle, .refl _, rfl, fun _ h => h⟩

lemma constName_keeps
    (unknown : ∀ e, c.description.schema name = .error e → G.permits (.schema e)) :
    (G.validators path).Keeps (constName c name) w fun k w' =>
      w'.deferredTargets = w.deferredTargets ∧
        ∃ x, k = validatorName x ∧ c.identifier? w'.registry name = some x := by
  refine .map (.of_meets typeName_meets ?_ ?_)
  · rintro x w' hw ⟨hx, ⟨r, hle, rfl⟩, -⟩
    exact ⟨hw.registry hle, validatorsStep_registry hle, rfl, x, rfl, hx⟩
  · rintro e w' hw ⟨rfl, e', rfl, he⟩
    exact ⟨unknown e' he, fun _ _ => ⟨hw, .refl _⟩⟩

/-- A declaration is written, or its template cannot be rendered. -/
lemma declareValidator_meets {d : ValidatorDeclaration} : Meets (declareValidator c d) w
    (fun _ w' => ∃ d', d'.declaration = d ∧ writeDeclaration c.templates d = .ok d' ∧
      w' = { w with validators := w.validators.add d' })
    fun e _ => ∃ e', e = .render e' ∧ writeDeclaration c.templates d = .error e' := by
  unfold declareValidator
  refine meets_bind.2 (meets_liftM.2 ⟨fun d' hd => ?_, fun e he => ?_⟩)
  · have hd := Contract.mapError_eq_ok hd
    exact meets_modify.2 ⟨d', eq_of_writeDeclaration hd, hd, rfl⟩
  · obtain ⟨e', he', rfl⟩ := Contract.mapError_eq_error he
    exact ⟨e', rfl, he'⟩

/-- The constant of an enumeration inside a schema is declared afterwards. -/
lemma ensureValidatorEnum_keeps {values : List String} (bound : w.registry.Binds x) :
    (G.validators path).Keeps (ensureValidatorEnum c x values) w fun _ w' =>
      validatorName x ∈ w'.validators.emitted := by
  refine .get_bind (.ite (fun h => .pure fun _ => by simpa using h) fun _ => ?_)
  refine .of_meets declareValidator_meets ?_ ?_
  · rintro _ w' hw ⟨⟨_, content⟩, rfl, hd, rfl⟩
    exact ⟨ValidatorsSound.add hw (fun _ => hd) (fun _ _ hm => hm.elim) (fun _ hm => hm.elim)
      ⟨x, rfl, .inr (.inl bound)⟩, ⟨le_refl _, DeclarationFile.proceeds_add, rfl, fun _ h => h⟩,
      DeclarationFile.mem_emitted_add⟩
  · rintro e w' hw ⟨e', rfl, he⟩
    exact ⟨G.validatorUnwritten _ he, nofun⟩

lemma noteCommonValidators_keeps :
    (G.validators path).Keeps noteCommonValidators w fun _ w' =>
      w'.validators.usesCommon = true ∧ w'.registry = w.registry :=
  .modify fun hw => ⟨hw.useCommon, ⟨le_refl _, .useCommon, rfl, fun _ h => h⟩, rfl, rfl⟩

/-- The validator of an enumeration inside a schema is declared here or is shared. -/
lemma enumValidator_keeps {parent : String} {property : Option String} {values : List String} :
    (G.validators path).Keeps (enumValidator c parent property values) w
      (validatorTarget c G path owner).Covers := by
  unfold enumValidator
  refine Contract.Keeps.bind (Q := fun x w' => w'.registry.Binds x) (.of_meets inlineEnumName_meets
    ?_ fun _ _ _ h => h.elim) fun x w' _ hx => ?_
  · rintro x w' hw ⟨rfl, log, rfl⟩
    exact ⟨hw.registry Registry.le_nameOf, ⟨Registry.le_nameOf, .refl _, rfl, fun _ h => h⟩,
      Registry.binds_nameOf⟩
  · refine .ite (fun h => noteCommonValidators_keeps.bind fun _ w'' _ hu => .pure fun _ => ?_)
      fun _ => (ensureValidatorEnum_keeps hx).bind fun _ w'' _ hd => .pure fun _ => ?_
    · exact Validator.mentionsOnly_named (.inr ⟨rfl, hu.1, x, rfl, .inl (by simpa using h)⟩)
    · exact Validator.mentionsOnly_named (.inl ⟨rfl, hd⟩)

/-! ### References -/

/-- A demanded schema is declared afterwards if it can be. -/
def ValidatorsDemand (G : Ground c) (path : List String) (emit : String → SchemaNode → Emit Unit)
    (w : Workspace) (s : String) (n : SchemaNode) : Prop :=
  ∀ w', ValidatorsStep w w' → s ∉ w'.validators.processed →
    (G.validators path).Keeps (emit s n) w' fun _ w'' => ValidatorDeclared c s w''

/-- A schema that has been demanded and is not being lowered is declared. -/
lemma demandValidator_keeps {emit : String → SchemaNode → Emit Unit} {n : SchemaNode}
    (sound : s ∉ w.validators.failed) (beside : s ∉ path)
    (demand : ValidatorsDemand G path emit w s n) :
    (G.validators path).Keeps (demandValidator emit s n) w fun _ w' =>
      ValidatorDeclared c s w' := by
  refine .of_holds fun hw => .get_bind (.ite (fun h => ?_) fun h => .pure fun _ => ?_)
  · exact demand w (.refl w) (by simpa using h)
  · rcases hw.declared s (by simpa using h) with hp | hf | hd
    · exact absurd hp beside
    · exact absurd hf sound
    · exact hd

lemma declaredValidator_keeps {emit : String → SchemaNode → Emit Unit}
    {finish : Validator → Validator} {n : SchemaNode}
    (known : c.description.schema? s = some n) (leads : s ∈ path → G.leads owner s)
    (lowers : s ∈ path → ∃ n, G.lowers s n ∧ n.isEnumeration = false)
    (sound : s ∉ w.validators.failed)
    (demand : s ∉ c.commonSchemas → ValidatorsDemand G path emit w s n)
    (finished : ∀ v w', (validatorTarget c G path owner).Covers v w' →
      (validatorTarget c G path owner).Covers (finish v) w') :
    (G.validators path).Keeps (declaredValidator c path emit finish s n) w
      (validatorTarget c G path owner).Covers := by
  have named (w : Workspace) : (G.validators path).Keeps (constName c s) w fun k w' =>
      w'.deferredTargets = w.deferredTargets ∧
        ∃ x, k = validatorName x ∧ c.identifier? w'.registry s = some x :=
    constName_keeps fun e he => absurd he (schema_ne_error known)
  refine .ite (fun hc => ?_) fun hc => .ite (fun hp => ?_) fun hp => ?_
  · refine noteCommonValidators_keeps.bind fun _ w' _ hu => ?_
    refine (named w').bind fun k w'' hg hk => .pure fun _ => finished _ _ ?_
    obtain ⟨-, x, rfl, hx⟩ := hk
    exact Validator.mentionsOnly_named (.inr ⟨rfl, hg.validators.usesCommon hu.1, x, rfl,
      .inr ⟨s, by simpa using hc, hx⟩⟩)
  · have hp : s ∈ path := by simpa using hp
    refine Contract.Keeps.bind (Q := fun _ w' => s ∈ w'.deferredTargets) (.modify fun hw =>
      ⟨hw.defer hp (lowers hp), ⟨le_refl _, .refl _, rfl, fun _ h => mem_addNew.2 (.inl h)⟩,
        mem_addNew.2 (.inr rfl)⟩) fun _ w' _ ht => ?_
    refine (named w').bind fun k w'' hg hk => .pure fun _ => ?_
    obtain ⟨-, x, rfl, hx⟩ := hk
    exact Validator.mentionsOnly_deferred ⟨s, hp, hg.deferredTargets ht, leads hp, x, hx, rfl⟩
  · refine (demandValidator_keeps sound (by simpa using hp) (demand (by simpa using hc))).bind
      fun _ w' _ hd => ?_
    refine (named w').bind fun k w'' hg hk => .pure fun _ => finished _ _ ?_
    obtain ⟨-, x, rfl, hx⟩ := hk
    obtain ⟨y, hy, hs⟩ := hd.grows hg
    obtain rfl := Option.some.inj (hx.symm.trans hs)
    exact Validator.mentionsOnly_named (.inl ⟨rfl, hy⟩)

/-- The validator of a reference refers to what its owner may refer to. -/
lemma referenceValidator_keeps {emit : String → SchemaNode → Emit Unit} {pointer : String}
    {notes : Notes}
    (broken : ∀ e, c.description.resolve pointer = .error e → G.permits (.schema e))
    (leads : ∀ s n, c.description.resolve pointer = .ok (s, n) → s ∈ path → G.leads owner s)
    (lowers : ∀ s ∈ path, ∃ n, G.lowers s n ∧ n.isEnumeration = false)
    (demand : ∀ s n, c.description.resolve pointer = .ok (s, n) → s ∉ c.commonSchemas →
      ValidatorsDemand G path emit w s n) :
    (G.validators path).Keeps (referenceValidator c path emit pointer notes) w
      (validatorTarget c G path owner).Covers := by
  unfold referenceValidator
  refine Contract.Keeps.bind (Q := fun p w' => c.description.resolve pointer = .ok p ∧ w' = w)
    (.orSchemaError (fun p hp => ⟨hp, rfl⟩) broken) ?_
  rintro ⟨s, n⟩ w' - ⟨hp, rfl⟩
  refine .get_bind (.ite (fun _ => .pure fun _ => Validator.mentionsOnly_any) fun hf => ?_)
  refine declaredValidator_keeps (resolve_eq_ok hp) (leads s n hp) (lowers s) (by simpa using hf)
    (demand s n hp) fun v w'' hv => ?_
  split
  · exact hv.orNull
  · exact hv

/-! ### Schemas -/

/-- What a validator inside a schema on top of the path may refer to, the schema may refer to when
it is declared. -/
lemma deferral_of_target {path : List String} {k : String}
    (hx : c.identifier? w.registry owner = some x)
    (reach : ∀ s ∈ path, ReflTransGen G.leads s owner)
    (h : (validatorTarget c G (owner :: path) owner).deferred k w) :
    Deferral c G w.registry w.deferredTargets (validatorName x) k := by
  obtain ⟨s, hs, ht, hl, y, hy, hk⟩ := h
  refine ⟨s, ht, y, owner, x, hy, hk, hx, rfl, hl, ?_⟩
  rcases List.mem_cons.1 hs with rfl | hs
  · exact .refl
  · exact reach s hs

variable {references : ReferenceValidators} {node : SchemaNode}

/-- What is declared under the constant of the schema on top of the path lets it leave. -/
lemma declareLeaving_meets {w₁ : Workspace} {d : ValidatorDeclaration} {x : String}
    (new : name ∉ path) (reach : ∀ s ∈ path, ReflTransGen G.leads s name)
    (hw : ValidatorsSound c G (name :: path) w₁.registry w₁.validators w₁.deferredTargets)
    (hg : ValidatorsStep w w₁) (hx : c.identifier? w₁.registry name = some x)
    (hd : d.name = validatorName x)
    (eager : ∀ q k, d.Mentions q k → (validatorTarget c G (name :: path) name).eager q k w₁)
    (deferred : ∀ k, d.Defers k → (validatorTarget c G (name :: path) name).deferred k w₁)
    (explicit : name ∈ w₁.deferredTargets → ∃ v description,
      d = .schema (validatorName x) v true description) :
    Meets (declareValidator c d) w₁
      (fun _ w' => ValidatorsSound c G path w'.registry w'.validators w'.deferredTargets ∧
        ValidatorsStep w w' ∧ ValidatorDeclared c name w')
      fun e w' => G.permits e ∧ ∀ s, e = .schema s →
        ValidatorsSound c G (name :: path) w'.registry w'.validators w'.deferredTargets ∧
          ValidatorsStep w w' := by
  refine declareValidator_meets.imp ?_ ?_
  · rintro _ w' ⟨⟨d, content⟩, rfl, hwritten, rfl⟩
    refine ⟨hw.declare new hx hd (fun _ => hwritten) eager (fun k hm => hd ▸
      deferral_of_target hx reach (deferred k hm)) explicit, ?_, x, ?_, hx⟩
    · exact hg.trans ⟨le_refl _, DeclarationFile.proceeds_add, rfl, fun _ h => h⟩
    · exact hd ▸ DeclarationFile.mem_emitted_add
  · rintro e w' ⟨e', rfl, he⟩
    exact ⟨G.validatorUnwritten _ he, nofun⟩

/-- The schema on top of the path is declared and leaves it, given that its references are found. -/
lemma declareSchemaValidator_meets (references : ReferenceValidators)
    (lowers : G.lowers name node) (new : name ∉ path)
    (undeferred : name ∉ w.deferredTargets)
    (reach : ∀ s ∈ path, ReflTransGen G.leads s name)
    (hr : node.isEnumeration = false →
      (validatorTarget c G (name :: path) name).References references node.pointers w)
    (hw : ValidatorsSound c G (name :: path) w.registry w.validators w.deferredTargets) :
    Meets (declareSchemaValidator c references name node) w
      (fun _ w' => ValidatorsSound c G path w'.registry w'.validators w'.deferredTargets ∧
        ValidatorsStep w w' ∧ ValidatorDeclared c name w')
      fun e w' => G.permits e ∧ ∀ s, e = .schema s →
        ValidatorsSound c G (name :: path) w'.registry w'.validators w'.deferredTargets ∧
          ValidatorsStep w w' := by
  unfold declareSchemaValidator
  split
  · next values notes =>
    refine meets_bind.2 (meets_map.1 (constName_keeps (fun e he => G.unknown lowers he) hw) |>.imp
      ?_ fun _ _ h => h)
    rintro y w₁ ⟨hw₁, hg, hsame, x, hk, hx⟩
    obtain rfl := validatorName_injective hk
    have explicit : name ∉ w₁.deferredTargets := hsame ▸ undeferred
    refine meets_bind.2 (meets_get.2 ?_)
    split
    · next h =>
      -- The constant is there already, so that adding the declaration again changes nothing.
      have h : validatorName y ∈ w₁.validators.emitted := by simpa using h
      have hw₂ := hw₁.declare (d := ⟨.enumeration (validatorName y) values, ""⟩) new hx rfl
        (fun hn => absurd h hn)
        (fun _ _ hm => hm.elim) (fun _ hm => hm.elim) fun ht => absurd ht explicit
      rw [DeclarationFile.add_of_mem h] at hw₂
      exact meets_pure.2 ⟨hw₂, hg, y, h, hx⟩
    · exact declareLeaving_meets new reach hw₁ hg hx rfl (fun _ _ hm => hm.elim)
        (fun _ hm => hm.elim) fun ht => absurd ht explicit
  · next hne =>
    have hn : node.isEnumeration = false := by
      cases node <;> first | rfl | exact absurd rfl (hne _ _)
    refine meets_bind.2 ((validatorAt_keeps none 1 node w (hr hn)
      (fun _ _ _ _ => enumValidator_keeps.weaken fun _ _ _ _ hv => ⟨hv, trivial⟩)
      (G.long lowers) hw).imp ?_ fun _ _ h => h)
    rintro v w₁ ⟨hw₁, hg, hv, -⟩
    refine meets_bind.2 ((constName_keeps (fun e he => G.unknown lowers he) hw₁).imp ?_ ?_)
    · rintro k w₂ ⟨hw₂, hg', -, x, rfl, hx⟩
      have hv := hv.grows hg'
      exact meets_bind.2 (meets_get.2 (declareLeaving_meets new reach hw₂ (hg.trans hg') hx rfl
        hv.1 hv.2 fun ht => ⟨v, node.description, by simp [ht]⟩))
    · rintro e w₂ ⟨he, hs⟩
      exact ⟨he, fun s h => ⟨(hs s h).1, hg.trans (hs s h).2⟩⟩

/-- A schema that has not been begun is declared with all it needs, or it fails. -/
lemma emitValidatorWithin_meets : ∀ (budget : Nat) (path : List String) (name : String)
    (node : SchemaNode) (w : Workspace), G.within name → G.lowers name node →
    name ∉ w.validators.processed → c.Room (w.validators.processed ++ [name]) budget →
    (∀ s ∈ path, ReflTransGen G.leads s name) →
    (∀ s ∈ path, ∃ n, G.lowers s n ∧ n.isEnumeration = false) →
    ValidatorsSound c G path w.registry w.validators w.deferredTargets →
    Meets (emitValidatorWithin c budget path name node) w
      (fun _ w' => ValidatorsSound c G path w'.registry w'.validators w'.deferredTargets ∧
        ValidatorsStep w w' ∧ name ∈ w'.validators.processed ∧ ValidatorDeclared c name w')
      fun e w' => G.permits e ∧ ∀ s, e = .schema s →
        ValidatorsSound c G path w'.registry w'.validators w'.deferredTargets ∧
          ValidatorsStep w w' ∧ name ∈ w'.validators.processed
  | 0, _, _, _, _, _, _, _, room, _, _, _ => absurd room (Nat.not_lt_zero _)
  | budget + 1, path, name, node, w, within, lowers, new, room, reach, nodes, hw => by
    have step : ValidatorsStep w { w with validators :=
        { w.validators with processed := w.validators.processed ++ [name] } } :=
      ⟨le_refl _, .start, rfl, fun _ h => h⟩
    have reach' (s : String) (hl : G.leads name s) :
        ∀ t ∈ name :: path, ReflTransGen G.leads t s := by
      intro t ht
      rcases List.mem_cons.1 ht with rfl | ht
      · exact .single hl
      · exact (reach t ht).tail hl
    have nodes' (hn : node.isEnumeration = false) :
        ∀ t ∈ name :: path, ∃ n, G.lowers t n ∧ n.isEnumeration = false := by
      intro t ht
      rcases List.mem_cons.1 ht with rfl | ht
      · exact ⟨node, lowers, hn⟩
      · exact nodes t ht
    have body := declareSchemaValidator_meets (w := { w with validators :=
        { w.validators with processed := w.validators.processed ++ [name] } })
      (referenceValidator c (name :: path) (emitValidatorWithin c budget (name :: path))) lowers
      (fun h => new (hw.path_subset h)) (fun h => new (hw.lowered name h).1) reach
      (fun hn pointer hp notes w₁ hg₁ => referenceValidator_keeps
        (fun e he => G.broken lowers hp he) (fun s n hs _ => (G.closed lowers hp hs).1) (nodes' hn)
        fun s n hs hc w₂ hg₂ hn₂ => by
          obtain ⟨hl, hin⟩ := G.closed lowers hp hs
          have room' := room.next (hg₁.trans hg₂).validators.processed
            (mem_schemaNames (resolve_eq_ok hs)) hn₂
          exact fun hw₂ => (emitValidatorWithin_meets budget (name :: path) s n w₂ (hin hc).1
            (hin hc).2 hn₂ room' (reach' s hl) (nodes' hn) hw₂).imp
            (fun _ _ ⟨hw', hg, _, hd⟩ => ⟨hw', hg, hd⟩)
            fun _ _ ⟨he, hs⟩ => ⟨he, fun e h => ⟨(hs e h).1, (hs e h).2.1⟩⟩)
      (hw.start new within)
    rw [emitValidatorWithin]
    refine meets_bind.2 (meets_modify.2 (meets_bind.2 (meets_caught.2 (body.imp ?_ ?_))))
    · intro _ w' ⟨hw', hg, hd⟩
      exact meets_pure.2 ⟨hw', step.trans hg, hg.validators.processed (by simp), hd⟩
    · rintro (e | e | e | e) w' ⟨he, hs⟩
      · obtain ⟨hw', hg⟩ := hs e rfl
        refine meets_bind.2 (meets_modify.2 (meets_throw.2 ⟨he, fun _ _ => ⟨hw'.fail he, ?_, ?_⟩⟩))
        · have later := step.trans hg
          exact ⟨later.registry, later.validators.fail new, later.types, later.deferredTargets⟩
        · exact hg.validators.processed (by simp)
      all_goals exact ⟨he, nofun⟩

/-- A schema has been dealt with after its emission, whatever node it is given. -/
lemma emitValidator_meets (given : Option SchemaNode) (within : G.within name)
    (lowers : ∀ n, given = some n ∨ given = none ∧ c.description.schema? name = some n →
      G.lowers name n)
    (hw : ValidatorsSound c G [] w.registry w.validators w.deferredTargets) :
    Meets (emitValidator c name given) w
      (fun _ w' => ValidatorsSound c G [] w'.registry w'.validators w'.deferredTargets ∧
        ValidatorsStep w w' ∧ name ∈ w'.validators.processed)
      fun e w' => (G.permits e ∨ c.description.schema? name = none) ∧ ∀ s, e = .schema s →
        ValidatorsSound c G [] w'.registry w'.validators w'.deferredTargets ∧
          ValidatorsStep w w' ∧
          ((∃ n, c.description.schema? name = some n) → name ∈ w'.validators.processed) := by
  unfold emitValidator
  refine meets_bind.2 (meets_get.2 ?_)
  split
  · next h => exact meets_pure.2 ⟨hw, .refl w, by simpa using h⟩
  · next new =>
    have emitted {n : SchemaNode} (hn : G.lowers name n) : Meets
        (emitValidatorWithin c (nestingBound c) [] name n) w
        (fun _ w' => ValidatorsSound c G [] w'.registry w'.validators w'.deferredTargets ∧
          ValidatorsStep w w' ∧ name ∈ w'.validators.processed)
        fun e w' => (G.permits e ∨ c.description.schema? name = none) ∧ ∀ s, e = .schema s →
          ValidatorsSound c G [] w'.registry w'.validators w'.deferredTargets ∧
            ValidatorsStep w w' ∧
            ((∃ n, c.description.schema? name = some n) → name ∈ w'.validators.processed) :=
      (emitValidatorWithin_meets _ [] name n w within hn (by simpa using new) room_nestingBound
        (by simp) (by simp) hw).imp (fun _ _ ⟨hw', hg, hp, _⟩ => ⟨hw', hg, hp⟩)
        fun _ _ ⟨he, hs⟩ =>
          ⟨.inl he, fun s h => ⟨(hs s h).1, (hs s h).2.1, fun _ => (hs s h).2.2⟩⟩
    cases given with
    | some n => exact meets_bind.2 (meets_pure.2 (emitted (lowers n (.inl rfl))))
    | none =>
      refine meets_bind.2 (meets_liftM.2 ⟨fun n hn => ?_, fun e he => ?_⟩)
      · have hn := schema_eq_ok (Contract.mapError_eq_ok hn)
        exact emitted (lowers n (.inr ⟨rfl, hn⟩))
      · obtain ⟨e', he', rfl⟩ := Contract.mapError_eq_error he
        refine ⟨.inr (schema_eq_error he'), fun _ _ => ⟨hw, .refl w, fun ⟨n, hn⟩ => ?_⟩⟩
        exact absurd he' (schema_ne_error hn)

end ClientGen.Emission
