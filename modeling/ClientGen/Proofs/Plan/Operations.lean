import ClientGen.Proofs.Emission.OperationSchemas
import ClientGen.Proofs.Plan.Schemas

/-!
# The operations of a module

Operations are emitted when all schemas of their module have been dealt with. What they add to the
two files keeps these sound, and what they refer to goes through the namespace of the module or that
of the shared schemas. No error of a schema ends an operation.
-/

namespace ClientGen

open Api Emission Output Schema TypeScript

variable {c : Setting} {G : Ground c} {w w' : Workspace} {α : Type} {n : SchemaNode}
  {parent owner : String} {property : Option String} {t : Target} {op : Operation}

/-! ### Contracts -/

/-- What is known of a node inside an operation: where its references lead, and which errors it gives
reason for. -/
structure Emission.Ground.Admits (G : Ground c) (n : SchemaNode) : Prop where
  broken : ∀ pointer ∈ n.pointers, ∀ e, c.description.resolve pointer = .error e →
    G.permits (.schema e)
  within : ∀ pointer ∈ n.pointers, ∀ s m, c.description.resolve pointer = .ok (s, m) →
    s ∉ c.commonSchemas → G.within s
  long : n.hasLongInteger = true → ∀ f, G.permits (.digits f)

/-- What is kept once all schemas of a directory have been dealt with. -/
def Emission.Ground.settled (G : Ground c) : Contract where
  holds w := FilesSound c G w ∧ ∀ s, G.within s → BothProcessed s w
  grows := FilesGrow
  permits := G.permits
  grows_refl := .refl
  grows_trans := .trans
  quiet _ _ := ⟨⟨le_refl _, .refl _, .refl _⟩, fun h => ⟨⟨h.1.types, h.1.validators⟩, h.2⟩⟩

lemma settled_of_types {x : Emit α} {Q : α → Workspace → Prop} (h : (G.types []).Keeps x w Q) :
    G.settled.Keeps x w Q := by
  intro hw
  have step {w' : Workspace} (hg : TypesStep w w')
      (hw' : TypesSound c G [] w'.registry w'.types) : G.settled.holds w' ∧ FilesGrow w w' :=
    ⟨⟨hw.1.typesStep hg hw', fun s hs => (hw.2 s hs).grows hg.filesGrow⟩, hg.filesGrow⟩
  refine (h hw.1.types).imp ?_ ?_
  · rintro a w' ⟨hw', hg, ha⟩
    exact ⟨(step hg hw').1, (step hg hw').2, ha⟩
  · rintro e w' ⟨he, hs⟩
    exact ⟨he, fun s h => step (hs s h).2 (hs s h).1⟩

lemma settled_of_validators {x : Emit α} {Q : α → Workspace → Prop}
    (h : (G.validators []).Keeps x w Q) : G.settled.Keeps x w Q := by
  intro hw
  have step {w' : Workspace} (hg : ValidatorsStep w w')
      (hw' : ValidatorsSound c G [] w'.registry w'.validators w'.deferredTargets) :
      G.settled.holds w' ∧ FilesGrow w w' :=
    ⟨⟨hw.1.validatorsStep hg hw', fun s hs => (hw.2 s hs).grows hg.filesGrow⟩, hg.filesGrow⟩
  refine (h hw.1.validators).imp ?_ ?_
  · rintro a w' ⟨hw', hg, ha⟩
    exact ⟨(step hg hw').1, (step hg hw').2, ha⟩
  · rintro e w' ⟨he, hs⟩
    exact ⟨he, fun s h => step (hs s h).2 (hs s h).1⟩

/-- The type of a node inside an operation declares no further schema. -/
lemma outerType_keeps {namespace_ : Option String} (owner : String) (hn : G.Admits n) :
    G.settled.Keeps (typeAt c namespace_ (outerReferenceType c namespace_) parent property 1 n) w
      (OnTarget c G [] owner namespace_) := by
  refine .of_holds fun hw => settled_of_types ?_
  refine typeAt_keeps (K := G.types []) (P := TypeTarget c G [] owner namespace_)
    (fun _ _ _ _ hg ht => ht.grows hg.registry hg.types.toFileGrows) property 1 n w (fun pointer hp notes w₁ hg₁ => ?_) fun _ _ _ _ => enumType_keeps
  refine referenceType_keeps (hn.broken pointer hp) (fun _ _ _ hs => by simp at hs) ?_
  intro s m hs hc w₂ hg₂ new
  have begun := (hw.2 s (hn.within pointer hp s m hs hc)).1
  exact absurd ((hg₁.trans hg₂).types.processed begun) new

/-- The validator of a node inside an operation declares no further schema. -/
lemma localValidator_keeps (owner : String) (hn : G.Admits n) :
    G.settled.Keeps (localValidator c parent property 1 n) w
      (validatorTarget c G [] owner).Covers := by
  refine .of_holds fun hw => settled_of_validators ?_
  refine (validatorAt_keeps (N := validatorTarget c G [] owner) property 1 n w
    (fun pointer hp notes w₁ hg₁ => ?_)
    (fun _ _ _ _ => enumValidator_keeps.weaken fun _ _ _ _ hv => ⟨hv, trivial⟩)
    hn.long).weaken fun _ _ _ _ hv => hv.1
  refine referenceValidator_keeps (hn.broken pointer hp) (fun _ _ _ hs => by simp at hs) (by simp)
    ?_
  intro s m hs hc w₂ hg₂ new
  have begun := (hw.2 s (hn.within pointer hp s m hs hc)).2
  exact absurd ((hg₁.trans hg₂).validators.processed begun) new

/-- Of the validator file only enumerations are new. -/
structure OnlyEnumerations (w w' : Workspace) : Prop where
  processed : w.validators.processed ⊆ w'.validators.processed
  declarations : ∀ d ∈ w'.validators.declarations, d ∈ w.validators.declarations ∨
    ∃ name values, d.declaration = .enumeration name values

lemma OnlyEnumerations.of_eq (h : w'.validators.processed = w.validators.processed)
    (hd : w'.validators.declarations = w.validators.declarations) : OnlyEnumerations w w' :=
  ⟨h ▸ fun _ hs => hs, fun _ h => .inl (hd ▸ h)⟩

lemma OnlyEnumerations.trans {w'' : Workspace} (h : OnlyEnumerations w w')
    (h' : OnlyEnumerations w' w'') : OnlyEnumerations w w'' :=
  ⟨List.Subset.trans h.processed h'.processed, fun d hd =>
    (h'.declarations d hd).elim (h.declarations d) .inr⟩

/-- What is added beside the schemas of a directory. -/
def Emission.Ground.additions (G : Ground c) : Contract where
  holds w := ∀ s, G.within s → s ∈ w.validators.processed
  grows := OnlyEnumerations
  permits _ := True
  grows_refl _ := .of_eq rfl rfl
  grows_trans := .trans
  quiet _ _ := ⟨.of_eq rfl rfl, id⟩

/-- Nothing is known of what a validator refers to. -/
def anyTarget (K : Contract) : Knowledge K where
  eager _ _ _ := True
  deferred _ _ := True
  asked _ _ := True
  eager_stable _ h := h
  deferred_stable _ h := h
  asked_stable _ h := h

lemma covers_anyTarget {K : Contract} {v : Validator} : (anyTarget K).Covers v w :=
  ⟨fun _ _ _ => trivial, fun _ _ => trivial⟩

lemma constName_additions {s : String} :
    G.additions.Keeps (constName c s) w fun _ _ => True := by
  refine .map (.of_meets typeName_meets ?_ ?_)
  · rintro x w' hw ⟨-, ⟨r, -, rfl⟩, -⟩
    exact ⟨hw, .of_eq rfl rfl, trivial⟩
  · rintro e w' hw ⟨rfl, -⟩
    exact ⟨trivial, fun _ _ => ⟨hw, .of_eq rfl rfl⟩⟩

lemma noteCommonValidators_additions :
    G.additions.Keeps noteCommonValidators w fun _ _ => True :=
  .modify fun hw => ⟨hw, .of_eq rfl rfl, trivial⟩

lemma enumValidator_additions {values : List String} :
    G.additions.Keeps (enumValidator c parent property values) w fun _ _ => True := by
  unfold enumValidator
  refine Contract.Keeps.bind (Q := fun _ _ => True) (.of_meets inlineEnumName_meets ?_
    fun _ _ _ h => h.elim) fun x w' _ _ => ?_
  · rintro x w' hw ⟨-, log, rfl⟩
    exact ⟨hw, .of_eq rfl rfl, trivial⟩
  · refine .ite (fun _ => noteCommonValidators_additions.bind fun _ _ _ _ => .pure fun _ => trivial)
      fun _ => ?_
    refine Contract.Keeps.bind (Q := fun _ _ => True) ?_ fun _ _ _ _ => .pure fun _ => trivial
    refine .get_bind (.ite (fun _ => .pure fun _ => trivial) fun _ => ?_)
    refine .of_meets declareValidator_meets ?_ fun _ _ _ ⟨e, he, _⟩ => ⟨trivial, fun s hs => by
      simp [he] at hs⟩
    rintro _ w' hw ⟨d, hd, -, rfl⟩
    refine ⟨fun s hs => by simpa using hw s hs, ⟨by simp, fun e he => ?_⟩, trivial⟩
    exact (DeclarationFile.mem_declarations_add he).imp_right fun ⟨h, _⟩ => ⟨_, _, h ▸ hd⟩

lemma referenceValidator_additions {emit : String → SchemaNode → Emit Unit} {pointer : String}
    {notes : Notes}
    (within : ∀ s m, c.description.resolve pointer = .ok (s, m) → s ∉ c.commonSchemas →
      G.within s) :
    G.additions.Keeps (referenceValidator c [] emit pointer notes) w fun _ _ => True := by
  unfold referenceValidator
  refine Contract.Keeps.bind (Q := fun p _ => c.description.resolve pointer = .ok p)
    (.orSchemaError (fun p hp => hp) fun _ _ => trivial) ?_
  rintro ⟨s, m⟩ w' - hp
  refine .get_bind (.ite (fun _ => .pure fun _ => trivial) fun _ => ?_)
  refine .ite (fun _ => ?_) fun hc => .ite (fun hs => by simp at hs) fun _ => ?_
  · exact noteCommonValidators_additions.bind fun _ _ _ _ =>
      constName_additions.bind fun _ _ _ _ => .pure fun _ => trivial
  · refine Contract.Keeps.bind (Q := fun _ _ => True) (.of_holds fun hw => .get_bind (.ite
      (fun new => ?_) fun _ => .pure fun _ => trivial)) fun _ _ _ _ =>
        constName_additions.bind fun _ _ _ _ => .pure fun _ => trivial
    exact absurd (hw s (within s m hp (by simpa using hc))) (by simpa using new)

/-- The validator of a node inside an operation adds nothing but enumerations. -/
lemma localValidator_additions (hn : G.Admits n) :
    G.additions.Keeps (localValidator c parent property 1 n) w fun _ _ => True :=
  (validatorAt_keeps (N := anyTarget G.additions) property 1 n w
    (fun pointer hp _ _ _ => (referenceValidator_additions (hn.within pointer hp)).weaken
      fun _ _ _ _ _ => covers_anyTarget)
    (fun _ _ _ _ => enumValidator_additions.weaken fun _ _ _ _ _ => ⟨covers_anyTarget, trivial⟩)
    fun _ _ => trivial).weaken fun _ _ _ _ _ => trivial

/-- The file does not refer to the shared schemas because of what was only needed. -/
lemma FilesSound.unnote (before : FilesSound c G w) (after : FilesSound c G w')
    (added : OnlyEnumerations w w') :
    FilesSound c G { w' with validators.usesCommon := w.validators.usesCommon } where
  types := after.types
  validators := after.validators.noteCommon fun d hd m k hm => by
    rcases added.declarations d hd with hd | ⟨name, values, hd⟩
    · exact (before.validators.shared d hd m k hm).2.1
    · rw [hd] at hm
      exact hm.elim

lemma declareNeeds_keeps (hn : G.Admits n) :
    G.settled.handled.Keeps (declareNeeds c op parent property n) w fun _ _ => True := by
  intro hw
  have unnoted {w' : Workspace} (hw' : G.settled.holds w') (hg : FilesGrow w w')
      (added : OnlyEnumerations w w') :
      G.settled.holds { w' with validators.usesCommon := w.validators.usesCommon } ∧
        FilesGrow w { w' with validators.usesCommon := w.validators.usesCommon } :=
    ⟨⟨hw.1.unnote hw'.1 added, hw'.2⟩, hg.registry, hg.types, ⟨hg.validators.processed,
      hg.validators.failed, hg.validators.declarations, id⟩, hg.validators.fresh⟩
  have validator : Meets (localValidator c parent property 1 n) w _ _ :=
    (localValidator_keeps parent hn hw).and
      (localValidator_additions hn fun s hs => (hw.2 s hs).2)
  unfold declareNeeds
  refine meets_bind.2 (meets_get.2 (meets_bind.2 (meets_caught.2 (validator.imp ?_ ?_))))
  · rintro v w' ⟨⟨hw', hg, -⟩, -, added, -⟩
    obtain ⟨hw'', hg'⟩ := unnoted hw' hg added
    exact meets_bind.2 (meets_modify.2 (meets_pure.2 ⟨hw'', hg', trivial⟩))
  · rintro (e | e | e | e) w' ⟨⟨he, hs⟩, -, added⟩
    · obtain ⟨hw'', hg'⟩ := unnoted (hs e rfl).1 (hs e rfl).2 (added e rfl).2
      exact meets_bind.2 (meets_modify.2 (meets_modify.2
        ⟨(G.settled.quiet _ _).2 hw'', hg'.trans (G.settled.quiet _ _).1, trivial⟩))
    all_goals exact ⟨⟨he, by rintro _ ⟨⟩⟩, by rintro _ ⟨⟩⟩

/-! ### Operations -/

/-- What an operation may go through: the namespace of its module to a declared type, and that of
the shared schemas to a shared one. -/
def OperationTarget (c : Setting) (t : Target) (q : Option String) (x : String) (w : Workspace) :
    Prop :=
  q = some t.namespace_ ∧ x ∈ w.types.emitted ∨
    q = some commonNamespace ∧ c.SharedName w.registry x

/-- All that a type goes through is a target of the module's operations. -/
def OnOperationTarget (c : Setting) (t : Target) (e : TypeExpr) (w : Workspace) : Prop :=
  e.MentionsOnly (OperationTarget c t · · w)

lemma OnOperationTarget.grows {e : TypeExpr} (hg : FilesGrow w w')
    (h : OnOperationTarget c t e w) : OnOperationTarget c t e w' :=
  h.imp fun _ _ ht => ht.imp (And.imp_right fun hx => hg.types.emitted hx)
    (And.imp_right (.mono hg.registry))

lemma onOperationTarget_of_onTarget {e : TypeExpr} (h : OnTarget c G [] owner (some t.namespace_) e w) :
    OnOperationTarget c t e w := by
  refine TypeExpr.MentionsOnly.imp h fun q x hx => ?_
  rcases hx with ⟨hq, hx | ⟨s, hs, -⟩⟩ | ⟨hq, -, hx⟩
  · exact .inl ⟨hq, hx⟩
  · simp at hs
  · exact .inr ⟨hq, hx⟩

/-- The type of a body, a response or a path parameter. -/
lemma operationType_keeps (hn : G.Admits n) :
    G.settled.handled.Keeps (operationType c t op parent property n) w
      (OnOperationTarget c t) := by
  unfold operationType
  refine Contract.Keeps.bind (Q := fun r w' => ∀ e, r = .ok e → OnOperationTarget c t e w')
    (.handled ((outerType_keeps parent hn).weaken fun e w' _ _ he => ?_)
      fun _ _ _ _ _ => nofun) fun r w' _ hr => ?_
  · rintro _ ⟨⟩
    exact onOperationTarget_of_onTarget he
  · rcases r with e | e
    · exact .bind (.note (T := fun _ _ => True) fun _ _ => trivial) fun _ _ _ _ =>
        .pure fun _ => TypeExpr.mentionsOnly_any
    · exact (declareNeeds_keeps hn).bind fun _ w'' hg _ => .pure fun _ => (hr e rfl).grows hg

/-- What is known of every schema of an operation. -/
def Emission.Ground.AdmitsAll (G : Ground c) (op : Operation) : Prop :=
  ∀ n ∈ op.schemas, G.Admits n

/-- A placeholder without a parameter is a text, of which nothing needs to be known. -/
lemma admits_placeholderSchema {name : String} (h : G.AdmitsAll op) :
    G.Admits (placeholderSchema op name) := by
  rcases placeholderSchema_cases op name with hp | hp
  · exact h _ hp
  · rw [hp]
    exact ⟨by simp [SchemaNode.pointers], by simp [SchemaNode.pointers],
      fun hl => absurd hl (by decide)⟩

lemma pathArguments_keeps {pascal : String} (h : G.AdmitsAll op) :
    G.settled.handled.Keeps (pathArguments c t op pascal) w fun as w' =>
      ∀ a ∈ as, OnOperationTarget c t a.type w' := by
  refine (Contract.Keeps.mapM (K := G.settled.handled)
    (S := fun _ (a : Argument) w' => OnOperationTarget c t a.type w')
    (fun _ _ _ _ hg ha => OnOperationTarget.grows hg ha) _ w fun name _ w' _ =>
      (operationType_keeps (admits_placeholderSchema h)).bind fun _ _ _ ht =>
        .pure fun _ => ht).weaken fun as w' _ _ hs a ha => ?_
  obtain ⟨_, -, ha⟩ := exists_of_forall₂_right hs ha
  exact ha

lemma bodyArgument_keeps {pascal : String} (h : G.AdmitsAll op) :
    G.settled.handled.Keeps (bodyArgument? c t op pascal) w fun a w' =>
      ∀ b ∈ a, OnOperationTarget c t b.type w' := by
  unfold bodyArgument?
  split
  · exact .pure fun _ => by simp
  · next node hb =>
    refine (operationType_keeps (h _ (mem_schemas_of_body hb))).bind fun e w' _ he => .pure fun _ b hb => ?_
    obtain rfl := Option.mem_some_iff.1 hb
    exact he

lemma operationResponse_keeps {pascal : String} (h : G.AdmitsAll op) :
    G.settled.handled.Keeps (operationResponse c t op pascal) w (OnOperationTarget c t) := by
  unfold operationResponse
  split
  · exact .pure fun _ => TypeExpr.mentionsOnly_any
  · next node hr =>
    exact operationType_keeps (h _ (mem_schemas_of_response hr))

/-! ### Queries -/

lemma queryTypeField_keeps {pascal : String} {p : Parameter} (hn : G.Admits p.schema) :
    G.settled.handled.Keeps (queryTypeField c op pascal p) w fun f w' =>
      OnTarget c G [] owner none f.type w' := by
  unfold queryTypeField
  refine Contract.Keeps.bind
    (Q := fun r w' => ∀ f, r = .ok f → OnTarget c G [] owner none f.type w')
    (.handled ((typeField_keeps (P := TypeTarget c G [] owner none) (outerType_keeps owner hn)).weaken
      fun f w' _ _ hf => ?_) fun _ _ _ _ _ => nofun) fun r w' _ hr => ?_
  · rintro _ ⟨⟩
    exact hf
  · rcases r with e | f
    · exact .bind (.note (T := fun _ _ => True) fun _ _ => trivial) fun _ _ _ _ =>
        .pure fun _ => TypeExpr.mentionsOnly_any
    · refine .pure fun _ => ?_
      unfold describedBy
      split
      · exact hr f rfl
      · exact hr f rfl

lemma queryValidatorField_keeps {pascal : String} {p : Parameter} (hn : G.Admits p.schema) :
    G.settled.handled.Keeps (queryValidatorField c pascal p) w fun f w' =>
      (validatorTarget c G [] owner).Covers f.validator w' := by
  unfold queryValidatorField
  refine Contract.Keeps.bind
    (Q := fun r w' => ∀ v, r = .ok v → (validatorTarget c G [] owner).Covers v w')
    (.handled ((localValidator_keeps owner hn).weaken fun v w' _ _ hv => ?_)
      fun _ _ _ _ _ => nofun) fun r w' _ hr => ?_
  · rintro _ ⟨⟩
    exact hv
  · rcases r with e | v
    · exact .pure fun _ => Validator.mentionsOnly_any
    · exact .pure fun _ => hr v rfl

lemma onTarget_filesGrow {namespace_ : Option String} {e : TypeExpr} (hg : FilesGrow w w')
    (h : OnTarget c G [] owner namespace_ e w) : OnTarget c G [] owner namespace_ e w' :=
  TypeExpr.MentionsOnly.imp h fun _ _ => TypeTarget.grows hg.registry hg.types.toFileGrows

/-- Outside any schema there is nothing to be looked up only when it is used. -/
lemma no_deferral {v : Validator} (h : (validatorTarget c G [] owner).Covers v w) (k : String) :
    ¬ v.Defers k := by
  intro hk
  obtain ⟨s, hs, -⟩ := h.2 k hk
  simp at hs

lemma covers_filesGrow {v : Validator} (hg : FilesGrow w w')
    (h : (validatorTarget c G [] owner).Covers v w) :
    (validatorTarget c G [] owner).Covers v w' :=
  ⟨fun q k hm => (h.1 q k hm).imp (And.imp_right fun hk => hg.validators.emitted hk)
    (.mono hg.registry hg.validators.usesCommon), fun k hk => (no_deferral h k hk).elim⟩

/-- The interface of a query is declared beside the schemas. -/
lemma declareType_settled {d : TypeDeclaration} (owner : String) (plain : d.isEnumeration = false)
    (mentions : ∀ q x, d.Mentions q x → TypeTarget c G [] owner none q x w) :
    G.settled.handled.Keeps (declareType c d) w fun _ w' => d.name ∈ w'.types.emitted := by
  have kept : G.settled.Keeps (declareType c d) w fun _ w' => d.name ∈ w'.types.emitted := by
    refine settled_of_types (declareType_keeps (by simp [plain]) fun q x hm => ?_)
    rcases mentions q x hm with ⟨hq, hx | ⟨s, hs, -⟩⟩ | ⟨hq, hu, hx⟩
    · exact .inl ⟨hq, .inl hx⟩
    · simp at hs
    · exact .inr ⟨hq, hu rfl, hx⟩
  refine fun hw => ((kept hw).and declareType_meets).imp (fun _ _ h => h.1) ?_
  rintro e w' ⟨⟨he, hs⟩, e', rfl, -⟩
  exact ⟨⟨he, by rintro _ ⟨⟩⟩, hs⟩

/-- The validator of a query is declared beside the schemas. -/
lemma declareObjectValidator_settled {x : String} {fields : List Field} (owner : String)
    (foreign : G.foreign x)
    (covers : ∀ f ∈ fields, (validatorTarget c G [] owner).Covers f.validator w) :
    G.settled.handled.Keeps (declareObjectValidator c (validatorName x) fields) w
      fun _ _ => True := by
  have covered : (validatorTarget c G [] owner).Covers (.object 0 fields) w :=
    Validator.mentionsOnly_object.2 covers
  intro hw
  refine declareValidator_meets.imp ?_ ?_
  · rintro _ _ ⟨⟨_, content⟩, rfl, hd, rfl⟩
    have added := hw.1.validators.add (d := ⟨.schema (validatorName x) (.object 0 fields) false none,
      content⟩) (fun _ => hd) covered.1 (fun k hk => (no_deferral covered k hk).elim)
      ⟨x, rfl, .inr (.inr foreign)⟩
    refine ⟨⟨⟨hw.1.types, added⟩, fun s hs => ?_⟩, ⟨le_refl _, .refl _, ?_⟩, trivial⟩
    · exact (hw.2 s hs).imp_right fun h => by simpa using h
    · exact DeclarationFile.proceeds_add
  · rintro e _ ⟨e', rfl, he⟩
    exact ⟨⟨G.validatorUnwritten _ he, by rintro _ ⟨⟩⟩, by rintro _ ⟨⟩⟩

/-- The query of an operation is declared in both files and is entered through the namespace of the
module. -/
lemma queryArgument_keeps {pascal : String} (foreign : ∀ x, G.foreign x) (h : G.AdmitsAll op) :
    G.settled.handled.Keeps (queryArgument c t op pascal) w fun a w' =>
      OnOperationTarget c t a.type w' := by
  have fields := Contract.Keeps.mapM (K := G.settled.handled) (g := queryField c op pascal)
    (S := fun _ (f : TypeField × Field) w' => OnTarget c G [] pascal none f.1.type w' ∧
      (validatorTarget c G [] pascal).Covers f.2.validator w')
    (fun _ _ _ _ hg hf => ⟨onTarget_filesGrow hg hf.1, covers_filesGrow hg hf.2⟩)
    op.queryParameters w fun p hp w' _ => by
      have hn := h _ (mem_schemas_of_query hp)
      exact (queryTypeField_keeps hn).bind fun f w₁ _ hf => (queryValidatorField_keeps hn).bind
        fun v w₂ hg hv => .pure fun _ => ⟨onTarget_filesGrow hg hf, hv⟩
  unfold queryArgument
  refine fields.bind fun fs w' _ hfs => ?_
  have each : ∀ f ∈ fs, OnTarget c G [] pascal none f.1.type w' ∧
      (validatorTarget c G [] pascal).Covers f.2.validator w' := fun f hf => by
    obtain ⟨_, -, hf⟩ := exists_of_forall₂_right hfs hf
    exact hf
  refine (declareType_settled pascal rfl ?_).bind fun _ w'' hg hd => ?_
  · rintro q x ⟨f, hf, hm⟩
    obtain ⟨f', hf', rfl⟩ := List.mem_map.1 hf
    exact (each f' hf').1 q x hm
  refine (declareObjectValidator_settled pascal (foreign _) ?_).bind
    fun _ w₃ hg' _ => .pure fun _ => ?_
  · intro f hf
    obtain ⟨f', hf', rfl⟩ := List.mem_map.1 hf
    exact covers_filesGrow hg (each f' hf').2
  · exact TypeExpr.mentionsOnly_named (.inl ⟨rfl, hg'.types.emitted hd⟩)

lemma queryArgument?_keeps {pascal : String} (foreign : ∀ x, G.foreign x) (h : G.AdmitsAll op) :
    G.settled.handled.Keeps (queryArgument? c t op pascal) w fun a w' =>
      ∀ b ∈ a, OnOperationTarget c t b.type w' := by
  refine .ite (fun _ => .map ((queryArgument_keeps foreign h).weaken fun a w' _ _ ha b hb => ?_))
    fun _ => .pure fun _ => by simp
  obtain rfl := Option.mem_some_iff.1 hb
  exact ha

/-! ### Whole operations -/

/-- All types of an operation are as operations may go through. -/
structure Emission.OperationParts.Sound (c : Setting) (t : Target) (p : OperationParts)
    (w : Workspace) : Prop where
  arguments : ∀ a ∈ p.arguments, OnOperationTarget c t a.type w
  response : OnOperationTarget c t p.responseType w

lemma Emission.OperationParts.Sound.grows {p : OperationParts} (hg : FilesGrow w w')
    (h : p.Sound c t w) : p.Sound c t w' :=
  ⟨fun a ha => (h.arguments a ha).grows hg, h.response.grows hg⟩

lemma operationParts_keeps {name : String} (foreign : ∀ x, G.foreign x) (h : G.AdmitsAll op) :
    G.settled.handled.Keeps (operationParts c t name op) w fun p w' => p.Sound c t w' := by
  unfold operationParts
  refine (pathArguments_keeps h).bind fun path w₁ _ hp => ?_
  refine (bodyArgument_keeps h).bind fun body w₂ hg₂ hb => ?_
  refine (queryArgument?_keeps foreign h).bind fun query w₃ hg₃ hq => ?_
  refine (operationResponse_keeps h).bind fun response w₄ hg₄ hr => .pure fun _ => ⟨?_, hr⟩
  intro a ha
  simp only [OperationParts.arguments, List.mem_append, Option.mem_toList] at ha
  rcases ha with (ha | ha) | ha
  · exact (hp a ha).grows (hg₂.trans (hg₃.trans hg₄))
  · exact (hb a ha).grows (FilesGrow.trans hg₃ hg₄)
  · exact (hq a ha).grows hg₄

/-- The operation was written from sound parts. -/
def Emission.ClientOperation.Sound (c : Setting) (t : Target) (o : ClientOperation)
    (w : Workspace) : Prop :=
  o.parts.Sound c t w ∧ o.parts.write c t = .ok o

/-- What an operation is written as: an alias and a function by their templates, and a hook by the
library of the module. -/
structure Emission.OperationParts.Becomes (p : OperationParts) (c : Setting) (t : Target)
    (o : ClientOperation) : Prop where
  parts : o.parts = p
  function : ∃ text, (c.templates .apiFunction).render (p.functionContext t) = .ok text ∧
    o.function = { name := p.functionName, kind := .function, content := withoutLastLines text }
  alias_ : ∃ text, (c.templates .typeAlias).render p.aliasContext = .ok text ∧
    o.alias_ = { name := p.aliasName, kind := .type, content := withoutLastLines text }
  hook : ∀ hook ∈ o.hook, ∃ library, t.hooks = some library ∧ p.writeHook c t library = .ok hook
  hooked : o.hook.isSome = t.hooks.isSome

lemma becomes_of_write {p : OperationParts} {o : ClientOperation} (h : p.write c t = .ok o) :
    p.Becomes c t o := by
  unfold OperationParts.write at h
  obtain ⟨aliasText, ha, h⟩ := bind_eq_ok h
  obtain ⟨functionText, hf, h⟩ := bind_eq_ok h
  dsimp only at h
  split at h
  · next none =>
    obtain rfl := Except.ok.inj h
    exact ⟨rfl, ⟨_, hf, rfl⟩, ⟨_, ha, rfl⟩, by simp, by rw [none]; rfl⟩
  · next library hl =>
    obtain ⟨hook, hh, h⟩ := bind_eq_ok h
    obtain rfl := Except.ok.inj h
    cases hw : p.writeHook c t library with
    | error e => simp [hw, Functor.map, Except.map] at hh
    | ok a =>
      obtain rfl : some a = hook := by simpa [hw, Functor.map, Except.map] using hh
      refine ⟨rfl, ⟨_, hf, rfl⟩, ⟨_, ha, rfl⟩, fun b hb => ⟨library, hl, ?_⟩, by rw [hl]; rfl⟩
      obtain rfl := Option.mem_some_iff.1 hb
      exact hw

/-- An operation is written, unless a template cannot be rendered or an integer is too long. -/
lemma emitOperation_keeps {name : String} (foreign : ∀ x, G.foreign x) (h : G.AdmitsAll op)
    (unwritten : ∀ p e, OperationParts.write p c t = .error e → G.permits (.render e)) :
    G.settled.handled.Keeps (emitOperation c t name op) w fun o w' => o.Sound c t w' := by
  unfold emitOperation
  refine (operationParts_keeps foreign h).bind fun p w' _ hp => ?_
  refine .orRenderError (fun o ho => ?_) fun e he => ⟨unwritten p e he, by rintro _ ⟨⟩⟩
  obtain rfl := (becomes_of_write ho).parts
  exact ⟨hp, ho⟩

/-- All operations of a module are written, and none of them fails. -/
lemma emitOperations_keeps (foreign : ∀ x, G.foreign x)
    (unwritten : ∀ p e, OperationParts.write p c t = .error e → G.permits (.render e)) :
    ∀ (ops : List Operation) (asked : List (String × Nat)) (w : Workspace),
      (∀ op ∈ ops, G.AdmitsAll op) →
      G.settled.handled.Keeps (emitOperations c t asked ops) w fun r w' =>
        (∀ o ∈ r.1, o.Sound c t w') ∧ r.2 = []
  | [], _, _, _ => .pure fun _ => ⟨by simp, rfl⟩
  | op :: rest, asked, w, h => by
    rw [emitOperations]
    dsimp only
    refine Contract.Keeps.bind (Q := fun r w' => ∃ o, r = .ok o ∧ o.Sound c t w')
      (.caught ((emitOperation_keeps foreign (h op (by simp)) unwritten).weaken
        fun o _ _ _ ho => ⟨o, rfl, ho⟩) fun e _ he => absurd rfl (he.2 e)) fun r w' _ hr => ?_
    obtain ⟨o, rfl, ho⟩ := hr
    refine (emitOperations_keeps foreign unwritten rest _ w' fun o ho => h o (by simp [ho])).bind
      fun r w'' hg hrest => .pure fun _ => ⟨?_, by simp [hrest.2]⟩
    intro o' ho'
    rcases List.mem_append.1 ho' with ho' | ho'
    · rw [List.mem_singleton.1 ho']
      exact ⟨ho.1.grows hg, ho.2⟩
    · exact hrest.1 o' ho'

end ClientGen
