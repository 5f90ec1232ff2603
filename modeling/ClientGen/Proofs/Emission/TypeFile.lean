import ClientGen.Proofs.Emission.Ground
import ClientGen.Proofs.Emission.TypeLowering

/-!
# The type file

While types are emitted, every schema that has been begun is still being lowered, has failed, or is
declared. What a declaration mentions is declared, is shared, or is a schema that leads back to the
declaration: nothing else can be on its way when the declaration is written.
-/

namespace ClientGen.Emission

open Api Enumeration Naming Output Relation Schema Template TypeScript

variable {c : Setting} {G : Ground c} {path : List String} {r r' : Registry}
  {f f' : DeclarationFile TypeDeclaration} {owner s x : String} {q : Option String}

/-- What the declaration `owner` may mention: a declared name, or that of a schema that has been
begun and that leads to the declared one while this one leads back; through the namespace of the
shared schemas a shared name. -/
def TypeAccounted (c : Setting) (G : Ground c) (r : Registry) (f : DeclarationFile TypeDeclaration)
    (owner : String) (q : Option String) (x : String) : Prop :=
  q = none ∧ (x ∈ f.emitted ∨ ∃ s ∈ f.processed, ∃ t, c.identifier? r s = some x ∧
    c.identifier? r t = some owner ∧ G.leads t s ∧ ReflTransGen G.leads s t) ∨
  q = some commonNamespace ∧ f.usesCommon = true ∧ c.SharedName r x

lemma TypeAccounted.mono (hle : r ≤ r') (hg : FileGrows f f')
    (h : TypeAccounted c G r f owner q x) : TypeAccounted c G r' f' owner q x := by
  rcases h with ⟨hq, hx | ⟨s, hs, t, hsx, ht, hts, hst⟩⟩ | ⟨hq, hu, hx⟩
  · exact .inl ⟨hq, .inl (hg.emitted hx)⟩
  · exact .inl ⟨hq, .inr ⟨s, hg.processed hs, t, identifier?_mono hle hsx,
      identifier?_mono hle ht, hts, hst⟩⟩
  · exact .inr ⟨hq, hg.usesCommon hu, hx.mono hle⟩

/-- What holds of the type file while the schemas of `path` are being lowered. -/
structure TypesSound (c : Setting) (G : Ground c) (path : List String) (r : Registry)
    (f : DeclarationFile TypeDeclaration) : Prop where
  nodup : f.processed.Nodup
  within : ∀ s ∈ f.processed, G.within s
  path_subset : path ⊆ f.processed
  failed : ∀ s ∈ f.failed, s ∈ f.processed ∧ ∃ e, G.permits (.schema e)
  declared : ∀ s ∈ f.processed,
    s ∈ path ∨ s ∈ f.failed ∨ ∃ x ∈ f.emitted, c.identifier? r s = some x
  emitted_nodup : f.emitted.Nodup
  written : ∀ d ∈ f.declarations, writeDeclaration c.templates d.declaration = .ok d
  bound : ∀ d ∈ f.declarations, d.declaration.isEnumeration = true → r.Binds d.declaration.name
  mentions : ∀ d ∈ f.declarations, ∀ q x, d.declaration.Mentions q x →
    TypeAccounted c G r f d.declaration.name q x

namespace TypesSound

lemma empty : TypesSound c G [] r {} := by
  constructor <;> simp [DeclarationFile.emitted]

lemma registry (hle : r ≤ r') (h : TypesSound c G path r f) : TypesSound c G path r' f where
  nodup := h.nodup
  within := h.within
  path_subset := h.path_subset
  failed := h.failed
  declared s hs := (h.declared s hs).imp_right fun hd => hd.imp_right fun ⟨x, hx, hn⟩ =>
    ⟨x, hx, identifier?_mono hle hn⟩
  emitted_nodup := h.emitted_nodup
  written := h.written
  bound d hd he := (h.bound d hd he).mono hle
  mentions d hd q x hm := (h.mentions d hd q x hm).mono hle (.refl f)

lemma useCommon (h : TypesSound c G path r f) :
    TypesSound c G path r { f with usesCommon := true } where
  nodup := h.nodup
  within := h.within
  path_subset := h.path_subset
  failed := h.failed
  declared := h.declared
  emitted_nodup := h.emitted_nodup
  written := h.written
  bound := h.bound
  mentions d hd q x hm := (h.mentions d hd q x hm).mono (le_refl r) .useCommon

/-- A declaration is added whose mentions are accounted for. -/
lemma add {d : Written TypeDeclaration} (h : TypesSound c G path r f)
    (written : writeDeclaration c.templates d.declaration = .ok d)
    (bound : d.declaration.isEnumeration = true → r.Binds d.declaration.name)
    (mentions : ∀ q x, d.declaration.Mentions q x →
      TypeAccounted c G r f d.declaration.name q x) : TypesSound c G path r (f.add d) where
  nodup := by simpa using h.nodup
  within := by simpa using h.within
  path_subset := by simpa using h.path_subset
  failed := by simpa using h.failed
  declared s hs := by
    rw [DeclarationFile.processed_add] at hs
    rw [DeclarationFile.failed_add]
    exact (h.declared s hs).imp_right fun hd => hd.imp_right fun ⟨x, hx, hn⟩ =>
      ⟨x, DeclarationFile.grows_add.emitted hx, hn⟩
  emitted_nodup := DeclarationFile.nodup_emitted_add h.emitted_nodup
  written e he := by
    rcases DeclarationFile.mem_declarations_add he with he | ⟨rfl, -⟩
    · exact h.written e he
    · exact written
  bound e he hen := by
    rcases DeclarationFile.mem_declarations_add he with he | ⟨rfl, -⟩
    · exact h.bound e he hen
    · exact bound hen
  mentions e he q x hm := by
    rcases DeclarationFile.mem_declarations_add he with he | ⟨rfl, -⟩
    · exact (h.mentions e he q x hm).mono (le_refl r) DeclarationFile.grows_add
    · exact (mentions q x hm).mono (le_refl r) DeclarationFile.grows_add

/-- A schema is begun. -/
lemma start (h : TypesSound c G path r f) (new : s ∉ f.processed) (hw : G.within s) :
    TypesSound c G (s :: path) r { f with processed := f.processed ++ [s] } where
  nodup := List.nodup_append.2 ⟨h.nodup, by simp, fun a ha b hb hab => by
    simp only [List.mem_singleton] at hb
    subst hab hb
    exact new ha⟩
  within t ht := by
    rcases List.mem_append.1 ht with ht | ht
    · exact h.within t ht
    · rwa [List.mem_singleton.1 ht]
  path_subset t ht := by
    rcases List.mem_cons.1 ht with rfl | ht
    · simp
    · exact List.mem_append_left _ (h.path_subset ht)
  failed t ht := ⟨List.mem_append_left _ (h.failed t ht).1, (h.failed t ht).2⟩
  declared t ht := by
    rcases List.mem_append.1 ht with ht | ht
    · exact (h.declared t ht).imp_left (List.mem_cons_of_mem s)
    · exact .inl (by simp [List.mem_singleton.1 ht])
  emitted_nodup := h.emitted_nodup
  written := h.written
  bound := h.bound
  mentions d hd q x hm := (h.mentions d hd q x hm).mono (le_refl r) .start

/-- The schema that was begun last is declared. -/
lemma finish (h : TypesSound c G (s :: path) r f)
    (hs : ∃ x ∈ f.emitted, c.identifier? r s = some x) : TypesSound c G path r f where
  nodup := h.nodup
  within := h.within
  path_subset := List.subset_of_cons_subset h.path_subset
  failed := h.failed
  declared t ht := by
    rcases h.declared t ht with hp | hd
    · rcases List.mem_cons.1 hp with rfl | hp
      · exact .inr (.inr hs)
      · exact .inl hp
    · exact .inr hd
  emitted_nodup := h.emitted_nodup
  written := h.written
  bound := h.bound
  mentions := h.mentions

/-- The schema that was begun last has failed. -/
lemma fail {e : SchemaError} (h : TypesSound c G (s :: path) r f) (he : G.permits (.schema e)) :
    TypesSound c G path r { f with failed := addNew f.failed s } where
  nodup := h.nodup
  within := h.within
  path_subset := List.subset_of_cons_subset h.path_subset
  failed t ht := by
    rcases mem_addNew.1 ht with ht | rfl
    · exact h.failed t ht
    · exact ⟨h.path_subset (by simp), e, he⟩
  declared t ht := by
    rcases h.declared t ht with hp | hf | hd
    · rcases List.mem_cons.1 hp with rfl | hp
      · exact .inr (.inl (mem_addNew.2 (.inr rfl)))
      · exact .inl hp
    · exact .inr (.inl (mem_addNew.2 (.inl hf)))
    · exact .inr (.inr hd)
  emitted_nodup := h.emitted_nodup
  written := h.written
  bound := h.bound
  mentions d hd q x hm := (h.mentions d hd q x hm).mono (le_refl r) .fail

end TypesSound

/-! ### The contract -/

/-- The type file grows and the registry with it; the validators stay as they are. -/
structure TypesStep (w w' : Workspace) : Prop where
  registry : w.registry ≤ w'.registry
  types : FileProceeds w.types w'.types
  validators : w'.validators = w.validators
  deferredTargets : w'.deferredTargets = w.deferredTargets

variable {namespace_ : Option String} {w w' : Workspace} {name : String}

lemma TypesStep.refl (w : Workspace) : TypesStep w w :=
  ⟨le_refl _, .refl _, rfl, rfl⟩

lemma TypesStep.trans {w'' : Workspace} (h : TypesStep w w') (h' : TypesStep w' w'') :
    TypesStep w w'' :=
  ⟨h.registry.trans h'.registry, h.types.trans h'.types, h'.validators.trans h.validators,
    h'.deferredTargets.trans h.deferredTargets⟩

/-- What emission of types keeps while the schemas of `path` are being lowered. -/
def Ground.types (G : Ground c) (path : List String) : Contract where
  holds w := TypesSound c G path w.registry w.types
  grows := TypesStep
  permits := G.permits
  grows_refl := TypesStep.refl
  grows_trans := TypesStep.trans
  quiet _ _ := ⟨⟨le_refl _, .refl _, rfl, rfl⟩, id⟩

/-- What a type inside the schema `owner` may mention: through the namespace that local names go
through a declared name, or that of a schema of the path that `owner` leads to; through the
namespace of the shared schemas a shared name. -/
def TypeTarget (c : Setting) (G : Ground c) (path : List String) (owner : String)
    (namespace_ q : Option String) (x : String) (w : Workspace) : Prop :=
  q = namespace_ ∧ (x ∈ w.types.emitted ∨
    ∃ s ∈ path, c.identifier? w.registry s = some x ∧ G.leads owner s) ∨
  q = some commonNamespace ∧ (namespace_ = none → w.types.usesCommon = true) ∧
    c.SharedName w.registry x

lemma TypeTarget.grows (hr : w.registry ≤ w'.registry) (hg : FileGrows w.types w'.types)
    (h : TypeTarget c G path owner namespace_ q x w) :
    TypeTarget c G path owner namespace_ q x w' := by
  rcases h with ⟨hq, hx | ⟨s, hs, hx, hl⟩⟩ | ⟨hq, hu, hx⟩
  · exact .inl ⟨hq, .inl (hg.emitted hx)⟩
  · exact .inl ⟨hq, .inr ⟨s, hs, identifier?_mono hr hx, hl⟩⟩
  · exact .inr ⟨hq, fun hn => hg.usesCommon (hu hn), hx.mono hr⟩

/-- All that a type mentions may be mentioned inside the schema `owner`. -/
def OnTarget (c : Setting) (G : Ground c) (path : List String) (owner : String)
    (namespace_ : Option String) (t : TypeExpr) (w : Workspace) : Prop :=
  t.MentionsOnly (TypeTarget c G path owner namespace_ · · w)

lemma OnTarget.grows {t : TypeExpr} (hg : TypesStep w w')
    (h : OnTarget c G path owner namespace_ t w) : OnTarget c G path owner namespace_ t w' :=
  h.imp fun _ _ => TypeTarget.grows hg.registry hg.types.toFileGrows

/-- The schema is declared in the type file. -/
def TypeDeclared (c : Setting) (s : String) (w : Workspace) : Prop :=
  ∃ x ∈ w.types.emitted, c.identifier? w.registry s = some x

lemma TypeDeclared.grows (hg : TypesStep w w') (h : TypeDeclared c s w) : TypeDeclared c s w' := by
  obtain ⟨x, hx, hn⟩ := h
  exact ⟨x, hg.types.emitted hx, identifier?_mono hg.registry hn⟩

lemma typesStep_registry (hle : w.registry ≤ r) : TypesStep w { w with registry := r } :=
  ⟨hle, .refl _, rfl, rfl⟩

lemma typeName_keeps_types
    (unknown : ∀ e, c.description.schema name = .error e → G.permits (.schema e)) :
    (G.types path).Keeps (typeName c name) w fun x w' =>
      c.identifier? w'.registry name = some x := by
  refine .of_meets typeName_meets ?_ ?_
  · rintro x w' hw ⟨hx, ⟨r, hle, rfl⟩, -⟩
    exact ⟨hw.registry hle, typesStep_registry hle, hx⟩
  · rintro e w' hw ⟨rfl, e', rfl, he⟩
    exact ⟨unknown e' he, fun _ _ => ⟨hw, (G.types path).grows_refl _⟩⟩

/-- A declaration is written, or its template cannot be rendered. -/
lemma declareType_meets {d : TypeDeclaration} : Meets (declareType c d) w
    (fun _ w' => ∃ d', d'.declaration = d ∧ writeDeclaration c.templates d = .ok d' ∧
      w' = { w with types := w.types.add d' })
    fun e _ => ∃ e', e = .render e' ∧ writeDeclaration c.templates d = .error e' := by
  unfold declareType
  refine meets_bind.2 (meets_liftM.2 ⟨fun d' hd => ?_, fun e he => ?_⟩)
  · have hd := Contract.mapError_eq_ok hd
    exact meets_modify.2 ⟨d', eq_of_writeDeclaration hd, hd, rfl⟩
  · obtain ⟨e', he', rfl⟩ := Contract.mapError_eq_error he
    exact ⟨e', rfl, he'⟩

lemma declareType_keeps {d : TypeDeclaration}
    (bound : d.isEnumeration = true → w.registry.Binds d.name)
    (mentions : ∀ q x, d.Mentions q x → TypeAccounted c G w.registry w.types d.name q x) :
    (G.types path).Keeps (declareType c d) w fun _ w' => d.name ∈ w'.types.emitted := by
  refine .of_meets declareType_meets ?_ ?_
  · rintro _ w' hw ⟨⟨_, content⟩, rfl, hd, rfl⟩
    exact ⟨TypesSound.add hw hd bound mentions, ⟨le_refl _, DeclarationFile.proceeds_add, rfl, rfl⟩,
      DeclarationFile.mem_emitted_add⟩
  · rintro e w' hw ⟨e', rfl, he⟩
    exact ⟨G.typeUnwritten d he, nofun⟩

lemma ensureTypeEnum_keeps {values : List String} {description : Option String}
    (bound : w.registry.Binds name) :
    (G.types path).Keeps (ensureTypeEnum c name values description) w fun _ w' =>
      name ∈ w'.types.emitted := by
  refine .get_bind (.ite (fun h => .pure fun _ => by simpa using h) fun _ => ?_)
  exact declareType_keeps (fun _ => bound) fun _ _ hm => hm.elim

lemma commonType_keeps (shared : c.SharedName w.registry name) :
    (G.types path).Keeps (commonType namespace_ name) w
      (OnTarget c G path owner namespace_) := by
  have target {w' : Workspace} (hu : namespace_ = none → w'.types.usesCommon = true)
      (hx : c.SharedName w'.registry name) :
      OnTarget c G path owner namespace_ (.named (some commonNamespace) name) w' :=
    TypeExpr.mentionsOnly_named (.inr ⟨rfl, hu, hx⟩)
  unfold commonType
  cases namespace_ with
  | none =>
    refine Contract.Keeps.bind (Q := fun _ w' => w'.types.usesCommon = true) (.modify fun hw =>
      ⟨hw.useCommon, ⟨le_refl _, .useCommon, rfl, rfl⟩, rfl⟩) fun _ w' hg hu => ?_
    exact .pure fun _ => target (fun _ => hu) (shared.mono hg.registry)
  | some n => exact .pure fun _ => target nofun shared

/-- The type of an enumeration inside a schema is declared here or is shared. -/
lemma enumType_keeps {parent : String} {property : Option String} {values : List String} :
    (G.types path).Keeps (enumType c namespace_ parent property values) w 
      (OnTarget c G path owner namespace_) := by
  unfold enumType
  refine Contract.Keeps.bind (Q := fun x w' => w'.registry.Binds x) (.of_meets inlineEnumName_meets
    ?_ fun _ _ _ h => h.elim) fun x w' _ hx => ?_
  · rintro x w' hw ⟨rfl, log, rfl⟩
    exact ⟨hw.registry Registry.le_nameOf, ⟨Registry.le_nameOf, .refl _, rfl, rfl⟩,
      Registry.binds_nameOf⟩
  · refine .ite (fun h => commonType_keeps (.inl (by simpa using h))) fun _ => ?_
    exact (ensureTypeEnum_keeps hx).bind fun _ w'' _ hx' => .pure fun _ =>
      TypeExpr.mentionsOnly_named (.inl ⟨rfl, .inl hx'⟩)

/-! ### References -/

/-- A demanded schema is declared afterwards if it can be. -/
def TypesDemand (G : Ground c) (path : List String) (emit : String → SchemaNode → Emit Unit)
    (w : Workspace) (s : String) (n : SchemaNode) : Prop :=
  ∀ w', TypesStep w w' → s ∉ w'.types.processed →
    (G.types path).Keeps (emit s n) w' fun _ w'' => TypeDeclared c s w''

/-- A schema that has been demanded is still being lowered or is declared. -/
lemma demandType_keeps {emit : String → SchemaNode → Emit Unit} {n : SchemaNode}
    (sound : s ∉ w.types.failed) (demand : TypesDemand G path emit w s n) :
    (G.types path).Keeps (demandType emit s n) w fun _ w' => s ∈ path ∨ TypeDeclared c s w' := by
  refine .of_holds fun hw => .get_bind (.ite (fun h => ?_) fun h => .pure fun _ => ?_)
  · exact (demand w (.refl w) (by simpa using h)).weaken fun _ _ _ _ hd => .inr hd
  · rcases hw.declared s (by simpa using h) with hp | hf | hd
    · exact .inl hp
    · exact absurd hf sound
    · exact .inr hd

lemma declaredType_keeps {emit : String → SchemaNode → Emit Unit} {n : SchemaNode}
    (known : c.description.schema? s = some n) (leads : s ∈ path → G.leads owner s)
    (sound : s ∉ w.types.failed) (demand : s ∉ c.commonSchemas → TypesDemand G path emit w s n) :
    (G.types path).Keeps (declaredType c namespace_ emit s n) w
      (OnTarget c G path owner namespace_) := by
  have named (w : Workspace) : (G.types path).Keeps (typeName c s) w fun x w' =>
      c.identifier? w'.registry s = some x :=
    typeName_keeps_types fun e he => absurd he (schema_ne_error known)
  refine .ite (fun hc => ?_) fun hc => ?_
  · refine (named w).bind fun x w' _ hx => ?_
    exact commonType_keeps (.inr ⟨s, by simpa using hc, hx⟩)
  · refine (demandType_keeps sound (demand (by simpa using hc))).bind fun _ w' _ hd => ?_
    refine (named w').bind fun x w'' hg hx => .pure fun _ => TypeExpr.mentionsOnly_named (.inl ?_)
    refine ⟨rfl, hd.symm.imp (fun hd => ?_) fun hp => ⟨s, hp, hx, leads hp⟩⟩
    obtain ⟨y, hy, hs⟩ := hd.grows hg
    rwa [Option.some.inj (hx.symm.trans hs)]

/-- The type of a reference mentions what its owner may mention. -/
lemma referenceType_keeps {emit : String → SchemaNode → Emit Unit} {pointer : String}
    {notes : Notes}
    (broken : ∀ e, c.description.resolve pointer = .error e → G.permits (.schema e))
    (leads : ∀ s n, c.description.resolve pointer = .ok (s, n) → s ∈ path → G.leads owner s)
    (demand : ∀ s n, c.description.resolve pointer = .ok (s, n) → s ∉ c.commonSchemas →
      TypesDemand G path emit w s n) :
    (G.types path).Keeps (referenceType c namespace_ emit pointer notes) w 
      (OnTarget c G path owner namespace_) := by
  unfold referenceType
  refine Contract.Keeps.bind (Q := fun p w' => c.description.resolve pointer = .ok p ∧ w' = w)
    (.orSchemaError (fun p hp => ⟨hp, rfl⟩) broken) ?_
  rintro ⟨s, n⟩ w' - ⟨hp, rfl⟩
  refine .get_bind (.ite (fun _ => .pure fun _ => TypeExpr.mentionsOnly_any) fun hf => ?_)
  refine (declaredType_keeps (resolve_eq_ok hp) (leads s n hp) (by simpa using hf)
    (demand s n hp)).bind fun t w'' _ ht => .pure fun _ => ?_
  split
  · exact ht.orNull
  · exact ht

/-! ### Schemas -/

/-- What a type inside a schema on top of the path may mention is accounted for. -/
lemma TypeTarget.accounted (hw : TypesSound c G (owner :: path) w.registry w.types)
    (hx : c.identifier? w.registry owner = some x)
    (reach : ∀ s ∈ path, ReflTransGen G.leads s owner)
    {y : String} (h : TypeTarget c G (owner :: path) owner none q y w) :
    TypeAccounted c G w.registry w.types x q y := by
  rcases h with ⟨hq, hy | ⟨s, hs, hy, hl⟩⟩ | ⟨hq, hu, hy⟩
  · exact .inl ⟨hq, .inl hy⟩
  · refine .inl ⟨hq, .inr ⟨s, hw.path_subset hs, owner, hy, hx, hl, ?_⟩⟩
    rcases List.mem_cons.1 hs with rfl | hs
    · exact .refl
    · exact reach s hs
  · exact .inr ⟨hq, hu rfl, hy⟩

variable {references : ReferenceTypes} {node : SchemaNode}

/-- What each reference inside a schema on top of the path keeps from `w` on. -/
def TypeReferences (G : Ground c) (path : List String) (name : String)
    (references : ReferenceTypes) (pointers : List String) (w : Workspace) : Prop :=
  ∀ pointer ∈ pointers, ∀ notes w', TypesStep w w' →
    (G.types (name :: path)).Keeps (references pointer notes) w'
      (OnTarget c G (name :: path) name none)

/-- The type of a node inside the schema on top of the path. -/
lemma typeAt_keeps_types {pointers : List String} {property : Option String} {depth : Int}
    {n : SchemaNode} (hr : TypeReferences G path name references pointers w)
    (hg : TypesStep w w') (hn : n.pointers ⊆ pointers) :
    (G.types (name :: path)).Keeps (typeAt c none references name property depth n) w'
      (OnTarget c G (name :: path) name none) :=
  typeAt_keeps (K := G.types (name :: path)) (P := TypeTarget c G (name :: path) name none)
    (fun _ _ _ _ hg ht => ht.grows hg.registry hg.types.toFileGrows) property depth n w'
    (fun p hp notes w'' hg' => hr p (hn hp) notes w'' (hg.trans hg'))
    fun _ _ _ _ => enumType_keeps

/-- The schema on top of the path is declared, given that its references are found. -/
lemma declareSchemaType_keeps (references : ReferenceTypes) (lowers : G.lowers name node)
    (known : c.description.schema? name = some node)
    (reach : ∀ s ∈ path, ReflTransGen G.leads s name)
    (hr : TypeReferences G path name references node.pointers w) :
    (G.types (name :: path)).Keeps (declareSchemaType c references name node) w fun _ w' =>
      TypeDeclared c name w' := by
  unfold declareSchemaType
  refine (typeName_keeps_types fun e he => G.unknown lowers he).bind fun x w' hg hx => ?_
  split
  · next values notes =>
    refine (ensureTypeEnum_keeps ⟨Registry.schemaKey name, ?_⟩).weaken
      fun _ w'' _ hg' hd => ⟨x, hd, identifier?_mono hg'.registry hx⟩
    rwa [← identifier?_enumeration known]
  · next p ps additional notes =>
    have fields := Contract.Keeps.mapM (K := G.types (name :: path))
      (g := fun p => typeField c references name p.name p.required p.schema)
      (S := fun _ f w => OnTarget c G (name :: path) name none f.type w)
      (fun _ _ _ _ hg ht => ht.grows hg) (p :: ps) w' fun p' hp' w'' hg' =>
        typeField_keeps (P := TypeTarget c G (name :: path) name none)
          (typeAt_keeps_types hr (hg.trans hg')
            (List.Subset.trans (Property.pointers_subset_of_mem hp') (List.subset_append_left _ _)))
    refine fields.bind fun fields w'' hg' hf => ?_
    have hx' := identifier?_mono hg'.registry hx
    refine .of_holds fun hw => (declareType_keeps (by simp [TypeDeclaration.isEnumeration])
      ?_).weaken fun _ w₃ _ hg₃ hd => ⟨x, hd, identifier?_mono hg₃.registry hx'⟩
    rintro q y ⟨f, hfm, hm⟩
    obtain ⟨p', -, hf⟩ := exists_of_forall₂_right hf hfm
    exact (hf q y hm).accounted hw hx' reach
  · refine (typeAt_keeps_types hr hg (List.Subset.refl _)).bind fun t w'' hg' ht => ?_
    have hx' := identifier?_mono hg'.registry hx
    refine .of_holds fun hw => (declareType_keeps (by simp [TypeDeclaration.isEnumeration])
      ?_).weaken fun _ w₃ _ hg₃ hd => ⟨x, hd, identifier?_mono hg₃.registry hx'⟩
    exact fun q y hm => (ht q y hm).accounted hw hx' reach

/-- What comes of the emission of a schema: it is declared, or an error of a schema ends it. In both
cases it has been dealt with. -/
def TypeDealtWith (G : Ground c) (path : List String) (name : String) (x : Emit Unit)
    (w : Workspace) : Prop :=
  Meets x w
    (fun _ w' => TypesSound c G path w'.registry w'.types ∧ TypesStep w w' ∧
      name ∈ w'.types.processed)
    fun e w' => G.permits e ∧ ∀ s, e = .schema s →
      TypesSound c G path w'.registry w'.types ∧ TypesStep w w' ∧ name ∈ w'.types.processed

/-- A schema that has not been begun is declared with all it needs, or it fails. -/
lemma emitTypeWithin_meets (exact : G.Exact) : ∀ (budget : Nat) (path : List String)
    (name : String) (node : SchemaNode) (w : Workspace), G.within name → G.lowers name node →
    name ∉ w.types.processed → c.Room (w.types.processed ++ [name]) budget →
    (∀ s ∈ path, ReflTransGen G.leads s name) → TypesSound c G path w.registry w.types →
    Meets (emitTypeWithin c budget name node) w
      (fun _ w' => TypesSound c G path w'.registry w'.types ∧ TypesStep w w' ∧
        name ∈ w'.types.processed ∧ TypeDeclared c name w')
      fun e w' => G.permits e ∧ ∀ s, e = .schema s →
        TypesSound c G path w'.registry w'.types ∧ TypesStep w w' ∧ name ∈ w'.types.processed
  | 0, _, _, _, _, _, _, _, room, _, _ => absurd room (Nat.not_lt_zero _)
  | budget + 1, path, name, node, w, within, lowers, new, room, reach, hw => by
    have step : TypesStep w
        { w with types := { w.types with processed := w.types.processed ++ [name] } } :=
      ⟨le_refl _, .start, rfl, rfl⟩
    have reach' (s : String) (hl : G.leads name s) :
        ∀ t ∈ name :: path, ReflTransGen G.leads t s := by
      intro t ht
      rcases List.mem_cons.1 ht with rfl | ht
      · exact .single hl
      · exact (reach t ht).tail hl
    have body := declareSchemaType_keeps (w := { w with types :=
        { w.types with processed := w.types.processed ++ [name] } })
      (referenceType c none (emitTypeWithin c budget)) lowers (exact lowers) reach
      fun pointer hp notes w₁ hg₁ => referenceType_keeps (fun e he => G.broken lowers hp he)
        (fun s n hs _ => (G.closed lowers hp hs).1) fun s n hs hc w₂ hg₂ hn => by
          obtain ⟨hl, hin⟩ := G.closed lowers hp hs
          have known : s ∈ c.description.schemaNames :=
            mem_schemaNames (resolve_eq_ok hs)
          have room' := room.next ((hg₁.trans hg₂).types.processed) known hn
          exact fun hw₂ => (emitTypeWithin_meets exact budget (name :: path) s n w₂ (hin hc).1
            (hin hc).2 hn room' (reach' s hl) hw₂).imp
            (fun _ _ ⟨hw', hg, _, hd⟩ => ⟨hw', hg, hd⟩)
            fun _ _ ⟨he, hs⟩ => ⟨he, fun e h => ⟨(hs e h).1, (hs e h).2.1⟩⟩
    rw [emitTypeWithin]
    refine meets_bind.2 (meets_modify.2 (meets_bind.2 (meets_caught.2
      ((body (hw.start new within)).imp ?_ ?_))))
    · intro _ w' ⟨hw', hg, hd⟩
      exact meets_pure.2 ⟨hw'.finish hd, step.trans hg, hg.types.processed (by simp), hd⟩
    · rintro (e | e | e | e) w' ⟨he, hs⟩
      · obtain ⟨hw', hg⟩ := hs e rfl
        refine meets_bind.2 (meets_modify.2 (meets_throw.2 ⟨he, fun _ _ => ⟨hw'.fail he, ?_, ?_⟩⟩))
        · have later := step.trans hg
          exact ⟨later.registry, later.types.fail new, later.validators, later.deferredTargets⟩
        · exact hg.types.processed (by simp)
      all_goals exact ⟨he, nofun⟩

/-- A known schema has been dealt with after its emission. -/
lemma emitType_meets (exact : G.Exact) (within : G.within name) (lowers : G.lowers name node)
    (hw : TypesSound c G [] w.registry w.types) :
    TypeDealtWith G [] name (emitType c name none) w := by
  unfold emitType TypeDealtWith
  refine meets_bind.2 (meets_get.2 ?_)
  split
  · next h => exact meets_pure.2 ⟨hw, .refl w, by simpa using h⟩
  · next new =>
    refine meets_bind.2 (meets_liftM.2 ⟨fun n hn => ?_, fun e he => ?_⟩)
    · have hn := Contract.mapError_eq_ok hn
      rw [Description.schema, exact lowers] at hn
      obtain rfl := Except.ok.inj hn
      exact (emitTypeWithin_meets exact _ [] name node w within lowers (by simpa using new)
        room_nestingBound (by simp) hw).imp (fun _ _ h => ⟨h.1, h.2.1, h.2.2.1⟩)
        fun _ _ h => h
    · obtain ⟨e', he', rfl⟩ := Contract.mapError_eq_error he
      exact absurd he' (schema_ne_error (exact lowers))

end ClientGen.Emission
