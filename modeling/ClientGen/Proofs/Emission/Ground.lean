import ClientGen.Proofs.Emission.Contract
import ClientGen.Proofs.Graph.Closure
import ClientGen.Proofs.Registry
import ClientGen.Proofs.Schema.Contents
import Mathlib.Logic.Relation

/-!
# The ground of a directory

What is known of the schemas that a directory declares before anything is written: which they are,
how they lead to each other, and which errors may occur. Further the names that schemas have as far
as the registry knows, and how a file grows while it is written.
-/

namespace ClientGen.Emission

open Api Enumeration Naming Output Schema Template TypeScript

/-! ### Names -/

/-- The identifier that a schema is declared under, as far as the registry knows. -/
def Setting.identifier? (c : Setting) (r : Registry) (s : String) : Option String :=
  match c.description.schema? s with
  | some (.enumeration _ _) => r.lookup? (Registry.schemaKey s)
  | some _ => some (typeIdentifier s)
  | none => none

variable {c : Setting} {r r' : Registry} {s x : String}

lemma identifier?_mono (hle : r ≤ r') (h : c.identifier? r s = some x) :
    c.identifier? r' s = some x := by
  unfold Setting.identifier? at h ⊢
  revert h
  split
  · exact hle _ _
  · exact id
  · exact id

lemma identifier?_of_ne_enumeration {n : SchemaNode} (hs : c.description.schema? s = some n)
    (hn : n.isEnumeration = false) : c.identifier? r s = some (typeIdentifier s) := by
  unfold Setting.identifier?
  rw [hs]
  cases n <;> first | rfl | simp [SchemaNode.isEnumeration] at hn

lemma identifier?_enumeration {values : List String} {notes : Notes}
    (hs : c.description.schema? s = some (.enumeration values notes)) :
    c.identifier? r s = r.lookup? (Registry.schemaKey s) := by
  simp only [Setting.identifier?, hs]

lemma resolve_eq_ok {d : Description} {pointer : String} {n : SchemaNode}
    (h : d.resolve pointer = .ok (s, n)) : d.schema? s = some n := by
  unfold Description.resolve at h
  split at h
  · simp at h
  · next name _ =>
    unfold Description.schema at h
    split at h
    · next m hm =>
      simp only [Functor.map, Except.map, Except.ok.injEq, Prod.mk.injEq] at h
      obtain ⟨rfl, rfl⟩ := h
      exact hm
    · simp [Functor.map, Except.map] at h

lemma targetName?_of_resolve {d : Description} {pointer : String} {n : SchemaNode}
    (h : d.resolve pointer = .ok (s, n)) : targetName? pointer = some s := by
  unfold Description.resolve at h
  split at h
  · cases h
  · next name hp =>
    unfold Description.schema at h
    split at h
    · simp only [Functor.map, Except.map, Except.ok.injEq, Prod.mk.injEq] at h
      rw [hp, h.1]
    · cases h

lemma leads_of_resolve {d : Description} {pointer s t : String} {n m : SchemaNode}
    (hs : d.schema? s = some n) (hp : pointer ∈ n.pointers) (h : d.resolve pointer = .ok (t, m)) :
    Graph.Leads d s t := by
  unfold Graph.Leads Description.targets
  rw [hs]
  exact mem_distinct.2 (List.mem_filterMap.2 ⟨pointer, hp, targetName?_of_resolve h⟩)

lemma schema_eq_ok {d : Description} {n : SchemaNode} (h : d.schema s = .ok n) :
    d.schema? s = some n := by
  unfold Description.schema at h
  split at h
  · next m hm => rw [hm, Except.ok.inj h]
  · simp at h

lemma schema_eq_error {d : Description} {e : SchemaError} (h : d.schema s = .error e) :
    d.schema? s = none := by
  unfold Description.schema at h
  split at h
  · simp at h
  · assumption

lemma mem_schemaNames {d : Description} {n : SchemaNode} (h : d.schema? s = some n) :
    s ∈ d.schemaNames := by
  obtain ⟨before, after, hd, -⟩ := List.lookup_eq_some_iff.1 h
  simp [Description.schemaNames, hd]

lemma schema_ne_error {d : Description} {n : SchemaNode} {e : SchemaError}
    (h : d.schema? s = some n) : d.schema s ≠ .error e := by
  simp [Description.schema, h]

/-- The name of a shared enumeration or of a shared schema. -/
def Setting.SharedName (c : Setting) (r : Registry) (x : String) : Prop :=
  x ∈ c.commonDeclarations ∨ ∃ s ∈ c.commonSchemas, c.identifier? r s = some x

lemma Setting.SharedName.mono (hle : r ≤ r') (h : c.SharedName r x) : c.SharedName r' x := by
  rcases h with h | ⟨s, hs, hx⟩
  · exact .inl h
  · exact .inr ⟨s, hs, identifier?_mono hle hx⟩

/-- The name of a schema is found, and the registry learns that name at most. -/
lemma typeName_meets {w : Workspace} : Meets (typeName c s) w
    (fun x w' => c.identifier? w'.registry s = some x ∧
      (∃ r, w.registry ≤ r ∧ w' = { w with registry := r }) ∧
      ∀ key y, w'.registry.lookup? key = some y → w.registry.lookup? key = some y ∨
        y = x ∧ (∃ values notes, c.description.schema? s = some (.enumeration values notes)) ∧
          w.registry.lookup? (Registry.schemaKey s) = none)
    fun e w' => w' = w ∧ ∃ e', e = .schema e' ∧ c.description.schema s = .error e' := by
  unfold typeName
  refine meets_bind.2 (meets_liftM.2 ⟨fun n hn => ?_, fun e he => ?_⟩)
  · have hs : c.description.schema? s = some n := by
      have hn := Contract.mapError_eq_ok hn
      unfold Description.schema at hn
      split at hn
      · next m hm => rw [hm, Except.ok.inj hn]
      · simp at hn
    split
    · next values notes =>
      refine meets_modifyGet.2 ⟨?_, ⟨_, Registry.le_nameOfSchema, rfl⟩, fun key y hy => ?_⟩
      · rw [identifier?_enumeration hs]
        exact Registry.lookup?_nameOfSchema
      · rcases Registry.lookup?_of_nameOfSchema hy with hy | ⟨rfl, hn⟩
        · exact .inl hy
        · exact .inr ⟨rfl, ⟨values, notes, hs⟩, hn⟩
    · next hne =>
      refine meets_pure.2 ⟨?_, ⟨w.registry, le_refl _, rfl⟩, fun key y hy => .inl hy⟩
      refine identifier?_of_ne_enumeration hs ?_
      cases n <;> first | rfl | exact absurd rfl (hne _ _)
  · obtain ⟨e', he', rfl⟩ := Contract.mapError_eq_error he
    exact ⟨rfl, e', rfl, he'⟩

/-- The name of an enumeration inside a schema is what the registry answers. -/
lemma inlineEnumName_meets {values : List String} {context : Option Context} {w : Workspace} :
    Meets (inlineEnumName values context) w
      (fun x w' => x = (w.registry.nameOf values context).1 ∧ ∃ log,
        w' = { w with registry := (w.registry.nameOf values context).2, log })
      fun _ _ => False := by
  unfold inlineEnumName
  refine meets_bind.2 (meets_get.2 (meets_bind.2 (meets_modifyGet.2 ?_)))
  by_cases new : (w.registry.known? values context).isNone = true
  · simp only [new, if_true]
    exact meets_bind.2 (meets_modify.2 (meets_pure.2 ⟨rfl, _, rfl⟩))
  · simp only [new]
    exact meets_pure.2 ⟨rfl, w.log, rfl⟩

/-! ### Growth of a file -/

/-- A file later on: nothing is taken back, and new declarations come last. -/
structure FileGrows {δ : Type} (f f' : DeclarationFile δ) : Prop where
  processed : f.processed ⊆ f'.processed
  failed : f.failed ⊆ f'.failed
  declarations : f.declarations <+: f'.declarations
  usesCommon : f.usesCommon = true → f'.usesCommon = true

section FileGrows

variable {δ : Type} {f f' f'' : DeclarationFile δ}

lemma FileGrows.refl (f : DeclarationFile δ) : FileGrows f f :=
  ⟨fun _ h => h, fun _ h => h, List.prefix_rfl, id⟩

lemma FileGrows.trans (h : FileGrows f f') (h' : FileGrows f' f'') : FileGrows f f'' :=
  ⟨List.Subset.trans h.processed h'.processed, List.Subset.trans h.failed h'.failed,
    h.declarations.trans h'.declarations, h'.usesCommon ∘ h.usesCommon⟩

lemma FileGrows.useCommon : FileGrows f { f with usesCommon := true } :=
  ⟨fun _ h => h, fun _ h => h, List.prefix_rfl, fun _ => rfl⟩

lemma FileGrows.start {s : String} : FileGrows f { f with processed := f.processed ++ [s] } :=
  ⟨List.subset_append_left _ _, fun _ h => h, List.prefix_rfl, id⟩

lemma FileGrows.fail {s : String} : FileGrows f { f with failed := addNew f.failed s } :=
  ⟨fun _ h => h, fun _ h => mem_addNew.2 (.inl h), List.prefix_rfl, id⟩

lemma FileGrows.emitted [Declares δ] (h : FileGrows f f') : f.emitted ⊆ f'.emitted := by
  obtain ⟨new, hnew⟩ := h.declarations
  unfold DeclarationFile.emitted
  rw [← hnew, List.map_append]
  exact List.subset_append_left _ _

/-- A file later on, in which only schemas have failed that were begun meanwhile. -/
structure FileProceeds (f f' : DeclarationFile δ) : Prop extends FileGrows f f' where
  fresh : ∀ s ∈ f'.failed, s ∈ f.failed ∨ s ∉ f.processed

lemma FileProceeds.refl (f : DeclarationFile δ) : FileProceeds f f :=
  ⟨.refl f, fun _ hs => .inl hs⟩

lemma FileProceeds.trans (h : FileProceeds f f') (h' : FileProceeds f' f'') :
    FileProceeds f f'' := by
  refine ⟨h.toFileGrows.trans h'.toFileGrows, fun s hs => ?_⟩
  rcases h'.fresh s hs with hs | new
  · exact h.fresh s hs
  · exact .inr fun begun => new (h.processed begun)

lemma FileProceeds.useCommon : FileProceeds f { f with usesCommon := true } :=
  ⟨.useCommon, fun _ hs => .inl hs⟩

lemma FileProceeds.start {s : String} :
    FileProceeds f { f with processed := f.processed ++ [s] } :=
  ⟨.start, fun _ hs => .inl hs⟩

/-- A schema may fail that was begun meanwhile. -/
lemma FileProceeds.fail {s : String} (h : FileProceeds f f') (new : s ∉ f.processed) :
    FileProceeds f { f' with failed := addNew f'.failed s } := by
  refine ⟨h.toFileGrows.trans .fail, fun t ht => ?_⟩
  rcases mem_addNew.1 ht with ht | rfl
  · exact h.fresh t ht
  · exact .inr new

/-- If every schema that is begun had been begun before, none has failed meanwhile. -/
lemma FileProceeds.mem_failed {s : String} (h : FileProceeds f f')
    (sound : ∀ t ∈ f'.failed, t ∈ f.processed) : s ∈ f'.failed ↔ s ∈ f.failed :=
  ⟨fun hs => (h.fresh s hs).resolve_right fun new => new (sound s hs), fun hs => h.failed hs⟩

end FileGrows

section Add

variable {δ : Type} [Declares δ] {f : DeclarationFile δ} {d : Written δ}

lemma DeclarationFile.grows_add : FileGrows f (f.add d) := by
  unfold DeclarationFile.add
  split
  · exact .refl f
  · exact ⟨fun _ h => h, fun _ h => h, List.prefix_append _ _, id⟩

lemma DeclarationFile.proceeds_add : FileProceeds f (f.add d) := by
  refine ⟨grows_add, fun s hs => .inl ?_⟩
  unfold DeclarationFile.add at hs
  split at hs
  · exact hs
  · exact hs

lemma DeclarationFile.mem_emitted_add : Declares.name d.declaration ∈ (f.add d).emitted := by
  unfold DeclarationFile.add
  split
  · next h => simpa using h
  · simp [DeclarationFile.emitted]

lemma DeclarationFile.mem_declarations_add {e : Written δ} (h : e ∈ (f.add d).declarations) :
    e ∈ f.declarations ∨ e = d ∧ Declares.name d.declaration ∉ f.emitted := by
  unfold DeclarationFile.add at h
  split at h
  · exact .inl h
  · next hn =>
    rcases List.mem_append.1 h with h | h
    · exact .inl h
    · exact .inr ⟨List.mem_singleton.1 h, by simpa using hn⟩

lemma DeclarationFile.mem_declarations_add_self (new : Declares.name d.declaration ∉ f.emitted) :
    d ∈ (f.add d).declarations := by
  simp [DeclarationFile.add, new]

lemma DeclarationFile.add_of_mem (h : Declares.name d.declaration ∈ f.emitted) : f.add d = f := by
  simp [DeclarationFile.add, h]

lemma DeclarationFile.mem_emitted_of_add {k : String} (h : k ∈ (f.add d).emitted) :
    k ∈ f.emitted ∨ k = Declares.name d.declaration := by
  obtain ⟨e, he, rfl⟩ := List.mem_map.1 h
  rcases DeclarationFile.mem_declarations_add he with he | ⟨rfl, -⟩
  · exact .inl (List.mem_map_of_mem he)
  · exact .inr rfl

lemma DeclarationFile.nodup_emitted_add (h : f.emitted.Nodup) : (f.add d).emitted.Nodup := by
  unfold DeclarationFile.add
  split
  · exact h
  · next hn =>
    have hn : Declares.name d.declaration ∉ f.emitted := by simpa using hn
    simp only [DeclarationFile.emitted, List.map_append, List.map_cons, List.map_nil]
    exact List.nodup_append.2 ⟨h, by simp, fun a ha b hb hab => by
      simp only [List.mem_singleton] at hb
      subst hab hb
      exact hn ha⟩

@[simp] lemma DeclarationFile.processed_add : (f.add d).processed = f.processed := by
  unfold DeclarationFile.add
  split <;> rfl

@[simp] lemma DeclarationFile.failed_add : (f.add d).failed = f.failed := by
  unfold DeclarationFile.add
  split <;> rfl

@[simp] lemma DeclarationFile.usesCommon_add : (f.add d).usesCommon = f.usesCommon := by
  unfold DeclarationFile.add
  split <;> rfl

end Add

/-- A declaration that is written is the given one. -/
lemma eq_of_writeDeclaration {δ : Type} [Declares δ] {templates : TemplateId → ClientGen.Template}
    {d : δ} {d' : Written δ} (h : writeDeclaration templates d = .ok d') :
    d'.declaration = d := by
  unfold writeDeclaration at h
  cases hr : (templates (Declares.template d)).render (Declares.context d) with
  | error e => simp [hr, bind, Except.bind] at h
  | ok content =>
    simp only [hr, bind, Except.bind, pure, Except.pure, Except.ok.injEq] at h
    rw [← h]

/-! ### The ground -/

/-- What is known of the schemas that a directory declares: those that it may declare, which leads
to which, the nodes that they are lowered from, the identifiers that declarations beside them may
have, and the errors that may occur. What a schema leads to stays within, unless it is shared. -/
structure Ground (c : Setting) where
  within : String → Prop
  leads : String → String → Prop
  lowers : String → SchemaNode → Prop
  foreign : String → Prop
  permits : EmitError → Prop
  broken : ∀ {s n pointer e}, lowers s n → pointer ∈ n.pointers →
    c.description.resolve pointer = .error e → permits (.schema e)
  closed : ∀ {s n pointer t m}, lowers s n → pointer ∈ n.pointers →
    c.description.resolve pointer = .ok (t, m) →
    leads s t ∧ (t ∉ c.commonSchemas → within t ∧ lowers t m)
  unknown : ∀ {s n e}, lowers s n → c.description.schema s = .error e → permits (.schema e)
  long : ∀ {s n}, lowers s n → n.hasLongInteger = true → ∀ f, permits (.digits f)
  typeUnwritten : ∀ (d : TypeDeclaration) {e}, writeDeclaration c.templates d = .error e →
    permits (.render e)
  validatorUnwritten : ∀ (d : ValidatorDeclaration) {e},
    writeDeclaration c.templates d = .error e → permits (.render e)

/-- Every schema is lowered from its node in the description. -/
def Ground.Exact (G : Ground c) : Prop :=
  ∀ {s n}, G.lowers s n → c.description.schema? s = some n

/-- Fewer schemas than the budget are left to be dealt with once `name` is. -/
def Setting.Room (c : Setting) (processed : List String) (budget : Nat) : Prop :=
  (c.description.schemaNames.filter fun n => !processed.contains n).length < budget

lemma room_nestingBound {processed : List String} : c.Room processed (nestingBound c) := by
  unfold Setting.Room nestingBound
  have := List.length_filter_le (fun n => !processed.contains n) c.description.schemaNames
  simp only [Description.schemaNames, List.length_map] at this ⊢
  omega

/-- Another known schema takes the place of what is left of the budget. -/
lemma Setting.Room.next {processed processed' : List String} {budget : Nat} {name : String}
    (h : c.Room processed (budget + 1)) (hs : processed ⊆ processed')
    (known : name ∈ c.description.schemaNames) (new : name ∉ processed') :
    c.Room (processed' ++ [name]) budget := by
  unfold Setting.Room at h ⊢
  have hlt := Graph.length_filter_lt known new
  have hle : (c.description.schemaNames.filter fun n => !processed'.contains n).length ≤
      (c.description.schemaNames.filter fun n => !processed.contains n).length := by
    rw [← List.countP_eq_length_filter, ← List.countP_eq_length_filter]
    refine List.countP_mono_left fun n _ hn => ?_
    simp only [List.contains_eq_mem, Bool.not_eq_true', decide_eq_false_iff_not] at hn ⊢
    exact fun hp => hn (hs hp)
  omega

end ClientGen.Emission
