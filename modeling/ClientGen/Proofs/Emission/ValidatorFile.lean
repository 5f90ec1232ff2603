import ClientGen.Proofs.Emission.Ground
import ClientGen.Proofs.Emission.ValidatorLowering

/-!
# The validator file

The file of validators is evaluated from top to bottom. Whatever a validator refers to as soon as it
is made is declared above it; what it looks up only when it is used is a schema that was still being
lowered, which is declared later with an explicit type or has failed.
-/

namespace ClientGen.Emission

open Api Enumeration Naming Output Relation Schema Template TypeScript

variable {c : Setting} {G : Ground c} {path : List String} {r r' : Registry}
  {f f' : DeclarationFile ValidatorDeclaration} {targets targets' : List String}
  {owner s x k : String} {q : Option String}

/-- Something else may have the identifier `x` of the schema `s`: another schema, an enumeration, or
what is declared beside the schemas. -/
def Clash (c : Setting) (G : Ground c) (r : Registry) (s x : String) : Prop :=
  (∃ t, t ≠ s ∧ c.identifier? r t = some x) ∨ r.Binds x ∨ G.foreign x

lemma Clash.mono (hle : r ≤ r') (h : Clash c G r s x) : Clash c G r' s x := by
  rcases h with ⟨t, ht, hx⟩ | h | h
  · exact .inl ⟨t, ht, identifier?_mono hle hx⟩
  · exact .inr (.inl (h.mono hle))
  · exact .inr (.inr h)

/-- The constant `k` may be declared by one of the schemas `ss`, by an enumeration, or beside
them. -/
def Owned (c : Setting) (G : Ground c) (r : Registry) (ss : List String) (k : String) : Prop :=
  ∃ x, k = validatorName x ∧ ((∃ s ∈ ss, c.identifier? r s = some x) ∨ r.Binds x ∨ G.foreign x)

lemma Owned.mono {ss ss' : List String} (hle : r ≤ r') (hs : ss ⊆ ss')
    (h : Owned c G r ss k) : Owned c G r' ss' k := by
  obtain ⟨x, hk, ⟨s, hss, hx⟩ | h | h⟩ := h
  · exact ⟨x, hk, .inl ⟨s, hs hss, identifier?_mono hle hx⟩⟩
  · exact ⟨x, hk, .inr (.inl (h.mono hle))⟩
  · exact ⟨x, hk, .inr (.inr h)⟩

/-- Whoever else owns the constant of a schema has its identifier. -/
lemma Owned.clash {ss : List String} (hs : s ∉ ss) (h : Owned c G r ss (validatorName x)) :
    Clash c G r s x := by
  obtain ⟨y, hk, ho⟩ := h
  obtain rfl := validatorName_injective hk
  exact ho.imp_left fun ⟨t, ht, hx⟩ => ⟨t, fun h => hs (h ▸ ht), hx⟩

/-- An identifier that a schema gets later on is that of an enumeration. -/
lemma identifier?_before (h : c.identifier? r' s = some x) :
    c.identifier? r s = some x ∨ r'.Binds x := by
  unfold Setting.identifier? at h ⊢
  revert h
  split
  · exact fun h => .inr ⟨_, h⟩
  · exact .inl
  · exact .inl

/-- The reference of the declaration `owner` to the constant `k` that is followed only when it is
used: it leads to a schema that leads back. -/
def Deferral (c : Setting) (G : Ground c) (r : Registry) (targets : List String) (owner k : String) :
    Prop :=
  ∃ s ∈ targets, ∃ x t y, c.identifier? r s = some x ∧ k = validatorName x ∧
    c.identifier? r t = some y ∧ owner = validatorName y ∧ G.leads t s ∧ ReflTransGen G.leads s t

lemma Deferral.mono (hle : r ≤ r') (hs : targets ⊆ targets') (h : Deferral c G r targets owner k) :
    Deferral c G r' targets' owner k := by
  obtain ⟨s, hst, x, t, y, hx, hk, hy, ho, hts, hst'⟩ := h
  exact ⟨s, hs hst, x, t, y, identifier?_mono hle hx, hk, identifier?_mono hle hy, ho, hts, hst'⟩

/-- A reference to a shared constant, which the file notes. -/
def SharedConst (c : Setting) (r : Registry) (f : DeclarationFile ValidatorDeclaration)
    (q : Option String) (k : String) : Prop :=
  q = some commonNamespace ∧ f.usesCommon = true ∧ ∃ x, k = validatorName x ∧ c.SharedName r x

lemma SharedConst.mono (hle : r ≤ r') (hu : f.usesCommon = true → f'.usesCommon = true)
    (h : SharedConst c r f q k) : SharedConst c r' f' q k := by
  obtain ⟨hq, hf, x, hk, hx⟩ := h
  exact ⟨hq, hu hf, x, hk, hx.mono hle⟩

/-- The schema is declared in the validator file, with an explicit type. -/
def Annotated (f : DeclarationFile ValidatorDeclaration) (x : String) : Prop :=
  ∃ d ∈ f.declarations, ∃ v description,
    d.declaration = .schema (validatorName x) v true description

/-- What holds of the validator file while the schemas of `path` are being lowered. -/
structure ValidatorsSound (c : Setting) (G : Ground c) (path : List String) (r : Registry)
    (f : DeclarationFile ValidatorDeclaration) (targets : List String) : Prop where
  nodup : f.processed.Nodup
  within : ∀ s ∈ f.processed, G.within s
  path_subset : path ⊆ f.processed
  failed : ∀ s ∈ f.failed, s ∈ f.processed ∧ ∃ e, G.permits (.schema e)
  declared : ∀ s ∈ f.processed, s ∈ path ∨ s ∈ f.failed ∨
    ∃ x, validatorName x ∈ f.emitted ∧ c.identifier? r s = some x
  emitted_nodup : f.emitted.Nodup
  written : ∀ d ∈ f.declarations, writeDeclaration c.templates d.declaration = .ok d
  evaluable : ∀ above d below, f.declarations = above ++ d :: below →
    ∀ k, d.declaration.Mentions none k → k ∈ above.map fun d => d.declaration.name
  shared : ∀ d ∈ f.declarations, ∀ n k, d.declaration.Mentions (some n) k →
    SharedConst c r f (some n) k
  deferred : ∀ d ∈ f.declarations, ∀ k, d.declaration.Defers k →
    Deferral c G r targets d.declaration.name k
  lowered : ∀ s ∈ targets, s ∈ f.processed ∧ ∃ n, G.lowers s n ∧ n.isEnumeration = false
  owned : ∀ k ∈ f.emitted, Owned c G r f.processed k
  free : ∀ s ∈ path, ∀ x, c.identifier? r s = some x →
    validatorName x ∉ f.emitted ∨ Clash c G r s x
  annotated : ∀ s ∈ targets, ∀ x, c.identifier? r s = some x →
    s ∈ path ∨ s ∈ f.failed ∨ Clash c G r s x ∨ Annotated f x

namespace ValidatorsSound

lemma empty : ValidatorsSound c G [] r {} [] := by
  constructor <;> simp [DeclarationFile.emitted]

lemma registry (hle : r ≤ r') (h : ValidatorsSound c G path r f targets) :
    ValidatorsSound c G path r' f targets where
  nodup := h.nodup
  within := h.within
  path_subset := h.path_subset
  failed := h.failed
  declared s hs := (h.declared s hs).imp_right fun hd => hd.imp_right fun ⟨x, hx, hn⟩ =>
    ⟨x, hx, identifier?_mono hle hn⟩
  emitted_nodup := h.emitted_nodup
  written := h.written
  evaluable := h.evaluable
  shared d hd n k hm := (h.shared d hd n k hm).mono hle id
  deferred d hd k hm := (h.deferred d hd k hm).mono hle fun _ h => h
  lowered := h.lowered
  owned k hk := (h.owned k hk).mono hle fun _ h => h
  free s hs x hx := by
    rcases identifier?_before hx with hx | hx
    · exact (h.free s hs x hx).imp_right (.mono hle)
    · exact .inr (.inr (.inl hx))
  annotated s hs x hx := by
    rcases identifier?_before hx with hx | hx
    · exact (h.annotated s hs x hx).imp_right fun h => h.imp_right fun h =>
        h.imp_left (.mono hle)
    · exact .inr (.inr (.inl (.inr (.inl hx))))

/-- Whether the file refers to the shared schemas may be noted anew, as long as it is noted if one
of its declarations does. -/
lemma noteCommon {u : Bool} (h : ValidatorsSound c G path r f targets)
    (noted : ∀ d ∈ f.declarations, ∀ n k, d.declaration.Mentions (some n) k → u = true) :
    ValidatorsSound c G path r { f with usesCommon := u } targets where
  nodup := h.nodup
  within := h.within
  path_subset := h.path_subset
  failed := h.failed
  declared := h.declared
  emitted_nodup := h.emitted_nodup
  written := h.written
  evaluable := h.evaluable
  shared d hd n k hm := by
    obtain ⟨hq, -, x, hk, hx⟩ := h.shared d hd n k hm
    exact ⟨hq, noted d hd n k hm, x, hk, hx⟩
  deferred := h.deferred
  lowered := h.lowered
  owned := h.owned
  free := h.free
  annotated := h.annotated

lemma useCommon (h : ValidatorsSound c G path r f targets) :
    ValidatorsSound c G path r { f with usesCommon := true } targets :=
  h.noteCommon fun _ _ _ _ _ => rfl

/-- A schema of the path is looked up only when it is used. -/
lemma defer (h : ValidatorsSound c G path r f targets) (hs : s ∈ path)
    (hl : ∃ n, G.lowers s n ∧ n.isEnumeration = false) :
    ValidatorsSound c G path r f (addNew targets s) where
  nodup := h.nodup
  within := h.within
  path_subset := h.path_subset
  failed := h.failed
  declared := h.declared
  emitted_nodup := h.emitted_nodup
  written := h.written
  evaluable := h.evaluable
  shared := h.shared
  deferred d hd k hm := (h.deferred d hd k hm).mono (le_refl r) fun _ h => mem_addNew.2 (.inl h)
  lowered t ht := by
    rcases mem_addNew.1 ht with ht | rfl
    · exact h.lowered t ht
    · exact ⟨h.path_subset hs, hl⟩
  owned := h.owned
  free := h.free
  annotated t ht x hx := by
    rcases mem_addNew.1 ht with ht | rfl
    · exact h.annotated t ht x hx
    · exact .inl hs

lemma evaluable_add {d : Written ValidatorDeclaration} (h : ValidatorsSound c G path r f targets)
    (eager : ∀ k, d.declaration.Mentions none k → k ∈ f.emitted)
    (above : List (Written ValidatorDeclaration)) (e : Written ValidatorDeclaration)
    (below : List (Written ValidatorDeclaration))
    (he : (f.add d).declarations = above ++ e :: below) (k : String)
    (hm : e.declaration.Mentions none k) : k ∈ above.map fun d => d.declaration.name := by
  unfold DeclarationFile.add at he
  split at he
  · exact h.evaluable above e below he k hm
  · rcases List.eq_nil_or_concat below with rfl | ⟨below', last, rfl⟩
    · obtain ⟨rfl, hd⟩ := List.append_inj' he rfl
      rw [← (List.cons.inj hd).1] at hm
      exact eager k hm
    · rw [List.concat_eq_append, ← List.cons_append, ← List.append_assoc] at he
      exact h.evaluable above e below' (List.append_inj' he rfl).1 k hm

/-- A declaration is added that a schema leaving the path makes, or something beside the path. What
it refers to as soon as it is made is declared. -/
lemma addLeaving {d : Written ValidatorDeclaration} {path' ss : List String}
    (h : ValidatorsSound c G path r f targets)
    (written : d.declaration.name ∉ f.emitted → writeDeclaration c.templates d.declaration = .ok d)
    (eager : ∀ q k, d.declaration.Mentions q k →
      q = none ∧ k ∈ f.emitted ∨ SharedConst c r f q k)
    (deferred : ∀ k, d.declaration.Defers k → Deferral c G r targets d.declaration.name k)
    (owned : Owned c G r ss d.declaration.name) (hs : ss ⊆ f.processed)
    (staying : ∀ s ∈ path', s ∈ path ∧ s ∉ ss)
    (leaving : ∀ s ∈ path, s ∉ path' → ∃ x, c.identifier? r s = some x ∧
      d.declaration.name = validatorName x ∧ (s ∈ targets → ∃ v description,
        d.declaration = .schema (validatorName x) v true description)) :
    ValidatorsSound c G path' r (f.add d) targets where
  nodup := by simpa using h.nodup
  within := by simpa using h.within
  path_subset s hs := by simpa using h.path_subset (staying s hs).1
  failed := by simpa using h.failed
  declared s hs := by
    rw [DeclarationFile.processed_add] at hs
    rw [DeclarationFile.failed_add]
    rcases h.declared s hs with hp | hf | ⟨x, hx, hn⟩
    · by_cases hp' : s ∈ path'
      · exact .inl hp'
      · obtain ⟨x, hx, hn, -⟩ := leaving s hp hp'
        exact .inr (.inr ⟨x, hn ▸ DeclarationFile.mem_emitted_add, hx⟩)
    · exact .inr (.inl hf)
    · exact .inr (.inr ⟨x, DeclarationFile.grows_add.emitted hx, hn⟩)
  emitted_nodup := DeclarationFile.nodup_emitted_add h.emitted_nodup
  written e he := by
    rcases DeclarationFile.mem_declarations_add he with he | ⟨rfl, new⟩
    · exact h.written e he
    · exact written new
  evaluable := h.evaluable_add fun k hm => (eager none k hm).elim And.right fun h => by
    simpa using h.1
  shared e he n k hm := by
    refine SharedConst.mono (le_refl r) DeclarationFile.grows_add.usesCommon ?_
    rcases DeclarationFile.mem_declarations_add he with he | ⟨rfl, -⟩
    · exact h.shared e he n k hm
    · exact (eager (some n) k hm).resolve_left fun h => by simpa using h.1
  deferred e he k hm := by
    rcases DeclarationFile.mem_declarations_add he with he | ⟨rfl, -⟩
    · exact h.deferred e he k hm
    · exact deferred k hm
  lowered := by simpa using h.lowered
  owned k hk := by
    rw [DeclarationFile.processed_add]
    rcases DeclarationFile.mem_emitted_of_add hk with hk | rfl
    · exact h.owned k hk
    · exact owned.mono (le_refl r) hs
  free s hs x hx := by
    obtain ⟨hp, hss⟩ := staying s hs
    rcases h.free s hp x hx with hf | hc
    · by_cases he : validatorName x = d.declaration.name
      · exact .inr (Owned.clash hss (he ▸ owned))
      · refine .inl fun hm => ?_
        rcases DeclarationFile.mem_emitted_of_add hm with hm | hm
        · exact hf hm
        · exact he hm
    · exact .inr hc
  annotated s hs x hx := by
    rw [DeclarationFile.failed_add]
    rcases h.annotated s hs x hx with hp | hf | hc | ⟨e, he, hd⟩
    · by_cases hp' : s ∈ path'
      · exact .inl hp'
      · obtain ⟨y, hy, hn, explicit⟩ := leaving s hp hp'
        obtain rfl := Option.some.inj (hx.symm.trans hy)
        rcases h.free s hp x hx with hf | hc
        · refine .inr (.inr (.inr ⟨d, DeclarationFile.mem_declarations_add_self ?_, explicit hs⟩))
          exact fun hm => hf (hn ▸ hm)
        · exact .inr (.inr (.inl hc))
    · exact .inr (.inl hf)
    · exact .inr (.inr (.inl hc))
    · exact .inr (.inr (.inr ⟨e, DeclarationFile.grows_add.declarations.subset he, hd⟩))

/-- An enumeration inside a schema is added, or a declaration beside the schemas. -/
lemma add {d : Written ValidatorDeclaration} (h : ValidatorsSound c G path r f targets)
    (written : d.declaration.name ∉ f.emitted → writeDeclaration c.templates d.declaration = .ok d)
    (eager : ∀ q k, d.declaration.Mentions q k →
      q = none ∧ k ∈ f.emitted ∨ SharedConst c r f q k)
    (deferred : ∀ k, d.declaration.Defers k → Deferral c G r targets d.declaration.name k)
    (owned : Owned c G r [] d.declaration.name) :
    ValidatorsSound c G path r (f.add d) targets :=
  h.addLeaving written eager deferred owned (List.nil_subset _) (fun _ hs => ⟨hs, by simp⟩)
    fun _ hs hn => absurd hs hn

/-- The schema that was begun last is declared, with an explicit type if it is deferred. -/
lemma declare {d : Written ValidatorDeclaration}
    (h : ValidatorsSound c G (s :: path) r f targets) (hs : s ∉ path)
    (hx : c.identifier? r s = some x) (name : d.declaration.name = validatorName x)
    (written : d.declaration.name ∉ f.emitted → writeDeclaration c.templates d.declaration = .ok d)
    (eager : ∀ q k, d.declaration.Mentions q k →
      q = none ∧ k ∈ f.emitted ∨ SharedConst c r f q k)
    (deferred : ∀ k, d.declaration.Defers k → Deferral c G r targets d.declaration.name k)
    (explicit : s ∈ targets → ∃ v description,
      d.declaration = .schema (validatorName x) v true description) :
    ValidatorsSound c G path r (f.add d) targets := by
  have owned : Owned c G r [s] d.declaration.name := ⟨x, name, .inl ⟨s, by simp, hx⟩⟩
  have begun : [s] ⊆ f.processed := List.cons_subset.2 ⟨h.path_subset (by simp), by simp⟩
  refine h.addLeaving written eager deferred owned begun
    (fun t ht => ⟨List.mem_cons_of_mem s ht, ?_⟩) fun t ht ht' => ?_
  · rw [List.mem_singleton]
    exact fun hts => hs (hts ▸ ht)
  · obtain rfl := (List.mem_cons.1 ht).resolve_right ht'
    exact ⟨x, hx, name, explicit⟩

/-- A schema is begun. -/
lemma start (h : ValidatorsSound c G path r f targets) (new : s ∉ f.processed)
    (hw : G.within s) :
    ValidatorsSound c G (s :: path) r { f with processed := f.processed ++ [s] } targets where
  nodup := List.nodup_append.2 ⟨h.nodup, by simp, fun a ha b hb hab => by
    simp only [List.mem_singleton] at hb
    subst hab hb
    exact new ha⟩
  within t ht := by
    rcases List.mem_append.1 ht with ht | ht
    · exact h.within t ht
    · rwa [List.mem_singleton.1 ht]
  path_subset t ht := by
    rcases List.mem_cons.1 ht with rfl | ht
    · simp
    · exact List.mem_append_left _ (h.path_subset ht)
  failed t ht := ⟨List.mem_append_left _ (h.failed t ht).1, (h.failed t ht).2⟩
  declared t ht := by
    rcases List.mem_append.1 ht with ht | ht
    · exact (h.declared t ht).imp_left (List.mem_cons_of_mem s)
    · exact .inl (by simp [List.mem_singleton.1 ht])
  emitted_nodup := h.emitted_nodup
  written := h.written
  evaluable := h.evaluable
  shared := h.shared
  deferred := h.deferred
  lowered t ht := ⟨List.mem_append_left _ (h.lowered t ht).1, (h.lowered t ht).2⟩
  owned k hk := (h.owned k hk).mono (le_refl r) (List.subset_append_left _ _)
  free t ht x hx := by
    rcases List.mem_cons.1 ht with rfl | ht
    · by_cases hm : validatorName x ∈ f.emitted
      · exact .inr ((h.owned _ hm).clash new)
      · exact .inl hm
    · exact h.free t ht x hx
  annotated t ht x hx := (h.annotated t ht x hx).imp_left (List.mem_cons_of_mem s)

/-- The schema that was begun last has failed. -/
lemma fail {e : SchemaError} (h : ValidatorsSound c G (s :: path) r f targets)
    (he : G.permits (.schema e)) :
    ValidatorsSound c G path r { f with failed := addNew f.failed s } targets where
  nodup := h.nodup
  within := h.within
  path_subset := List.subset_of_cons_subset h.path_subset
  failed t ht := by
    rcases mem_addNew.1 ht with ht | rfl
    · exact h.failed t ht
    · exact ⟨h.path_subset (by simp), e, he⟩
  declared t ht := by
    rcases h.declared t ht with hp | hf | hd
    · rcases List.mem_cons.1 hp with rfl | hp
      · exact .inr (.inl (mem_addNew.2 (.inr rfl)))
      · exact .inl hp
    · exact .inr (.inl (mem_addNew.2 (.inl hf)))
    · exact .inr (.inr hd)
  emitted_nodup := h.emitted_nodup
  written := h.written
  evaluable := h.evaluable
  shared := h.shared
  deferred := h.deferred
  lowered := h.lowered
  owned := h.owned
  free t ht := h.free t (List.mem_cons_of_mem s ht)
  annotated t ht x hx := by
    rcases h.annotated t ht x hx with hp | hf | hd
    · rcases List.mem_cons.1 hp with rfl | hp
      · exact .inr (.inl (mem_addNew.2 (.inr rfl)))
      · exact .inl hp
    · exact .inr (.inl (mem_addNew.2 (.inl hf)))
    · exact .inr (.inr hd)

end ValidatorsSound

end ClientGen.Emission
