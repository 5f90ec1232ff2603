import ClientGen.Proofs.Emission.Attribution
import ClientGen.Proofs.Plan.Ownership

/-!
# Whose the failures of a plan are

A plan lists a schema as failed, or leaves it undeclared, for the sake of a broken reference. Where no
cycle of references leads to one, it is the schema's own: whatever needs a broken schema is declared
after it, with `any` in its place. On a cycle some schema has to come before one that it needs, which
is then begun for its sake; and if that one is given up, both are, with all that lies between.
-/

namespace ClientGen

open Api Emission Enumeration Graph Relation Schema Template TypeScript

/-! ### Failures -/

/-- What is given up together with the schema `r`: the schema itself, and whatever it leads to if it
lies on a cycle of references. -/
def Api.Description.Drags (d : Description) (r s : String) : Prop :=
  r = s ∨ TransGen (Leads d) r r ∧ ReflTransGen (Leads d) r s

/-- The error gives reason to list the schema `s`: it is that of a broken reference of the schema's own
tree or, if the schema lies on a cycle, of one that it leads to. -/
def Api.Description.GivesUp (d : Description) (s : String) (e : SchemaError) : Prop :=
  ∃ b, d.Breaks b e ∧ d.Drags s b

/-- The entry about a schema that failed. -/
def failureOf (s : String) (e : SchemaError) : String :=
  s ++ ": " ++ e.message

/-- The schema has failed in one of the files. -/
def Emission.Workspace.GaveUp (w : Workspace) (s : String) : Prop :=
  s ∈ w.types.failed ∨ s ∈ w.validators.failed

/-- Every entry is about a schema that there is reason to list. Whatever has failed is given up
together with a schema that is listed, and leads to a broken reference. -/
structure Attributed (d : Description) (w : Workspace) (failures : List String) : Prop where
  listed : ∀ text ∈ failures, ∃ s e, text = failureOf s e ∧ d.GivesUp s e
  failed : ∀ s, w.GaveUp s → ∃ r e, failureOf r e ∈ failures ∧ d.GivesUp r e ∧ d.Drags r s ∧
    d.Doomed s

variable {c : Setting} {G : Ground c} {w w' : Workspace} {name : String} {node : SchemaNode}
  {e : SchemaError} {d : Description} {failures : List String}

lemma attributed_fresh {r : Registry} {log : Log} : Attributed d { registry := r, log } [] where
  listed := by simp
  failed s h := by simp [Workspace.GaveUp] at h

/-- A later entry may be added, and what has failed with its schema. -/
lemma Attributed.add {r : Option String} (h : Attributed d w failures)
    (listed : ∀ text ∈ r, ∃ e, text = failureOf name e ∧ d.GivesUp name e)
    (failed : ∀ s, w'.GaveUp s → w.GaveUp s ∨
      r.isSome ∧ d.Drags name s ∧ d.Doomed s) :
    Attributed d w' (failures ++ r.toList) where
  listed text ht := by
    rcases List.mem_append.1 ht with ht | ht
    · exact h.listed text ht
    · obtain ⟨e, he⟩ := listed text (Option.mem_toList.1 ht)
      exact ⟨name, e, he⟩
  failed s hs := by
    rcases failed s hs with hs | ⟨some_, dragged, doomed⟩
    · obtain ⟨root, e, hr, reason⟩ := h.failed s hs
      exact ⟨root, e, List.mem_append_left _ hr, reason⟩
    · obtain ⟨text, rfl⟩ := Option.isSome_iff_exists.1 some_
      obtain ⟨e, rfl, reason⟩ := listed text rfl
      exact ⟨name, e, by simp, reason, dragged, doomed⟩

/-! ### The turn of a schema -/

/-- How the emission of a schema ended in one of the files. -/
def Emission.Progress.Ends (c : Setting) (name : String) (p p' : Progress) :
    Except SchemaError Unit → Prop
  | .ok _ => p.Advances p'
  | .error e => p.BreaksOff c name e p'

lemma Emission.Progress.Ends.failed {p p' : Progress} {r : Except SchemaError Unit}
    (h : Progress.Ends c name p p' r) {s : String} (hs : s ∈ p'.failed) : s ∈ p.failed ∨
      (∃ e, r = .error e) ∧ Pursued c (· ∈ p.begun) name s ∧ c.description.Doomed s := by
  rcases r with e | ⟨⟩
  · have stopped : p.BreaksOff c name e p' := h
    exact (stopped.failed s hs).imp_right fun reached => ⟨⟨e, rfl⟩, reached⟩
  · have advanced : p.Advances p' := h
    exact .inl (advanced.failed ▸ hs)

lemma ends_of_serves {view : Workspace → Progress} {x : Emit Unit}
    {Q : Unit → Workspace → Prop} {E : EmitError → Workspace → Prop}
    (serves : Serves c view name x) (h : Meets x w Q E) :
    Meets (caught x) w (fun r w' => (view w).Ends c name (view w') r ∧
      (r = .ok () ∧ Q () w' ∨ ∃ e, r = .error e ∧ E (.schema e) w')) fun _ _ => True := by
  refine meets_caught.2 (((serves w).and h).imp ?_ ?_)
  · rintro ⟨⟩ w' ⟨advances, hq⟩
    exact ⟨advances, .inl ⟨rfl, hq⟩⟩
  · rintro (e | e | e | e) w' ⟨rest, he⟩
    · exact ⟨rest e rfl, .inr ⟨e, rfl, he⟩⟩
    all_goals trivial

/-- What the turn of a schema leaves: it is listed only for a broken reference that is met for its sake,
and whatever fails meanwhile is pursued for its sake. -/
structure Turned (c : Setting) (name : String) (w : Workspace) (r : Option String)
    (w' : Workspace) : Prop where
  listed : ∀ text ∈ r, ∃ e, text = failureOf name e ∧ Blamed c (BothProcessed · w) name e
  failed : ∀ s, w'.GaveUp s → w.GaveUp s ∨
    r.isSome ∧ Pursued c (BothProcessed · w) name s ∧ c.description.Doomed s

/-- A schema is listed for an error that it is to blame for. -/
lemma skip_turned {w₂ : Workspace} (blamed : Blamed c (BothProcessed · w) name e)
    (failed : ∀ s, w₂.GaveUp s → w.GaveUp s ∨
      Pursued c (BothProcessed · w) name s ∧ c.description.Doomed s) :
    Meets (do
      note .warning ("Skipping schema " ++ name ++ ": " ++ e.message)
      return some (name ++ ": " ++ e.message)) w₂ (Turned c name w) fun _ _ => True := by
  refine meets_bind.2 (meets_modify.2 (meets_pure.2 ⟨fun text ht => ?_, fun s hs => ?_⟩))
  · exact ⟨e, (Option.mem_some_iff.1 ht).symm, blamed⟩
  · exact (failed s hs).imp_right fun reached => ⟨rfl, reached⟩

/-- What has failed after both files had their turn. -/
lemma gaveUp_of_ends {w₁ w₂ : Workspace} {type validator : Except SchemaError Unit}
    (types : (typeProgress w).Ends c name (typeProgress w₁) type)
    (validators : (validatorProgress w).Ends c name (validatorProgress w₂) validator)
    (kept : w₂.types = w₁.types) {s : String} (hs : w₂.GaveUp s) : w.GaveUp s ∨
      ((∃ e, type = .error e) ∨ ∃ e, validator = .error e) ∧
        Pursued c (BothProcessed · w) name s ∧ c.description.Doomed s := by
  rcases hs with hs | hs
  · rw [kept] at hs
    exact (types.failed hs).imp .inl (And.imp .inl (And.imp_left (·.imp fun _ both => both.1)))
  · exact (validators.failed hs).imp .inr
      (And.imp .inr (And.imp_left (·.imp fun _ both => both.2)))

lemma emitSchema_attributed (exact : G.Exact) (within : G.within name) (lowers : G.lowers name node)
    (hw : FilesSound c G w) :
    Meets (emitSchema c name) w (Turned c name w) fun _ _ => True := by
  have known := exact lowers
  unfold emitSchema
  refine meets_bind.2 ((ends_of_serves (emitType_givesUp known)
    (emitType_meets exact within lowers hw.types)).imp ?_ fun _ _ _ => trivial)
  rintro type w₁ ⟨types, ended⟩
  have typed : TypesSound c G [] w₁.registry w₁.types ∧ TypesStep w w₁ := by
    rcases ended with ⟨-, sound, step, -⟩ | ⟨e, -, -, after⟩
    · exact ⟨sound, step⟩
    · exact ⟨(after e rfl).1, (after e rfl).2.1⟩
  have sound₁ := hw.typesStep typed.2 typed.1
  refine meets_bind.2 ((ends_of_serves (emitValidator_givesUp known)
    (emitValidator_meets none within (fun n hn => ?_) sound₁.validators)).imp ?_
      fun _ _ _ => trivial)
  · obtain rfl := Option.some.inj (known.symm.trans (hn.resolve_left (by rintro ⟨⟩)).2)
    exact lowers
  rintro validator w₂ ⟨validators, ended'⟩
  have kept : w₂.types = w₁.types := by
    rcases ended' with ⟨-, -, step, -⟩ | ⟨e, -, -, after⟩
    · exact step.types
    · exact (after e rfl).2.1.types
  rw [show validatorProgress w₁ = validatorProgress w from
    congrArg DeclarationFile.progress typed.2.validators] at validators
  have failed (s : String) (hs : w₂.GaveUp s) := gaveUp_of_ends types validators kept hs
  -- An error of the types is the one that is listed, whatever the validators came to.
  rcases type with e | ⟨⟩
  · have stopped : (typeProgress w).BreaksOff c name e (typeProgress w₁) := types
    exact skip_turned (stopped.reason.imp fun _ both => both.1)
      fun s hs => (failed s hs).imp_right And.right
  · rcases validator with e | ⟨⟩
    · have stopped : (validatorProgress w).BreaksOff c name e (validatorProgress w₂) := validators
      exact skip_turned (stopped.reason.imp fun _ both => both.2)
        fun s hs => (failed s hs).imp_right And.right
    · refine meets_pure.2 ⟨by simp, fun s hs => ?_⟩
      exact (failed s hs).imp_right fun ⟨error, _⟩ => by simp at error

/-! ### The schemas of a directory -/

/-- What is pursued for the sake of a schema on its turn is given up together with it: what the schema
references comes before it in the order, or lies on a cycle with it. -/
lemma Emission.Pursued.dragged {names before after : List String} {s : String}
    (pursued : Pursued c (BothProcessed · w) name s)
    (order : dependencyOrder c.description names = before ++ name :: after)
    (closed : ∀ t, Leads c.description name t → t ∈ c.description.schemaNames →
      t ∉ c.commonSchemas → t ∈ names)
    (processed : ∀ s ∈ before, BothProcessed s w) : c.description.Drags name s := by
  rcases pursued with rfl | ⟨t, leads, known, single, new, chain⟩
  · exact .inl rfl
  · rcases mem_before_of_leads order leads (closed t leads known single) with earlier | back
    · exact absurd (processed t earlier) new
    · exact .inr ⟨.head' leads back, chain.head leads⟩

/-- What is known of the schemas that a directory declares. -/
structure Declarable (G : Ground c) (names : List String) : Prop where
  exact : G.Exact
  within : ∀ s ∈ names, G.within s ∧ ∃ n, G.lowers s n
  closed : ∀ s ∈ names, ∀ t, Leads c.description s t → t ∈ c.description.schemaNames →
    t ∉ c.commonSchemas → t ∈ names

/-- Schemas have their turns in order; each of them finds those before it dealt with. -/
lemma mapM_emitSchema_attributed {names : List String} (ready : Declarable G names) :
    ∀ (rest before : List String) (w : Workspace) (failures : List String),
      dependencyOrder c.description names = before ++ rest → FilesSound c G w →
      (∀ s ∈ before, BothProcessed s w) → Attributed c.description w failures →
      Meets (rest.mapM (emitSchema c)) w
        (fun rs w' => Attributed c.description w' (failures ++ rs.filterMap id)) fun _ _ => True
  | [], _, w, failures, _, _, _, attributed => by
    rw [List.mapM_nil]
    refine meets_pure.2 ?_
    simpa using attributed
  | name :: rest, before, w, failures, order, hw, processed, attributed => by
    have mem : name ∈ names := mem_dependencyOrder.1 (by rw [order]; simp)
    obtain ⟨within, node, lowers⟩ := ready.within name mem
    have turn := emitSchema_attributed ready.exact within lowers hw
    have kept := emitSchema_keeps (w := w) ready.exact (fun h : False => h.elim) within lowers
      ⟨hw, False.elim⟩
    rw [List.mapM_cons]
    refine meets_bind.2 ((turn.and kept).imp ?_ fun _ _ _ => trivial)
    rintro r w' ⟨⟨listed, failed⟩, ⟨hw', -⟩, grows, both, -⟩
    have later : ∀ s ∈ before ++ [name], BothProcessed s w' := by
      intro s hs
      rcases List.mem_append.1 hs with hs | hs
      · exact (processed s hs).grows grows
      · rw [List.mem_singleton.1 hs]
        exact both
    have dragged {s : String} (pursued : Pursued c (BothProcessed · w) name s) :
        c.description.Drags name s :=
      pursued.dragged order (ready.closed name mem) processed
    have attributed' := attributed.add (fun text ht => by
      obtain ⟨e, he, b, breaks, pursued⟩ := listed text ht
      exact ⟨e, he, b, breaks, dragged pursued⟩)
      fun s hs => (failed s hs).imp_right (And.imp_right (And.imp_left dragged))
    refine meets_bind.2 ((mapM_emitSchema_attributed ready rest (before ++ [name]) w'
      (failures ++ r.toList) (by simpa using order) hw' later attributed').imp ?_
        fun _ _ _ => trivial)
    intro rs w'' last
    refine meets_pure.2 ?_
    cases r with
    | none => simpa using last
    | some text => simpa using last

/-- Whatever the schemas of a directory fail for is attributed to broken references. -/
lemma emitSchemas_attributed {names : List String} (ready : Declarable G names)
    (hw : FilesSound c G w) (unfailed : ∀ s, ¬ w.GaveUp s) :
    Meets (emitSchemas c names) w (fun failures w' => Attributed c.description w' failures)
      fun _ _ => True := by
  have turns (log : Log) := mapM_emitSchema_attributed ready (dependencyOrder c.description names) []
    { w with log } [] rfl ⟨hw.types, hw.validators⟩ (by simp)
    ⟨by simp, fun s hs => absurd hs (unfailed s)⟩
  unfold emitSchemas
  refine meets_bind.2 (meets_modify.2 (meets_bind.2 ((turns _).imp ?_ fun _ _ _ => trivial)))
  intro rs w' attributed
  exact meets_pure.2 (by simpa using attributed)

/-! ### Planning -/

variable {templates : TemplateId → ClientGen.Template} {settings : PlanSettings} {log : Log}
  {common declarations modules names : List String} {module : String} {plan : Plan}

lemma declarable_shared (shared : ∀ s, s ∈ common ↔ SharedBy d modules s) :
    Declarable (d.sharedGround templates modules) common where
  exact h := h.2
  within s hs := by
    have by_two := (shared s).1 hs
    have known : s ∈ d.schemaNames := by
      obtain ⟨m, -, m', -, -, needs, -⟩ := by_two
      exact needs.1
    obtain ⟨n, hn⟩ := exists_schema_of_mem known
    exact ⟨by_two, n, by_two, hn⟩
  closed s hs t leads known _ := by
    obtain ⟨m, hm, m', hm', ne, needs, needs'⟩ := (shared s).1 hs
    exact (shared t).2 ⟨m, hm, m', hm', ne, needs.leads leads known, needs'.leads leads known⟩

lemma declarable_own (own : ∀ s, s ∈ names ↔ Own d common module s) :
    Declarable (d.moduleGround templates common declarations module) names where
  exact h := h.2
  within s hs := by
    have owned := (own s).1 hs
    obtain ⟨n, hn⟩ := exists_schema_of_mem owned.1.1
    exact ⟨owned, n, owned, hn⟩
  closed s hs t leads known single :=
    (own t).2 ⟨((own s).1 hs).1.leads leads known, single⟩

lemma planShared_attributed (shared : ∀ s, s ∈ common ↔ SharedBy d modules s) :
    Meets (planShared (d.setting templates [] []) settings.layout common) log
      (fun part _ => Attributed d part.workspace part.failures) fun _ _ => True := by
  unfold planShared
  split
  · exact meets_pure.2 attributed_fresh
  · have ready : Declarable (d.sharedGround templates modules) common := declarable_shared shared
    refine meets_bind.2 (meets_modify.2 (meets_bind.2 (emitting_meets.2
      ((emitSchemas_attributed ready ⟨.empty, .empty⟩ (by simp [Workspace.GaveUp])).imp ?_
        fun _ _ _ => trivial))))
    intro failures w attributed
    exact meets_bind.2 (planned_meets (fun _ _ => meets_pure.2 attributed) fun _ _ => trivial)

/-- Operations give up no schema: all that they need has been dealt with. -/
lemma FilesGrow.gaveUp {s : String} (h : FilesGrow w w')
    (sound : FilesSound c G w') (settled : ∀ s, G.within s → BothProcessed s w)
    (hs : w'.GaveUp s) : w.GaveUp s := by
  rcases hs with hs | hs
  · refine .inl ((h.types.mem_failed fun t ht => ?_).1 hs)
    exact (settled t (sound.types.within t (sound.types.failed t ht).1)).1
  · refine .inr ((h.validators.mem_failed fun t ht => ?_).1 hs)
    exact (settled t (sound.validators.within t (sound.validators.failed t ht).1)).2

lemma planModule_attributed {registry : Registry}
    (own : ∀ s, s ∈ names ↔ Own d common module s) :
    Meets (planModule (d.setting templates common declarations) settings registry module names) log
      (fun part _ => Attributed d part.workspace part.failures) fun _ _ => True := by
  have ready : Declarable (d.moduleGround templates common declarations module) names :=
    declarable_own own
  have fresh : FilesSound _ (d.moduleGround templates common declarations module)
      { registry, log := [] } := ⟨.empty, .empty⟩
  have schemas := emitSchemas_attributed ready fresh (by simp [Workspace.GaveUp])
  have dealt := emitSchemas_keeps False (w := { registry, log := [] }) ready.exact False.elim
    ready.within ⟨fresh, False.elim⟩
  unfold planModule
  refine meets_bind.2 (emitting_meets.2 ((schemas.and dealt).imp ?_ fun _ _ _ => trivial))
  rintro failures w ⟨attributed, ⟨hw, -⟩, -, processed, -⟩
  have settled (s : String) (hs : Own d common module s) : BothProcessed s w :=
    processed s ((own s).2 hs)
  refine meets_bind.2 (Meets.trivial.imp ?_ fun _ _ _ => trivial)
  intro hooks log' _
  refine meets_bind.2 ((emitOperations_planned settings hw settled).imp ?_ fun _ _ _ => trivial)
  rintro ⟨⟨ops, failures'⟩, w'⟩ log'' ⟨hw', -, grows, -, rfl⟩
  refine meets_bind.2 (planned_meets (fun files _ => ?_) fun _ _ => trivial)
  refine meets_bind.2 (meets_modify.2 (meets_pure.2 ?_))
  rw [List.append_nil]
  exact ⟨attributed.listed, fun s hs => attributed.failed s (grows.gaveUp hw' settled hs)⟩

lemma planModules_attributed {map : Partition.ModuleMap} :
    ∀ (modules : List String) (registry : Registry) (log : Log),
      (∀ m ∈ modules, ∀ s, s ∈ (map.lookup m).getD [] ↔ Own d common m s) →
      Meets (planModules (d.setting templates common declarations) settings map registry modules)
        log (fun parts _ => ∀ part ∈ parts, Attributed d part.workspace part.failures)
        fun _ _ => True
  | [], _, _, _ => meets_pure.2 (by simp)
  | module :: rest, registry, log, own => by
    rw [planModules]
    refine meets_bind.2 ((planModule_attributed (own module (by simp))).imp ?_ fun _ _ _ => trivial)
    intro part log' first
    refine meets_bind.2 ((planModules_attributed rest part.workspace.registry log'
      fun m hm => own m (by simp [hm])).imp ?_ fun _ _ _ => trivial)
    intro parts log'' others
    exact meets_pure.2 (List.forall_mem_cons.2 ⟨first, others⟩)

/-- However planning goes, the failures of each directory are attributed. -/
lemma planOf_attributed :
    Meets (Plan.of d settings templates) log
      (fun plan _ => Attributed d plan.shared.workspace plan.shared.failures ∧
        ∀ part ∈ plan.parts, Attributed d part.workspace part.failures) fun _ _ => True := by
  unfold Plan.of
  refine meets_bind.2 (meets_modify.2 ?_)
  dsimp only
  refine meets_bind.2 (meets_modify.2 (meets_bind.2 (meets_liftM.2 ⟨fun modules chosen => ?_,
    fun _ _ => trivial⟩)))
  have run : outcome (Partition.selectModules ((Partition.moduleMap d).map Prod.fst)
      settings.selected settings.ignored) [] = (.ok modules, _) :=
    Prod.ext (Contract.mapError_eq_ok chosen) rfl
  obtain ⟨-, available⟩ := (Partition.selectModules_meets Partition.nodup_moduleMap).of_ok run
  refine meets_bind.2 ((planShared_attributed fun s => mem_split_iff available).imp ?_
    fun _ _ _ => trivial)
  intro shared log' hs
  refine meets_bind.2 ((planModules_attributed modules shared.workspace.registry log'
    fun m hm s => Partition.mem_own_iff (available hm) hm).imp ?_ fun _ _ _ => trivial)
  intro parts log'' hp
  exact meets_bind.2 (planned_meets (fun _ _ => meets_pure.2 ⟨hs, hp⟩) fun _ _ => trivial)

/-! ### Plans -/

/-- The schema is given up together with one that there is reason to list, and leads to a broken
reference. -/
def Api.Description.Excuses (d : Description) (s : String) : Prop :=
  ∃ r e, d.GivesUp r e ∧ d.Drags r s ∧ d.Doomed s

/-- No cycle of references leads to a broken one. -/
def Api.Description.CyclesSound (d : Description) : Prop :=
  ∀ s, TransGen (Leads d) s s → ¬ d.Doomed s

/-- The schema is declared in both files of a directory. -/
structure Directory.Declares (D : Directory) (s : String) : Prop where
  type : ∃ x ∈ D.workspace.types.emitted,
    D.setting.identifier? D.workspace.registry s = some x
  validator : ∃ x, validatorName x ∈ D.workspace.validators.emitted ∧
    D.setting.identifier? D.workspace.registry s = some x

/-- No declaration of a directory refers to what goes by the identifier `x` unless it is declared. -/
structure Directory.Avoids (D : Directory) (x : String) : Prop where
  types : x ∉ D.workspace.types.emitted →
    ∀ e ∈ D.workspace.types.declarations, ¬ e.declaration.Mentions none x
  validators : validatorName x ∉ D.workspace.validators.emitted →
    ∀ e ∈ D.workspace.validators.declarations, ¬ e.declaration.RefersTo none (validatorName x)

/-- A plan lists a schema, or leaves it undeclared, for the sake of broken references only. What its
directories declare is asked for: a reference is lowered to the name of the schema that it leads to,
or to `any` if that one has failed, and off the cycles never to the name of one that is undeclared. -/
structure Plan.Attributes (d : Description) (templates : TemplateId → ClientGen.Template)
    (plan : Plan) : Prop where
  listed : ∀ text ∈ plan.failures, ∃ s e, text = failureOf s e ∧ d.GivesUp s e
  failed : ∀ D ∈ plan.directories d templates, ∀ s, D.workspace.GaveUp s → ∃ r e,
    failureOf r e ∈ plan.failures ∧ d.GivesUp r e ∧ d.Drags r s ∧ d.Doomed s
  shared : ∀ s, SharedBy d plan.modules s → ¬ d.Excuses s →
    (Plan.sharedDirectory d templates plan.shared).Declares s
  own : ∀ part ∈ plan.parts, ∀ s, Own d plan.common part.target.module s → ¬ d.Excuses s →
    (Plan.moduleDirectory d templates plan.common plan.shared.declarations part).Declares s
  recorded : ∀ D ∈ plan.directories d templates, D.Recorded
  avoids : ∀ D ∈ plan.directories d templates, ∀ x,
    (∀ s, D.setting.identifier? D.workspace.registry s = some x → ¬ TransGen (Leads d) s s) →
      D.Avoids x

/-- Where cycles are sound, a schema is given up for a broken reference of its own. -/
lemma Api.Description.CyclesSound.breaks (sound : d.CyclesSound) {s : String} (h : d.Excuses s) :
    ∃ e, d.Breaks s e := by
  obtain ⟨r, e, ⟨b, breaks, own⟩, rfl | ⟨cycle, chain⟩, doomed⟩ := h
  · rcases own with rfl | ⟨cycle, -⟩
    · exact ⟨e, breaks⟩
    · exact absurd doomed (sound r cycle)
  · obtain ⟨b', e', breaks', chain'⟩ := doomed
    exact absurd ⟨b', e', breaks', chain.trans chain'⟩ (sound r cycle)

lemma Api.Description.GivesUp.breaks {s : String} (h : d.GivesUp s e) (sound : d.CyclesSound) :
    d.Breaks s e := by
  obtain ⟨b, breaks, rfl | ⟨cycle, chain⟩⟩ := h
  · exact breaks
  · exact absurd ⟨b, e, breaks, chain⟩ (sound s cycle)

/-- A finished directory declares what has been dealt with and has not failed. -/
lemma FilesSound.declares {D : Directory} {G : Ground D.setting} {s : String}
    (sound : FilesSound D.setting G D.workspace) (settled : BothProcessed s D.workspace)
    (unfailed : ¬ D.workspace.GaveUp s) : D.Declares s where
  type := by
    rcases sound.types.declared s settled.1 with open_ | failed | declared
    · cases open_
    · exact absurd (.inl failed) unfailed
    · exact declared
  validator := by
    rcases sound.validators.declared s settled.2 with open_ | failed | declared
    · cases open_
    · exact absurd (.inr failed) unfailed
    · exact declared

/-- What is mentioned in a file without being declared has failed on a cycle. -/
lemma FilesSound.avoids {D : Directory} {G : Ground D.setting} {x : String}
    (sound : FilesSound D.setting G D.workspace)
    (leads : ∀ s t, G.leads s t → Leads D.setting.description s t)
    (off : ∀ s, D.setting.identifier? D.workspace.registry s = some x →
      ¬ TransGen (Leads D.setting.description) s s) : D.Avoids x where
  types undeclared e he mentions := by
    rcases sound.types.reference he mentions with ⟨-, declared | ⟨s, -, t, hs, -, hts, hst⟩⟩ |
      ⟨other, -⟩
    · exact undeclared declared
    · exact off s hs (.tail' (ReflTransGen.mono @leads _ _ hst) (leads t s hts))
    · cases other
  validators undeclared e he refers := by
    rcases sound.validators.reference he refers with
      ⟨-, declared | ⟨_, y, -, hy, s, -, t, hs, -, hts, hst⟩⟩ | ⟨other, -⟩
    · exact undeclared declared
    · obtain rfl := validatorName_injective hy
      exact off s hs (.tail' (ReflTransGen.mono @leads _ _ hst) (leads t s hts))
    · cases other

/-- What fails in a directory is excused. -/
lemma Attributed.excuses {s : String} (h : Attributed d w failures) (gone : w.GaveUp s) :
    d.Excuses s := by
  obtain ⟨r, e, -, reason⟩ := h.failed s gone
  exact ⟨r, e, reason⟩

lemma PlanSound.avoids (sound : PlanSound d templates settings plan) {D : Directory}
    (hD : D ∈ plan.directories d templates) {x : String}
    (off : ∀ s, D.setting.identifier? D.workspace.registry s = some x →
      ¬ TransGen (Leads d) s s) : D.Avoids x := by
  rcases List.mem_cons.1 hD with rfl | hpart
  · exact sound.shared.files.avoids (fun _ _ h => h) off
  · obtain ⟨part, hp, rfl⟩ := List.mem_map.1 hpart
    obtain ⟨m, -, own, -⟩ := sound.part hp
    exact own.files.avoids (fun _ _ h => h) off

lemma PlanSound.attributes (sound : PlanSound d templates settings plan)
    (recorded : ∀ D ∈ plan.directories d templates, D.Recorded)
    (shared : Attributed d plan.shared.workspace plan.shared.failures)
    (parts : ∀ part ∈ plan.parts, Attributed d part.workspace part.failures) :
    plan.Attributes d templates where
  listed text ht := by
    rw [sound.failures] at ht
    rcases List.mem_append.1 ht with ht | ht
    · exact shared.listed text ht
    · obtain ⟨part, hp, ht⟩ := List.mem_flatMap.1 ht
      exact (parts part hp).listed text ht
  failed D hD s gone := by
    rw [sound.failures]
    rcases List.mem_cons.1 hD with rfl | hpart
    · obtain ⟨r, e, hr, reason⟩ := shared.failed s gone
      exact ⟨r, e, List.mem_append_left _ hr, reason⟩
    · obtain ⟨part, hp, rfl⟩ := List.mem_map.1 hpart
      obtain ⟨r, e, hr, reason⟩ := (parts part hp).failed s gone
      exact ⟨r, e, List.mem_append_right _ (List.mem_flatMap.2 ⟨part, hp, hr⟩), reason⟩
  shared s by_two unexcused := by
    refine FilesSound.declares (D := Plan.sharedDirectory d templates plan.shared)
      sound.shared.files (sound.shared.settled s by_two) fun gone => unexcused (shared.excuses gone)
  own part hp s own unexcused := by
    obtain ⟨m, -, sound', -⟩ := sound.part hp
    rw [sound'.target] at own
    exact FilesSound.declares
      (D := Plan.moduleDirectory d templates plan.common plan.shared.declarations part)
      sound'.files (sound'.settled s own) fun gone => unexcused ((parts part hp).excuses gone)
  recorded := recorded
  avoids D hD x off := sound.avoids hD off

/-- Planning attributes what fails to broken references, and only on cycles to those of another
schema: where no cycle leads to a broken reference, whatever is listed or undeclared holds one. -/
theorem planOf_attributes :
    Meets (Plan.of d settings templates) log
      (fun plan _ => plan.Attributes d templates ∧ (d.CyclesSound →
        (∀ text ∈ plan.failures, ∃ s e, text = failureOf s e ∧ d.Breaks s e) ∧
          ∀ s, d.Excuses s → ∃ e, d.Breaks s e))
      fun e _ => NoPlan d templates settings e := by
  refine ((planOf_meets.and planOf_attributed).and planOf_recorded).imp ?_ fun e _ he => he.1.1
  rintro plan _ ⟨⟨sound, shared, parts⟩, recorded⟩
  have attributes := sound.attributes recorded shared parts
  refine ⟨attributes, fun cycles => ⟨fun text ht => ?_, fun s => cycles.breaks⟩⟩
  obtain ⟨s, e, rfl, reason⟩ := attributes.listed text ht
  exact ⟨s, e, rfl, reason.breaks cycles⟩

end ClientGen
