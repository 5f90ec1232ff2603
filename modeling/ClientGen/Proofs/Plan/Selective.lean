import ClientGen.Proofs.Emission.Overlap
import ClientGen.Proofs.Plan.Integrity

/-!
# Plans for selected modules

A plan for some of the modules is made from their operations and from the schemas that these lead to.
What else is in the description has no influence on it.
-/

namespace ClientGen

open Api Emission Enumeration Graph Output Partition Relation Schema Template

variable {d d' : Description} {S : String → Prop} {module s : String} {modules : List String}

/-! ### Planning -/

section Planning

variable {α β : Type}

/-- Both ways of planning come to the same, whatever has been and is reported. -/
def SameResult (x y : Planning α) : Prop :=
  ∀ log log', (outcome x log).1 = (outcome y log').1

namespace SameResult

variable {x y : Planning α} {f g : α → Planning β}

lemma pure {a : α} : SameResult (pure a) (pure a) :=
  fun _ _ => rfl

lemma throw {e : PlanError} : SameResult (throw e : Planning α) (throw e) :=
  fun _ _ => rfl

lemma reportAll {messages messages' : Log} :
    SameResult (reportAll messages) (ClientGen.reportAll messages') :=
  fun _ _ => rfl

lemma liftM_bind {r : Except PlanError α} (h : ∀ a, r = .ok a → SameResult (f a) (g a)) :
    SameResult (liftM r >>= f) (liftM r >>= g) := by
  cases r with
  | ok a => exact fun log log' => h a rfl log log'
  | error e => exact fun _ _ => rfl

lemma liftM {r : Except PlanError α} : SameResult (liftM r) (liftM r) := by
  cases r <;> exact fun _ _ => rfl

lemma bind (hx : SameResult x y) (hf : ∀ a, SameResult (f a) (g a)) :
    SameResult (x >>= f) (y >>= g) := by
  intro log log'
  have same := hx log log'
  rw [outcome_bind, outcome_bind]
  revert same
  rcases outcome x log with ⟨e | a, l⟩ <;> rcases outcome y log' with ⟨e' | a', l'⟩ <;> intro same
  · obtain rfl := Except.error.inj same
    rfl
  · cases same
  · cases same
  · obtain rfl := Except.ok.inj same
    exact hf a l l'

lemma ite {p : Prop} [Decidable p] {x' y' : Planning α} (yes : p → SameResult x y)
    (no : ¬p → SameResult x' y') : SameResult (if p then x else x') (if p then y else y') := by
  by_cases h : p
  · rw [if_pos h, if_pos h]
    exact yes h
  · rw [if_neg h, if_neg h]
    exact no h

/-- An emission does not see what has been reported before. -/
lemma emitting {w : Workspace} {x : Emit α} : SameResult (emitting w x) (ClientGen.emitting w x) := by
  refine .bind .reportAll fun _ => ?_
  split
  · exact .pure
  · exact .throw

end SameResult

end Planning

/-! ### Directories -/

section Directories

variable {c : Setting} {t : Target} {settings : PlanSettings} {names : List String}

lemma emitSchemas_eq (overlap : Overlap c.description d' S) (into : ∀ s ∈ names, S s) :
    emitSchemas c names = emitSchemas (c.about d') names := by
  have each : (dependencyOrder c.description names).mapM (emitSchema c) =
      (dependencyOrder c.description names).mapM (emitSchema (c.about d')) :=
    Same.mapM_congr fun s hs => by
      have hs := into s (mem_dependencyOrder.1 hs)
      rw [emitSchema, emitSchema, emitType_eq overlap hs, emitValidator_eq overlap hs]
  unfold emitSchemas
  rw [each, overlap.dependencyOrder into, overlap.orderMessages into]

lemma emitOperations_eq (overlap : Overlap c.description d' S) :
    ∀ (ops : List Operation) (asked : List (String × Nat)), (∀ op ∈ ops, OperationInto S op) →
      emitOperations c t asked ops = emitOperations (c.about d') t asked ops
  | [], _, _ => rfl
  | op :: rest, asked, into => by
    have hop := into op List.mem_cons_self
    have hrest (asked : List (String × Nat)) :=
      emitOperations_eq overlap rest asked fun op' h => into op' (List.mem_cons_of_mem op h)
    rw [emitOperations, emitOperations]
    dsimp only
    rw [emitOperation_eq overlap hop, hrest]

lemma planShared_same (overlap : Overlap c.description d' S) {layout : Layout}
    (into : ∀ s ∈ names, S s) :
    SameResult (planShared c layout names) (planShared (c.about d') layout names) := by
  unfold planShared
  rw [emitSchemas_eq overlap into]
  exact .ite (fun _ => .pure) fun _ => .bind .reportAll fun _ => .bind .emitting fun _ =>
    .bind .liftM fun _ => .pure

lemma hookLibrary_same {name : Option String} :
    SameResult (hookLibrary name) (hookLibrary name) := by
  unfold hookLibrary
  split
  · exact .pure
  · split
    · exact .pure
    · exact .throw

lemma planModule_same (overlap : Overlap c.description d' S) {registry : Registry}
    (operations : c.description.operationsOf module = d'.operationsOf module)
    (into : ∀ s ∈ names, S s)
    (intoAll : ∀ op ∈ c.description.operationsOf module, OperationInto S op) :
    SameResult (planModule c settings registry module names)
      (planModule (c.about d') settings registry module names) := by
  unfold planModule
  rw [emitSchemas_eq overlap into, ← operations]
  refine .bind .emitting fun _ => .bind hookLibrary_same fun _ => ?_
  dsimp only
  rw [emitOperations_eq overlap _ _ intoAll]
  exact .bind .emitting fun _ => .bind .liftM fun _ => .bind .reportAll fun _ => .pure

lemma planModules_same (overlap : Overlap c.description d' S) {map map' : ModuleMap} :
    ∀ (modules : List String) (registry : Registry),
      (∀ m ∈ modules, map.lookup m = map'.lookup m ∧
        c.description.operationsOf m = d'.operationsOf m ∧
        (∀ s ∈ (map.lookup m).getD [], S s) ∧
        ∀ op ∈ c.description.operationsOf m, OperationInto S op) →
      SameResult (planModules c settings map registry modules)
        (planModules (c.about d') settings map' registry modules)
  | [], _, _ => .pure
  | m :: rest, registry, same => by
    obtain ⟨lookup, operations, into, intoAll⟩ := same m List.mem_cons_self
    rw [planModules, planModules, ← lookup]
    exact .bind (planModule_same overlap operations into intoAll) fun part =>
      .bind (planModules_same overlap rest part.workspace.registry fun m' h =>
        same m' (List.mem_cons_of_mem m h)) fun _ => .pure

end Directories

/-! ### Modules -/

/-- References lead from an operation of the module to the schema `s`, be it known or missing. -/
def Partition.Reaches (d : Description) (module s : String) : Prop :=
  ∃ op ∈ d.operationsOf module, ∃ root ∈ op.referencedSchemas, ReflTransGen (Leads d) root s

/-- The operations of the module are the same in both descriptions, and so are the schemas that these
lead to, the missing ones included. -/
structure SameModule (d d' : Description) (module : String) : Prop where
  operations : d.operationsOf module = d'.operationsOf module
  schemas : ∀ s, Reaches d module s → d.schema? s = d'.schema? s

/-- The descriptions overlap in what the modules reach. -/
lemma overlap_of_sameModules (source : d.source = d'.source)
    (same : ∀ m ∈ modules, SameModule d d' m) :
    Overlap d d' fun s => ∃ m ∈ modules, Reaches d m s := by
  refine ⟨source, ?_, ?_⟩
  · rintro s ⟨m, hm, reached⟩
    exact (same m hm).schemas s reached
  · rintro s t ⟨m, hm, op, hop, root, hr, chain⟩ leads
    exact ⟨m, hm, op, hop, root, hr, chain.tail leads⟩

lemma operationInto_reaches {op : Operation} (hop : op ∈ d.operationsOf module)
    (hm : module ∈ modules) : OperationInto (fun s => ∃ m ∈ modules, Reaches d m s) op := by
  intro node hn pointer hp s hs
  exact ⟨module, hm, op, hop, s, mem_referencedSchemas_iff.2
    ⟨node, hn, pointer, mem_pointers_iff.1 hp, hs⟩, .refl⟩

lemma mem_modules_of_operationsOf (h : d.operationsOf module ≠ []) :
    module ∈ (moduleMap d).map Prod.fst := by
  obtain ⟨op, hop⟩ := List.exists_mem_of_ne_nil _ h
  obtain ⟨hop, owned⟩ := List.mem_filter.1 hop
  have used : module ∈ distinct (d.operations.flatMap Operation.modules) :=
    mem_distinct.2 (List.mem_flatMap.2 ⟨op, hop, by simpa using owned⟩)
  apply mem_keys_iff.2
  unfold Description.modules
  by_cases declared : module ∈ d.declaredTags
  · exact List.mem_append_left _ (List.mem_filter.2 ⟨declared, by simpa using used⟩)
  · refine List.mem_append_right _ (List.mem_filter.2 ⟨used, ?_⟩)
    simp [declared]

/-- If all selected modules are there and not ignored, these are the selected modules. -/
lemma selectModules_eq {available selected ignored : List String} {log : Log}
    (chosen : selected ≠ []) (valid : ∀ m ∈ selected, m ∈ available ∧ m ∉ ignored) :
    outcome (selectModules available selected ignored) log = (.ok (distinct selected), log) := by
  have remain (m : String) (hm : m ∈ selected) :
      m ∈ available.filter fun m => !ignored.contains m := by
    obtain ⟨there, kept⟩ := valid m hm
    exact List.mem_filter.2 ⟨there, by simpa using kept⟩
  obtain ⟨m, hm⟩ := List.exists_mem_of_ne_nil _ chosen
  have all : (distinct selected).filter
      (available.filter fun m => !ignored.contains m).contains = distinct selected :=
    List.filter_eq_self.2 fun m hm => by simpa using remain m (mem_distinct.1 hm)
  have none : (selected.filter fun m =>
      !(available.filter fun m => !ignored.contains m).contains m) = [] :=
    List.filter_eq_nil_iff.2 fun m hm => by simpa using remain m hm
  have remaining : (available.filter fun m => !ignored.contains m).isEmpty = false :=
    List.isEmpty_eq_false_iff.2 (List.ne_nil_of_mem (remain m hm))
  have given : selected.isEmpty = false := List.isEmpty_eq_false_iff.2 chosen
  have given' : (distinct selected).isEmpty = false :=
    List.isEmpty_eq_false_iff.2 (List.ne_nil_of_mem (mem_distinct.2 hm))
  unfold selectModules
  simp only [remaining, given, none, all, given']
  rfl

section Split

/-- The selected modules are in both module maps, and need the same schemas. -/
structure SameNeeds (d d' : Description) (modules : List String) : Prop where
  left : ∀ m ∈ modules, m ∈ (moduleMap d).map Prod.fst
  right : ∀ m ∈ modules, m ∈ (moduleMap d').map Prod.fst
  needs : ∀ m ∈ modules, closure d (roots d m) = closure d' (roots d' m)

namespace SameNeeds

variable (h : SameNeeds d d' modules)
include h

lemma length_members : (members (moduleMap d) modules).length =
    (members (moduleMap d') modules).length := by
  have perm : (members (moduleMap d) modules).Perm (members (moduleMap d') modules) := by
    refine (List.perm_ext_iff_of_nodup (nodup_moduleMap.filter _) (nodup_moduleMap.filter _)).2 ?_
    intro m
    simp only [List.mem_filter, List.contains_eq_mem, decide_eq_true_eq]
    exact and_congr_left fun hm => iff_of_true (h.left m hm) (h.right m hm)
  exact perm.length_eq

lemma needs_iff {m : String} (hm : m ∈ modules) : Needs d m s ↔ Needs d' m s := by
  rw [← mem_closure_roots, ← mem_closure_roots, h.needs m hm]

/-- The same schemas are shared. -/
lemma shared_eq : shared (moduleMap d) modules = shared (moduleMap d') modules := by
  refine eq_of_sorted nodup_shared nodup_shared (sorted_sortTexts _) (sorted_sortTexts _) fun s => ?_
  rw [mem_shared_iff, mem_shared_iff]
  constructor
  · rintro ⟨m, -, m', -, ne, hm, hm', needs, needs'⟩
    exact ⟨m, h.right m hm, m', h.right m' hm', ne, hm, hm', (h.needs_iff hm).1 needs,
      (h.needs_iff hm').1 needs'⟩
  · rintro ⟨m, -, m', -, ne, hm, hm', needs, needs'⟩
    exact ⟨m, h.left m hm, m', h.left m' hm', ne, hm, hm', (h.needs_iff hm).2 needs,
      (h.needs_iff hm').2 needs'⟩

lemma lookup_eq {m : String} (hm : m ∈ modules) :
    (moduleMap d).lookup m = (moduleMap d').lookup m := by
  rw [lookup_moduleMap (h.left m hm), lookup_moduleMap (h.right m hm), h.needs m hm]

/-- The schemas of the selected modules are split up in the same way. -/
lemma split_eq : (split (moduleMap d) modules).2 = (split (moduleMap d') modules).2 ∧
    ∀ m ∈ modules, (split (moduleMap d) modules).1.lookup m =
      (split (moduleMap d') modules).1.lookup m := by
  unfold split
  rw [h.length_members]
  split
  · exact ⟨rfl, fun m => h.lookup_eq⟩
  · refine ⟨h.shared_eq, fun m hm => ?_⟩
    dsimp only
    rw [h.shared_eq, lookup_without, lookup_without, h.lookup_eq hm]

end SameNeeds

end Split

/-- A plan for selected modules depends on the source of the description, on the operations of these
modules and on the schemas that the operations lead to, and on nothing else. -/
theorem planOf_selective {settings : PlanSettings} (templates : TemplateId → ClientGen.Template)
    (chosen : settings.selected ≠ []) (source : d.source = d'.source)
    (owned : ∀ m ∈ settings.selected, d.operationsOf m ≠ [] ∧ m ∉ settings.ignored)
    (same : ∀ m ∈ settings.selected, SameModule d d' m) (log log' : Log) :
    (outcome (Plan.of d settings templates) log).1 =
      (outcome (Plan.of d' settings templates) log').1 := by
  have mem (m : String) : m ∈ distinct settings.selected ↔ m ∈ settings.selected := mem_distinct
  have owned' (m : String) (hm : m ∈ settings.selected) : d'.operationsOf m ≠ [] :=
    (same m hm).operations ▸ (owned m hm).1
  have overlap := overlap_of_sameModules source same
  have needs : SameNeeds d d' (distinct settings.selected) := by
    refine ⟨fun m hm => mem_modules_of_operationsOf (owned m ((mem m).1 hm)).1,
      fun m hm => mem_modules_of_operationsOf (owned' m ((mem m).1 hm)), fun m hm => ?_⟩
    have hm := (mem m).1 hm
    rw [roots, roots, ← (same m hm).operations]
    refine overlap.closure fun s hs => ?_
    obtain ⟨op, hop, hs⟩ := List.mem_flatMap.1 (mem_distinct.1 hs)
    exact ⟨m, hm, op, hop, s, hs, .refl⟩
  obtain ⟨common, lookup⟩ := needs.split_eq
  have selection (map : ModuleMap) (there : ∀ m ∈ distinct settings.selected, m ∈ map.map Prod.fst) :
      (selectModules (map.map Prod.fst) settings.selected settings.ignored).run.run [] =
        (.ok (distinct settings.selected), []) :=
    selectModules_eq chosen fun m hm => ⟨there m ((mem m).2 hm), (owned m hm).2⟩
  have into (m : String) (s : String) (hm : m ∈ settings.selected) (hs : Needs d m s) :
      ∃ m ∈ settings.selected, Reaches d m s :=
    ⟨m, hm, hs.2⟩
  have result : SameResult (Plan.of d settings templates) (Plan.of d' settings templates) := by
    unfold Plan.of
    refine .bind .reportAll fun _ => ?_
    dsimp only
    rw [selection _ needs.left, selection _ needs.right]
    refine .bind .reportAll fun _ => .liftM_bind fun modules valid => ?_
    obtain rfl : distinct settings.selected = modules := Except.ok.inj valid
    rw [← common]
    refine .bind (planShared_same (c := { description := d, templates }) overlap fun s hs => ?_)
      fun part => .bind (planModules_same (c := d.setting templates _ _) overlap _ _ fun m hm => ?_)
        fun parts => .bind .liftM fun _ => .pure
    · obtain ⟨m, -, -, -, -, hm, -, hs, -⟩ := mem_common_iff.1 hs
      exact into m s ((mem m).1 hm) hs
    · have selected := (mem m).1 hm
      refine ⟨lookup m hm, (same m selected).operations, fun s hs => ?_, fun op hop =>
        operationInto_reaches hop selected⟩
      exact into m s selected ((mem_own_iff (needs.left m hm) hm).1 hs).1
  exact result log log'

/-- The pets and owners of the pet store, with a module of kinds in place of the visits. -/
def kennel : Description where
  schemas := ("Kind", .enumeration ["cat", "dog"] {}) :: petStore.schemas.take 2
  operations := petStore.operations.take 1 ++ [
    { method := .get, path := "/kinds", tags := ["kinds"],
      responses := [("200", some (.reference "#/components/schemas/Kind" {}))] }]

/-- The plan for the pets is the same with and without the visits and the kinds. -/
theorem planOf_kennel : petStore.source = kennel.source ∧ SameModule petStore kennel "pets" ∧
    ∃ plan log log', outcome (Plan.of petStore { selected := ["pets"] }) [] = (.ok plan, log) ∧
      outcome (Plan.of kennel { selected := ["pets"] }) [] = (.ok plan, log') ∧
      plan.modules = ["pets"] := by
  have roots : ∀ op ∈ petStore.operationsOf "pets", ∀ s ∈ op.referencedSchemas,
      s ∈ ["Pet", "Owner"] := by decide +kernel
  have closed : ∀ s ∈ ["Pet", "Owner"], ∀ t ∈ petStore.targets s, t ∈ ["Pet", "Owner"] := by
    decide +kernel
  have schemas : ∀ s ∈ ["Pet", "Owner"], petStore.schema? s = kennel.schema? s := by
    simp only [List.forall_mem_cons]
    exact ⟨rfl, rfl, by simp⟩
  have same : SameModule petStore kennel "pets" := by
    refine ⟨rfl, ?_⟩
    rintro s ⟨op, hop, root, hr, chain⟩
    refine schemas s ?_
    induction chain with
    | refl => exact roots op hop root hr
    | tail _ leads ih => exact closed _ ih _ leads
  let settings : PlanSettings := { selected := ["pets"] }
  have owned : ∀ m ∈ settings.selected, petStore.operationsOf m ≠ [] ∧ m ∉ settings.ignored := by
    decide +kernel
  have chosen : settings.selected ≠ [] := by decide
  have source : petStore.source = kennel.source := rfl
  have same' : ∀ m ∈ settings.selected, SameModule petStore kennel m := by
    simpa [settings] using same
  have equal : (outcome (Plan.of petStore settings) []).1 =
      (outcome (Plan.of kennel settings) []).1 :=
    planOf_selective builtin chosen source owned same' [] []
  have writable : petStore.Writable := by decide +kernel
  have selected : (outcome (selectModules ((moduleMap petStore).map Prod.fst) settings.selected
      settings.ignored) []).1 = .ok ["pets"] := by decide +kernel
  obtain ⟨plan, log, run, -, modules⟩ := exists_planOf writable (by simp [settings]) selected
  rw [run] at equal
  have run' : outcome (Plan.of kennel settings) [] =
      (.ok plan, (outcome (Plan.of kennel settings) []).2) :=
    Prod.ext equal.symm rfl
  exact ⟨source, same, plan, log, _, run, run', modules⟩

end ClientGen
