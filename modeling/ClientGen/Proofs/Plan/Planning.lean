import ClientGen.Proofs.Partition
import ClientGen.Proofs.Plan.Files
import ClientGen.Proofs.Plan.Operations

/-!
# Planning

What a plan holds when planning ends with one, and why planning ends otherwise. Directories are
planned one after another; each takes the names of enumerations from those before it.
-/

/-! ## The grounds of a plan

Which schemas each directory of a plan declares, and which errors a description gives reason for.
What the schemas of a directory lead to stays there, unless it is shared.
-/

namespace ClientGen

open Api Emission Graph Partition Schema Template

/-- The nodes of the description: those of its schemas, and those inside its operations. -/
def Api.Description.nodes (d : Description) : List SchemaNode :=
  d.schemas.map Prod.snd ++ d.operations.flatMap (·.schemas)

/-- The setting of a directory. -/
abbrev Api.Description.setting (d : Description) (templates : TemplateId → ClientGen.Template)
    (common declarations : List String) : Setting :=
  { description := d, templates, commonSchemas := common, commonDeclarations := declarations }

/-- No integer of the description has too many digits to be written. -/
def Api.Description.Writable (d : Description) : Prop :=
  ∀ n ∈ d.nodes, n.hasLongInteger = false

/-- Every reference of the description leads to a known schema. -/
def Api.Description.Resolves (d : Description) : Prop :=
  ∀ n ∈ d.nodes, ∀ pointer ∈ n.pointers, ∃ target, d.resolve pointer = .ok target

/-- Inline schemas are nested less deep than emission looks. -/
def Api.Description.Shallow (d : Description) : Prop :=
  ∀ n ∈ d.nodes, n.nesting < 100

instance (d : Description) : Decidable d.Writable :=
  inferInstanceAs (Decidable (∀ n ∈ d.nodes, n.hasLongInteger = false))

instance (d : Description) : Decidable d.Resolves :=
  inferInstanceAs (Decidable (∀ n ∈ d.nodes, ∀ pointer ∈ n.pointers, ∃ target,
    d.resolve pointer = .ok target))

instance (d : Description) : Decidable d.Shallow :=
  inferInstanceAs (Decidable (∀ n ∈ d.nodes, n.nesting < 100))

variable {d : Description} {templates : TemplateId → ClientGen.Template}
  {common declarations modules : List String} {module : String}

/-- The description or the templates give reason for the error. -/
def Faulty (d : Description) (templates : TemplateId → ClientGen.Template) : EmitError → Prop
  | .schema _ => ¬ d.Resolves
  | .digits _ => ¬ d.Writable
  | .render _ => templates ≠ builtin
  | .noKey _ => False

lemma mem_nodes_of_schema? {s : String} {n : SchemaNode} (h : d.schema? s = some n) :
    n ∈ d.nodes :=
  List.mem_append_left _ (List.mem_map_of_mem (mem_of_lookup h))

lemma mem_nodes_of_mem_schemas {op : Operation} {n : SchemaNode} (hop : op ∈ d.operations)
    (hn : n ∈ op.schemas) : n ∈ d.nodes :=
  List.mem_append_right _ (List.mem_flatMap.2 ⟨op, hop, hn⟩)

/-- The ground of a directory of which `within` are the schemas. -/
def Api.Description.ground (d : Description) (templates : TemplateId → ClientGen.Template)
    (common declarations : List String) (within : String → Prop)
    (closed : ∀ s t, within s → Leads d s t → t ∈ d.schemaNames → t ∉ common → within t) :
    Ground (d.setting templates common declarations) where
  within := within
  leads := Leads d
  lowers s n := within s ∧ d.schema? s = some n
  foreign _ := True
  permits := Faulty d templates
  broken h hp he resolves := by
    obtain ⟨target, ht⟩ := resolves _ (mem_nodes_of_schema? h.2) _ hp
    rw [ht] at he
    cases he
  closed h hp hr := by
    have hl := leads_of_resolve h.2 hp hr
    have known := resolve_eq_ok hr
    exact ⟨hl, fun hc => ⟨closed _ _ h.1 hl (mem_schemaNames known) hc,
      closed _ _ h.1 hl (mem_schemaNames known) hc, known⟩⟩
  unknown h he := absurd he (schema_ne_error h.2)
  long h hl _ writable := by
    rw [writable _ (mem_nodes_of_schema? h.2)] at hl
    cases hl
  typeUnwritten decl e h ht := by
    obtain ⟨d', hd⟩ := exists_writeTypeDeclaration decl
    rw [ht, hd] at h
    cases h
  validatorUnwritten decl e h ht := by
    obtain ⟨d', hd⟩ := exists_writeValidatorDeclaration decl
    rw [ht, hd] at h
    cases h

/-! ### Modules -/

/-- A schema that the module needs and does not share. -/
def Own (d : Description) (common : List String) (module s : String) : Prop :=
  Needs d module s ∧ s ∉ common

/-- The ground of a module. -/
def Api.Description.moduleGround (d : Description) (templates : TemplateId → ClientGen.Template)
    (common declarations : List String) (module : String) :
    Ground (d.setting templates common declarations) :=
  d.ground templates common declarations (Own d common module) fun _ _ hs hl known hc =>
    ⟨hs.1.leads hl known, hc⟩

/-- What the operations of a module reference is its own or shared. -/
lemma admitsAll_moduleGround {op : Operation} (hop : op ∈ d.operationsOf module) :
    (d.moduleGround templates common declarations module).AdmitsAll op := by
  intro n hn
  have node : n ∈ d.nodes := mem_nodes_of_mem_schemas (List.mem_of_mem_filter hop) hn
  refine ⟨fun pointer hp e he resolves => ?_, fun pointer hp s m hs hc => ⟨⟨?_, op, hop,
    s, ?_, .refl⟩, hc⟩, fun hl _ writable => ?_⟩
  · obtain ⟨target, ht⟩ := resolves n node pointer hp
    rw [ht] at he
    cases he
  · exact mem_schemaNames (resolve_eq_ok hs)
  · exact mem_distinct.2 (List.mem_filterMap.2 ⟨pointer, List.mem_flatMap.2 ⟨n, hn, hp⟩,
      targetName?_of_resolve hs⟩)
  · rw [writable n node] at hl
    cases hl

/-! ### Shared schemas -/

/-- Two of the modules need the schema. -/
def SharedBy (d : Description) (modules : List String) (s : String) : Prop :=
  ∃ m ∈ modules, ∃ m' ∈ modules, m ≠ m' ∧ Needs d m s ∧ Needs d m' s

/-- The ground of the shared schemas. -/
def Api.Description.sharedGround (d : Description) (templates : TemplateId → ClientGen.Template)
    (modules : List String) : Ground (d.setting templates [] []) :=
  d.ground templates [] [] (SharedBy d modules)
    fun _ _ ⟨m, hm, m', hm', hne, hs, hs'⟩ hl known _ =>
      ⟨m, hm, m', hm', hne, hs.leads hl known, hs'.leads hl known⟩

lemma covering_sharedGround (shallow : d.Shallow) :
    Covering (d.setting templates [] []) (d.sharedGround templates modules) where
  schemas := rfl
  declarations := rfl
  shallow s n h := by
    have := shallow n (mem_nodes_of_schema? h.2)
    dsimp only
    omega

end ClientGen

/-! ## What a plan holds -/

namespace ClientGen

open Api Emission Enumeration Graph Output Partition Schema Template

variable {d : Description} {templates : TemplateId → ClientGen.Template} {settings : PlanSettings}
  {common declarations modules : List String} {module : String} {log : Log} {α : Type}

/-! ### Computations -/

lemma emitting_meets {w : Workspace} {x : Emit α} {Q : α × Workspace → Log → Prop}
    {E : PlanError → Log → Prop} : Meets (emitting w x) log Q E ↔
      Meets x { w with log := [] } (fun a w' => Q (a, w') (log ++ w'.log))
        fun e w' => E (.emit e) (log ++ w'.log) := by
  unfold emitting
  have run : x.run.run { w with log := [] } = outcome x { w with log := [] } := rfl
  simp only [run, Meets]
  rcases outcome x { w with log := [] } with ⟨_ | _, _⟩ <;> rfl

lemma planned_meets {r : Except RenderError α} {Q : α → Log → Prop} {E : PlanError → Log → Prop}
    (ok : ∀ a, r = .ok a → Q a log) (error : ∀ e, r = .error e → E (.emit (.render e)) log) :
    Meets (planned r) log Q E := by
  refine meets_liftM.2 ⟨fun a h => ok a (Contract.mapError_eq_ok h), fun e h => ?_⟩
  obtain ⟨e', he, rfl⟩ := Contract.mapError_eq_error h
  exact error e' he

/-- Why planning may end without a plan: no module is selected, the library for hooks is not
supported, an integer cannot be written, or a template of the user's cannot be rendered. -/
def NoPlan (d : Description) (templates : TemplateId → ClientGen.Template)
    (settings : PlanSettings) : PlanError → Prop
  | .selection e =>
    (outcome (selectModules ((moduleMap d).map Prod.fst) settings.selected settings.ignored) []).1 =
      .error e
  | .unsupportedHooks name => settings.hooks = some name ∧ HookLibrary.ofName? name = none
  | .emit e => Faulty d templates e ∧ ∀ s, e ≠ .schema s

lemma noPlan_render {e : RenderError} (h : templates ≠ builtin) :
    NoPlan d templates settings (.emit (.render e)) :=
  ⟨h, by rintro _ ⟨⟩⟩

lemma hookLibrary_meets : Meets (hookLibrary settings.hooks) log (fun _ _ => True)
    fun e _ => NoPlan d templates settings e := by
  unfold hookLibrary
  split
  · exact meets_pure.2 trivial
  · next name hn =>
    split
    · exact meets_pure.2 trivial
    · next hl => exact meets_throw.2 ⟨hn, hl⟩

/-! ### Modules -/

/-- What holds of the plan of a module. -/
structure PartSound (d : Description) (templates : TemplateId → ClientGen.Template)
    (common declarations : List String) (module : String) (part : ModulePart) : Prop where
  target : part.target.module = module
  files : FilesSound _ (d.moduleGround templates common declarations module) part.workspace
  settled : ∀ s, Own d common module s → BothProcessed s part.workspace
  operations : ∀ o ∈ part.operations,
    o.Sound (d.setting templates common declarations) part.target part.workspace
  rendered : moduleFiles (d.setting templates common declarations) part.target part.workspace
    part.operations = .ok part.files
  failures : part.failures ≠ [] → ∃ e, Faulty d templates (.schema e)

lemma exists_schema_of_mem {s : String} (h : s ∈ d.schemaNames) : ∃ n, d.schema? s = some n := by
  cases hs : d.schema? s with
  | some n => exact ⟨n, rfl⟩
  | none =>
    obtain ⟨e, he, rfl⟩ := List.mem_map.1 h
    have := List.lookup_eq_none_iff.1 hs e he
    simp at this

/-- The operations of a module are emitted after its schemas and keep both files sound. -/
lemma emitOperations_planned (settings : PlanSettings) {w : Workspace} {target : Target}
    (files : FilesSound _ (d.moduleGround templates common declarations module) w)
    (settled : ∀ s, Own d common module s → BothProcessed s w) :
    Meets (emitting w (emitOperations (d.setting templates common declarations) target []
        (d.operationsOf module))) log
      (fun r _ => FilesSound _ (d.moduleGround templates common declarations module) r.2 ∧
        (∀ s, Own d common module s → BothProcessed s r.2) ∧ FilesGrow w r.2 ∧
        (∀ o ∈ r.1.1, o.Sound (d.setting templates common declarations) target r.2) ∧ r.1.2 = [])
      fun e _ => NoPlan d templates settings e := by
  have unwritten (p : OperationParts) (e : RenderError)
      (h : p.write (d.setting templates common declarations) target = .error e) :
      Faulty d templates (.render e) := by
    intro ht
    obtain ⟨o, ho⟩ := exists_write (c := d.setting templates common declarations) (t := target)
      (p := p) ht
    rw [ho] at h
    cases h
  have emitted := emitOperations_keeps (G := d.moduleGround templates common declarations module)
    (t := target) (fun _ => trivial) unwritten (d.operationsOf module) [] { w with log := [] }
    (fun _ => admitsAll_moduleGround) ⟨⟨files.types, files.validators⟩, settled⟩
  refine emitting_meets.2 (emitted.imp ?_ fun e w' he => he.1)
  rintro ⟨ops, failures⟩ w' ⟨⟨hw', hs⟩, hg, ho, hf⟩
  exact ⟨hw', hs, ⟨hg.registry, hg.types, hg.validators⟩, ho, hf⟩

lemma planModule_meets {registry : Registry} {names : List String}
    (own : ∀ s, s ∈ names ↔ Own d common module s) :
    Meets (planModule (d.setting templates common declarations) settings registry module names) log
      (fun part _ => PartSound d templates common declarations module part ∧
        registry ≤ part.workspace.registry)
      fun e _ => NoPlan d templates settings e := by
  have start : ((d.moduleGround templates common declarations module).files False).holds
      { registry, log := [] } :=
    ⟨⟨.empty, .empty⟩, False.elim⟩
  have known (s : String) (hs : s ∈ names) : Own d common module s ∧
      ∃ n, Own d common module s ∧ d.schema? s = some n := by
    have hs := (own s).1 hs
    obtain ⟨n, hn⟩ := exists_schema_of_mem hs.1.1
    exact ⟨hs, n, hs, hn⟩
  have schemas := emitSchemas_keeps False (G := d.moduleGround templates common declarations module)
    (fun h => h.2) False.elim known start
  unfold planModule
  refine meets_bind.2 (emitting_meets.2 (schemas.imp ?_ fun e w he => he.1))
  rintro failures w ⟨⟨hw, -⟩, hg, processed, failed⟩
  refine meets_bind.2 (hookLibrary_meets.imp ?_ fun e _ he => he)
  rintro hooks log' -
  refine meets_bind.2 ((emitOperations_planned settings hw
    fun s hs => processed s ((own s).2 hs)).imp ?_ fun e _ he => he)
  rintro ⟨⟨ops, failures'⟩, w'⟩ log'' ⟨hw', settled, hr, ho, rfl⟩
  refine meets_bind.2 (planned_meets (fun files hf => ?_) fun e he => ?_)
  · refine meets_bind.2 (meets_modify.2 (meets_pure.2 ⟨⟨rfl, hw', settled, ho, hf, ?_⟩,
      hg.registry.trans hr.registry⟩))
    exact fun h => failed (by simpa using h)
  · refine noPlan_render fun ht => ?_
    obtain ⟨files, hf⟩ := exists_moduleFiles (c := d.setting templates common declarations) ht
    rw [hf] at he
    cases he

/-- Modules are planned one after another, none of them with fewer names than the one before. -/
lemma planModules_meets {map : ModuleMap} :
    ∀ (modules : List String) (registry : Registry) (log : Log),
      (∀ m ∈ modules, ∀ s, s ∈ (map.lookup m).getD [] ↔ Own d common m s) →
      Meets (planModules (d.setting templates common declarations) settings map registry modules)
        log
        (fun parts _ => List.Forall₂ (fun m part => PartSound d templates common declarations m part ∧
          registry ≤ part.workspace.registry) modules parts)
        fun e _ => NoPlan d templates settings e
  | [], _, _, _ => meets_pure.2 .nil
  | module :: rest, registry, log, own => by
    rw [planModules]
    refine meets_bind.2 ((planModule_meets (own module (by simp))).imp ?_ fun _ _ he => he)
    rintro part log' ⟨hp, hr⟩
    refine meets_bind.2 ((planModules_meets rest part.workspace.registry log'
      fun m hm => own m (by simp [hm])).imp ?_ fun _ _ he => he)
    intro parts log'' hparts
    exact meets_pure.2 (.cons ⟨hp, hr⟩ (hparts.imp fun _ _ h => ⟨h.1, hr.trans h.2⟩))

/-! ### Shared schemas -/

/-- What holds of the plan of the shared schemas. -/
structure SharedSound (d : Description) (templates : TemplateId → ClientGen.Template)
    (layout : Layout) (modules : List String) (part : SharedPart) : Prop where
  files : FilesSound _ (d.sharedGround templates modules) part.workspace
  settled : ∀ s, SharedBy d modules s → BothProcessed s part.workspace
  covered : d.Shallow → Covered (d.sharedGround templates modules) part.workspace
  rendered : part.files = none ∧ part.workspace = {} ∨ ∃ files, part.files = some files ∧
    schemaFiles (d.setting templates [] []) layout layout.commonDirectory part.workspace = .ok files
  failures : part.failures ≠ [] → ∃ e, Faulty d templates (.schema e)

lemma planShared_meets (shared : ∀ s, s ∈ common ↔ SharedBy d modules s) :
    Meets (planShared (d.setting templates [] []) settings.layout common) log
      (fun part _ => SharedSound d templates settings.layout modules part)
      fun e _ => NoPlan d templates settings e := by
  unfold planShared
  split
  · next h =>
    have none (s : String) : ¬ SharedBy d modules s := by
      rw [← shared, List.isEmpty_iff.1 h]
      simp
    exact meets_pure.2 ⟨⟨.empty, .empty⟩, fun s hs => absurd hs (none s), fun _ => .empty,
      .inl ⟨rfl, rfl⟩, fun h => absurd rfl h⟩
  · have start : ((d.sharedGround templates modules).files d.Shallow).holds { log := [] } :=
      ⟨⟨.empty, .empty⟩, fun _ => .empty⟩
    have known (s : String) (hs : s ∈ common) : SharedBy d modules s ∧
        ∃ n, SharedBy d modules s ∧ d.schema? s = some n := by
      have by_two := (shared s).1 hs
      have known : s ∈ d.schemaNames := by
        obtain ⟨m, -, m', -, -, needs, -⟩ := by_two
        exact needs.1
      obtain ⟨n, hn⟩ := exists_schema_of_mem known
      exact ⟨by_two, n, by_two, hn⟩
    have schemas := emitSchemas_keeps d.Shallow (G := d.sharedGround templates modules) (fun h => h.2)
      covering_sharedGround known start
    refine meets_bind.2 (meets_modify.2 (meets_bind.2 (emitting_meets.2
      (schemas.imp ?_ fun e w he => he.1))))
    rintro failures w ⟨⟨hw, hc⟩, -, processed, failed⟩
    refine meets_bind.2 (planned_meets (fun files hf => ?_) fun e he => ?_)
    · exact meets_pure.2 ⟨hw, fun s hs => processed s ((shared s).2 hs), hc,
        .inr ⟨files, rfl, hf⟩, failed⟩
    · refine noPlan_render fun ht => ?_
      have made : ∃ files, schemaFiles (d.setting templates [] []) settings.layout
        settings.layout.commonDirectory w = .ok files := exists_schemaFiles ht
      obtain ⟨files, hf⟩ := made
      rw [hf] at he
      cases he

/-! ### Plans -/

/-- What holds of a plan. -/
structure PlanSound (d : Description) (templates : TemplateId → ClientGen.Template)
    (settings : PlanSettings) (plan : Plan) : Prop where
  selected : (outcome (selectModules ((moduleMap d).map Prod.fst) settings.selected
    settings.ignored) []).1 = .ok plan.modules
  nodup : plan.modules.Nodup
  available : plan.modules ⊆ (moduleMap d).map Prod.fst
  common_eq : plan.common = (split (moduleMap d) plan.modules).2
  common : ∀ s, s ∈ plan.common ↔ SharedBy d plan.modules s
  shared : SharedSound d templates settings.layout plan.modules plan.shared
  parts : List.Forall₂ (fun m part =>
    PartSound d templates plan.common plan.shared.declarations m part ∧
      plan.shared.workspace.registry ≤ part.workspace.registry) plan.modules plan.parts
  files : plan.shared.files.toList.flatMap (·.all) ++ plan.parts.flatMap (·.files.all) <+: plan.files
  failures : plan.failures = plan.shared.failures ++ plan.parts.flatMap (·.failures)

/-- The schemas that a split takes out are those that two of the modules need. -/
lemma mem_split_iff {s : String} (available : modules ⊆ (moduleMap d).map Prod.fst) :
    s ∈ (split (moduleMap d) modules).2 ↔ SharedBy d modules s := by
  rw [mem_common_iff]
  constructor
  · rintro ⟨m, -, m', -, hne, hm, hm', hs, hs'⟩
    exact ⟨m, hm, m', hm', hne, hs, hs'⟩
  · rintro ⟨m, hm, m', hm', hne, hs, hs'⟩
    exact ⟨m, available hm, m', available hm', hne, hm, hm', hs, hs'⟩

/-- A plan is sound, and there is a reason for having none. -/
theorem planOf_meets :
    Meets (Plan.of d settings templates) log (fun plan _ => PlanSound d templates settings plan)
      fun e _ => NoPlan d templates settings e := by
  unfold Plan.of
  refine meets_bind.2 (meets_modify.2 ?_)
  dsimp only
  have selection : Meets (selectModules ((moduleMap d).map Prod.fst) settings.selected
    settings.ignored) [] _ _ := selectModules_meets nodup_moduleMap
  unfold Meets at selection
  have run : (selectModules ((moduleMap d).map Prod.fst) settings.selected
    settings.ignored).run.run [] = outcome (selectModules ((moduleMap d).map Prod.fst)
      settings.selected settings.ignored) [] := rfl
  rw [run]
  rcases hs : outcome (selectModules ((moduleMap d).map Prod.fst) settings.selected
    settings.ignored) [] with ⟨e | modules, messages⟩
  · refine meets_bind.2 (meets_modify.2 (meets_bind.2 (meets_throw.2 ?_)))
    exact congrArg Prod.fst hs
  · rw [hs] at selection
    obtain ⟨nodup, available⟩ := selection
    refine meets_bind.2 (meets_modify.2 (meets_bind.2 (meets_pure.2 ?_)))
    have shared (s : String) : s ∈ (split (moduleMap d) modules).2 ↔ SharedBy d modules s :=
      mem_split_iff available
    have own (m : String) (hm : m ∈ modules) (s : String) :
        s ∈ ((split (moduleMap d) modules).1.lookup m).getD [] ↔
          Own d (split (moduleMap d) modules).2 m s :=
      mem_own_iff (available hm) hm
    refine meets_bind.2 ((planShared_meets shared).imp ?_ fun _ _ he => he)
    intro part log' hpart
    refine meets_bind.2 ((planModules_meets modules part.workspace.registry log' own).imp ?_
      fun _ _ he => he)
    intro parts log'' hparts
    refine meets_bind.2 (planned_meets (fun http _ => ?_) fun e he => ?_)
    · exact meets_pure.2 ⟨congrArg Prod.fst hs, nodup, available, rfl, shared, hpart, hparts,
        List.prefix_append _ _, rfl⟩
    · refine noPlan_render fun ht => ?_
      rw [ht] at he
      obtain ⟨content, hc⟩ := exists_httpClient
      rw [hc] at he
      cases he

end ClientGen

/-!
## Where a plan declares schemas

A directory deals with the schemas that it was planned for and with no others, although a reference
that is met anywhere may ask for one.
-/

namespace ClientGen

open Api Emission Partition Template

variable {d : Description} {templates : TemplateId → ClientGen.Template} {settings : PlanSettings}
  {common declarations modules names : List String} {module : String} {log : Log}

/-- The schemas that both files have begun are these, each of them once. -/
structure BegunOnce (names : List String) (w : Workspace) : Prop where
  types_nodup : w.types.processed.Nodup
  types : ∀ s, s ∈ w.types.processed ↔ s ∈ names
  validators_nodup : w.validators.processed.Nodup
  validators : ∀ s, s ∈ w.validators.processed ↔ s ∈ names

/-- What is begun stays within the ground of the files, so that nothing else can be begun. -/
lemma FilesSound.begunOnce {c : Setting} {G : Ground c} {w : Workspace} (files : FilesSound c G w)
    (settled : ∀ s, G.within s → BothProcessed s w) (own : ∀ s, s ∈ names ↔ G.within s) :
    BegunOnce names w where
  types_nodup := files.types.nodup
  types s := ⟨fun h => (own s).2 (files.types.within s h), fun h => (settled s ((own s).1 h)).1⟩
  validators_nodup := files.validators.nodup
  validators s :=
    ⟨fun h => (own s).2 (files.validators.within s h), fun h => (settled s ((own s).1 h)).2⟩

/-- The schemas that a module keeps to itself once the shared ones are split off. -/
def ownNames (d : Description) (modules : List String) (module : String) : List String :=
  ((split (moduleMap d) modules).1.lookup module).getD []

/-- Every schema is dealt with in one place: the shared ones are those that two modules need, and a
module keeps those that no other module needs. -/
structure Plan.Places (d : Description) (plan : Plan) : Prop where
  common_eq : plan.common = (split (moduleMap d) plan.modules).2
  shared : BegunOnce plan.common plan.shared.workspace
  own : List.Forall₂ (fun m part => part.target.module = m ∧
    BegunOnce (ownNames d plan.modules m) part.workspace) plan.modules plan.parts
  mem_common : ∀ s, s ∈ plan.common ↔ SharedBy d plan.modules s
  mem_own : ∀ m ∈ plan.modules, ∀ s, s ∈ ownNames d plan.modules m ↔
    Needs d m s ∧ ∀ m' ∈ plan.modules, Needs d m' s → m' = m

lemma sharedBy_iff_of_needs {s : String} (hm : module ∈ modules) (hs : Needs d module s) :
    SharedBy d modules s ↔ ∃ m ∈ modules, Needs d m s ∧ m ≠ module := by
  constructor
  · rintro ⟨m, hm, m', hm', hne, hms, hms'⟩
    by_cases h : m = module
    · exact ⟨m', hm', hms', fun h' => hne (h.trans h'.symm)⟩
    · exact ⟨m, hm, hms, h⟩
  · rintro ⟨m, hm', hms, hne⟩
    exact ⟨m, hm', module, hm, hne, hms, hs⟩

/-- Planning deals with every schema in one place, whether references lead somewhere or not. -/
theorem planOf_places :
    Meets (Plan.of d settings templates) log
      (fun plan _ => plan.Places d ∧
        (outcome (selectModules ((moduleMap d).map Prod.fst) settings.selected
          settings.ignored) []).1 = .ok plan.modules)
      fun e _ => NoPlan d templates settings e := by
  refine planOf_meets.imp (fun plan _ sound => ⟨?_, sound.selected⟩) fun _ _ he => he
  have kept (m : String) (hm : m ∈ plan.modules) (s : String) :
      s ∈ ownNames d plan.modules m ↔ Own d plan.common m s := by
    rw [sound.common_eq]
    exact mem_own_iff (sound.available hm) hm
  refine ⟨sound.common_eq, ?_, ?_, sound.common, fun m hm s => ?_⟩
  · exact sound.shared.files.begunOnce sound.shared.settled sound.common
  · refine ((List.forall₂_and_left _ _).2 ⟨fun m hm => hm, sound.parts⟩).imp ?_
    rintro m part ⟨hm, hp, -⟩
    exact ⟨hp.target, hp.files.begunOnce hp.settled (kept m hm)⟩
  · rw [kept m hm, Own, sound.common]
    refine and_congr_right fun hs => ?_
    rw [sharedBy_iff_of_needs hm hs]
    simp only [not_exists, not_and, not_not]

end ClientGen
