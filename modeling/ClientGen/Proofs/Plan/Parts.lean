import ClientGen.Proofs.Plan.FunctionNames
import ClientGen.Proofs.Plan.Planning

/-!
# The parts of a plan

What each part of a plan is made of: the target that a module's operations are written to, one
function for each of these, the files, and entries for the schemas that failed.
-/

namespace ClientGen

open Api Emission Enumeration Output Partition Template

/-- What the operations of a module are written to. -/
def PlanSettings.target (settings : PlanSettings) (module : String) : Target where
  module := module
  layout := settings.layout
  hooks := settings.hooks.bind HookLibrary.ofName?
  baseUrl := settings.baseUrl

/-- Each of some entries is about a schema that could not be declared, in the order of the names. -/
def SchemaFailures (names failures : List String) : Prop :=
  ∃ failed : List (String × SchemaError), (failed.map Prod.fst).Sublist names ∧
    failures = failed.map fun f => f.1 ++ ": " ++ f.2.message

/-- What is planned for a module of which `names` are the schemas that it does not share. -/
structure ModulePart.Made (part : ModulePart) (c : Setting) (settings : PlanSettings)
    (module : String) (names : List String) : Prop where
  target : part.target = settings.target module
  operations : EmittedAll c part.target (fun _ => 0) (c.description.operationsOf module)
    part.operations
  rendered : moduleFiles c part.target part.workspace part.operations = .ok part.files
  failures : SchemaFailures (Graph.dependencyOrder c.description names) part.failures

variable {c : Setting} {settings : PlanSettings} {w : Workspace} {log : Log}
  {names : List String} {module : String}

/-! ### Failures -/

/-- The result of a schema that failed is an entry about it. -/
lemma emitSchema_failures {name : String} : Meets (emitSchema c name) w
    (fun r _ => ∀ entry ∈ r, ∃ e : SchemaError, entry = name ++ ": " ++ e.message)
    fun _ _ => True := by
  unfold emitSchema
  refine meets_bind.2 (Meets.trivial.imp (fun type w' _ => ?_) fun _ _ _ => trivial)
  refine meets_bind.2 (Meets.trivial.imp (fun validator w'' _ => ?_) fun _ _ _ => trivial)
  dsimp only
  split
  · exact meets_pure.2 (by simp)
  · next e _ =>
    refine meets_bind.2 (meets_modify.2 (meets_pure.2 fun entry h => ⟨e, ?_⟩))
    exact (Option.mem_some_iff.1 h).symm

lemma mapM_emitSchema_failures : ∀ (names : List String) (w : Workspace),
    Meets (names.mapM (emitSchema c)) w (fun rs _ => SchemaFailures names (rs.filterMap id))
      fun _ _ => True
  | [], w => by
    rw [List.mapM_nil]
    exact meets_pure.2 ⟨[], .refl [], rfl⟩
  | name :: rest, w => by
    rw [List.mapM_cons]
    refine meets_bind.2 (emitSchema_failures.imp ?_ fun _ _ _ => trivial)
    intro r w' hr
    refine meets_bind.2 ((mapM_emitSchema_failures rest w').imp ?_ fun _ _ _ => trivial)
    rintro rs w'' ⟨failed, sub, hrs⟩
    refine meets_pure.2 ?_
    cases r with
    | none => exact ⟨failed, sub.cons name, hrs⟩
    | some entry =>
      obtain ⟨e, rfl⟩ := hr entry rfl
      refine ⟨(name, e) :: failed, sub.cons_cons name, ?_⟩
      rw [List.map_cons, ← hrs]
      rfl

lemma emitSchemas_failures : Meets (emitSchemas c names) w
    (fun failures _ => SchemaFailures (Graph.dependencyOrder c.description names) failures)
    fun _ _ => True := by
  unfold emitSchemas
  refine meets_bind.2 (meets_modify.2 (meets_bind.2 ((mapM_emitSchema_failures _ _).imp
    (fun rs w' h => meets_pure.2 h) fun _ _ _ => trivial)))

/-! ### Modules -/

lemma hookLibrary_eq {name : Option String} :
    Meets (hookLibrary name) log (fun library _ => library = name.bind HookLibrary.ofName?)
      fun _ _ => True := by
  unfold hookLibrary
  cases name with
  | none => exact meets_pure.2 rfl
  | some name =>
    dsimp only [Option.bind_some]
    split
    · next library h => exact meets_pure.2 h.symm
    · exact meets_throw.2 trivial

lemma planModule_made {registry : Registry} :
    Meets (planModule c settings registry module names) log
      (fun part _ => part.Made c settings module names) fun _ _ => True := by
  unfold planModule
  refine meets_bind.2 (emitting_meets.2 (emitSchemas_failures.imp ?_ fun _ _ _ => trivial))
  intro failures w hf
  refine meets_bind.2 (hookLibrary_eq.imp ?_ fun _ _ _ => trivial)
  rintro _ log' rfl
  refine meets_bind.2 (emitting_meets.2 (emitOperations_emits.imp ?_ fun _ _ _ => trivial))
  rintro ⟨ops, others⟩ w' ⟨hops, hothers⟩
  refine meets_bind.2 (planned_meets (fun files rendered => ?_) fun _ _ => trivial)
  refine meets_bind.2 (meets_modify.2 (meets_pure.2 ⟨rfl, hops, rendered, ?_⟩))
  have none : others = [] := hothers
  rw [none, List.append_nil]
  exact hf

/-- Modules are planned one after another, each with the schemas that the map gives it. -/
lemma planModules_made {map : ModuleMap} : ∀ (modules : List String) (registry : Registry) (log : Log),
    Meets (planModules c settings map registry modules) log
      (fun parts _ => List.Forall₂
        (fun m (part : ModulePart) => part.Made c settings m ((map.lookup m).getD [])) modules parts)
      fun _ _ => True
  | [], _, _ => meets_pure.2 .nil
  | module :: rest, registry, log => by
    rw [planModules]
    refine meets_bind.2 (planModule_made.imp ?_ fun _ _ _ => trivial)
    intro part log' made
    refine meets_bind.2 ((planModules_made rest _ log').imp ?_ fun _ _ _ => trivial)
    intro parts log'' others
    exact meets_pure.2 (.cons made others)

/-! ### Plans -/

/-- The files of a plan without that of the HTTP client. -/
def Plan.ownFiles (plan : Plan) : List GeneratedFile :=
  plan.shared.files.toList.flatMap (·.all) ++ plan.parts.flatMap (·.files.all)

/-- What is planned for the shared schemas. -/
structure SharedPart.Made (part : SharedPart) (c : Setting) (layout : Layout) (names : List String) :
    Prop where
  rendered : ∀ files ∈ part.files,
    schemaFiles c layout layout.commonDirectory part.workspace = .ok files
  failures : SchemaFailures (Graph.dependencyOrder c.description names) part.failures

/-- What a plan is made of. -/
structure Plan.Made (plan : Plan) (d : Description) (settings : PlanSettings)
    (templates : TemplateId → ClientGen.Template) : Prop where
  shared : plan.shared.Made (d.setting templates [] []) settings.layout plan.common
  parts : List.Forall₂ (fun m (part : ModulePart) =>
    part.Made (d.setting templates plan.common plan.shared.declarations) settings m
      (((split (moduleMap d) plan.modules).1.lookup m).getD [])) plan.modules plan.parts
  files : ∃ client, (templates .httpClient).render [("banner", .str banner)] = .ok client ∧
    plan.files = plan.ownFiles ++ [⟨settings.layout.httpClientFile, client⟩]
  failures : plan.failures = plan.shared.failures ++ plan.parts.flatMap (·.failures)

lemma planShared_made {layout : Layout} : Meets (planShared c layout names) log
    (fun part _ => part.Made c layout names) fun _ _ => True := by
  unfold planShared
  split
  · exact meets_pure.2 ⟨by simp, [], List.nil_sublist _, rfl⟩
  · refine meets_bind.2 (meets_modify.2 (meets_bind.2 (emitting_meets.2
      (emitSchemas_failures.imp ?_ fun _ _ _ => trivial))))
    intro failures w hf
    refine meets_bind.2 (planned_meets (fun files rendered => ?_) fun _ _ => trivial)
    refine meets_pure.2 ⟨fun files' h => ?_, hf⟩
    rw [← Option.mem_some_iff.1 h]
    exact rendered

/-- However planning goes, a plan is made of these parts. -/
theorem planOf_made {d : Description} {templates : TemplateId → ClientGen.Template} :
    Meets (Plan.of d settings templates) log (fun plan _ => plan.Made d settings templates)
      fun _ _ => True := by
  unfold Plan.of
  refine meets_bind.2 (meets_modify.2 ?_)
  dsimp only
  refine meets_bind.2 (meets_modify.2 (meets_bind.2 (meets_liftM.2 ⟨fun modules _ => ?_,
    fun _ _ => trivial⟩)))
  refine meets_bind.2 (planShared_made.imp ?_ fun _ _ _ => trivial)
  intro shared log' hs
  refine meets_bind.2 ((planModules_made modules _ log').imp ?_ fun _ _ _ => trivial)
  intro parts log'' hp
  refine meets_bind.2 (planned_meets (fun client hc => ?_) fun _ _ => trivial)
  exact meets_pure.2 ⟨hs, hp, ⟨client, hc, rfl⟩, rfl⟩

end ClientGen
