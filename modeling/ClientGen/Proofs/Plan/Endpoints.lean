import ClientGen.Proofs.Emission.Restored
import ClientGen.Proofs.Plan.ApiFile
import ClientGen.Proofs.Plan.Integrity
import ClientGen.Proofs.Plan.Parts

/-!
# Endpoints of a plan

Whatever is wrong with the references of a description, planning ends with a plan unless no module is
selected. Its modules have one function for each of their operations, and only schemas are among what
failed. Errors of schemas are caught while the emitters are at work, which leaves them as they were.
-/

namespace ClientGen

open Api Emission Output Partition Schema Template

variable {d : Description} {settings : PlanSettings} {log : Log} {common declarations : List String}
  {module : String} {part : ModulePart} {plan : Plan}

/-! ### Modules -/

/-- The file of a module's functions has one function for each operation of the module, in their
order, behind the aliases of their responses. -/
structure ModulePart.Serves (part : ModulePart) (d : Description) (settings : PlanSettings)
    (module : String) : Prop where
  target : part.target = settings.target module
  operations : part.operations.map (·.parts.operation) = d.operationsOf module
  filled : ∀ o ∈ part.operations, o.parts.Filled
  api : part.files.api = ⟨settings.layout.apisDirectory module ++ "/index.ts",
    apiHead part.target part.operations ++ spaced (part.operations.map (·.parts.aliasText)) ++
      spaced (part.operations.map (·.parts.functionText part.target))⟩

lemma ModulePart.Made.serves {names : List String}
    (made : part.Made (d.setting builtin common declarations) settings module names) :
    part.Serves d settings module := by
  obtain ⟨-, api, -⟩ := eq_of_moduleFiles made.rendered
  have path : part.files.api.path = settings.layout.apisDirectory module ++ "/index.ts" := by
    rw [path_api_of_moduleFiles made.rendered, made.target]
    rfl
  have texts (o : ClientOperation) (ho : o ∈ part.operations) :=
    texts_of_write rfl (made.operations.filled o ho) (made.operations.written o ho)
  have functions : part.operations.map (·.function.content) =
      part.operations.map (·.parts.functionText part.target) :=
    List.map_congr_left fun o ho => (texts o ho).1
  have aliases : part.operations.map (·.alias_.content) =
      part.operations.map (·.parts.aliasText) :=
    List.map_congr_left fun o ho => (texts o ho).2
  rw [apiFile_eq rfl, functions, aliases] at api
  refine ⟨made.target, made.operations.operations, made.operations.filled, ?_⟩
  rw [← path, Except.ok.inj api]

/-! ### Failures -/

/-- Each of some entries is about a schema of the description that could not be declared. -/
def OfSchemas (d : Description) (failures : List String) : Prop :=
  ∃ failed : List (String × SchemaError), (∀ f ∈ failed, f.1 ∈ d.schemaNames) ∧
    failures = failed.map fun f => f.1 ++ ": " ++ f.2.message

lemma SchemaFailures.ofSchemas {names failures : List String} (h : SchemaFailures names failures)
    (known : ∀ s ∈ names, s ∈ d.schemaNames) : OfSchemas d failures := by
  obtain ⟨failed, sub, rfl⟩ := h
  exact ⟨failed, fun f hf => known f.1 (sub.subset (List.mem_map_of_mem hf)), rfl⟩

lemma OfSchemas.append {failures failures' : List String} (h : OfSchemas d failures)
    (h' : OfSchemas d failures') : OfSchemas d (failures ++ failures') := by
  obtain ⟨failed, known, rfl⟩ := h
  obtain ⟨failed', known', rfl⟩ := h'
  exact ⟨failed ++ failed', fun f hf => (List.mem_append.1 hf).elim (known f) (known' f),
    by rw [List.map_append]⟩

lemma OfSchemas.flatMap {α : Type} {f : α → List String} : ∀ {items : List α},
    (∀ a ∈ items, OfSchemas d (f a)) → OfSchemas d (items.flatMap f)
  | [], _ => ⟨[], by simp, rfl⟩
  | a :: rest, h => (h a List.mem_cons_self).append
    (OfSchemas.flatMap fun b hb => h b (List.mem_cons_of_mem a hb))

/-- Only schemas are among what failed. -/
lemma Plan.Made.ofSchemas (made : plan.Made d settings builtin)
    (sound : PlanSound d builtin settings plan) : OfSchemas d plan.failures := by
  rw [made.failures]
  refine OfSchemas.append ?_ (OfSchemas.flatMap fun part hp => ?_)
  · refine made.shared.failures.ofSchemas fun s hs => ?_
    obtain ⟨m, -, m', -, -, needs, -⟩ := (sound.common s).1 (Graph.mem_dependencyOrder.1 hs)
    exact needs.1
  · obtain ⟨m, hm, part_made⟩ := exists_of_forall₂_right made.parts hp
    refine part_made.failures.ofSchemas fun s hs => ?_
    exact ((mem_own_iff (sound.available hm) hm).1 (Graph.mem_dependencyOrder.1 hs)).1.1

/-! ### Operations -/

/-- Where all integers can be written and the templates are the built-in ones, errors of schemas are
the only ones. -/
def Emission.Faults.ofWritable (common declarations : List String) (writable : d.Writable) :
    Faults (d.setting builtin common declarations) where
  may e := ∃ s, e = .schema s
  schema s := ⟨s, rfl⟩
  typeUnwritten declaration e h := by
    obtain ⟨written, hw⟩ := exists_writeTypeDeclaration declaration
    rw [hw] at h
    cases h
  validatorUnwritten declaration e h := by
    obtain ⟨written, hw⟩ := exists_writeValidatorDeclaration declaration
    rw [hw] at h
    cases h
  long s n hs long f := by
    rw [writable n (mem_nodes_of_schema? hs)] at long
    cases long

section Returning

variable {w : Workspace} {t : Target} {op : Operation}

lemma Emission.exists_of_handled {α : Type} {x : Emit α} {Q : α → Workspace → Prop}
    (writable : d.Writable)
    (h : (Faults.ofWritable common declarations writable).contract.handled.Keeps x w Q) :
    ∃ a w', outcome x w = (.ok a, w') ∧ Q a w' := by
  refine Meets.exists_ok ((h trivial).imp (fun a w' ha => ha.2.2) ?_)
  rintro e w' ⟨⟨⟨s, hs⟩, none⟩, -⟩
  exact none s hs

/-- An operation of the description is emitted, whatever the workspace is. -/
lemma Emission.emitOperation_returns (writable : d.Writable) (hop : op ∈ d.operations)
    (name : String) : ∃ o w',
      outcome (emitOperation (d.setting builtin common declarations) t name op) w = (.ok o, w') ∧
        o.IsFor (d.setting builtin common declarations) t name op := by
  refine exists_of_handled writable (emitOperation_handles (fun n hn long => ?_) fun p e h => ?_)
  · rw [writable n (mem_nodes_of_mem_schemas hop hn)] at long
    cases long
  · have written : ∃ o, p.write (d.setting builtin common declarations) t = .ok o :=
      exists_write rfl
    obtain ⟨o, ho⟩ := written
    rw [ho] at h
    cases h

/-- So is the type of a body, a response or a path parameter, and whether the validators refer to the
shared schemas is left as it was. -/
lemma Emission.operationType_returns (writable : d.Writable) {parent : String}
    {property : Option String} {node : SchemaNode} (short : node.hasLongInteger = false) :
    ∃ type w', outcome (operationType (d.setting builtin common declarations) t op parent property
      node) w = (.ok type, w') ∧ w'.validators.usesCommon = w.validators.usesCommon := by
  refine exists_of_handled writable (Faults.operationType_handles fun long => ?_)
  rw [short] at long
  cases long

end Returning

/-- What the emitters of a directory do with operations: each operation is emitted, whatever errors of
schemas are caught, and the fields are left as they were found. So is whether the validators refer to
the shared schemas when the type of an operation has been made. -/
structure Emission.Returns (c : Setting) (t : Target) : Prop where
  initial : Fields.Idle {}
  schemas : ∀ names w (f : Fields), f.Idle → outcome (Tracked.emitSchemas c names) (w, f) =
    ((outcome (emitSchemas c names) w).1, (outcome (emitSchemas c names) w).2, f)
  operations : ∀ asked ops w (f : Fields), f.Idle →
    outcome (Tracked.emitOperations c t asked ops) (w, f) =
      ((outcome (emitOperations c t asked ops) w).1, (outcome (emitOperations c t asked ops) w).2, f)
  operation : ∀ op ∈ c.description.operations, ∀ name w (f : Fields), f.Idle → ∃ o w',
    outcome (Tracked.emitOperation c t name op) (w, f) = (.ok o, w', f) ∧
      outcome (emitOperation c t name op) w = (.ok o, w') ∧ o.IsFor c t name op
  type : ∀ op parent property (node : SchemaNode), node.hasLongInteger = false →
    ∀ w (f : Fields), f.Idle → ∃ type w',
      outcome (Tracked.operationType c t op parent property node) (w, f) = (.ok type, w', f) ∧
        outcome (operationType c t op parent property node) w = (.ok type, w') ∧
          w'.validators.usesCommon = w.validators.usesCommon

lemma Emission.returns (writable : d.Writable) {t : Target} :
    Returns (d.setting builtin common declarations) t where
  initial := ⟨rfl, rfl⟩
  schemas _ _ _ idle := (emitSchemas_follows idle).restores idle.namespace_
  operations asked ops w f idle :=
    (emitOperations_follows ops asked w f idle).restores idle.namespace_
  operation op hop name w f idle := by
    obtain ⟨o, w', run, isFor⟩ := emitOperation_returns writable hop name
    exact ⟨o, w', by rw [(emitOperation_follows idle).restores idle.namespace_, run], run, isFor⟩
  type op parent property node short w f idle := by
    obtain ⟨type, w', run, same⟩ := operationType_returns writable short
    exact ⟨type, w', by rw [(operationType_follows idle).restores idle.namespace_, run], run, same⟩

/-! ### Plans -/

/-- The modules of a plan are those that are selected, each with its file of functions, and only
schemas are among what failed. -/
structure Plan.Serves (plan : Plan) (d : Description) (settings : PlanSettings) : Prop where
  selected : (outcome (selectModules ((moduleMap d).map Prod.fst) settings.selected
    settings.ignored) []).1 = .ok plan.modules
  modules : List.Forall₂ (fun module (part : ModulePart) => part.Serves d settings module)
    plan.modules plan.parts
  files : ∀ part ∈ plan.parts, part.files.api ∈ plan.files
  failures : OfSchemas d plan.failures

end ClientGen
