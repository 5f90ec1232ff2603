import ClientGen.Proofs.Plan.References
import Mathlib.Algebra.Group.Nat.Defs

/-!
# Integrity of plans

A description whose references all resolve has a plan in which nothing fails. Its files show all
declarations, refer to nothing else, and import the namespaces that they go through.
-/

namespace ClientGen

open Api Emission Output Partition Schema Template TypeScript

variable {c : Setting} {t : Target} {d : Description} {settings : PlanSettings} {log : Log}
  {w : Workspace} {n x : String} {common declarations : List String} {module : String}
  {part : ModulePart}

/-! ### Files of declarations -/

/-- The files of a directory show the declarations of its workspace as they were written. -/
structure SchemaFiles.Shows (files : SchemaFiles) (w : Workspace) : Prop where
  types : ∀ e ∈ w.types.declarations, writeDeclaration builtin e.declaration = .ok e ∧
    Contains files.types.content e.content
  schemas : ∀ e ∈ w.validators.declarations, writeDeclaration builtin e.declaration = .ok e ∧
    Contains files.schemas.content e.content

lemma FilesSound.shows {G : Ground c} {layout : Layout} {directory : String} {files : SchemaFiles}
    (h : FilesSound c G w) (templates : c.templates = builtin)
    (rendered : schemaFiles c layout directory w = .ok files) : files.Shows w := by
  obtain ⟨types, schemas⟩ := contains_of_schemaFiles templates rendered
  exact ⟨fun e he => ⟨templates ▸ h.types.written e he, types _ (List.mem_map_of_mem he)⟩,
    fun e he => ⟨templates ▸ h.validators.written e he, schemas _ (List.mem_map_of_mem he)⟩⟩

/-! ### Imports -/

/-- A namespace that a type of an operation goes through is one of two, and it is known to be gone
through. -/
lemma OnOperationTarget.namespace_ {e : TypeExpr} (h : OnOperationTarget c t e w)
    (hm : e.Mentions (some n) x) : n ∈ e.namespaces ∧ (n = t.namespace_ ∨ n = commonNamespace) := by
  constructor
  · rcases e.mem_namespaces_of_mentions hm with hn | all
    · exact hn
    · rcases h none x (all none x) with ⟨hq, -⟩ | ⟨hq, -⟩ <;> cases hq
  · rcases h (some n) x hm with ⟨hq, -⟩ | ⟨hq, -⟩
    · exact .inl (Option.some.inj hq)
    · exact .inr (Option.some.inj hq)

lemma Emission.OperationParts.Sound.namespace_ {p : OperationParts} (h : p.Sound c t w)
    (hm : p.RefersTo (some n) x) : n ∈ p.namespaces ∧ (n = t.namespace_ ∨ n = commonNamespace) := by
  rcases hm with ⟨a, ha, hm⟩ | hm
  · obtain ⟨hn, known⟩ := (h.arguments a ha).namespace_ hm
    exact ⟨mem_distinct.2 (List.mem_append_left _ (List.mem_flatMap.2 ⟨a, ha, hn⟩)), known⟩
  · obtain ⟨hn, known⟩ := h.response.namespace_ hm
    exact ⟨mem_distinct.2 (List.mem_append_right _ hn), known⟩

section Resolving

variable (resolves : d.Resolves)

include resolves

lemma not_faulty {s : SchemaError} : ¬ Faulty d builtin (.schema s) :=
  fun h => h resolves

lemma FilesSound.unfailed {G : Ground c} (h : FilesSound c G w)
    (permits : ∀ e, G.permits (.schema e) → Faulty d builtin (.schema e)) (s : String) :
    s ∉ w.types.failed ∧ s ∉ w.validators.failed := by
  constructor
  · intro hs
    obtain ⟨-, e, he⟩ := h.types.failed s hs
    exact not_faulty resolves (permits e he)
  · intro hs
    obtain ⟨-, e, he⟩ := h.validators.failed s hs
    exact not_faulty resolves (permits e he)

lemma PlanSound.closed {plan : Plan} (h : PlanSound d builtin settings plan)
    (shallow : d.Shallow) : plan.Closed := by
  refine h.accounted.closed shallow (h.shared.files.unfailed resolves fun _ he => he)
    fun part hp s hs => ?_
  obtain ⟨m, -, sound, -⟩ := h.part hp
  obtain ⟨types, validators⟩ := sound.files.unfailed resolves (fun _ he => he) s
  exact absurd hs (not_or.2 ⟨types, validators⟩)

end Resolving

/-- A description whose integers can be written has a plan for every selection of its modules. -/
lemma exists_planOf (writable : d.Writable)
    (supported : ∀ name ∈ settings.hooks, HookLibrary.ofName? name ≠ none) {modules : List String}
    (selected : (outcome (selectModules ((moduleMap d).map Prod.fst) settings.selected
      settings.ignored) []).1 = .ok modules) :
    ∃ plan log', outcome (Plan.of d settings) log = (.ok plan, log') ∧
      PlanSound d builtin settings plan ∧ plan.modules = modules := by
  have planned : Meets (Plan.of d settings) log
      (fun plan _ => PlanSound d builtin settings plan) fun _ _ => False := by
    refine planOf_meets.imp (fun _ _ sound => sound) ?_
    rintro (e | e | name) log' he
    · rw [NoPlan, selected] at he
      cases he
    · cases e with
      | schema e => exact he.2 e rfl
      | render e => exact he.1 rfl
      | noKey e => exact he.1
      | digits f => exact he.1 writable
    · exact supported name he.1 he.2
  obtain ⟨plan, log', run, sound⟩ := planned.exists_ok
  exact ⟨plan, log', run, sound, Except.ok.inj (sound.selected.symm.trans selected)⟩

/-- Pets and owners that lead to each other, and the visits of pets. -/
def petStore : Description where
  schemas := [
    ("Pet", .object [⟨"owner", false, .reference "#/components/schemas/Owner" {}⟩,
      ⟨"kind", true, .enumeration ["cat", "dog"] {}⟩] none {}),
    ("Owner", .object [⟨"pets", true, .array (.reference "#/components/schemas/Pet" {}) {} {}⟩]
      none {}),
    ("Visit", .object [⟨"pet", true, .reference "#/components/schemas/Pet" {}⟩] none {})]
  operations := [
    { method := .get, path := "/pets", tags := ["pets"],
      responses := [("200", some (.reference "#/components/schemas/Pet" {}))] },
    { method := .get, path := "/visits", tags := ["visits"],
      responses := [("200", some (.reference "#/components/schemas/Visit" {}))] }]

end ClientGen
