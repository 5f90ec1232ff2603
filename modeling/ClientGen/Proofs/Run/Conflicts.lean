import ClientGen.Proofs.Run.Writing
import Mathlib

/-!
# Causes of conflicts

Over a history of runs for one project, a run gives notice of a conflict only for a file that the last
run which ended did not leave: somebody else changed it since, the formatter did, or a run that broke
off before its manifest was kept. There are two ways around this: a file may hold a carriage return,
and a copy of another file may go to the place of one.
-/

namespace ClientGen

open Machine MachineState Output Path Specification Template Text
open Writer (storedAt)

/-! ### Generating -/

/-- Generate the code of one specification without formatting it. -/
def generate {m : Type → Type} [Monad m] [Machine m] (config : Config) (templates : Templates)
    (options : RunOptions) (spec : EffectiveSpec) : Work (StateT FileCache m) Failure SpecResult := do
  let plan ← planSpec config templates options spec
  let writer ← (Writer.open_ config.base options.write).adapt Failure.ofTextError
  let start : SpecResult := { name := spec.name, failures := plan.failures }
  let (writer, result) ← (writeFiles writer start plan.files).adapt Failure.ofTextError
  let _ ← writer.saveManifest.adapt Failure.ofTextError
  return result

/-- A run generates the code and then has it formatted. -/
lemma runSpec_eq {m : Type → Type} [Monad m] [LawfulMonad m] [Machine m] (config : Config)
    (templates : Templates) (options : RunOptions) (spec : EffectiveSpec) :
    (runSpec config templates options spec : Work (StateT FileCache m) Failure SpecResult) =
      generate config templates options spec >>= fun result => do
        if options.format && !options.write.dryRun && !result.written.isEmpty then
          (formatWritten config result.written).adapt Failure.ofTextError
        return result := by
  simp only [runSpec, generate, bind_assoc, pure_bind]

section Generating

variable {config : Config} {templates : Templates} {options : RunOptions} {spec : EffectiveSpec}
  {s : MachineState} {trusted : Place → Prop}

/-- Planning changes nothing but the cache of fetched texts, and gives a plan of some description. -/
lemma fetches_planSpec (tree : s.disk.IsTree) :
    EndsBeside (planSpec config templates options spec) s
      (fun plan s' => Fetches s s' ∧ ∃ d, plan.Made d (config.settingsOf s.here spec) templates)
      fun _ s' => Fetches s s' := by
  refine .bind ((ends_load tree).imp (fun document s' loads => ?_) fun _ _ fails => fails.1)
  have fetched := loads.fetches tree
  refine .bind (.adapt (x := ofReporting _) (endsBeside_ofReporting fun log => ?_))
  refine Meets.trivial.imp (fun description _ _ => ?_) fun _ _ _ => fetched
  refine .bind (endsBeside_asked fun _ => ?_)
  refine .adapt (x := ofReporting _) (endsBeside_ofReporting fun log => ?_)
  refine planOf_made.imp (fun plan _ made => ⟨fetched, description, ?_⟩) fun _ _ _ => fetched
  rw [← fetched.here]
  exact made

lemma Fetches.stored {s₁ : MachineState} (h : Fetches s s₁) (base : Place) :
    storedAt s₁.disk base = storedAt s.disk base :=
  Writer.storedAt_congr ((h.bytesAt? _).resolve_right (not_isFetched_manifest base))

/-- Fetched texts make no difference to what a run comes to, and neither does the manifest that its
writer starts with. -/
lemma Concludes.of_fetches {files : List GeneratedFile} {w : Writer} {s₁ s' : MachineState}
    {r : SpecResult} (h : Concludes trusted files w s₁ r s') (fetched : Fetches s s₁)
    (places : ∀ q, trusted q → IsSourcePlace q) :
    Concludes trusted files { root := w.root, options := w.options } s r s' := by
  obtain ⟨tree, sound, left, remembered, conflicts⟩ := h
  rw [fetched.here] at sound left remembered conflicts
  refine ⟨tree, sound, left, remembered, fun path hp trust => ?_⟩
  have same := (fetched.bytesAt? _).resolve_right (places _ trust).not_isFetched
  rw [← same]
  exact conflicts path hp trust

/-- What comes of generating the code of one specification. -/
lemma concludes_generate (root : IsRoot config.base) (home : IsHome s.here)
    (layout : (config.layoutOf s.here spec).IsKept) (tree : s.disk.IsTree)
    (sound : (storedAt s.disk (segments config.base)).IsSound)
    (places : ∀ q, trusted q → IsSourcePlace q)
    (known : ∀ q, trusted q →
      Remembers (storedAt s.disk (segments config.base)) (segments config.base) s.disk q)
    (c : FileCache) : EndsAt (generate config templates options spec) c s
      (fun r s' => ∃ plan,
        (onBoth (planSpec config templates options spec) c s).1 = .ok plan ∧
        Concludes trusted plan.files { root := config.base, options := options.write } s r s')
      fun _ s' => Breaks s s' := by
  refine .bind (((fetches_planSpec tree).endsAt c).and_result.imp ?_
    fun _ s₁ fetched => ⟨fetched.tree, fetched.stored⟩)
  rintro plan s₁ ⟨planned, fetched, d, made⟩
  have breaks {s' : MachineState} (h : Breaks s₁ s') : Breaks s s' :=
    ⟨h.tree, fun base => (h.stored base).trans (fetched.stored base)⟩
  have sources : ∀ f ∈ plan.files, IsSource f.path := made.isSource layout
  have base : goal s₁.here config.base = segments config.base := root.goal s₁.here
  have stored := fetched.stored (segments config.base)
  have known : ∀ q, trusted q →
      Remembers (storedAt s₁.disk (segments config.base)) (segments config.base) s₁.disk q := by
    intro q trust
    rw [stored]
    exact (known q trust).congr ((fetched.bytesAt? q).resolve_right (places q trust).not_isFetched)
  rw [← stored] at sound
  rw [← base] at known sound
  rw [(Writer.mirrors_open _ _).eq_lifted]
  refine .bind (.adapt ((ends_open_root root fetched.tree options.write).beside.imp ?_ ?_))
  · rintro _ s₁ ⟨rfl, rfl⟩
    rw [← base]
    dsimp only
    generalize opened : storedAt s₁.disk (goal s₁.here config.base) = m at known sound
    let w : Writer := { root := config.base, options := options.write, manifest := m }
    have start : Proceeds trusted plan.files w s₁ w
        { name := spec.name, failures := plan.failures } s₁ :=
      proceeds_start sound fetched.tree known rfl rfl rfl
    rw [(mirrors_writeFiles _ _ _).eq_lifted]
    refine .bind (.adapt ((start.ends places (fetched.here ▸ home) root.fits.kept sources).beside.imp
      ?_ fun _ _ => breaks))
    rintro ⟨w, r⟩ s₂ written
    rw [(Writer.mirrors_saveManifest w).eq_lifted]
    refine .bind (.adapt ((written.ends_saveManifest places opened.symm sound known).beside.imp
      (fun _ s' concludes => ?_) fun _ _ => breaks))
    exact endsBeside_pure ⟨plan, planned, concludes.of_fetches fetched places⟩
  · rintro _ _ rfl
    exact breaks ⟨fetched.tree, fun _ => rfl⟩

end Generating

/-! ### Histories -/

/-- Who changed a file last. -/
inductive Hand
  /-- Somebody else, as it is with every file at first. -/
  | user
  | formatter
  /-- A run that broke off. -/
  | aborted
  /-- A run that ended, for something else than to write the file: the copy of another one, the manifest,
  or a fetched text. -/
  | beside
  /-- A run that ended, which wrote the file or found it as it would have written it. -/
  | run
  deriving DecidableEq, Repr

/-- A project: the machine that it is on, and who changed each of the files last. -/
structure Project where
  machine : MachineState
  hand : Place → Hand

/-- A run for one specification, in a directory, by a configuration and some templates, with the
documents that were read before. -/
structure Turn where
  here : String
  config : Config
  templates : Templates
  options : RunOptions
  spec : EffectiveSpec
  cache : FileCache := {}

namespace Turn

/-- The machine as the run finds it. -/
def finds (t : Turn) (s : MachineState) : MachineState :=
  { s with here := t.here }

/-- What the run plans. -/
def plan (t : Turn) (s : MachineState) : Except Failure Plan :=
  (onBoth (planSpec t.config t.templates t.options t.spec) t.cache (t.finds s)).1

/-- What the run comes to. -/
def result (t : Turn) (s : MachineState) : Except Failure SpecResult :=
  (onBoth (runSpec t.config t.templates t.options t.spec) t.cache (t.finds s)).1

/-- What the run comes to before it formats anything, and the machine then. -/
def generated (t : Turn) (s : MachineState) : Except Failure SpecResult × FileCache × MachineState :=
  onBoth (generate t.config t.templates t.options t.spec) t.cache (t.finds s)

/-- A writer as the run uses one. -/
def writer (t : Turn) : Writer :=
  { root := t.config.base, options := t.options.write }

/-- Where the file of a path stands for the run. -/
def placeOf (t : Turn) (path : String) : Place :=
  t.writer.placeOf t.here path

/-- A run for the project at a root: in a readable directory, with texts for the roots of its output. -/
structure IsOn (root : String) (t : Turn) : Prop where
  base : t.config.base = root
  home : IsHome t.here
  layout : (t.config.layoutOf t.here t.spec).IsKept

open Classical in
/-- Who changed a file last, when the run has generated its code. -/
noncomputable def handAfter (t : Turn) (p : Project) (q : Place) : Hand :=
  let changed (by_ : Hand) : Hand :=
    if (t.generated p.machine).2.2.disk.bytesAt? q = p.machine.disk.bytesAt? q then p.hand q else by_
  match (t.generated p.machine).1 with
  | .error _ => changed .aborted
  | .ok r =>
    if r.MayCopyTo t.writer t.here q then .beside
    else if r.Leaves t.writer t.here q then .run
    else changed .beside

/-- The project when the run has generated its code. -/
noncomputable def after (t : Turn) (p : Project) : Project :=
  ⟨(t.generated p.machine).2.2, t.handAfter p⟩

/-- What a run comes to, it comes to before it formats anything. -/
lemma generated_of_result {t : Turn} {s : MachineState} {r : SpecResult} (h : t.result s = .ok r) :
    (t.generated s).1 = .ok r := by
  have same : EndsAt (runSpec t.config t.templates t.options t.spec) t.cache (t.finds s)
      (fun r _ => (t.generated s).1 = .ok r) fun _ _ => True := by
    rw [runSpec_eq]
    refine .bind ((EndsBeside.trivial.endsAt t.cache).and_result.imp ?_ fun _ _ => id)
    rintro r s' ⟨run, -⟩
    split
    · exact .bind (EndsBeside.trivial.imp (fun _ _ _ => endsBeside_pure run) fun _ _ => id)
    · exact endsBeside_pure run
  exact same.of_ok h

/-- What a run left, it or an earlier one did, and no copy may have come there. -/
lemma of_handAfter {t : Turn} {p : Project} {q : Place} {r : SpecResult}
    (run : (t.generated p.machine).1 = .ok r) (h : t.handAfter p q = .run) :
    ¬r.MayCopyTo t.writer t.here q ∧ (p.hand q = .run ∨ r.Leaves t.writer t.here q) := by
  unfold handAfter at h
  rw [run] at h
  dsimp only at h
  split at h
  · cases h
  · next copy =>
    refine ⟨copy, ?_⟩
    split at h
    · next leaves => exact .inr leaves
    · split at h
      · exact .inl h
      · cases h

end Turn

namespace Project

open Classical in
/-- The project when somebody changed files on its machine. -/
noncomputable def changed (p : Project) (by_ : Hand) (machine : MachineState) : Project :=
  ⟨machine, fun q => if machine.disk.bytesAt? q = p.machine.disk.bytesAt? q then p.hand q else by_⟩

/-- One step in the history of the project at a root. -/
inductive Step (root : String) : Project → Project → Prop
  | generates {p : Project} {t : Turn} : t.IsOn root → Step root p (t.after p)
  /-- Somebody else, the formatter or a run that breaks off changes files in any way, but not the
  manifest of the project. -/
  | changes {p : Project} {by_ : Hand} {machine : MachineState} : by_ ≠ .run → machine.disk.IsTree →
      storedAt machine.disk (segments root) = storedAt p.machine.disk (segments root) →
      Step root p (p.changed by_ machine)

/-- A project before any run: nothing is in its manifest, and no file comes from a run. -/
structure IsFresh (root : String) (p : Project) : Prop where
  tree : p.machine.disk.IsTree
  stored : storedAt p.machine.disk (segments root) = []
  hand : ∀ q, p.hand q = .user

/-- A project whose manifest remembers what runs left. -/
structure IsSound (root : String) (p : Project) : Prop where
  tree : p.machine.disk.IsTree
  sound : (storedAt p.machine.disk (segments root)).IsSound
  places : ∀ q, p.hand q = .run → IsSourcePlace q
  known : ∀ q, p.hand q = .run →
    Remembers (storedAt p.machine.disk (segments root)) (segments root) p.machine.disk q

variable {root : String} {p p' : Project} {t : Turn}

lemma IsFresh.isSound (h : p.IsFresh root) : p.IsSound root where
  tree := h.tree
  sound := h.stored ▸ Manifest.isSound_nil
  places q run := by
    rw [h.hand] at run
    cases run
  known q run := by
    rw [h.hand] at run
    cases run

/-- What comes of a run for a sound project. -/
lemma IsSound.endsAt (h : p.IsSound root) (top : IsRoot root) (on : t.IsOn root) :
    EndsAt (generate t.config t.templates t.options t.spec) t.cache (t.finds p.machine)
      (fun r s' => ∃ plan, t.plan p.machine = .ok plan ∧
        Concludes (fun q => p.hand q = .run) plan.files t.writer (t.finds p.machine) r s')
      fun _ s' => Breaks (t.finds p.machine) s' := by
  obtain ⟨rfl, home, layout⟩ := on
  exact concludes_generate (s := t.finds p.machine) top home layout h.tree h.sound h.places h.known
    t.cache

/-- Files that nobody changed are as they were left. -/
lemma IsSound.changed {by_ : Hand} {machine : MachineState} (h : p.IsSound root)
    (other : by_ ≠ .run) (tree : machine.disk.IsTree)
    (stored : storedAt machine.disk (segments root) = storedAt p.machine.disk (segments root)) :
    (p.changed by_ machine).IsSound root := by
  have same {q : Place} (run : (p.changed by_ machine).hand q = .run) :
      machine.disk.bytesAt? q = p.machine.disk.bytesAt? q ∧ p.hand q = .run := by
    unfold Project.changed at run
    dsimp only at run
    split at run
    · next same => exact ⟨same, run⟩
    · exact absurd run other
  refine ⟨tree, ?_, fun q run => h.places q (same run).2, fun q run => ?_⟩
  · rw [Project.changed, stored]
    exact h.sound
  · rw [Project.changed, stored]
    exact (h.known q (same run).2).congr (same run).1

/-- A step leaves a project sound. -/
lemma IsSound.step (h : p.IsSound root) (top : IsRoot root) (step : Step root p p') :
    p'.IsSound root := by
  rcases step with on | ⟨other, tree, stored⟩
  case changes => exact h.changed other tree stored
  case generates t =>
    have ends := h.endsAt top on
    cases run : (t.generated p.machine).1 with
    | error e =>
      have breaks := ends.of_error run
      have hands : t.after p = p.changed .aborted (t.generated p.machine).2.2 := by
        unfold Turn.after Turn.handAfter
        rw [run]
        rfl
      rw [hands]
      exact h.changed nofun breaks.tree (breaks.stored _)
    | ok r =>
      obtain ⟨plan, -, concludes⟩ := ends.of_ok run
      have sound := concludes.sound
      have remembered := concludes.remembered
      have base : goal (t.finds p.machine).here t.writer.root = segments root := by
        rw [Turn.writer, on.base]
        exact top.goal t.here
      rw [base] at sound remembered
      refine ⟨concludes.tree, sound, fun q left => ?_, fun q left => ?_⟩
      · exact (Turn.of_handAfter run left).2.elim (h.places q) (concludes.left q)
      · obtain ⟨copy, left⟩ := Turn.of_handAfter run left
        exact (remembered q left).resolve_right copy

lemma IsSound.of_history (h : p.IsSound root) (top : IsRoot root)
    (history : Relation.ReflTransGen (Step root) p p') : p'.IsSound root := by
  induction history with
  | refl => exact h
  | tail _ step ih => exact ih.step top step

end Project

/-- A run that gives notice of a conflict has a cause for it. Somebody else changed the file last, or the
formatter did, or a run that broke off, or one that changed it for something else than to write it. If
the last run which ended left the file, there is a carriage return in it, or in what this run put there
itself; or this run may have copied another file to its place. -/
theorem conflict_has_cause {root : String} {start p : Project} {t : Turn} {r : SpecResult}
    {path : String} (top : IsRoot root) (fresh : start.IsFresh root)
    (history : Relation.ReflTransGen (Project.Step root) start p) (on : t.IsOn root)
    (run : t.result p.machine = .ok r) (conflict : path ∈ r.conflicts) :
    p.hand (t.placeOf path) ≠ .run ∨
      (∃ bytes, HoldsReturn bytes ∧ (p.machine.disk.bytesAt? (t.placeOf path) = some bytes ∨
        ∃ plan, t.plan p.machine = .ok plan ∧
          IsContent plan.files t.writer t.here (t.placeOf path) bytes)) ∨
      r.MayCopyTo t.writer t.here (t.placeOf path) := by
  have sound := fresh.isSound.of_history top history
  obtain ⟨plan, planned, concludes⟩ := (sound.endsAt top on).of_ok (Turn.generated_of_result run)
  by_cases left : p.hand (t.placeOf path) = .run
  · refine .inr ((concludes.conflicts path conflict left).imp_left ?_)
    rintro ⟨bytes, returns, found | content⟩
    · exact ⟨bytes, returns, .inl found⟩
    · exact ⟨bytes, returns, .inr ⟨plan, planned, content⟩⟩
  · exact .inl left

/-! ### A file that a user wrote -/

/-- A description of one operation. -/
def pingDocument : Document.Value :=
  .record [("openapi", .str "3.0.0"), ("paths", .record [("/ping", .record [("get", .record [
    ("tags", .list [.str "ping"]), ("responses", .record [])])])])]

/-- The description in the document. -/
def pingDescription : Api.Description where
  operations := [{ method := .get, path := "/ping", tags := ["ping"] }]
  source := some "spec.json"

/-- A project with the document, and with a file where the HTTP client would be generated. -/
def pingMachine : MachineState where
  disk := { entries := [(["p"], .directory), (["p", "spec.json"], .file ByteArray.empty 0),
    (["p", "src"], .directory), (["p", "src", "apis"], .directory),
    (["p", "src", "apis", "http.ts"], .file "mine".toUTF8 0)] }

/-- A run that looks what it would write, with empty templates. The document was read before. -/
def pingTurn : Turn where
  here := "/p"
  config := { base := "/p", specPath := some "spec.json" }
  templates _ := []
  options := { write := { dryRun := true }, useCache := false }
  spec := { name := "default", path := "spec.json", schemas := {}, apis := {}, modules := {} }
  cache := { entries := [("/p/spec.json", ⟨pingDocument, ⟨"/p/spec.json", .file 0 0⟩⟩)] }

/-- A project with nothing in it. -/
def emptyProject : Project :=
  ⟨{}, fun _ => .user⟩

lemma moduleMap_ping : Partition.moduleMap pingDescription = [("ping", [])] := by
  have modules : pingDescription.modules = ["ping"] := by decide +kernel
  have roots : Partition.roots pingDescription "ping" = [] := by decide +kernel
  rw [Partition.moduleMap, modules, List.map_cons, roots, Graph.closure, Graph.walk]
  rfl

set_option maxRecDepth 10000 in
lemma result_pingTurn : (pingTurn.result pingMachine).toOption.map (·.conflicts) =
    some ["src/apis/http.ts"] := by
  unfold Turn.result runSpec planSpec
  simp only [bind_assoc]
  rw [onBoth_bind_eq (a := pingDocument), onBoth_bind_eq (a := pingDescription)]
  · unfold Plan.of
    simp only [moduleMap_ping]
    decide +kernel
  · rfl
  · rfl

lemma history_ping : Relation.ReflTransGen (Project.Step "/p") emptyProject
    (emptyProject.changed .user pingMachine) := by
  have tree : pingMachine.disk.IsTree := by
    refine Disk.isTree_of_entries ?_
    simp only [pingMachine, List.forall_mem_cons]
    exact ⟨rfl, rfl, rfl, rfl, rfl, nofun⟩
  refine .single (.changes nofun tree ?_)
  have stored := @Writer.storedAt_of_names pingMachine.disk (segments "/p") (by decide +kernel)
  exact stored.trans (Writer.storedAt_of_names (by simp [emptyProject])).symm

/-- The run gives notice of a conflict for the file that a user wrote. -/
theorem conflict_has_cause_ping : ∃ r, pingTurn.result pingMachine = .ok r ∧
    "src/apis/http.ts" ∈ r.conflicts ∧
    ((emptyProject.changed .user pingMachine).hand (pingTurn.placeOf "src/apis/http.ts") ≠ .run ∨
      (∃ bytes, HoldsReturn bytes ∧
        (pingMachine.disk.bytesAt? (pingTurn.placeOf "src/apis/http.ts") = some bytes ∨
          ∃ plan, pingTurn.plan pingMachine = .ok plan ∧
            IsContent plan.files pingTurn.writer "/p" (pingTurn.placeOf "src/apis/http.ts") bytes)) ∨
      r.MayCopyTo pingTurn.writer "/p" (pingTurn.placeOf "src/apis/http.ts")) := by
  have top : IsRoot "/p" :=
    ⟨by decide, by decide, kept_of_notMem (by decide), by unfold Fits; decide⟩
  have fresh : emptyProject.IsFresh "/p" :=
    ⟨Disk.isTree_empty, Writer.storedAt_of_names (by simp [emptyProject]), fun _ => rfl⟩
  have on : pingTurn.IsOn "/p" := by
    refine ⟨rfl, ⟨by decide, Json.isReadable_of_plain (isPlain_of_all (by decide))⟩, ?_⟩
    constructor <;> exact kept_of_notMem (by decide)
  have conflicts := result_pingTurn
  cases run : pingTurn.result pingMachine with
  | error e =>
    rw [run] at conflicts
    cases conflicts
  | ok r =>
    rw [run] at conflicts
    have conflicts : r.conflicts = ["src/apis/http.ts"] := Option.some.inj conflicts
    have conflict : "src/apis/http.ts" ∈ r.conflicts := by simp [conflicts]
    exact ⟨r, rfl, conflict, conflict_has_cause top fresh history_ping on run conflict⟩

end ClientGen
