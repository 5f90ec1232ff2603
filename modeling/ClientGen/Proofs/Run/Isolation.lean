import ClientGen.Proofs.Plan.Reports
import ClientGen.Proofs.Run.Conflicts
import ClientGen.Proofs.Specification.Documents
import ClientGen.Run

/-!
# Isolated failures

A run over several specifications that does not stop at the first failure comes to one result for each
of them, in order, unless a failure is none of one specification. A specification that fails makes no
difference to those behind it: their results are as if its turn was left out. Only if its document was
fetched and then could not be planned, the text of the document may be left in the cache of fetched texts.
-/

/-! ## Runs that do not see a difference

If neither the services of a machine nor loading a file see the difference between related states, runs
do not see it. What is reported before makes no difference to them either.
-/

namespace ClientGen

open Api Machine Output Specification Template

/-! ### Turns -/

/-- What is noted of a specification that failed. -/
def SpecResult.failed (spec : EffectiveSpec) (e : Failure) : SpecResult :=
  { name := spec.name, error := some e.message }

section Turns

variable {m : Type → Type} [Monad m] [LawfulMonad m] [Machine m] {config : Config}
  {templates : Templates} {options : RunOptions}

/-- The turn of a specification in a run over several. -/
def turn (config : Config) (templates : Templates) (options : RunOptions) (spec : EffectiveSpec) :
    Work (StateT FileCache m) Failure SpecResult := do
  report .info ("Generating " ++ spec.name ++ " from " ++ spec.path)
  match ← attempt (runSpec config templates options spec) with
  | .ok result => return result
  | .error e =>
    if !e.isOfOneSpec || options.failFast then throw e
    report .error ("Spec " ++ spec.name ++ " failed: " ++ e.message)
    return .failed spec e

lemma runSpecs_cons (spec : EffectiveSpec) (rest : List EffectiveSpec) :
    (runSpecs config templates options (spec :: rest) : Work (StateT FileCache m) _ _) = do
      let r ← turn config templates options spec
      return r :: (← runSpecs config templates options rest) := by
  rw [runSpecs, turn, bind_assoc]
  refine congrArg _ (funext fun _ => ?_)
  rw [bind_assoc]
  refine congrArg _ (funext fun r => ?_)
  cases r with
  | ok r => simp only [pure_bind]
  | error e =>
    dsimp only
    split <;> simp only [pure_bind, bind_assoc, SpecResult.failed]

/-- The turns of some specifications come after those before. -/
lemma runSpecs_append (before rest : List EffectiveSpec) :
    (runSpecs config templates options (before ++ rest) : Work (StateT FileCache m) _ _) = do
      let rs ← runSpecs config templates options before
      return rs ++ (← runSpecs config templates options rest) := by
  induction before with
  | nil => simp [runSpecs]
  | cons spec before ih => simp [runSpecs_cons, ih]

end Turns

/-! ### Runs -/

section Runs

variable {R : FileCache × MachineState → FileCache × MachineState → Prop} (h : AreBlind R)
  (file : ∀ path, IsBlind R (loadFile path)) (config : Config) (templates : Templates)
  (options : RunOptions)

include h file

lemma isBlind_load (source : String) (cache : Option AddressCache) (base : Option String) :
    IsBlind R (load source cache base) := by
  unfold load
  split
  · exact (mirrors_loadAddress _ _).isBlind h
  · split <;> exact file _

lemma isBlind_planSpec (spec : EffectiveSpec) :
    IsBlind R (planSpec config templates options spec) :=
  (isBlind_load h file _ _ _).bind fun document =>
    (isBlind_ofReporting ((isLogFree_ofDocument document _).adapt _)).bind fun description =>
      (h .here).bind fun _ => isBlind_ofReporting ((isLogFree_planOf description _ _).adapt _)

lemma isBlind_runSpec (spec : EffectiveSpec) :
    IsBlind R (runSpec config templates options spec) := by
  refine (isBlind_planSpec h file config templates options spec).bind fun plan =>
    (((Writer.mirrors_open _ _).isBlind h).adapt _).bind fun writer =>
      (((mirrors_writeFiles _ _ _).isBlind h).adapt _).bind fun written =>
        (((Writer.mirrors_saveManifest _).isBlind h).adapt _).bind fun _ => ?_
  dsimp only
  split
  · exact (((mirrors_formatWritten _ _).isBlind h).adapt _).bind fun _ => isBlind_pure _
  · exact isBlind_pure _

lemma isBlind_turn (spec : EffectiveSpec) : IsBlind R (turn config templates options spec) := by
  refine (isBlind_report _ _).bind fun _ =>
    (isBlind_runSpec h file config templates options spec).attempt.bind fun r => ?_
  split
  · exact isBlind_pure _
  · split
    · exact (isBlind_throw _).bind fun _ => (isBlind_report _ _).bind fun _ => isBlind_pure _
    · exact (isBlind_report _ _).bind fun _ => isBlind_pure _

lemma isBlind_runSpecs : ∀ specs : List EffectiveSpec,
    IsBlind R (runSpecs config templates options specs)
  | [] => isBlind_pure _
  | spec :: rest => by
    rw [runSpecs_cons]
    exact (isBlind_turn h file config templates options spec).bind fun _ =>
      (isBlind_runSpecs rest).bind fun _ => isBlind_pure _

end Runs

end ClientGen

/-! ## Runs that fail in part -/

namespace ClientGen

open Api Machine Output Specification Template

variable {config : Config} {templates : Templates} {options : RunOptions} {spec : EffectiveSpec}
  {c c' : FileCache} {s s' : MachineState} {ε α β : Type}

/-! ### Results behind other messages -/

section Results

variable {x : Work (StateT FileCache (StateM MachineState)) ε α}
  {f : α → Work (StateT FileCache (StateM MachineState)) ε β}

lemma onBoth_eq (x : Work (StateT FileCache (StateM MachineState)) ε α) (c : FileCache)
    (s : MachineState) : onBoth x c s = ((comes x [] (c, s)).1.1, (comes x [] (c, s)).2) := rfl

/-- Blind work leaves a cache that is like itself. -/
lemma IsBlind.alike (h : ∀ room, IsBlind (AreAlike room) x) (told : IsTold c s) :
    AreAlike c.capacity (onBoth x c s).2 (onBoth x c s).2 :=
  (h _ [] [] _ _ told.alike).2

lemma IsBlind.onBoth_congr {room : Nat} (h : IsBlind (AreAlike room) x)
    (alike : AreAlike room (c, s) (c', s')) : (onBoth x c s).1 = (onBoth x c' s').1 :=
  (h [] [] _ _ alike).1

/-- The result of blind work comes from the results of its parts. -/
lemma IsBlind.onBoth_bind (hx : ∀ room, IsBlind (AreAlike room) x)
    (hf : ∀ room a, IsBlind (AreAlike room) (f a)) (told : IsTold c s) :
    (onBoth (x >>= f) c s).1 = match onBoth x c s with
      | (.ok a, c', s') => (onBoth (f a) c' s').1
      | (.error e, _, _) => .error e := by
  have alike := IsBlind.alike hx told
  rw [onBoth_eq, onBoth_eq] at *
  rw [comes_bind]
  revert alike
  rcases comes x [] (c, s) with ⟨⟨_ | a, log⟩, c', s'⟩
  · exact fun _ => rfl
  · exact fun alike => (hf _ a log [] _ _ alike).1

lemma onBoth_map (g : α → β) : (onBoth (x >>= fun a => pure (g a)) c s).1 =
    (onBoth x c s).1.map g := by
  rw [onBoth_eq, onBoth_eq, comes_bind]
  rcases comes x [] (c, s) with ⟨⟨_ | _, _⟩, _⟩ <;> rfl

end Results

lemma isBlind_turns (config : Config) (templates : Templates) (options : RunOptions)
    (specs : List EffectiveSpec) (room : Nat) :
    IsBlind (AreAlike room) (runSpecs config templates options specs) :=
  isBlind_runSpecs areBlind_alike isBlind_loadFile config templates options specs

/-! ### Results of turns -/

/-- What is noted of a specification: what came of it, or its failure. -/
inductive SpecResult.IsOf (spec : EffectiveSpec) : SpecResult → Prop
  | done {r : SpecResult} : r.name = spec.name → r.error = none → IsOf spec r
  | failed {e : Failure} : e.isOfOneSpec = true → IsOf spec (.failed spec e)

/-- Files are noted under the same name, and writing them notes no error. -/
lemma names_writeFiles : ∀ (files : List GeneratedFile) (w : Writer) (r : SpecResult)
    (s : MachineState), EndsBeside (writeFiles w r files : Work (StateT FileCache _) _ _) s
      (fun x _ => x.2.name = r.name ∧ x.2.error = r.error) fun _ _ => True
  | [], _, _, _ => endsBeside_pure ⟨rfl, rfl⟩
  | file :: rest, w, r, s => by
    rw [writeFiles]
    refine .bind (EndsBeside.trivial.imp (fun x s' _ => ?_) fun _ _ => id)
    obtain ⟨status, w⟩ := x
    have rest := names_writeFiles rest w (r.note file.path status) s'
    cases status <;> exact rest

/-- What fails behind the plan is no failure of one specification. -/
lemma EndsBeside.ofTextError {x : Work (StateT FileCache (StateM MachineState)) TextError α}
    {Q : α → MachineState → Prop} (h : EndsBeside x s Q fun _ _ => True) :
    EndsBeside (x.adapt Failure.ofTextError) s Q fun e _ => e.isOfOneSpec = false :=
  .adapt (h.imp (fun _ _ => id) fun e _ _ => by cases e <;> rfl)

/-- What a run does by the plan of a specification. -/
def carryOut (config : Config) (options : RunOptions) (spec : EffectiveSpec) (plan : Plan) :
    Work (StateT FileCache (StateM MachineState)) Failure SpecResult := do
  let writer ← (Writer.open_ config.base options.write).adapt Failure.ofTextError
  let start : SpecResult := { name := spec.name, failures := plan.failures }
  let (writer, result) ← (writeFiles writer start plan.files).adapt Failure.ofTextError
  let _ ← writer.saveManifest.adapt Failure.ofTextError
  if options.format && !options.write.dryRun && !result.written.isEmpty then
    (formatWritten config result.written).adapt Failure.ofTextError
  return result

lemma runSpec_eq_carryOut : runSpec config templates options spec =
    planSpec config templates options spec >>= carryOut config options spec := rfl

/-- What is planned comes to a result under the name of the specification, or to a failure that is none
of one specification. -/
lemma isOf_carryOut (plan : Plan) : EndsBeside (carryOut config options spec plan) s
    (fun r _ => r.IsOf spec) fun e _ => e.isOfOneSpec = false := by
  refine .bind (EndsBeside.trivial.ofTextError.imp (fun writer s₁ _ => ?_) fun _ _ => id)
  refine .bind ((names_writeFiles _ _ _ _).ofTextError.imp ?_ fun _ _ => id)
  rintro ⟨writer, result⟩ s₂ ⟨name, error⟩
  refine .bind (EndsBeside.trivial.ofTextError.imp (fun _ s₃ _ => ?_) fun _ _ => id)
  dsimp only
  split
  · exact .bind (EndsBeside.trivial.ofTextError.imp (fun _ _ _ => endsBeside_pure (.done name error))
      fun _ _ => id)
  · exact endsBeside_pure (.done name error)

lemma isOf_runSpec : EndsBeside (runSpec config templates options spec) s
    (fun r _ => r.IsOf spec) fun _ _ => True := by
  rw [runSpec_eq_carryOut]
  exact .bind (EndsBeside.trivial.imp
    (fun plan s' _ => (isOf_carryOut plan).imp (fun _ _ => id) fun _ _ _ => trivial) fun _ _ => id)

lemma isOf_turn (goesOn : options.failFast = false) :
    EndsBeside (turn config templates options spec) s (fun r _ => r.IsOf spec)
      fun e _ => e.isOfOneSpec = false := by
  refine .bind (endsBeside_report (.bind (.attempt (isOf_runSpec.imp (fun r s' isOf => ?_)
    fun e s' _ => ?_))))
  · exact endsBeside_pure isOf
  · cases ofOne : e.isOfOneSpec
    · dsimp only
      rw [ofOne]
      exact .bind (endsBeside_throw ofOne)
    · dsimp only
      rw [goesOn, ofOne]
      exact .bind (endsBeside_report (endsBeside_pure (.failed ofOne)))

/-- A run comes to one result for each specification, in order, or to a failure that is none of one. -/
lemma isOf_runSpecs (goesOn : options.failFast = false) : ∀ (specs : List EffectiveSpec)
    (s : MachineState), EndsBeside (runSpecs config templates options specs) s
      (fun rs _ => List.Forall₂ (fun spec r => r.IsOf spec) specs rs) fun e _ => e.isOfOneSpec = false
  | [], _ => endsBeside_pure .nil
  | spec :: rest, s => by
    rw [runSpecs_cons]
    exact .bind ((isOf_turn goesOn).imp (fun r s' isOf => .bind ((isOf_runSpecs goesOn rest s').imp
      (fun rs _ later => endsBeside_pure (.cons isOf later)) fun _ _ => id)) fun _ _ => id)

/-- What a turn comes to, by what its specification does behind the message at its start. -/
lemma comes_turn (log : Log) (p : FileCache × MachineState) :
    comes (turn config templates options spec) log p =
      match comes (runSpec config templates options spec)
        (log ++ [⟨.info, "Generating " ++ spec.name ++ " from " ++ spec.path⟩]) p with
      | ((.ok r, log'), q) => ((.ok r, log'), q)
      | ((.error e, log'), q) =>
        if !e.isOfOneSpec || options.failFast then ((.error e, log'), q)
        else ((.ok (.failed spec e),
          log' ++ [⟨.error, "Spec " ++ spec.name ++ " failed: " ++ e.message⟩]), q) := by
  rw [turn, comes_bind, comes_report]
  dsimp only
  rw [comes_bind, comes_attempt]
  rcases comes (runSpec config templates options spec) _ p with ⟨⟨e | r, _⟩, _⟩
  · dsimp only
    split <;> rfl
  · rfl

/-- A run for one specification is its turn. -/
lemma onBoth_runSpecs_one : (onBoth (runSpecs config templates options [spec]) c s).1 =
    (onBoth (turn config templates options spec) c s).1.map ([·]) := by
  have alone : (runSpecs config templates options [spec] :
      Work (StateT FileCache (StateM MachineState)) Failure _) =
      turn config templates options spec >>= fun r => pure [r] := by
    rw [runSpecs_cons, runSpecs]
    simp only [pure_bind]
  rw [alone, onBoth_map]

/-! ### What a failure leaves -/

/-- The document of a specification, as a run loads it. -/
def documentOf (config : Config) (options : RunOptions) (spec : EffectiveSpec) :
    Work (StateT FileCache (StateM MachineState)) Failure Document.Value :=
  let cache : AddressCache := { directory := Path.below config.base ({} : AddressCache).directory }
  load spec.path (if options.useCache then some cache else none) (some config.base)

/-- The text of a specification that was found at an address is kept. -/
structure KeepsText (config : Config) (options : RunOptions) (spec : EffectiveSpec)
    (c : FileCache) (s s' : MachineState) : Prop where
  address : isAddress spec.path = true
  kept : options.useCache = true
  loaded : ∃ v, (onBoth (documentOf config options spec) c s).1 = .ok v
  fetches : Fetches s s'

/-- A specification that cannot be planned leaves nothing but the text of its document. -/
lemma ends_planSpec (tree : s.disk.IsTree) (c : FileCache) :
    EndsAt (planSpec config templates options spec) c s (fun _ _ => True)
      fun e s' => e.isOfOneSpec = true → s' = s ∨ KeepsText config options spec c s s' := by
  refine .bind (((ends_load tree).endsAt c).and_result.imp ?_ fun e s' fails ofOne =>
    .inl (fails.2 ofOne))
  rintro v s' ⟨loaded, loads⟩
  -- Neither reading the document as a description nor planning does anything to the machine.
  have left : s' = s ∨ KeepsText config options spec c s s' := by
    refine loads.imp_right fun ⟨⟨address, cached⟩, fetches⟩ => ⟨address, ?_, ⟨v, loaded⟩, fetches⟩
    split at cached
    · assumption
    · cases cached
  refine .bind (.adapt (x := ofReporting _) (endsBeside_ofReporting fun log => ?_))
  refine Meets.trivial.imp (fun description _ _ => ?_) fun _ _ _ _ => left
  refine .bind (endsBeside_asked fun _ => ?_)
  refine .adapt (x := ofReporting _) (endsBeside_ofReporting fun log => ?_)
  exact Meets.trivial.imp (fun _ _ _ => trivial) fun _ _ _ _ => left

lemma ends_runSpec (tree : s.disk.IsTree) (c : FileCache) :
    EndsAt (runSpec config templates options spec) c s (fun _ _ => True)
      fun e s' => e.isOfOneSpec = true → s' = s ∨ KeepsText config options spec c s s' := by
  rw [runSpec_eq_carryOut]
  refine .bind ((ends_planSpec tree c).imp (fun plan s' _ => ?_) fun _ _ => id)
  refine (isOf_carryOut plan).imp (fun _ _ _ => trivial) fun e s' none ofOne => ?_
  rw [none] at ofOne
  cases ofOne

/-! ### A turn that is left out -/

/-- A failing turn in a run: the specifications before it came to results, and others come after it. -/
structure FailedTurn (config : Config) (templates : Templates) (options : RunOptions) (c : FileCache)
    (s : MachineState) where
  before : List EffectiveSpec
  spec : EffectiveSpec
  after : List EffectiveSpec
  results : List SpecResult
  failure : Failure
  /-- The cache and the machine as the turn finds them. -/
  found : FileCache × MachineState
  /-- The cache and the machine as the turn leaves them. -/
  left : FileCache × MachineState
  specs : config.effectiveSpecs = before ++ spec :: after
  begun : onBoth (runSpecs config templates options before) c s = (.ok results, found)
  failed : onBoth (runSpec config templates options spec) found.1 found.2 = (.error failure, left)

namespace FailedTurn

variable (t : FailedTurn config templates options c s)

/-- What the turns behind the failing one come to. -/
def later : Except Failure (List SpecResult) :=
  (onBoth (runSpecs config templates options t.after) t.left.1 t.left.2).1

/-- What the turns behind the failing one come to, if it is left out. -/
def laterWithout : Except Failure (List SpecResult) :=
  (onBoth (runSpecs config templates options t.after) t.found.1 t.found.2).1

variable (told : IsTold c s)

include told

lemma alike_found : AreAlike c.capacity t.found t.found := by
  have alike := IsBlind.alike (isBlind_turns config templates options t.before) told
  rwa [t.begun] at alike

/-- The turns before the failing one come to their results whatever comes after them. -/
lemma onBoth_before (rest : List EffectiveSpec) :
    (onBoth (runSpecs config templates options (t.before ++ rest)) c s).1 =
      (onBoth (runSpecs config templates options rest) t.found.1 t.found.2).1.map (t.results ++ ·) := by
  have blind := isBlind_turns config templates options
  rw [runSpecs_append, IsBlind.onBoth_bind (blind t.before)
    (fun room _ => (blind rest room).bind fun _ => isBlind_pure _) told, t.begun]
  exact onBoth_map _

/-- The failure leaves a cache that is like itself, and the same machine behind other messages. -/
lemma alike_left (log : Log) :
    (comes (runSpec config templates options t.spec) log t.found).1.1 = .error t.failure ∧
      AreAlike c.capacity t.left (comes (runSpec config templates options t.spec) log t.found).2 := by
  obtain ⟨result, alike⟩ := isBlind_runSpec areBlind_alike isBlind_loadFile config templates options
    t.spec [] log t.found t.found (t.alike_found told)
  have failed := t.failed
  rw [onBoth_eq] at failed
  obtain ⟨failed, left⟩ := Prod.mk.inj failed
  rw [failed] at result
  rw [left] at alike
  exact ⟨result.symm, alike⟩

/-- A failing turn of one specification comes to a note of its failure, and leaves all as the failure
did. -/
lemma onBoth_turn (goesOn : options.failFast = false) (ofOne : t.failure.isOfOneSpec = true) :
    (onBoth (turn config templates options t.spec) t.found.1 t.found.2).1 =
        .ok (.failed t.spec t.failure) ∧
      AreAlike c.capacity t.left
        (onBoth (turn config templates options t.spec) t.found.1 t.found.2).2 := by
  rw [onBoth_eq, comes_turn]
  have left := t.alike_left told
    ([] ++ [⟨.info, "Generating " ++ t.spec.name ++ " from " ++ t.spec.path⟩])
  revert left
  rcases comes (runSpec config templates options t.spec) _ t.found with ⟨⟨_ | _, _⟩, _⟩
  · rintro ⟨⟨⟩, alike⟩
    dsimp only
    rw [goesOn, ofOne]
    exact ⟨rfl, alike⟩
  · exact fun left => nomatch left.1

/-- The run with the failing turn, by what the turns behind it come to. -/
lemma onBoth_runAll (goesOn : options.failFast = false) (ofOne : t.failure.isOfOneSpec = true) :
    (onBoth (runAll config templates options) c s).1 =
      t.later.map (t.results ++ .failed t.spec t.failure :: ·) := by
  have blind := isBlind_turns config templates options
  have noted := t.onBoth_turn told goesOn ofOne
  rw [runAll, t.specs, t.onBoth_before told, runSpecs_cons, IsBlind.onBoth_bind
    (fun _ => isBlind_turn areBlind_alike isBlind_loadFile config templates options t.spec)
    (fun room _ => (blind t.after room).bind fun _ => isBlind_pure _) (t.alike_found told).left]
  revert noted
  rcases onBoth (turn config templates options t.spec) t.found.1 t.found.2 with ⟨_ | _, c', s'⟩
  · exact fun noted => nomatch noted.1
  · rintro ⟨⟨⟩, alike⟩
    dsimp only
    rw [onBoth_map, ← (blind t.after _).onBoth_congr alike, later]
    cases (onBoth (runSpecs config templates options t.after) t.left.1 t.left.2).1 <;> rfl

/-- If the turn left the machine as it found it, those behind it come to the same. -/
lemma later_eq (same : t.left.2 = t.found.2) : t.later = t.laterWithout := by
  -- The turn may have left its document in the cache, and another one may have made room for it.
  have found := t.alike_found told
  have left := (t.alike_left told []).2
  refine (isBlind_turns config templates options t.after _).onBoth_congr
    ⟨same.symm, left.left, ?_, left.leftRoom, found.leftRoom⟩
  rw [same]
  exact found.left

end FailedTurn

/-- What a turn fails with, its specification does. -/
lemma onBoth_runSpec_of_turn (told : IsTold c s) {e : Failure}
    (h : (onBoth (turn config templates options spec) c s).1 = .error e) :
    (onBoth (runSpec config templates options spec) c s).1 = .error e := by
  -- The message at the start of the turn makes no difference to the failure.
  have same := (isBlind_runSpec areBlind_alike isBlind_loadFile config templates options spec
    ([] ++ [⟨.info, "Generating " ++ spec.name ++ " from " ++ spec.path⟩]) [] _ _ told.alike).1
  rw [onBoth_eq, comes_turn] at h
  rw [onBoth_eq, ← same]
  revert h
  rcases comes (runSpec config templates options spec) _ (c, s) with ⟨⟨e' | r, _⟩, _⟩
  · dsimp only
    split
    · exact id
    · nofun
  · nofun

/-- What a run over several specifications fails with, one of its turns does. -/
lemma exists_failed (told : IsTold c s) {e : Failure} : ∀ {specs : List EffectiveSpec},
    (onBoth (runSpecs config templates options specs) c s).1 = .error e →
      ∃ before spec after results found left, specs = before ++ spec :: after ∧
        onBoth (runSpecs config templates options before) c s = (.ok results, found) ∧
        onBoth (runSpec config templates options spec) found.1 found.2 = (.error e, left) := by
  intro specs
  -- The turns before the failing one start with the cache and the machine that the whole run starts with,
  -- so that they are taken apart from the end.
  induction specs using List.reverseRecOn with
  | nil => nofun
  | append_singleton specs spec ih =>
    intro failed
    have blind := isBlind_turns config templates options
    rw [runSpecs_append, IsBlind.onBoth_bind (blind specs)
      (fun room _ => (blind [spec] room).bind fun _ => isBlind_pure _) told] at failed
    cases begun : onBoth (runSpecs config templates options specs) c s with
    | mk r found =>
      have alike := IsBlind.alike (blind specs) told
      rw [begun] at failed ih alike
      cases r with
      | error e' =>
        obtain ⟨before, spec', after, results, found, left, rfl, rest⟩ := ih failed
        exact ⟨before, spec', after ++ [spec], results, found, left, by simp, rest⟩
      | ok results =>
        refine ⟨specs, spec, [], results, found, _, rfl, begun, Prod.ext ?_ rfl⟩
        dsimp only at failed
        rw [onBoth_map, onBoth_runSpecs_one] at failed
        refine onBoth_runSpec_of_turn alike.left ?_
        revert failed
        rcases (onBoth (turn config templates options spec) found.1 found.2).1 with _ | _
        · rintro ⟨⟩
          rfl
        · nofun

/-- A run over several specifications that goes on behind failures ends with one result for each of them,
in order, or with the failure of a turn that is none of one specification. The turn of a specification
that fails is noted, and makes no difference to the results of those behind it unless the text of its
document is kept, which had to be fetched and could not be planned. -/
theorem runAll_isolates (goesOn : options.failFast = false) (told : IsTold c s) :
    (match (onBoth (runAll config templates options) c s).1 with
      | .ok results => List.Forall₂ (fun spec r => r.IsOf spec) config.effectiveSpecs results
      | .error e => e.isOfOneSpec = false ∧
        ∃ t : FailedTurn config templates options c s, t.failure = e) ∧
    ∀ t : FailedTurn config templates options c s, t.failure.isOfOneSpec = true →
      (onBoth (runAll config templates options) c s).1 =
          t.later.map (t.results ++ .failed t.spec t.failure :: ·) ∧
        (onBoth (runSpecs config templates options (t.before ++ t.after)) c s).1 =
          t.laterWithout.map (t.results ++ ·) ∧
        (t.left.2 = t.found.2 ∧ t.later = t.laterWithout ∨
          KeepsText config options t.spec t.found.1 t.found.2 t.left.2) := by
  refine ⟨?_, fun t ofOne =>
    ⟨t.onBoth_runAll told goesOn ofOne, t.onBoth_before told t.after, ?_⟩⟩
  · have ends : EndsAt (runAll config templates options) c s _ _ :=
      (isOf_runSpecs goesOn config.effectiveSpecs s).endsAt c
    cases run : (onBoth (runAll config templates options) c s).1 with
    | ok results => exact ends.of_ok run
    | error e =>
      obtain ⟨before, spec, after, results, found, left, specs, begun, failed⟩ :=
        exists_failed told run
      exact ⟨ends.of_error run, ⟨before, spec, after, results, e, found, left, specs, begun, failed⟩,
        rfl⟩
  · have left := (ends_runSpec (t.alike_found told).left.tree t.found.1).of_error
      (congrArg Prod.fst t.failed) ofOne
    rw [t.failed] at left
    exact left.imp_left fun same => ⟨same, t.later_eq told same⟩

/-! ### A specification that is no map -/

/-- A project of two specifications, a list and a map. -/
def pairConfig : Config where
  base := "/p"
  specs := [{ name := "list", path := "list.json" }, { name := "map", path := "map.json" }]

def pairMachine : MachineState where
  disk := { entries := [(["p"], .directory), (["p", "list.json"], .file "[]".toUTF8 0),
    (["p", "map.json"], .file "\x7b\x7d".toUTF8 0)] }
  clock := 1

/-- A run that looks what it would write, with empty templates. -/
def pairOptions : RunOptions where
  write := { dryRun := true }

/-- The turn of the list. -/
def pairTurn : FailedTurn pairConfig (fun _ => []) pairOptions {} pairMachine where
  before := []
  spec := pairConfig.complete { name := "list", path := "list.json" }
  after := [pairConfig.complete { name := "map", path := "map.json" }]
  results := []
  failure := .schema (.load .rootNotMap "/p/list.json")
  found := ({}, pairMachine)
  left := ({}, pairMachine)
  specs := rfl
  begun := rfl
  failed := rfl

lemma isTold_pair : IsTold {} pairMachine where
  tree := by
    refine Disk.isTree_of_entries ?_
    simp only [pairMachine, List.forall_mem_cons]
    exact ⟨rfl, rfl, rfl, nofun⟩
  dated := by
    refine isDated_of_entries ?_
    simp only [pairMachine, List.forall_mem_cons]
    refine ⟨nofun, ?_, ?_, nofun⟩
    · rintro _ _ ⟨⟩
      decide
    · rintro _ _ ⟨⟩
      decide
  tells := FileCache.tells_empty 32 pairMachine

lemma names_later_pair : pairTurn.later.toOption.map (·.map (·.name)) = some ["map"] := by
  decide +kernel

/-- The list fails, and the map comes to what it would come to without the list. -/
theorem runAll_isolates_pair : ∃ later, pairTurn.laterWithout = .ok later ∧
    later.map (·.name) = ["map"] ∧
    (onBoth (runAll pairConfig (fun _ => []) pairOptions) {} pairMachine).1 =
      .ok (.failed pairTurn.spec pairTurn.failure :: later) := by
  have goesOn : pairOptions.failFast = false := rfl
  obtain ⟨run, -, left⟩ := (runAll_isolates goesOn isTold_pair).2 pairTurn rfl
  rcases left with ⟨-, same⟩ | kept
  · have names := names_later_pair
    cases later : pairTurn.later with
    | error e =>
      rw [later] at names
      cases names
    | ok rs =>
      rw [later] at names run same
      exact ⟨rs, same.symm, Option.some.inj names, run⟩
  · exact absurd kept.address (by decide)

end ClientGen
