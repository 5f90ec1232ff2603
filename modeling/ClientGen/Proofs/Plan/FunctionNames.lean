import ClientGen.Proofs.Naming.Words
import ClientGen.Proofs.Plan.Faults

/-!
# Names of a module's operations

One function is written for each operation, in the order of the operations, and its name is the base
name of the operation with the number of its occurrence. From that follows when the names of
functions, of hooks and of aliases are distinct.
-/

namespace ClientGen.Emission

open Api Naming

variable {c : Setting} {t : Target} {w : Workspace} {asked : List (String × Nat)} {b : String}
  {ops : List Operation}

/-! ### Names that are given out -/

/-- How often a name has been asked for. -/
def timesAsked (asked : List (String × Nat)) (b : String) : Nat :=
  (asked.lookup b).getD 0

/-- Every name of the table has been asked for. -/
def Counted (asked : List (String × Nat)) : Prop :=
  ∀ b, asked.lookup b ≠ some 0

/-- A name that is asked for gets the number of its occurrence. -/
lemma uniqueName_eq (counted : Counted asked) : uniqueName b asked =
    (numbered (b, timesAsked asked b + 1), setEntry b (timesAsked asked b + 1) asked) := by
  unfold uniqueName timesAsked
  cases h : asked.lookup b with
  | none => rfl
  | some n =>
    have pos : n ≠ 0 := fun hn => counted b (hn ▸ h)
    dsimp only [Option.getD_some]
    rw [numbered_of_two_le (by omega)]

lemma counted_setEntry (counted : Counted asked) {n : Nat} : Counted (setEntry b (n + 1) asked) := by
  intro a
  rw [lookup_setEntry]
  split
  · simp
  · exact counted a

lemma timesAsked_setEntry {n : Nat} :
    timesAsked (setEntry b n asked) = Function.update (timesAsked asked) b n := by
  funext a
  unfold timesAsked
  rw [lookup_setEntry]
  by_cases h : a = b
  · subst h
    rw [Function.update_self, beq_self_eq_true, if_pos rfl, Option.getD_some]
  · rw [Function.update_of_ne h, beq_eq_false_iff_ne.2 h]
    rfl

/-! ### Operations -/

/-- The names of the functions of some operations before collisions are looked at. -/
def baseNames (ops : List Operation) : List String :=
  ops.map fun op => functionName op.method op.path op.operationId

/-- What comes of some operations: one function for each, under the name of its occurrence when
`before` of each name have been asked for before. -/
structure EmittedAll (c : Setting) (t : Target) (before : String → Nat) (ops : List Operation)
    (emitted : List ClientOperation) : Prop where
  operations : emitted.map (·.parts.operation) = ops
  names : emitted.map ClientOperation.functionName =
    (occurrences before (baseNames ops)).map numbered
  written : ∀ o ∈ emitted, o.parts.write c t = .ok o
  filled : ∀ o ∈ emitted, o.parts.Filled

lemma emitOperations_handles {F : Faults c}
    (unwritten : ∀ p e, OperationParts.write p c t = .error e → F.may (.render e)) :
    ∀ {ops : List Operation} {asked : List (String × Nat)} {w : Workspace}, Counted asked →
      (∀ op ∈ ops, F.Admits op) → F.contract.handled.Keeps (emitOperations c t asked ops) w
        fun r _ => EmittedAll c t (timesAsked asked) ops r.1 ∧ r.2 = []
  | [], _, _, _, _ => .pure fun _ => ⟨⟨rfl, rfl, by simp, by simp⟩, rfl⟩
  | op :: rest, asked, w, counted, admits => by
    rw [emitOperations, uniqueName_eq counted]
    dsimp only
    -- No error of a schema comes of an operation, so that there is nothing to skip.
    refine Contract.Keeps.bind (Q := fun r _ => ∃ o : ClientOperation, r = .ok o ∧ o.IsFor c t _ op)
      (.caught ((emitOperation_handles (admits op (by simp)) unwritten).weaken
        fun o _ _ _ h => ⟨o, rfl, h⟩) fun e _ he => absurd rfl (he.2 e)) ?_
    rintro _ w' - ⟨o, rfl, name, operation, filled, written⟩
    refine (emitOperations_handles unwritten (counted_setEntry counted)
      fun op hop => admits op (by simp [hop])).bind fun r w'' _ hrest => ?_
    obtain ⟨hr, none⟩ := hrest
    refine .pure fun _ => ⟨⟨?_, ?_, List.forall_mem_cons.2 ⟨written, hr.written⟩,
      List.forall_mem_cons.2 ⟨filled, hr.filled⟩⟩, ?_⟩
    · change o.parts.operation :: r.1.map _ = _
      rw [operation, hr.operations]
    · change o.parts.functionName :: r.1.map _ = _
      rw [name, hr.names, timesAsked_setEntry]
      rfl
    · change [] ++ r.2 = []
      rw [none, List.append_nil]

lemma counted_nil : Counted [] :=
  fun _ => by simp

/-- Any error may end an emission. -/
def Faults.any (c : Setting) : Faults c where
  may _ := True
  schema _ := trivial
  typeUnwritten _ _ _ := trivial
  validatorUnwritten _ _ _ := trivial
  long _ _ _ _ _ := trivial

/-- Operations are emitted one for one, and none is skipped. -/
lemma emitOperations_emits {ops : List Operation} {w : Workspace} :
    Meets (emitOperations c t [] ops) w
      (fun r _ => EmittedAll c t (timesAsked []) ops r.1 ∧ r.2 = []) fun e _ => ∀ s, e ≠ .schema s := by
  have emitted : (Faults.any c).contract.handled.Keeps (emitOperations c t [] ops) w
      fun r _ => EmittedAll c t (timesAsked []) ops r.1 ∧ r.2 = [] :=
    emitOperations_handles (fun _ _ _ => trivial) counted_nil (fun _ _ _ _ _ _ => trivial)
  exact (emitted trivial).imp (fun r w' h => h.2.2) fun _ _ he => he.1.2

/-! ### Distinct names -/

/-- Base names whose names of types are apart: no two of them give one name of a type, and those are
apart as numbered names. -/
structure TypesApart (bases : List String) : Prop where
  inj : ∀ a ∈ bases, ∀ b ∈ bases, pascalCase a = pascalCase b → a = b
  apart : Apart (bases.map pascalCase)

/-- Names that are made of the names of types of numbered names are distinct exactly if the base
names give different ones. -/
lemma nodup_pascalCase {bases : List String} {f : String → String} (inj : Function.Injective f) :
    ((occurrences (fun _ => 0) bases).map fun o => f (pascalCase (numbered o))).Nodup ↔
      TypesApart bases := by
  have names (o : String × Nat) : pascalCase (numbered o) = numbered (pascalCase o.1, o.2) :=
    pascalCase_numbered o
  have typeNames (h : ∀ a ∈ bases, ∀ b ∈ bases, pascalCase a = pascalCase b → a = b) :
      (occurrences (fun _ => 0) bases).map (fun o => f (pascalCase (numbered o))) =
        ((occurrences (fun _ => 0) (bases.map pascalCase)).map numbered).map f := by
    rw [occurrences_map h fun _ _ => rfl, List.map_map, List.map_map]
    exact List.map_congr_left fun o _ => congrArg f (names o)
  constructor
  · intro nodup
    have distinct : ∀ a ∈ bases, ∀ b ∈ bases, pascalCase a = pascalCase b → a = b := by
      intro a ha b hb same
      have first {x : String} (hx : x ∈ bases) : (x, 1) ∈ occurrences (fun _ => 0) bases :=
        mem_occurrences_zero.2 ⟨Nat.le_refl 1, List.one_le_count_iff.2 hx⟩
      have equal := List.inj_on_of_nodup_map nodup (first ha) (first hb)
        (by rw [numbered_one, numbered_one, same])
      exact congrArg Prod.fst equal
    rw [typeNames distinct, List.nodup_map_iff inj, nodup_numbered] at nodup
    exact ⟨distinct, nodup⟩
  · intro apart
    rw [typeNames apart.inj, List.nodup_map_iff inj, nodup_numbered]
    exact apart.apart

/-- The names of a module's functions are distinct exactly if their base names are apart, and those of
its hooks and aliases exactly if the base names give names of types that are. -/
theorem operationNames_nodup_iff (c : Setting) (t : Target) (ops : List Operation) (w : Workspace) :
    Meets (emitOperations c t [] ops) w
      (fun r _ => r.1.map (·.parts.operation) = ops ∧
        ((r.1.map (·.functionName)).Nodup ↔ Apart (baseNames ops)) ∧
        ((r.1.map (·.hookName)).Nodup ↔ TypesApart (baseNames ops)) ∧
        ((r.1.map (·.alias_.name)).Nodup ↔ TypesApart (baseNames ops)))
      fun e _ => ∀ s, e ≠ .schema s := by
  refine emitOperations_emits.imp ?_ fun _ _ he => he
  rintro r w' ⟨h, -⟩
  have names : r.1.map (·.functionName) =
      (occurrences (fun _ => 0) (baseNames ops)).map numbered := h.names
  -- Hooks and aliases are called by the name of a type with a word before or behind it.
  have typeNames {g : ClientOperation → String} {f : String → String}
      (same : ∀ o ∈ r.1, g o = f (pascalCase o.functionName)) : r.1.map g =
        (occurrences (fun _ => 0) (baseNames ops)).map fun o => f (pascalCase (numbered o)) := by
    calc r.1.map g = (r.1.map (·.functionName)).map fun x => f (pascalCase x) := by
          rw [List.map_map]
          exact List.map_congr_left same
      _ = _ := by
          rw [names, List.map_map]
          rfl
  have behind : Function.Injective fun x : String => "use" ++ x :=
    fun _ _ => (String.append_right_inj "use").1
  have ahead : Function.Injective fun x : String => x ++ "Response" :=
    fun _ _ => (String.append_left_inj "Response").1
  refine ⟨h.operations, by rw [names, nodup_numbered], ?_, ?_⟩
  · rw [typeNames (g := (·.hookName)) (f := ("use" ++ ·)) fun _ _ => rfl, nodup_pascalCase behind]
  · have aliasName (o : ClientOperation) (ho : o ∈ r.1) :
        o.alias_.name = pascalCase o.functionName ++ "Response" := by
      obtain ⟨_, -, ha⟩ := (becomes_of_write (h.written o ho)).alias_
      rw [ha]
      rfl
    rw [typeNames (g := (·.alias_.name)) (f := (· ++ "Response")) aliasName, nodup_pascalCase ahead]

end ClientGen.Emission
