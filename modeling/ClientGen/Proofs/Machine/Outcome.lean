import ClientGen.Machine.Disk
import ClientGen.Machine.Files
import Mathlib.Tactic.Common

/-!
# Work on machines as values

What some work on a machine as a value comes to, and the rules by which an assertion about it is taken
apart. What was reported before makes no difference to the result.
-/

namespace ClientGen

variable {ε ε' α β : Type}

/-- What some work comes to behind the messages of a log: its result or error with the log, and the
machine. -/
def ran (x : Work (StateM MachineState) ε α) (log : Log) (s : MachineState) :
    (Except ε α × Log) × MachineState :=
  (x.run.run log).run s

/-- The result or the error of some work, and the machine after it. -/
def onMachine (x : Work (StateM MachineState) ε α) (s : MachineState) :
    Except ε α × MachineState :=
  ((ran x [] s).1.1, (ran x [] s).2)

/-- On the machine `s` the work ends with a result as `Q` asks, or with an error as `E` asks. -/
structure Ends (x : Work (StateM MachineState) ε α) (s : MachineState)
    (Q : α → MachineState → Prop) (E : ε → MachineState → Prop) : Prop where
  /-- The messages before make no difference. -/
  behind : ∀ log, match ran x log s with
    | ((.ok a, _), s') => Q a s'
    | ((.error e, _), s') => E e s'

section Rules

variable {x : Work (StateM MachineState) ε α} {f : α → Work (StateM MachineState) ε β}
  {s s' : MachineState} {Q Q' : α → MachineState → Prop} {R : β → MachineState → Prop}
  {E E' : ε → MachineState → Prop}

lemma Ends.imp (h : Ends x s Q E) (hQ : ∀ a s', Q a s' → Q' a s')
    (hE : ∀ e s', E e s' → E' e s') : Ends x s Q' E' := by
  refine ⟨fun log => ?_⟩
  have h := h.behind log
  revert h
  rcases ran x log s with ⟨⟨_ | _, _⟩, _⟩
  · exact hE _ _
  · exact hQ _ _

lemma Ends.trivial : Ends x s (fun _ _ => True) fun _ _ => True := by
  refine ⟨fun log => ?_⟩
  split <;> exact True.intro

/-- What work ends as, its result and its machine are. -/
lemma Ends.onMachine (h : Ends x s Q E) :
    match onMachine x s with
    | (.ok a, s') => Q a s'
    | (.error e, s') => E e s' := by
  have h := h.behind []
  unfold ClientGen.onMachine
  revert h
  rcases ran x [] s with ⟨⟨_ | _, _⟩, _⟩ <;> exact id

lemma Ends.of_ok (h : Ends x s Q E) {a : α} (run : ClientGen.onMachine x s = (.ok a, s')) :
    Q a s' := by
  have h := h.onMachine
  rwa [run] at h

lemma Ends.of_error (h : Ends x s Q E) {e : ε} (run : ClientGen.onMachine x s = (.error e, s')) :
    E e s' := by
  have h := h.onMachine
  rwa [run] at h

/-- Work that leaves one machine however it ends, leaves that machine. -/
lemma Ends.snd_onMachine {t : MachineState} (h : Ends x s (fun _ s' => s' = t) fun _ s' => s' = t) :
    (ClientGen.onMachine x s).2 = t := by
  have h := h.onMachine
  revert h
  rcases ClientGen.onMachine x s with ⟨_ | _, _⟩ <;> exact id

/-- Work that ends with one result and one machine ends with these. -/
lemma Ends.onMachine_eq {a : α} {t : MachineState}
    (h : Ends x s (fun b s' => b = a ∧ s' = t) fun _ _ => False) :
    ClientGen.onMachine x s = (.ok a, t) := by
  have h := h.onMachine
  revert h
  rcases ClientGen.onMachine x s with ⟨_ | _, _⟩
  · exact False.elim
  · rintro ⟨rfl, rfl⟩
    rfl

/-- How work ends and the machine behind it are as is known of them. -/
lemma Ends.fst_and_snd {r : Except ε α} {P : MachineState → Prop}
    (h : Ends x s (fun a s' => r = .ok a ∧ P s') fun e s' => r = .error e ∧ P s') :
    (ClientGen.onMachine x s).1 = r ∧ P (ClientGen.onMachine x s).2 := by
  have h := h.onMachine
  revert h
  rcases ClientGen.onMachine x s with ⟨_ | _, _⟩
  · rintro ⟨rfl, after⟩
    exact ⟨rfl, after⟩
  · rintro ⟨rfl, after⟩
    exact ⟨rfl, after⟩

/-- Work that only looks ends with its result on the machine as it is. -/
lemma Ends.exists_ran {r : Except ε α} (h : Ends x s (fun a s' => s' = s ∧ r = .ok a)
    fun e s' => s' = s ∧ r = .error e) (log : Log) : ∃ log', ran x log s = ((r, log'), s) := by
  have h := h.behind log
  revert h
  rcases ran x log s with ⟨⟨_ | _, log'⟩, _⟩
  · rintro ⟨rfl, rfl⟩
    exact ⟨log', rfl⟩
  · rintro ⟨rfl, rfl⟩
    exact ⟨log', rfl⟩

lemma onMachine_eq_of_fst {r : Except ε α} (h : (ClientGen.onMachine x s).1 = r) :
    ClientGen.onMachine x s = (r, (ClientGen.onMachine x s).2) := by
  rw [← h]

lemma ends_pure {a : α} : Ends (pure a) s Q E ↔ Q a s :=
  ⟨fun h => h.behind [], fun h => ⟨fun _ => h⟩⟩

lemma ends_throw {e : ε} : Ends (throw e) s Q E ↔ E e s :=
  ⟨fun h => h.behind [], fun h => ⟨fun _ => h⟩⟩

lemma ends_report {level : Level} {text : String} {T : Unit → MachineState → Prop} :
    Ends (report level text) s T E ↔ T () s :=
  ⟨fun h => h.behind [], fun h => ⟨fun _ => h⟩⟩

lemma ends_asked {y : StateM MachineState α} :
    Ends (Machine.asked y) s Q E ↔ Q (y.run s).1 (y.run s).2 :=
  ⟨fun h => h.behind [], fun h => ⟨fun _ => h⟩⟩

lemma ran_bind (log : Log) : ran (x >>= f) log s = match ran x log s with
    | ((.ok a, log'), s') => ran (f a) log' s'
    | ((.error e, log'), s') => ((.error e, log'), s') := by
  change (match (x.run.run log).run s with
    | ((r, log'), s') => ((ExceptT.bindCont f r).run log').run s') = _
  rcases run : ran x log s with ⟨⟨_ | _, _⟩, _⟩
  all_goals
    have run' : (x.run.run log).run s = _ := run
    rw [run']
    rfl

lemma Ends.bind (h : Ends x s (fun a s' => Ends (f a) s' R E) E) : Ends (x >>= f) s R E := by
  refine ⟨fun log => ?_⟩
  have h := h.behind log
  rw [ran_bind]
  revert h
  rcases ran x log s with ⟨⟨_ | _, log'⟩, _⟩
  · exact id
  · exact fun h => h.behind log'

lemma Ends.adapt {g : ε → ε'} {E : ε' → MachineState → Prop}
    (h : Ends x s Q fun e => E (g e)) : Ends (x.adapt g) s Q E := by
  refine ⟨fun log => ?_⟩
  have h := h.behind log
  have run : ran (x.adapt g) log s = match ran x log s with
      | ((r, log'), s') => ((r.mapError g, log'), s') := rfl
  rw [run]
  revert h
  rcases ran x log s with ⟨⟨_ | _, _⟩, _⟩ <;> exact id

lemma Ends.attempt {T : Except ε α → MachineState → Prop} {E : ε' → MachineState → Prop}
    (h : Ends x s (fun a => T (.ok a)) fun e => T (.error e)) : Ends (attempt x) s T E := by
  refine ⟨fun log => ?_⟩
  have h := h.behind log
  have run : ran (ClientGen.attempt x) log s = match ran x log s with
      | ((r, log'), s') => (((.ok r : Except ε' (Except ε α)), log'), s') := rfl
  rw [run]
  revert h
  rcases ran x log s with ⟨⟨_ | _, _⟩, _⟩ <;> exact id

end Rules

end ClientGen
