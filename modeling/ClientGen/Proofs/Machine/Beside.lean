import ClientGen.Proofs.Machine.Outcome
import ClientGen.Proofs.Machine.Services
import ClientGen.Proofs.Outcome

/-!
# Work beside a state

Runs keep a cache of files as a state of its own. Most of their work takes no notice of it, and comes
to the same on a machine alone.
-/

namespace ClientGen

open Machine Output Specification

variable {σ ε ε' α β : Type}

/-- Work on a machine as a part of work that has a state besides. -/
def lifted (x : Work (StateM MachineState) ε α) : Work (StateT σ (StateM MachineState)) ε α :=
  ExceptT.mk fun log => liftM (x.run.run log)

/-! ### Laws -/

section Laws

variable {x : Work (StateM MachineState) ε α} {f : α → Work (StateM MachineState) ε β}

lemma lifted_bind :
    (lifted (x >>= f) : Work (StateT σ _) ε β) = lifted x >>= fun a => lifted (f a) := by
  funext log c s
  change (match (x.run.run log).run s with
    | ((r, log'), s') =>
      let t := ((ExceptT.bindCont f r).run log').run s'
      ((t.1, c), t.2)) =
    (match (x.run.run log).run s with
    | ((r, log'), s') =>
      (((ExceptT.bindCont (fun a => lifted (f a)) r).run log').run c).run s')
  rcases (x.run.run log).run s with ⟨⟨_ | _, _⟩, _⟩ <;> rfl

/-- Work that is put together is lifted part by part. -/
lemma bind_eq_lifted {x' : Work (StateT σ _) ε α} {f' : α → Work (StateT σ _) ε β}
    (hx : x' = lifted x) (hf : ∀ a, f' a = lifted (f a)) : x' >>= f' = lifted (x >>= f) := by
  rw [lifted_bind, hx]
  exact congrArg _ (funext hf)

lemma adapt_eq_lifted {x' : Work (StateT σ _) ε α} (g : ε → ε') (hx : x' = lifted x) :
    x'.adapt g = lifted (x.adapt g) := by
  rw [hx]
  rfl

lemma attempt_eq_lifted {x' : Work (StateT σ _) ε α} (hx : x' = lifted x) :
    (attempt x' : Work _ ε' _) = lifted (attempt x) := by
  rw [hx]
  rfl

end Laws

/-- Work that is put together from the same services comes to the same. -/
lemma Mirrors.eq_lifted {x : Work (StateT σ _) ε α} {y : Work (StateM MachineState) ε α}
    (h : Mirrors true x y) : x = lifted y := by
  induction h with
  | pure => rfl
  | throw => rfl
  | report => rfl
  | service => rfl
  | bind _ _ ihx ihf => exact bind_eq_lifted ihx ihf
  | adapt g _ ih => exact adapt_eq_lifted g ih
  | attempt _ ih => exact attempt_eq_lifted ih

/-! ### What work beside a state comes to -/

/-- The result or the error of some work, the state, and the machine after it. -/
def onBoth (x : Work (StateT σ (StateM MachineState)) ε α) (c : σ) (s : MachineState) :
    Except ε α × σ × MachineState :=
  let r := ((x.run.run []).run c).run s
  (r.1.1.1, r.1.2, r.2)

/-- On the machine `s`, whatever the state besides, the work ends with a result as `Q` asks, or with an
error as `E` asks. -/
structure EndsBeside (x : Work (StateT σ (StateM MachineState)) ε α) (s : MachineState)
    (Q : α → MachineState → Prop) (E : ε → MachineState → Prop) : Prop where
  behind : ∀ log c, match ((x.run.run log).run c).run s with
    | (((.ok a, _), _), s') => Q a s'
    | (((.error e, _), _), s') => E e s'

/-- With the state `c` besides, on the machine `s`, the work ends with a result as `Q` asks, or with an
error as `E` asks. -/
def EndsAt (x : Work (StateT σ (StateM MachineState)) ε α) (c : σ) (s : MachineState)
    (Q : α → MachineState → Prop) (E : ε → MachineState → Prop) : Prop :=
  match onBoth x c s with
  | (.ok a, _, s') => Q a s'
  | (.error e, _, s') => E e s'

section Rules

variable {x : Work (StateT σ (StateM MachineState)) ε α}
  {f : α → Work (StateT σ (StateM MachineState)) ε β} {s s' : MachineState}
  {Q Q' : α → MachineState → Prop} {R : β → MachineState → Prop} {E E' : ε → MachineState → Prop}

lemma EndsBeside.imp (h : EndsBeside x s Q E) (hQ : ∀ a s', Q a s' → Q' a s')
    (hE : ∀ e s', E e s' → E' e s') : EndsBeside x s Q' E' := by
  refine ⟨fun log c => ?_⟩
  have h := h.behind log c
  revert h
  rcases ((x.run.run log).run c).run s with ⟨⟨⟨_ | _, _⟩, _⟩, _⟩
  · exact hE _ _
  · exact hQ _ _

lemma EndsBeside.trivial : EndsBeside x s (fun _ _ => True) fun _ _ => True := by
  refine ⟨fun log c => ?_⟩
  split <;> exact True.intro

/-- What work ends as whatever the state besides, it ends as with one. -/
lemma EndsBeside.endsAt (h : EndsBeside x s Q E) (c : σ) : EndsAt x c s Q E := by
  have h := h.behind [] c
  unfold EndsAt onBoth
  revert h
  rcases ((x.run.run []).run c).run s with ⟨⟨⟨_ | _, _⟩, _⟩, _⟩ <;> exact id

lemma endsBeside_pure {a : α} (h : Q a s) :
    EndsBeside (pure a : Work (StateT σ (StateM MachineState)) ε α) s Q E :=
  ⟨fun _ _ => h⟩

lemma endsBeside_throw {e : ε} (h : E e s) :
    EndsBeside (throw e : Work (StateT σ (StateM MachineState)) ε α) s Q E :=
  ⟨fun _ _ => h⟩

lemma EndsBeside.bind (h : EndsBeside x s (fun a s' => EndsBeside (f a) s' R E) E) :
    EndsBeside (x >>= f) s R E := by
  refine ⟨fun log c => ?_⟩
  have h := h.behind log c
  change match (match ((x.run.run log).run c).run s with
    | (((r, log'), c'), s') => (((ExceptT.bindCont f r).run log').run c').run s') with
    | (((.ok a, _), _), s') => R a s'
    | (((.error e, _), _), s') => E e s'
  revert h
  rcases ((x.run.run log).run c).run s with ⟨⟨⟨_ | _, log'⟩, c'⟩, _⟩
  · exact id
  · exact fun h => h.behind log' c'

lemma EndsBeside.adapt {g : ε → ε'} {E : ε' → MachineState → Prop}
    (h : EndsBeside x s Q fun e => E (g e)) : EndsBeside (x.adapt g) s Q E := by
  refine ⟨fun log c => ?_⟩
  have h := h.behind log c
  have run : (((x.adapt g).run.run log).run c).run s = match ((x.run.run log).run c).run s with
      | (((r, log'), c'), s') => (((r.mapError g, log'), c'), s') := rfl
  rw [run]
  revert h
  rcases ((x.run.run log).run c).run s with ⟨⟨⟨_ | _, _⟩, _⟩, _⟩ <;> exact id

lemma EndsBeside.attempt {T : Except ε α → MachineState → Prop} {E : ε' → MachineState → Prop}
    (h : EndsBeside x s (fun a => T (.ok a)) fun e => T (.error e)) :
    EndsBeside (attempt x) s T E := by
  refine ⟨fun log c => ?_⟩
  have h := h.behind log c
  have run : (((ClientGen.attempt x : Work _ ε' _).run.run log).run c).run s =
      match ((x.run.run log).run c).run s with
      | (((r, log'), c'), s') => (((.ok r, log'), c'), s') := rfl
  rw [run]
  revert h
  rcases ((x.run.run log).run c).run s with ⟨⟨⟨_ | _, _⟩, _⟩, _⟩ <;> exact id

lemma endsBeside_report {level : Level} {text : String} {T : Unit → MachineState → Prop}
    (h : T () s) : EndsBeside (report level text : Work (StateT σ (StateM MachineState)) ε _) s T E :=
  ⟨fun _ _ => h⟩

lemma Ends.beside {x : Work (StateM MachineState) ε α} (h : Ends x s Q E) :
    EndsBeside (lifted x : Work (StateT σ (StateM MachineState)) ε α) s Q E := by
  refine ⟨fun log c => ?_⟩
  have h := h.behind log
  have run : (((lifted x : Work (StateT σ _) ε α).run.run log).run c).run s =
      match ran x log s with | ((r, log'), s') => (((r, log'), c), s') := rfl
  rw [run]
  revert h
  rcases ran x log s with ⟨⟨_ | _, _⟩, _⟩ <;> exact id

lemma endsBeside_asked {y : StateT σ (StateM MachineState) α}
    (h : ∀ c, Q ((y.run c).run s).1.1 ((y.run c).run s).2) : EndsBeside (asked y) s Q E :=
  ⟨fun _ c => h c⟩

/-- What is only computed leaves the machine as it is. -/
lemma endsBeside_ofReporting {y : Reporting ε α}
    (h : ∀ log, Meets y log (fun a _ => Q a s) fun e _ => E e s) :
    EndsBeside (ofReporting y : Work (StateT σ (StateM MachineState)) ε α) s Q E := by
  refine ⟨fun log c => ?_⟩
  have h := h log
  have run : (((ofReporting y : Work (StateT σ (StateM MachineState)) ε α).run.run log).run c).run s =
      ((outcome y log, c), s) := rfl
  rw [run]
  unfold Meets at h
  revert h
  rcases outcome y log with ⟨_ | _, _⟩ <;> exact id

lemma EndsAt.imp {c : σ} (h : EndsAt x c s Q E) (hQ : ∀ a s', Q a s' → Q' a s')
    (hE : ∀ e s', E e s' → E' e s') : EndsAt x c s Q' E' := by
  unfold EndsAt at h ⊢
  revert h
  rcases onBoth x c s with ⟨_ | _, _, _⟩
  · exact hE _ _
  · exact hQ _ _

/-- The result that the work ends with is its result. -/
lemma EndsAt.and_result {c : σ} (h : EndsAt x c s Q E) :
    EndsAt x c s (fun a s' => (onBoth x c s).1 = .ok a ∧ Q a s') E := by
  unfold EndsAt at h ⊢
  revert h
  rcases onBoth x c s with ⟨_ | _, _, _⟩
  · exact id
  · exact fun h => ⟨rfl, h⟩

lemma EndsAt.of_ok {c : σ} (h : EndsAt x c s Q E) {a : α} (run : (onBoth x c s).1 = .ok a) :
    Q a (onBoth x c s).2.2 := by
  unfold EndsAt at h
  revert h run
  rcases onBoth x c s with ⟨_ | _, _, _⟩
  · exact nofun
  · rintro h ⟨⟩
    exact h

lemma EndsAt.of_error {c : σ} (h : EndsAt x c s Q E) {e : ε} (run : (onBoth x c s).1 = .error e) :
    E e (onBoth x c s).2.2 := by
  unfold EndsAt at h
  revert h run
  rcases onBoth x c s with ⟨_ | _, _, _⟩
  · rintro h ⟨⟩
    exact h
  · exact nofun

/-- Work that starts with what reports nothing and leaves all as it is, comes to the rest. -/
lemma onBoth_bind_eq {c : σ} {a : α}
    (h : ((x.run.run []).run c).run s = (((.ok a, []), c), s)) :
    onBoth (x >>= f) c s = onBoth (f a) c s := by
  have run : onBoth (x >>= f) c s = (match ((x.run.run []).run c).run s with
    | (((r, log'), c'), s') =>
      let t := (((ExceptT.bindCont f r).run log').run c').run s'
      (t.1.1.1, t.1.2, t.2)) := rfl
  rw [run, h]
  rfl

/-- What comes first may depend on the state besides. -/
lemma EndsAt.bind {c : σ} (h : EndsAt x c s (fun a s' => EndsBeside (f a) s' R E) E) :
    EndsAt (x >>= f) c s R E := by
  unfold EndsAt onBoth at h ⊢
  change match (match ((x.run.run []).run c).run s with
    | (((r, log'), c'), s') =>
      let t := (((ExceptT.bindCont f r).run log').run c').run s'
      (t.1.1.1, t.1.2, t.2)) with
    | (.ok b, _, s') => R b s'
    | (.error e, _, s') => E e s'
  revert h
  rcases ((x.run.run []).run c).run s with ⟨⟨⟨_ | a, log'⟩, c'⟩, s'⟩
  · exact id
  · intro h
    have h : EndsBeside (f a) s' R E := h
    have h := h.behind log' c'
    change match (let t := (((f a).run.run log').run c').run s'
      (t.1.1.1, t.1.2, t.2) : Except ε β × σ × MachineState) with
      | (.ok b, _, s') => R b s'
      | (.error e, _, s') => E e s'
    revert h
    rcases (((f a).run.run log').run c').run s' with ⟨⟨⟨_ | _, _⟩, _⟩, _⟩ <;> exact id

end Rules

end ClientGen

/-!
## Work that does not see a difference

Work that comes to one result from related states, and to related states again, whatever was reported
before. If the services of the machine do not see the difference between related states, no work with
files that is put together from them does.
-/

namespace ClientGen

open Machine Output Specification

variable {σ ε ε' α β : Type}

/-! ### Computations that report -/

/-- The result does not depend on what was reported before. -/
def IsLogFree (y : Reporting ε α) : Prop :=
  ∀ log log', (outcome y log).1 = (outcome y log').1

section IsLogFree

variable {y : Reporting ε α} {f : α → Reporting ε β}

lemma isLogFree_pure (a : α) : IsLogFree (pure a : Reporting ε α) :=
  fun _ _ => rfl

lemma isLogFree_throw (e : ε) : IsLogFree (throw e : Reporting ε α) :=
  fun _ _ => rfl

lemma isLogFree_liftM (r : Except ε α) : IsLogFree (liftM r : Reporting ε α) := by
  cases r
  · exact isLogFree_throw _
  · exact isLogFree_pure _

lemma isLogFree_report (level : Level) (text : String) : IsLogFree (report level text : Reporting ε _) :=
  fun _ _ => rfl

lemma IsLogFree.bind (h : IsLogFree y) (hf : ∀ a, IsLogFree (f a)) : IsLogFree (y >>= f) := by
  intro log log'
  have same := h log log'
  rw [outcome_bind, outcome_bind]
  revert same
  rcases outcome y log with ⟨_ | a, _⟩ <;> rcases outcome y log' with ⟨_ | a', _⟩
  · rintro ⟨⟩
    rfl
  · exact nofun
  · exact nofun
  · rintro ⟨⟩
    exact hf a _ _

lemma IsLogFree.map (h : IsLogFree y) (g : α → β) : IsLogFree (g <$> y) := by
  rw [map_eq_pure_bind]
  exact h.bind fun a => isLogFree_pure (g a)

lemma IsLogFree.adapt (h : IsLogFree y) (g : ε → ε') : IsLogFree (y.adapt g) := by
  intro log log'
  have run (log : Log) : outcome (y.adapt g) log =
      ((outcome y log).1.mapError g, (outcome y log).2) := rfl
  rw [run, run, h log log']

lemma isLogFree_mapM {g : α → Reporting ε β} (h : ∀ a, IsLogFree (g a)) :
    ∀ items : List α, IsLogFree (items.mapM g)
  | [] => isLogFree_pure []
  | a :: rest => by
    rw [List.mapM_cons]
    exact (h a).bind fun b => (isLogFree_mapM h rest).bind fun bs => isLogFree_pure (b :: bs)

lemma isLogFree_foldlM {g : β → α → Reporting ε β} (h : ∀ b a, IsLogFree (g b a)) :
    ∀ (items : List α) (b : β), IsLogFree (items.foldlM g b)
  | [], b => isLogFree_pure b
  | a :: rest, b => by
    rw [List.foldlM_cons]
    exact (h b a).bind fun b => isLogFree_foldlM h rest b

end IsLogFree

/-! ### Work beside a state -/

/-- What some work comes to behind the messages of a log: its result with the log, and the states. -/
def comes (x : Work (StateT σ (StateM MachineState)) ε α) (log : Log) (p : σ × MachineState) :
    (Except ε α × Log) × σ × MachineState :=
  let r := ((x.run.run log).run p.1).run p.2
  (r.1.1, r.1.2, r.2)

/-- From related states the work comes to one result, and to related states. -/
def IsBlind (R : σ × MachineState → σ × MachineState → Prop)
    (x : Work (StateT σ (StateM MachineState)) ε α) : Prop :=
  ∀ log log' p p', R p p' →
    (comes x log p).1.1 = (comes x log' p').1.1 ∧ R (comes x log p).2 (comes x log' p').2

section Rules

variable {R : σ × MachineState → σ × MachineState → Prop}
  {x : Work (StateT σ (StateM MachineState)) ε α}
  {f : α → Work (StateT σ (StateM MachineState)) ε β}

lemma comes_bind (log : Log) (p : σ × MachineState) :
    comes (x >>= f) log p = match comes x log p with
      | ((.ok a, log'), p') => comes (f a) log' p'
      | ((.error e, log'), p') => ((.error e, log'), p') := by
  unfold comes
  change (let r := match ((x.run.run log).run p.1).run p.2 with
      | (((r, log'), c'), s') => (((ExceptT.bindCont f r).run log').run c').run s'
    (r.1.1, r.1.2, r.2)) = _
  rcases ((x.run.run log).run p.1).run p.2 with ⟨⟨⟨_ | _, _⟩, _⟩, _⟩ <;> rfl

lemma comes_attempt (log : Log) (p : σ × MachineState) :
    comes (attempt x : Work (StateT σ (StateM MachineState)) ε' _) log p =
      ((.ok (comes x log p).1.1, (comes x log p).1.2), (comes x log p).2) := rfl

lemma comes_report (level : Level) (text : String) (log : Log) (p : σ × MachineState) :
    comes (report level text : Work (StateT σ (StateM MachineState)) ε _) log p =
      ((.ok (), log ++ [⟨level, text⟩]), p) := rfl

lemma comes_lifted (x : Work (StateM MachineState) ε α) (log : Log) (c : σ) (s : MachineState) :
    comes (lifted x) log (c, s) = ((ran x log s).1, c, (ran x log s).2) := rfl

lemma isBlind_pure (a : α) : IsBlind R (pure a : Work (StateT σ (StateM MachineState)) ε α) :=
  fun _ _ _ _ h => ⟨rfl, h⟩

lemma isBlind_throw (e : ε) : IsBlind R (throw e : Work (StateT σ (StateM MachineState)) ε α) :=
  fun _ _ _ _ h => ⟨rfl, h⟩

lemma isBlind_report (level : Level) (text : String) :
    IsBlind R (report level text : Work (StateT σ (StateM MachineState)) ε _) :=
  fun _ _ _ _ h => ⟨rfl, h⟩

lemma isBlind_ofReporting {y : Reporting ε α} (h : IsLogFree y) :
    IsBlind R (ofReporting y : Work (StateT σ (StateM MachineState)) ε α) :=
  fun log log' _ _ related => ⟨h log log', related⟩

lemma IsBlind.bind (h : IsBlind R x) (hf : ∀ a, IsBlind R (f a)) : IsBlind R (x >>= f) := by
  intro log log' p p' related
  have step := h log log' p p' related
  rw [comes_bind, comes_bind]
  revert step
  rcases comes x log p with ⟨⟨_ | a, _⟩, q⟩ <;> rcases comes x log' p' with ⟨⟨_ | a', _⟩, q'⟩
  · rintro ⟨⟨⟩, related⟩
    exact ⟨rfl, related⟩
  · exact fun h => nomatch h.1
  · exact fun h => nomatch h.1
  · rintro ⟨⟨⟩, related⟩
    exact hf a _ _ _ _ related

lemma IsBlind.adapt (h : IsBlind R x) (g : ε → ε') : IsBlind R (x.adapt g) := by
  intro log log' p p' related
  have run (log : Log) (p : σ × MachineState) : comes (x.adapt g) log p =
      (((comes x log p).1.1.mapError g, (comes x log p).1.2), (comes x log p).2) := rfl
  rw [run, run]
  exact ⟨congrArg (Except.mapError g) (h log log' p p' related).1, (h log log' p p' related).2⟩

lemma IsBlind.attempt (h : IsBlind R x) :
    IsBlind R (attempt x : Work (StateT σ (StateM MachineState)) ε' _) := by
  intro log log' p p' related
  rw [comes_attempt, comes_attempt]
  exact ⟨congrArg Except.ok (h log log' p p' related).1, (h log log' p p' related).2⟩

end Rules

/-! ### Services -/

/-- The services of the machine do not see the difference between related states. -/
def AreBlind (R : σ × MachineState → σ × MachineState → Prop) : Prop :=
  ∀ {ε α : Type} {z : StateM MachineState α}, IsService true z →
    IsBlind R (asked (liftM z) : Work (StateT σ (StateM MachineState)) ε α)

/-- Work that is put together from services sees no more than they do. -/
lemma Mirrors.isBlind {R : σ × MachineState → σ × MachineState → Prop} (blind : AreBlind R)
    {x : Work (StateT σ (StateM MachineState)) ε α} {y : Work (StateM MachineState) ε α}
    (h : Mirrors true x y) : IsBlind R x := by
  induction h with
  | pure a => exact isBlind_pure a
  | throw e => exact isBlind_throw e
  | report level text => exact isBlind_report level text
  | service asks => exact blind asks
  | bind _ _ ihx ihf => exact ihx.bind ihf
  | adapt g _ ih => exact ih.adapt g
  | attempt _ ih => exact ih.attempt

end ClientGen
