import ClientGen.Emission.Workspace
import Mathlib.Tactic.Common

/-!
# Outcomes

What a computation with a state comes to, and the rules by which an assertion about the outcome of
a composed computation is taken apart into assertions about its parts.
-/

namespace ClientGen

variable {ε σ α β : Type}

/-- The result or the error of a computation, and the state that it leaves. -/
def outcome (x : ExceptT ε (StateT σ Id) α) (s : σ) : Except ε α × σ :=
  x.run.run s

/-- From the state `s` the computation gives a result in a state as `Q` asks, or an error in a state
as `E` asks. -/
def Meets (x : ExceptT ε (StateT σ Id) α) (s : σ) (Q : α → σ → Prop) (E : ε → σ → Prop) : Prop :=
  match outcome x s with
  | (.ok a, s') => Q a s'
  | (.error e, s') => E e s'

section Rules

variable {x : ExceptT ε (StateT σ Id) α} {f : α → ExceptT ε (StateT σ Id) β} {s : σ}
  {Q Q' : α → σ → Prop} {R : β → σ → Prop} {E E' : ε → σ → Prop}

lemma Meets.imp (h : Meets x s Q E) (hQ : ∀ a s', Q a s' → Q' a s')
    (hE : ∀ e s', E e s' → E' e s') : Meets x s Q' E' := by
  unfold Meets at h ⊢
  revert h
  rcases outcome x s with ⟨_ | _, _⟩
  · exact hE _ _
  · exact hQ _ _

lemma Meets.and (h : Meets x s Q E) (h' : Meets x s Q' E') :
    Meets x s (fun a s' => Q a s' ∧ Q' a s') fun e s' => E e s' ∧ E' e s' := by
  unfold Meets at h h' ⊢
  revert h h'
  rcases outcome x s with ⟨_ | _, _⟩ <;> exact And.intro

lemma Meets.trivial : Meets x s (fun _ _ => True) fun _ _ => True := by
  unfold Meets
  split <;> exact True.intro

/-- A computation that has no way to fail gives a result. -/
lemma Meets.exists_ok (h : Meets x s Q fun _ _ => False) :
    ∃ a s', outcome x s = (.ok a, s') ∧ Q a s' := by
  unfold Meets at h
  rcases run : outcome x s with ⟨_ | a, s'⟩
  · rw [run] at h
    exact h.elim
  · rw [run] at h
    exact ⟨a, s', rfl, h⟩

lemma Meets.of_ok (h : Meets x s Q E) {a : α} {s' : σ} (run : outcome x s = (.ok a, s')) :
    Q a s' := by
  rw [Meets, run] at h
  exact h

lemma Meets.of_error (h : Meets x s Q E) {e : ε} {s' : σ} (run : outcome x s = (.error e, s')) :
    E e s' := by
  rw [Meets, run] at h
  exact h

lemma exists_of_isOk (h : (outcome x s).1.isOk = true) :
    ∃ a, outcome x s = (.ok a, (outcome x s).2) := by
  revert h
  rcases outcome x s with ⟨_ | a, s'⟩
  · exact nofun
  · exact fun _ => ⟨a, rfl⟩

lemma exists_of_not_isOk (h : (outcome x s).1.isOk = false) :
    ∃ e, outcome x s = (.error e, (outcome x s).2) := by
  revert h
  rcases outcome x s with ⟨e | _, s'⟩
  · exact fun _ => ⟨e, rfl⟩
  · exact nofun

lemma meets_pure {a : α} : Meets (pure a) s Q E ↔ Q a s := Iff.rfl

lemma meets_throw {e : ε} : Meets (throw e) s Q E ↔ E e s := Iff.rfl

lemma meets_get {T : σ → σ → Prop} : Meets get s T E ↔ T s s := Iff.rfl

lemma meets_modify {g : σ → σ} {T : Unit → σ → Prop} : Meets (modify g) s T E ↔ T () (g s) :=
  Iff.rfl

lemma meets_modifyGet {g : σ → α × σ} : Meets (modifyGet g) s Q E ↔ Q (g s).1 (g s).2 := Iff.rfl

lemma outcome_bind : outcome (x >>= f) s = match outcome x s with
    | (.ok a, s') => outcome (f a) s'
    | (.error e, s') => (.error e, s') := by
  change (match x.run.run s with | (r, s') => (ExceptT.bindCont f r).run s') = _
  rcases run : outcome x s with ⟨_ | _, _⟩
  all_goals
    have run' : x.run.run s = _ := run
    rw [run']
    rfl

lemma meets_bind : Meets (x >>= f) s R E ↔ Meets x s (fun a s' => Meets (f a) s' R E) E := by
  simp only [Meets, outcome_bind]
  rcases outcome x s with ⟨_ | _, _⟩ <;> rfl

lemma outcome_modify_bind {g : σ → σ} {k : PUnit → ExceptT ε (StateT σ Id) β} :
    outcome (modify g >>= k) s = outcome (k ⟨⟩) (g s) := rfl

lemma outcome_get_bind {k : σ → ExceptT ε (StateT σ Id) β} :
    outcome (get >>= k) s = outcome (k s) s := rfl

lemma meets_map {g : α → β} : Meets (g <$> x) s R E ↔ Meets x s (fun a s' => R (g a) s') E := by
  rw [map_eq_pure_bind, meets_bind]
  rfl

lemma meets_liftM {r : Except ε α} :
    Meets (liftM r) s Q E ↔ (∀ a, r = .ok a → Q a s) ∧ ∀ e, r = .error e → E e s := by
  cases r with
  | ok a => exact ⟨fun h => ⟨fun b hb => by cases hb; exact h, nofun⟩, fun h => h.1 a rfl⟩
  | error e => exact ⟨fun h => ⟨nofun, fun e' he => by cases he; exact h⟩, fun h => h.2 e rfl⟩

lemma outcome_tryCatch {handle : ε → ExceptT ε (StateT σ Id) α} :
    outcome (tryCatch x handle) s = match outcome x s with
      | (.ok a, s') => (.ok a, s')
      | (.error e, s') => outcome (handle e) s' := by
  change ((match x.run.run s with
    | (r, s') => (match r with
      | .ok a => (pure (Except.ok a) : StateT σ Id (Except ε α))
      | .error e => (handle e).run).run s')) = _
  rcases run : outcome x s with ⟨_ | _, _⟩
  all_goals
    have run' : x.run.run s = _ := run
    rw [run']
    rfl

lemma meets_outcome : Meets x s (fun a s' => outcome x s = (.ok a, s')) fun _ _ => True := by
  unfold Meets
  split
  · assumption
  · trivial

/-- A composed computation that gives a result has given one on the way. -/
lemma exists_of_bind {b : β} {s' : σ} (run : outcome (x >>= f) s = (.ok b, s')) :
    ∃ a t, outcome x s = (.ok a, t) ∧ outcome (f a) t = (.ok b, s') := by
  have onWay : Meets (x >>= f) s
      (fun b s' => ∃ a t, outcome x s = (.ok a, t) ∧ outcome (f a) t = (.ok b, s'))
      fun _ _ => True :=
    meets_bind.2 (meets_outcome.imp (fun a t ha => meets_outcome.imp
      (fun _ _ hb => ⟨a, t, ha, hb⟩) fun _ _ he => he) fun _ _ he => he)
  exact onWay.of_ok run

/-- What each step of a loop keeps and reaches, the whole loop keeps and reaches. -/
lemma meets_forM {step : α → ExceptT ε (StateT σ Id) PUnit} {holds : σ → Prop}
    (grows : σ → σ → Prop) (reached : α → σ → Prop) (refl : ∀ s, grows s s)
    (trans : ∀ {s t u}, grows s t → grows t u → grows s u)
    (stable : ∀ {a s t}, grows s t → reached a s → reached a t) :
    ∀ (items : List α) (s : σ), holds s →
      (∀ a ∈ items, ∀ s, holds s →
        Meets (step a) s (fun _ t => holds t ∧ grows s t ∧ reached a t) E) →
      Meets (forM items step) s (fun _ t => holds t ∧ grows s t ∧ ∀ a ∈ items, reached a t) E
  | [], s, hs, _ => by
    rw [List.forM_nil]
    exact meets_pure.2 ⟨hs, refl s, by simp⟩
  | a :: rest, s, hs, each => by
    rw [List.forM_cons]
    apply meets_bind.2
    apply (each a (by simp) s hs).imp
    · rintro ⟨⟩ t ⟨ht, grown, here⟩
      apply (meets_forM grows reached refl @trans @stable rest t ht fun b hb =>
        each b (by simp [hb])).imp
      · rintro ⟨⟩ u ⟨hu, grown', there⟩
        exact ⟨hu, trans grown grown', List.forall_mem_cons.2 ⟨stable grown' here, there⟩⟩
      · exact fun _ _ he => he
    · exact fun _ _ he => he

/-- What holds of the result of each step holds of all results. -/
lemma meets_mapM {γ : Type} {g : γ → ExceptT ε (StateT σ Id) β} {P : β → Prop} :
    ∀ (items : List γ) (s : σ), (∀ a ∈ items, ∀ s, Meets (g a) s (fun b _ => P b) E) →
      Meets (items.mapM g) s (fun bs _ => ∀ b ∈ bs, P b) E
  | [], s, _ => by
    rw [List.mapM_nil]
    exact meets_pure.2 (by simp)
  | a :: rest, s, each => by
    rw [List.mapM_cons]
    apply meets_bind.2
    apply (each a (by simp) s).imp
    · intro b t hb
      apply meets_bind.2
      apply (meets_mapM rest t fun a ha => each a (by simp [ha])).imp
      · exact fun bs u hbs => meets_pure.2 (List.forall_mem_cons.2 ⟨hb, hbs⟩)
      · exact fun _ _ he => he
    · exact fun _ _ he => he

end Rules

namespace Emission

/-- What an outcome is when the error of a schema is handed on as a value. -/
def handed : Except EmitError α × σ → Except EmitError (Except SchemaError α) × σ
  | (.ok a, s) => (.ok (.ok a), s)
  | (.error (.schema e), s) => (.ok (.error e), s)
  | (.error e, s) => (.error e, s)

lemma outcome_caught {x : Emit α} {w : Workspace} :
    outcome (caught x) w = handed (outcome x w) := by
  unfold caught
  rw [outcome_tryCatch, map_eq_pure_bind, outcome_bind]
  rcases outcome x w with ⟨(_ | _ | _ | _) | _, _⟩ <;> rfl

/-- An error of a schema is caught and handed on as a value, every other error goes through. -/
lemma meets_caught {x : Emit α} {w : Workspace} {Q : Except SchemaError α → Workspace → Prop}
    {E : EmitError → Workspace → Prop} :
    Meets (caught x) w Q E ↔ Meets x w (fun a w' => Q (.ok a) w') fun e w' =>
      match e with
      | .schema e => Q (.error e) w'
      | e => E e w' := by
  simp only [Meets, outcome_caught]
  rcases outcome x w with ⟨(_ | _ | _ | _) | _, _⟩ <;> rfl

/-- What goes on after an error of a schema has been caught, but fails then, has a result only if
nothing was caught. -/
lemma exists_of_caught {x : Emit α} {g : Except SchemaError α → Emit β} {b : β} {w w' : Workspace}
    (run : outcome (caught x >>= g) w = (.ok b, w'))
    (error : ∀ e u, Meets (g (.error e)) u (fun _ _ => False) fun _ _ => True) :
    ∃ a u, outcome x w = (.ok a, u) ∧ outcome (g (.ok a)) u = (.ok b, w') := by
  obtain ⟨r, u, tried, rest⟩ := exists_of_bind run
  have handed : Meets (caught x) w (fun r u => ∀ a, r = .ok a → outcome x w = (.ok a, u))
      fun _ _ => True := by
    refine meets_caught.2 (meets_outcome.imp ?_ ?_)
    · rintro a u ha _ ⟨⟩
      exact ha
    · rintro (e | e | e | e) u -
      · exact fun _ => nofun
      all_goals trivial
  cases r with
  | ok a => exact ⟨a, u, handed.of_ok tried a rfl, rest⟩
  | error e => exact ((error e u).of_ok rest).elim

end Emission

end ClientGen
