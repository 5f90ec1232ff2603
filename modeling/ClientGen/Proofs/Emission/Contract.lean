import ClientGen.Emission.Validators
import ClientGen.Proofs.Collections
import ClientGen.Proofs.Outcome

/-!
# Contracts of emissions

A contract says what an emission keeps while it works: an invariant of the workspace, a relation
between every workspace and the later ones, and the errors that may end it. An error of a schema can
be caught, so the invariant has to hold behind it as well; nothing goes on after another error.
-/

namespace ClientGen.Emission

variable {α β : Type}

/-- What an emission keeps. Messages are of no concern to it. -/
structure Contract where
  holds : Workspace → Prop
  grows : Workspace → Workspace → Prop
  permits : EmitError → Prop
  grows_refl : ∀ w, grows w w
  grows_trans : ∀ {u v w}, grows u v → grows v w → grows u w
  quiet : ∀ w log, grows w { w with log } ∧ (holds w → holds { w with log })

namespace Contract

variable {K : Contract} {x : Emit α} {f : α → Emit β} {w : Workspace}
  {Q Q' : α → Workspace → Prop} {R : β → Workspace → Prop}

/-- An emission keeps a contract from `w` on, and a result of it is as `Q` asks. -/
def Keeps (K : Contract) (x : Emit α) (w : Workspace) (Q : α → Workspace → Prop) : Prop :=
  K.holds w → Meets x w (fun a w' => K.holds w' ∧ K.grows w w' ∧ Q a w')
    fun e w' => K.permits e ∧ ∀ s, e = .schema s → K.holds w' ∧ K.grows w w'

lemma Keeps.of_holds (h : K.holds w → K.Keeps x w Q) : K.Keeps x w Q :=
  fun hw => h hw hw

lemma Keeps.weaken (h : K.Keeps x w Q)
    (hQ : ∀ a w', K.holds w' → K.grows w w' → Q a w' → Q' a w') : K.Keeps x w Q' :=
  fun hw => (h hw).imp (fun a w' ⟨hw', hg, ha⟩ => ⟨hw', hg, hQ a w' hw' hg ha⟩) fun _ _ he => he

/-- What is known of an emission otherwise shows that it keeps a contract. -/
lemma Keeps.of_meets {T : α → Workspace → Prop} {F : EmitError → Workspace → Prop}
    (h : Meets x w T F) (ok : ∀ a w', K.holds w → T a w' → K.holds w' ∧ K.grows w w' ∧ Q a w')
    (error : ∀ e w', K.holds w → F e w' →
      K.permits e ∧ ∀ s, e = .schema s → K.holds w' ∧ K.grows w w') : K.Keeps x w Q :=
  fun hw => h.imp (fun a w' => ok a w' hw) fun e w' => error e w' hw

lemma Keeps.pure {a : α} (h : K.holds w → Q a w) : K.Keeps (pure a) w Q :=
  fun hw => meets_pure.2 ⟨hw, K.grows_refl w, h hw⟩

lemma Keeps.bind (hx : K.Keeps x w Q)
    (hf : ∀ a w', K.grows w w' → Q a w' → K.Keeps (f a) w' R) : K.Keeps (x >>= f) w R := by
  intro hw
  refine meets_bind.2 ((hx hw).imp ?_ fun _ _ he => he)
  intro a w' ⟨hw', hg, ha⟩
  refine (hf a w' hg ha hw').imp ?_ ?_
  · intro b w'' ⟨hw'', hg', hb⟩
    exact ⟨hw'', K.grows_trans hg hg', hb⟩
  · intro e w'' ⟨he, hs⟩
    refine ⟨he, fun s hes => ?_⟩
    obtain ⟨hw'', hg'⟩ := hs s hes
    exact ⟨hw'', K.grows_trans hg hg'⟩

lemma Keeps.map {g : α → β} (h : K.Keeps x w fun a w' => R (g a) w') : K.Keeps (g <$> x) w R :=
  fun hw => meets_map.2 (h hw)

lemma Keeps.get_bind {f : Workspace → Emit β} (h : K.Keeps (f w) w R) : K.Keeps (get >>= f) w R :=
  fun hw => meets_bind.2 (meets_get.2 (h hw))

lemma Keeps.modify {g : Workspace → Workspace} {T : Unit → Workspace → Prop}
    (h : K.holds w → K.holds (g w) ∧ K.grows w (g w) ∧ T () (g w)) : K.Keeps (modify g) w T :=
  fun hw => meets_modify.2 (h hw)

lemma Keeps.modifyGet {g : Workspace → α × Workspace}
    (h : K.holds w → K.holds (g w).2 ∧ K.grows w (g w).2 ∧ Q (g w).1 (g w).2) :
    K.Keeps (modifyGet g) w Q :=
  fun hw => meets_modifyGet.2 (h hw)

lemma Keeps.note {level : Level} {text : String} {T : Unit → Workspace → Prop}
    (h : ∀ w', K.grows w w' → T () w') : K.Keeps (note level text) w T :=
  Keeps.modify fun hw => ⟨(K.quiet w _).2 hw, (K.quiet w _).1, h _ (K.quiet w _).1⟩

/-- The error of a schema may be thrown wherever the contract permits it. -/
lemma Keeps.throw {e : EmitError} (h : K.permits e) : K.Keeps (throw e) w Q :=
  fun hw => meets_throw.2 ⟨h, fun _ _ => ⟨hw, K.grows_refl w⟩⟩

lemma Keeps.liftM {r : Except EmitError α} (ok : ∀ a, r = .ok a → Q a w)
    (error : ∀ e, r = .error e → K.permits e) : K.Keeps (liftM r) w Q := fun hw =>
  meets_liftM.2 ⟨fun a h => ⟨hw, K.grows_refl w, ok a h⟩,
    fun e h => ⟨error e h, fun _ _ => ⟨hw, K.grows_refl w⟩⟩⟩

lemma mapError_eq_ok {ε ε' : Type} {g : ε → ε'} {r : Except ε α} {a : α}
    (h : r.mapError g = .ok a) : r = .ok a := by
  cases r with
  | ok b => simpa [Except.mapError] using h
  | error e => simp [Except.mapError] at h

lemma mapError_eq_error {ε ε' : Type} {g : ε → ε'} {r : Except ε α} {e : ε'}
    (h : r.mapError g = .error e) : ∃ e', r = .error e' ∧ g e' = e := by
  cases r with
  | ok b => simp [Except.mapError] at h
  | error e' => exact ⟨e', rfl, by simpa [Except.mapError] using h⟩

lemma Keeps.orSchemaError {r : Except SchemaError α} (ok : ∀ a, r = .ok a → Q a w)
    (error : ∀ e, r = .error e → K.permits (.schema e)) : K.Keeps (orSchemaError r) w Q := by
  refine Keeps.liftM (fun a h => ok a (mapError_eq_ok h)) fun e h => ?_
  obtain ⟨e', he, rfl⟩ := mapError_eq_error h
  exact error e' he

lemma Keeps.orRenderError {r : Except Template.RenderError α} (ok : ∀ a, r = .ok a → Q a w)
    (error : ∀ e, r = .error e → K.permits (.render e)) : K.Keeps (orRenderError r) w Q := by
  refine Keeps.liftM (fun a h => ok a (mapError_eq_ok h)) fun e h => ?_
  obtain ⟨e', he, rfl⟩ := mapError_eq_error h
  exact error e' he

lemma Keeps.orDigitsFault {r : Except Number.DigitsFault α} (ok : ∀ a, r = .ok a → Q a w)
    (error : ∀ e, r = .error e → K.permits (.digits e)) : K.Keeps (orDigitsFault r) w Q := by
  refine Keeps.liftM (fun a h => ok a (mapError_eq_ok h)) fun e h => ?_
  obtain ⟨e', he, rfl⟩ := mapError_eq_error h
  exact error e' he

/-- The contract of an emission that ends with no error of a schema. -/
def handled (K : Contract) : Contract :=
  { K with permits := fun e => K.permits e ∧ ∀ s, e ≠ .schema s }

/-- Whoever catches the errors of schemas ends with none. -/
lemma Keeps.handled {Q : Except SchemaError α → Workspace → Prop}
    (h : K.Keeps x w fun a w' => Q (.ok a) w')
    (error : ∀ e w', K.permits (.schema e) → K.holds w' → K.grows w w' → Q (.error e) w') :
    K.handled.Keeps (Emission.caught x) w Q := by
  intro hw
  refine meets_caught.2 ((h hw).imp (fun a w' ha => ha) ?_)
  rintro (e | e | e | e) w' ⟨he, hs⟩
  · obtain ⟨hw', hg⟩ := hs e rfl
    exact ⟨hw', hg, error e w' he hw' hg⟩
  all_goals exact ⟨⟨he, nofun⟩, nofun⟩

lemma Keeps.of_handled (h : K.handled.Keeps x w Q) : K.Keeps x w Q :=
  fun hw => (h hw).imp (fun _ _ ha => ha) fun _ _ he => ⟨he.1.1, he.2⟩

lemma Keeps.caught {Q : Except SchemaError α → Workspace → Prop}
    (h : K.Keeps x w fun a w' => Q (.ok a) w')
    (error : ∀ e w', K.permits (.schema e) → K.holds w' → K.grows w w' → Q (.error e) w') :
    K.Keeps (caught x) w Q :=
  (h.handled error).of_handled

lemma Keeps.ite {p : Prop} [Decidable p] {y : Emit α} (yes : p → K.Keeps x w Q)
    (no : ¬p → K.Keeps y w Q) : K.Keeps (if p then x else y) w Q := by
  by_cases h : p
  · rw [if_pos h]
    exact yes h
  · rw [if_neg h]
    exact no h

/-- Items are dealt with one after another. What is known of an earlier result has to be stable. -/
lemma Keeps.mapM {γ δ : Type} {g : γ → Emit δ} {S : γ → δ → Workspace → Prop}
    (stable : ∀ c d u v, K.grows u v → S c d u → S c d v) :
    ∀ (items : List γ) (w : Workspace),
      (∀ c ∈ items, ∀ w', K.grows w w' → K.Keeps (g c) w' (S c)) →
      K.Keeps (items.mapM g) w fun ds w' => List.Forall₂ (fun c d => S c d w') items ds
  | [], w, _ => by
    rw [List.mapM_nil]
    exact Keeps.pure fun _ => .nil
  | c :: rest, w, h => by
    rw [List.mapM_cons]
    refine (h c (by simp) w (K.grows_refl w)).bind fun d w' hg hd => ?_
    refine (Keeps.mapM stable rest w' fun c' hc' w'' hg' =>
      h c' (by simp [hc']) w'' (K.grows_trans hg hg')).bind fun ds w'' hg' hds => ?_
    exact Keeps.pure fun _ => .cons (stable c d _ _ hg' hd) hds

end Contract

end ClientGen.Emission
