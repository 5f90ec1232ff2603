import ClientGen.Proofs.Emission.Steps
import ClientGen.Proofs.Enumeration.Names

/-!
# What emission leaves behind

Every declaration of a workspace has been asked for: it is that of a schema that has been begun, of
an enumeration under its name, or of a query. The registry knows whose each name is. No schema is
given up without a reason.
-/

namespace ClientGen.Emission

open Api Enumeration Relation Schema TypeScript

variable {c : Setting} {R : Requests c} {w w' : Workspace} {r r' : Registry}

/-! ### Declarations that have been asked for -/

lemma TypeWanted.later {f f' : DeclarationFile TypeDeclaration} {d : TypeDeclaration} (hle : r ≤ r')
    (hf : FileLater f f') (h : TypeWanted R r f d) : TypeWanted R r' f' d := by
  cases h with
  | schema begun hd => exact .schema (hf.processed begun) (hd.mono hle hf.failed)
  | enumeration asks named => exact .enumeration asks (named.mono hle)
  | query beside => exact .query beside

lemma ValidatorWanted.later {f f' : DeclarationFile ValidatorDeclaration}
    {d : ValidatorDeclaration} (hle : r ≤ r') (hf : FileLater f f')
    (h : ValidatorWanted R r f d) : ValidatorWanted R r' f' d := by
  cases h with
  | schema begun hd => exact .schema (hf.processed begun) (hd.mono hle hf.failed)
  | enumeration asks named => exact .enumeration asks (named.mono hle)
  | query beside => exact .query beside

/-- Every declaration has been asked for, and every name belongs to the values of a question. -/
structure Recorded (R : Requests c) (w : Workspace) : Prop where
  types : ∀ d ∈ w.types.declarations, TypeWanted R w.registry w.types d.declaration
  validators : ∀ d ∈ w.validators.declarations,
    ValidatorWanted R w.registry w.validators d.declaration
  owned : w.registry.Owned R.asks

/-- A directory is begun with the names of those before it. -/
lemma Recorded.fresh {log : Log} (owned : r.Owned R.asks) :
    Recorded R { registry := r, log } where
  types _ h := by simp at h
  validators _ h := by simp at h
  owned := owned

/-- Declarations that stay have been asked for still. -/
lemma Recorded.later (h : Recorded R w) (hl : Later w w')
    (types : w'.types.declarations = w.types.declarations)
    (validators : w'.validators.declarations = w.validators.declarations)
    (owned : w'.registry.Owned R.asks) : Recorded R w' where
  types d hd := (h.types d (types ▸ hd)).later hl.registry hl.types
  validators d hd := (h.validators d (validators ▸ hd)).later hl.registry hl.validators
  owned := owned

lemma Recorded.step (h : Recorded R w) (step : Step R w w') : Recorded R w' := by
  have hl := step.later
  cases step with
  | ask asks => exact h.later hl rfl rfl (h.owned.ask asks).1
  | report | noteTypes | noteValidators | defer | beginType | beginValidator | failType |
    failValidator => exact h.later hl rfl rfl h.owned
  | declareType wanted =>
    refine ⟨fun d hd => ?_, h.validators, h.owned⟩
    rcases DeclarationFile.mem_declarations_add hd with hd | ⟨rfl, -⟩
    · exact (h.types d hd).later hl.registry hl.types
    · exact wanted.later hl.registry hl.types
  | declareValidator wanted =>
    refine ⟨h.types, fun d hd => ?_, h.owned⟩
    rcases DeclarationFile.mem_declarations_add hd with hd | ⟨rfl, -⟩
    · exact (h.validators d hd).later hl.registry hl.validators
    · exact wanted.later hl.registry hl.validators

lemma Recorded.steps (h : Recorded R w) (steps : Steps R w w') : Recorded R w' := by
  induction steps with
  | refl => exact h
  | tail _ step ih => exact ih.step step

/-! ### Names and failures -/

/-- As long as the kinds of keys are apart, places and values agree on their names. -/
lemma coherent_steps (apart : KeysApart R.asks) (h : w.registry.Coherent R.asks)
    (steps : Steps R w w') : w'.registry.Coherent R.asks := by
  induction steps with
  | refl => exact h
  | tail _ step ih =>
    cases step with
    | ask asks => exact ih.ask apart asks
    | _ => exact ih

lemma wellNamed_steps (h : w.registry.WellNamed) (steps : Steps R w w') :
    w'.registry.WellNamed := by
  induction steps with
  | refl => exact h
  | tail _ step ih =>
    cases step with
    | ask _ => exact ih.ask
    | _ => exact ih

/-- No schema has been given up. -/
def Unfailed (w : Workspace) : Prop :=
  w.types.failed = [] ∧ w.validators.failed = []

lemma unfailed_steps (sound : ∀ e, ¬ R.faulty e) (h : Unfailed w) (steps : Steps R w w') :
    Unfailed w' := by
  unfold Unfailed
  induction steps with
  | refl => exact h
  | tail _ step ih =>
    cases step with
    | failType faulty | failValidator faulty => exact absurd faulty (sound _)
    | declareType | declareValidator =>
      simp only [DeclarationFile.failed_add]
      exact ih
    | _ => exact ih

end ClientGen.Emission
