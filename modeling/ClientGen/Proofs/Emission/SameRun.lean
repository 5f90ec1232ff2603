import ClientGen.Emission.Types
import ClientGen.Emission.Validators
import ClientGen.Proofs.Emission.Ground
import ClientGen.Proofs.Graph.Overlap

/-!
# Runs that are the same

Two emissions that come to the same from a workspace on. Schemas are dealt with one after another,
each at most once, and never undone, so what is known of the first workspace because of the schemas
that were dealt with is known of the later ones.
-/

namespace ClientGen.Emission

open Api Enumeration Graph Schema Template TypeScript

variable {α β γ : Type} {w w' w'' : Workspace}

/-- Schemas that have been dealt with stay so, and none is dealt with again. -/
structure Continues (processed processed' : List String) : Prop where
  subset : processed ⊆ processed'
  nodup : processed.Nodup → processed'.Nodup

section Continues

variable {l l' l'' : List String} {s : String}

lemma Continues.refl (l : List String) : Continues l l :=
  ⟨List.Subset.refl l, id⟩

lemma Continues.trans (h : Continues l l') (h' : Continues l' l'') : Continues l l'' :=
  ⟨List.Subset.trans h.subset h'.subset, h'.nodup ∘ h.nodup⟩

/-- A schema may be begun that has not been dealt with. -/
lemma Continues.begin (new : s ∉ l) : Continues l (l ++ [s]) := by
  refine ⟨List.subset_append_left l [s], fun once => ?_⟩
  rw [← List.concat_eq_append]
  exact once.concat new

end Continues

/-- Whatever schema has been dealt with in `w` has been in `w'`, and none of them again. -/
structure Workspace.Before (w w' : Workspace) : Prop where
  types : Continues w.types.processed w'.types.processed
  validators : Continues w.validators.processed w'.validators.processed

lemma Workspace.Before.refl (w : Workspace) : w.Before w :=
  ⟨.refl _, .refl _⟩

lemma Workspace.Before.trans (h : w.Before w') (h' : w'.Before w'') : w.Before w'' :=
  ⟨h.types.trans h'.types, h.validators.trans h'.validators⟩

/-- From `w` on both emissions come to the same. What has been dealt with stays so and is not dealt
with again. -/
structure Same (w : Workspace) (x y : Emit α) : Prop where
  outcome : outcome x w = outcome y w
  before : w.Before (ClientGen.outcome x w).2

namespace Same

variable {x y : Emit α} {f g : α → Emit β}

lemma pure {a : α} : Same w (pure a) (pure a) :=
  ⟨rfl, .refl w⟩

lemma liftM {r : Except EmitError α} : Same w (liftM r) (liftM r) := by
  cases r <;> exact ⟨rfl, .refl w⟩

lemma modify_bind {s : Workspace → Workspace} {f g : Unit → Emit β} (h : w.Before (s w))
    (hf : Same (s w) (f ()) (g ())) : Same w (modify s >>= f) (modify s >>= g) :=
  ⟨hf.outcome, h.trans hf.before⟩

lemma modify {s : Workspace → Workspace} (h : w.Before (s w)) : Same w (modify s) (modify s) :=
  ⟨rfl, h⟩

lemma modifyGet {s : Workspace → α × Workspace} (h : w.Before (s w).2) :
    Same w (modifyGet s) (modifyGet s) :=
  ⟨rfl, h⟩

lemma throw {e : EmitError} : Same w (throw e : Emit α) (throw e) :=
  ⟨rfl, .refl w⟩

lemma get_bind {s t : Workspace → Emit β} (h : Same w (s w) (t w)) :
    Same w (get >>= s) (get >>= t) :=
  ⟨h.outcome, h.before⟩

lemma bind (hx : Same w x y) (hf : ∀ a w', w.Before w' → Same w' (f a) (g a)) :
    Same w (x >>= f) (y >>= g) := by
  obtain ⟨same, before⟩ := hx
  constructor
  · rw [outcome_bind, outcome_bind, ← same]
    revert before
    rcases ClientGen.outcome x w with ⟨_ | a, w'⟩
    · exact fun _ => rfl
    · exact fun before => (hf a w' before).outcome
  · rw [outcome_bind]
    revert before
    rcases ClientGen.outcome x w with ⟨_ | a, w'⟩
    · exact id
    · exact fun before => before.trans (hf a w' before).before

lemma map {s : α → β} (h : Same w x y) : Same w (s <$> x) (s <$> y) := by
  rw [map_eq_pure_bind, map_eq_pure_bind]
  exact h.bind fun _ _ _ => .pure

lemma ite {p : Prop} [Decidable p] {x' y' : Emit α} (yes : p → Same w x y)
    (no : ¬p → Same w x' y') : Same w (if p then x else x') (if p then y else y') := by
  by_cases h : p
  · rw [if_pos h, if_pos h]
    exact yes h
  · rw [if_neg h, if_neg h]
    exact no h

lemma caught (h : Same w x y) : Same w (caught x) (caught y) := by
  obtain ⟨same, before⟩ := h
  constructor
  · rw [outcome_caught, outcome_caught, same]
  · rw [outcome_caught]
    revert before
    rcases ClientGen.outcome x w with ⟨(_ | _ | _ | _) | _, _⟩ <;> exact id

lemma mapM {s t : γ → Emit β} : ∀ (items : List γ) (w : Workspace),
    (∀ c ∈ items, ∀ w', w.Before w' → Same w' (s c) (t c)) → Same w (items.mapM s) (items.mapM t)
  | [], w, _ => by
    rw [List.mapM_nil, List.mapM_nil]
    exact .pure
  | c :: rest, w, h => by
    rw [List.mapM_cons, List.mapM_cons]
    refine (h c List.mem_cons_self w (.refl w)).bind fun b w' before => ?_
    exact (mapM rest w' fun c' hc' w'' before' => h c' (List.mem_cons_of_mem c hc') w''
      (before.trans before')).bind fun _ _ _ => .pure

lemma orSchemaError_bind {r : Except SchemaError α} (h : ∀ a, r = .ok a → Same w (f a) (g a)) :
    Same w (orSchemaError r >>= f) (orSchemaError r >>= g) := by
  cases r with
  | error e => exact ⟨rfl, .refl w⟩
  | ok a => exact ⟨(h a rfl).outcome, (h a rfl).before⟩

lemma mapM_congr {s t : γ → Emit β} : ∀ {items : List γ}, (∀ c ∈ items, s c = t c) →
    items.mapM s = items.mapM t
  | [], _ => by rw [List.mapM_nil, List.mapM_nil]
  | c :: rest, h => by
    rw [List.mapM_cons, List.mapM_cons, h c List.mem_cons_self,
      mapM_congr fun c' hc' => h c' (List.mem_cons_of_mem c hc')]

/-- Emissions that come to the same from every workspace on are equal. -/
lemma eq (h : ∀ w, Same w x y) : x = y :=
  funext fun w => (h w).outcome

end Same

/-! ### Steps of an emission -/

section Steps

variable {c : Setting} {name parent : String} {property namespace_ : Option String}
  {values : List String}

/-- The setting with another description. -/
abbrev Setting.about (c : Setting) (d : Description) : Setting :=
  { c with description := d }

lemma same_note {level : Level} {text : String} : Same w (note level text) (note level text) :=
  .modify ⟨.refl _, .refl _⟩

lemma same_inlineEnumName {context : Option Context} :
    Same w (inlineEnumName values context) (inlineEnumName values context) := by
  refine .get_bind (.bind (.modifyGet ⟨.refl _, .refl _⟩) fun _ _ _ => ?_)
  exact .ite (fun _ => same_note.bind fun _ _ _ => .pure) fun _ => .pure

/-- The name of a schema is that in every description that has the schema as well. -/
lemma same_typeName {d' : Description} {S : String → Prop} (overlap : Overlap c.description d' S)
    (hs : S name) : Same w (typeName c name) (typeName (c.about d') name) := by
  unfold typeName
  rw [overlap.schema_eq hs]
  refine .bind .liftM fun n _ _ => ?_
  cases n with
  | enumeration values notes => exact .modifyGet ⟨.refl _, .refl _⟩
  | _ => exact .pure

lemma same_constName {d' : Description} {S : String → Prop} (overlap : Overlap c.description d' S)
    (hs : S name) : Same w (constName c name) (constName (c.about d') name) :=
  (same_typeName overlap hs).map

/-! ### Types -/

lemma same_declareType {d : TypeDeclaration} : Same w (declareType c d) (declareType c d) :=
  .bind .liftM fun written w _ => .modify ⟨by simp [Continues.refl], .refl _⟩

lemma same_ensureTypeEnum {description : Option String} :
    Same w (ensureTypeEnum c name values description) (ensureTypeEnum c name values description) :=
  .get_bind (.ite (fun _ => .pure) fun _ => same_declareType)

lemma same_commonType : Same w (commonType namespace_ name) (commonType namespace_ name) := by
  cases namespace_ with
  | none => exact .bind (.modify ⟨.refl _, .refl _⟩) fun _ _ _ => .pure
  | some n => exact .pure

lemma same_enumType : Same w (enumType c namespace_ parent property values)
    (enumType c namespace_ parent property values) :=
  .bind same_inlineEnumName fun _ _ _ => .ite (fun _ => same_commonType) fun _ =>
    .bind same_ensureTypeEnum fun _ _ _ => .pure

lemma same_nestedType {d' : Description} {depth : Int} {nullable : Bool} {type type' : Emit TypeExpr}
    (h : Same w type type') : Same w (nestedType c parent depth nullable type)
      (nestedType (c.about d') parent depth nullable type') :=
  .ite (fun _ => .bind same_note fun _ _ _ => .pure) fun _ => h.bind fun _ _ _ => .pure

/-! ### Validators -/

lemma same_declareValidator {d : ValidatorDeclaration} :
    Same w (declareValidator c d) (declareValidator c d) :=
  .bind .liftM fun written w _ => .modify ⟨.refl _, by simp [Continues.refl]⟩

lemma same_ensureValidatorEnum :
    Same w (ensureValidatorEnum c name values) (ensureValidatorEnum c name values) :=
  .get_bind (.ite (fun _ => .pure) fun _ => same_declareValidator)

lemma same_enumValidator :
    Same w (enumValidator c parent property values) (enumValidator c parent property values) :=
  .bind same_inlineEnumName fun _ _ _ => .ite
    (fun _ => .bind (.modify ⟨.refl _, .refl _⟩) fun _ _ _ => .pure)
    fun _ => .bind same_ensureValidatorEnum fun _ _ _ => .pure

lemma same_nestedValidator {d' : Description} {depth : Int} {nullable : Bool}
    {validator validator' : Emit Validator} (h : Same w validator validator') :
    Same w (nestedValidator c parent depth nullable validator)
      (nestedValidator (c.about d') parent depth nullable validator') :=
  .ite (fun _ => .bind same_note fun _ _ _ => .pure) fun _ => h.bind fun _ _ _ => .pure

end Steps

/-!
## Schemas declared one inside the other

To declare a schema is to begin it, to declare what it needs, and to give it up if that fails. What
it needs may be schemas again, one level deeper. Here some levels are written out, and how schemas
are declared that lie deeper is left open. Emission with a budget is the case where those are passed
over.
-/

section Levels

variable (c : Setting)

/-- Begin a schema and declare it, given how the schemas are declared that it needs. -/
def enterType (emit : String → SchemaNode → Emit Unit) (name : String) (node : SchemaNode) :
    Emit Unit := do
  modify fun w => { w with types.processed := w.types.processed ++ [name] }
  match ← caught (declareSchemaType c (referenceType c none emit) name node) with
  | .ok () => return
  | .error e =>
    modify fun w => { w with types.failed := addNew w.types.failed name }
    throw (.schema e)

/-- So many levels of schemas, and `deeper` for those that lie deeper. -/
def unrollTypes (deeper : String → SchemaNode → Emit Unit) : Nat → String → SchemaNode → Emit Unit
  | 0 => deeper
  | levels + 1 => enterType c (unrollTypes deeper levels)

/-- A budget passes over what lies deeper. -/
lemma emitTypeWithin_eq : ∀ budget : Nat,
    emitTypeWithin c budget = unrollTypes c (fun _ _ => return) budget
  | 0 => rfl
  | budget + 1 => by
    funext name node
    rw [emitTypeWithin, emitTypeWithin_eq budget]
    rfl

/-- Begin a schema and declare its validator, given how those of the schemas are declared that it
needs. `path` are the schemas that are being declared. -/
def enterValidator (emit : List String → String → SchemaNode → Emit Unit) (path : List String)
    (name : String) (node : SchemaNode) : Emit Unit := do
  modify fun w => { w with validators.processed := w.validators.processed ++ [name] }
  match ← caught (declareSchemaValidator c
    (referenceValidator c (name :: path) (emit (name :: path))) name node) with
  | .ok () => return
  | .error e =>
    modify fun w => { w with validators.failed := addNew w.validators.failed name }
    throw (.schema e)

/-- So many levels of schemas, and `deeper` for those that lie deeper. -/
def unrollValidators (deeper : List String → String → SchemaNode → Emit Unit) :
    Nat → List String → String → SchemaNode → Emit Unit
  | 0 => deeper
  | levels + 1 => enterValidator c (unrollValidators deeper levels)

/-- A budget passes over what lies deeper. -/
lemma emitValidatorWithin_eq : ∀ budget : Nat,
    emitValidatorWithin c budget = unrollValidators c (fun _ _ _ => return) budget
  | 0 => rfl
  | budget + 1 => by
    funext path name node
    rw [emitValidatorWithin, emitValidatorWithin_eq budget]
    rfl

end Levels

end ClientGen.Emission
