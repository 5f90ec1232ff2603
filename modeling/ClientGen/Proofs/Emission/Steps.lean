import ClientGen.Proofs.Emission.Lowered

/-!
# Steps of emission

What emission can do to a workspace, one step at a time: report, ask the registry, begin a schema or
give it up, and add a declaration. Every emission takes such steps only, whether it gives a result or
ends with an error, so that whatever each step keeps every emission keeps.
-/

namespace ClientGen.Emission

open Api Enumeration Naming Output Relation Schema Template TypeScript

variable {α β : Type} {c : Setting}

/-- What the schemas of a description ask the registry. -/
def SchemasAsk (d : Description) : Questions
  | .schema values s => ∃ notes, d.schema? s = some (.enumeration values notes)
  | .inline values context => ∃ s n e, d.schema? s = some n ∧ e ∈ n.enumerations none ∧
      values = e.2 ∧ context = contextOf s e.1

/-- What may be requested of a workspace: the questions to the registry, the interfaces beside the
schemas by their names, and the errors of schemas. Whatever the schemas of the description ask for
may be requested. -/
structure Requests (c : Setting) where
  asks : Questions
  beside : String → Prop
  faulty : SchemaError → Prop
  schemas : ∀ q, SchemasAsk c.description q → asks q
  broken : ∀ {s n pointer e}, c.description.schema? s = some n → pointer ∈ n.pointers →
    c.description.resolve pointer = .error e → faulty e

lemma Requests.schema (R : Requests c) {s : String} {values : List String} {notes : Notes}
    (h : c.description.schema? s = some (.enumeration values notes)) :
    R.asks (.schema values s) :=
  R.schemas _ ⟨notes, h⟩

lemma Requests.place (R : Requests c) {s : String} {n : SchemaNode}
    {e : Option String × List String} (hs : c.description.schema? s = some n)
    (he : e ∈ n.enumerations none) : R.asks (.inline e.2 (contextOf s e.1)) :=
  R.schemas _ ⟨s, n, e, hs, he, rfl, rfl⟩

/-- The declarations that the type file may be asked for: that of a schema that has been begun, that
of an enumeration inside a schema, and that of a query. -/
inductive TypeWanted (R : Requests c) (r : Registry) (f : DeclarationFile TypeDeclaration) :
    TypeDeclaration → Prop
  | schema {s d} : s ∈ f.processed → DeclaresType c r f.failed s d → TypeWanted R r f d
  | enumeration {q x} : R.asks q → q.Named r x → TypeWanted R r f (.enumeration x q.values none)
  | query {x fields} : R.beside x → TypeWanted R r f (.interface_ x fields none)

/-- The declarations that the validator file may be asked for. -/
inductive ValidatorWanted (R : Requests c) (r : Registry)
    (f : DeclarationFile ValidatorDeclaration) : ValidatorDeclaration → Prop
  | schema {s d} : s ∈ f.processed → DeclaresValidator c r f.failed s d → ValidatorWanted R r f d
  | enumeration {q x} : R.asks q → q.Named r x →
    ValidatorWanted R r f (.enumeration (validatorName x) q.values)
  | query {x fields} : R.beside x →
    ValidatorWanted R r f (.schema (validatorName x) (.object 0 fields) false none)

/-- One step of emission. -/
inductive Step (R : Requests c) : Workspace → Workspace → Prop
  | report {w log} : Step R w { w with log }
  | noteTypes {w u} : Step R w { w with types.usesCommon := u }
  | noteValidators {w u} : Step R w { w with validators.usesCommon := u }
  | defer {w deferredTargets} : Step R w { w with deferredTargets }
  | ask {w q} : R.asks q → Step R w { w with registry := (q.ask w.registry).2 }
  | beginType {w s} : Step R w { w with types.processed := w.types.processed ++ [s] }
  | beginValidator {w s} :
    Step R w { w with validators.processed := w.validators.processed ++ [s] }
  | failType {w s e} : R.faulty e → Step R w { w with types.failed := addNew w.types.failed s }
  | failValidator {w s e} : R.faulty e →
    Step R w { w with validators.failed := addNew w.validators.failed s }
  | declareType {w d} : TypeWanted R w.registry w.types d.declaration →
    Step R w { w with types := w.types.add d }
  | declareValidator {w d} : ValidatorWanted R w.registry w.validators d.declaration →
    Step R w { w with validators := w.validators.add d }

/-- Any number of steps. -/
abbrev Steps (R : Requests c) : Workspace → Workspace → Prop :=
  ReflTransGen (Step R)

variable {R : Requests c} {w w' : Workspace}

/-! ### Later workspaces -/

/-- A file later on has the schemas that were begun and those that failed. -/
structure FileLater {δ : Type} (f f' : DeclarationFile δ) : Prop where
  processed : f.processed ⊆ f'.processed
  failed : f.failed ⊆ f'.failed

/-- A later workspace. -/
structure Later (w w' : Workspace) : Prop where
  registry : w.registry ≤ w'.registry
  types : FileLater w.types w'.types
  validators : FileLater w.validators w'.validators

lemma FileLater.refl {δ : Type} (f : DeclarationFile δ) : FileLater f f :=
  ⟨fun _ h => h, fun _ h => h⟩

lemma FileLater.of_fileGrows {δ : Type} {f f' : DeclarationFile δ} (h : FileGrows f f') :
    FileLater f f' :=
  ⟨h.processed, h.failed⟩

lemma Step.later (h : Step R w w') : Later w w' := by
  cases h with
  | report => exact ⟨le_refl _, .refl _, .refl _⟩
  | noteTypes => exact ⟨le_refl _, ⟨fun _ h => h, fun _ h => h⟩, .refl _⟩
  | noteValidators => exact ⟨le_refl _, .refl _, ⟨fun _ h => h, fun _ h => h⟩⟩
  | defer => exact ⟨le_refl _, .refl _, .refl _⟩
  | ask _ => exact ⟨Registry.le_ask, .refl _, .refl _⟩
  | beginType => exact ⟨le_refl _, .of_fileGrows .start, .refl _⟩
  | beginValidator => exact ⟨le_refl _, .refl _, .of_fileGrows .start⟩
  | failType _ => exact ⟨le_refl _, .of_fileGrows .fail, .refl _⟩
  | failValidator _ => exact ⟨le_refl _, .refl _, .of_fileGrows .fail⟩
  | declareType _ => exact ⟨le_refl _, .of_fileGrows DeclarationFile.grows_add, .refl _⟩
  | declareValidator _ => exact ⟨le_refl _, .refl _, .of_fileGrows DeclarationFile.grows_add⟩

lemma Steps.later (h : Steps R w w') : Later w w' := by
  induction h with
  | refl => exact ⟨le_refl _, .refl _, .refl _⟩
  | tail _ step ih =>
    have hl := step.later
    exact ⟨ih.registry.trans hl.registry,
      ⟨List.Subset.trans ih.types.processed hl.types.processed,
        List.Subset.trans ih.types.failed hl.types.failed⟩,
      ⟨List.Subset.trans ih.validators.processed hl.validators.processed,
        List.Subset.trans ih.validators.failed hl.validators.failed⟩⟩

/-! ### Emissions -/

/-- An emission takes steps however it ends, and a result of it is as `Q` asks. -/
def Requests.Takes (R : Requests c) (x : Emit α) (w : Workspace) (Q : α → Workspace → Prop) : Prop :=
  Meets x w (fun a w' => Steps R w w' ∧ Q a w')
    fun e w' => Steps R w w' ∧ ∀ s, e = .schema s → R.faulty s

/-- An emission takes steps and has a result of whatever kind. -/
abbrev Requests.Steps (R : Requests c) (x : Emit α) (w : Workspace) : Prop :=
  R.Takes x w fun _ _ => True

namespace Requests

variable {x : Emit α} {f : α → Emit β} {Q Q' : α → Workspace → Prop} {S : β → Workspace → Prop}

lemma Takes.weaken (h : R.Takes x w Q) (hQ : ∀ a w', Emission.Steps R w w' → Q a w' → Q' a w') :
    R.Takes x w Q' :=
  h.imp (fun a w' ha => ⟨ha.1, hQ a w' ha.1 ha.2⟩) fun _ _ he => he

lemma Takes.pure {a : α} (h : Q a w) : R.Takes (pure a) w Q :=
  meets_pure.2 ⟨.refl, h⟩

lemma Takes.bind (hx : R.Takes x w Q)
    (hf : ∀ a w', Emission.Steps R w w' → Q a w' → R.Takes (f a) w' S) : R.Takes (x >>= f) w S := by
  refine meets_bind.2 (hx.imp ?_ fun _ _ he => he)
  rintro a w' ⟨steps, ha⟩
  refine (hf a w' steps ha).imp ?_ ?_
  · rintro b w'' ⟨steps', hb⟩
    exact ⟨steps.trans steps', hb⟩
  · rintro e w'' ⟨steps', he⟩
    exact ⟨steps.trans steps', he⟩

lemma Takes.map {g : α → β} (h : R.Takes x w fun a w' => S (g a) w') : R.Takes (g <$> x) w S :=
  meets_map.2 h

lemma Takes.get_bind {f : Workspace → Emit β} (h : R.Takes (f w) w S) :
    R.Takes (get >>= f) w S :=
  meets_bind.2 (meets_get.2 h)

lemma Takes.modify {g : Workspace → Workspace} {T : Unit → Workspace → Prop}
    (step : Step R w (g w)) (h : T () (g w)) : R.Takes (modify g) w T :=
  meets_modify.2 ⟨.single step, h⟩

lemma Takes.note {level : Level} {text : String} : R.Steps (note level text) w :=
  .modify .report trivial

lemma Takes.orSchemaError {r : Except SchemaError α} (ok : ∀ a, r = .ok a → Q a w)
    (error : ∀ e, r = .error e → R.faulty e) : R.Takes (orSchemaError r) w Q := by
  refine meets_liftM.2 ⟨fun a h => ⟨.refl, ok a (Contract.mapError_eq_ok h)⟩, fun e h => ?_⟩
  obtain ⟨e', he, rfl⟩ := Contract.mapError_eq_error h
  refine ⟨.refl, ?_⟩
  rintro _ ⟨⟩
  exact error e' he

lemma Takes.orRenderError {r : Except RenderError α} (ok : ∀ a, r = .ok a → Q a w) :
    R.Takes (orRenderError r) w Q := by
  refine meets_liftM.2 ⟨fun a h => ⟨.refl, ok a (Contract.mapError_eq_ok h)⟩, fun e h => ?_⟩
  obtain ⟨e', -, rfl⟩ := Contract.mapError_eq_error h
  refine ⟨.refl, ?_⟩
  rintro _ ⟨⟩

lemma Takes.writable {v : Validator} : R.Takes (orDigitsFault v.writable) w fun v' _ => v' = v := by
  refine meets_liftM.2 ⟨fun a h => ⟨.refl, eq_of_writable (Contract.mapError_eq_ok h)⟩, fun e h => ?_⟩
  obtain ⟨e', -, rfl⟩ := Contract.mapError_eq_error h
  refine ⟨.refl, ?_⟩
  rintro _ ⟨⟩

lemma Takes.ite {p : Prop} [Decidable p] {y : Emit α} (yes : p → R.Takes x w Q)
    (no : ¬p → R.Takes y w Q) : R.Takes (if p then x else y) w Q := by
  by_cases h : p
  · rw [if_pos h]
    exact yes h
  · rw [if_neg h]
    exact no h

/-- The error of a schema is a reason to give the schema up. -/
lemma Takes.caught {Q : Except SchemaError α → Workspace → Prop}
    (h : R.Takes x w fun a w' => Q (.ok a) w') (error : ∀ e w', R.faulty e → Q (.error e) w') :
    R.Takes (caught x) w Q := by
  refine meets_caught.2 (h.imp (fun a w' ha => ha) ?_)
  rintro (e | e | e | e) w' ⟨steps, he⟩
  · exact ⟨steps, error e w' (he e rfl)⟩
  all_goals
    refine ⟨steps, ?_⟩
    rintro _ ⟨⟩

/-- Items are dealt with one after another. What is known of an earlier result has to hold later. -/
lemma Takes.mapM {γ δ : Type} {g : γ → Emit δ} {T : γ → δ → Workspace → Prop}
    (later : ∀ {a b u v}, Later u v → T a b u → T a b v) :
    ∀ (items : List γ) (w : Workspace),
      (∀ a ∈ items, ∀ w', Emission.Steps R w w' → R.Takes (g a) w' (T a)) →
      R.Takes (items.mapM g) w fun bs w' => List.Forall₂ (fun a b => T a b w') items bs
  | [], w, _ => by
    rw [List.mapM_nil]
    exact .pure .nil
  | a :: rest, w, h => by
    rw [List.mapM_cons]
    refine (h a (by simp) w .refl).bind fun b w' steps hb => ?_
    refine (Takes.mapM (T := T) later rest w' fun a' ha w'' steps' =>
      h a' (by simp [ha]) w'' (steps.trans steps')).bind fun bs w'' steps' hbs => ?_
    exact .pure (.cons (later (Steps.later steps') hb) hbs)

end Requests

/-! ### Names -/

variable {s name parent : String} {property namespace_ : Option String} {values : List String}
  {node : SchemaNode}

/-- Asking the registry is one step. -/
lemma typeName_takes (known : c.description.schema? s = some node) :
    R.Takes (typeName c s) w fun x w' => c.identifier? w'.registry s = some x := by
  unfold typeName
  refine Requests.Takes.bind (Q := fun n w' => n = node ∧ w' = w) (.orSchemaError (fun n hn => ?_)
    fun e he => absurd he (schema_ne_error known)) ?_
  · exact ⟨Option.some.inj ((schema_eq_ok hn).symm.trans known), rfl⟩
  rintro n w' - ⟨rfl, rfl⟩
  split
  · next values notes =>
    exact meets_modifyGet.2 ⟨.single (.ask (R.schema known)),
      (identifier?_enumeration known).trans Registry.lookup?_nameOfSchema⟩
  · next hne =>
    refine .pure (identifier?_of_ne_enumeration known ?_)
    cases n <;> first | rfl | exact absurd rfl (hne _ _)

lemma inlineEnumName_takes (asks : R.asks (.inline values (contextOf parent property))) :
    R.Takes (inlineEnumName values (contextOf parent property)) w fun x w' =>
      EnumNamed w'.registry parent property values x := by
  refine inlineEnumName_meets.imp ?_ fun _ _ h => h.elim
  rintro x w' ⟨rfl, log, rfl⟩
  exact ⟨.tail (.single (.ask asks)) .report, Registry.named_ask⟩

end ClientGen.Emission
