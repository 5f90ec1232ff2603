import ClientGen.Emission.Types
import ClientGen.Proofs.Outcome
import ClientGen.Proofs.Pieces

/-!
# Types for the file and types for others

The type of a schema is written for the file that declares it or for one that goes through a
namespace. Both come to the same, but for the namespace before the names: what the schema needs is
declared inside the file either way, so that the two runs stay alike however far they lead. Only a
type for the file itself notes that the file refers to the shared schemas.
-/

namespace ClientGen.Emission

open Api Enumeration Output Schema Template TypeScript

variable {α β γ δ : Type} {c : Setting} {w w' : Workspace}

/-! ### Runs that are alike -/

/-- Two workspaces that differ at most in whether their type files refer to the shared schemas. -/
structure Workspace.Alike (w w' : Workspace) : Prop where
  registry : w'.registry = w.registry
  processed : w'.types.processed = w.types.processed
  failed : w'.types.failed = w.types.failed
  declarations : w'.types.declarations = w.types.declarations
  validators : w'.validators = w.validators
  deferredTargets : w'.deferredTargets = w.deferredTargets
  log : w'.log = w.log

lemma Workspace.Alike.refl (w : Workspace) : w.Alike w :=
  ⟨rfl, rfl, rfl, rfl, rfl, rfl, rfl⟩

lemma Workspace.Alike.emitted (h : w.Alike w') : w'.types.emitted = w.types.emitted := by
  unfold DeclarationFile.emitted
  rw [h.declarations]

/-- From two workspaces on, both emissions give results as `R` asks or end with the same error, and
leave workspaces that are alike. -/
def RunsAlike (w w' : Workspace) (x : Emit α) (y : Emit β) (R : α → β → Prop) : Prop :=
  match outcome x w, outcome y w' with
  | (.ok a, v), (.ok b, v') => v.Alike v' ∧ R a b
  | (.error e, v), (.error e', v') => v.Alike v' ∧ e' = e
  | _, _ => False

namespace RunsAlike

variable {x : Emit α} {y : Emit β} {f : α → Emit γ} {g : β → Emit δ} {R : α → β → Prop}
  {S : γ → δ → Prop}

lemma pure {a : α} {b : β} (alike : w.Alike w') (h : R a b) :
    RunsAlike w w' (pure a) (pure b) R :=
  ⟨alike, h⟩

lemma throw {e : EmitError} (alike : w.Alike w') : RunsAlike w w' (throw e) (throw e) R :=
  ⟨alike, rfl⟩

lemma liftM {r : Except EmitError α} (alike : w.Alike w') :
    RunsAlike w w' (liftM r) (liftM r) Eq := by
  cases r <;> exact ⟨alike, rfl⟩

lemma modify {s s' : Workspace → Workspace} (alike : (s w).Alike (s' w')) :
    RunsAlike w w' (modify s) (modify s') Eq :=
  ⟨alike, rfl⟩

lemma get_bind {s t : Workspace → Emit γ} (h : RunsAlike w w' (s w) (t w') Q) :
    RunsAlike w w' (get >>= s) (get >>= t) Q :=
  h

lemma bind (hx : RunsAlike w w' x y R)
    (hf : ∀ a b v v', v.Alike v' → R a b → RunsAlike v v' (f a) (g b) S) :
    RunsAlike w w' (x >>= f) (y >>= g) S := by
  unfold RunsAlike at hx ⊢
  rw [outcome_bind, outcome_bind]
  revert hx
  rcases outcome x w with ⟨_ | a, v⟩ <;> rcases outcome y w' with ⟨_ | b, v'⟩
  · exact id
  · exact False.elim
  · exact False.elim
  · exact fun hx => hf a b v v' hx.1 hx.2

lemma weaken {S : α → β → Prop} (hx : RunsAlike w w' x y R) (h : ∀ a b, R a b → S a b) :
    RunsAlike w w' x y S := by
  unfold RunsAlike at hx ⊢
  revert hx
  rcases outcome x w with ⟨_ | a, v⟩ <;> rcases outcome y w' with ⟨_ | b, v'⟩
  · exact id
  · exact False.elim
  · exact False.elim
  · exact And.imp_right (h a b)

lemma map {s : α → γ} {t : β → δ} (hx : RunsAlike w w' x y fun a b => S (s a) (t b)) :
    RunsAlike w w' (s <$> x) (t <$> y) S := by
  rw [map_eq_pure_bind, map_eq_pure_bind]
  exact hx.bind fun _ _ _ _ alike h => .pure alike h

lemma ite {p : Prop} [Decidable p] {x' : Emit α} {y' : Emit β} (yes : p → RunsAlike w w' x y R)
    (no : ¬p → RunsAlike w w' x' y' R) :
    RunsAlike w w' (if p then x else x') (if p then y else y') R := by
  by_cases h : p
  · rw [if_pos h, if_pos h]
    exact yes h
  · rw [if_neg h, if_neg h]
    exact no h

lemma caught {y : Emit α} (hx : RunsAlike w w' x y Eq) :
    RunsAlike w w' (caught x) (caught y) Eq := by
  unfold RunsAlike at hx ⊢
  rw [outcome_caught, outcome_caught]
  revert hx
  rcases outcome x w with ⟨e | a, v⟩ <;> rcases outcome y w' with ⟨e' | b, v'⟩
  · rintro ⟨alike, rfl⟩
    cases e' <;> exact ⟨alike, rfl⟩
  · exact False.elim
  · exact False.elim
  · exact fun hx => ⟨hx.1, congrArg Except.ok hx.2⟩

lemma mapM {s : γ → Emit α} : ∀ (items : List γ) (w w' : Workspace), w.Alike w' →
    (∀ a ∈ items, ∀ v v', v.Alike v' → RunsAlike v v' (s a) (s a) Eq) →
    RunsAlike w w' (items.mapM s) (items.mapM s) Eq
  | [], w, w', alike, _ => by
    rw [List.mapM_nil]
    exact .pure alike rfl
  | a :: rest, w, w', alike, each => by
    rw [List.mapM_cons]
    refine (each a List.mem_cons_self w w' alike).bind fun b b' v v' alike hb => ?_
    refine (mapM rest v v' alike fun a' ha => each a' (List.mem_cons_of_mem a ha)).bind
      fun bs bs' u u' alike hbs => .pure alike ?_
    rw [hb, hbs]

end RunsAlike

/-! ### Steps -/

section Steps

variable {name parent : String} {property a : Option String} {values : List String}

lemma note_alike {level : Level} {text : String} (alike : w.Alike w') :
    RunsAlike w w' (note level text) (note level text) Eq :=
  .modify { alike with log := congrArg (· ++ _) alike.log }

/-- Both ask the same registry. -/
lemma ask_alike {s : Registry → String × Registry} (alike : w.Alike w') :
    RunsAlike w w' (modifyGet fun w => ((s w.registry).1, { w with registry := (s w.registry).2 }))
      (modifyGet fun w => ((s w.registry).1, { w with registry := (s w.registry).2 })) Eq := by
  refine ⟨{ alike with registry := ?_ }, ?_⟩
  · rw [alike.registry]
  · rw [alike.registry]

lemma typeName_alike (alike : w.Alike w') : RunsAlike w w' (typeName c name) (typeName c name) Eq := by
  refine .bind (.liftM alike) fun node _ v v' alike same => ?_
  subst same
  cases node with
  | enumeration values notes => exact ask_alike (s := fun r => r.nameOfSchema values name) alike
  | _ => exact .pure alike rfl

lemma inlineEnumName_alike {context : Option Context} (alike : w.Alike w') :
    RunsAlike w w' (inlineEnumName values context) (inlineEnumName values context) Eq := by
  refine .get_bind ?_
  rw [alike.registry]
  refine .bind (ask_alike (s := fun r => r.nameOf values context) alike) fun x _ v v' alike same => ?_
  subst same
  exact .ite (fun _ => (note_alike alike).bind fun _ _ _ _ alike _ => .pure alike rfl)
    fun _ => .pure alike rfl

lemma add_alike {d : Written TypeDeclaration} (alike : w.Alike w') :
    ({ w with types := w.types.add d } : Workspace).Alike { w' with types := w'.types.add d } := by
  unfold DeclarationFile.add
  rw [alike.emitted]
  split
  · exact { alike with }
  · exact { alike with declarations := congrArg (· ++ [d]) alike.declarations }

lemma declareType_alike {d : TypeDeclaration} (alike : w.Alike w') :
    RunsAlike w w' (declareType c d) (declareType c d) Eq := by
  refine .bind (.liftM alike) fun d' _ v v' alike same => .modify ?_
  subst same
  exact add_alike alike

lemma ensureTypeEnum_alike {description : Option String} (alike : w.Alike w') :
    RunsAlike w w' (ensureTypeEnum c name values description)
      (ensureTypeEnum c name values description) Eq := by
  refine .get_bind ?_
  rw [alike.emitted]
  exact .ite (fun _ => .pure alike rfl) fun _ => declareType_alike alike

/-- Only a type for the file itself notes that the file refers to the shared schemas. -/
lemma commonType_alike (alike : w.Alike w') :
    RunsAlike w w' (commonType none name) (commonType a name) fun t t' => t' = t.behind a := by
  have noted : ({ w with types.usesCommon := true } : Workspace).Alike w' := { alike with }
  cases a with
  | none =>
    have both : ({ w with types.usesCommon := true } : Workspace).Alike
      { w' with types.usesCommon := true } := { noted with }
    exact ⟨both, rfl⟩
  | some n => exact ⟨noted, rfl⟩

lemma enumType_alike (alike : w.Alike w') : RunsAlike w w' (enumType c none parent property values)
    (enumType c a parent property values) fun t t' => t' = t.behind a := by
  refine .bind (inlineEnumName_alike alike) fun x _ v v' alike same => ?_
  subst same
  refine .ite (fun _ => commonType_alike alike) fun _ => ?_
  exact .bind (ensureTypeEnum_alike alike) fun _ _ _ _ alike _ => .pure alike rfl

lemma nestedType_alike {depth : Int} {nullable : Bool} {type type' : Emit TypeExpr}
    (alike : w.Alike w') (h : RunsAlike w w' type type' fun t t' => t' = t.behind a) :
    RunsAlike w w' (nestedType c parent depth nullable type)
      (nestedType c parent depth nullable type') fun t t' => t' = t.behind a := by
  refine .ite (fun _ => .bind (note_alike alike) fun _ _ _ _ alike _ => .pure alike rfl) fun _ => ?_
  refine h.bind fun t t' v v' alike same => .pure alike ?_
  subst same
  cases nullable with
  | true => exact (TypeExpr.behind_withNull a t).symm
  | false => rfl

end Steps

/-! ### Types -/

section Types

variable {name parent : String} {property a : Option String} {references references' : ReferenceTypes}

/-- References come to the same, but for the namespace before the names. -/
def ReferencesAlike (a : Option String) (references references' : ReferenceTypes) : Prop :=
  ∀ pointer notes w w', w.Alike w' →
    RunsAlike w w' (references pointer notes) (references' pointer notes) fun t t' => t' = t.behind a

mutual

lemma typeAt_alike (h : ReferencesAlike a references references') :
    ∀ (property : Option String) (depth : Int) (s : SchemaNode) (w w' : Workspace), w.Alike w' →
      RunsAlike w w' (typeAt c none references parent property depth s)
        (typeAt c a references' parent property depth s) fun t t' => t' = t.behind a
  | property, depth, .primitive kind constraints _, w, w', alike => by
    rw [typeAt, typeAt]
    refine nestedType_alike alike (.pure alike ?_)
    unfold scalarType
    split
    · split <;> rfl
    all_goals rfl
  | property, depth, .enumeration values _, w, w', alike => by
    rw [typeAt, typeAt]
    exact nestedType_alike alike (enumType_alike alike)
  | property, depth, .array items _ _, w, w', alike => by
    rw [typeAt, typeAt]
    exact nestedType_alike alike (.map ((typeAt_alike h none (depth + 1) items w w' alike).weaken
      fun _ _ same => same ▸ rfl))
  | property, depth, .object [] none _, w, w', alike => by
    rw [typeAt, typeAt]
    exact nestedType_alike alike (.pure alike rfl)
  | property, depth, .object [] (some value) _, w, w', alike => by
    rw [typeAt, typeAt]
    exact nestedType_alike alike (.map ((typeAt_alike h none (depth + 1) value w w' alike).weaken
      fun _ _ same => same ▸ rfl))
  | property, depth, .object (p :: ps) _ _, w, w', alike => by
    rw [typeAt, typeAt]
    · exact nestedType_alike alike (.map ((membersAt_alike h (depth + 1) (p :: ps) w w' alike).weaken
        fun _ _ same => same ▸ rfl))
    all_goals simp
  | property, depth, .reference pointer notes, w, w', alike => by
    rw [typeAt, typeAt]
    exact nestedType_alike alike (h pointer notes w w' alike)
  | property, depth, .oneOf _ _, w, w', alike | property, depth, .anyOf _ _, w, w', alike
  | property, depth, .allOf _ _, w, w', alike | property, depth, .unknown _, w, w', alike => by
    rw [typeAt, typeAt]
    exact nestedType_alike alike (.pure alike rfl)

lemma membersAt_alike (h : ReferencesAlike a references references') :
    ∀ (depth : Int) (ps : List Property) (w w' : Workspace), w.Alike w' →
      RunsAlike w w' (membersAt c none references parent depth ps)
        (membersAt c a references' parent depth ps) fun ms ms' => ms' = Member.allBehind a ms
  | depth, [], w, w', alike => by
    rw [membersAt, membersAt]
    exact .pure alike rfl
  | depth, ⟨name, required, s⟩ :: rest, w, w', alike => by
    rw [membersAt, membersAt]
    refine (typeAt_alike h (some name) depth s w w' alike).bind fun t t' v v' alike same => ?_
    refine (membersAt_alike h depth rest v v' alike).bind fun ms ms' _ _ alike same' =>
      .pure alike ?_
    rw [same, same']
    rfl

end

/-- What is emitted for the sake of a reference comes to the same. -/
def EmitsAlike (emit : String → SchemaNode → Emit Unit) : Prop :=
  ∀ name node w w', w.Alike w' → RunsAlike w w' (emit name node) (emit name node) Eq

variable {emit : String → SchemaNode → Emit Unit} {node : SchemaNode}

lemma declaredType_alike (emits : EmitsAlike emit) (alike : w.Alike w') :
    RunsAlike w w' (declaredType c none emit name node) (declaredType c a emit name node)
      fun t t' => t' = t.behind a := by
  refine .ite (fun _ => ?_) fun _ => ?_
  · refine .bind (typeName_alike alike) fun x _ _ _ alike same => ?_
    subst same
    exact commonType_alike alike
  · refine RunsAlike.bind (R := Eq) (.get_bind ?_) fun _ _ v v' alike _ => ?_
    · rw [alike.processed]
      exact .ite (fun _ => emits name node w w' alike) fun _ => .pure alike rfl
    · refine .bind (typeName_alike alike) fun x _ _ _ alike same => .pure alike ?_
      subst same
      rfl

lemma referenceType_alike (emits : EmitsAlike emit) :
    ReferencesAlike a (referenceType c none emit) (referenceType c a emit) := by
  intro pointer notes w w' alike
  refine .bind (.liftM alike) fun found _ v v' alike same => .get_bind ?_
  subst same
  rw [alike.failed]
  refine .ite (fun _ => .pure alike rfl) fun _ => ?_
  refine (declaredType_alike emits alike).bind fun t t' _ _ alike same => .pure alike ?_
  subst same
  split <;> rfl

lemma typeField_alike {references : ReferenceTypes} (h : ReferencesAlike none references references)
    {required : Bool} (alike : w.Alike w') :
    RunsAlike w w' (typeField c references parent name required node)
      (typeField c references parent name required node) Eq := by
  refine (typeAt_alike h (some name) 1 node w w' alike).bind fun t t' _ _ alike same =>
    .pure alike ?_
  rw [same, TypeExpr.behind_none]

lemma declareSchemaType_alike {references : ReferenceTypes}
    (h : ReferencesAlike none references references) (alike : w.Alike w') :
    RunsAlike w w' (declareSchemaType c references name node)
      (declareSchemaType c references name node) Eq := by
  refine .bind (typeName_alike alike) fun x _ v v' alike same => ?_
  subst same
  split
  · exact ensureTypeEnum_alike alike
  · refine .bind (.mapM _ v v' alike fun p _ _ _ alike => typeField_alike h alike)
      fun fields _ _ _ alike same => ?_
    subst same
    exact declareType_alike alike
  · refine (typeAt_alike h none 1 node v v' alike).bind fun t t' _ _ alike same => ?_
    rw [same, TypeExpr.behind_none]
    exact declareType_alike alike

/-- Schemas are declared one inside the other; the induction is on how many more there may be. Inside
the file no namespace is written, whomever the outermost type is for. -/
lemma emitTypeWithin_alike : ∀ budget : Nat, EmitsAlike (emitTypeWithin c budget)
  | 0 => fun _ _ _ _ alike => .pure alike rfl
  | budget + 1 => fun name node w w' alike => by
    rw [emitTypeWithin]
    have begun : ({ w with types.processed := w.types.processed ++ [name] } : Workspace).Alike
        { w' with types.processed := w'.types.processed ++ [name] } :=
      { alike with processed := congrArg (· ++ [name]) alike.processed }
    refine .bind (.modify begun) fun _ _ _ _ alike _ => ?_
    refine (declareSchemaType_alike (referenceType_alike (emitTypeWithin_alike budget))
      alike).caught.bind fun r _ v v' alike same => ?_
    subst same
    cases r with
    | ok _ => exact .pure alike rfl
    | error e =>
      have failed : ({ v with types.failed := addNew v.types.failed name } : Workspace).Alike
          { v' with types.failed := addNew v'.types.failed name } :=
        { alike with failed := congrArg (addNew · name) alike.failed }
      exact .bind (.modify failed) fun _ _ _ _ alike _ => .throw alike

/-- The type for others is that for the file itself with the namespace before the names, and everything
else comes to the same. -/
lemma qualifiedType_alike {n : String} (alike : w.Alike w') :
    RunsAlike w w' (localType c parent property 1 node) (qualifiedType c n parent property node)
      fun t t' => t' = t.behind (some n) :=
  typeAt_alike (referenceType_alike (emitTypeWithin_alike _)) property 1 node w w' alike

end Types

end ClientGen.Emission
