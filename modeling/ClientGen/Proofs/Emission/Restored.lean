import ClientGen.Proofs.Emission.Fields
import ClientGen.Proofs.Emission.SameRun

/-!
# Fields that are put back

Emitters with fields come to the same as emission does, and they leave the fields as they found them,
whether they give a result or end with an error.
-/

namespace ClientGen.Emission

open Api Enumeration Graph Schema Template TypeScript

variable {α β γ : Type} {c : Setting} {w w' : Workspace} {f f' : Fields}

/-! ### Fields -/

/-- The fields as an emitter may leave them. The namespaces that are used may have become more if one
is written for. -/
structure Fields.Kept (f f' : Fields) : Prop where
  namespace_ : f'.namespace_ = f.namespace_
  processing : f'.processing = f.processing
  used : f.namespace_ = none → f'.used = f.used

lemma Fields.Kept.refl (f : Fields) : f.Kept f :=
  ⟨rfl, rfl, fun _ => rfl⟩

lemma Fields.Kept.trans {f'' : Fields} (h : f.Kept f') (h' : f'.Kept f'') : f.Kept f'' :=
  ⟨h'.namespace_.trans h.namespace_, h'.processing.trans h.processing,
    fun none => (h'.used (h.namespace_.trans none)).trans (h.used none)⟩

/-- Without a namespace nothing changes. -/
lemma Fields.Kept.eq (h : f.Kept f') (none : f.namespace_ = none) : f' = f := by
  cases f
  cases f'
  obtain ⟨rfl, rfl, used⟩ := h
  obtain rfl := used none
  rfl

/-! ### Runs -/

/-- From the files `w` and the fields `f` on, `x` comes to what `y` comes to from the files on, and
leaves the fields as it found them. What has been dealt with stays so. -/
structure Follows (w : Workspace) (f : Fields) (x : Tracked α) (y : Emit α) : Prop where
  run : ∃ f', outcome x (w, f) = ((outcome y w).1, (outcome y w).2, f') ∧ f.Kept f'
  before : w.Before (outcome y w).2

namespace Follows

variable {x : Tracked α} {y : Emit α} {g : α → Tracked β} {h : α → Emit β}

lemma pure {a : α} : Follows w f (pure a) (pure a) :=
  ⟨⟨f, rfl, .refl f⟩, .refl w⟩

lemma throw {e : EmitError} : Follows w f (throw e : Tracked α) (throw e) :=
  ⟨⟨f, rfl, .refl f⟩, .refl w⟩

lemma onFiles (before : w.Before (outcome y w).2) : Follows w f (Tracked.onFiles y) y :=
  ⟨⟨f, rfl, .refl f⟩, before⟩

lemma fields_bind {g : Fields → Tracked β} {z : Emit β} (hg : Follows w f (g f) z) :
    Follows w f (Tracked.fields >>= g) z :=
  ⟨hg.run, hg.before⟩

lemma files_bind {g : Workspace → Tracked β} {h : Workspace → Emit β}
    (hg : Follows w f (g w) (h w)) : Follows w f (Tracked.files >>= g) (get >>= h) :=
  ⟨hg.run, hg.before⟩

lemma modify_bind {m : Workspace → Workspace} {g : Unit → Tracked β} {h : Unit → Emit β}
    (before : w.Before (m w)) (hg : Follows (m w) f (g ()) (h ())) :
    Follows w f (Tracked.onFiles (modify m) >>= g) (modify m >>= h) :=
  ⟨hg.run, before.trans hg.before⟩

lemma bind (hx : Follows w f x y)
    (hg : ∀ a w' f', w.Before w' → f.Kept f' → Follows w' f' (g a) (h a)) :
    Follows w f (x >>= g) (y >>= h) := by
  obtain ⟨⟨f', run, kept⟩, before⟩ := hx
  rcases ho : outcome y w with ⟨e | a, w'⟩
  · rw [ho] at run before
    refine ⟨⟨f', ?_, kept⟩, ?_⟩
    · rw [outcome_bind, outcome_bind, run, ho]
    · rw [outcome_bind, ho]
      exact before
  · rw [ho] at run before
    obtain ⟨⟨f'', run', kept'⟩, before'⟩ := hg a w' f' before kept
    refine ⟨⟨f'', ?_, kept.trans kept'⟩, ?_⟩
    · rw [outcome_bind, outcome_bind, run, ho]
      exact run'
    · rw [outcome_bind, ho]
      exact before.trans before'

lemma orSchemaError_bind {r : Except SchemaError α}
    (hg : ∀ a, r = .ok a → Follows w f (g a) (h a)) :
    Follows w f (Tracked.onFiles (orSchemaError r) >>= g) (orSchemaError r >>= h) := by
  cases r with
  | error e => exact ⟨⟨f, rfl, .refl f⟩, .refl w⟩
  | ok a => exact ⟨(hg a rfl).run, (hg a rfl).before⟩

/-- Where no namespace is written for, the fields are left as they are. -/
lemma restores (hx : Follows w f x y) (none : f.namespace_ = none) :
    outcome x (w, f) = ((outcome y w).1, (outcome y w).2, f) := by
  obtain ⟨f', run, kept⟩ := hx.run
  rw [run, kept.eq none]

lemma map {s : α → β} (hx : Follows w f x y) : Follows w f (s <$> x) (s <$> y) := by
  rw [map_eq_pure_bind, map_eq_pure_bind]
  exact hx.bind fun _ _ _ _ _ => .pure

lemma ite {p q : Prop} [Decidable p] [Decidable q] {x' : Tracked α} {y' : Emit α} (same : p ↔ q)
    (yes : p → Follows w f x y) (no : ¬p → Follows w f x' y') :
    Follows w f (if p then x else x') (if q then y else y') := by
  by_cases hp : p
  · rw [if_pos hp, if_pos (same.1 hp)]
    exact yes hp
  · rw [if_neg hp, if_neg (mt same.2 hp)]
    exact no hp

lemma mapM {s : γ → Tracked β} {t : γ → Emit β} : ∀ (items : List γ) (w : Workspace) (f : Fields),
    (∀ a ∈ items, ∀ w' f', w.Before w' → f.Kept f' → Follows w' f' (s a) (t a)) →
    Follows w f (items.mapM s) (items.mapM t)
  | [], w, f, _ => by
    rw [List.mapM_nil, List.mapM_nil]
    exact .pure
  | a :: rest, w, f, each => by
    rw [List.mapM_cons, List.mapM_cons]
    refine (each a List.mem_cons_self w f (.refl w) (.refl f)).bind fun b w' f' before kept => ?_
    exact (mapM rest w' f' fun a' ha w'' f'' before' kept' => each a' (List.mem_cons_of_mem a ha)
      w'' f'' (before.trans before') (kept.trans kept')).bind fun _ _ _ _ _ => .pure

/-- Fields that are set for a part of the work have to be put back as they were found. -/
lemma within {enter : Fields → Fields} {leave : Fields → Fields → Fields}
    (hx : Follows w (enter f) x y) (back : ∀ f', (enter f).Kept f' → f.Kept (leave f f')) :
    Follows w f (Tracked.within enter leave x) y := by
  obtain ⟨⟨f', run, kept⟩, before⟩ := hx
  have step : outcome (Tracked.within enter leave x) (w, f) = ((outcome x (w, enter f)).1,
    (outcome x (w, enter f)).2.1, leave f (outcome x (w, enter f)).2.2) := rfl
  rw [run] at step
  exact ⟨⟨leave f f', step, back f' kept⟩, before⟩

/-- An error of a schema is caught with the fields as they were found. -/
lemma caught (hx : Follows w f x y) : Follows w f (Tracked.caught x) (Emission.caught y) := by
  obtain ⟨⟨f', run, kept⟩, before⟩ := hx
  have tracked : outcome (Tracked.caught x) (w, f) = handed (outcome x (w, f)) := by
    unfold Tracked.caught
    rw [outcome_tryCatch, map_eq_pure_bind, outcome_bind]
    rcases outcome x (w, f) with ⟨(_ | _ | _ | _) | _, _⟩ <;> rfl
  constructor
  · refine ⟨f', ?_, kept⟩
    rw [tracked, run, outcome_caught]
    rcases outcome y w with ⟨(_ | _ | _ | _) | _, _⟩ <;> rfl
  · rw [outcome_caught]
    revert before
    rcases outcome y w with ⟨(_ | _ | _ | _) | _, _⟩ <;> exact id

end Follows

/-! ### Types -/

section Types

variable {name parent : String} {property namespace_ : Option String} {values : List String}

lemma before_typeName : w.Before (outcome (typeName c name) w).2 :=
  (same_typeName (.refl c.description) trivial).before

lemma follows_note {level : Level} {text : String} :
    Follows w f (Tracked.onFiles (note level text)) (note level text) :=
  .onFiles same_note.before

lemma ownType_follows (hn : f.namespace_ = namespace_) :
    Follows w f (Tracked.ownType name) (pure (.named namespace_ name)) := by
  refine .fields_bind ?_
  rw [hn]
  cases namespace_ with
  | none => exact .pure
  | some n =>
    exact ⟨⟨_, rfl, ⟨rfl, rfl, fun none => absurd (hn.symm.trans none) (by simp)⟩⟩, .refl w⟩

lemma commonType_follows (hn : f.namespace_ = namespace_) :
    Follows w f (Tracked.commonType name) (commonType namespace_ name) := by
  refine .fields_bind ?_
  rw [hn]
  cases namespace_ with
  | none =>
    exact .bind (.onFiles ⟨.refl _, .refl _⟩) fun _ _ _ _ _ => .pure
  | some n =>
    exact ⟨⟨_, rfl, ⟨rfl, rfl, fun none => absurd (hn.symm.trans none) (by simp)⟩⟩, .refl w⟩

lemma enumType_follows (hn : f.namespace_ = namespace_) :
    Follows w f (Tracked.enumType c parent property values)
      (enumType c namespace_ parent property values) := by
  refine .bind (.onFiles same_inlineEnumName.before) fun x w' f' _ kept => ?_
  have hn' := kept.namespace_.trans hn
  refine .ite .rfl (fun _ => commonType_follows hn') fun _ => ?_
  exact .bind (.onFiles same_ensureTypeEnum.before) fun _ _ _ _ kept' =>
    ownType_follows (kept'.namespace_.trans hn')

lemma nestedType_follows {depth : Int} {nullable : Bool} {type : Tracked TypeExpr}
    {type' : Emit TypeExpr} (h : Follows w f type type') :
    Follows w f (Tracked.nestedType c parent depth nullable type)
      (nestedType c parent depth nullable type') :=
  .ite .rfl (fun _ => .bind follows_note fun _ _ _ _ _ => .pure) fun _ =>
    h.bind fun _ _ _ _ _ => .pure

/-- References are followed wherever types are written for the namespace. -/
def ReferencesFollow (namespace_ : Option String) (references : Tracked.ReferenceTypes)
    (references' : ReferenceTypes) : Prop :=
  ∀ pointer notes w f, f.namespace_ = namespace_ →
    Follows w f (references pointer notes) (references' pointer notes)

variable {references : Tracked.ReferenceTypes} {references' : ReferenceTypes}

mutual

lemma typeAt_follows (h : ReferencesFollow namespace_ references references') :
    ∀ (property : Option String) (depth : Int) (s : SchemaNode) (w : Workspace) (f : Fields),
      f.namespace_ = namespace_ → Follows w f (Tracked.typeAt c references parent property depth s)
        (typeAt c namespace_ references' parent property depth s)
  | property, depth, .primitive kind constraints _, w, f, hn => by
    rw [typeAt, Tracked.typeAt]
    exact nestedType_follows .pure
  | property, depth, .enumeration values _, w, f, hn => by
    rw [typeAt, Tracked.typeAt]
    exact nestedType_follows (enumType_follows hn)
  | property, depth, .array items _ _, w, f, hn => by
    rw [typeAt, Tracked.typeAt]
    exact nestedType_follows (typeAt_follows h none (depth + 1) items w f hn).map
  | property, depth, .object [] none _, w, f, hn => by
    rw [typeAt, Tracked.typeAt]
    exact nestedType_follows .pure
  | property, depth, .object [] (some value) _, w, f, hn => by
    rw [typeAt, Tracked.typeAt]
    exact nestedType_follows (typeAt_follows h none (depth + 1) value w f hn).map
  | property, depth, .object (p :: ps) _ _, w, f, hn => by
    rw [typeAt, Tracked.typeAt]
    · exact nestedType_follows (membersAt_follows h (depth + 1) (p :: ps) w f hn).map
    all_goals simp
  | property, depth, .reference pointer notes, w, f, hn => by
    rw [typeAt, Tracked.typeAt]
    exact nestedType_follows (h pointer notes w f hn)
  | property, depth, .oneOf _ _, w, f, hn => by
    rw [typeAt, Tracked.typeAt]
    exact nestedType_follows .pure
  | property, depth, .anyOf _ _, w, f, hn => by
    rw [typeAt, Tracked.typeAt]
    exact nestedType_follows .pure
  | property, depth, .allOf _ _, w, f, hn => by
    rw [typeAt, Tracked.typeAt]
    exact nestedType_follows .pure
  | property, depth, .unknown _, w, f, hn => by
    rw [typeAt, Tracked.typeAt]
    exact nestedType_follows .pure

lemma membersAt_follows (h : ReferencesFollow namespace_ references references') :
    ∀ (depth : Int) (ps : List Property) (w : Workspace) (f : Fields),
      f.namespace_ = namespace_ → Follows w f (Tracked.membersAt c references parent depth ps)
        (membersAt c namespace_ references' parent depth ps)
  | depth, [], w, f, hn => by
    rw [membersAt, Tracked.membersAt]
    exact .pure
  | depth, ⟨name, required, s⟩ :: rest, w, f, hn => by
    rw [membersAt, Tracked.membersAt]
    refine (typeAt_follows h (some name) depth s w f hn).bind fun t w' f' _ kept => ?_
    exact (membersAt_follows h depth rest w' f' (kept.namespace_.trans hn)).bind
      fun _ _ _ _ _ => .pure

end

/-- What is emitted for the sake of a reference follows, whatever namespace is written for. -/
def EmitsFollow (emit : String → SchemaNode → Tracked Unit) (emit' : String → SchemaNode → Emit Unit) :
    Prop :=
  ∀ name node w f, name ∉ w.types.processed → Follows w f (emit name node) (emit' name node)

variable {emit : String → SchemaNode → Tracked Unit} {emit' : String → SchemaNode → Emit Unit}

lemma referenceType_follows (emits : EmitsFollow emit emit') : ReferencesFollow namespace_
    (Tracked.referenceType c emit) (referenceType c namespace_ emit') := by
  intro pointer notes w f hn
  refine .bind (.onFiles Same.liftM.before) fun target w f _ kept => ?_
  have hn := kept.namespace_.trans hn
  refine .files_bind (.ite .rfl (fun _ => .pure) fun _ => .bind ?_ fun _ _ _ _ _ => .pure)
  refine .ite .rfl (fun _ => ?_) fun _ => ?_
  · exact .bind (.onFiles before_typeName) fun _ _ _ _ kept' =>
      commonType_follows (kept'.namespace_.trans hn)
  · refine .bind (.files_bind (.ite .rfl (fun new => emits _ _ _ _ (by simpa using new)) fun _ =>
      .pure)) fun _ _ _ _ kept' => .bind (.onFiles before_typeName) fun _ _ _ _ kept'' => ?_
    exact ownType_follows (kept''.namespace_.trans (kept'.namespace_.trans hn))

lemma typeField_follows (h : ReferencesFollow none references references') {required : Bool}
    {s : SchemaNode} (hn : f.namespace_ = none) :
    Follows w f (Tracked.typeField c references parent name required s)
      (typeField c references' parent name required s) :=
  (typeAt_follows h (some name) 1 s w f hn).bind fun _ _ _ _ _ => .pure

lemma declareSchemaType_follows (h : ReferencesFollow none references references')
    {node : SchemaNode} (hn : f.namespace_ = none) :
    Follows w f (Tracked.declareSchemaType c references name node)
      (declareSchemaType c references' name node) := by
  refine .bind (.onFiles before_typeName) fun identifier w' f' _ kept => ?_
  have hn := kept.namespace_.trans hn
  have alias_ : Follows w' f' (do
      let type ← Tracked.typeAt c references name none 1 node
      Tracked.onFiles (declareType c (.alias identifier type node.description))) (do
      let type ← typeAt c none references' name none 1 node
      declareType c (.alias identifier type node.description)) :=
    (typeAt_follows h none 1 node w' f' hn).bind fun _ _ _ _ _ =>
      .onFiles same_declareType.before
  cases node with
  | enumeration values notes => exact .onFiles same_ensureTypeEnum.before
  | object properties additional notes =>
    cases properties with
    | nil => exact alias_
    | cons p ps =>
      exact .bind (.mapM _ w' f' fun p _ w'' f'' _ kept' =>
        typeField_follows h (kept'.namespace_.trans hn)) fun _ _ _ _ _ =>
          .onFiles same_declareType.before
  | _ => exact alias_

/-- A schema is declared for no namespace, and it is given up if that fails. -/
lemma givenUp_follows (emits : EmitsFollow emit emit') {node : SchemaNode}
    (hn : f.namespace_ = none) :
    Follows w f (do
      match ← Tracked.caught (Tracked.declareSchemaType c (Tracked.referenceType c emit) name node) with
      | .ok () => return
      | .error e =>
        Tracked.onFiles (modify fun w => { w with types.failed := addNew w.types.failed name })
        throw (.schema e)) (do
      match ← Emission.caught (declareSchemaType c (referenceType c none emit') name node) with
      | .ok () => return
      | .error e =>
        modify fun w => { w with types.failed := addNew w.types.failed name }
        throw (.schema e)) := by
  refine (declareSchemaType_follows (referenceType_follows emits) hn).caught.bind
    fun r _ _ _ _ => ?_
  cases r with
  | ok _ => exact .pure
  | error e =>
    exact .bind (.onFiles ⟨.refl _, .refl _⟩) fun _ _ _ _ _ => .throw

/-- Schemas are declared one inside the other; the induction is on how many more there may be. -/
lemma emitTypeWithin_follows : ∀ budget : Nat,
    EmitsFollow (Tracked.emitTypeWithin c budget) (emitTypeWithin c budget)
  | 0 => fun _ _ _ _ _ => .pure
  | budget + 1 => fun name node w f new => by
    rw [emitTypeWithin, Tracked.emitTypeWithin]
    refine .bind (.onFiles ⟨.begin new, .refl _⟩) fun _ w f _ _ => ?_
    refine .within (givenUp_follows (emitTypeWithin_follows budget) rfl) fun f' kept => ?_
    rw [kept.eq rfl]
    exact .refl f

lemma emitType_follows {node : Option SchemaNode} :
    Follows w f (Tracked.emitType c name node) (emitType c name node) := by
  refine .files_bind (.ite .rfl (fun _ => .pure) fun new => ?_)
  have begun : name ∉ w.types.processed := by simpa using new
  cases node with
  | none =>
    exact .orSchemaError_bind fun node _ => emitTypeWithin_follows _ _ _ _ _ begun
  | some node => exact emitTypeWithin_follows _ _ _ _ _ begun

/-- The type for another file leaves the fields as they were found, the used namespaces included. -/
lemma qualifiedType_follows {n : String} {node : SchemaNode} :
    Follows w f (Tracked.qualifiedType c n parent property node)
      (qualifiedType c n parent property node) :=
  .within (typeAt_follows (referenceType_follows (emitTypeWithin_follows _)) _ _ _ _ _ rfl)
    fun _ kept => ⟨rfl, kept.processing, fun _ => rfl⟩

end Types

/-! ### Validators -/

section Validators

variable {name parent : String} {property : Option String} {path : List String}

lemma before_constName : w.Before (outcome (constName c name) w).2 :=
  (same_constName (.refl c.description) trivial).before

/-- The schemas of the path are being declared. -/
structure Declaring (path : List String) (w : Workspace) (f : Fields) : Prop where
  processing : f.processing = path.toFinset
  processed : path ⊆ w.validators.processed

lemma Declaring.later (h : Declaring path w f) (before : w.Before w') (kept : f.Kept f') :
    Declaring path w' f' :=
  ⟨kept.processing.trans h.processing, List.Subset.trans h.processed before.validators.subset⟩

lemma nestedValidator_follows {depth : Int} {nullable : Bool} {validator : Tracked Validator}
    {validator' : Emit Validator} (h : Follows w f validator validator') :
    Follows w f (Tracked.nestedValidator c parent depth nullable validator)
      (nestedValidator c parent depth nullable validator') :=
  .ite .rfl (fun _ => .bind follows_note fun _ _ _ _ _ => .pure) fun _ =>
    h.bind fun _ _ _ _ _ => .pure

/-- References are followed wherever the schemas of the path are being declared. -/
def ReferencesFollowOn (path : List String) (references : Tracked.ReferenceValidators)
    (references' : ReferenceValidators) : Prop :=
  ∀ pointer notes w f, Declaring path w f →
    Follows w f (references pointer notes) (references' pointer notes)

variable {references : Tracked.ReferenceValidators} {references' : ReferenceValidators}

mutual

lemma validatorAt_follows (h : ReferencesFollowOn path references references') :
    ∀ (property : Option String) (depth : Int) (s : SchemaNode) (w : Workspace) (f : Fields),
      Declaring path w f → Follows w f (Tracked.validatorAt c references parent property depth s)
        (validatorAt c references' parent property depth s)
  | property, depth, .primitive kind constraints _, w, f, hd => by
    rw [validatorAt, Tracked.validatorAt]
    exact nestedValidator_follows (.onFiles Same.liftM.before)
  | property, depth, .enumeration values _, w, f, hd => by
    rw [validatorAt, Tracked.validatorAt]
    exact nestedValidator_follows (.onFiles same_enumValidator.before)
  | property, depth, .array items _ _, w, f, hd => by
    rw [validatorAt, Tracked.validatorAt]
    exact nestedValidator_follows ((validatorAt_follows h none (depth + 1) items w f hd).bind
      fun _ _ _ _ _ => .onFiles Same.liftM.before)
  | property, depth, .object [] none _, w, f, hd => by
    rw [validatorAt, Tracked.validatorAt]
    exact nestedValidator_follows .pure
  | property, depth, .object [] (some value) _, w, f, hd => by
    rw [validatorAt, Tracked.validatorAt]
    exact nestedValidator_follows (validatorAt_follows h none (depth + 1) value w f hd).map
  | property, depth, .object (p :: ps) _ _, w, f, hd => by
    rw [validatorAt, Tracked.validatorAt]
    · exact nestedValidator_follows (fieldsAt_follows h (depth + 1) (p :: ps) w f hd).map
    all_goals simp
  | property, depth, .reference pointer notes, w, f, hd => by
    rw [validatorAt, Tracked.validatorAt]
    exact nestedValidator_follows (h pointer notes w f hd)
  | property, depth, .allOf members _, w, f, hd => by
    rw [validatorAt, Tracked.validatorAt]
    exact nestedValidator_follows (validatorsAt_follows h property (depth + 1) members w f hd).map
  | property, depth, .oneOf variants _, w, f, hd => by
    rw [validatorAt, Tracked.validatorAt]
    exact nestedValidator_follows (validatorsAt_follows h property (depth + 1) variants w f hd).map
  | property, depth, .anyOf variants _, w, f, hd => by
    rw [validatorAt, Tracked.validatorAt]
    exact nestedValidator_follows (validatorsAt_follows h property (depth + 1) variants w f hd).map
  | property, depth, .unknown _, w, f, hd => by
    rw [validatorAt, Tracked.validatorAt]
    exact nestedValidator_follows .pure

lemma validatorsAt_follows (h : ReferencesFollowOn path references references') :
    ∀ (property : Option String) (depth : Int) (ss : List SchemaNode) (w : Workspace) (f : Fields),
      Declaring path w f → Follows w f (Tracked.validatorsAt c references parent property depth ss)
        (validatorsAt c references' parent property depth ss)
  | property, depth, [], w, f, hd => by
    rw [validatorsAt, Tracked.validatorsAt]
    exact .pure
  | property, depth, s :: rest, w, f, hd => by
    rw [validatorsAt, Tracked.validatorsAt]
    refine (validatorAt_follows h property depth s w f hd).bind fun v w' f' before kept => ?_
    exact (validatorsAt_follows h property depth rest w' f' (hd.later before kept)).bind
      fun _ _ _ _ _ => .pure

lemma fieldsAt_follows (h : ReferencesFollowOn path references references') :
    ∀ (depth : Int) (ps : List Property) (w : Workspace) (f : Fields),
      Declaring path w f → Follows w f (Tracked.fieldsAt c references parent depth ps)
        (fieldsAt c references' parent depth ps)
  | depth, [], w, f, hd => by
    rw [fieldsAt, Tracked.fieldsAt]
    exact .pure
  | depth, ⟨name, required, s⟩ :: rest, w, f, hd => by
    rw [fieldsAt, Tracked.fieldsAt]
    refine (validatorAt_follows h (some name) depth s w f hd).bind fun v w' f' before kept => ?_
    exact (fieldsAt_follows h depth rest w' f' (hd.later before kept)).bind fun _ _ _ _ _ => .pure

end

/-- What is emitted for the sake of a reference follows, unless it has been begun. -/
def EmitsFollowOn (path : List String) (emit : String → SchemaNode → Tracked Unit)
    (emit' : String → SchemaNode → Emit Unit) : Prop :=
  ∀ name node w f, Declaring path w f → name ∉ w.validators.processed →
    Follows w f (emit name node) (emit' name node)

variable {emit : String → SchemaNode → Tracked Unit} {emit' : String → SchemaNode → Emit Unit}

lemma referenceValidator_follows (emits : EmitsFollowOn path emit emit') :
    ReferencesFollowOn path (Tracked.referenceValidator c emit)
      (referenceValidator c path emit') := by
  intro pointer notes w f hd
  refine .bind (.onFiles Same.liftM.before) fun target w f before kept => ?_
  have hd := hd.later before kept
  refine .files_bind (.ite .rfl (fun _ => .pure) fun _ => .ite .rfl (fun _ => ?_) fun _ => ?_)
  · exact .bind (.onFiles ⟨.refl _, .refl _⟩) fun _ _ _ _ _ =>
      .bind (.onFiles before_constName) fun _ _ _ _ _ => .pure
  refine .fields_bind (.ite ?_ (fun _ => ?_) fun _ => ?_)
  · rw [hd.processing, List.mem_toFinset, List.contains_iff_mem]
  · exact .bind (.onFiles ⟨.refl _, .refl _⟩) fun _ _ _ _ _ =>
      .bind (.onFiles before_constName) fun _ _ _ _ _ => .pure
  · refine .bind (.files_bind (.ite .rfl (fun new => emits _ _ _ _ hd ?_) fun _ => .pure))
      fun _ _ _ _ _ => .bind (.onFiles before_constName) fun _ _ _ _ _ => .pure
    simpa using new

lemma declareSchemaValidator_follows (h : ReferencesFollowOn path references references')
    {node : SchemaNode} (hd : Declaring path w f) :
    Follows w f (Tracked.declareSchemaValidator c references name node)
      (declareSchemaValidator c references' name node) := by
  have schema : Follows w f (do
      let validator ← Tracked.validatorAt c references name none 1 node
      let const ← Tracked.onFiles (constName c name)
      let annotated := (← Tracked.files).deferredTargets.contains name
      Tracked.onFiles (declareValidator c (.schema const validator annotated node.description))) (do
      let validator ← validatorAt c references' name none 1 node
      let const ← constName c name
      let annotated := (← get).deferredTargets.contains name
      declareValidator c (.schema const validator annotated node.description)) :=
    (validatorAt_follows h none 1 node w f hd).bind fun _ _ _ _ _ =>
      .bind (.onFiles before_constName) fun _ _ _ _ _ =>
        .files_bind (.onFiles same_declareValidator.before)
  cases node with
  | enumeration values notes =>
    exact .onFiles ((same_typeName (.refl c.description) trivial).bind
      fun _ _ _ => same_ensureValidatorEnum).before
  | _ => exact schema

/-- The schema that is begun is taken off again when its declaration has ended. -/
lemma emitValidatorWithin_follows : ∀ (budget : Nat) (path : List String), EmitsFollowOn path
    (Tracked.emitValidatorWithin c budget) (emitValidatorWithin c budget path)
  | 0, _ => fun _ _ _ _ _ _ => .pure
  | budget + 1, path => fun name node w f hd new => by
    rw [emitValidatorWithin, Tracked.emitValidatorWithin]
    have outside : name ∉ f.processing := by
      rw [hd.processing, List.mem_toFinset]
      exact fun h => new (hd.processed h)
    have begun : Declaring (name :: path)
        { w with validators.processed := w.validators.processed ++ [name] }
        { f with processing := insert name f.processing } :=
      ⟨by rw [hd.processing, List.toFinset_cons], List.cons_subset.2
        ⟨by simp, List.subset_append_of_subset_left _ hd.processed⟩⟩
    refine .modify_bind ⟨.refl _, .begin new⟩ (.within
      ((declareSchemaValidator_follows (referenceValidator_follows
        (emitValidatorWithin_follows budget (name :: path))) begun).caught.bind
          fun r _ _ _ _ => ?_) fun f' kept => ⟨kept.namespace_, ?_, kept.used⟩)
    · cases r with
      | ok _ => exact .pure
      | error e => exact .modify_bind ⟨.refl _, .refl _⟩ .throw
    · change f'.processing.erase name = f.processing
      rw [kept.processing, Finset.erase_insert outside]

/-- The fields between two emissions: no namespace is written for, and no schema is being declared. -/
structure Fields.Idle (f : Fields) : Prop where
  namespace_ : f.namespace_ = none
  processing : f.processing = ∅

lemma Fields.Idle.kept (h : f.Idle) (kept : f.Kept f') : f'.Idle :=
  ⟨kept.namespace_.trans h.namespace_, kept.processing.trans h.processing⟩

lemma Fields.Idle.declaring (h : f.Idle) : Declaring [] w f :=
  ⟨by simp [h.processing], List.nil_subset _⟩

lemma emitValidator_follows (idle : f.Idle) {node : Option SchemaNode} :
    Follows w f (Tracked.emitValidator c name node) (emitValidator c name node) := by
  refine .files_bind (.ite .rfl (fun _ => .pure) fun new => ?_)
  have begun : name ∉ w.validators.processed := by simpa using new
  cases node with
  | none =>
    exact .orSchemaError_bind fun node _ =>
      emitValidatorWithin_follows _ [] _ _ _ _ idle.declaring begun
  | some node => exact emitValidatorWithin_follows _ [] _ _ _ _ idle.declaring begun

lemma localValidator_follows (idle : f.Idle) {node : SchemaNode} :
    Follows w f (Tracked.localValidator c parent property node)
      (localValidator c parent property 1 node) :=
  validatorAt_follows (referenceValidator_follows (emitValidatorWithin_follows _ [])) _ _ _ _ _
    idle.declaring

end Validators

/-! ### Operations -/

section Operations

variable {t : Target} {op : Operation} {parent pascal : String} {property : Option String}
  {node : SchemaNode}

lemma declareNeeds_follows (idle : f.Idle) : Follows w f (Tracked.declareNeeds c op parent property node)
    (declareNeeds c op parent property node) := by
  refine .files_bind ((localValidator_follows idle).caught.bind fun r w' f' _ _ => ?_)
  refine .modify_bind ⟨.refl _, .refl _⟩ ?_
  cases r with
  | ok _ => exact .pure
  | error e => exact follows_note

lemma operationType_follows (idle : f.Idle) :
    Follows w f (Tracked.operationType c t op parent property node)
      (operationType c t op parent property node) := by
  refine qualifiedType_follows.caught.bind fun r w' f' _ kept => ?_
  cases r with
  | ok type => exact (declareNeeds_follows (idle.kept kept)).bind fun _ _ _ _ _ => .pure
  | error e => exact follows_note.bind fun _ _ _ _ _ => .pure

lemma pathArguments_follows (idle : f.Idle) :
    Follows w f (Tracked.pathArguments c t op pascal) (pathArguments c t op pascal) :=
  .mapM _ w f fun _ _ _ _ _ kept => (operationType_follows (idle.kept kept)).bind
    fun _ _ _ _ _ => .pure

lemma bodyArgument_follows (idle : f.Idle) :
    Follows w f (Tracked.bodyArgument? c t op pascal) (bodyArgument? c t op pascal) := by
  unfold bodyArgument? Tracked.bodyArgument?
  rcases (if op.method.hasBody then op.requestBody else none) with _ | node
  · exact .pure
  · exact (operationType_follows idle).bind fun _ _ _ _ _ => .pure

lemma operationResponse_follows (idle : f.Idle) :
    Follows w f (Tracked.operationResponse c t op pascal) (operationResponse c t op pascal) := by
  unfold operationResponse Tracked.operationResponse
  rcases Operation.preferredResponse op.responses with _ | node
  · exact .pure
  · exact operationType_follows idle

lemma queryField_follows (idle : f.Idle) {p : Parameter} :
    Follows w f (Tracked.queryField c op pascal p) (queryField c op pascal p) := by
  have type : Follows w f (Tracked.queryTypeField c op pascal p) (queryTypeField c op pascal p) := by
    refine (typeField_follows (referenceType_follows (emitTypeWithin_follows _))
      idle.namespace_).caught.bind fun r _ _ _ _ => ?_
    cases r with
    | ok field => exact .pure
    | error e => exact follows_note.bind fun _ _ _ _ _ => .pure
  refine type.bind fun field w' f' _ kept => .bind ?_ fun _ _ _ _ _ => .pure
  refine (localValidator_follows (idle.kept kept)).caught.bind fun r _ _ _ _ => ?_
  cases r with
  | ok v => exact .pure
  | error e => exact .pure

lemma queryArgument_follows (idle : f.Idle) :
    Follows w f (Tracked.queryArgument? c t op pascal) (queryArgument? c t op pascal) := by
  refine .ite .rfl (fun _ => .map ?_) fun _ => .pure
  refine .bind (.mapM _ w f fun _ _ _ _ _ kept => queryField_follows (idle.kept kept))
    fun _ _ _ _ _ => ?_
  exact .bind (.onFiles same_declareType.before) fun _ _ _ _ _ =>
    .bind (.onFiles same_declareValidator.before) fun _ _ _ _ _ => .pure

lemma emitOperation_follows (idle : f.Idle) {name : String} :
    Follows w f (Tracked.emitOperation c t name op) (emitOperation c t name op) := by
  refine .bind ?_ fun _ _ _ _ _ => .onFiles Same.liftM.before
  refine (pathArguments_follows idle).bind fun _ _ _ _ kept => ?_
  have idle := idle.kept kept
  refine (bodyArgument_follows idle).bind fun _ _ _ _ kept => ?_
  have idle := idle.kept kept
  refine (queryArgument_follows idle).bind fun _ _ _ _ kept => ?_
  exact (operationResponse_follows (idle.kept kept)).bind fun _ _ _ _ _ => .pure

end Operations

/-! ### Directories -/

section Directories

variable {t : Target}

lemma emitSchema_follows (idle : f.Idle) {name : String} :
    Follows w f (Tracked.emitSchema c name) (emitSchema c name) := by
  refine emitType_follows.caught.bind fun type w' f' _ kept => ?_
  refine (emitValidator_follows (idle.kept kept)).caught.bind fun validator _ _ _ _ => ?_
  rcases type with e | _
  · exact follows_note.bind fun _ _ _ _ _ => .pure
  · rcases validator with e | _
    · exact follows_note.bind fun _ _ _ _ _ => .pure
    · exact .pure

/-- The schemas of a directory are declared one after another, each with idle fields. -/
lemma emitSchemas_follows (idle : f.Idle) {names : List String} :
    Follows w f (Tracked.emitSchemas c names) (emitSchemas c names) :=
  .modify_bind ⟨.refl _, .refl _⟩ ((Follows.mapM _ _ _ fun _ _ _ _ _ kept =>
    emitSchema_follows (idle.kept kept)).bind fun _ _ _ _ _ => .pure)

/-- So are the operations of a module, whatever errors of schemas were caught before. -/
lemma emitOperations_follows : ∀ (ops : List Operation) (asked : List (String × Nat)) (w : Workspace)
    (f : Fields), f.Idle → Follows w f (Tracked.emitOperations c t asked ops)
      (emitOperations c t asked ops)
  | [], _, _, _, _ => .pure
  | op :: rest, asked, w, f, idle => by
    rw [emitOperations, Tracked.emitOperations]
    refine (emitOperation_follows idle).caught.bind fun emitted w' f' _ kept => ?_
    have others (w' : Workspace) (f' : Fields) (kept : f.Kept f') :=
      emitOperations_follows rest
        (uniqueName (functionName op.method op.path op.operationId) asked).2 w' f' (idle.kept kept)
    cases emitted with
    | ok o => exact (others w' f' kept).bind fun _ _ _ _ _ => .pure
    | error e =>
      exact (follows_note.bind fun _ _ _ _ _ => .pure).bind fun _ w'' f'' _ kept' =>
        (others w'' f'' (kept.trans kept')).bind fun _ _ _ _ _ => .pure

end Directories

end ClientGen.Emission
