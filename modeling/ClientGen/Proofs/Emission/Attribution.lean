import ClientGen.Proofs.Emission.TypeFile
import ClientGen.Proofs.Emission.ValidatorEmission

/-!
# What schemas are given up for

Emission of a schema ends with an error of a schema for one of two reasons: a reference of its own
tree is broken, or a schema that it needs was begun for its sake and ended with the error. All that is
given up on the way lies between the schema and the broken reference, and nothing is given up by an
emission that gives a result.
-/

namespace ClientGen

open Api Emission Graph Relation Schema Template TypeScript

/-! ### Broken references -/

/-- The tree of the schema has a reference that leads nowhere, as the error says. -/
def Api.Description.Breaks (d : Description) (s : String) (e : SchemaError) : Prop :=
  ∃ n pointer, d.schema? s = some n ∧ pointer ∈ n.pointers ∧ d.resolve pointer = .error e

/-- A chain of references leads from the schema to one with a broken reference. -/
def Api.Description.Doomed (d : Description) (s : String) : Prop :=
  ∃ b e, d.Breaks b e ∧ ReflTransGen (Leads d) s b

namespace Emission

/-! ### Progress -/

/-- The schemas that a file has begun, and those that it has given up. -/
structure Progress where
  begun : List String
  failed : List String

/-- How far a file has come. -/
def DeclarationFile.progress {δ : Type} (f : DeclarationFile δ) : Progress :=
  ⟨f.processed, f.failed⟩

/-- More schemas may have been begun, and none has been given up meanwhile. -/
structure Progress.Advances (p p' : Progress) : Prop where
  begun : p.begun ⊆ p'.begun
  failed : p'.failed = p.failed

/-- The schema `s` is dealt with for the sake of `name`: it is that schema, or a chain leads to it from
one that `name` references and that had not been begun. -/
def Pursued (c : Setting) (begun : String → Prop) (name s : String) : Prop :=
  name = s ∨ ∃ t, Leads c.description name t ∧ t ∈ c.description.schemaNames ∧
    t ∉ c.commonSchemas ∧ ¬ begun t ∧ ReflTransGen (Leads c.description) t s

/-- The error is that of a broken reference that is met for the sake of the schema `name`. -/
def Blamed (c : Setting) (begun : String → Prop) (name : String) (e : SchemaError) : Prop :=
  ∃ b, c.description.Breaks b e ∧ Pursued c begun name b

/-- The schema `name` is given up with an error for a reason. What is given up on the way is pursued
for its sake and leads to a broken reference itself. -/
structure Progress.BreaksOff (c : Setting) (name : String) (e : SchemaError) (p p' : Progress) :
    Prop where
  begun : p.begun ⊆ p'.begun
  reason : Blamed c (· ∈ p.begun) name e
  failed : ∀ s ∈ p'.failed, s ∈ p.failed ∨
    Pursued c (· ∈ p.begun) name s ∧ c.description.Doomed s

variable {c : Setting} {name s : String} {e : SchemaError} {p p' p'' : Progress} {α β : Type}
  {begun begun' : String → Prop}

lemma Pursued.imp (h : Pursued c begun name s) (hb : ∀ t, begun' t → begun t) :
    Pursued c begun' name s := by
  rcases h with own | ⟨t, leads, known, single, new, chain⟩
  · exact .inl own
  · exact .inr ⟨t, leads, known, single, fun old => new (hb t old), chain⟩

lemma Pursued.chain (h : Pursued c begun name s) : ReflTransGen (Leads c.description) name s := by
  rcases h with rfl | ⟨t, leads, -, -, -, chain⟩
  · exact .refl
  · exact chain.head leads

lemma Blamed.imp (h : Blamed c begun name e) (hb : ∀ t, begun' t → begun t) :
    Blamed c begun' name e := by
  obtain ⟨b, breaks, pursued⟩ := h
  exact ⟨b, breaks, pursued.imp hb⟩

namespace Progress

lemma Advances.refl (p : Progress) : p.Advances p :=
  ⟨fun _ h => h, rfl⟩

lemma Advances.trans (h : p.Advances p') (h' : p'.Advances p'') : p.Advances p'' :=
  ⟨List.Subset.trans h.begun h'.begun, h'.failed.trans h.failed⟩

/-- A schema is begun. -/
lemma advances_start : p.Advances ⟨p.begun ++ [name], p.failed⟩ :=
  ⟨List.subset_append_left _ _, rfl⟩

lemma BreaksOff.after (h : p.Advances p') (h' : p'.BreaksOff c name e p'') :
    p.BreaksOff c name e p'' where
  begun := List.Subset.trans h.begun h'.begun
  reason := h'.reason.imp fun _ old => h.begun old
  failed s hs := by
    rw [← h.failed]
    exact (h'.failed s hs).imp_right (And.imp_left (·.imp fun _ old => h.begun old))

/-- A reference of its own tree is broken. -/
lemma breaksOff_of_breaks (h : c.description.Breaks name e) : p.BreaksOff c name e p where
  begun _ hs := hs
  reason := ⟨name, h, .inl rfl⟩
  failed _ hs := .inl hs

/-- A schema that was begun for the sake of `name` is given up, and `name` with it. -/
lemma BreaksOff.up {t : String} (h : p.BreaksOff c t e p') (leads : Leads c.description name t)
    (known : t ∈ c.description.schemaNames) (single : t ∉ c.commonSchemas) (new : t ∉ p.begun) :
    p.BreaksOff c name e p' := by
  have up {s : String} (pursued : Pursued c (· ∈ p.begun) t s) :
      Pursued c (· ∈ p.begun) name s := .inr ⟨t, leads, known, single, new, pursued.chain⟩
  obtain ⟨b, breaks, pursued⟩ := h.reason
  exact ⟨h.begun, ⟨b, breaks, up pursued⟩, fun s hs => (h.failed s hs).imp_right (And.imp_left up)⟩

/-- The schema itself is given up last. -/
lemma BreaksOff.finish (h : p.BreaksOff c name e p') :
    p.BreaksOff c name e ⟨p'.begun, addNew p'.failed name⟩ where
  begun := h.begun
  reason := h.reason
  failed s hs := by
    rcases mem_addNew.1 hs with hs | rfl
    · exact h.failed s hs
    · obtain ⟨b, breaks, pursued⟩ := h.reason
      exact .inr ⟨.inl rfl, b, e, breaks, pursued.chain⟩

end Progress

/-! ### Emissions for the sake of a schema -/

/-- An emission for the sake of the schema `name`: nothing is given up if it gives a result, and an
error of a schema has its reason in `name`. -/
def Serves (c : Setting) (view : Workspace → Progress) (name : String) (x : Emit α) : Prop :=
  ∀ w, Meets x w (fun _ w' => (view w).Advances (view w'))
    fun e w' => ∀ s, e = .schema s → (view w).BreaksOff c name s (view w')

namespace Serves

variable {view : Workspace → Progress} {x : Emit α} {f : α → Emit β}

lemma pure {a : α} : Serves c view name (pure a) :=
  fun w => meets_pure.2 (.refl (view w))

lemma bind (hx : Serves c view name x) (hf : ∀ a, Serves c view name (f a)) :
    Serves c view name (x >>= f) := by
  intro w
  apply meets_bind.2
  apply (hx w).imp
  · intro a w' first
    apply (hf a w').imp
    · exact fun _ _ second => first.trans second
    · exact fun e w'' second s hs => (second s hs).after first
  · exact fun _ _ he => he

lemma map {g : α → β} (h : Serves c view name x) : Serves c view name (g <$> x) :=
  fun w => meets_map.2 (h w)

lemma ite {b : Prop} [Decidable b] {y : Emit α} (yes : b → Serves c view name x)
    (no : ¬b → Serves c view name y) : Serves c view name (if b then x else y) := by
  by_cases h : b
  · rw [if_pos h]
    exact yes h
  · rw [if_neg h]
    exact no h

lemma get_bind {f : Workspace → Emit β} (h : ∀ w, Serves c view name (f w)) :
    Serves c view name (get >>= f) :=
  fun w => meets_bind.2 (meets_get.2 (h w w))

lemma modify {g : Workspace → Workspace} (still : ∀ w, view (g w) = view w) :
    Serves c view name (modify g) := by
  intro w
  apply meets_modify.2
  rw [still w]
  exact .refl _

lemma mapM {γ δ : Type} {g : γ → Emit δ} : ∀ {items : List γ},
    (∀ a ∈ items, Serves c view name (g a)) → Serves c view name (items.mapM g)
  | [], _ => by
    rw [List.mapM_nil]
    exact .pure
  | a :: rest, h => by
    rw [List.mapM_cons]
    exact (h a List.mem_cons_self).bind fun _ =>
      (mapM fun b hb => h b (List.mem_cons_of_mem a hb)).bind fun _ => .pure

/-- Whatever leaves both lists as they are and ends with no error of a schema. -/
lemma of_meets {T : Workspace → α → Workspace → Prop}
    {F : Workspace → EmitError → Workspace → Prop} (h : ∀ w, Meets x w (T w) (F w))
    (still : ∀ w a w', T w a w' → view w' = view w)
    (other : ∀ w e w', F w e w' → ∀ s, e ≠ .schema s) : Serves c view name x := by
  intro w
  apply (h w).imp
  · intro a w' ha
    rw [still w a w' ha]
    exact .refl _
  · exact fun e w' he s hs => absurd hs (other w e w' he s)

/-- A broken reference of the schema's own tree is a reason to give it up. -/
lemma orSchemaError_bind {r : Except SchemaError α}
    (error : ∀ e, r = .error e → c.description.Breaks name e)
    (ok : ∀ a, r = .ok a → Serves c view name (f a)) :
    Serves c view name (orSchemaError r >>= f) := by
  intro w
  refine meets_bind.2 (meets_liftM.2 ⟨fun a ha => ?_, fun e he => ?_⟩)
  · exact ok a (Contract.mapError_eq_ok ha) w
  · obtain ⟨e', broken, rfl⟩ := Contract.mapError_eq_error he
    rintro _ ⟨⟩
    exact Progress.breaksOff_of_breaks (error e' broken)

/-- Digits that cannot be written are no error of a schema. -/
lemma orDigitsFault {r : Except Number.DigitsFault α} :
    Serves c view name (orDigitsFault r) := by
  intro w
  refine meets_liftM.2 ⟨fun _ _ => .refl _, fun e he => ?_⟩
  obtain ⟨e', -, rfl⟩ := Contract.mapError_eq_error he
  exact nofun

/-- The name of a known schema is asked for. -/
lemma typeName {s : String} {n : SchemaNode} (known : c.description.schema? s = some n)
    (still : ∀ w r, view { w with registry := r } = view w) :
    Serves c view name (typeName c s) := by
  apply of_meets (fun w => typeName_meets)
  · rintro w x _ ⟨-, ⟨r, -, rfl⟩, -⟩
    exact still w r
  · rintro w e w' ⟨-, e', -, unknown⟩
    exact absurd unknown (schema_ne_error known)

lemma inlineEnumName {values : List String} {context : Option Enumeration.Context}
    (still : ∀ w r log, view { w with registry := r, log } = view w) :
    Serves c view name (inlineEnumName values context) := by
  apply of_meets (fun w => inlineEnumName_meets)
  · rintro w x _ ⟨-, log, rfl⟩
    exact still w _ log
  · exact fun _ _ _ h => h.elim

end Serves

/-! ### Types -/

section Types

/-- How far the type file has come. -/
abbrev typeProgress (w : Workspace) : Progress := w.types.progress

variable {references : ReferenceTypes} {parent : String} {namespace_ property : Option String}
  {node : SchemaNode} {depth : Int}

lemma declareType_serves {d : TypeDeclaration} :
    Serves c typeProgress name (declareType c d) := by
  apply Serves.of_meets (fun w => declareType_meets)
  · rintro w _ _ ⟨d', -, -, rfl⟩
    simp [DeclarationFile.progress]
  · rintro w _ _ ⟨e', rfl, -⟩
    exact nofun

lemma ensureTypeEnum_serves {x : String} {values : List String} {description : Option String} :
    Serves c typeProgress name (ensureTypeEnum c x values description) :=
  .get_bind fun _ => .ite (fun _ => .pure) fun _ => declareType_serves

lemma commonType_serves {x : String} :
    Serves c typeProgress name (commonType namespace_ x) := by
  unfold commonType
  cases namespace_ with
  | none => exact .bind (.modify fun _ => rfl) fun _ => .pure
  | some n => exact .pure

lemma enumType_serves {values : List String} :
    Serves c typeProgress name (enumType c namespace_ parent property values) := by
  apply Serves.bind (.inlineEnumName fun _ _ _ => rfl)
  intro x
  exact .ite (fun _ => commonType_serves) fun _ => .bind ensureTypeEnum_serves fun _ => .pure

lemma nestedType_serves {nullable : Bool} {type : Emit TypeExpr}
    (h : Serves c typeProgress name type) :
    Serves c typeProgress name (nestedType c parent depth nullable type) :=
  .ite (fun _ => .bind (.modify fun _ => rfl) fun _ => .pure) fun _ => h.bind fun _ => .pure

mutual

/-- A type is found for the sake of whatever schema its references are found for. -/
lemma typeAt_serves : ∀ (property : Option String) (depth : Int) (n : SchemaNode),
    (∀ pointer ∈ n.pointers, ∀ notes, Serves c typeProgress name (references pointer notes)) →
    Serves c typeProgress name (typeAt c namespace_ references parent property depth n)
  | property, depth, .primitive _ _ _, _ => by
    rw [typeAt]
    exact nestedType_serves .pure
  | property, depth, .enumeration _ _, _ => by
    rw [typeAt]
    exact nestedType_serves enumType_serves
  | property, depth, .array items _ _, found => by
    rw [typeAt]
    exact nestedType_serves (typeAt_serves none (depth + 1) items found).map
  | property, depth, .object [] none _, _ => by
    rw [typeAt]
    exact nestedType_serves .pure
  | property, depth, .object [] (some value) _, found => by
    rw [typeAt]
    refine nestedType_serves (typeAt_serves none (depth + 1) value fun p hp => found p ?_).map
    simpa [SchemaNode.pointers, SchemaNode.pointersOpt, Property.pointersAll] using hp
  | property, depth, .object (p :: ps) _ _, found => by
    rw [typeAt]
    · exact nestedType_serves (membersAt_serves (depth + 1) (p :: ps) fun q hq =>
        found q (List.mem_append_left _ hq)).map
    all_goals simp
  | property, depth, .reference pointer notes, found => by
    rw [typeAt]
    exact nestedType_serves (found pointer (by simp [SchemaNode.pointers]) notes)
  | property, depth, .oneOf _ _, _ | property, depth, .anyOf _ _, _
  | property, depth, .allOf _ _, _ | property, depth, .unknown _, _ => by
    rw [typeAt]
    exact nestedType_serves .pure

lemma membersAt_serves : ∀ (depth : Int) (ps : List Property),
    (∀ pointer ∈ Property.pointersAll ps, ∀ notes,
      Serves c typeProgress name (references pointer notes)) →
    Serves c typeProgress name (membersAt c namespace_ references parent depth ps)
  | depth, [], _ => by
    rw [membersAt]
    exact .pure
  | depth, ⟨_, _, n⟩ :: rest, found => by
    rw [membersAt]
    apply (typeAt_serves _ depth n fun q hq => found q (List.mem_append_left _ hq)).bind
    intro _
    apply (membersAt_serves depth rest fun q hq => found q (List.mem_append_right _ hq)).bind
    exact fun _ => .pure

end

/-- What is known of the emission of types one inside the other: a schema that had not been begun is
given up for a reason. -/
def GivesUpTypes (c : Setting) (emit : String → SchemaNode → Emit Unit) : Prop :=
  ∀ s n w, c.description.schema? s = some n → s ∉ w.types.processed →
    Meets (emit s n) w (fun _ w' => (typeProgress w).Advances (typeProgress w'))
      fun e w' => ∀ e', e = .schema e' → (typeProgress w).BreaksOff c s e' (typeProgress w')

variable {emit : String → SchemaNode → Emit Unit} {pointer : String} {notes : Notes}

/-- A schema is begun for the sake of one that references it. -/
lemma demandType_serves {t : String} {target : SchemaNode}
    (there : c.description.schema? t = some target) (leads : Leads c.description name t)
    (single : t ∉ c.commonSchemas) (emits : GivesUpTypes c emit) :
    Serves c typeProgress name (demandType emit t target) := by
  intro w
  refine meets_bind.2 (meets_get.2 ?_)
  split
  · next new =>
    replace new : t ∉ w.types.processed := by simpa using new
    apply (emits t target w there new).imp
    · exact fun _ _ h => h
    · exact fun e w' h s hs => (h s hs).up leads (mem_schemaNames there) single new
  · exact meets_pure.2 (.refl _)

/-- A reference of a schema is found for its sake. -/
lemma referenceType_serves (known : c.description.schema? name = some node)
    (hp : pointer ∈ node.pointers) (emits : GivesUpTypes c emit) :
    Serves c typeProgress name (referenceType c namespace_ emit pointer notes) := by
  apply Serves.orSchemaError_bind
  · exact fun e broken => ⟨node, pointer, known, hp, broken⟩
  · rintro ⟨t, target⟩ resolved
    have there := resolve_eq_ok resolved
    have leads : Leads c.description name t := leads_of_resolve known hp resolved
    have named : Serves c typeProgress name (typeName c t) := .typeName there fun _ _ => rfl
    refine .get_bind fun w => .ite (fun _ => .pure) fun _ => .bind (.ite (fun _ => ?_)
      fun single => ?_) fun _ => .pure
    · exact named.bind fun _ => commonType_serves
    · exact (demandType_serves there leads (by simpa using single) emits).bind fun _ =>
        named.bind fun _ => .pure

lemma declareSchemaType_serves (known : c.description.schema? name = some node)
    (found : ∀ pointer ∈ node.pointers, ∀ notes,
      Serves c typeProgress name (references pointer notes)) :
    Serves c typeProgress name (declareSchemaType c references name node) := by
  unfold declareSchemaType
  refine Serves.bind (.typeName known fun _ _ => rfl) fun x => ?_
  split
  · exact ensureTypeEnum_serves
  · refine Serves.bind (.mapM fun p hp => ?_) fun _ => declareType_serves
    refine (typeAt_serves _ 1 p.schema fun q hq => found q ?_).bind fun _ => .pure
    exact List.mem_append_left _ (Property.pointers_subset_of_mem hp hq)
  · exact (typeAt_serves none 1 node found).bind fun _ => declareType_serves

/-- A schema that had not been begun is given up for a reason, however deep the emission goes. -/
lemma emitTypeWithin_givesUp : ∀ budget, GivesUpTypes c (emitTypeWithin c budget)
  | 0 => fun _ _ _ _ _ => meets_pure.2 (.refl _)
  | budget + 1 => fun s n w known _ => by
    have body : Serves c typeProgress s (declareSchemaType c
        (referenceType c none (emitTypeWithin c budget)) s n) :=
      declareSchemaType_serves known fun pointer hp notes =>
        referenceType_serves known hp (emitTypeWithin_givesUp budget)
    have started : (typeProgress w).Advances ⟨w.types.processed ++ [s], w.types.failed⟩ :=
      Progress.advances_start
    rw [emitTypeWithin]
    refine meets_bind.2 (meets_modify.2 (meets_bind.2 (meets_caught.2 ((body _).imp ?_ ?_))))
    · exact fun _ _ rest => meets_pure.2 (started.trans rest)
    · rintro (e | e | e | e) w' rest
      · refine meets_bind.2 (meets_modify.2 (meets_throw.2 ?_))
        rintro _ ⟨⟩
        exact (Progress.BreaksOff.after started (rest e rfl)).finish
      all_goals rintro _ ⟨⟩

/-- The type of a known schema is given up for a reason. -/
lemma emitType_givesUp (known : c.description.schema? name = some node) :
    Serves c typeProgress name (emitType c name none) := by
  intro w
  refine meets_bind.2 (meets_get.2 ?_)
  split
  · exact meets_pure.2 (.refl _)
  · next new =>
    refine meets_bind.2 (meets_liftM.2 ⟨fun n hn => ?_, fun e he => ?_⟩)
    · have there := schema_eq_ok (Contract.mapError_eq_ok hn)
      exact emitTypeWithin_givesUp _ name n w there (by simpa using new)
    · obtain ⟨e', unknown, -⟩ := Contract.mapError_eq_error he
      exact absurd unknown (schema_ne_error known)

end Types

/-! ### Validators -/

section Validators

/-- How far the validator file has come. -/
abbrev validatorProgress (w : Workspace) : Progress := w.validators.progress

variable {references : ReferenceValidators} {parent : String} {property : Option String}
  {node : SchemaNode} {depth : Int} {path : List String}

lemma declareValidator_serves {d : ValidatorDeclaration} :
    Serves c validatorProgress name (declareValidator c d) := by
  apply Serves.of_meets (fun w => declareValidator_meets)
  · rintro w _ _ ⟨d', -, -, rfl⟩
    simp [DeclarationFile.progress]
  · rintro w _ _ ⟨e', rfl, -⟩
    exact nofun

lemma ensureValidatorEnum_serves {x : String} {values : List String} :
    Serves c validatorProgress name (ensureValidatorEnum c x values) :=
  .get_bind fun _ => .ite (fun _ => .pure) fun _ => declareValidator_serves

lemma enumValidator_serves {values : List String} :
    Serves c validatorProgress name (enumValidator c parent property values) := by
  apply Serves.bind (.inlineEnumName fun _ _ _ => rfl)
  intro x
  exact .ite (fun _ => .bind (.modify fun _ => rfl) fun _ => .pure)
    fun _ => .bind ensureValidatorEnum_serves fun _ => .pure

lemma nestedValidator_serves {nullable : Bool} {validator : Emit Validator}
    (h : Serves c validatorProgress name validator) :
    Serves c validatorProgress name (nestedValidator c parent depth nullable validator) :=
  .ite (fun _ => .bind (.modify fun _ => rfl) fun _ => .pure) fun _ => h.bind fun _ => .pure

mutual

/-- A validator is found for the sake of whatever schema its references are found for. -/
lemma validatorAt_serves : ∀ (property : Option String) (depth : Int) (n : SchemaNode),
    (∀ pointer ∈ n.pointers, ∀ notes,
      Serves c validatorProgress name (references pointer notes)) →
    Serves c validatorProgress name (validatorAt c references parent property depth n)
  | property, depth, .primitive _ _ _, _ => by
    rw [validatorAt]
    exact nestedValidator_serves .orDigitsFault
  | property, depth, .enumeration _ _, _ => by
    rw [validatorAt]
    exact nestedValidator_serves enumValidator_serves
  | property, depth, .array items _ _, found => by
    rw [validatorAt]
    exact nestedValidator_serves ((validatorAt_serves none (depth + 1) items found).bind
      fun _ => .orDigitsFault)
  | property, depth, .object [] none _, _ => by
    rw [validatorAt]
    exact nestedValidator_serves .pure
  | property, depth, .object [] (some value) _, found => by
    rw [validatorAt]
    refine nestedValidator_serves
      (validatorAt_serves none (depth + 1) value fun p hp => found p ?_).map
    simpa [SchemaNode.pointers, SchemaNode.pointersOpt, Property.pointersAll] using hp
  | property, depth, .object (p :: ps) _ _, found => by
    rw [validatorAt]
    · exact nestedValidator_serves (fieldsAt_serves (depth + 1) (p :: ps) fun q hq =>
        found q (List.mem_append_left _ hq)).map
    all_goals simp
  | property, depth, .reference pointer notes, found => by
    rw [validatorAt]
    exact nestedValidator_serves (found pointer (by simp [SchemaNode.pointers]) notes)
  | property, depth, .allOf members _, found | property, depth, .oneOf members _, found
  | property, depth, .anyOf members _, found => by
    rw [validatorAt]
    exact nestedValidator_serves (validatorsAt_serves property (depth + 1) members found).map
  | property, depth, .unknown _, _ => by
    rw [validatorAt]
    exact nestedValidator_serves .pure

lemma validatorsAt_serves : ∀ (property : Option String) (depth : Int) (ns : List SchemaNode),
    (∀ pointer ∈ SchemaNode.pointersAll ns, ∀ notes,
      Serves c validatorProgress name (references pointer notes)) →
    Serves c validatorProgress name (validatorsAt c references parent property depth ns)
  | property, depth, [], _ => by
    rw [validatorsAt]
    exact .pure
  | property, depth, n :: rest, found => by
    rw [validatorsAt]
    apply (validatorAt_serves property depth n
      fun q hq => found q (List.mem_append_left _ hq)).bind
    intro _
    apply (validatorsAt_serves property depth rest
      fun q hq => found q (List.mem_append_right _ hq)).bind
    exact fun _ => .pure

lemma fieldsAt_serves : ∀ (depth : Int) (ps : List Property),
    (∀ pointer ∈ Property.pointersAll ps, ∀ notes,
      Serves c validatorProgress name (references pointer notes)) →
    Serves c validatorProgress name (fieldsAt c references parent depth ps)
  | depth, [], _ => by
    rw [fieldsAt]
    exact .pure
  | depth, ⟨_, _, n⟩ :: rest, found => by
    rw [fieldsAt]
    apply (validatorAt_serves _ depth n fun q hq => found q (List.mem_append_left _ hq)).bind
    intro _
    apply (fieldsAt_serves depth rest fun q hq => found q (List.mem_append_right _ hq)).bind
    exact fun _ => .pure

end

/-- What is known of the emission of validators one inside the other: a schema that had not been
begun is given up for a reason. -/
def GivesUpValidators (c : Setting) (emit : String → SchemaNode → Emit Unit) : Prop :=
  ∀ s n w, c.description.schema? s = some n → s ∉ w.validators.processed →
    Meets (emit s n) w (fun _ w' => (validatorProgress w).Advances (validatorProgress w'))
      fun e w' => ∀ e', e = .schema e' →
        (validatorProgress w).BreaksOff c s e' (validatorProgress w')

variable {emit : String → SchemaNode → Emit Unit} {pointer : String} {notes : Notes}

lemma constName_serves {s : String} {n : SchemaNode} (known : c.description.schema? s = some n) :
    Serves c validatorProgress name (constName c s) :=
  (Serves.typeName known fun _ _ => rfl).map

/-- A schema is begun for the sake of one that references it. -/
lemma demandValidator_serves {t : String} {target : SchemaNode}
    (there : c.description.schema? t = some target) (leads : Leads c.description name t)
    (single : t ∉ c.commonSchemas) (emits : GivesUpValidators c emit) :
    Serves c validatorProgress name (demandValidator emit t target) := by
  intro w
  refine meets_bind.2 (meets_get.2 ?_)
  split
  · next new =>
    replace new : t ∉ w.validators.processed := by simpa using new
    apply (emits t target w there new).imp
    · exact fun _ _ h => h
    · exact fun e w' h s hs => (h s hs).up leads (mem_schemaNames there) single new
  · exact meets_pure.2 (.refl _)

/-- A reference of a schema is found for its sake. -/
lemma referenceValidator_serves (known : c.description.schema? name = some node)
    (hp : pointer ∈ node.pointers) (emits : GivesUpValidators c emit) :
    Serves c validatorProgress name (referenceValidator c path emit pointer notes) := by
  apply Serves.orSchemaError_bind
  · exact fun e broken => ⟨node, pointer, known, hp, broken⟩
  · rintro ⟨t, target⟩ resolved
    have there := resolve_eq_ok resolved
    have leads : Leads c.description name t := leads_of_resolve known hp resolved
    have named : Serves c validatorProgress name (constName c t) := constName_serves there
    refine .get_bind fun w => .ite (fun _ => .pure) fun _ => .ite (fun _ => ?_) fun single =>
      .ite (fun _ => ?_) fun _ => ?_
    · exact .bind (.modify fun _ => rfl) fun _ => named.bind fun _ => .pure
    · exact .bind (.modify fun _ => rfl) fun _ => named.bind fun _ => .pure
    · exact (demandValidator_serves there leads (by simpa using single) emits).bind fun _ =>
        named.bind fun _ => .pure

lemma declareSchemaValidator_serves (known : c.description.schema? name = some node)
    (found : ∀ pointer ∈ node.pointers, ∀ notes,
      Serves c validatorProgress name (references pointer notes)) :
    Serves c validatorProgress name (declareSchemaValidator c references name node) := by
  unfold declareSchemaValidator
  split
  · exact .bind (.typeName known fun _ _ => rfl) fun _ => ensureValidatorEnum_serves
  · refine (validatorAt_serves none 1 node found).bind fun _ => ?_
    exact (constName_serves known).bind fun _ => .get_bind fun _ => declareValidator_serves

/-- A schema that had not been begun is given up for a reason, however deep the emission goes. -/
lemma emitValidatorWithin_givesUp : ∀ budget path,
    GivesUpValidators c (emitValidatorWithin c budget path)
  | 0, _ => fun _ _ _ _ _ => meets_pure.2 (.refl _)
  | budget + 1, path => fun s n w known _ => by
    have body : Serves c validatorProgress s (declareSchemaValidator c
        (referenceValidator c (s :: path) (emitValidatorWithin c budget (s :: path))) s n) :=
      declareSchemaValidator_serves known fun pointer hp notes =>
        referenceValidator_serves known hp (emitValidatorWithin_givesUp budget (s :: path))
    have started : (validatorProgress w).Advances
        ⟨w.validators.processed ++ [s], w.validators.failed⟩ := Progress.advances_start
    rw [emitValidatorWithin]
    refine meets_bind.2 (meets_modify.2 (meets_bind.2 (meets_caught.2 ((body _).imp ?_ ?_))))
    · exact fun _ _ rest => meets_pure.2 (started.trans rest)
    · rintro (e | e | e | e) w' rest
      · refine meets_bind.2 (meets_modify.2 (meets_throw.2 ?_))
        rintro _ ⟨⟩
        exact (Progress.BreaksOff.after started (rest e rfl)).finish
      all_goals rintro _ ⟨⟩

/-- The validator of a known schema is given up for a reason. -/
lemma emitValidator_givesUp (known : c.description.schema? name = some node) :
    Serves c validatorProgress name (emitValidator c name none) := by
  intro w
  refine meets_bind.2 (meets_get.2 ?_)
  split
  · exact meets_pure.2 (.refl _)
  · next new =>
    refine meets_bind.2 (meets_liftM.2 ⟨fun n hn => ?_, fun e he => ?_⟩)
    · have there := schema_eq_ok (Contract.mapError_eq_ok hn)
      exact emitValidatorWithin_givesUp _ [] name n w there (by simpa using new)
    · obtain ⟨e', unknown, -⟩ := Contract.mapError_eq_error he
      exact absurd unknown (schema_ne_error known)

end Validators

end Emission

end ClientGen
