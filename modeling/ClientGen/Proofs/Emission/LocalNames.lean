import ClientGen.Proofs.Emission.History
import ClientGen.Proofs.Emission.TypeLowering
import ClientGen.Proofs.Emission.TypeSteps
import ClientGen.Proofs.Enumeration.Names

/-!
# What the types of a file go through

The type of a schema goes through the namespace that it is written for or through that of the shared
schemas, and to names that start with letters or digits. The declarations of a file are written for
no namespace, so that they go through that of the shared schemas at most.
-/

namespace ClientGen.Emission

open Api Enumeration Naming Output Schema TypeScript

variable {c : Setting} {R : Requests c} {w w' : Workspace} {r : Registry} {failed : List String}
  {namespace_ property : Option String} {parent s : String} {depth : Int} {t : TypeExpr}

/-- What a type that is written for a namespace may refer to. -/
def Reachable (namespace_ q : Option String) (x : String) : Prop :=
  (q = namespace_ ∨ q = some commonNamespace) ∧ StartsWord x

lemma reachable_through (shared : List String) {x : String} (y : String) (word : StartsWord x) :
    Reachable namespace_ (through shared namespace_ y) x := by
  unfold through
  split
  · exact ⟨.inr rfl, word⟩
  · exact ⟨.inl rfl, word⟩

/-! ### Names -/

lemma startsWord_of_identifier? (worded : r.Worded) {x : String} (h : c.identifier? r s = some x) :
    StartsWord x := by
  unfold Setting.identifier? at h
  split at h
  · exact worded x ⟨_, h⟩
  · rw [← Option.some.inj h]
    exact startsWord_typeIdentifier s
  · cases h

lemma startsWord_of_named (worded : r.Worded) {q : Question} {x : String} (h : q.Named r x) :
    StartsWord x := by
  obtain ⟨key, -, hx⟩ := h
  exact worded x ⟨key, hx⟩

lemma worded_steps (h : w.registry.Worded) (steps : Steps R w w') : w'.registry.Worded := by
  induction steps with
  | refl => exact h
  | tail _ step ih =>
    cases step with
    | ask _ => exact ih.ask
    | _ => exact ih

/-! ### Types -/

lemma nested_mentionsOnly {nullable : Bool} {lowered : TypeExpr → Prop}
    {P : Option String → String → Prop} (each : ∀ t, lowered t → t.MentionsOnly P)
    (h : Nested c depth nullable .any TypeExpr.withNull lowered t) : t.MentionsOnly P := by
  unfold Nested at h
  split at h
  · exact h ▸ TypeExpr.mentionsOnly_any
  · obtain ⟨t', ht, rfl⟩ := h
    split
    · exact (each t' ht).withNull
    · exact each t' ht

lemma mentionsOnly_of_referenceTypeOf (worded : r.Worded) {pointer : String} {notes : Notes}
    (h : ReferenceTypeOf c r failed namespace_ pointer notes t) :
    t.MentionsOnly (Reachable namespace_) := by
  obtain ⟨s, target, -, ⟨-, rfl⟩ | ⟨x, hx, rfl⟩⟩ := h
  · exact TypeExpr.mentionsOnly_any
  · have named := TypeExpr.mentionsOnly_named (P := Reachable namespace_)
      (reachable_through c.commonSchemas s (startsWord_of_identifier? worded hx))
    dsimp only
    split
    · exact named.orNull
    · exact named

mutual

lemma mentionsOnly_of_typeOf (worded : r.Worded) :
    ∀ (property : Option String) (depth : Int) (n : SchemaNode) (t : TypeExpr),
      TypeOf c r failed namespace_ parent property depth n t → t.MentionsOnly (Reachable namespace_)
  | property, depth, .primitive _ _ _, t, h => by
    rw [TypeOf] at h
    refine nested_mentionsOnly (fun t ht => ?_) h
    rw [show t = _ from ht]
    exact mentionsOnly_scalarType
  | property, depth, .enumeration values _, t, h => by
    rw [TypeOf] at h
    refine nested_mentionsOnly (fun t ht => ?_) h
    obtain ⟨x, named, rfl⟩ := ht
    exact TypeExpr.mentionsOnly_named (reachable_through _ _ (startsWord_of_named worded named))
  | property, depth, .array items _ _, t, h => by
    rw [TypeOf] at h
    refine nested_mentionsOnly (fun t ht => ?_) h
    obtain ⟨item, hitem, rfl⟩ := ht
    exact (mentionsOnly_of_typeOf worded none (depth + 1) items item hitem).array
  | property, depth, .object [] none _, t, h => by
    rw [TypeOf] at h
    refine nested_mentionsOnly (fun t ht => ?_) h
    rw [show t = _ from ht]
    exact TypeExpr.mentionsOnly_any.record
  | property, depth, .object [] (some value) _, t, h => by
    rw [TypeOf] at h
    refine nested_mentionsOnly (fun t ht => ?_) h
    obtain ⟨item, hitem, rfl⟩ := ht
    exact (mentionsOnly_of_typeOf worded none (depth + 1) value item hitem).record
  | property, depth, .object (p :: ps) _ _, t, h => by
    rw [TypeOf] at h
    refine nested_mentionsOnly (fun t ht => ?_) h
    obtain ⟨members, hm, rfl⟩ := ht
    exact mentionsOnly_of_membersOf worded (depth + 1) (p :: ps) members hm
  | property, depth, .reference pointer notes, t, h => by
    rw [TypeOf] at h
    exact nested_mentionsOnly (fun t ht => mentionsOnly_of_referenceTypeOf worded ht) h
  | property, depth, .oneOf _ _, t, h | property, depth, .anyOf _ _, t, h
  | property, depth, .allOf _ _, t, h | property, depth, .unknown _, t, h => by
    rw [TypeOf] at h
    refine nested_mentionsOnly (fun t ht => ?_) h
    rw [show t = _ from ht]
    exact TypeExpr.mentionsOnly_any

lemma mentionsOnly_of_membersOf (worded : r.Worded) :
    ∀ (depth : Int) (ps : List Property) (ms : List Member),
      MembersOf c r failed namespace_ parent depth ps ms →
        (TypeExpr.object ms).MentionsOnly (Reachable namespace_)
  | depth, [], ms, h => by
    rw [MembersOf] at h
    rw [h]
    exact TypeExpr.mentionsOnly_object_nil
  | depth, ⟨name, required, n⟩ :: rest, ms, h => by
    rw [MembersOf] at h
    obtain ⟨t, others, ht, hothers, rfl⟩ := h
    exact (mentionsOnly_of_typeOf worded (some name) depth n t ht).object_cons
      (mentionsOnly_of_membersOf worded depth rest others hothers)

end

/-! ### Declarations -/

/-- A declaration goes through no namespace but that of the shared schemas. -/
def IsLocal (d : TypeDeclaration) : Prop :=
  ∀ q x, d.Mentions q x → q = none ∨ q = some commonNamespace

lemma isLocal_of_declaresType (worded : r.Worded) {d : TypeDeclaration}
    (h : DeclaresType c r failed s d) : IsLocal d := by
  have local_ {property : Option String} {n : SchemaNode} {t : TypeExpr}
      (h : TypeOf c r failed none s property 1 n t) {q : Option String} {x : String}
      (hm : t.Mentions q x) : q = none ∨ q = some commonNamespace :=
    (mentionsOnly_of_typeOf worded property 1 n t h q x hm).1
  intro q x hm
  obtain ⟨node, y, -, -, h⟩ := h
  split at h
  · subst h
    exact hm.elim
  · obtain ⟨fields, each, rfl⟩ := h
    obtain ⟨field, hf, hm⟩ := hm
    obtain ⟨p, -, t, ht, rfl⟩ := exists_of_forall₂_right each hf
    exact local_ ht hm
  · obtain ⟨t, ht, rfl⟩ := h
    exact local_ ht hm

/-- Whatever questions and errors there are, only schemas and enumerations are declared. -/
def Requests.any (c : Setting) : Requests c where
  asks _ := True
  beside _ := False
  faulty _ := True
  schemas _ _ := trivial
  broken _ _ _ := trivial

lemma isLocal_of_typeWanted (worded : r.Worded) {f : DeclarationFile TypeDeclaration}
    {d : TypeDeclaration} (h : TypeWanted (Requests.any c) r f d) : IsLocal d := by
  cases h with
  | schema _ hd => exact isLocal_of_declaresType worded hd
  | enumeration => exact fun _ _ => False.elim
  | query beside => exact beside.elim

/-- What emission adds to the types of a file is local to it. -/
lemma declarations_of_steps (h : w.registry.Worded) (steps : Steps (Requests.any c) w w') :
    ∀ d ∈ w'.types.declarations, d ∈ w.types.declarations ∨ IsLocal d.declaration := by
  induction steps with
  | refl => exact fun _ hd => .inl hd
  | tail steps step ih =>
    cases step with
    | declareType wanted =>
      intro d hd
      rcases DeclarationFile.mem_declarations_add hd with hd | ⟨rfl, -⟩
      · exact ih d hd
      · exact .inr (isLocal_of_typeWanted (worded_steps h steps) wanted)
    | _ => exact ih

lemma typeAt_any {n : SchemaNode} : (Requests.any c).Takes
    (typeAt c namespace_ (outerReferenceType c namespace_) parent property depth n) w fun t w' =>
      TypeOf c w'.registry w'.types.failed namespace_ parent property depth n t :=
  typeAt_takes property depth n w (fun _ _ _ _ _ =>
    referenceType_takes (emitTypeWithin_takes _) fun _ _ => trivial) fun _ _ => trivial

end ClientGen.Emission
