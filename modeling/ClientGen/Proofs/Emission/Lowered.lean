import ClientGen.Emission.Types
import ClientGen.Emission.Validators
import ClientGen.Proofs.Emission.Ground
import ClientGen.Proofs.Enumeration.Names

/-!
# What schemas are lowered to

Types and validators of a schema as the schema tells them: by its shape, with the names that the
registry knows, and with `any` for what has failed. What a schema is lowered to at one time it is
lowered to later on, for the registry forgets no name and no schema recovers.
-/

namespace ClientGen.Emission

open Api Enumeration Naming Output Schema TypeScript

variable {c : Setting} {r r' : Registry} {failed failed' : List String}
  {namespace_ property : Option String} {parent : String} {depth : Int}

/-- The namespace to what is in a list of shared names, and to everything else. -/
def through (shared : List String) (namespace_ : Option String) (name : String) : Option String :=
  if shared.contains name then some commonNamespace else namespace_

/-- What is lowered at a depth of nesting: `any` where it is too deep, and with null if that is
allowed. -/
def Nested {α : Type} (c : Setting) (depth : Int) (nullable : Bool) (any : α) (withNull : α → α)
    (lowered : α → Prop) (a : α) : Prop :=
  if c.maxDepth < depth then a = any
  else ∃ b, lowered b ∧ a = if nullable then withNull b else b

/-- The enumeration at a place has the name `x`. -/
def EnumNamed (r : Registry) (parent : String) (property : Option String) (values : List String)
    (x : String) : Prop :=
  (Question.inline values (contextOf parent property)).Named r x

/-- Whether a reference adds the null that the enumeration it leads to does not declare. -/
def addsNull (target : SchemaNode) (notes : Notes) : Bool :=
  target.isEnumeration && target.nullable && !notes.nullable

/-- The type of a reference. -/
def ReferenceTypeOf (c : Setting) (r : Registry) (failed : List String)
    (namespace_ : Option String) (pointer : String) (notes : Notes) (t : TypeExpr) : Prop :=
  ∃ s target, c.description.resolve pointer = .ok (s, target) ∧ (s ∈ failed ∧ t = .any ∨
    ∃ x, c.identifier? r s = some x ∧
      t = (let t := .named (through c.commonSchemas namespace_ s) x
           if addsNull target notes then .orNull t else t))

/-- The validator of a reference. A schema that is being lowered itself is looked up only when the
validator is used. -/
def ReferenceValidatorOf (c : Setting) (r : Registry) (failed : List String) (pointer : String)
    (notes : Notes) (v : Validator) : Prop :=
  ∃ s target, c.description.resolve pointer = .ok (s, target) ∧ (s ∈ failed ∧ v = .any ∨
    ∃ x, c.identifier? r s = some x ∧
      (s ∉ c.commonSchemas ∧ target.isEnumeration = false ∧ v = .deferred (validatorName x) ∨
        v = (let v := .named (through c.commonSchemas none s) (validatorName x)
             if addsNull target notes then .orNull v else v)))

mutual

/-- The type of a schema. -/
def TypeOf (c : Setting) (r : Registry) (failed : List String) (namespace_ : Option String)
    (parent : String) : Option String → Int → SchemaNode → TypeExpr → Prop
  | property, depth, node, t =>
    Nested c depth node.nullable .any TypeExpr.withNull (fun t =>
      match node with
      | .primitive kind constraints _ => t = scalarType kind constraints
      | .enumeration values _ => ∃ x, EnumNamed r parent property values x ∧
          t = .named (through c.commonDeclarations namespace_ x) x
      | .array items _ _ => ∃ item,
          TypeOf c r failed namespace_ parent none (depth + 1) items item ∧ t = .array item
      | .object [] none _ => t = .record .any
      | .object [] (some value) _ => ∃ item,
          TypeOf c r failed namespace_ parent none (depth + 1) value item ∧ t = .record item
      | .object properties _ _ => ∃ members,
          MembersOf c r failed namespace_ parent (depth + 1) properties members ∧
            t = .object members
      | .reference pointer notes => ReferenceTypeOf c r failed namespace_ pointer notes t
      | .oneOf _ _ => t = .any
      | .anyOf _ _ => t = .any
      | .allOf _ _ => t = .any
      | .unknown _ => t = .any) t

/-- The members of an object type. -/
def MembersOf (c : Setting) (r : Registry) (failed : List String) (namespace_ : Option String)
    (parent : String) : Int → List Property → List Member → Prop
  | _, [], members => members = []
  | depth, ⟨name, required, schema⟩ :: rest, members => ∃ t others,
      TypeOf c r failed namespace_ parent (some name) depth schema t ∧
        MembersOf c r failed namespace_ parent depth rest others ∧
        members = ⟨propertyKey name, !required, t⟩ :: others

end

mutual

/-- The validator of a schema. -/
def ValidatorOf (c : Setting) (r : Registry) (failed : List String) (parent : String) :
    Option String → Int → SchemaNode → Validator → Prop
  | property, depth, node, v =>
    Nested c depth node.nullable .any Validator.withNull (fun v =>
      match node with
      | .primitive kind constraints _ => v = scalarValidator kind constraints
      | .enumeration values _ => ∃ x, EnumNamed r parent property values x ∧
          v = .named (through c.commonDeclarations none x) (validatorName x)
      | .array items constraints _ => ∃ item,
          ValidatorOf c r failed parent none (depth + 1) items item ∧
            v = .array item (arrayChecks constraints)
      | .object [] none _ => v = .record .any
      | .object [] (some value) _ => ∃ item,
          ValidatorOf c r failed parent none (depth + 1) value item ∧ v = .record item
      | .object properties _ _ => ∃ fields,
          FieldsOf c r failed parent (depth + 1) properties fields ∧
            v = .object (depth - 1) fields
      | .reference pointer notes => ReferenceValidatorOf c r failed pointer notes v
      | .allOf members _ => ∃ vs,
          ValidatorsOf c r failed parent property (depth + 1) members vs ∧
            v = allOfValidator vs
      | .oneOf variants _ => ∃ vs,
          ValidatorsOf c r failed parent property (depth + 1) variants vs ∧
            v = oneOfValidator vs
      | .anyOf variants _ => ∃ vs,
          ValidatorsOf c r failed parent property (depth + 1) variants vs ∧
            v = oneOfValidator vs
      | .unknown _ => v = .any) v

/-- The validators of the members of a composition. -/
def ValidatorsOf (c : Setting) (r : Registry) (failed : List String) (parent : String) :
    Option String → Int → List SchemaNode → List Validator → Prop
  | _, _, [], vs => vs = []
  | property, depth, node :: rest, vs => ∃ v others,
      ValidatorOf c r failed parent property depth node v ∧
        ValidatorsOf c r failed parent property depth rest others ∧ vs = v :: others

/-- The fields of an object. -/
def FieldsOf (c : Setting) (r : Registry) (failed : List String) (parent : String) :
    Int → List Property → List Field → Prop
  | _, [], fields => fields = []
  | depth, ⟨name, required, schema⟩ :: rest, fields => ∃ v others,
      ValidatorOf c r failed parent (some name) depth schema v ∧
        FieldsOf c r failed parent depth rest others ∧
        fields = ⟨propertyKey name, !required, v⟩ :: others

end

/-! ### Later on -/

lemma Nested.imp {α : Type} {nullable : Bool} {any a : α} {withNull : α → α}
    {lowered lowered' : α → Prop} (h : Nested c depth nullable any withNull lowered a)
    (hl : ∀ b, lowered b → lowered' b) : Nested c depth nullable any withNull lowered' a := by
  unfold Nested at h ⊢
  split
  · next deep => rwa [if_pos deep] at h
  · next fits =>
    rw [if_neg fits] at h
    obtain ⟨b, hb, ha⟩ := h
    exact ⟨b, hl b hb, ha⟩

lemma EnumNamed.mono {values : List String} {x : String} (hle : r ≤ r')
    (h : EnumNamed r parent property values x) : EnumNamed r' parent property values x :=
  Question.Named.mono hle h

lemma ReferenceTypeOf.mono {pointer : String} {notes : Notes} {t : TypeExpr} (hle : r ≤ r')
    (hf : failed ⊆ failed') (h : ReferenceTypeOf c r failed namespace_ pointer notes t) :
    ReferenceTypeOf c r' failed' namespace_ pointer notes t := by
  obtain ⟨s, target, hs, ht⟩ := h
  refine ⟨s, target, hs, ht.imp (And.imp_left fun h => hf h) ?_⟩
  rintro ⟨x, hx, ht⟩
  exact ⟨x, identifier?_mono hle hx, ht⟩

lemma ReferenceValidatorOf.mono {pointer : String} {notes : Notes} {v : Validator} (hle : r ≤ r')
    (hf : failed ⊆ failed') (h : ReferenceValidatorOf c r failed pointer notes v) :
    ReferenceValidatorOf c r' failed' pointer notes v := by
  obtain ⟨s, target, hs, hv⟩ := h
  refine ⟨s, target, hs, hv.imp (And.imp_left fun h => hf h) ?_⟩
  rintro ⟨x, hx, hv⟩
  exact ⟨x, identifier?_mono hle hx, hv⟩

mutual

lemma TypeOf.mono (hle : r ≤ r') (hf : failed ⊆ failed') : ∀ {property : Option String}
    {depth : Int} {node : SchemaNode} {t : TypeExpr},
    TypeOf c r failed namespace_ parent property depth node t →
      TypeOf c r' failed' namespace_ parent property depth node t
  | _, _, .primitive _ _ _, _, h | _, _, .object [] none _, _, h | _, _, .oneOf _ _, _, h
  | _, _, .anyOf _ _, _, h | _, _, .allOf _ _, _, h | _, _, .unknown _, _, h => by
    rw [TypeOf] at h ⊢
    exact h
  | _, _, .enumeration _ _, _, h => by
    rw [TypeOf] at h ⊢
    exact h.imp fun _ ⟨x, hx, ht⟩ => ⟨x, hx.mono hle, ht⟩
  | _, _, .array _ _ _, _, h | _, _, .object [] (some _) _, _, h => by
    rw [TypeOf] at h ⊢
    exact h.imp fun _ ⟨item, hi, ht⟩ => ⟨item, hi.mono hle hf, ht⟩
  | _, _, .object (_ :: _) _ _, _, h => by
    rw [TypeOf] at h ⊢
    exact h.imp fun _ ⟨ms, hm, ht⟩ => ⟨ms, hm.mono hle hf, ht⟩
  | _, _, .reference _ _, _, h => by
    rw [TypeOf] at h ⊢
    exact h.imp fun _ ht => ht.mono hle hf

lemma MembersOf.mono (hle : r ≤ r') (hf : failed ⊆ failed') : ∀ {depth : Int}
    {ps : List Property} {ms : List Member}, MembersOf c r failed namespace_ parent depth ps ms →
      MembersOf c r' failed' namespace_ parent depth ps ms
  | _, [], _, h => by
    rw [MembersOf] at h ⊢
    exact h
  | _, ⟨_, _, _⟩ :: _, _, h => by
    rw [MembersOf] at h ⊢
    obtain ⟨t, others, ht, ho, hm⟩ := h
    exact ⟨t, others, ht.mono hle hf, ho.mono hle hf, hm⟩

end

mutual

lemma ValidatorOf.mono (hle : r ≤ r') (hf : failed ⊆ failed') : ∀ {property : Option String}
    {depth : Int} {node : SchemaNode} {v : Validator},
    ValidatorOf c r failed parent property depth node v →
      ValidatorOf c r' failed' parent property depth node v
  | _, _, .primitive _ _ _, _, h | _, _, .object [] none _, _, h | _, _, .unknown _, _, h => by
    rw [ValidatorOf] at h ⊢
    exact h
  | _, _, .enumeration _ _, _, h => by
    rw [ValidatorOf] at h ⊢
    exact h.imp fun _ ⟨x, hx, hv⟩ => ⟨x, hx.mono hle, hv⟩
  | _, _, .array _ _ _, _, h | _, _, .object [] (some _) _, _, h => by
    rw [ValidatorOf] at h ⊢
    exact h.imp fun _ ⟨item, hi, hv⟩ => ⟨item, hi.mono hle hf, hv⟩
  | _, _, .object (_ :: _) _ _, _, h => by
    rw [ValidatorOf] at h ⊢
    exact h.imp fun _ ⟨fs, hfs, hv⟩ => ⟨fs, hfs.mono hle hf, hv⟩
  | _, _, .reference _ _, _, h => by
    rw [ValidatorOf] at h ⊢
    exact h.imp fun _ hv => hv.mono hle hf
  | _, _, .oneOf _ _, _, h | _, _, .anyOf _ _, _, h | _, _, .allOf _ _, _, h => by
    rw [ValidatorOf] at h ⊢
    exact h.imp fun _ ⟨vs, hvs, hv⟩ => ⟨vs, hvs.mono hle hf, hv⟩

lemma ValidatorsOf.mono (hle : r ≤ r') (hf : failed ⊆ failed') : ∀ {property : Option String}
    {depth : Int} {nodes : List SchemaNode} {vs : List Validator},
    ValidatorsOf c r failed parent property depth nodes vs →
      ValidatorsOf c r' failed' parent property depth nodes vs
  | _, _, [], _, h => by
    rw [ValidatorsOf] at h ⊢
    exact h
  | _, _, _ :: _, _, h => by
    rw [ValidatorsOf] at h ⊢
    obtain ⟨v, others, hv, ho, hvs⟩ := h
    exact ⟨v, others, hv.mono hle hf, ho.mono hle hf, hvs⟩

lemma FieldsOf.mono (hle : r ≤ r') (hf : failed ⊆ failed') : ∀ {depth : Int}
    {ps : List Property} {fs : List Field}, FieldsOf c r failed parent depth ps fs →
      FieldsOf c r' failed' parent depth ps fs
  | _, [], _, h => by
    rw [FieldsOf] at h ⊢
    exact h
  | _, ⟨_, _, _⟩ :: _, _, h => by
    rw [FieldsOf] at h ⊢
    obtain ⟨v, others, hv, ho, hfs⟩ := h
    exact ⟨v, others, hv.mono hle hf, ho.mono hle hf, hfs⟩

end

/-! ### Declarations -/

/-- The field of an interface for a property. -/
def FieldOf (c : Setting) (r : Registry) (failed : List String) (parent : String) (p : Property)
    (field : TypeField) : Prop :=
  ∃ t, TypeOf c r failed none parent (some p.name) 1 p.schema t ∧
    field = { key := propertyKey p.name, type := t, optional := !p.required,
              description := p.schema.description }

/-- The declaration of the type of a schema. -/
def DeclaresType (c : Setting) (r : Registry) (failed : List String) (s : String)
    (d : TypeDeclaration) : Prop :=
  ∃ node x, c.description.schema? s = some node ∧ c.identifier? r s = some x ∧
    match node with
    | .enumeration values _ => d = .enumeration x values node.description
    | .object (p :: ps) _ _ => ∃ fields, List.Forall₂ (FieldOf c r failed s) (p :: ps) fields ∧
        d = .interface_ x fields node.description
    | _ => ∃ t, TypeOf c r failed none s none 1 node t ∧ d = .alias x t node.description

/-- The declaration of the validator of a schema. -/
def DeclaresValidator (c : Setting) (r : Registry) (failed : List String) (s : String)
    (d : ValidatorDeclaration) : Prop :=
  ∃ node x, c.description.schema? s = some node ∧ c.identifier? r s = some x ∧
    match node with
    | .enumeration values _ => d = .enumeration (validatorName x) values
    | _ => ∃ v annotated, ValidatorOf c r failed s none 1 node v ∧
        d = .schema (validatorName x) v annotated node.description

lemma DeclaresType.name {s : String} {d : TypeDeclaration} (h : DeclaresType c r failed s d) :
    c.identifier? r s = some d.name := by
  obtain ⟨node, x, -, hx, hd⟩ := h
  split at hd
  · rw [hd]
    exact hx
  · obtain ⟨fields, -, rfl⟩ := hd
    exact hx
  · obtain ⟨t, -, rfl⟩ := hd
    exact hx

lemma DeclaresValidator.name {s : String} {d : ValidatorDeclaration}
    (h : DeclaresValidator c r failed s d) :
    ∃ x, c.identifier? r s = some x ∧ d.name = validatorName x := by
  obtain ⟨node, x, -, hx, hd⟩ := h
  refine ⟨x, hx, ?_⟩
  split at hd
  · rw [hd]
    rfl
  · obtain ⟨v, annotated, -, rfl⟩ := hd
    rfl

lemma DeclaresType.mono {s : String} {d : TypeDeclaration} (hle : r ≤ r')
    (hf : failed ⊆ failed') (h : DeclaresType c r failed s d) :
    DeclaresType c r' failed' s d := by
  obtain ⟨node, x, hs, hx, hd⟩ := h
  refine ⟨node, x, hs, identifier?_mono hle hx, ?_⟩
  split at hd
  · exact hd
  · obtain ⟨fields, hfs, hd⟩ := hd
    exact ⟨fields, hfs.imp fun _ _ ⟨t, ht, hf'⟩ => ⟨t, ht.mono hle hf, hf'⟩, hd⟩
  · obtain ⟨t, ht, hd⟩ := hd
    exact ⟨t, ht.mono hle hf, hd⟩

lemma DeclaresValidator.mono {s : String} {d : ValidatorDeclaration} (hle : r ≤ r')
    (hf : failed ⊆ failed') (h : DeclaresValidator c r failed s d) :
    DeclaresValidator c r' failed' s d := by
  obtain ⟨node, x, hs, hx, hd⟩ := h
  refine ⟨node, x, hs, identifier?_mono hle hx, ?_⟩
  split at hd
  · exact hd
  · obtain ⟨v, annotated, hv, hd⟩ := hd
    exact ⟨v, annotated, hv.mono hle hf, hd⟩

end ClientGen.Emission
