import ClientGen.Proofs.Emission.Identity
import ClientGen.Proofs.Emission.TypeSteps
import ClientGen.Proofs.Emission.ValidatorSteps

/-!
# Agreement of types and validators

A validator read as a type: what it holds texts and numbers to is left out, and a constant stands for
the type that it is named after. Types and validators of the same schemas have the same shape, as
long as the registry takes no enumeration for another one. Only a schema that is an object with
properties and allows null as well has it in its validator alone.
-/

namespace ClientGen.TypeScript

open Document

/-- The identifier that a constant is named after. -/
def identifierOf (const : String) : String :=
  String.ofList (const.toList.take (const.toList.length - "Schema".toList.length))

@[simp] lemma identifierOf_validatorName (x : String) : identifierOf (validatorName x) = x := by
  simp [identifierOf, validatorName]

mutual

/-- A validator as a type. Unions and intersections have no counterpart among the declared types and
stay as they are written. -/
def Validator.shape : Validator → TypeExpr
  | .any => .any
  | .string _ => .string
  | .number _ => .number
  | .integer _ => .number
  | .boolean => .boolean
  | .blob => .blob
  | .named namespace_ const => .named namespace_ (identifierOf const)
  | .deferred const => .named none (identifierOf const)
  | .array item _ => .array item.shape
  | .record value => .record value.shape
  | .object _ fields => .object (Field.shapes fields)
  | .orNull v => .orNull v.shape
  | .both first others => .verbatim (Validator.both first others).text
  | .union variants => .verbatim (Validator.union variants).text
  | .verbatim text => .verbatim text

/-- The fields of a validator as the members of a type. -/
def Field.shapes : List Field → List Member
  | [] => []
  | ⟨key, optional, v⟩ :: rest => ⟨key, optional, v.shape⟩ :: Field.shapes rest

end

/-- The literals of an enumeration in order. -/
def literalShape (values : List String) : TypeExpr :=
  .verbatim (literalUnion ((sortTexts values).map .str))

/-- A field of an interface as a member of a type. -/
def TypeField.member (f : TypeField) : Member :=
  ⟨f.key, f.optional, f.type⟩

/-- What a type declaration declares. -/
def TypeDeclaration.shape : TypeDeclaration → TypeExpr
  | .interface_ _ fields _ => .object (fields.map TypeField.member)
  | .enumeration _ values _ => literalShape values
  | .alias _ type _ => type

/-- What the declaration of a validator declares, as a type. -/
def ValidatorDeclaration.shape : ValidatorDeclaration → TypeExpr
  | .schema _ v _ _ => v.shape
  | .enumeration _ values => literalShape values

lemma Validator.isAny_shape (v : Validator) : v.shape.isAny = v.isAny := by
  cases v <;> rfl

/-- Null is allowed in both in the same way. -/
lemma Validator.shape_withNull (v : Validator) : v.withNull.shape = v.shape.withNull := by
  rw [Validator.withNull, TypeExpr.withNull, Validator.isAny_shape]
  split <;> rfl

end ClientGen.TypeScript

namespace ClientGen.Schema

/-- Whether a schema is an object with properties that allows null as well. -/
def SchemaNode.isNullableRecord : SchemaNode → Bool
  | .object (_ :: _) _ notes => notes.nullable
  | _ => false

end ClientGen.Schema

namespace ClientGen.Emission

open Api Enumeration Naming Output Schema TypeScript

variable {c : Setting} {r : Registry} {parent : String}

/-! ### Shapes of nested schemas -/

/-- Each of some enumerations inside a schema has one name. -/
def NamedOnce (r : Registry) (parent : String) (es : List (Option String × List String)) : Prop :=
  ∀ e ∈ es, ∀ x y, EnumNamed r parent e.1 e.2 x → EnumNamed r parent e.1 e.2 y → x = y

lemma NamedOnce.subset {es fs : List (Option String × List String)} (h : NamedOnce r parent es)
    (sub : fs ⊆ es) : NamedOnce r parent fs :=
  fun e he => h e (sub he)

/-- References have the same shape if no schema has failed. -/
lemma reference_shape {pointer : String} {notes : Notes} {t : TypeExpr} {v : Validator}
    (ht : ReferenceTypeOf c r [] none pointer notes t)
    (hv : ReferenceValidatorOf c r [] pointer notes v) : v.shape = t := by
  obtain ⟨s, target, hs, ⟨failed, -⟩ | ⟨x, hx, rfl⟩⟩ := ht
  · simp at failed
  obtain ⟨s', target', hs', ⟨failed, -⟩ | ⟨x', hx', hv⟩⟩ := hv
  · simp at failed
  obtain ⟨rfl, rfl⟩ := Prod.mk.inj (Except.ok.inj (hs.symm.trans hs'))
  obtain rfl := Option.some.inj (hx.symm.trans hx')
  rcases hv with ⟨own, plain, rfl⟩ | rfl
  · simp [addsNull, plain, through, own, Validator.shape]
  · dsimp only
    split <;> simp [Validator.shape]

/-- What is nested has the same shape if what it is made of has. -/
lemma nested_shape {depth depth' : Int} {nullable : Bool} {typed : TypeExpr → Prop}
    {validated : Validator → Prop} {t : TypeExpr} {v : Validator}
    (fits : depth ≤ c.maxDepth) (fits' : depth' ≤ c.maxDepth)
    (ht : Nested c depth nullable .any TypeExpr.withNull typed t)
    (hv : Nested c depth' nullable .any Validator.withNull validated v)
    (same : ∀ t v, typed t → validated v → v.shape = t) : v.shape = t := by
  rw [Nested, if_neg (Int.not_lt.2 fits)] at ht
  rw [Nested, if_neg (Int.not_lt.2 fits')] at hv
  obtain ⟨t', ht', rfl⟩ := ht
  obtain ⟨v', hv', rfl⟩ := hv
  cases nullable with
  | false => exact same t' v' ht' hv'
  | true =>
    simp only [if_true]
    rw [Validator.shape_withNull, same t' v' ht' hv']

lemma scalar_shape {kind : PrimitiveKind} {constraints : Constraints} :
    (scalarValidator kind constraints).shape = scalarType kind constraints := by
  unfold scalarValidator scalarType
  cases kind with
  | string => dsimp only; split <;> rfl
  | number | integer | boolean => rfl

mutual

/-- The validator of a schema has the shape of its type. The two need not be nested as deep, for an
interface begins one level further out. -/
lemma shape_eq : ∀ {property : Option String} {depth depth' : Int} (n : SchemaNode) {t : TypeExpr}
    {v : Validator}, n.isComposed = false → depth + n.nesting ≤ c.maxDepth →
    depth' + n.nesting ≤ c.maxDepth → NamedOnce r parent (n.enumerations property) →
    TypeOf c r [] none parent property depth n t →
    ValidatorOf c r [] parent property depth' n v → v.shape = t
  | _, _, _, .primitive kind constraints _, _, _, _, fits, fits', _, ht, hv => by
    rw [TypeOf] at ht
    rw [ValidatorOf] at hv
    simp only [SchemaNode.nesting] at fits fits'
    refine nested_shape (by simpa using fits) (by simpa using fits') ht hv ?_
    rintro _ _ rfl rfl
    exact scalar_shape
  | property, _, _, .enumeration values _, _, _, _, fits, fits', once, ht, hv => by
    rw [TypeOf] at ht
    rw [ValidatorOf] at hv
    simp only [SchemaNode.nesting] at fits fits'
    refine nested_shape (by simpa using fits) (by simpa using fits') ht hv ?_
    rintro _ _ ⟨x, hx, rfl⟩ ⟨y, hy, rfl⟩
    obtain rfl := once (property, values) (by simp [SchemaNode.enumerations]) x y hx hy
    simp [Validator.shape]
  | _, depth, depth', .array items _ _, _, _, plain, fits, fits', once, ht, hv => by
    rw [TypeOf] at ht
    rw [ValidatorOf] at hv
    simp only [SchemaNode.nesting] at fits fits'
    push_cast at fits fits'
    refine nested_shape (by omega) (by omega) ht hv ?_
    rintro _ _ ⟨item, hi, rfl⟩ ⟨item', hi', rfl⟩
    rw [Validator.shape, shape_eq items plain (by omega) (by omega) once hi hi']
  | _, _, _, .object [] none _, _, _, _, fits, fits', _, ht, hv => by
    rw [TypeOf] at ht
    rw [ValidatorOf] at hv
    simp only [SchemaNode.nesting] at fits fits'
    refine nested_shape (by simpa using fits) (by simpa using fits') ht hv ?_
    rintro _ _ rfl rfl
    rfl
  | _, depth, depth', .object [] (some value) _, _, _, plain, fits, fits', once, ht, hv => by
    rw [TypeOf] at ht
    rw [ValidatorOf] at hv
    simp only [SchemaNode.nesting] at fits fits'
    push_cast at fits fits'
    refine nested_shape (by omega) (by omega) ht hv ?_
    rintro _ _ ⟨item, hi, rfl⟩ ⟨item', hi', rfl⟩
    rw [Validator.shape, shape_eq value plain (by omega) (by omega) once hi hi']
  | _, depth, depth', .object (p :: ps) _ _, _, _, plain, fits, fits', once, ht, hv => by
    rw [TypeOf] at ht
    rw [ValidatorOf] at hv
    simp only [SchemaNode.nesting] at fits fits'
    push_cast at fits fits'
    refine nested_shape (by omega) (by omega) ht hv ?_
    rintro _ _ ⟨ms, hms, rfl⟩ ⟨fs, hfs, rfl⟩
    rw [Validator.shape, shapes_eq (p :: ps) plain (by omega) (by omega) once hms hfs]
  | _, _, _, .reference _ _, _, _, _, fits, fits', _, ht, hv => by
    rw [TypeOf] at ht
    rw [ValidatorOf] at hv
    simp only [SchemaNode.nesting] at fits fits'
    exact nested_shape (by simpa using fits) (by simpa using fits') ht hv
      fun _ _ => reference_shape
  | _, _, _, .unknown _, _, _, _, fits, fits', _, ht, hv => by
    rw [TypeOf] at ht
    rw [ValidatorOf] at hv
    simp only [SchemaNode.nesting] at fits fits'
    refine nested_shape (by simpa using fits) (by simpa using fits') ht hv ?_
    rintro _ _ rfl rfl
    rfl

/-- The fields of an object have the shapes of its members, in the same order. -/
lemma shapes_eq : ∀ {depth depth' : Int} (ps : List Property) {ms : List Member} {fs : List Field},
    Property.areComposed ps = false → depth + Property.nesting ps ≤ c.maxDepth →
    depth' + Property.nesting ps ≤ c.maxDepth → NamedOnce r parent (Property.enumerations ps) →
    MembersOf c r [] none parent depth ps ms → FieldsOf c r [] parent depth' ps fs →
    Field.shapes fs = ms
  | _, _, [], _, _, _, _, _, _, hm, hf => by
    rw [MembersOf] at hm
    rw [FieldsOf] at hf
    rw [hm, hf, Field.shapes]
  | _, _, ⟨name, required, n⟩ :: rest, _, _, plain, fits, fits', once, hm, hf => by
    rw [MembersOf] at hm
    rw [FieldsOf] at hf
    obtain ⟨t, ms, ht, hms, rfl⟩ := hm
    obtain ⟨v, fs, hv, hfs, rfl⟩ := hf
    rw [Property.areComposed, Bool.or_eq_false_iff] at plain
    simp only [Property.nesting] at fits fits'
    rw [Field.shapes, shape_eq n plain.1 (by omega) (by omega)
      (once.subset (List.subset_append_left _ _)) ht hv, shapes_eq rest plain.2 (by omega)
      (by omega) (once.subset (List.subset_append_right _ _)) hms hfs]

end

/-! ### Shapes of declarations -/

/-- The fields of an interface are the members of the object type of its properties. -/
lemma membersOf_of_fields {failed : List String} : ∀ {ps : List Property} {fields : List TypeField},
    List.Forall₂ (FieldOf c r failed parent) ps fields →
    MembersOf c r failed none parent 1 ps (fields.map TypeField.member)
  | [], _, h => by
    cases h
    rw [MembersOf]
    rfl
  | ⟨name, required, n⟩ :: rest, _, h => by
    cases h with
    | cons hf hrest =>
      obtain ⟨t, ht, rfl⟩ := hf
      rw [MembersOf]
      exact ⟨t, _, ht, membersOf_of_fields hrest, rfl⟩

variable {s : String} {n : SchemaNode}

/-- The declarations of a schema that is no enumeration have the same shape, up to the null that an
interface leaves out. -/
lemma declared_shape {d : TypeDeclaration} {e : ValidatorDeclaration}
    (known : c.description.schema? s = some n) (enum : n.isEnumeration = false)
    (plain : n.isComposed = false) (fits : 1 + n.nesting ≤ c.maxDepth)
    (once : NamedOnce r s (n.enumerations none)) (hd : DeclaresType c r [] s d)
    (he : DeclaresValidator c r [] s e) :
    e.shape = if n.isNullableRecord then .orNull d.shape else d.shape := by
  obtain ⟨n', x, known', -, hd⟩ := hd
  obtain rfl := Option.some.inj (known.symm.trans known')
  obtain ⟨n', y, known'', -, he⟩ := he
  obtain rfl := Option.some.inj (known.symm.trans known'')
  split at hd
  · simp [SchemaNode.isEnumeration] at enum
  · next p ps additional notes =>
    obtain ⟨fields, hf, rfl⟩ := hd
    obtain ⟨v, annotated, hv, rfl⟩ := he
    simp only [SchemaNode.nesting] at fits
    push_cast at fits
    rw [ValidatorOf, Nested, if_neg (by omega)] at hv
    obtain ⟨v', ⟨fs, hfs, rfl⟩, rfl⟩ := hv
    have same := shapes_eq (p :: ps) plain (by omega) (by omega) once (membersOf_of_fields hf) hfs
    have object : (Validator.object (1 - 1) fs).shape = .object (fields.map TypeField.member) := by
      rw [Validator.shape, same]
    have null : (SchemaNode.object (p :: ps) additional notes).isNullableRecord =
      (SchemaNode.object (p :: ps) additional notes).nullable := rfl
    rw [null, ValidatorDeclaration.shape, TypeDeclaration.shape]
    split
    · rw [Validator.shape_withNull, object]
      rfl
    · exact object
  · next noEnum noRecord =>
    obtain ⟨t, ht, rfl⟩ := hd
    have alias_ : n.isNullableRecord = false := by
      unfold SchemaNode.isNullableRecord
      split
      · exact absurd rfl (noRecord _ _ _ _)
      · rfl
    rw [alias_]
    split at he
    · exact absurd rfl (noEnum _ _)
    · obtain ⟨v, annotated, hv, rfl⟩ := he
      exact shape_eq n plain fits fits once ht hv

/-! ### Runs -/

/-- A request for the type or for the validator of a schema; or someone else asks the registry. -/
inductive Request
  | type (schema : String)
  | validator (schema : String)
  | question (q : Question)
  deriving DecidableEq, Repr

/-- What is done for a request. -/
def Request.emit (c : Setting) : Request → Emit Unit
  | .type s => emitType c s none
  | .validator s => emitValidator c s none
  | .question q => modify fun w => { w with registry := (q.ask w.registry).2 }

/-- The workspace behind some requests, whether they are met or end with an error. -/
def behind (c : Setting) (requests : List Request) (w : Workspace) : Workspace :=
  requests.foldl (fun w request => (outcome (request.emit c) w).2) w

/-- The schemas of a description may request what they ask for and nothing else. -/
def Requests.ofSchemas (c : Setting) : Requests c where
  asks := SchemasAsk c.description
  beside _ := False
  faulty e := ∃ s n pointer, c.description.schema? s = some n ∧ pointer ∈ n.pointers ∧
    c.description.resolve pointer = .error e
  schemas _ h := h
  broken hs hp he := ⟨_, _, _, hs, hp, he⟩

lemma steps_of_takes {R : Requests c} {α : Type} {x : Emit α} {w : Workspace} (h : R.Steps x w) :
    Steps R w (outcome x w).2 := by
  unfold Requests.Steps Requests.Takes Meets at h
  revert h
  rcases outcome x w with ⟨_ | _, _⟩ <;> exact And.left

/-- A request for a schema that the description does not know leaves everything as it is. -/
lemma steps_request {R : Requests c} {request : Request} {w : Workspace}
    (asks : ∀ q, request = .question q → R.asks q) :
    Steps R w (outcome (request.emit c) w).2 := by
  have unknown {s : String} {emit : SchemaNode → Emit Unit} (hs : c.description.schema? s = none) :
      (outcome (orSchemaError (c.description.schema s) >>= emit) w).2 = w := by
    rw [Description.schema, hs]
    rfl
  cases request with
  | type s =>
    cases hs : c.description.schema? s with
    | some n => exact steps_of_takes (emitType_takes hs)
    | none =>
      simp only [Request.emit, emitType, outcome_bind]
      change Steps R w (outcome (if w.types.processed.contains s then _ else _) w).2
      split
      · exact .refl
      · rw [nodeOf, unknown hs]
  | validator s =>
    cases hs : c.description.schema? s with
    | some n => exact steps_of_takes (emitValidator_takes hs)
    | none =>
      simp only [Request.emit, emitValidator, outcome_bind]
      change Steps R w (outcome (if w.validators.processed.contains s then _ else _) w).2
      split
      · exact .refl
      · rw [nodeOf, unknown hs]
  | question q => exact .single (.ask (asks q rfl))

lemma steps_behind {R : Requests c} : ∀ {requests : List Request} {w : Workspace},
    (∀ q, .question q ∈ requests → R.asks q) → Steps R w (behind c requests w)
  | [], _, _ => .refl
  | request :: rest, w, asks => by
    have first : Steps R w (outcome (request.emit c) w).2 :=
      steps_request fun q hq => asks q (by rw [hq]; exact List.mem_cons_self)
    exact first.trans (steps_behind fun q hq => asks q (List.mem_cons_of_mem request hq))

/-! ### Agreement -/

/-- All references of the schemas resolve, none of them is composed, and none is nested too deep. -/
structure Setting.Regular (c : Setting) : Prop where
  resolves : ∀ s n, c.description.schema? s = some n → ∀ pointer ∈ n.pointers,
    ∃ target, c.description.resolve pointer = .ok target
  plain : ∀ s n, c.description.schema? s = some n → n.isComposed = false
  shallow : ∀ s n, c.description.schema? s = some n → 1 + n.nesting ≤ c.maxDepth

variable {requests : List Request} {x : String}

/-- Whatever has been requested in whatever order, the type and the validator under the identifier of
a schema have the same shape, if nothing else has the identifier and the kinds of keys of the registry
are apart. Of an object with properties that allows null, the validator alone allows it. -/
theorem behind_agrees (regular : c.Regular) (apart : KeysApart (SchemasAsk c.description))
    (asks : ∀ q, .question q ∈ requests → SchemasAsk c.description q)
    (known : c.description.schema? s = some n)
    (unshared : c.Unshared (behind c requests {}).registry (fun _ => True) (fun _ => False) s x) :
    ∀ d ∈ (behind c requests {}).types.declarations, d.declaration.name = x →
    ∀ e ∈ (behind c requests {}).validators.declarations, e.declaration.name = validatorName x →
      e.declaration.shape =
        if n.isNullableRecord then .orNull d.declaration.shape else d.declaration.shape := by
  have steps : Steps (Requests.ofSchemas c) {} (behind c requests {}) := steps_behind asks
  have recorded : Recorded (Requests.ofSchemas c) (behind c requests {}) :=
    (Recorded.fresh Registry.owned_fresh).steps steps
  have coherent : (behind c requests {}).registry.Coherent (SchemasAsk c.description) :=
    coherent_steps (R := .ofSchemas c) apart Registry.coherent_fresh steps
  have unfailed : Unfailed (behind c requests {}) := by
    refine unfailed_steps ?_ ⟨rfl, rfl⟩ steps
    rintro e ⟨t, m, pointer, ht, hp, he⟩
    obtain ⟨target, hr⟩ := regular.resolves t m ht pointer hp
    rw [hr] at he
    cases he
  intro d hd hdn e he hen
  have type := recorded.ownType (unshared.imp fun _ _ => trivial) hd hdn
  have validator := recorded.ownValidator (unshared.imp fun _ _ => trivial) he hen
  rw [unfailed.1] at type
  rw [unfailed.2] at validator
  rcases c.isEnumeration_or known with hs | enum
  · obtain ⟨values, description, hd, q, hq, hx, rfl⟩ := type.enumeration hs
    obtain ⟨values', he, q', hq', hx', rfl⟩ := validator.enumeration hs
    obtain ⟨_, _, known'⟩ := hs
    obtain rfl := Option.some.inj (known.symm.trans known')
    simp only [hd, he, SchemaNode.isNullableRecord, ValidatorDeclaration.shape,
      TypeDeclaration.shape, literalShape]
    rw [recorded.owned.sortTexts_eq apart hq' hq hx' hx]
    rfl
  · have notEnum : ¬ c.IsEnumeration s := by
      rintro ⟨values, notes, hs⟩
      rw [Option.some.inj (known.symm.trans hs)] at enum
      cases enum
    have once : NamedOnce (behind c requests {}).registry s (n.enumerations none) :=
      fun e' he' y z hy hz => coherent.named_unique ⟨s, n, e', known, he', rfl, rfl⟩ hy hz
    exact declared_shape known enum (regular.plain s n known) (regular.shallow s n known) once
      (type.plain notEnum) (validator.plain notEnum)

/-- Cats and dogs that are each other's friends, with a species that may be null. -/
def animals : Setting where
  description := {
    schemas := [
      ("Species", .enumeration ["animal"] { nullable := true }),
      ("Cat", .object [
        ⟨"kind", true, .enumeration ["cat"] {}⟩,
        ⟨"species", false, .reference "#/components/schemas/Species" {}⟩,
        ⟨"friends", false, .array (.reference "#/components/schemas/Dog" {}) {} {}⟩]
        none { nullable := true }),
      ("Dog", .object [
        ⟨"kind", true, .enumeration ["dog"] {}⟩,
        ⟨"friend", false, .reference "#/components/schemas/Cat" { nullable := true }⟩]
        none {})] }

lemma animals_regular : animals.Regular where
  resolves s n hs := by
    have all : ∀ e ∈ animals.description.schemas, ∀ pointer ∈ e.2.pointers, ∃ target,
      animals.description.resolve pointer = .ok target := by decide +kernel
    exact all (s, n) (mem_of_lookup hs)
  plain s n hs := by
    have all : ∀ e ∈ animals.description.schemas, e.2.isComposed = false := by decide
    exact all (s, n) (mem_of_lookup hs)
  shallow s n hs := by
    have all : ∀ e ∈ animals.description.schemas, 1 + e.2.nesting ≤ animals.maxDepth := by decide
    exact all (s, n) (mem_of_lookup hs)

lemma animals_keysApart : KeysApart (SchemasAsk animals.description) := by
  have all : ∀ e ∈ animals.description.schemas, ∀ e' ∈ e.2.enumerations none,
    e'.2 ≠ ["schema"] ∧ ∀ v ∈ e'.2, IsPlain v := by decide
  have asked : ∀ q, SchemasAsk animals.description q → q.values ≠ ["schema"] ∧
      ∀ v ∈ q.values, IsPlain v := by
    rintro (⟨values, s⟩ | ⟨values, context⟩) hq
    · obtain ⟨notes, hs⟩ := hq
      exact all (s, .enumeration values notes) (mem_of_lookup hs) (none, values)
        (by simp [SchemaNode.enumerations])
    · obtain ⟨s, n, e, hs, he, rfl, -⟩ := hq
      exact all (s, n) (mem_of_lookup hs) e he
  refine keysApart_of_plain (fun q hq => (asked q hq).2) ?_ fun q hq => (asked q hq).1
  rintro values values' s ⟨notes, hs⟩ ⟨notes', hs'⟩
  exact (SchemaNode.enumeration.inj (Option.some.inj (hs.symm.trans hs'))).1

lemma animals_identifiers : animals.IdentifiersApart fun _ => False where
  schemas s t n m hs ht hn hm hne := by
    have all : ∀ e ∈ animals.description.schemas, ∀ e' ∈ animals.description.schemas,
      e'.1 ≠ e.1 → typeIdentifier e'.1 ≠ typeIdentifier e.1 := by decide +kernel
    exact all (s, n) (mem_of_lookup hs) (t, m) (mem_of_lookup ht) hne
  names s n hs _ := by
    have all : ∀ e ∈ animals.description.schemas, isEnumName (typeIdentifier e.1) = false := by
      decide +kernel
    exact all (s, n) (mem_of_lookup hs)
  queries _ _ _ _ := id
  beside _ := False.elim

/-- Cats are declared in both files. Their validator allows null, which their interface leaves out,
and apart from that they have the same shape. -/
theorem animals_agree : ∃ d ∈ (behind animals [.type "Dog", .validator "Cat"] {}).types.declarations,
    ∃ e ∈ (behind animals [.type "Dog", .validator "Cat"] {}).validators.declarations,
      d.declaration.name = "Cat" ∧ e.declaration.name = "CatSchema" ∧
        e.declaration.shape = .orNull d.declaration.shape := by
  have typed : "Cat" ∈ (behind animals [.type "Dog", .validator "Cat"] {}).types.emitted := by
    decide +kernel
  have validated :
      "CatSchema" ∈ (behind animals [.type "Dog", .validator "Cat"] {}).validators.emitted := by
    decide +kernel
  obtain ⟨d, hd, hdn⟩ := List.mem_map.1 typed
  obtain ⟨e, he, hen⟩ := List.mem_map.1 validated
  have steps : Steps (.ofSchemas animals) {} (behind animals [.type "Dog", .validator "Cat"] {}) :=
    steps_behind (by simp)
  have unshared : animals.Unshared (behind animals [.type "Dog", .validator "Cat"] {}).registry
      (fun _ => True) (fun _ => False) "Cat" "Cat" :=
    animals_identifiers.unshared (wellNamed_steps Registry.wellNamed_fresh steps) (by decide +kernel)
  obtain ⟨n, known, record⟩ : ∃ n, animals.description.schema? "Cat" = some n ∧
      n.isNullableRecord = true := ⟨_, rfl, rfl⟩
  have same := behind_agrees animals_regular animals_keysApart (by simp) known unshared d hd hdn e
    he hen
  rw [record, if_pos rfl] at same
  exact ⟨d, hd, e, he, hdn, hen, same⟩

end ClientGen.Emission
