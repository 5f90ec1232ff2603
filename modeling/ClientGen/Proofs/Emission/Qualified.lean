import ClientGen.Proofs.Emission.Alike
import ClientGen.Proofs.Emission.LocalNames
import ClientGen.Proofs.Emission.Restored
import Mathlib.Data.Finset.Lattice.Lemmas

/-!
# Types behind a namespace

An emitter with fields writes the type of a schema for whoever its fields say. For another file that
goes through a namespace it writes what it writes for the file itself, with the namespace before the
file's own names, and it tells which namespaces the type goes through.
-/

namespace ClientGen.Emission

open Api Enumeration Naming Output Schema TypeScript

namespace Tracked

/-- The type of a schema for whom the fields say. -/
def expression (c : Setting) (parent : String) (property : Option String) (node : SchemaNode) :
    Tracked TypeExpr :=
  typeAt c (outerReferenceType c) parent property 1 node

/-- The type of a schema as another file writes it that imports this one under a namespace, with the
namespaces that it goes through. -/
def qualifiedExpression (c : Setting) (namespace_ parent : String) (property : Option String)
    (node : SchemaNode) : Tracked (TypeExpr × Finset String) :=
  within (fun f => { f with namespace_ := some namespace_, used := ∅ })
    (fun before f => { f with namespace_ := before.namespace_, used := before.used }) do
      let type ← expression c parent property node
      return (type, (← fields).used)

end Tracked

variable {α β : Type} {c : Setting} {w : Workspace} {f : Fields} {n parent : String}
  {property : Option String} {node : SchemaNode}

lemma outcome_within {x : Tracked α} {enter : Fields → Fields} {leave : Fields → Fields → Fields} :
    outcome (Tracked.within enter leave x) (w, f) = ((outcome x (w, enter f)).1,
      (outcome x (w, enter f)).2.1, leave f (outcome x (w, enter f)).2.2) := rfl

/-! ### Namespaces that are used -/

/-- The fields when a type has gone through some namespaces. -/
def Fields.going (f : Fields) (namespaces : List String) : Fields :=
  { f with used := f.used ∪ namespaces.toFinset }

@[simp] lemma Fields.going_namespace {namespaces : List String} :
    (f.going namespaces).namespace_ = f.namespace_ := rfl

@[simp] lemma Fields.going_nil : f.going [] = f := by
  cases f
  simp [Fields.going]

lemma Fields.going_going {ms ms' : List String} :
    (f.going ms).going ms' = f.going (ms ++ ms') := by
  simp [Fields.going, Finset.union_assoc, List.toFinset_append]

/-- A result leaves the fields with the namespaces that it goes through. -/
def Uses (f : Fields) (x : Tracked α) (w : Workspace) (through : α → List String) : Prop :=
  Meets x (w, f) (fun a s => s.2 = f.going (through a)) fun _ _ => True

namespace Uses

variable {x : Tracked α} {g : α → Tracked β} {through : α → List String} {through' : β → List String}

lemma pure {a : α} (h : through a = []) : Uses f (pure a) w through :=
  meets_pure.2 (by rw [h, Fields.going_nil])

lemma onFiles {y : Emit α} (h : ∀ a, through a = []) : Uses f (Tracked.onFiles y) w through := by
  have run : outcome (Tracked.onFiles y) (w, f) = ((outcome y w).1, ((outcome y w).2, f)) := rfl
  unfold Uses Meets
  rw [run]
  rcases outcome y w with ⟨_ | a, v⟩
  · exact True.intro
  · change f = f.going (through a)
    rw [h, Fields.going_nil]

lemma bind (hx : Uses f x w through)
    (hg : ∀ a w', Meets (g a) (w', f.going (through a)) (fun b s => s.2 = f.going (through' b))
      fun _ _ => True) : Uses f (x >>= g) w through' := by
  apply meets_bind.2
  apply hx.imp
  · rintro a ⟨w', f'⟩ rfl
    exact hg a w'
  · exact fun _ _ _ => True.intro

/-- What goes through nothing may come first. -/
lemma bind_of_nothing (hx : Uses f x w fun _ => []) (hg : ∀ a w', Uses f (g a) w' through') :
    Uses f (x >>= g) w through' :=
  hx.bind fun a w' => by
    rw [Fields.going_nil]
    exact hg a w'

/-- A result is made of another one and goes through the same. -/
lemma map {s : α → β} (hx : Uses f x w through) (same : ∀ a, through' (s a) = through a) :
    Uses f (s <$> x) w through' :=
  meets_map.2 (hx.imp (fun a _ h => by rw [h, same]) fun _ _ _ => True.intro)

lemma ite {p : Prop} [Decidable p] {y : Tracked α} (yes : p → Uses f x w through)
    (no : ¬p → Uses f y w through) : Uses f (if p then x else y) w through := by
  by_cases h : p
  · rw [if_pos h]
    exact yes h
  · rw [if_neg h]
    exact no h

lemma fields_bind {g : Fields → Tracked β} (h : Uses f (g f) w through') :
    Uses f (Tracked.fields >>= g) w through' := h

lemma files_bind {g : Workspace → Tracked β} (h : Uses f (g w) w through') :
    Uses f (Tracked.files >>= g) w through' := h

/-- What is written for no namespace uses none, and its fields are put back. -/
lemma within {y : Emit α} {enter : Fields → Fields} {leave : Fields → Fields → Fields}
    (hx : Follows w (enter f) x y) (none : (enter f).namespace_ = none)
    (back : leave f (enter f) = f) : Uses f (Tracked.within enter leave x) w fun _ => [] := by
  unfold Uses Meets
  rw [outcome_within, hx.restores none, back]
  rcases (outcome y w).1 with _ | a
  · exact True.intro
  · exact Fields.going_nil.symm

end Uses

lemma use_uses {m : String} : Uses f (Tracked.use m) w fun _ => [m] := by
  change ({ f with used := insert m f.used } : Fields) = f.going [m]
  simp [Fields.going]

lemma ownType_uses {x : String} (hn : f.namespace_ = some n) :
    Uses f (Tracked.ownType x) w TypeExpr.namespaces := by
  refine .fields_bind ?_
  rw [hn]
  exact use_uses.bind fun _ _ => meets_pure.2 rfl

lemma commonType_uses {x : String} (hn : f.namespace_ = some n) :
    Uses f (Tracked.commonType x) w TypeExpr.namespaces := by
  refine .fields_bind ?_
  rw [hn]
  exact use_uses.bind fun _ _ => meets_pure.2 rfl

lemma enumType_uses {values : List String} (hn : f.namespace_ = some n) :
    Uses f (Tracked.enumType c parent property values) w TypeExpr.namespaces := by
  refine .bind_of_nothing (.onFiles fun _ => rfl) fun x w' => ?_
  refine .ite (fun _ => commonType_uses hn) fun _ => ?_
  exact .bind_of_nothing (.onFiles fun _ => rfl) fun _ _ => ownType_uses hn

lemma TypeExpr.namespaces_withNull (t : TypeExpr) : t.withNull.namespaces = t.namespaces := by
  cases t <;> rfl

lemma nestedType_uses {depth : Int} {nullable : Bool} {type : Tracked TypeExpr}
    (h : Uses f type w TypeExpr.namespaces) :
    Uses f (Tracked.nestedType c parent depth nullable type) w TypeExpr.namespaces := by
  refine .ite (fun _ => .bind_of_nothing (.onFiles fun _ => rfl) fun _ _ => .pure rfl) fun _ => ?_
  refine h.bind fun t w' => meets_pure.2 ?_
  cases nullable with
  | true => rw [if_pos rfl, TypeExpr.namespaces_withNull]
  | false => rfl

/-- References leave the namespaces behind that their types go through. -/
def ReferencesUse (n : String) (references : Tracked.ReferenceTypes) : Prop :=
  ∀ pointer notes w f, f.namespace_ = some n →
    Uses f (references pointer notes) w TypeExpr.namespaces

mutual

lemma typeAt_uses {references : Tracked.ReferenceTypes} (h : ReferencesUse n references) :
    ∀ (property : Option String) (depth : Int) (s : SchemaNode) (w : Workspace) (f : Fields),
      f.namespace_ = some n →
        Uses f (Tracked.typeAt c references parent property depth s) w TypeExpr.namespaces
  | property, depth, .primitive kind constraints _, w, f, hn => by
    rw [Tracked.typeAt]
    refine nestedType_uses (.pure ?_)
    unfold scalarType
    split
    · split <;> rfl
    all_goals rfl
  | property, depth, .enumeration values _, w, f, hn => by
    rw [Tracked.typeAt]
    exact nestedType_uses (enumType_uses hn)
  | property, depth, .array items _ _, w, f, hn => by
    rw [Tracked.typeAt]
    exact nestedType_uses ((typeAt_uses h none (depth + 1) items w f hn).map fun _ => rfl)
  | property, depth, .object [] none _, w, f, hn => by
    rw [Tracked.typeAt]
    exact nestedType_uses (.pure rfl)
  | property, depth, .object [] (some value) _, w, f, hn => by
    rw [Tracked.typeAt]
    exact nestedType_uses ((typeAt_uses h none (depth + 1) value w f hn).map fun _ => rfl)
  | property, depth, .object (p :: ps) _ _, w, f, hn => by
    rw [Tracked.typeAt]
    · exact nestedType_uses ((membersAt_uses h (depth + 1) (p :: ps) w f hn).map fun _ => rfl)
    all_goals simp
  | property, depth, .reference pointer notes, w, f, hn => by
    rw [Tracked.typeAt]
    exact nestedType_uses (h pointer notes w f hn)
  | property, depth, .oneOf _ _, w, f, hn | property, depth, .anyOf _ _, w, f, hn
  | property, depth, .allOf _ _, w, f, hn | property, depth, .unknown _, w, f, hn => by
    rw [Tracked.typeAt]
    exact nestedType_uses (.pure rfl)

lemma membersAt_uses {references : Tracked.ReferenceTypes} (h : ReferencesUse n references) :
    ∀ (depth : Int) (ps : List Property) (w : Workspace) (f : Fields), f.namespace_ = some n →
      Uses f (Tracked.membersAt c references parent depth ps) w Member.namespacesAll
  | depth, [], w, f, hn => by
    rw [Tracked.membersAt]
    exact .pure rfl
  | depth, ⟨name, required, s⟩ :: rest, w, f, hn => by
    rw [Tracked.membersAt]
    refine (typeAt_uses h (some name) depth s w f hn).bind fun t w' => meets_bind.2 ?_
    have others : Uses (f.going t.namespaces) _ w' Member.namespacesAll :=
      membersAt_uses h depth rest w' (f.going t.namespaces) hn
    refine Meets.imp others (fun ms s hs => meets_pure.2 ?_) fun _ _ _ => True.intro
    rw [hs, Fields.going_going]
    rfl

end

/-- What is declared for the sake of a reference is written for no namespace, and the fields are put
back. -/
lemma emitTypeWithin_uses {name : String} : ∀ budget : Nat,
    Uses f (Tracked.emitTypeWithin c budget name node) w fun _ => []
  | 0 => .pure rfl
  | budget + 1 => by
    rw [Tracked.emitTypeWithin]
    refine .bind_of_nothing (.onFiles fun _ => rfl) fun _ w' => ?_
    exact .within (givenUp_follows (emitTypeWithin_follows budget) rfl) rfl rfl

lemma referenceType_uses : ReferencesUse n (Tracked.outerReferenceType c) := by
  intro pointer notes w f hn
  refine .bind_of_nothing (.onFiles fun _ => rfl) fun found w' => .files_bind ?_
  refine .ite (fun _ => .pure rfl) fun _ => ?_
  have either {x y : Tracked TypeExpr} {b : Bool} {w : Workspace}
      (hx : Uses f x w TypeExpr.namespaces) (hy : Uses f y w TypeExpr.namespaces) :
      Uses f (if b then x else y) w TypeExpr.namespaces := .ite (fun _ => hx) fun _ => hy
  refine (either ?_ ?_).bind fun t w'' => meets_pure.2 ?_
  · exact .bind_of_nothing (.onFiles fun _ => rfl) fun _ _ => commonType_uses hn
  · refine .bind_of_nothing (.files_bind (.ite (fun _ => emitTypeWithin_uses _) fun _ => .pure rfl))
      fun _ _ => ?_
    exact .bind_of_nothing (.onFiles fun _ => rfl) fun _ _ => ownType_uses hn
  · split <;> rfl

/-! ### Both types -/

lemma expression_uses (c : Setting) (w : Workspace) (parent : String) (property : Option String)
    (node : SchemaNode) (hn : f.namespace_ = some n) :
    Uses f (Tracked.expression c parent property node) w TypeExpr.namespaces :=
  typeAt_uses referenceType_uses property 1 node w f hn

lemma expression_follows (c : Setting) (w : Workspace) (parent : String) (property : Option String)
    (node : SchemaNode) {a : Option String} (hn : f.namespace_ = a) :
    Follows w f (Tracked.expression c parent property node)
      (typeAt c a (outerReferenceType c a) parent property 1 node) :=
  typeAt_follows (referenceType_follows (emitTypeWithin_follows _)) _ _ _ _ _ hn

/-- Between two emissions no namespace is written for, and the type is that for the file itself. -/
lemma outcome_expression (hn : f.namespace_ = none) :
    outcome (Tracked.expression c parent property node) (w, f) =
      ((outcome (localType c parent property 1 node) w).1,
        (outcome (localType c parent property 1 node) w).2, f) :=
  (expression_follows c w parent property node hn).restores hn

/-- The type for another file comes with the namespaces that it goes through, and the fields are put
back however it ends. -/
lemma outcome_qualifiedExpression :
    outcome (Tracked.qualifiedExpression c n parent property node) (w, f) =
      ((outcome (qualifiedType c n parent property node) w).1.map
          fun t => (t, t.namespaces.toFinset),
        (outcome (qualifiedType c n parent property node) w).2, f) := by
  have entered : ({ f with namespace_ := some n, used := ∅ } : Fields).namespace_ = some n := rfl
  obtain ⟨f', run, kept⟩ := (expression_follows c w parent property node entered).run
  have uses := expression_uses c w parent property node entered
  have back : ({ f' with namespace_ := f.namespace_, used := f.used } : Fields) = f := by
    cases f'
    cases f
    exact congrArg (Fields.mk _ _) kept.processing
  have steps : outcome (Tracked.qualifiedExpression c n parent property node) (w, f) =
      match outcome (Tracked.expression c parent property node)
        (w, { f with namespace_ := some n, used := ∅ }) with
      | (.ok t, (w', g)) =>
        (.ok (t, g.used), (w', { g with namespace_ := f.namespace_, used := f.used }))
      | (.error e, (w', g)) =>
        (.error e, (w', { g with namespace_ := f.namespace_, used := f.used })) := by
    unfold Tracked.qualifiedExpression
    rw [outcome_within, outcome_bind]
    rcases outcome (Tracked.expression c parent property node) _ with ⟨_ | t, w', g⟩ <;> rfl
  unfold qualifiedType
  rw [steps, run]
  rcases result : outcome (typeAt c (some n) (outerReferenceType c (some n)) parent property 1 node) w
    with ⟨e | t, w'⟩
  · dsimp only
    rw [back]
    rfl
  · rw [result] at run
    have used : f'.used = t.namespaces.toFinset := by
      rw [show f' = Fields.going _ t.namespaces from uses.of_ok run]
      exact Finset.empty_union _
    dsimp only
    rw [back, used]
    rfl

/-! ### The theorem -/

/-- What the type for another file that goes through a namespace, and the namespaces that are told of
it, are to the type for the file itself. -/
structure Prefixed (n : String) (t t' : TypeExpr) (used : Finset String) : Prop where
  text : t.text = writeAll t.pieces
  qualified : t'.text = writeAll (t.pieces.map (TypePiece.behind n))
  foreign : ∀ m x, TypePiece.foreign m x ∈ t.pieces → m = commonNamespace
  own : n ∈ used ↔ ∃ x, TypePiece.own x ∈ t.pieces
  shared : commonNamespace ∈ used ↔ ∃ x, TypePiece.foreign commonNamespace x ∈ t.pieces
  only : ∀ m ∈ used, m = n ∨ m = commonNamespace

/-- What two runs come to from the same workspace and the same fields, of which the one writes a type
for the file itself and the other one for a file that goes through a namespace: the same workspace but
for the note that the file refers to the shared schemas, the fields as they were found, and the same
error or the same type but for the namespace. What has been declared is not written for the
namespace. -/
structure SameButPrefixed (n : String) (w : Workspace) (f : Fields)
    (plain : Except EmitError TypeExpr × Workspace × Fields)
    (behind : Except EmitError (TypeExpr × Finset String) × Workspace × Fields) : Prop where
  alike : plain.2.1.Alike behind.2.1
  plainFields : plain.2.2 = f
  behindFields : behind.2.2 = f
  declarations : ∀ d ∈ behind.2.1.types.declarations,
    d ∈ w.types.declarations ∨ IsLocal d.declaration
  results : match plain.1, behind.1 with
    | .ok t, .ok (t', used) => Prefixed n t t' used
    | .error e, .error e' => e' = e
    | _, _ => False

lemma prefixed_behind (other : n ≠ commonNamespace) (plain : IsBarless n) {t : TypeExpr}
    (h : t.MentionsOnly (Reachable none)) :
    Prefixed n t (t.behind (some n)) (t.behind (some n)).namespaces.toFinset := by
  have worded : t.Worded := fun q x hm _ => (h q x hm).2
  have foreign : ∀ m x, TypePiece.foreign m x ∈ t.pieces → m = commonNamespace := by
    intro m x hp
    simpa using (h (some m) x (t.mentions_of_mem_pieces rfl hp)).1
  -- A name stands behind a namespace if it stood so before, or if it was the file's own.
  have used (m : String) : m ∈ (t.behind (some n)).namespaces.toFinset ↔
      (m = n ∧ ∃ x, TypePiece.own x ∈ t.pieces) ∨ ∃ x, TypePiece.foreign m x ∈ t.pieces := by
    rw [List.mem_toFinset, TypeExpr.mem_namespaces_iff, t.pieces_behind plain worded]
    simp only [List.mem_map, TypePiece.behind_eq_foreign]
    constructor
    · rintro ⟨x, p, hp, ⟨rfl, same⟩ | rfl⟩
      · exact .inl ⟨same, x, hp⟩
      · exact .inr ⟨x, hp⟩
    · rintro (⟨same, x, hp⟩ | ⟨x, hp⟩)
      · exact ⟨x, _, hp, .inl ⟨rfl, same⟩⟩
      · exact ⟨x, _, hp, .inr rfl⟩
  refine ⟨t.text_eq, TypeExpr.text_behind plain worded, foreign, ?_, ?_, ?_⟩
  · rw [used]
    constructor
    · rintro (⟨-, own⟩ | ⟨x, hp⟩)
      · exact own
      · exact absurd (foreign n x hp) other
    · exact fun own => .inl ⟨rfl, own⟩
  · rw [used]
    exact ⟨fun h => h.resolve_left fun same => other same.1.symm, .inr⟩
  · intro m hm
    rcases (used m).1 hm with ⟨same, -⟩ | ⟨x, hp⟩
    · exact .inl same
    · exact .inr (foreign m x hp)

/-- From every state between two emissions on, a type is the same for the file itself and for a file
that goes through a plain namespace, but for the namespace before the file's own names. -/
theorem qualifiedExpression_prefixes (c : Setting) (n parent : String) (property : Option String)
    (node : SchemaNode) (w : Workspace) (f : Fields) (qs : List Question)
    (other : n ≠ commonNamespace) (plain : IsBarless n) (idle : f.namespace_ = none)
    (asked : w.registry = Registry.after {} qs) :
    SameButPrefixed n w f (outcome (Tracked.expression c parent property node) (w, f))
      (outcome (Tracked.qualifiedExpression c n parent property node) (w, f)) := by
  have worded : w.registry.Worded := asked ▸ Registry.worded_fresh.after qs
  have both : RunsAlike w w (localType c parent property 1 node)
      (qualifiedType c n parent property node) _ := qualifiedType_alike (.refl w)
  have type : (Requests.any c).Takes (localType c parent property 1 node) w _ := typeAt_any
  rw [outcome_expression idle, outcome_qualifiedExpression]
  unfold RunsAlike at both
  unfold Requests.Takes Meets at type
  revert both type
  rcases outcome (localType c parent property 1 node) w with ⟨e | t, v⟩ <;>
    rcases outcome (qualifiedType c n parent property node) w with ⟨e' | t', v'⟩
  · rintro ⟨alike, same⟩ ⟨steps, -⟩
    exact ⟨alike, rfl, rfl, fun d hd => declarations_of_steps worded steps d (alike.declarations ▸ hd),
      same⟩
  · exact False.elim
  · exact False.elim
  · rintro ⟨alike, rfl⟩ ⟨steps, typed⟩
    refine ⟨alike, rfl, rfl, fun d hd => declarations_of_steps worded steps d
      (alike.declarations ▸ hd), prefixed_behind other plain ?_⟩
    exact mentionsOnly_of_typeOf (worded_steps worded steps) _ _ _ _ typed

/-- Users with addresses, of which the addresses are shared. -/
def usersSetting : Setting where
  description := {
    schemas := [("User", .object [⟨"address", true, .reference "#/components/schemas/Address" {}⟩,
        ⟨"friends", false, .array (.reference "#/components/schemas/User" {}) {} {}⟩] none {}),
      ("Address", .object [⟨"street", true, .primitive .string {} {}⟩] none {})]
    operations := [] }
  commonSchemas := ["Address"]

/-- A user with the address. -/
def addressedUsers : SchemaNode :=
  .object [⟨"users", true, .array (.reference "#/components/schemas/User" { nullable := true }) {} {}⟩,
    ⟨"address", true, .reference "#/components/schemas/Address" {}⟩] none {}

/-- The users are written for another file, and what they need is declared inside theirs. -/
theorem qualifiedExpression_users : ("Users" ≠ commonNamespace ∧ IsBarless "Users" ∧
      ({} : Fields).namespace_ = none ∧ ({} : Workspace).registry = Registry.after {} []) ∧
    SameButPrefixed "Users" {} {}
      (outcome (Tracked.expression usersSetting "Get" none addressedUsers) ({}, {}))
      (outcome (Tracked.qualifiedExpression usersSetting "Users" "Get" none addressedUsers)
        ({}, {})) ∧
    ((outcome (Tracked.qualifiedExpression usersSetting "Users" "Get" none addressedUsers)
      ({}, {})).1.toOption.map fun r => (r.1.text, r.2)) =
      some ("{ users: (Users.User | null)[]; address: Common.Address }", {"Users", "Common"}) := by
  have other : "Users" ≠ commonNamespace := by decide
  have plain : IsBarless "Users" := by decide
  refine ⟨⟨other, plain, rfl, rfl⟩, ?_, by decide +kernel⟩
  exact qualifiedExpression_prefixes usersSetting "Users" "Get" none addressedUsers {} {} [] other plain
    rfl rfl

/-- A list of users. -/
def listedUsers : SchemaNode :=
  .array (.reference "#/components/schemas/User" {}) {} {}

/-- Behind a namespace that reads as a union a list of users is put in parentheses, which it is not for
the file itself. -/
theorem not_prefixed_union : "A | B" ≠ commonNamespace ∧ ∃ t t' used w w',
    outcome (Tracked.expression usersSetting "Get" none listedUsers) ({}, {}) = (.ok t, (w, {})) ∧
    outcome (Tracked.qualifiedExpression usersSetting "A | B" "Get" none listedUsers) ({}, {}) =
      (.ok (t', used), (w', {})) ∧
    t.text = "User[]" ∧ t.pieces = [.own "User", .text "[]"] ∧
    t'.text = "(A | B.User)[]" ∧ t'.text ≠ writeAll (t.pieces.map (TypePiece.behind "A | B")) := by
  have plain : (outcome (localType usersSetting "Get" none 1 listedUsers) {}).1.toOption.map
      (fun t => (t.text, t.pieces)) = some ("User[]", [.own "User", .text "[]"]) := by decide +kernel
  have behind : (outcome (qualifiedType usersSetting "A | B" "Get" none listedUsers) {}).1.toOption.map
      (·.text) = some "(A | B.User)[]" := by decide +kernel
  rw [outcome_expression rfl, outcome_qualifiedExpression]
  revert plain behind
  generalize outcome (localType usersSetting "Get" none 1 listedUsers) {} = first
  generalize outcome (qualifiedType usersSetting "A | B" "Get" none listedUsers) {} = second
  intro plain behind
  obtain ⟨e | t, w⟩ := first
  · cases plain
  obtain ⟨e | t', w'⟩ := second
  · cases behind
  obtain ⟨text, pieces⟩ := Prod.mk.inj (Option.some.inj plain)
  have text' : t'.text = "(A | B.User)[]" := Option.some.inj behind
  have other : "(A | B.User)[]" ≠
      writeAll ([TypePiece.own "User", .text "[]"].map (TypePiece.behind "A | B")) := by decide +kernel
  exact ⟨by decide, t, t', _, w, w', rfl, rfl, text, pieces, text', by rwa [text', pieces]⟩

end ClientGen.Emission
