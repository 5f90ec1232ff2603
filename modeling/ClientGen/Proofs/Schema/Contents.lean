import ClientGen.Proofs.Schema.References
import ClientGen.TypeScript.Validator
import Mathlib.Tactic.Common

/-!
# What schemas hold

The enumerations inside a schema, its levels of nesting, and whether it is composed or held to an
integer that cannot be written. All of them follow the schema where emission follows it: beside
properties, what an object holds additionally is not looked at.
-/

namespace ClientGen.Schema

open ClientGen.TypeScript

/-! ### Enumerations -/

mutual

/-- The enumerations that the type of a schema asks for, each with the property it stands under. -/
def SchemaNode.typeEnumerations : Option String → SchemaNode → List (Option String × List String)
  | property, .enumeration values _ => [(property, values)]
  | _, .array items _ _ => items.typeEnumerations none
  | _, .object [] none _ => []
  | _, .object [] (some value) _ => value.typeEnumerations none
  | _, .object properties _ _ => Property.typeEnumerations properties
  | _, .primitive _ _ _ => []
  | _, .oneOf _ _ => []
  | _, .anyOf _ _ => []
  | _, .allOf _ _ => []
  | _, .reference _ _ => []
  | _, .unknown _ => []

/-- The enumerations that the types of some properties ask for. -/
def Property.typeEnumerations : List Property → List (Option String × List String)
  | [] => []
  | ⟨name, _, s⟩ :: rest => s.typeEnumerations (some name) ++ Property.typeEnumerations rest

end

mutual

/-- The enumerations that the validator of a schema asks for, which compositions do not hide. -/
def SchemaNode.enumerations : Option String → SchemaNode → List (Option String × List String)
  | property, .enumeration values _ => [(property, values)]
  | _, .array items _ _ => items.enumerations none
  | _, .object [] none _ => []
  | _, .object [] (some value) _ => value.enumerations none
  | _, .object properties _ _ => Property.enumerations properties
  | property, .oneOf variants _ => SchemaNode.enumerationsAll property variants
  | property, .anyOf variants _ => SchemaNode.enumerationsAll property variants
  | property, .allOf members _ => SchemaNode.enumerationsAll property members
  | _, .primitive _ _ _ => []
  | _, .reference _ _ => []
  | _, .unknown _ => []

/-- The enumerations that the validators of the members of a composition ask for. -/
def SchemaNode.enumerationsAll :
    Option String → List SchemaNode → List (Option String × List String)
  | _, [] => []
  | property, s :: rest => s.enumerations property ++ SchemaNode.enumerationsAll property rest

/-- The enumerations that the validators of some properties ask for. -/
def Property.enumerations : List Property → List (Option String × List String)
  | [] => []
  | ⟨name, _, s⟩ :: rest => s.enumerations (some name) ++ Property.enumerations rest

end

mutual

/-- The type asks for no enumeration that the validator does not ask for. -/
lemma SchemaNode.mem_enumerations {e : Option String × List String} :
    ∀ (property : Option String) (s : SchemaNode),
      e ∈ s.typeEnumerations property → e ∈ s.enumerations property
  | _, .enumeration _ _, h => h
  | _, .array items _ _, h => items.mem_enumerations none h
  | _, .object [] none _, h => h
  | _, .object [] (some value) _, h => value.mem_enumerations none h
  | _, .object (p :: ps) _ _, h => Property.mem_enumerations (p :: ps) h
  | _, .primitive _ _ _, h => by simp [SchemaNode.typeEnumerations] at h
  | _, .oneOf _ _, h => by simp [SchemaNode.typeEnumerations] at h
  | _, .anyOf _ _, h => by simp [SchemaNode.typeEnumerations] at h
  | _, .allOf _ _, h => by simp [SchemaNode.typeEnumerations] at h
  | _, .reference _ _, h => by simp [SchemaNode.typeEnumerations] at h
  | _, .unknown _, h => by simp [SchemaNode.typeEnumerations] at h

lemma Property.mem_enumerations {e : Option String × List String} :
    ∀ ps : List Property, e ∈ Property.typeEnumerations ps → e ∈ Property.enumerations ps
  | [], h => h
  | ⟨name, _, s⟩ :: rest, h => by
    simp only [Property.typeEnumerations, Property.enumerations, List.mem_append] at h ⊢
    rcases h with h | h
    · exact .inl (s.mem_enumerations (some name) h)
    · exact .inr (Property.mem_enumerations rest h)

end

lemma Property.typeEnumerations_subset_of_mem {p : Property} : ∀ {ps : List Property}, p ∈ ps →
    p.schema.typeEnumerations (some p.name) ⊆ Property.typeEnumerations ps
  | ⟨name, required, n⟩ :: rest, h => by
    rw [Property.typeEnumerations]
    rcases List.mem_cons.1 h with rfl | h
    · exact List.subset_append_left _ _
    · exact List.Subset.trans (Property.typeEnumerations_subset_of_mem h)
        (List.subset_append_right _ _)

/-! ### Nesting -/

mutual

/-- The levels of schemas inside a schema. -/
def SchemaNode.nesting : SchemaNode → Nat
  | .array items _ _ => items.nesting + 1
  | .object [] none _ => 0
  | .object [] (some value) _ => value.nesting + 1
  | .object properties _ _ => Property.nesting properties + 1
  | .oneOf variants _ => SchemaNode.nestingAll variants + 1
  | .anyOf variants _ => SchemaNode.nestingAll variants + 1
  | .allOf members _ => SchemaNode.nestingAll members + 1
  | .primitive _ _ _ => 0
  | .enumeration _ _ => 0
  | .reference _ _ => 0
  | .unknown _ => 0

/-- The most levels inside one of some schemas. -/
def SchemaNode.nestingAll : List SchemaNode → Nat
  | [] => 0
  | s :: rest => max s.nesting (SchemaNode.nestingAll rest)

/-- The most levels inside one of some properties. -/
def Property.nesting : List Property → Nat
  | [] => 0
  | ⟨_, _, s⟩ :: rest => max s.nesting (Property.nesting rest)

end

/-! ### Compositions -/

mutual

/-- Whether a union or an intersection stands inside a schema. -/
def SchemaNode.isComposed : SchemaNode → Bool
  | .oneOf _ _ => true
  | .anyOf _ _ => true
  | .allOf _ _ => true
  | .array items _ _ => items.isComposed
  | .object [] none _ => false
  | .object [] (some value) _ => value.isComposed
  | .object properties _ _ => Property.areComposed properties
  | .primitive _ _ _ => false
  | .enumeration _ _ => false
  | .reference _ _ => false
  | .unknown _ => false

/-- Whether a union or an intersection stands inside some properties. -/
def Property.areComposed : List Property → Bool
  | [] => false
  | ⟨_, _, s⟩ :: rest => s.isComposed || Property.areComposed rest

end

/-! ### Integers -/

mutual

/-- Whether a schema is held to an integer that has too many digits to be written. -/
def SchemaNode.hasLongInteger : SchemaNode → Bool
  | .primitive kind constraints _ =>
    (scalarValidator kind constraints).checks.any Check.hasLongInteger
  | .array items constraints _ =>
    items.hasLongInteger || (arrayChecks constraints).any Check.hasLongInteger
  | .object [] none _ => false
  | .object [] (some value) _ => value.hasLongInteger
  | .object properties _ _ => Property.haveLongInteger properties
  | .oneOf variants _ => SchemaNode.haveLongInteger variants
  | .anyOf variants _ => SchemaNode.haveLongInteger variants
  | .allOf members _ => SchemaNode.haveLongInteger members
  | .enumeration _ _ => false
  | .reference _ _ => false
  | .unknown _ => false

/-- Whether one of some schemas is held to such an integer. -/
def SchemaNode.haveLongInteger : List SchemaNode → Bool
  | [] => false
  | s :: rest => s.hasLongInteger || SchemaNode.haveLongInteger rest

/-- Whether one of some properties is held to such an integer. -/
def Property.haveLongInteger : List Property → Bool
  | [] => false
  | ⟨_, _, s⟩ :: rest => s.hasLongInteger || Property.haveLongInteger rest

end

/-- A validator that cannot be written makes a check by a long integer itself. -/
lemma any_hasLongInteger_of_writable {v : Validator} {f : Number.DigitsFault}
    (h : v.writable = .error f) : v.checks.any Check.hasLongInteger = true := by
  unfold Validator.writable at h
  split at h
  · assumption
  · simp at h

lemma eq_of_writable {v v' : Validator} (h : v.writable = .ok v') : v' = v := by
  unfold Validator.writable at h
  split at h
  · simp at h
  · exact (Except.ok.inj h).symm

end ClientGen.Schema
