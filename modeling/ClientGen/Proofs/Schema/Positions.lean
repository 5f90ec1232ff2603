import ClientGen.Proofs.Schema.Contents
import Mathlib.Algebra.GroupWithZero.Nat

/-!
# Positions inside schemas

Where one schema stands inside another: under a property, as the item of a list or as the value of a
map, at any depth. A position is as many levels inside as it has branches. The members of unions and
intersections have no positions, and beside properties, what an object holds additionally has none.
-/

namespace ClientGen.Schema

/-- One step into a schema: to the property with an index, to the item or to the value. -/
inductive Branch
  | property (index : Nat)
  | item
  | value
  deriving DecidableEq, Repr

/-- The steps from a schema to one inside it. -/
abbrev Position := List Branch

namespace SchemaNode

/-- The schemas one level inside a schema. -/
def children : SchemaNode → List (Branch × SchemaNode)
  | array items _ _ => [(.item, items)]
  | object [] none _ => []
  | object [] (some value) _ => [(.value, value)]
  | object properties _ _ => properties.mapIdx fun i p => (.property i, p.schema)
  | primitive _ _ _ => []
  | enumeration _ _ => []
  | oneOf _ _ => []
  | anyOf _ _ => []
  | allOf _ _ => []
  | reference _ _ => []
  | unknown _ => []

/-- The schema `m` stands at a position of a schema. -/
inductive At : SchemaNode → Position → SchemaNode → Prop
  | here {n : SchemaNode} : At n [] n
  | inside {n m l : SchemaNode} {b : Branch} {p : Position} :
    (b, m) ∈ n.children → At m p l → At n (b :: p) l

/-- The positions that many levels inside a schema, in order. -/
def atLevel : Nat → SchemaNode → List Position
  | 0, _ => [[]]
  | k + 1, n => n.children.flatMap fun e => (atLevel k e.2).map (e.1 :: ·)

variable {n m : SchemaNode} {p : Position} {k : Nat}

lemma mem_atLevel : p ∈ n.atLevel k ↔ p.length = k ∧ ∃ m, n.At p m := by
  induction k generalizing n p with
  | zero =>
    rw [atLevel, List.mem_singleton, List.length_eq_zero_iff]
    constructor
    · rintro rfl
      exact ⟨rfl, n, .here⟩
    · exact And.left
  | succ k ih =>
    simp only [atLevel, List.mem_flatMap, List.mem_map, ih]
    constructor
    · rintro ⟨⟨b, l⟩, hl, q, ⟨hq, m, hm⟩, rfl⟩
      exact ⟨by simp [hq], m, .inside hl hm⟩
    · rintro ⟨hp, m, hm⟩
      cases hm with
      | here => simp at hp
      | inside hl hm => exact ⟨_, hl, _, ⟨by simpa using hp, m, hm⟩, rfl⟩

/-- Whatever stands deep inside a schema stands inside something on each level above. -/
lemma At.take (h : n.At p m) (k : Nat) : ∃ l, n.At (p.take k) l := by
  induction h generalizing k with
  | @here n => exact ⟨n, by simpa using .here⟩
  | @inside n _ _ b p hb _ ih =>
    cases k with
    | zero => exact ⟨n, .here⟩
    | succ k =>
      obtain ⟨l, hl⟩ := ih k
      exact ⟨l, .inside hb hl⟩

/-- The positions inside a schema are those inside its children. -/
lemma length_atLevel_succ :
    (n.atLevel (k + 1)).length = (n.children.map fun e => (e.2.atLevel k).length).sum := by
  simp [atLevel, List.length_flatMap]

lemma children_object {q : Property} {ps : List Property} {additional : Option SchemaNode}
    {notes : Notes} : (object (q :: ps) additional notes).children =
      (q :: ps).mapIdx fun i p => (.property i, p.schema) := by
  rfl

lemma sum_children_object {q : Property} {ps : List Property} {additional : Option SchemaNode}
    {notes : Notes} {f : SchemaNode → Nat} :
    ((object (q :: ps) additional notes).children.map fun e => f e.2).sum =
      ((q :: ps).map fun p => f p.schema).sum := by
  rw [children_object, List.mapIdx_eq_zipIdx_map, List.map_map]
  conv_rhs => rw [← List.zipIdx_map_fst 0 (q :: ps), List.map_map]
  rfl

end SchemaNode

/-! ### Depth -/

variable {n : SchemaNode} {k : Nat}

lemma Property.exists_le_nesting : ∀ {ps : List Property}, ps ≠ [] →
    (k ≤ Property.nesting ps ↔ ∃ p ∈ ps, k ≤ p.schema.nesting)
  | [⟨_, _, n⟩], _ => by simp [Property.nesting, Property.schema]
  | ⟨_, _, n⟩ :: q :: rest, _ => by
    have below := @Property.exists_le_nesting (q :: rest) (by simp)
    have either : k ≤ max n.nesting (Property.nesting (q :: rest)) ↔
        k ≤ n.nesting ∨ k ≤ Property.nesting (q :: rest) := by omega
    rw [Property.nesting, either, below]
    simp [Property.schema]

lemma Property.not_composed_of_mem : ∀ {ps : List Property}, Property.areComposed ps = false →
    ∀ p ∈ ps, p.schema.isComposed = false
  | ⟨_, _, n⟩ :: rest, plain, p, hp => by
    rw [Property.areComposed, Bool.or_eq_false_iff] at plain
    rcases List.mem_cons.1 hp with rfl | hp
    · exact plain.1
    · exact Property.not_composed_of_mem plain.2 p hp

namespace SchemaNode

lemma not_composed_of_mem_children : ∀ {n : SchemaNode}, n.isComposed = false →
    ∀ e ∈ n.children, e.2.isComposed = false
  | array _ _ _, plain, e, he | object [] (some _) _, plain, e, he => by
    rw [List.mem_singleton.1 he]
    exact plain
  | object (_ :: _) _ _, plain, e, he => by
    rw [children_object] at he
    obtain ⟨i, hi, rfl⟩ := List.mem_mapIdx.1 he
    exact Property.not_composed_of_mem plain _ (List.getElem_mem hi)
  | object [] none _, _, _, he | primitive _ _ _, _, _, he | enumeration _ _, _, _, he
  | oneOf _ _, _, _, he | anyOf _ _, _, _, he | allOf _ _, _, _, he | reference _ _, _, _, he
  | unknown _, _, _, he => by cases he

lemma nesting_object {q : Property} {ps : List Property} {additional : Option SchemaNode}
    {notes : Notes} :
    (object (q :: ps) additional notes).nesting = Property.nesting (q :: ps) + 1 := by
  cases additional <;> rfl

/-- A schema that is not composed is one level deeper than its deepest child. -/
lemma succ_le_nesting : ∀ {n : SchemaNode}, n.isComposed = false →
    (k + 1 ≤ n.nesting ↔ ∃ e ∈ n.children, k ≤ e.2.nesting)
  | array _ _ _, _ | object [] (some _) _, _ => by simp [nesting, children]
  | object (q :: ps) additional notes, _ => by
    rw [children_object, nesting_object, Nat.add_le_add_iff_right,
      Property.exists_le_nesting (by simp)]
    constructor
    · rintro ⟨p, hp, hk⟩
      obtain ⟨i, hi, rfl⟩ := List.mem_iff_getElem.1 hp
      exact ⟨_, List.mem_mapIdx.2 ⟨i, hi, rfl⟩, hk⟩
    · rintro ⟨e, he, hk⟩
      obtain ⟨i, hi, rfl⟩ := List.mem_mapIdx.1 he
      exact ⟨_, List.getElem_mem hi, hk⟩
  | object [] none _, _ | primitive _ _ _, _ | enumeration _ _, _ | reference _ _, _
  | unknown _, _ => by simp [nesting, children]

/-- There is something on every level down to the depth of a schema, and nothing below. -/
lemma atLevel_ne_nil (plain : n.isComposed = false) : n.atLevel k ≠ [] ↔ k ≤ n.nesting := by
  induction k generalizing n with
  | zero => simp [atLevel]
  | succ k ih =>
    rw [succ_le_nesting plain, atLevel, Ne, List.flatMap_eq_nil_iff]
    push Not
    refine exists_congr fun e => and_congr_right fun he => ?_
    rw [← ih (not_composed_of_mem_children plain e he), Ne, List.map_eq_nil_iff]

end SchemaNode

end ClientGen.Schema
