import ClientGen.Schema.Node
import Mathlib.Data.List.Basic

/-!
# References inside a schema

A reference may stand anywhere in the tree of a schema: in the items of an array, in a property or in
what an object holds additionally, and in the members of a composition. The pointers of a schema are
those of all references in its tree.
-/

namespace ClientGen.Schema

/-- A reference with this pointer stands in the tree of a schema. -/
inductive SchemaNode.Mentions (pointer : String) : SchemaNode → Prop
  | reference {notes} : Mentions pointer (.reference pointer notes)
  | items {items constraints notes} :
    Mentions pointer items → Mentions pointer (.array items constraints notes)
  | property {p : Property} {properties additional notes} :
    p ∈ properties → Mentions pointer p.schema → Mentions pointer (.object properties additional notes)
  | additional {properties value notes} :
    Mentions pointer value → Mentions pointer (.object properties (some value) notes)
  | oneOf {s variants notes} :
    s ∈ variants → Mentions pointer s → Mentions pointer (.oneOf variants notes)
  | anyOf {s variants notes} :
    s ∈ variants → Mentions pointer s → Mentions pointer (.anyOf variants notes)
  | allOf {s members notes} :
    s ∈ members → Mentions pointer s → Mentions pointer (.allOf members notes)

/-- A reference in the tree of the schema leads to the schema called `t`. -/
def SchemaNode.RefersTo (node : SchemaNode) (t : String) : Prop :=
  ∃ pointer, node.Mentions pointer ∧ targetName? pointer = some t

variable {pointer : String}

lemma SchemaNode.pointers_subset_of_mem {s : SchemaNode} : ∀ {ss : List SchemaNode}, s ∈ ss →
    s.pointers ⊆ SchemaNode.pointersAll ss
  | n :: rest, h => by
    rw [SchemaNode.pointersAll]
    rcases List.mem_cons.1 h with rfl | h
    · exact List.subset_append_left _ _
    · exact List.Subset.trans (SchemaNode.pointers_subset_of_mem h) (List.subset_append_right _ _)

lemma Property.pointers_subset_of_mem {p : Property} : ∀ {ps : List Property}, p ∈ ps →
    p.schema.pointers ⊆ Property.pointersAll ps
  | ⟨name, required, n⟩ :: rest, h => by
    rw [Property.pointersAll]
    rcases List.mem_cons.1 h with rfl | h
    · exact List.subset_append_left _ _
    · exact List.Subset.trans (Property.pointers_subset_of_mem h) (List.subset_append_right _ _)

mutual

lemma SchemaNode.mentions_of_mem : ∀ s : SchemaNode, pointer ∈ s.pointers → s.Mentions pointer
  | .reference p _, h => by
    obtain rfl := List.mem_singleton.1 h
    exact .reference
  | .array items _ _, h => .items (items.mentions_of_mem h)
  | .object properties none _, h => by
    have within : pointer ∈ Property.pointersAll properties :=
      (List.mem_append.1 h).resolve_right List.not_mem_nil
    obtain ⟨p, hp, mentions⟩ := Property.exists_mentions_of_mem properties within
    exact .property hp mentions
  | .object properties (some value) _, h => by
    rcases List.mem_append.1 h with h | h
    · obtain ⟨p, hp, mentions⟩ := Property.exists_mentions_of_mem properties h
      exact .property hp mentions
    · exact .additional (value.mentions_of_mem h)
  | .oneOf variants _, h => by
    obtain ⟨s, hs, mentions⟩ := SchemaNode.exists_mentions_of_mem variants h
    exact .oneOf hs mentions
  | .anyOf variants _, h => by
    obtain ⟨s, hs, mentions⟩ := SchemaNode.exists_mentions_of_mem variants h
    exact .anyOf hs mentions
  | .allOf members _, h => by
    obtain ⟨s, hs, mentions⟩ := SchemaNode.exists_mentions_of_mem members h
    exact .allOf hs mentions
  | .primitive _ _ _, h => nomatch h
  | .enumeration _ _, h => nomatch h
  | .unknown _, h => nomatch h

lemma SchemaNode.exists_mentions_of_mem : ∀ ss : List SchemaNode,
    pointer ∈ SchemaNode.pointersAll ss → ∃ s ∈ ss, s.Mentions pointer
  | [], h => nomatch h
  | s :: rest, h => by
    rcases List.mem_append.1 h with h | h
    · exact ⟨s, by simp, s.mentions_of_mem h⟩
    · obtain ⟨s', hs, mentions⟩ := SchemaNode.exists_mentions_of_mem rest h
      exact ⟨s', by simp [hs], mentions⟩

lemma Property.exists_mentions_of_mem : ∀ ps : List Property,
    pointer ∈ Property.pointersAll ps → ∃ p ∈ ps, p.schema.Mentions pointer
  | [], h => nomatch h
  | ⟨name, required, s⟩ :: rest, h => by
    rcases List.mem_append.1 h with h | h
    · exact ⟨⟨name, required, s⟩, by simp, s.mentions_of_mem h⟩
    · obtain ⟨p, hp, mentions⟩ := Property.exists_mentions_of_mem rest h
      exact ⟨p, by simp [hp], mentions⟩

end

/-- The pointers of a schema are those of the references in its tree. -/
lemma mem_pointers_iff {s : SchemaNode} : pointer ∈ s.pointers ↔ s.Mentions pointer := by
  refine ⟨s.mentions_of_mem, fun mentions => ?_⟩
  induction mentions with
  | reference => exact List.mem_singleton_self pointer
  | items _ ih => exact ih
  | property hp _ ih => exact List.mem_append_left _ (Property.pointers_subset_of_mem hp ih)
  | additional _ ih => exact List.mem_append_right _ ih
  | oneOf hs _ ih => exact SchemaNode.pointers_subset_of_mem hs ih
  | anyOf hs _ ih => exact SchemaNode.pointers_subset_of_mem hs ih
  | allOf hs _ ih => exact SchemaNode.pointers_subset_of_mem hs ih

end ClientGen.Schema
