import ClientGen.Emission.Operations
import Mathlib.Data.List.Basic
import Mathlib.Tactic.Common

/-!
# The schemas that an operation is emitted from

The arguments and the response of an operation have schemas of the operation, but for placeholders
without a parameter, which are texts.
-/

namespace ClientGen.Emission

open Api Schema

variable {op : Operation} {p : Parameter} {node : SchemaNode}

lemma mem_schemas_iff : node ∈ op.schemas ↔ (∃ p ∈ op.parameters, p.schema = node) ∨
    op.requestBody = some node ∨ ∃ status, (status, some node) ∈ op.responses := by
  simp only [Operation.schemas, List.mem_append, Option.mem_toList, List.mem_map,
    List.mem_filterMap, Prod.exists]
  constructor
  · rintro ((body | ⟨status, _, response, rfl⟩) | parameter)
    · exact .inr (.inl body)
    · exact .inr (.inr ⟨status, response⟩)
    · exact .inl parameter
  · rintro (parameter | body | ⟨status, response⟩)
    · exact .inr parameter
    · exact .inl (.inl body)
    · exact .inl (.inr ⟨status, _, response, rfl⟩)

lemma mem_schemas_of_parameter (h : p ∈ op.parameters) : p.schema ∈ op.schemas :=
  mem_schemas_iff.2 (.inl ⟨p, h, rfl⟩)

lemma mem_schemas_of_query (h : p ∈ op.queryParameters) : p.schema ∈ op.schemas :=
  mem_schemas_of_parameter (List.mem_of_mem_filter h)

/-- A placeholder has the schema of a parameter, or it is a text. -/
lemma placeholderSchema_cases (op : Operation) (name : String) :
    placeholderSchema op name ∈ op.schemas ∨
      placeholderSchema op name = .primitive .string {} {} := by
  unfold placeholderSchema
  split
  · next p hp =>
    exact .inl (mem_schemas_of_parameter
      (List.mem_of_mem_filter (List.mem_reverse.1 (List.mem_of_find?_eq_some hp))))
  · exact .inr rfl

lemma mem_schemas_of_body (h : (if op.method.hasBody then op.requestBody else none) = some node) :
    node ∈ op.schemas := by
  split at h
  · exact mem_schemas_iff.2 (.inr (.inl h))
  · cases h

lemma mem_schemas_of_response (h : Operation.preferredResponse op.responses = some node) :
    node ∈ op.schemas := by
  have response {r : String × Option SchemaNode} (hr : r ∈ op.responses) (hn : r.2 = some node) :
      node ∈ op.schemas :=
    mem_schemas_iff.2 (.inr (.inr ⟨r.1, hn ▸ hr⟩))
  have found {status : String}
      (h : (op.responses.find? (·.1 == status)).bind Prod.snd = some node) : node ∈ op.schemas := by
    obtain ⟨r, hr, hn⟩ := Option.bind_eq_some_iff.1 h
    exact response (List.mem_of_find?_eq_some hr) hn
  unfold Operation.preferredResponse at h
  dsimp only at h
  split at h
  · next m hm => exact found (hm.trans h)
  split at h
  · next m hm => exact found (hm.trans h)
  · obtain ⟨r, hr, hn⟩ := List.exists_of_findSome?_eq_some h
    split at hn
    · exact response hr hn
    · simp at hn

end ClientGen.Emission
