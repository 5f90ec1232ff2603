import ClientGen.Graph.Reference

/-!
# Closure under references

All schemas that some names need, directly or through others, in the order in which a depth-first
walk meets them. The walk keeps a list of names still to be met; a known name is expanded once.
-/

namespace ClientGen.Graph

open ClientGen.Api

/-- A name met on the walk. -/
inductive Visit
  | known (name : String)
  | missing (name : String)
  deriving DecidableEq, Repr

/-- The name, if it is known. -/
def Visit.known? : Visit → Option String
  | .known name => some name
  | .missing _ => none

/-- Fewer names are left when a name of the list is taken out. -/
theorem length_filter_lt {names seen : List String} {name : String} (known : name ∈ names)
    (new : name ∉ seen) :
    (names.filter fun n => !(seen ++ [name]).contains n).length <
      (names.filter fun n => !seen.contains n).length := by
  have split : (names.filter fun n => !(seen ++ [name]).contains n) =
      (names.filter fun n => !seen.contains n).filter (· != name) := by
    rw [List.filter_filter]
    refine List.filter_congr fun n _ => ?_
    by_cases hs : n ∈ seen <;> by_cases hn : n = name <;> simp [hs, hn]
  rw [split, List.length_filter_lt_length_iff_exists]
  exact ⟨name, by simp [known, new], by simp⟩

/-- The walk over the names of `work`, where those of `seen` have been expanded before. -/
def walk (d : Description) (seen : List String) : List String → List Visit
  | [] => []
  | name :: work =>
    if name ∈ seen then walk d seen work
    else if name ∈ d.schemaNames then
      let seen' := seen ++ [name]
      .known name :: walk d seen' ((d.targets name).filter (fun t => !seen'.contains t) ++ work)
    else .missing name :: walk d seen work
termination_by work => ((d.schemaNames.filter fun n => !seen.contains n).length, work.length)
decreasing_by
  · exact Prod.Lex.right _ (by simp)
  · exact Prod.Lex.left _ _ (length_filter_lt ‹_› ‹_›)
  · exact Prod.Lex.right _ (by simp)

/-- The schemas that some names need, these included. Unknown names are left out. -/
def closure (d : Description) (roots : List String) : List String :=
  (walk d [] roots).filterMap Visit.known?

/-- What is reported while a closure is taken: every missing name and every stray. -/
def closureMessages (d : Description) (roots : List String) : Log :=
  (walk d [] roots).flatMap fun
    | .known name => d.strayMessages name
    | .missing name => [⟨.warning, "Referenced schema '" ++ name ++ "' does not exist"⟩]

/-- The error that a visit stands for: a missing name, or a schema with a stray. -/
def Visit.error? (d : Description) : Visit → Option SchemaError
  | .missing name => some (.notFound name d.source)
  | .known name =>
    match d.soundTargets name with
    | .error e => some e
    | .ok _ => none

/-- The closure of some names, if nothing on the walk is missing or stray. -/
def soundClosure (d : Description) (roots : List String) : Except SchemaError (List String) :=
  match (walk d [] roots).findSome? (Visit.error? d) with
  | some e => .error e
  | none => .ok (closure d roots)

end ClientGen.Graph
