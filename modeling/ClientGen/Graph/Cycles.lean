import ClientGen.Graph.Dependencies

/-!
# Cycles

The cycles that a depth-first walk over the direct references closes, each once and turned so that
it starts at its smallest name.
-/

namespace ClientGen.Graph

open ClientGen.Api

/-- Turn a list so that it starts at its smallest item. -/
def fromLeast (names : List String) : List String :=
  match (sortTexts names).head? with
  | some least => names.dropWhile (· != least) ++ names.takeWhile (· != least)
  | none => []

/-- A walk in progress: the names entered and the cycles closed. -/
structure CycleSearch where
  entered : List String := []
  cycles : List (List String) := []

/-- Enter `name`, to which the names of `path` lead. Every name is entered once, so that a budget
of one more than there are schemas is never used up. -/
def CycleSearch.enter (d : Description) : Nat → List String → String → CycleSearch → CycleSearch
  | 0, _, _, s => s
  | budget + 1, path, name, s =>
    let path := path ++ [name]
    let targets := (d.targets name).filter fun t => (d.schema? t).isSome
    targets.foldl (fun s target =>
      -- What stands before `target` on the path leads to the cycle and is not on it.
      if path.contains target then
        { s with cycles := addNew s.cycles (fromLeast (path.dropWhile (· != target))) }
      else if s.entered.contains target then s
      else enter d budget path target s) { s with entered := s.entered ++ [name] }

/-- The cycles of a description. -/
def cycles (d : Description) : List (List String) :=
  (d.schemaNames.foldl (fun s name =>
    if s.entered.contains name then s else s.enter d (d.schemas.length + 1) [] name)
    ({} : CycleSearch)).cycles

/-- The cycles, and what is known afterwards: all names on them are circular. -/
def Dependencies.cycles (g : Dependencies) : List (List String) × Dependencies :=
  let found := Graph.cycles g.description
  (found, { g with circular := found.flatten.foldl addNew g.circular })

end ClientGen.Graph
