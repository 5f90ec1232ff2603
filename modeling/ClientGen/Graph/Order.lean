import ClientGen.Graph.Reference

/-!
# Dependency order

Names in an order in which a schema comes after those it references, as far as cycles allow.
-/

namespace ClientGen.Graph

open ClientGen.Api

/-- A walk in progress: the names entered, and those left again. -/
structure OrderWalk where
  entered : List String := []
  ordered : List String := []

/-- Enter `name` unless it has been entered: its references among `members` come first, then it is
put in order. Every member is entered once, so that a budget of one more than there are members is
never used up. -/
def OrderWalk.enter (d : Description) (members : List String) : Nat → String → OrderWalk → OrderWalk
  | 0, _, s => s
  | budget + 1, name, s =>
    if s.entered.contains name then s
    else
      let within := (d.targets name).filter members.contains
      -- `name` counts as entered before its references do, so that a cycle ends here.
      let s := within.foldl (fun s target => enter d members budget target s)
        { s with entered := s.entered ++ [name] }
      { s with ordered := s.ordered ++ [name] }

/-- The walk over some names. -/
def orderWalk (d : Description) (names : List String) : OrderWalk :=
  let members := distinct names
  members.foldl (fun s name => s.enter d members (members.length + 1) name) {}

/-- Some names in dependency order, each once. -/
def dependencyOrder (d : Description) (names : List String) : List String :=
  (orderWalk d names).ordered

/-- What is reported while names are ordered. -/
def orderMessages (d : Description) (names : List String) : Log :=
  (orderWalk d names).entered.flatMap d.strayMessages

end ClientGen.Graph
