import ClientGen.Api.Description

/-!
# Direct references

Which schemas a schema names in its own tree. A pointer that leads to no schema table is a stray.
-/

namespace ClientGen.Api.Description

open ClientGen.Schema

/-- The names that a schema references directly, each once; none for an unknown schema. -/
def targets (d : Description) (name : String) : List String :=
  match d.schema? name with
  | some s => distinct (s.pointers.filterMap targetName?)
  | none => []

/-- The pointers in a schema that lead to no schema table, each once. -/
def strays (d : Description) (name : String) : List String :=
  match d.schema? name with
  | some s => distinct (s.pointers.filter fun p => (targetName? p).isNone)
  | none => []

/-- The names that a schema references directly, if the schema is known. -/
def knownTargets (d : Description) (name : String) : Except SchemaError (List String) :=
  match d.schema? name with
  | some _ => .ok (d.targets name)
  | none => .error (.notFound name d.source)

/-- The names that a schema references directly, if the schema is known and has no strays. -/
def soundTargets (d : Description) (name : String) : Except SchemaError (List String) :=
  match d.schema? name, d.strays name with
  | none, _ => .error (.notFound name d.source)
  | some _, p :: _ => .error (.unsupportedReference p (some name))
  | some _, [] => .ok (d.targets name)

/-- What is reported when the strays of a schema are skipped. -/
def strayMessages (d : Description) (name : String) : Log :=
  (d.strays name).map fun p =>
    ⟨.debug, "Skipping unsupported reference '" ++ p ++ "' in " ++ name⟩

end ClientGen.Api.Description
