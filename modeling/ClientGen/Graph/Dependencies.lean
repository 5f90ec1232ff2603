import ClientGen.Graph.Reference

/-!
# Dependencies

All schemas that a schema references, directly or through others, each answer remembered for later
questions. A schema that turns out to reference itself is noted as circular.
-/

namespace ClientGen.Graph

open ClientGen.Api

/-- What is known about the references of a description so far. -/
structure Dependencies where
  description : Description
  circular : List String := []
  answers : List (String × List String) := []

/-- A question that is being answered: the schemas met, those expanded, and the circular ones. -/
structure Search where
  met : List String
  expanded : List String
  circular : List String

/-- Note that a schema was met, and that it is circular if it lies on the path to it. -/
def Search.meet (s : Search) (path : List String) (name : String) : Search :=
  { s with
    met := addNew s.met name
    circular := if path.contains name then addNew s.circular name else s.circular }

mutual

/-- Follow the references of the schema `name`, to which `path` leads. Each schema is expanded at
most once, so that a budget of one more than there are schemas is never used up. -/
def Dependencies.follow (g : Dependencies) : Nat → List String → String →
    ExceptT SchemaError (StateM Search) Unit
  | 0, _, _ => return
  | budget + 1, path, name => do
    let targets ← liftM (g.description.soundTargets name)
    targets.forM (g.followTarget budget path name)

/-- Follow one reference from `name` to `target`. -/
def Dependencies.followTarget (g : Dependencies) : Nat → List String → String → String →
    ExceptT SchemaError (StateM Search) Unit
  | budget, path, name, target => do
    -- Meeting comes before turning back: it is what marks a target on the path as circular.
    modify (·.meet path target)
    if path.contains target || (← get).expanded.contains target then return
    modify fun s => { s with expanded := s.expanded ++ [target] }
    match g.answers.lookup target with
    -- Remembered names are met on this path as well, so that a cycle through them is not missed.
    | some answer => modify fun s => answer.foldl (fun s t => s.meet path t) s
    | none =>
      if (g.description.schema? target).isNone then throw (.notFound target (some name))
      g.follow budget (path ++ [target]) target

end

namespace Dependencies

/-- All schemas that `name` references, directly or through others, and what is known afterwards.
An answer is remembered; a failure keeps the circular schemas found on the way. -/
def of (g : Dependencies) (name : String) : Except SchemaError (List String) × Dependencies :=
  match g.answers.lookup name with
  | some answer => (.ok answer, g)
  | none =>
    let start : Search := { met := [], expanded := [name], circular := g.circular }
    match (g.follow (g.description.schemas.length + 1) [name] name).run.run start with
    | (.ok (), s) =>
      (.ok s.met, { g with circular := s.circular, answers := g.answers ++ [(name, s.met)] })
    | (.error e, s) => (.error e, { g with circular := s.circular })

/-- Ask for every schema, reporting those that have no answer. -/
def build (g : Dependencies) : Log × Dependencies :=
  g.description.schemaNames.foldl (fun (log, g) name =>
    match g.of name with
    | (.ok _, g) => (log, g)
    | (.error e, g) =>
      (log ++ [⟨.warning, "Skipping dependencies of " ++ name ++ ": " ++ e.message⟩], g)) ([], g)

end Dependencies

end ClientGen.Graph
