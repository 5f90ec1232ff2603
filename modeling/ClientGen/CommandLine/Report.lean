import ClientGen.Graph.Cycles
import ClientGen.Json.Writer
import ClientGen.Partition

/-!
# Reports

What a description contains: its modules, the cycles of its schemas, and what the selected modules
would share. A report is shown as lines or written as JSON.
-/

namespace ClientGen.CommandLine

open Api Document Text

/-- The size of one module. -/
structure ModuleSummary where
  module : String
  operations : Nat
  schemas : Nat
  deriving DecidableEq, Repr

/-- A report. The schemas of the modules and the references are given if they are asked for. -/
structure Report where
  title : String
  version : String
  schemas : Nat
  modules : List ModuleSummary
  cycles : List (List String)
  selected : List String
  common : List String
  moduleSchemas : Option (List (String × List String)) := none
  graph : Option (List (String × List String)) := none

namespace Report

/-- The report of a description, for some selected modules. -/
def of (d : Description) (requested : List String) (withSchemas withGraph : Bool) :
    Reporting SelectionError Report := do
  let (messages, _) := ({ description := d : Graph.Dependencies }).build
  modify (· ++ messages ++ Partition.moduleMapMessages d)
  let map := Partition.moduleMap d
  let (selected, common) ←
    if map.isEmpty then pure ([], [])
    else do
      let selected ← Partition.selectModules (map.map Prod.fst) requested []
      pure (selected, (Partition.split map selected).2)
  let schemasOf (module : String) : List String := (map.lookup module).getD []
  return {
    title := d.title, version := d.version, schemas := d.schemas.length
    modules := d.modules.map fun m => ⟨m, (d.operationsOf m).length, (schemasOf m).length⟩
    cycles := Graph.cycles d
    selected, common
    moduleSchemas := if withSchemas then some map else none
    graph := if withGraph then some (d.schemaNames.map fun n => (n, d.targets n)) else none }

/-- A table of texts as a value. -/
def tableValue (table : List (String × List String)) : Value :=
  .record (table.map fun (k, xs) => (k, .texts xs))

/-- A report as a value. -/
def value (r : Report) : Value :=
  let module (s : ModuleSummary) : Value :=
    .record [("module", .str s.module), ("operations", .int s.operations),
      ("schemas", .int s.schemas)]
  .record ([("title", .str r.title), ("version", .str r.version), ("schemas", .int r.schemas),
    ("modules", .list (r.modules.map module)), ("cycles", .list (r.cycles.map Value.texts)),
    ("selected", .texts r.selected), ("common", .texts r.common)] ++
    (r.moduleSchemas.map fun table => ("module_schemas", tableValue table)).toList ++
    (r.graph.map fun table => ("graph", tableValue table)).toList)

/-- Names with commas between them, or a word for none. -/
def enumerated (names : List String) : String :=
  if names.isEmpty then "(none)" else ", ".intercalate names

/-- The line of a title and a version. -/
def heading (r : Report) : String :=
  let title := if r.title.isEmpty then "Untitled" else r.title
  String.ofList (dropEndWhile isBlank (title ++ " " ++ r.version).toList)

/-- The line of a module. -/
def moduleLine (s : ModuleSummary) : String :=
  "  " ++ padRight 20 s.module ++ " " ++ toString s.operations ++
    " operation(s), " ++ toString s.schemas ++ " schema(s)"

/-- A report as lines. -/
def lines (r : Report) : List String :=
  [r.heading, "Schemas: " ++ toString r.schemas, "Modules:"] ++ r.modules.map moduleLine ++
  (if r.cycles.isEmpty then []
    else "Circular schemas:" ::
      r.cycles.map fun cycle => "  " ++ " -> ".intercalate (cycle ++ cycle.take 1)) ++
  (match r.moduleSchemas with
    | none => []
    | some table => "Schemas by module:" ::
      table.flatMap fun (m, names) => ("  " ++ m ++ ":") :: names.map ("    - " ++ ·)) ++
  (match r.graph with
    | none => []
    | some table => "Dependencies:" ::
      table.map fun (n, targets) => "  " ++ n ++ " -> " ++ enumerated targets) ++
  (if r.selected.isEmpty then []
    else ["Common for " ++ ", ".intercalate r.selected ++ ": " ++ enumerated r.common])

end Report

end ClientGen.CommandLine
