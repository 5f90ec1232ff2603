import ClientGen.Graph.Closure

/-!
# Modules and their schemas

Which schemas each module needs, which of them two or more selected modules share, and which
modules are selected.
-/

namespace ClientGen.Partition

open ClientGen.Api

/-- The schemas of each module. -/
abbrev ModuleMap := List (String × List String)

/-- The names that the operations of a module reference. -/
def roots (d : Description) (module : String) : List String :=
  distinct ((d.operationsOf module).flatMap Operation.referencedSchemas)

/-- Every module with all schemas that its operations need. -/
def moduleMap (d : Description) : ModuleMap :=
  tableOf (d.modules.map fun m => (m, Graph.closure d (roots d m)))

/-- What is reported while the module map is made. -/
def moduleMapMessages (d : Description) : Log :=
  d.modules.flatMap fun m => Graph.closureMessages d (roots d m)

/-- The selected modules of a map, each once. -/
def members (map : ModuleMap) (selected : List String) : List String :=
  (map.map Prod.fst).filter selected.contains

/-- The names that occur in the lists of two or more of the selected modules, sorted. -/
def shared (map : ModuleMap) (selected : List String) : List String :=
  let lists := (map.filter fun (m, _) => selected.contains m).map Prod.snd
  sortTexts ((distinct lists.flatten).filter fun name =>
    2 ≤ lists.countP fun names => names.contains name)

/-- Split off the schemas that two or more selected modules share: the map without them in the
selected modules, and their names. With fewer than two selected modules nothing is shared. -/
def split (map : ModuleMap) (selected : List String) : ModuleMap × List String :=
  if (members map selected).length < 2 then (map, [])
  else
    let common := shared map selected
    (map.map fun (m, names) =>
      if selected.contains m then (m, names.filter fun n => !common.contains n) else (m, names),
     common)

/-- The modules to generate: those that are not ignored, and of these the selected ones if any are
selected. Selected modules that do not remain are reported. -/
def selectModules (available selected ignored : List String) :
    Reporting SelectionError (List String) := do
  let remaining := available.filter fun m => !ignored.contains m
  if remaining.isEmpty then throw .allIgnored
  if selected.isEmpty then return remaining
  let unknown := selected.filter fun m => !remaining.contains m
  if !unknown.isEmpty then
    report .warning ("Ignoring unknown or ignored modules: " ++ ", ".intercalate unknown)
  -- The order is that of the selection, no longer that of the description.
  let valid := (distinct selected).filter remaining.contains
  if valid.isEmpty then throw (.noneExists remaining)
  return valid

end ClientGen.Partition
