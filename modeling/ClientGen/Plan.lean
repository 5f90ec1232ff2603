import ClientGen.Emission.Operations
import ClientGen.Graph.Order
import ClientGen.Partition

/-!
# Plans

All files that a description generates, computed without touching a disk. Schemas that two or more
modules share are declared once, in the directory of the shared ones; every other schema is declared
in the directory of the one module that needs it.
-/

namespace ClientGen

open Api Document Emission Output Template TypeScript

/-- A generated file. -/
structure GeneratedFile where
  path : String
  content : String
  deriving DecidableEq, Repr

/-- What a plan is made to: the layout of the output, the selected and the ignored modules, the
library for hooks by its name, and the address in front of every path. -/
structure PlanSettings where
  layout : Layout := {}
  selected : List String := []
  ignored : List String := []
  hooks : Option String := none
  baseUrl : String := ""

/-- The files of a directory of schemas. -/
structure SchemaFiles where
  types : GeneratedFile
  schemas : GeneratedFile
  index : GeneratedFile

/-- The files of a directory in order. -/
def SchemaFiles.all (f : SchemaFiles) : List GeneratedFile := [f.types, f.schemas, f.index]

/-- The files of a module: those of its schemas, of its client functions, of its cache keys and of
its hooks. -/
structure ModuleFiles where
  schemas : SchemaFiles
  api : GeneratedFile
  queryKeys : GeneratedFile
  hooks : List GeneratedFile

/-- The files of a module in order. -/
def ModuleFiles.all (f : ModuleFiles) : List GeneratedFile :=
  f.schemas.all ++ [f.api, f.queryKeys] ++ f.hooks

/-- What is planned for the shared schemas: the workspace that their files are written from, these
files if there are any, and what failed. -/
structure SharedPart where
  workspace : Workspace := {}
  files : Option SchemaFiles := none
  failures : List String := []

/-- The enumerations that the shared schemas declare. -/
def SharedPart.declarations (p : SharedPart) : List String :=
  (p.workspace.types.artifacts.filter (·.kind == .enumeration)).map (·.name)

/-- What is planned for a module: the workspace that its schema files are written from, its
operations, the files of both, and what failed. -/
structure ModulePart where
  target : Target
  workspace : Workspace
  operations : List ClientOperation
  files : ModuleFiles
  failures : List String

/-- A plan: its parts, its files in the order in which they are written, the modules and the shared
schemas that they are about, and what could not be declared. -/
structure Plan where
  shared : SharedPart
  parts : List ModulePart
  files : List GeneratedFile
  modules : List String
  common : List String
  failures : List String

/-- The file at a path. -/
def Plan.file? (p : Plan) (path : String) : Option GeneratedFile :=
  p.files.find? fun f => f.path == path

/-- Why there is no plan. -/
inductive PlanError
  | selection (e : SelectionError)
  | emit (e : EmitError)
  | unsupportedHooks (name : String)

/-- The words for an error. -/
def PlanError.message : PlanError → String
  | .selection e => e.message
  | .emit e => e.message
  | .unsupportedHooks name => "Unsupported hook library '" ++ name ++ "'"

/-- Planning: a computation that reports and may fail. -/
abbrev Planning := Reporting PlanError

/-- Report messages. -/
def reportAll {ε : Type} (messages : Log) : Reporting ε Unit :=
  modify (· ++ messages)

/-- Run an emission on a workspace, and report what it reports. -/
def emitting {α : Type} (w : Workspace) (x : Emit α) : Planning (α × Workspace) := do
  let (result, w) := x.run.run { w with log := [] }
  reportAll w.log
  match result with
  | .ok a => return (a, w)
  | .error e => throw (.emit e)

/-- Render a file of a plan. -/
def planned {α : Type} (r : Except RenderError α) : Planning α :=
  liftM (r.mapError fun e => PlanError.emit (.render e))

/-- Declare one schema in both files of a directory. Each file goes on its own, so that a schema
that cannot be declared is known to both. -/
def emitSchema (c : Setting) (name : String) : Emit (Option String) := do
  let type ← caught (emitType c name none)
  let validator ← caught (emitValidator c name none)
  let failure := match type, validator with
    | .error e, _ => some e
    | .ok (), .error e => some e
    | .ok (), .ok () => none
  match failure with
  | none => return none
  | some e =>
    note .warning ("Skipping schema " ++ name ++ ": " ++ e.message)
    return some (name ++ ": " ++ e.message)

/-- Declare some schemas in dependency order, and give what failed. -/
def emitSchemas (c : Setting) (names : List String) : Emit (List String) := do
  modify fun w => { w with log := w.log ++ Graph.orderMessages c.description names }
  let failures ← (Graph.dependencyOrder c.description names).mapM (emitSchema c)
  return failures.filterMap id

/-- What the template of a file of declarations sees. -/
def schemaFileContext (layout : Layout) (directory : String) (usesCommon : Bool)
    (artifacts : List Artifact) : Scope :=
  let common : Value := .list [.record
    [("namespace", .str commonNamespace), ("path", .str (layout.schemaImport directory none))]]
  [("banner", .str banner), ("imports", if usesCommon then common else .list []),
   ("declarations", .texts (artifacts.map (·.content)))]

/-- The three files of a directory of schemas. -/
def schemaFiles (c : Setting) (layout : Layout) (directory : String) (w : Workspace) :
    Except RenderError SchemaFiles := do
  let types ← (c.templates .fileTypes).render
    (schemaFileContext layout directory w.types.usesCommon w.types.artifacts)
  let schemas ← (c.templates .fileSchemas).render
    (schemaFileContext layout directory w.validators.usesCommon w.validators.artifacts)
  let index ← (c.templates .fileIndex).render [("banner", .str banner)]
  return {
    types := ⟨directory ++ "/types.ts", types⟩
    schemas := ⟨directory ++ "/schemas.ts", schemas⟩
    index := ⟨directory ++ "/index.ts", index⟩ }

/-- Emit the operations of a module in order, and give what failed. -/
def emitOperations (c : Setting) (t : Target) : List (String × Nat) → List Operation →
    Emit (List ClientOperation × List String)
  | _, [] => return ([], [])
  | asked, op :: rest => do
    let (name, asked) := uniqueName (functionName op.method op.path op.operationId) asked
    let emitted ← caught (emitOperation c t name op)
    let (ops, failures) ← match emitted with
      | .ok op => pure ([op], [])
      | .error e => do
        note .warning ("Skipping " ++ operationLabel op ++ ": " ++ e.message)
        pure ([], [operationLabel op ++ ": " ++ e.message])
    let (moreOps, moreFailures) ← emitOperations c t asked rest
    return (ops ++ moreOps, failures ++ moreFailures)

/-- Plan the shared schemas, if there are any. -/
def planShared (c : Setting) (layout : Layout) (common : List String) : Planning SharedPart := do
  if common.isEmpty then return {}
  reportAll [⟨.info, "Shared schemas: " ++ ", ".intercalate common⟩]
  let (failures, workspace) ← emitting {} (emitSchemas c common)
  let files ← planned (schemaFiles c layout layout.commonDirectory workspace)
  return { workspace, files := some files, failures }

/-- The library for hooks of a name. -/
def hookLibrary (name : Option String) : Planning (Option HookLibrary) :=
  match name with
  | none => return none
  | some name =>
    match HookLibrary.ofName? name with
    | some library => return some library
    | none => throw (.unsupportedHooks name)

/-- The files of a module's hooks, with an index, if a library for hooks is chosen. -/
def hookFiles (c : Setting) (t : Target) (ops : List ClientOperation) :
    Except RenderError (List GeneratedFile) := do
  if t.hooks.isNone then return []
  let directory := t.layout.hooksDirectory t.module
  let index ← hooksIndexFile c ops
  return (ops.filterMap (·.hook)).map (fun h => ⟨directory ++ "/" ++ h.name ++ ".ts", h.content⟩) ++
    [⟨directory ++ "/index.ts", index⟩]

/-- The files of a module. -/
def moduleFiles (c : Setting) (t : Target) (w : Workspace) (ops : List ClientOperation) :
    Except RenderError ModuleFiles := do
  let schemas ← schemaFiles c t.layout (t.layout.schemasDirectory t.module) w
  let api ← apiFile c t ops
  let keys ← queryKeysFile c t ops
  let hooks ← hookFiles c t ops
  return {
    schemas
    api := ⟨t.layout.apisDirectory t.module ++ "/index.ts", api⟩
    queryKeys := ⟨t.layout.queryKeysFile t.module, keys⟩
    hooks }

/-- Plan one module, of which `names` are the schemas that it does not share. -/
def planModule (c : Setting) (settings : PlanSettings) (registry : Enumeration.Registry)
    (module : String) (names : List String) : Planning ModulePart := do
  let (schemaFailures, w) ← emitting { registry } (emitSchemas c names)
  let hooks ← hookLibrary settings.hooks
  let target : Target := { module, layout := settings.layout, hooks, baseUrl := settings.baseUrl }
  let ((operations, failures), workspace) ←
    emitting w (emitOperations c target [] (c.description.operationsOf module))
  let files ← planned (moduleFiles c target workspace operations)
  reportAll [⟨.debug, "Module " ++ module ++ ": " ++ toString names.length ++ " schema(s), " ++
    toString operations.length ++ " operation(s)"⟩]
  return { target, workspace, operations, files, failures := schemaFailures ++ failures }

/-- Plan several modules one after another. -/
def planModules (c : Setting) (settings : PlanSettings) (map : Partition.ModuleMap) :
    Enumeration.Registry → List String → Planning (List ModulePart)
  | _, [] => return []
  | registry, module :: rest => do
    let part ← planModule c settings registry module ((map.lookup module).getD [])
    return part :: (← planModules c settings map part.workspace.registry rest)

/-- Plan the files of a description. -/
def Plan.of (d : Description) (settings : PlanSettings)
    (templates : TemplateId → Template := builtin) : Planning Plan := do
  let map := Partition.moduleMap d
  reportAll (Partition.moduleMapMessages d)
  let (selection, messages) :=
    (Partition.selectModules (map.map Prod.fst) settings.selected settings.ignored).run.run []
  reportAll messages
  let modules ← liftM (selection.mapError PlanError.selection)
  let (map, common) := Partition.split map modules
  let c : Setting := { description := d, templates }
  let shared ← planShared c settings.layout common
  let c := { c with commonSchemas := common, commonDeclarations := shared.declarations }
  let parts ← planModules c settings map shared.workspace.registry modules
  let http ← planned ((templates .httpClient).render [("banner", .str banner)])
  return {
    shared, parts
    files := (shared.files.toList.flatMap (·.all)) ++ parts.flatMap (·.files.all) ++
      [⟨settings.layout.httpClientFile, http⟩]
    modules, common
    failures := shared.failures ++ parts.flatMap (·.failures) }

end ClientGen
