import ClientGen.Config.Basic
import ClientGen.Document.Shown

/-!
# Reading a configuration

A document as a configuration. Numbers count as text, and what is neither text nor a number counts
as not given; a root that is not given or empty keeps its usual place. The first fault, in the order
in which the keys are read, is the one that is told.
-/

namespace ClientGen

open Document Emission

/-- Why there is no configuration. -/
inductive ConfigError
  /-- There is no such file. -/
  | missing (path : String)
  /-- The file cannot be read. -/
  | unreadable (name : String) (cause : FileError)
  /-- The file of this name is no YAML. -/
  | notYaml (name : String)
  /-- The document is no map. -/
  | rootNotMap
  /-- The value of a field is no map. -/
  | notMap (field : String)
  /-- The value of a field is not among the choices. -/
  | noChoice (field : String) (choices : List String)
  /-- There is one specification and a list of them. -/
  | bothSpecs
  /-- The specifications are no list. -/
  | specsNotList
  /-- A specification has no name. -/
  | emptyName (field : String)
  /-- A specification has no path. -/
  | emptyPath (field : String)
  /-- Two specifications have one name. -/
  | duplicateName (field name : String)
  /-- There is no such style of client functions. -/
  | unsupportedStyle (field style : String)
  /-- A number that counts as text has too many digits. -/
  | digits (f : Number.DigitsFault)
  deriving DecidableEq, Repr

namespace ConfigError

/-- The field that an error is about. -/
def field? : ConfigError → Option String
  | .missing _ => none
  | .unreadable _ _ => none
  | .notYaml _ => none
  | .rootNotMap => none
  | .notMap field => some field
  | .noChoice field _ => some field
  | .bothSpecs => some "specs"
  | .specsNotList => some "specs"
  | .emptyName field => some field
  | .emptyPath field => some field
  | .duplicateName field _ => some field
  | .unsupportedStyle field _ => some field
  | .digits _ => none

/-- The words for the cause of an error. -/
def cause : ConfigError → String
  | .missing path => "Config file not found: " ++ path
  | .unreadable name cause => "Failed to parse " ++ name ++ ": " ++ cause.message
  | .notYaml name => "Failed to parse " ++ name ++ ": " ++ yamlFaultText
  | .rootNotMap => "Configuration root must be a mapping"
  | .notMap _ => "Must be a mapping"
  | .noChoice _ choices => "Must be one of " ++ ", ".intercalate choices
  | .bothSpecs => "Use either 'spec_path' or 'specs', not both"
  | .specsNotList => "Must be a list of \x7bname, path\x7d entries"
  | .emptyName _ => "Spec name must not be empty"
  | .emptyPath _ => "Spec path must not be empty"
  | .duplicateName _ name => "Duplicate spec name '" ++ name ++ "'"
  | .unsupportedStyle _ style => "Unsupported API style '" ++ style ++ "'"
  | .digits f => f.message

/-- The words for an error. -/
def message (e : ConfigError) : String :=
  match e.field? with
  | some field => "Field '" ++ field ++ "': " ++ e.cause
  | none => e.cause

end ConfigError

namespace Config

/-! ### Fields -/

/-- Whether a value counts as text: text itself, and numbers. -/
def countsAsText : Value → Bool
  | .str _ => true
  | .int _ => true
  | .float _ => true
  | _ => false

/-- The text of a value. -/
def writtenOf (v : Value) : Except ConfigError String :=
  v.written.mapError .digits

/-- The text under a key. -/
def textField? (block : Value) (key : String) : Except ConfigError (Option String) :=
  match (block.get? key).filter countsAsText with
  | some v => some <$> writtenOf v
  | none => .ok none

/-- The text under a key, unless it is empty or not given. -/
def textFieldOr (block : Value) (key usual : String) : Except ConfigError String := do
  match ← textField? block key with
  | some s => return if s.isEmpty then usual else s
  | none => return usual

/-- Whether an item of a list of texts counts as text, as truth values do too. -/
def countsAsItem : Value → Bool
  | .bool _ => true
  | v => countsAsText v

/-- Some texts: one alone, or those of a list. -/
def textsOf : Value → Except ConfigError (List String)
  | .str s => .ok [s]
  | .list items => (items.filter countsAsItem).mapM writtenOf
  | _ => .ok []

/-- The texts under a key. -/
def textsField (block : Value) (key : String) : Except ConfigError (List String) :=
  textsOf ((block.openAt? key).getD .null)

/-- A value that should be a map; null is an empty one. -/
def mapOf (v : Value) (field : String) : Except ConfigError Value :=
  match v.opened with
  | .null => .ok (.map [])
  | .map entries => .ok (.map entries)
  | _ => .error (.notMap field)

/-- The map under a key. -/
def mapField (block : Value) (key : String) : Except ConfigError Value :=
  mapOf ((block.get? key).getD .null) key

/-- A block under a key, if it is given. -/
def blockField? {α : Type} (block : Value) (key field : String)
    (read : Value → Except ConfigError α) : Except ConfigError (Option α) :=
  match block.get? key with
  | none => .ok none
  | some .null => .ok none
  | some v => do return some (← read (← mapOf v field))

/-! ### Blocks -/

/-- The block of the schemas. -/
def readSchemas (block : Value) : Except ConfigError SchemasBlock := do
  return { output := ← textFieldOr block "output" ({} : SchemasBlock).output }

/-- The block of the client functions; `field` is its place. -/
def readApis (field : String) (block : Value) : Except ConfigError ApisBlock := do
  let usual : ApisBlock := {}
  let output ← textFieldOr block "output" usual.output
  let style ← textFieldOr block "style" usual.style.name
  let baseUrl ← textFieldOr block "base_url" ""
  match ApiStyle.ofName? style with
  | none => .error (.unsupportedStyle (field ++ ".style") style)
  | some style => return { output, style, baseUrl }

/-- The block of the modules. -/
def readModules (block : Value) : Except ConfigError ModulesBlock := do
  return { ignore := ← textsField block "ignore", selected := ← textsField block "selected" }

/-- The block of the hooks. -/
def readHooks (block : Value) : Except ConfigError HooksBlock := do
  let library ← textField? block "library"
  let output ← textFieldOr block "output" ({} : HooksBlock).output
  match library with
  | none => return { output }
  | some name =>
    match HookLibrary.ofName? name with
    | some library => return { library := some library, output }
    | none => .error (.noChoice "hooks.library" (HookLibrary.all.map (·.name)))

/-- The three blocks that a specification may have of its own. `at_` is put in front of their
names. -/
def readBlocks (block : Value) (at_ : String) :
    Except ConfigError (Option SchemasBlock × Option ApisBlock × Option ModulesBlock) := do
  let schemas ← blockField? block "schemas" (at_ ++ "schemas") readSchemas
  let apis ← blockField? block "apis" (at_ ++ "apis") (readApis (at_ ++ "apis"))
  let modules ← blockField? block "modules" (at_ ++ "modules") readModules
  return (schemas, apis, modules)

/-- One specification of a list. `seen` are the names before it. -/
def readEntry (seen : List String) (field : String) (v : Value) : Except ConfigError SpecEntry := do
  let block ← mapOf v field
  let name ← textFieldOr block "name" ""
  let path ← textFieldOr block "path" ""
  if name.isEmpty then .error (.emptyName (field ++ ".name"))
  else if path.isEmpty then .error (.emptyPath (field ++ ".path"))
  else if seen.contains name then .error (.duplicateName (field ++ ".name") name)
  else
    let (schemas, apis, modules) ← readBlocks block (field ++ ".")
    return { name, path, schemas, apis, modules }

/-- The specifications of a list; `seen` are the names before them and `index` counts them. -/
def readEntries (seen : List String) (index : Nat) : List Value → Except ConfigError (List SpecEntry)
  | [] => .ok []
  | v :: rest => do
    let entry ← readEntry seen ("specs[" ++ toString index ++ "]") v
    return entry :: (← readEntries (entry.name :: seen) (index + 1) rest)

/-- The list of specifications; null is an empty one. -/
def readSpecs (v : Value) : Except ConfigError (List SpecEntry) :=
  match v.opened with
  | .null => .ok []
  | .list items => readEntries [] 0 items
  | _ => .error .specsNotList

/-! ### Configurations -/

/-- The formatter of a name; an empty name is the usual choice. -/
def readFormatter (root : Value) : Except ConfigError FormatterChoice := do
  match FormatterChoice.ofName? (← textFieldOr root "formatter" FormatterChoice.auto.name) with
  | some choice => .ok choice
  | none => .error (.noChoice "formatter" (FormatterChoice.all.map (·.name)))

/-- The configuration of a document, for the directory `base`. -/
def ofDocument (base : String) (root : Value) : Except ConfigError Config := do
  if !root.isMap then throw .rootNotMap
  let specPath ← textField? root "spec_path"
  let specs := (root.get? "specs").getD .null
  if specPath.any (!·.isEmpty) && specs.truthy then throw .bothSpecs
  let templates ← textFieldOr root "templates_dir" ""
  let formatter ← readFormatter root
  let hooks ← readHooks (← mapField root "hooks")
  let queryKeys ← mapField root "query_keys"
  let specs ← readSpecs specs
  let (schemas, apis, modules) ← readBlocks root ""
  let queryKeysOutput ← textFieldOr queryKeys "output" ({} : QueryKeysBlock).output
  return {
    base, specPath, specs, hooks, formatter
    schemas := schemas.getD {}
    apis := apis.getD {}
    modules := modules.getD {}
    queryKeys := { output := queryKeysOutput }
    templates := if templates.isEmpty then none else some (Path.below base templates) }

end Config

end ClientGen
