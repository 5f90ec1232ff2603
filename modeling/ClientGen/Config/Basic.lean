import ClientGen.Plan

/-!
# Configuration

What a project says about its generated code: the specifications, the roots of the output, and the
choices that are not taken from a specification. A specification may have blocks of its own, and
those it lacks are filled from the configuration.
-/

namespace ClientGen

open Output

/-- How the client functions are written. -/
inductive ApiStyle
  | fetch
  deriving DecidableEq, Repr, Inhabited

/-- The name of a style. -/
def ApiStyle.name : ApiStyle → String
  | .fetch => "fetch"

/-- The style of a name. -/
def ApiStyle.ofName? (name : String) : Option ApiStyle :=
  [ApiStyle.fetch].find? fun s => s.name == name

/-- Which formatter is run on the output. -/
inductive FormatterChoice
  /-- The one that the project is set up with, if there is one. -/
  | auto
  | prettier
  | biome
  | none
  deriving DecidableEq, Repr, Inhabited

/-- The name of a choice. -/
def FormatterChoice.name : FormatterChoice → String
  | .auto => "auto"
  | .prettier => "prettier"
  | .biome => "biome"
  | .none => "none"

/-- All choices in order. -/
def FormatterChoice.all : List FormatterChoice := [.auto, .prettier, .biome, .none]

/-- The choice of a name. -/
def FormatterChoice.ofName? (name : String) : Option FormatterChoice :=
  all.find? fun c => c.name == name

/-- Where schemas go. -/
structure SchemasBlock where
  output : String := "src/schemas"
  deriving DecidableEq, Repr, Inhabited

/-- Where client functions go and how they are written. -/
structure ApisBlock where
  output : String := "src/apis"
  style : ApiStyle := .fetch
  baseUrl : String := ""
  deriving DecidableEq, Repr, Inhabited

/-- Which modules are generated. -/
structure ModulesBlock where
  ignore : List String := []
  selected : List String := []
  deriving DecidableEq, Repr, Inhabited

/-- Whether hooks are generated, for which library, and where they go. -/
structure HooksBlock where
  library : Option Emission.HookLibrary := none
  output : String := "src/hooks"
  deriving DecidableEq, Repr, Inhabited

/-- Where cache keys go. -/
structure QueryKeysBlock where
  output : String := "src/query-keys"
  deriving DecidableEq, Repr, Inhabited

/-- One specification among several, with the blocks of its own. -/
structure SpecEntry where
  name : String
  path : String
  schemas : Option SchemasBlock := none
  apis : Option ApisBlock := none
  modules : Option ModulesBlock := none
  deriving DecidableEq, Repr, Inhabited

/-- A configuration. The roots of the output are below the directory `base`. -/
structure Config where
  base : String
  specPath : Option String := none
  specs : List SpecEntry := []
  schemas : SchemasBlock := {}
  apis : ApisBlock := {}
  modules : ModulesBlock := {}
  hooks : HooksBlock := {}
  queryKeys : QueryKeysBlock := {}
  templates : Option String := none
  formatter : FormatterChoice := .auto
  deriving DecidableEq, Repr, Inhabited

/-- A specification with all of its blocks. -/
structure EffectiveSpec where
  name : String
  path : String
  schemas : SchemasBlock
  apis : ApisBlock
  modules : ModulesBlock
  deriving DecidableEq, Repr, Inhabited

namespace Config

/-- A specification with the blocks that it lacks filled from the configuration. -/
def complete (c : Config) (entry : SpecEntry) : EffectiveSpec :=
  { name := entry.name, path := entry.path
    schemas := entry.schemas.getD c.schemas
    apis := entry.apis.getD c.apis
    modules := entry.modules.getD c.modules }

/-- The specifications to generate. A single one without a name of its own is called `default`. -/
def effectiveSpecs (c : Config) : List EffectiveSpec :=
  if !c.specs.isEmpty then c.specs.map c.complete
  else
    match c.specPath with
    | some path => if path.isEmpty then [] else [c.complete { name := "default", path }]
    | none => []

/-- Whether there are several specifications, so that each needs a directory of its own. -/
def isMulti (c : Config) : Bool :=
  2 ≤ c.specs.length

/-- The layout of a specification's output. Relative roots are taken from the directory `here`. -/
def layoutOf (c : Config) (here : String) (spec : EffectiveSpec) : Layout :=
  { schemas := spec.schemas.output, apis := spec.apis.output, hooks := c.hooks.output
    queryKeys := c.queryKeys.output, name := if c.isMulti then some spec.name else none, here }

/-- What a specification's plan is made to. -/
def settingsOf (c : Config) (here : String) (spec : EffectiveSpec) : PlanSettings :=
  { layout := c.layoutOf here spec, selected := spec.modules.selected
    ignored := spec.modules.ignore, hooks := c.hooks.library.map (·.name)
    baseUrl := spec.apis.baseUrl }

end Config

end ClientGen
