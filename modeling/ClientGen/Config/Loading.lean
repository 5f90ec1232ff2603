import ClientGen.Config.Basic
import ClientGen.Failure
import ClientGen.Yaml.Reader

/-!
# Loading a configuration

The configuration of a file. Its directory is the one that the roots of the output are below.
-/

namespace ClientGen.Config

open ClientGen.Document ClientGen.Machine

variable {m : Type → Type} [Monad m] [Machine m]

/-- The configuration of a YAML document; null is an empty map. -/
def ofYaml (name base text : String) : Except Failure Config :=
  match Yaml.read text with
  | .error .malformed => .error (.config (.notYaml name))
  | .error fault => .error (.yaml fault)
  | .ok .null => (ofDocument base (.map [])).mapError Failure.ofConfig
  | .ok v => (ofDocument base v).mapError Failure.ofConfig

/-- The configuration of a file. -/
def load (path : String) : Work m Failure Config := do
  let path := Path.tidy path
  let name := Path.lastName path
  if !(← (isThere path).adapt Failure.file) then throw (.config (.missing path))
  let text ← (readText path).adapt fun
    | .file e => Failure.config (.unreadable name e)
    | e => Failure.ofTextError e
  let base := Path.resolve (← asked here) (Path.parent path)
  liftM (ofYaml name base text)

end ClientGen.Config

/-!
## A configuration to start with

The text of a configuration file that has every key at its usual value.
-/

namespace ClientGen.Config

/-- A block with its keys. -/
def starterBlock (name : String) (fields : List (String × String)) : String :=
  name ++ ":\n" ++ String.join (fields.map fun (k, v) => "  " ++ k ++ ": " ++ v ++ "\n")

/-- The text of the configuration. -/
def starterText : String :=
  let schemas : SchemasBlock := {}
  let apis : ApisBlock := {}
  let hooks : HooksBlock := {}
  let queryKeys : QueryKeysBlock := {}
  "spec_path: null\n" ++
    starterBlock "schemas" [("output", schemas.output)] ++
    starterBlock "apis"
      [("output", apis.output), ("style", apis.style.name), ("base_url", "''")] ++
    starterBlock "modules" [("ignore", "[]"), ("selected", "[]")] ++
    starterBlock "hooks" [("library", "null"), ("output", hooks.output)] ++
    starterBlock "query_keys" [("output", queryKeys.output)] ++
    "formatter: " ++ FormatterChoice.auto.name ++ "\n"

end ClientGen.Config
