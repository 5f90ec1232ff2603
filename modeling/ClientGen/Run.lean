import ClientGen.Formatter
import ClientGen.Output.Writer
import ClientGen.Specification.Loading
import ClientGen.Template.Override

/-!
# Runs

A run generates the code of every specification of a configuration: it loads the specification,
plans its files, writes them and formats them. The specifications are independent of each other, and
one that fails does not stop the others unless that is asked for.
-/

namespace ClientGen

open Api Machine Output Specification Template

/-- How a run goes. -/
structure RunOptions where
  write : WriteOptions := {}
  /-- Whether texts of addresses are kept and used again. -/
  useCache : Bool := true
  format : Bool := true
  /-- Whether a failing specification ends the run. -/
  failFast : Bool := false
  deriving DecidableEq, Repr

/-- What became of one specification: the paths of its files by what became of them, the parts that
could not be declared, and the words for the error, if it failed as a whole. -/
structure SpecResult where
  name : String
  written : List String := []
  unchanged : List String := []
  conflicts : List String := []
  failures : List String := []
  error : Option String := none
  deriving DecidableEq, Repr

/-- Whether all went well. -/
def SpecResult.ok (r : SpecResult) : Bool :=
  r.error.isNone && r.conflicts.isEmpty

/-- Note what became of a file. -/
def SpecResult.note (r : SpecResult) (path : String) : WriteStatus → SpecResult
  | .written => { r with written := r.written ++ [path] }
  | .unchanged => { r with unchanged := r.unchanged ++ [path] }
  | .conflict => { r with conflicts := r.conflicts ++ [path] }

variable {m : Type → Type} [Monad m] [Machine m]

/-- Write the files of a plan. -/
def writeFiles : Writer → SpecResult → List GeneratedFile → Work m TextError (Writer × SpecResult)
  | w, r, [] => return (w, r)
  | w, r, file :: rest => do
    let (status, w) ← w.write file.path file.content
    writeFiles w (r.note file.path status) rest

/-- The plan of a specification. -/
def planSpec (config : Config) (templates : Templates) (options : RunOptions)
    (spec : EffectiveSpec) : Work (StateT FileCache m) Failure Plan := do
  let cache : AddressCache := { directory := Path.below config.base ({} : AddressCache).directory }
  let document ←
    load spec.path (if options.useCache then some cache else none) (some config.base)
  let description ← ofReporting
    ((Description.ofDocument document (some spec.path)).adapt Failure.reading)
  let settings := config.settingsOf (← asked here) spec
  ofReporting ((Plan.of description settings templates).adapt Failure.ofPlan)

/-- Format the files that were written. -/
def formatWritten (config : Config) (written : List String) : Work m TextError Unit := do
  match ← Formatter.ofChoice config.formatter config.base with
  | none => return
  | some formatter =>
    let _ ← formatter.format (written.map (Path.below config.base)) config.base

/-- Generate the code of one specification. -/
def runSpec (config : Config) (templates : Templates) (options : RunOptions)
    (spec : EffectiveSpec) : Work (StateT FileCache m) Failure SpecResult := do
  let plan ← planSpec config templates options spec
  let writer ← (Writer.open_ config.base options.write).adapt Failure.ofTextError
  let start : SpecResult := { name := spec.name, failures := plan.failures }
  let (writer, result) ← (writeFiles writer start plan.files).adapt Failure.ofTextError
  -- The manifest remembers the texts as they were generated, before they are formatted.
  let _ ← writer.saveManifest.adapt Failure.ofTextError
  if options.format && !options.write.dryRun && !result.written.isEmpty then
    (formatWritten config result.written).adapt Failure.ofTextError
  return result

/-- Generate the code of some specifications in order. -/
def runSpecs (config : Config) (templates : Templates) (options : RunOptions) :
    List EffectiveSpec → Work (StateT FileCache m) Failure (List SpecResult)
  | [] => return []
  | spec :: rest => do
    report .info ("Generating " ++ spec.name ++ " from " ++ spec.path)
    let result ← match ← attempt (runSpec config templates options spec) with
      | .ok result => pure result
      | .error e =>
        if !e.isOfOneSpec || options.failFast then throw e
        report .error ("Spec " ++ spec.name ++ " failed: " ++ e.message)
        pure { name := spec.name, error := some e.message }
    return result :: (← runSpecs config templates options rest)

/-- Generate the code of every specification of a configuration. -/
def runAll (config : Config) (templates : Templates) (options : RunOptions) :
    Work (StateT FileCache m) Failure (List SpecResult) :=
  runSpecs config templates options config.effectiveSpecs

end ClientGen
