import ClientGen.CommandLine.Arguments
import ClientGen.CommandLine.Help
import ClientGen.CommandLine.Report
import ClientGen.Config.Loading
import ClientGen.Console
import ClientGen.Run

/-!
# Commands

What the program does for the words that it is called with. A command ends with an exit code and the
lines that it prints, and tells on what kind of console its messages are shown.
-/

namespace ClientGen.CommandLine

open Api Machine Output Specification Template

/-- How a command ends. -/
structure Outcome where
  exit : Nat
  output : List String := []
  console : Console := .bare
  deriving DecidableEq, Repr

/-- What is printed. -/
def Outcome.text (o : Outcome) : String :=
  String.join (o.output.map (· ++ "\n"))

/-- The file that a configuration is in unless another one is named. -/
def usualConfig : String := "tsgen.yaml"

/-- The line for an error. -/
def errorLine (message : String) : String :=
  "Error: " ++ message

variable {m : Type → Type} [Monad m] [Machine m]

/-- A command on some machine. -/
abbrev Command (m : Type → Type) := Work (StateT FileCache m) Failure Outcome

/-- Go on with what words say, unless they make no sense or ask for help only. -/
def orRefused {α : Type} (helpLines : List String) (said : Except Refusal α)
    (go : α → Command m) : Command m :=
  match said with
  | .ok a => go a
  | .error .help => return { exit := 0, output := helpLines }
  | .error .misuse => return { exit := 2 }

/-- Print the errors of a specification, of the choice of modules or of a configuration. -/
def orError (console : Console) (caught : Failure → Bool) (x : Command m) : Command m := do
  match ← attempt x with
  | .ok outcome => return outcome
  | .error e =>
    if caught e then return { exit := 1, output := [errorLine e.message], console } else throw e

/-- Whether a failure is about a configuration. -/
def isOfConfig : Failure → Bool
  | .config _ => true
  | _ => false

/-! ### Generating -/

/-- The option that names the file of the configuration. -/
def configOption : Option_ := { names := ["--config"], takesValue := true }

/-- The option that names the specification. -/
def specOption : Option_ := { names := ["--spec"], takesValue := true }

/-- The option that selects a module. -/
def moduleOption : Option_ := { names := ["--module"], takesValue := true }

/-- The option that asks for hooks. -/
def hooksOption : Option_ :=
  { names := ["--hooks"], takesValue := true
    choices := some (Emission.HookLibrary.all.map (·.name)) }

/-- The option that has edited files overwritten. -/
def forceOption : Option_ := { names := ["--force"] }

/-- The option that has copies kept. -/
def backupOption : Option_ := { names := ["--backup"] }

/-- The option that has nothing written. -/
def dryRunOption : Option_ := { names := ["--dry-run"] }

/-- The option that leaves out the formatter. -/
def noFormatOption : Option_ := { names := ["--no-format"] }

/-- The option that has addresses always fetched. -/
def noCacheOption : Option_ := { names := ["--no-cache"] }

/-- The option that ends a run at the first failing specification. -/
def failFastOption : Option_ := { names := ["--fail-fast"] }

/-- The option that has everything shown. -/
def verboseOption : Option_ := { names := ["-v", "--verbose"] }

/-- The options of the command that generates. -/
def generateOptions : List Option_ :=
  [configOption, specOption, moduleOption, hooksOption, forceOption, backupOption, dryRunOption,
   noFormatOption, noCacheOption, failFastOption, verboseOption]

/-- The configuration to generate by. Where none is named and the usual one is missing, everything
is as usual. -/
def configOf (named : Option String) : Work m Failure Config := do
  let path := Path.tidy (named.getD usualConfig)
  if ← (isThere path).adapt Failure.file then Config.load path
  else if named.isSome then throw (.config (.missing path))
  else
    let base ← asked here
    liftM ((Config.ofDocument base (.map [])).mapError Failure.ofConfig)

/-- A configuration with what the arguments say instead. -/
def overriddenConfig (a : Arguments) (c : Config) : Config :=
  let c := match (a.value? specOption).filter (!·.isEmpty) with
    | some source => { c with specPath := some source, specs := [] }
    | none => c
  let selected := a.values moduleOption
  let c :=
    if selected.isEmpty then c
    else
      { c with
        modules := { c.modules with selected }
        specs := c.specs.map fun e =>
          { e with modules := e.modules.map fun block => { block with selected } } }
  match (a.value? hooksOption).bind Emission.HookLibrary.ofName? with
  | some library => { c with hooks := { c.hooks with library := some library } }
  | none => c

/-- How a run goes by the arguments. -/
def runOptionsOf (a : Arguments) : RunOptions :=
  { write := { force := a.has forceOption, backup := a.has backupOption
               dryRun := a.has dryRunOption }
    useCache := !a.has noCacheOption, format := !a.has noFormatOption
    failFast := a.has failFastOption }

/-- The lines for one specification. -/
def resultLines (r : SpecResult) : List String :=
  match r.error with
  | some e => ["  " ++ r.name ++ ": failed: " ++ e]
  | none =>
    ["  " ++ r.name ++ ": " ++ toString r.written.length ++ " written, " ++
      toString r.unchanged.length ++ " unchanged, " ++ toString r.conflicts.length ++
      " conflict(s)"] ++
    r.conflicts.map ("    conflict: " ++ ·) ++ r.failures.map ("    skipped: " ++ ·)

/-- Generate the code of the configured specifications. -/
def generate (a : Arguments) : Command m := do
  let console := Console.labelled (a.has verboseOption)
  orError console isOfConfig do
    let config := overriddenConfig a (← configOf (a.value? configOption))
    if config.effectiveSpecs.isEmpty then
      return { exit := 1, console, output :=
        [errorLine ("no spec configured (set spec_path in " ++ usualConfig ++ " or pass --spec)")] }
    orError console Failure.isOfOneSpec do
      let options := runOptionsOf a
      let results ← runAll config (← Templates.load config.templates) options
      let ending := if options.write.dryRun then ["Dry run, nothing was written."] else []
      return {
        exit := if results.all SpecResult.ok then 0 else 1
        output := results.flatMap resultLines ++ ending, console }

/-! ### Inspecting -/

/-- The option that lists the schemas of the modules. -/
def schemasOption : Option_ := { names := ["--schemas"] }

/-- The option that shows the references of the schemas. -/
def graphOption : Option_ := { names := ["--graph"] }

/-- The option that has JSON printed. -/
def jsonOption : Option_ := { names := ["--json"] }

/-- The options of the command that inspects. -/
def inspectOptions : List Option_ := [moduleOption, schemasOption, graphOption, jsonOption]

/-- Show what a specification contains. -/
def inspect (a : Arguments) : Command m :=
  orError .bare Failure.isOfOneSpec do
    let source := a.operand.getD ""
    let document ← load source none none
    let description ← ofReporting
      ((Description.ofDocument document (some source)).adapt Failure.reading)
    let report ← ofReporting
      ((Report.of description (a.values moduleOption) (a.has schemasOption)
        (a.has graphOption)).adapt Failure.selection)
    return {
      exit := 0
      output :=
        if a.has jsonOption then [Json.write Json.Style.block report.value] else report.lines }

/-! ### Setting up a project -/

/-- Write a configuration to start with, unless there is one. -/
def ensureConfig (path : String) : Work m TextError String := do
  if ← (isThere path).adapt TextError.file then return path ++ " already exists, skipping."
  (makeDirectories (Path.parent path)).adapt TextError.file
  writeText path Config.starterText
  return "Created " ++ path

/-- Write the HTTP client, unless there is one. It is remembered, so that the first run keeps it. -/
def ensureClient (config : Config) (file : String) : Work m Failure String := do
  if ← (isThere (Path.below config.base file)).adapt Failure.file then
    return file ++ " already exists, skipping."
  let writer ← (Writer.open_ config.base {}).adapt Failure.ofTextError
  let templates ← Templates.load config.templates
  let content ← liftM (((templates .httpClient).render [("banner", .str banner)]).mapError
    Failure.render)
  let (_, writer) ← (writer.write file content).adapt Failure.ofTextError
  let _ ← writer.saveManifest.adapt Failure.ofTextError
  return "Created " ++ file

/-- Set up a project. -/
def init (a : Arguments) : Command m := do
  let path := Path.tidy ((a.value? configOption).getD usualConfig)
  let line ← (ensureConfig path).adapt Failure.ofTextError
  match ← attempt (Config.load path) with
  | .error e =>
    if isOfConfig e then return { exit := 1, output := [line, errorLine e.message] } else throw e
  | .ok config =>
    let layout := config.layoutOf (← asked here) (config.complete { name := "default", path := "" })
    for directory in [layout.schemas, layout.apis] do
      (makeDirectories (Path.below config.base directory)).adapt Failure.file
    let client ← ensureClient config layout.httpClientFile
    return { exit := 0, output := [line, client, "",
      "Next: set spec_path in " ++ Path.lastName path ++
        " (or pass --spec) and run 'tsgen generate'."] }

/-! ### Templates -/

/-- The option that has existing files replaced. -/
def overwriteOption : Option_ := { names := ["--overwrite"] }

/-- List the built-in templates. -/
def listTemplates (_ : Arguments) : Command m :=
  return { exit := 0, output := TemplateId.all.map TemplateId.text }

/-- Copy the built-in templates into a directory. -/
def ejectTemplates (a : Arguments) : Command m := do
  let directory := Path.tidy (a.operand.getD "")
  let written ← (eject directory (a.has overwriteOption)).adapt Failure.ofTextError
  return { exit := 0, output :=
    ["Ejected " ++ toString written.length ++ " template(s) to " ++ directory,
     "Set templates_dir: " ++ directory ++ " in " ++ usualConfig ++ " to use them."] }

/-- List or copy the built-in templates. -/
def templates (words : List String) : Command m :=
  orRefused templatesHelp (Subcommand.of words) fun c =>
    match c.name with
    | "list" => orRefused listHelp (c.arguments [] false) listTemplates
    | "eject" => orRefused ejectHelp (c.arguments [overwriteOption] true) ejectTemplates
    | _ => return { exit := 2 }

/-! ### All commands -/

/-- Do what some words ask for. -/
def run (words : List String) : Command m :=
  match words with
  | [] => return { exit := 0, output := help }
  | name :: rest =>
    match name with
    | "-h" => return { exit := 0, output := help }
    | "--help" => return { exit := 0, output := help }
    | "init" => orRefused initHelp (Arguments.of [configOption] false rest) init
    | "generate" => orRefused generateHelp (Arguments.of generateOptions false rest) generate
    | "inspect" => orRefused inspectHelp (Arguments.of inspectOptions true rest) inspect
    | "templates" => templates rest
    | other => return { exit := 1, output := unknownCommand other }

end ClientGen.CommandLine
