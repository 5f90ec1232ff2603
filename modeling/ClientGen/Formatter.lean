import ClientGen.Config.Basic
import ClientGen.Machine.Files

/-!
# Formatters

Running the formatter of a project on its generated files. Generated code is valid without it, so
that nothing a formatter does can fail a run.
-/

namespace ClientGen

open Machine

/-- A formatter. -/
inductive Formatter
  | prettier
  | biome
  deriving DecidableEq, Repr, Inhabited

namespace Formatter

/-- The name of a formatter. -/
def name : Formatter → String
  | .prettier => "prettier"
  | .biome => "biome"

/-- The formatter of a name. -/
def ofName? (name : String) : Option Formatter :=
  [Formatter.prettier, .biome].find? fun f => f.name == name

/-- The command that formats the files named behind it. -/
def command : Formatter → List String
  | .prettier => ["npx", "prettier", "--write"]
  | .biome => ["npx", "biome", "format", "--write"]

variable {m : Type → Type} [Monad m] [Machine m]

/-- Whether the file that describes a package mentions a formatter. -/
def isMentioned (f : Formatter) (root : String) : Work m TextError Bool := do
  let path := Path.below root "package.json"
  if !(← (isThere path).adapt TextError.file) then return false
  match ← attempt (readText path) with
  | .ok text => return Text.occursIn f.name.toList text.toList
  | .error (.file _) =>
    report .debug ("Could not read " ++ path)
    return false
  | .error e => throw e

/-- Whether a directory holds something whose name starts with some characters. -/
def holdsNameWith (root head : String) : Work m TextError Bool := do
  match ← asked (Machine.names root) with
  | .ok names => return names.any fun n => head.toList.isPrefixOf n.toList
  | .error _ => return false

/-- The formatter that a project is set up with. -/
def detect (root : String) : Work m TextError (Option Formatter) := do
  if ← isMentioned .prettier root then return some .prettier
  if ← holdsNameWith root ".prettierrc" then return some .prettier
  if ← (isThere (Path.below root "biome.json")).adapt TextError.file then return some .biome
  if ← (isThere (Path.below root "biome.jsonc")).adapt TextError.file then return some .biome
  return none

/-- Format some files in a directory, and say whether that went well. -/
def format {ε : Type} (f : Formatter) (paths : List String) (directory : String) :
    Work m ε Bool := do
  if paths.isEmpty then return true
  match ← asked (execute (f.command ++ paths) directory) with
  | .error e =>
    report .warning ("Could not run " ++ f.name ++ ": " ++ e.message)
    return false
  | .ok finished =>
    if finished.code != 0 then
      let errors := String.ofList (Text.stripWhile Text.isBlank finished.errors.toList)
      report .warning
        (f.name ++ " exited with code " ++ toString finished.code ++ ": " ++ errors)
      return false
    report .info
      ("Formatted " ++ toString paths.length ++ " file(s) with " ++ f.name)
    return true

/-- Format some files with the formatter of a name, if there is one. -/
def formatNamed {ε : Type} (name : String) (paths : List String) (directory : String) :
    Work m ε Bool := do
  if paths.isEmpty then return true
  match ofName? name with
  | some f => f.format paths directory
  | none =>
    report .warning ("Unknown formatter '" ++ name ++ "', skipping formatting")
    return false

/-- The formatter that a choice stands for in a project. -/
def ofChoice (choice : FormatterChoice) (root : String) : Work m TextError (Option Formatter) :=
  match choice with
  | .auto => detect root
  | .prettier => return some .prettier
  | .biome => return some .biome
  | .none => return none

end Formatter

end ClientGen
