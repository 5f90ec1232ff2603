/-!
# Help

What the program says about itself and about each of its commands.
-/

namespace ClientGen.CommandLine

/-- The commands with what they do. -/
def commandTable : List (String × String) :=
  [("init", "Write a starter tsgen.yaml and the runtime HTTP client"),
   ("generate", "Generate code for the configured specs"),
   ("inspect", "Show the modules, schemas and cycles of a spec"),
   ("templates", "List or eject the built-in templates")]

/-- A row of the table of commands. -/
def commandRow (name description : String) : String :=
  "  " ++ name ++ String.ofList (List.replicate (12 - name.length) ' ') ++ " " ++ description

/-- The lines of the overview. -/
def overview : List String :=
  ["",
   "tsgen: TypeScript types, zod schemas and API clients from OpenAPI specs.",
   "",
   "Usage:",
   "    python -m tsgen <command> [options]",
   "",
   "Commands:",
   "    init        Write a starter tsgen.yaml and the runtime HTTP client",
   "    generate    Generate code for the configured specs",
   "    inspect     Show the modules, schemas and cycles of a spec",
   "    templates   List or eject the built-in templates",
   "",
   "Examples:",
   "    python -m tsgen init",
   "    python -m tsgen generate",
   "    python -m tsgen generate --spec openapi.yaml --module users --hooks react-query",
   "    python -m tsgen inspect openapi.json --module users --module products",
   "    python -m tsgen inspect openapi.json --schemas --graph --json",
   "    python -m tsgen templates eject ./tsgen-templates",
   ""]

/-- The lines of the help for the program as a whole. -/
def help : List String :=
  overview ++ "Available commands:" :: commandTable.map (fun (n, d) => commandRow n d) ++
    ["", "Use '<command> --help' for command-specific options."]

/-- The help for setting up a project. -/
def initHelp : List String :=
  ["usage: tsgen init [-h] [--config CONFIG]",
   "",
   "Set up a project for tsgen",
   "",
   "options:",
   "  -h, --help       show this help message and exit",
   "  --config CONFIG  Config file to create"]

/-- The help for generating. -/
def generateHelp : List String :=
  ["usage: tsgen generate [-h] [--config CONFIG] [--spec SPEC] [--module MODULE]",
   "                      [--hooks \x7breact-query,swr\x7d] [--force] [--backup]",
   "                      [--dry-run] [--no-format] [--no-cache] [--fail-fast]",
   "                      [-v]",
   "",
   "Generate TypeScript from OpenAPI",
   "",
   "options:",
   "  -h, --help            show this help message and exit",
   "  --config CONFIG       Config file (default: tsgen.yaml)",
   "  --spec SPEC           Spec file or URL, overrides the config",
   "  --module MODULE       Generate only this module (repeatable)",
   "  --hooks \x7breact-query,swr\x7d",
   "                        Also generate data-fetching hooks",
   "  --force               Overwrite files edited by hand",
   "  --backup              Keep a .bak copy of overwritten files",
   "  --dry-run             Report what would be written",
   "  --no-format           Skip prettier/biome",
   "  --no-cache            Always fetch remote specs",
   "  --fail-fast           Stop at the first failing spec",
   "  -v, --verbose         Debug logging"]

/-- The help for inspecting. -/
def inspectHelp : List String :=
  ["usage: tsgen inspect [-h] [--module MODULE] [--schemas] [--graph] [--json]",
   "                     spec",
   "",
   "Inspect an OpenAPI spec",
   "",
   "positional arguments:",
   "  spec             Spec file or URL",
   "",
   "options:",
   "  -h, --help       show this help message and exit",
   "  --module MODULE  Preview partitioning for these modules",
   "  --schemas        List the schemas each module needs",
   "  --graph          Show each schema's direct dependencies",
   "  --json           Print the report as JSON"]

/-- The help for what can be done with templates. -/
def templatesHelp : List String :=
  ["usage: tsgen templates [-h] \x7blist,eject\x7d ...",
   "",
   "Manage templates",
   "",
   "positional arguments:",
   "  \x7blist,eject\x7d",
   "    list        List template ids",
   "    eject       Copy the built-in templates for overriding",
   "",
   "options:",
   "  -h, --help    show this help message and exit"]

/-- The help for listing templates. -/
def listHelp : List String :=
  ["usage: tsgen templates list [-h]",
   "",
   "options:",
   "  -h, --help  show this help message and exit"]

/-- The help for copying templates. -/
def ejectHelp : List String :=
  ["usage: tsgen templates eject [-h] [--overwrite] destination",
   "",
   "positional arguments:",
   "  destination",
   "",
   "options:",
   "  -h, --help   show this help message and exit",
   "  --overwrite  Replace existing files"]

/-- The lines for a command that does not exist. -/
def unknownCommand (name : String) : List String :=
  ["Unknown command: " ++ name,
   "Available commands: " ++ ", ".intercalate (commandTable.map Prod.fst)]

end ClientGen.CommandLine
