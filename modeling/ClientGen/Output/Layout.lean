import ClientGen.Naming
import ClientGen.Path

/-!
# Where the generated files go

The directories and files of one description's output, and how the files import each other.
-/

namespace ClientGen.Output

open ClientGen.Naming ClientGen.Text

/-- The directory of the schemas that several modules share. -/
def commonModule : String := "common"

/-- The name under which the shared schemas are imported. -/
def commonNamespace : String := "Common"

/-- The file of the HTTP client. -/
def clientFile : String := "http.ts"

/-- The first line of every generated file. -/
def banner : String := "// This file is generated by tsgen. Do not edit it by hand."

/-- The directory of a module. It is never that of the shared schemas. -/
def moduleDirectory (module : String) : String :=
  let name := directoryName module
  if name == commonModule then name ++ "-module" else name

/-- The name under which the schemas of a module are imported. It is never that of the shared
schemas. -/
def moduleNamespace (module : String) : String :=
  let name := typeIdentifier module "Default"
  if name == commonNamespace then name ++ "Module" else name

/-- Nothing is left of a path that should be imported. -/
inductive ImportError
  | emptyPath
  deriving DecidableEq, Repr

/-- The words for an error. -/
def ImportError.message : ImportError → String
  | .emptyPath => "no path specified"

/-- A path without the ending of a source file. -/
def withoutExtension (path : String) : String :=
  let s := path.toList
  if endsWith s ".ts".toList then String.ofList (s.take (s.length - 3)) else path

/-- How a file in the directory `start` imports a file or a directory, the path of which is not
empty. Relative paths are taken from the directory `here`. -/
def importPath (here start target : String) : String :=
  let way := Path.relative here (withoutExtension target) start
  if way.toList.head? == some '.' then way else "./" ++ way

/-- How a file in the directory `start` imports a file or a directory. -/
def relativeImport (here start target : String) : Except ImportError String :=
  if (withoutExtension target).isEmpty then .error .emptyPath
  else .ok (importPath here start target)

/-- The roots of one description's output. A description among several has a name, which becomes a
directory under every root. Relative roots are taken from the directory `here`. -/
structure Layout where
  schemas : String := "src/schemas"
  apis : String := "src/apis"
  hooks : String := "src/hooks"
  queryKeys : String := "src/query-keys"
  name : Option String := none
  here : String := "/project"
  deriving DecidableEq, Repr, Inhabited

namespace Layout

/-- A file or a directory under a root. -/
def nest (l : Layout) (root last : String) : String :=
  let name := match l.name with
    | some name => if name.isEmpty then [] else [directoryName name]
    | none => []
  Path.normalise (Path.joinAll root (name ++ [last]))

/-- The directory of the shared schemas. -/
def commonDirectory (l : Layout) : String := l.nest l.schemas commonModule

/-- The directory of a module's schemas. -/
def schemasDirectory (l : Layout) (module : String) : String :=
  l.nest l.schemas (moduleDirectory module)

/-- The directory of a module's client functions. -/
def apisDirectory (l : Layout) (module : String) : String :=
  l.nest l.apis (moduleDirectory module)

/-- The directory of a module's hooks. -/
def hooksDirectory (l : Layout) (module : String) : String :=
  l.nest l.hooks (moduleDirectory module)

/-- The file of a module's cache keys. -/
def queryKeysFile (l : Layout) (module : String) : String :=
  l.nest l.queryKeys (moduleDirectory module ++ ".ts")

/-- The file of the HTTP client, which all descriptions share. -/
def httpClientFile (l : Layout) : String :=
  Path.normalise (Path.join l.apis clientFile)

/-- How a file in a directory imports another file or directory of the output. None of their paths
is empty. -/
def importFrom (l : Layout) (start target : String) : String :=
  importPath l.here start target

/-- How a file in a directory imports the schemas of a module, or the shared ones. -/
def schemaImport (l : Layout) (start : String) (module : Option String) : String :=
  match module with
  | none => l.importFrom start l.commonDirectory
  | some m => l.importFrom start (l.schemasDirectory m)

end Layout

end ClientGen.Output
