import ClientGen.Api.PathTemplate
import ClientGen.Api.Operation
import ClientGen.Collections.Distinct
import ClientGen.Naming

/-!
# Names of client functions

A client function is called by its operation's id, or by its method and the last part of its path
that is no placeholder. Within a module a number makes a name that is taken again different.
-/

namespace ClientGen.Emission

open ClientGen.Api ClientGen.Naming ClientGen.Text

/-- The word a function name starts with. -/
def methodWord : Method → String
  | .get => "get"
  | .post => "create"
  | .put => "update"
  | .patch => "patch"
  | .delete => "delete"
  | method => method.key

/-- The parts of a path that are no placeholders. -/
def resources (path : String) : List String :=
  ((pieces '/' path.toList).filter fun s => !s.isEmpty && !isPlaceholder s).map String.ofList

/-- The name by method and path. A path with a brace is about one resource, found by its id. -/
def nameByPath (method : Method) (path : String) : String :=
  match (resources path).getLast? with
  | none => methodWord method
  | some resource =>
    let resource := pascalCase resource
    if path.toList.contains '\x7b' then
      camelCase (methodWord method ++ singular resource ++ "ById")
    else camelCase (methodWord method ++ resource)

/-- The name of an operation's function, before collisions are looked at. -/
def functionName (method : Method) (path : String) (operationId : Option String) : String :=
  let own := camelCase (operationId.getD "")
  if own.isEmpty then nameByPath method path else argumentName own

/-- A name that has not been given out, and how often each has been asked for now. The second time
a name is asked for, it gets a 2 behind it, and so on. -/
def uniqueName (base : String) (asked : List (String × Nat)) : String × List (String × Nat) :=
  match asked.lookup base with
  | none => (base, setEntry base 1 asked)
  | some n => (base ++ toString (n + 1), setEntry base (n + 1) asked)

/-- Argument names that generated code uses itself. -/
def keptArguments : List String := ["body", "query", "options", "config"]

/-- The name of the argument for a path parameter. -/
def pathArgumentName (raw : String) : String :=
  let name := argumentName raw
  if keptArguments.contains name then name ++ "Param" else name

end ClientGen.Emission
