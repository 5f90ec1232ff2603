import ClientGen.Text.Quoted

/-!
# Errors

What can be wrong with a file, a schema, a specification or a choice of modules, and the words for
it. An error that knows its place puts the place in brackets in front.
-/

namespace ClientGen

/-- Why a file cannot be read, written or made. -/
inductive FileFault
  | missing
  | exists
  | notDirectory
  | isDirectory
  | nameTooLong
  /-- The path holds the character U+0000, by which paths end on the machine. -/
  | endMark
  /-- The path holds a half that stands for no byte. -/
  | half (h : Text.LoneHalf)
  deriving DecidableEq, Repr

/-- The words for a fault at a path. One of the machine has a number and names the path; the other
ones are of the path itself. -/
def FileFault.message (path : String) : FileFault → String
  | .missing => numbered 2 "No such file or directory"
  | .exists => numbered 17 "File exists"
  | .notDirectory => numbered 20 "Not a directory"
  | .isDirectory => numbered 21 "Is a directory"
  | .nameTooLong => numbered 36 "File name too long"
  | .endMark => "embedded null byte"
  | .half h => h.message
where
  /-- The words for a fault of the machine. -/
  numbered (number : Nat) (words : String) : String :=
    "[Errno " ++ toString number ++ "] " ++ words ++ ": " ++ Text.quoted path

/-- A fault at a path. -/
structure FileError where
  fault : FileFault
  path : String
  deriving DecidableEq, Repr

/-- The words for an error. -/
def FileError.message (e : FileError) : String :=
  e.fault.message e.path

/-- Why a specification cannot be loaded. -/
inductive LoadFault
  /-- There is no such file. -/
  | missing
  /-- The file is there and cannot be read. -/
  | unreadable (cause : FileError)
  /-- The text is no YAML. -/
  | notYaml
  /-- The text is neither JSON nor YAML. -/
  | neither
  /-- The document is no map. -/
  | rootNotMap
  /-- The address cannot be fetched. -/
  | unfetched (cause : String)
  deriving DecidableEq, Repr

/-- The words for a computation that does not end because a value is inside of itself. -/
def endlessText : String := "maximum recursion depth exceeded"

/-- What stands in messages for the details of a YAML fault. -/
def yamlFaultText : String := "<yaml error>"

/-- The words for a fault. -/
def LoadFault.message : LoadFault → String
  | .missing => "Spec file does not exist"
  | .unreadable cause => "Failed to read spec file: " ++ cause.message
  | .notYaml => "Invalid YAML: " ++ yamlFaultText
  | .neither => "Invalid JSON/YAML: " ++ yamlFaultText
  | .rootNotMap => "Spec root must be a mapping"
  | .unfetched cause => "Failed to fetch spec: " ++ cause

/-- An error that concerns one schema or one specification, each with the place where it was
found. -/
inductive SchemaError
  /-- There is no schema of this name. -/
  | notFound (name : String) (place : Option String)
  /-- The reference does not lead to a schema. -/
  | unsupportedReference (pointer : String) (place : Option String)
  /-- The specification cannot be loaded. -/
  | load (fault : LoadFault) (place : String)
  deriving DecidableEq, Repr

/-- A message with its place in front; an empty place counts as none. -/
def placed (place : Option String) (message : String) : String :=
  match place with
  | some p => if p.isEmpty then message else "[" ++ p ++ "] " ++ message
  | none => message

/-- The words for an error. -/
def SchemaError.message : SchemaError → String
  | .notFound name place => placed place ("Schema '" ++ name ++ "' not found")
  | .unsupportedReference pointer place =>
    placed place ("Unsupported reference '" ++ pointer ++ "'")
  | .load fault place => placed (some place) fault.message

/-- An error of the choice of modules. -/
inductive SelectionError
  /-- Every module is ignored. -/
  | allIgnored
  /-- No selected module is among the available ones. -/
  | noneExists (available : List String)
  deriving DecidableEq, Repr

/-- The words for an error. -/
def SelectionError.message : SelectionError → String
  | .allIgnored => "No modules available after applying the ignore list"
  | .noneExists available =>
    "None of the selected modules exist (available: " ++ ", ".intercalate available ++ ")"

end ClientGen
