import ClientGen.Failure
import ClientGen.Template.Names
import ClientGen.Template.Reading
import ClientGen.Template.Syntax

/-!
# Templates of a project

A project may have a directory with templates of its own, which stand in for the built-in ones of
the same name. The built-in ones can be copied there to start from.
-/

/-!
## The source of a template

A template as the text in which it is written.
-/

namespace ClientGen.Template

/-- The text of a filter. -/
def Filter.source : Filter → String
  | .comment => "comment"
  | .json => "json"
  | .join separator => "join(\"" ++ separator ++ "\")"
  | .mapJson => "map(\"json\")"

/-- The text of an expression. -/
def Expr.source : Expr → String
  | .name x => x
  | .variant written _ => written
  | .field e key => e.source ++ "." ++ key
  | .text s => "\"" ++ s ++ "\""
  | .filtered filter e => e.source ++ " | " ++ filter.source
  | .either a b => a.source ++ " or " ++ b.source
  | .choice yes condition no =>
    yes.source ++ " if " ++ condition.source ++ " else " ++ no.source

/-- A tag, with the end of its line if it has one of its own. -/
def tag (content : String) (ownLine : Bool) : String :=
  "\x7b% " ++ content ++ " %\x7d" ++ (if ownLine then "\n" else "")

mutual

/-- The text of a piece. -/
def Piece.source : Piece → String
  | .text s => s
  | .hole e => "\x7b\x7b " ++ e.source ++ " \x7d\x7d"
  | .each item items body ownLine =>
    tag ("for " ++ item ++ " in " ++ items.source) ownLine ++ sourceAll body ++
      tag "endfor" ownLine
  | .when condition body ownLine =>
    tag ("if " ++ condition.source) ownLine ++ sourceAll body ++ tag "endif" ownLine

/-- The text of several pieces. -/
def sourceAll : List Piece → String
  | [] => ""
  | p :: rest => p.source ++ sourceAll rest

end

end ClientGen.Template

/-! ## Templates of their own -/

namespace ClientGen.Template

open ClientGen.Machine

/-- The templates by which everything is rendered. -/
abbrev Templates := TemplateId → Template

variable {m : Type → Type} [Monad m] [Machine m]

/-- The name of a template's file. -/
def TemplateId.file (id : TemplateId) : String :=
  id.text ++ ".ts.j2"

/-- The file of a template in a directory. -/
def TemplateId.pathIn (id : TemplateId) (directory : String) : String :=
  Path.below directory id.file

/-- The template that a directory has of its own, if there is one. -/
def override? (directory : String) (id : TemplateId) : Work m Failure (Option Template) := do
  let path := id.pathIn directory
  if !(← isFile path) then return none
  let source ← (readText path).adapt Failure.ofTextError
  match ofSource? source with
  | some t => return some (t.inFile id.file)
  | none => throw (.malformedTemplate id.text)

/-- Put the templates that a directory has of its own in the place of others. -/
def overridden (directory : String) (templates : Templates) :
    List TemplateId → Work m Failure Templates
  | [] => return templates
  | id :: rest => do
    let own ← override? directory id
    let templates := match own with
      | some t => fun other => if other == id then t else templates other
      | none => templates
    overridden directory templates rest

/-- The templates of a project. A directory that is not there is reported. -/
def Templates.load (directory : Option String) : Work m Failure Templates := do
  match directory with
  | none => return builtin
  | some directory =>
    let there ← (isThere directory).adapt Failure.file
    if there && (← isDirectory directory) then overridden directory builtin TemplateId.all
    else
      report .warning
        ("Template directory " ++ directory ++ " does not exist, using built-ins")
      return builtin

/-- The text that the template of a name makes of a context. -/
def Templates.render (templates : Templates) (name : String) (context : Scope) :
    Except Failure String :=
  match TemplateId.ofText? name with
  | none => .error (.unknownTemplate name)
  | some id => ((templates id).render context).mapError Failure.render

/-- Copy some built-in templates into a directory, and give the files that were written. Files that
are there already are kept unless they should be overwritten. -/
def ejectAll (directory : String) (overwrite : Bool) :
    List TemplateId → Work m TextError (List String)
  | [] => return []
  | id :: rest => do
    let path := id.pathIn directory
    if (← (isThere path).adapt TextError.file) && !overwrite then
      report .info ("Keeping existing template " ++ path)
      ejectAll directory overwrite rest
    else
      (makeDirectories (Path.parent path)).adapt TextError.file
      writeText (← copyTarget (Path.lastName path) path) (sourceAll (builtin id))
      return path :: (← ejectAll directory overwrite rest)

/-- Copy the built-in templates into a directory, and give the files that were written. -/
def eject (directory : String) (overwrite : Bool) : Work m TextError (List String) :=
  ejectAll directory overwrite TemplateId.all

end ClientGen.Template
