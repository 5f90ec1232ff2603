import ClientGen.Config.Reading
import ClientGen.Machine.Files
import ClientGen.Yaml.Fault

/-!
# Failures

Everything that can end a run, as one type: the errors of the parts that a run is made of. A run
over several specifications records the errors of a specification and of the choice of modules, and
goes on; every other failure ends it.
-/

namespace ClientGen

open Document Emission Template

/-- What ends a run. -/
inductive Failure
  | file (e : FileError)
  | encoding (e : Text.EncodingError)
  /-- A text should be written that has no form in UTF-8. -/
  | half (h : Text.LoneHalf)
  /-- A text is YAML, but a scalar of it is not what it should be. -/
  | yaml (f : Yaml.Fault)
  | config (e : ConfigError)
  | schema (e : SchemaError)
  | selection (e : SelectionError)
  /-- A document cannot be read as a description. -/
  | reading (f : Schema.ReadFault)
  | render (e : RenderError)
  /-- A field that is given as a record lacks a key. -/
  | noKey (name : String)
  /-- There is no such template. -/
  | unknownTemplate (name : String)
  /-- The template of this name is not well-formed. -/
  | malformedTemplate (name : String)
  | unsupportedHooks (name : String)
  /-- What is known about a cached text is no map. -/
  | metadata (found : Value)
  /-- A cache without room should give up an entry. -/
  | noRoom
  /-- An integer has too many digits to be read or written. -/
  | digits (f : Number.DigitsFault)

namespace Failure

/-- The words for a failure. -/
def message : Failure → String
  | .file e => e.message
  | .encoding e => e.message
  | .half h => h.message
  | .yaml f => f.message
  | .config e => e.message
  | .schema e => e.message
  | .selection e => e.message
  | .reading f => f.message
  | .render e => e.message
  | .noKey name => Text.quoted name
  | .unknownTemplate name => Text.quoted name ++ " is not a valid TemplateId"
  | .malformedTemplate name => "Malformed template '" ++ name ++ "'"
  | .unsupportedHooks name => (PlanError.unsupportedHooks name).message
  | .metadata found => "'" ++ kindName found ++ "' object has no attribute 'get'"
  | .noRoom => ""
  | .digits f => f.message

/-- Whether a run over several specifications goes on behind a failure. -/
def isOfOneSpec : Failure → Bool
  | .schema _ => true
  | .selection _ => true
  | _ => false

/-- The failure of a configuration, of which a number with too many digits is none of its own. -/
def ofConfig : ConfigError → Failure
  | .digits f => .digits f
  | e => .config e

/-- The failure of an emission. -/
def ofEmit : EmitError → Failure
  | .schema e => .schema e
  | .render e => .render e
  | .noKey name => .noKey name
  | .digits f => .digits f

/-- The failure of a plan. -/
def ofPlan : PlanError → Failure
  | .selection e => .selection e
  | .emit e => ofEmit e
  | .unsupportedHooks name => .unsupportedHooks name

/-- The failure of reading a text. -/
def ofTextError : TextError → Failure
  | .file e => .file e
  | .encoding e => .encoding e
  | .half h => .half h
  | .digits f => .digits f

end Failure

end ClientGen
