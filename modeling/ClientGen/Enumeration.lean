import ClientGen.Collections.Distinct
import ClientGen.Naming
import ClientGen.Text.Lower

/-!
# Names of enumerations

Enumerations get their identifiers from one registry, so that whoever asks for the same values gets
the same identifier. Three kinds of keys live in its table: the sorted values joined by commas; the
same with the parent schema behind a colon, for a property with a name such as `status` that says
little by itself; and `schema:` with a name, for an enumeration that is a schema itself. A key that
is bound stays bound, and an identifier belongs to the values it was made for.
-/

namespace ClientGen.Enumeration

open ClientGen.Text ClientGen.Naming

/-- Property names that say little without the schema they belong to. -/
def genericNames : List String := ["status", "type", "state", "kind"]

/-- Endings of schema names that are dropped in front of a property, in this order. -/
def parentEndings : List String := ["ResponseDto", "Dto", "Response"]

/-- Where an enumeration was found: the property and the schema it belongs to. -/
structure Context where
  property : String
  parent : String := ""
  deriving DecidableEq, Repr

/-- A name in small letters. -/
def small (s : String) : List Char :=
  inSmallLetters s.toList

/-- Whether the name of the property says little without its schema, and there is one. -/
def Context.isGeneric (c : Context) : Bool :=
  !c.parent.isEmpty && genericNames.any fun n => n.toList == small c.property

/-- The values in order, joined by commas. -/
def valueKey (values : List String) : String :=
  ",".intercalate (sortTexts values)

/-- Drop an ending as often as it is there and something stays in front of it. -/
def dropEnding (ending s : List Char) : List Char :=
  if _h : ending ≠ [] ∧ endsWith s ending ∧ ending.length < s.length then
    dropEnding ending (s.take (s.length - ending.length))
  else s
termination_by s.length
decreasing_by
  have := List.length_pos_iff.2 _h.1
  simp only [List.length_take]
  omega

/-- A schema name without the endings that only say what it is for. -/
def withoutEndings (name : String) : String :=
  String.ofList (parentEndings.foldl (fun s ending => dropEnding ending.toList s) name.toList)

/-- The identifier of a schema that is an enumeration, before collisions are looked at. -/
def schemaIdentifier (schema : String) : String :=
  let name := typeIdentifier schema
  if endsWith name.toList "Enum".toList then name else name ++ "Enum"

/-- The identifier of an enumeration by its context, before collisions are looked at. Without a
context the first of the sorted values gives the name. -/
def inlineIdentifier (values : List String) (context : Option Context) : String :=
  let byValue := typeIdentifier ((sortTexts values).headD "") ++ "Enum"
  match context with
  | none => byValue
  | some c =>
    if c.isGeneric then
      let parent := withoutEndings (typeIdentifier c.parent)
      let own := if occursIn (small c.property) (small parent) then "" else pascalCase c.property
      parent ++ own ++ "Enum"
    else if c.property.isEmpty then byValue
    else typeIdentifier c.property ++ "Enum"

/-- The identifiers of the keys, and the value keys that the identifiers were made for. -/
structure Registry where
  names : List (String × String) := []
  owners : List (String × String) := []
  deriving DecidableEq, Repr, Inhabited

namespace Registry

/-- The identifier of a key. -/
def lookup? (r : Registry) (key : String) : Option String :=
  r.names.lookup key

/-- How many keys are bound. -/
def size (r : Registry) : Nat :=
  r.names.length

/-- The identifiers that have been made, in the order in which they were. -/
def identifiers (r : Registry) : List String :=
  r.owners.map Prod.fst

/-- Bind a key unless it is bound, and give the identifier it is bound to. -/
def register (r : Registry) (key identifier : String) : String × Registry :=
  match r.lookup? key with
  | some bound => (bound, r)
  | none => (identifier, { r with names := r.names ++ [(key, identifier)] })

/-- The candidates for an identifier: itself, then with the numbers from two on behind it. -/
def candidate (identifier : String) : Nat → String
  | 0 => identifier
  | n + 1 => identifier ++ toString (n + 2)

/-- Whether an identifier is free or belongs to these values. -/
def allows (r : Registry) (identifier key : String) : Bool :=
  match r.owners.lookup identifier with
  | some owner => owner == key
  | none => true

/-- The first candidate that is free or belongs to these values. There are more candidates than
identifiers that belong to others. -/
def firstAllowed (r : Registry) (identifier key : String) : String :=
  (((List.range (r.owners.length + 1)).map (candidate identifier)).find?
    fun c => r.allows c key).getD identifier

/-- Make an identifier for some values. -/
def assign (r : Registry) (identifier key : String) : String × Registry :=
  let name := r.firstAllowed identifier key
  (name, { r with owners := setEntry name key r.owners })

/-- The key of an enumeration that is a schema itself. -/
def schemaKey (schema : String) : String := "schema:" ++ schema

/-- The key of an enumeration whose property says little without its schema. -/
def contextKey? (values : List String) (context : Option Context) : Option String :=
  match context with
  | some c => if c.isGeneric then some (valueKey values ++ ":" ++ c.parent) else none
  | none => none

/-- The identifier of an enumeration that is a schema itself. -/
def nameOfSchema (r : Registry) (values : List String) (schema : String) : String × Registry :=
  match r.lookup? (schemaKey schema) with
  | some bound => (bound, r)
  | none =>
    let (name, r) := r.assign (schemaIdentifier schema) (valueKey values)
    let (_, r) := r.register (schemaKey schema) name
    let (_, r) := r.register (valueKey values) name
    (name, r)

/-- The identifier that an enumeration inside a schema has already. -/
def known? (r : Registry) (values : List String) (context : Option Context) : Option String :=
  match (contextKey? values context).bind r.lookup? with
  | some bound => some bound
  | none => r.lookup? (valueKey values)

/-- The identifier of an enumeration inside a schema. -/
def nameOf (r : Registry) (values : List String) (context : Option Context) : String × Registry :=
  match r.known? values context with
  | some bound => (bound, r)
  | none =>
    let (name, r) := r.assign (inlineIdentifier values context) (valueKey values)
    let r := match contextKey? values context with
      | some key => (r.register key name).2
      | none => r
    let (_, r) := r.register (valueKey values) name
    (name, r)

end Registry

end ClientGen.Enumeration
