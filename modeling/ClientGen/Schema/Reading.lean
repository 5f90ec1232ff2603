import ClientGen.Document.Shown
import ClientGen.Error
import ClientGen.Schema.Node

/-!
# Reading schemas

A value of a document as a schema. What no shape fits is `unknown`. Refused are a list, a map or a
set where a key is needed, an integer with too many digits where text is needed, and a schema that
is a part of itself without a reference.
-/

namespace ClientGen.Schema

open ClientGen.Document

/-- A list, a map or a set stands where a value is compared as a key. -/
inductive KeyError
  | list
  | map
  | set
  deriving DecidableEq, Repr

/-- The words for an error. -/
def KeyError.message : KeyError → String
  | .list => "unhashable type: 'list'"
  | .map => "unhashable type: 'dict'"
  | .set => "unhashable type: 'set'"

/-- Why a value cannot be read as a part of a description. -/
inductive ReadFault
  | key (e : KeyError)
  /-- An integer in a text has too many digits. -/
  | digits (f : Number.DigitsFault)
  /-- A schema is a part of itself. -/
  | endless
  deriving DecidableEq, Repr

/-- The words for a fault. -/
def ReadFault.message : ReadFault → String
  | .key e => e.message
  | .digits f => f.message
  | .endless => endlessText

/-- The text of a value. -/
def textOf (v : Value) : Except ReadFault String :=
  v.written.mapError .digits

/-- Why a value is no key because of what it is itself. -/
def collectionError? : Value → Option KeyError
  | .list _ => some .list
  | .map _ => some .map
  | .set _ => some .set
  | _ => none

/-- Why a value is no key. An entry is one if both of its parts are. -/
def keyError? : Value → Option KeyError
  | .pair k v => keyError? k <|> keyError? v
  | .knot _ parts place => (parts[place]?).bind collectionError?
  | v => collectionError? v

/-- Why a value cannot be looked up among the names of kinds. A set can, and is none of them. -/
def kindError? : Value → Option KeyError
  | .set _ => none
  | v => keyError? v

/-- Whether a value is the given text. -/
def isText (s : String) : Value → Bool
  | .str t => t == s
  | _ => false

/-- Whether the value under a key is the truth value true, and not only counts as true. -/
def isTrue (data : Value) (key : String) : Bool :=
  match data.get? key with
  | some (.bool b) => b
  | _ => false

/-- Whether null is allowed: by a flag, by a type list with `null`, or by a null among the values
of an enumeration. -/
def allowsNull (data : Value) : Bool :=
  isTrue data "nullable" || isTrue data "x-nullable" ||
    (match data.openAt? "type" with
      | some (.list types) => types.any (isText "null")
      | _ => false) ||
    (match data.openAt? "enum" with
      | some (.list values) => values.any Value.isNull
      | _ => false)

/-- The type of a schema: a text, or the only member other than `null` of a type list, whatever it
is. A null counts as no type. -/
def typeOf? (data : Value) : Option Value :=
  match data.openAt? "type" with
  | some (.str s) => some (.str s)
  | some (.list types) =>
    match types.filter fun t => !isText "null" t with
    | [t] => if t.isNull then none else some t
    | _ => none
  | _ => none

/-- A number under a key, if it is one. -/
def bound? (data : Value) (key : String) : Option Bound :=
  match data.get? key with
  | some (.int n) => some (.int n)
  | some (.float x) => some (.float x)
  | _ => none

/-- An integer under a key, if it is one. -/
def count? (data : Value) (key : String) : Option Int :=
  match data.get? key with
  | some (.int n) => some n
  | _ => none

/-- A limit and its exclusive form. A flag under the exclusive key makes the plain limit the
exclusive one. -/
def limits (data : Value) (key exclusiveKey : String) : Option Bound × Option Bound :=
  match isTrue data exclusiveKey, bound? data key with
  | true, some b => (none, some b)
  | _, plain => (plain, bound? data exclusiveKey)

/-- The constraints of a schema. -/
def constraintsOf (data : Value) : Constraints :=
  let (minimum, exclusiveMinimum) := limits data "minimum" "exclusiveMinimum"
  let (maximum, exclusiveMaximum) := limits data "maximum" "exclusiveMaximum"
  { minLength := count? data "minLength"
    maxLength := count? data "maxLength"
    pattern := data.getText? "pattern"
    format := data.getText? "format"
    minimum, maximum, exclusiveMinimum, exclusiveMaximum
    multipleOf := bound? data "multipleOf"
    minItems := count? data "minItems"
    maxItems := count? data "maxItems" }

/-- The notes of a schema. -/
def notesOf (data : Value) : Notes :=
  { nullable := allowsNull data, description := data.getText? "description" }

/-- The values of an enumeration: all of them texts, apart from nulls, and at least one. -/
def enumValues? (data : Value) : Option (List String) :=
  match data.openAt? "enum" with
  | some (.list values) =>
    let present := values.filter fun v => !v.isNull
    let texts := present.filterMap Value.text?
    if texts.length = present.length ∧ texts ≠ [] then some texts else none
  | _ => none

theorem height_member_lt {data v : Value} {key : String} {members : List Value}
    (h : data.openAt? key = some (.list members)) (hv : v ∈ members) : v.height < data.height := by
  have outer := Value.height_openAt?_lt h
  have inner := Value.height_item_lt hv
  omega

theorem height_property_lt {data : Value} {key : String} {entries : List (Value × Value)}
    {entry : Value × Value} (h : data.openAt? key = some (.map entries)) (he : entry ∈ entries) :
    entry.2.height < data.height := by
  have outer := Value.height_openAt?_lt h
  have inner := Value.height_entry_lt he
  omega

/-- How the values inside `data` are read. -/
abbrev ChildReader (data : Value) :=
  (v : Value) → v.height < data.height → Except ReadFault SchemaNode

/-- The schema under a key, unknown when there is none. -/
def readUnder (data : Value) (child : ChildReader data) (key : String) :
    Except ReadFault SchemaNode :=
  match h : data.get? key with
  | some v => child v (Value.height_get?_lt h)
  | none => .ok (.unknown {})

/-- The schemas of a composition, if its list is there and not empty. -/
def readMembers? (data : Value) (child : ChildReader data) (key : String) :
    Option (Except ReadFault (List SchemaNode)) :=
  match h : data.openAt? key with
  | some (.list members) =>
    if members.isEmpty then none
    else some (members.attach.mapM fun ⟨v, hv⟩ => child v (height_member_lt h hv))
  | _ => none

/-- The names that an object requires. -/
def readRequired (data : Value) : Except ReadFault (List Value) :=
  match data.openAt? "required" with
  | some (.list names) =>
    match names.findSome? keyError? with
    | some e => .error (.key e)
    | none => .ok names
  | _ => .ok []

/-- The properties of an object, of which those in `required` have to be there. -/
def readProperties (data : Value) (child : ChildReader data) (required : List Value) :
    Except ReadFault (List Property) :=
  match h : data.openAt? "properties" with
  | some (.map entries) =>
    entries.attach.mapM fun ⟨entry, he⟩ => do
      let schema ← child entry.2 (height_property_lt h he)
      return ⟨← textOf entry.1, required.any entry.1.sameKey, schema⟩
  | _ => .ok []

/-- The schema of the properties that an object does not name: any value for a plain true. -/
def readAdditional (data : Value) (child : ChildReader data) :
    Except ReadFault (Option SchemaNode) :=
  match data.openAt? "additionalProperties" with
  | some (.map _) => some <$> readUnder data child "additionalProperties"
  | some (.bool true) => .ok (some (.unknown {}))
  | _ => .ok none

/-- Read a schema that is neither a reference nor a composition nor an enumeration: by its type,
and without one by the keys that only an array or an object has. -/
def readTyped (data : Value) (child : ChildReader data) : Except ReadFault SchemaNode :=
  let type := typeOf? data
  let has (key : String) : Bool := type.isNone && (data.get? key).isSome
  if type.any (isText "array") || has "items" then do
    return .array (← readUnder data child "items") (constraintsOf data) (notesOf data)
  else if type.any (isText "object") || has "properties" || has "additionalProperties" then do
    let required ← readRequired data
    let properties ← readProperties data child required
    let additional ← readAdditional data child
    return .object properties additional (notesOf data)
  else
    match type with
    | none => .ok (.unknown (notesOf data))
    | some t =>
      match kindError? t with
      | some e => .error (.key e)
      | none =>
        match t.text?.bind PrimitiveKind.ofName? with
        | some kind => .ok (.primitive kind (constraintsOf data) (notesOf data))
        | none => .ok (.unknown (notesOf data))

/-- Read a schema, given how the values inside are read. A reference wins over everything else, a
composition over an enumeration, and an enumeration over a type. -/
def readWith (data : Value) (child : ChildReader data) : Except ReadFault SchemaNode :=
  if data.isSpent then .error .endless
  else if !data.isMap then .ok (.unknown {})
  else
    match data.get? "$ref" with
    | some pointer => (.reference · (notesOf data)) <$> textOf pointer
    | none =>
      match readMembers? data child "allOf" with
      | some members => (.allOf · (notesOf data)) <$> members
      | none =>
        match readMembers? data child "oneOf" with
        | some variants => (.oneOf · (notesOf data)) <$> variants
        | none =>
          match readMembers? data child "anyOf" with
          | some variants => (.anyOf · (notesOf data)) <$> variants
          | none =>
            match enumValues? data with
            | some values => .ok (.enumeration values (notesOf data))
            | none => readTyped data child

/-- Read a value as a schema. -/
def SchemaNode.ofValue (data : Value) : Except ReadFault SchemaNode :=
  readWith data fun v _ => SchemaNode.ofValue v
termination_by data.height

end ClientGen.Schema
