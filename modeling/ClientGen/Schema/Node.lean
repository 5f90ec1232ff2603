import ClientGen.Document.Value
import ClientGen.Text.Pointer

/-!
# Schemas

A schema of an API description as one of nine shapes. References are left in the tree; what they
point at is looked up when a declaration needs it, so that a broken reference concerns only the
schema that contains it.
-/

namespace ClientGen.Schema

open ClientGen.Number ClientGen.Text

/-- The kinds of a scalar. -/
inductive PrimitiveKind
  | string
  | number
  | integer
  | boolean
  deriving DecidableEq, Repr, Inhabited

/-- The name of a kind. -/
def PrimitiveKind.name : PrimitiveKind → String
  | .string => "string"
  | .number => "number"
  | .integer => "integer"
  | .boolean => "boolean"

/-- The kind of a name. -/
def PrimitiveKind.ofName? : String → Option PrimitiveKind
  | "string" => some .string
  | "number" => some .number
  | "integer" => some .integer
  | "boolean" => some .boolean
  | _ => none

theorem PrimitiveKind.ofName?_name (k : PrimitiveKind) : ofName? k.name = some k := by
  cases k <;> rfl

/-- A bound: an integer or a floating point number, as it was written. -/
inductive Bound
  | int (n : Int)
  | float (x : Binary64)
  deriving DecidableEq, Repr, Inhabited

/-- What a scalar or an array is held to. -/
structure Constraints where
  minLength : Option Int := none
  maxLength : Option Int := none
  pattern : Option String := none
  format : Option String := none
  minimum : Option Bound := none
  maximum : Option Bound := none
  exclusiveMinimum : Option Bound := none
  exclusiveMaximum : Option Bound := none
  multipleOf : Option Bound := none
  minItems : Option Int := none
  maxItems : Option Int := none
  deriving DecidableEq, Repr, Inhabited

/-- What any schema may carry: whether null is allowed as well, and a description. -/
structure Notes where
  nullable : Bool := false
  description : Option String := none
  deriving DecidableEq, Repr, Inhabited

mutual

/-- A schema. -/
inductive SchemaNode
  | primitive (kind : PrimitiveKind) (constraints : Constraints) (notes : Notes)
  | array (items : SchemaNode) (constraints : Constraints) (notes : Notes)
  | object (properties : List Property) (additional : Option SchemaNode) (notes : Notes)
  | enumeration (values : List String) (notes : Notes)
  | oneOf (variants : List SchemaNode) (notes : Notes)
  | anyOf (variants : List SchemaNode) (notes : Notes)
  | allOf (members : List SchemaNode) (notes : Notes)
  | reference (pointer : String) (notes : Notes)
  | unknown (notes : Notes)

/-- A property of an object. -/
inductive Property
  | mk (name : String) (required : Bool) (schema : SchemaNode)

end

instance : Inhabited SchemaNode := ⟨.unknown {}⟩

/-- The name of a property. -/
def Property.name : Property → String
  | ⟨name, _, _⟩ => name

/-- Whether a property has to be there. -/
def Property.required : Property → Bool
  | ⟨_, required, _⟩ => required

/-- The schema of a property. -/
def Property.schema : Property → SchemaNode
  | ⟨_, _, schema⟩ => schema

namespace SchemaNode

/-- What a schema carries. -/
def notes : SchemaNode → Notes
  | primitive _ _ n => n
  | array _ _ n => n
  | object _ _ n => n
  | enumeration _ n => n
  | oneOf _ n => n
  | anyOf _ n => n
  | allOf _ n => n
  | reference _ n => n
  | unknown n => n

/-- Whether null is allowed as well. -/
def nullable (s : SchemaNode) : Bool := s.notes.nullable

/-- The description of a schema. -/
def description (s : SchemaNode) : Option String := s.notes.description

/-- Whether a schema is an enumeration. -/
def isEnumeration : SchemaNode → Bool
  | enumeration _ _ => true
  | _ => false

end SchemaNode

/-! ### References -/

/-- The two places where a description keeps its schemas. -/
def tableHeads : List String :=
  ["#/components/schemas/", "#/definitions/"]

/-- The segment that names a schema, if the pointer leads into one of the two tables: it is not
empty and has no slash. -/
def segment? (pointer : List Char) : Option (List Char) :=
  match tableHeads.findSome? fun head => dropHead? head.toList pointer with
  | some rest => if rest.isEmpty || rest.contains '/' then none else some rest
  | none => none

/-- The name of the schema that a pointer leads to, if it leads to one. -/
def targetName? (pointer : String) : Option String :=
  (segment? pointer.toList).map fun s => String.ofList (pointerSegment s)

mutual

/-- The pointers of all references inside a schema, in order. -/
def SchemaNode.pointers : SchemaNode → List String
  | .reference pointer _ => [pointer]
  | .array items _ _ => items.pointers
  | .object properties additional _ =>
    Property.pointersAll properties ++ SchemaNode.pointersOpt additional
  | .oneOf variants _ => SchemaNode.pointersAll variants
  | .anyOf variants _ => SchemaNode.pointersAll variants
  | .allOf members _ => SchemaNode.pointersAll members
  | .primitive _ _ _ => []
  | .enumeration _ _ => []
  | .unknown _ => []

/-- The pointers inside the schemas of a list. -/
def SchemaNode.pointersAll : List SchemaNode → List String
  | [] => []
  | s :: rest => s.pointers ++ SchemaNode.pointersAll rest

/-- The pointers inside a schema that may be missing. -/
def SchemaNode.pointersOpt : Option SchemaNode → List String
  | none => []
  | some s => s.pointers

/-- The pointers inside the properties of an object. -/
def Property.pointersAll : List Property → List String
  | [] => []
  | ⟨_, _, s⟩ :: rest => s.pointers ++ Property.pointersAll rest

end

end ClientGen.Schema
