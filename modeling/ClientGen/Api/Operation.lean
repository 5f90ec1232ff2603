import ClientGen.Collections.Distinct
import ClientGen.Schema.Node
import ClientGen.Text.Lower

/-!
# Operations

One operation of an API: a method on a path, with its parameters, its body and its responses.
-/

namespace ClientGen.Api

open ClientGen.Schema

/-- The methods of operations. -/
inductive Method
  | get
  | post
  | put
  | patch
  | delete
  | head
  | options
  /-- A method that no path lists. -/
  | other (name : String)
  deriving DecidableEq, Repr, Inhabited

namespace Method

/-- The methods that are read, in the order in which a path lists its operations. -/
def listed : List Method := [get, post, put, patch, delete, head, options]

/-- The name of a method, in capitals for the listed ones. -/
def name : Method → String
  | get => "GET"
  | post => "POST"
  | put => "PUT"
  | patch => "PATCH"
  | delete => "DELETE"
  | head => "HEAD"
  | options => "OPTIONS"
  | other name => name

/-- The name of a method in small letters. -/
def key : Method → String
  | get => "get"
  | post => "post"
  | put => "put"
  | patch => "patch"
  | delete => "delete"
  | head => "head"
  | options => "options"
  | other name => String.ofList (Text.inSmallLetters name.toList)

/-- The method of a name. -/
def ofName (name : String) : Method :=
  (listed.find? fun m => m.name == name).getD (.other name)

/-- Whether an operation only asks. -/
def isQuery : Method → Bool
  | get => true
  | head => true
  | _ => false

/-- Whether an operation may have a body. -/
def hasBody : Method → Bool
  | post => true
  | put => true
  | patch => true
  | delete => true
  | _ => false

end Method

/-- A parameter of an operation. -/
structure Parameter where
  name : String
  location : String
  required : Bool
  schema : SchemaNode
  description : Option String

/-- The module of operations without a tag. -/
def defaultModule : String := "default"

/-- An operation. -/
structure Operation where
  method : Method
  path : String
  tags : List String := []
  operationId : Option String := none
  summary : Option String := none
  description : Option String := none
  parameters : List Parameter := []
  requestBody : Option SchemaNode := none
  requestBodyRequired : Bool := false
  responses : List (String × Option SchemaNode) := []
  deprecated : Bool := false

namespace Operation

/-- The modules an operation belongs to: its tags, and the default module without any. -/
def modules (op : Operation) : List String :=
  if op.tags.isEmpty then [defaultModule] else op.tags

/-- The parameters in the path. -/
def pathParameters (op : Operation) : List Parameter :=
  op.parameters.filter (·.location == "path")

/-- The parameters in the query. -/
def queryParameters (op : Operation) : List Parameter :=
  op.parameters.filter (·.location == "query")

/-- The schemas of the body, of the responses and of the parameters, in this order. -/
def schemas (op : Operation) : List SchemaNode :=
  op.requestBody.toList ++ op.responses.filterMap Prod.snd ++ op.parameters.map (·.schema)

/-- The names of the schemas that an operation references, each once. -/
def referencedSchemas (op : Operation) : List String :=
  distinct ((op.schemas.flatMap SchemaNode.pointers).filterMap targetName?)

/-- The response whose schema stands for the result: that of status 200, then 201, then the first
with another status of three characters that starts with a 2. -/
def preferredResponse (responses : List (String × Option SchemaNode)) : Option SchemaNode :=
  let ofStatus (status : String) := (responses.find? (·.1 == status)).bind Prod.snd
  match ofStatus "200" with
  | some s => some s
  | none =>
    match ofStatus "201" with
    | some s => some s
    | none =>
      responses.findSome? fun (status, schema) =>
        if Text.count status == 3 && status.toList.head? == some '2' then schema else none

end Operation

end ClientGen.Api
