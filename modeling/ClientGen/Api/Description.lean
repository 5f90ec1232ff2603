import ClientGen.Api.Operation
import ClientGen.Document.Shown
import ClientGen.Error
import ClientGen.Log
import ClientGen.Schema.Reading

/-!
# API descriptions

A description of an API: its schemas by name and its operations, read from a document of OpenAPI 3
or Swagger 2. Where the document's shape is not the expected one, the part is left out.
-/

namespace ClientGen.Api

open ClientGen.Document ClientGen.Schema

/-- A description of an API. -/
structure Description where
  title : String := ""
  version : String := ""
  schemas : List (String × SchemaNode) := []
  operations : List Operation := []
  declaredTags : List String := []
  source : Option String := none

namespace Description

/-- The modules that own an operation: those of the declared tags first, then the others in the
order of the operations. -/
def modules (d : Description) : List String :=
  let used := distinct (d.operations.flatMap Operation.modules)
  let declared := d.declaredTags.filter used.contains
  declared ++ used.filter fun m => !declared.contains m

/-- The operations of a module in order. -/
def operationsOf (d : Description) (module : String) : List Operation :=
  d.operations.filter fun op => op.modules.contains module

/-- The schema of a name, if it is known. -/
def schema? (d : Description) (name : String) : Option SchemaNode :=
  d.schemas.lookup name

/-- The schema of a name. -/
def schema (d : Description) (name : String) : Except SchemaError SchemaNode :=
  match d.schema? name with
  | some s => .ok s
  | none => .error (.notFound name d.source)

/-- The name and the schema that a pointer leads to. -/
def resolve (d : Description) (pointer : String) : Except SchemaError (String × SchemaNode) :=
  match targetName? pointer with
  | none => .error (.unsupportedReference pointer d.source)
  | some name => (name, ·) <$> d.schema name

/-- The names of the schemas. -/
def schemaNames (d : Description) : List String :=
  d.schemas.map Prod.fst

end Description

/-! ### Reading a description -/

/-- The value under a key if it is a map, and an empty map otherwise. -/
def mapUnder (v : Value) (key : String) : Value :=
  match v.openAt? key with
  | some (.map entries) => .map entries
  | _ => .map []

/-- The items under a key if it is a list, and none otherwise. -/
def itemsUnder (v : Value) (key : String) : List Value :=
  match v.openAt? key with
  | some (.list items) => items
  | _ => []

/-- The entries under a key if it is a map, and none otherwise. -/
def entriesUnder (v : Value) (key : String) : List (Value × Value) :=
  match v.openAt? key with
  | some (.map entries) => entries
  | _ => []

/-- The text of a value as a step of reading. -/
def readText (v : Value) : Reporting ReadFault String :=
  liftM (textOf v)

/-- The text of the value under a key, empty when the key is missing. -/
def textUnder (v : Value) (key : String) : Reporting ReadFault String :=
  match v.get? key with
  | some found => readText found
  | none => return ""

/-- The named schemas of a document: those of `definitions`, then those of `components`. -/
def rawSchemas (document : Value) : List (Value × Value) :=
  Value.ofEntries
    (entriesUnder document "definitions" ++ entriesUnder (mapUnder document "components") "schemas")

/-- The tags that a document declares. -/
def tagNames (document : Value) : Reporting ReadFault (List String) :=
  ((itemsUnder document "tags").filter (·.flag "name")).mapM (textUnder · "name")

/-- Read a value as a schema. -/
def readSchema (v : Value) : Reporting ReadFault SchemaNode :=
  liftM (SchemaNode.ofValue v)

/-- A part of an operation: the value itself, or what its reference leads to in the document's
table for parts of its kind. A reference that leads nowhere is reported, and the part left out. -/
def follow (document : Value) (part : Option Value) (table : String) :
    Reporting ReadFault (Option Value) :=
  match part.filter Value.isMap with
  | some data =>
    match data.getText? "$ref" with
    | none => return some data
    | some pointer =>
      let tables :=
        [("#/components/" ++ table ++ "/", mapUnder (mapUnder document "components") table),
         ("#/" ++ table ++ "/", mapUnder document table)]
      let target := tables.findSome? fun (head, entries) => do
        let name ← Text.dropHead? head.toList pointer.toList
        let found ← entries.get? (String.ofList name)
        if found.isMap then some found else none
      match target with
      | some found => return some found
      | none => do
        report .warning ("Could not resolve " ++ table ++ " reference '" ++ pointer ++ "'")
        return none
  | none => return none

/-- Whether a media type stands for JSON. -/
def isJsonMedia (mediaType : Value) : Reporting ReadFault Bool := do
  if isText "application/json" mediaType || isText "*/*" mediaType then return true
  else return Text.endsWith (← readText mediaType).toList "+json".toList

/-- The schema of the first JSON media type that has one, of those whose details are a map. -/
def firstJsonSchema : List (Value × Value) → Reporting ReadFault (Option SchemaNode)
  | [] => return none
  | (mediaType, media) :: rest => do
    if !media.isMap then firstJsonSchema rest
    else if ← isJsonMedia mediaType then
      match media.get? "schema" with
      | some schema => return some (← readSchema schema)
      | none => firstJsonSchema rest
    else firstJsonSchema rest

/-- The schema of a content for JSON, if it has one. -/
def jsonSchema (content : Option Value) : Reporting ReadFault (Option SchemaNode) :=
  match content.map Value.opened with
  | some (.map entries) => firstJsonSchema entries
  | _ => return none

/-- What the parameters of an operation amount to: those of Swagger's `body` location make up its
body. -/
structure Parameters where
  declared : List Parameter := []
  body : Option SchemaNode := none
  bodyRequired : Bool := false

/-- The keys of a parameter that are not about its type. -/
def parameterKeys : List String := ["name", "in", "required", "description"]

/-- The schema of a parameter. Swagger writes the type into the parameter itself. -/
def parameterSchema (data : Value) : Value :=
  match data.get? "schema" with
  | some schema =>
    if schema.isNull && (data.get? "type").isSome then ownType else schema
  | none => if (data.get? "type").isSome then ownType else .null
where
  ownType : Value :=
    match data.opened with
    | .map entries => .map (entries.filter fun (k, _) => !parameterKeys.any fun p => isText p k)
    | v => v

/-- Take one parameter in. A parameter that repeats the name and the location of an earlier one
takes its place. -/
def Parameters.add (document : Value) (acc : Parameters) (raw : Value) :
    Reporting ReadFault Parameters := do
  match ← follow document (some raw) "parameters" with
  | none => return acc
  | some data =>
    if !data.flag "name" || !data.flag "in" then return acc
    let location ← textUnder data "in"
    if location == "body" then
      let schema ← readSchema ((data.get? "schema").getD .null)
      return { acc with body := some schema, bodyRequired := data.flag "required" }
    let name ← textUnder data "name"
    let schema ← readSchema (parameterSchema data)
    let parameter : Parameter :=
      { name, location
        required := data.flag "required" || location == "path"
        schema, description := data.getText? "description" }
    return { acc with declared := place parameter acc.declared }
where
  place (p : Parameter) : List Parameter → List Parameter
    | [] => [p]
    | q :: rest =>
      if q.name == p.name && q.location == p.location then p :: rest else q :: place p rest

/-- The responses of an operation by status, each with its schema if it has one. -/
def readResponses (document : Value) (details : Value) :
    Reporting ReadFault (List (String × Option SchemaNode)) := do
  let entries ← (entriesUnder details "responses").mapM fun (status, response) => do
    match ← follow document (some response) "responses" with
    | none => return (← readText status, none)
    | some data =>
      let schema ←
        match ← jsonSchema (data.get? "content"), data.get? "schema" with
        | some schema, _ => pure (some schema)
        | none, some schema => some <$> readSchema schema
        | none, none => pure none
      return (← readText status, schema)
  return tableOf entries

/-- Read an operation. `shared` are the parameters of its path. -/
def readOperation (document : Value) (path : String) (method : Method) (shared : List Value)
    (details : Value) : Reporting ReadFault Operation := do
  let parameters ← (shared ++ itemsUnder details "parameters").foldlM (Parameters.add document) {}
  let (body, bodyRequired) ←
    match ← follow document (details.get? "requestBody") "requestBodies" with
    | some request => pure (← jsonSchema (request.get? "content"), request.flag "required")
    | none => pure (parameters.body, parameters.bodyRequired)
  let responses ← readResponses document details
  let tags ← (itemsUnder details "tags").mapM readText
  let operationId ←
    if details.flag "operationId" then some <$> textUnder details "operationId" else pure none
  return {
    method, path, tags, operationId
    summary := details.getText? "summary"
    description := details.getText? "description"
    parameters := parameters.declared
    requestBody := body
    requestBodyRequired := bodyRequired
    responses
    deprecated := details.flag "deprecated" }

/-- The operations of a document, path by path. -/
def readOperations (document : Value) : Reporting ReadFault (List Operation) := do
  let perPath ← (entriesUnder document "paths").mapM fun (path, item) => do
    let shared := itemsUnder item "parameters"
    let ops ← Method.listed.mapM fun method =>
      match (item.get? method.key).filter Value.isMap with
      | some details => do
        return some (← readOperation document (← readText path) method shared details)
      | none => return none
    return ops.filterMap id
  return perPath.flatten

/-- Read a document as the description of an API. -/
def Description.ofDocument (document : Value) (source : Option String) :
    Reporting ReadFault Description := do
  let info := mapUnder document "info"
  let schemas ← (rawSchemas document).mapM fun (name, v) => do
    return (← readText name, ← readSchema v)
  let declaredTags ← tagNames document
  let title ← textUnder info "title"
  let version ← textUnder info "version"
  let operations ← readOperations document
  return { title, version, schemas := tableOf schemas, operations, declaredTags, source }

end ClientGen.Api
