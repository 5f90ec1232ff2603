import ClientGen.Emission.FunctionName
import ClientGen.Emission.Types
import ClientGen.Emission.Validators

/-!
# Emitting operations

Each operation of a module as a client function, with the alias of its response, the entry of its
cache key and, if a library for hooks is chosen, its hook. The types an operation needs are declared
in the module's schema files and referenced through the module's namespace. A type that cannot be
made becomes `any` and is reported; the operation itself is always emitted.
-/

namespace ClientGen.Emission

open ClientGen.Api ClientGen.Document ClientGen.Naming ClientGen.Output ClientGen.Schema
  ClientGen.Template ClientGen.TypeScript

/-- A library for hooks. -/
inductive HookLibrary
  | reactQuery
  | swr
  deriving DecidableEq, Repr, Inhabited

/-- The name of a library. -/
def HookLibrary.name : HookLibrary → String
  | .reactQuery => "react-query"
  | .swr => "swr"

/-- All libraries in order. -/
def HookLibrary.all : List HookLibrary := [.reactQuery, .swr]

/-- The library of a name. -/
def HookLibrary.ofName? (name : String) : Option HookLibrary :=
  all.find? fun l => l.name == name

/-- Where an argument of a client function goes. -/
inductive ArgumentPlace
  | path
  | body
  | query
  deriving DecidableEq, Repr

/-- The name of a place. -/
def ArgumentPlace.name : ArgumentPlace → String
  | .path => "path"
  | .body => "body"
  | .query => "query"

/-- An argument of a client function. -/
structure Argument where
  name : String
  type : TypeExpr
  required : Bool := true
  place : ArgumentPlace := .path

/-- How an argument is declared. -/
def Argument.declaration (a : Argument) : String :=
  a.name ++ (if a.required then "" else "?") ++ ": " ++ a.type.text

/-- The entry of a cache key: its function, the parameters it declares, and what it passes on. -/
structure KeyEntry where
  name : String
  parameters : List String
  arguments : List String
  deriving DecidableEq, Repr

/-- What a template sees of an entry. -/
def KeyEntry.context (e : KeyEntry) : Value :=
  .record [("name", .str e.name), ("params", .texts e.parameters), ("args", .texts e.arguments)]

/-- What an operation is made of before it is written: its arguments by place, and the type of its
response. -/
structure OperationParts where
  functionName : String
  operation : Operation
  path : List Argument
  body : Option Argument
  query : Option Argument
  responseType : TypeExpr

namespace OperationParts

/-- The name of the function as that of a type. -/
def pascal (p : OperationParts) : String := pascalCase p.functionName

/-- The name of the hook. -/
def hookName (p : OperationParts) : String := "use" ++ p.pascal

/-- The name of the alias of the response. -/
def aliasName (p : OperationParts) : String := p.pascal ++ "Response"

/-- The arguments of the function. -/
def arguments (p : OperationParts) : List Argument :=
  p.path ++ p.body.toList ++ p.query.toList

/-- The arguments of the cache key. -/
def keyArguments (p : OperationParts) : List Argument :=
  p.path ++ p.query.toList

/-- The namespaces that the function goes through. -/
def namespaces (p : OperationParts) : List String :=
  distinct ((p.arguments.flatMap fun a => a.type.namespaces) ++ p.responseType.namespaces)

/-- The namespaces that the cache key goes through. -/
def keyNamespaces (p : OperationParts) : List String :=
  distinct (p.keyArguments.flatMap fun a => a.type.namespaces)

/-- The entry of the cache key. -/
def keyEntry (p : OperationParts) : KeyEntry where
  name := p.functionName
  parameters := p.keyArguments.map Argument.declaration
  arguments := p.keyArguments.map (·.name)

end OperationParts

/-- An operation as it was written. -/
structure ClientOperation where
  parts : OperationParts
  function : Artifact
  alias_ : Artifact
  hook : Option Artifact

namespace ClientOperation

/-- The name of the function. -/
def functionName (o : ClientOperation) : String := o.parts.functionName

/-- The name of the hook. -/
def hookName (o : ClientOperation) : String := o.parts.hookName

/-- The method of the operation. -/
def method (o : ClientOperation) : Method := o.parts.operation.method

/-- The path of the operation. -/
def path (o : ClientOperation) : String := o.parts.operation.path

/-- The type of the response. -/
def responseType (o : ClientOperation) : TypeExpr := o.parts.responseType

/-- The arguments of the function. -/
def arguments (o : ClientOperation) : List Argument := o.parts.arguments

/-- The entry of the cache key. -/
def keyEntry (o : ClientOperation) : KeyEntry := o.parts.keyEntry

/-- Whether the function takes a query. -/
def usesQuery (o : ClientOperation) : Bool := o.parts.query.isSome

/-- The namespaces that the function goes through. -/
def namespaces (o : ClientOperation) : List String := o.parts.namespaces

/-- The namespaces that the cache key goes through. -/
def keyNamespaces (o : ClientOperation) : List String := o.parts.keyNamespaces

end ClientOperation

/-- The module whose operations are emitted. -/
structure Target where
  module : String
  layout : Layout := {}
  hooks : Option HookLibrary := none
  baseUrl : String := ""

namespace Target

/-- The namespace of the module's schemas. -/
def namespace_ (t : Target) : String := moduleNamespace t.module

/-- The name of the module's cache keys. -/
def keysName (t : Target) : String := camelCase t.namespace_ ++ "Keys"

/-- The directory of the module's cache keys. -/
def keysDirectory (t : Target) : String :=
  let directory := Path.directory (t.layout.queryKeysFile t.module)
  if directory.isEmpty then "." else directory

/-- The imports of the schemas that a file in a directory goes through: the shared ones first, then
the module's own. -/
def imports (t : Target) (directory : String) (namespaces : List String) : Value :=
  let entry (name : String) (module : Option String) : List Value :=
    if namespaces.contains name then
      [.record [("namespace", .str name), ("path", .str (t.layout.schemaImport directory module))]]
    else []
  .list (entry commonNamespace none ++ entry t.namespace_ (some t.module))

end Target

/-! ### Types of operations -/

/-- How an operation is called in messages. -/
def operationLabel (op : Operation) : String :=
  op.method.name ++ " " ++ op.path

/-- Declare the validators of what a type needs. The validator itself is not used, and so does not
bring in the shared ones. -/
def declareNeeds (c : Setting) (op : Operation) (parent : String) (property : Option String)
    (node : SchemaNode) : Emit Unit := do
  let usesCommon := (← get).validators.usesCommon
  let validator ← caught (localValidator c parent property 1 node)
  modify fun w => { w with validators.usesCommon := usesCommon }
  match validator with
  | .ok _ => return
  | .error e =>
    note .warning (operationLabel op ++ ": validator for " ++ parent ++ ": " ++ e.message)

/-- The type of a body, a response or a path parameter, with the namespaces it goes through. The
validators of what the type needs are declared as well. -/
def operationType (c : Setting) (t : Target) (op : Operation) (parent : String)
    (property : Option String) (node : SchemaNode) : Emit TypeExpr := do
  match ← caught (qualifiedType c t.namespace_ parent property node) with
  | .error e =>
    note .warning (operationLabel op ++ ": " ++ e.message ++ ", using any")
    return .any
  | .ok type =>
    declareNeeds c op parent property node
    return type

/-- The schema of a placeholder: that of the last path parameter of its name, and a text when none
is declared. -/
def placeholderSchema (op : Operation) (name : String) : SchemaNode :=
  match op.pathParameters.reverse.find? (·.name == name) with
  | some p => p.schema
  | none => .primitive .string {} {}

/-- The arguments for the placeholders of the path. -/
def pathArguments (c : Setting) (t : Target) (op : Operation) (pascal : String) :
    Emit (List Argument) :=
  (distinct (placeholders op.path)).mapM fun name => do
    let type ← operationType c t op pascal (some name) (placeholderSchema op name)
    return { name := pathArgumentName name, type }

/-- A field with the description of its parameter, unless it has one of its own. -/
def describedBy (p : Parameter) (field : TypeField) : TypeField :=
  if (p.description.getD "").isEmpty || !(field.description.getD "").isEmpty then field
  else { field with description := p.description }

/-- The field of a query parameter in the type of the query. -/
def queryTypeField (c : Setting) (op : Operation) (pascal : String) (p : Parameter) :
    Emit TypeField := do
  let references := outerReferenceType c none
  match ← caught (typeField c references pascal p.name p.required p.schema) with
  | .ok field => return describedBy p field
  | .error e =>
    note .warning (operationLabel op ++ ": query parameter '" ++ p.name ++ "': " ++ e.message)
    return { key := propertyKey p.name, type := .any, optional := !p.required,
             description := p.description }

/-- The field of a query parameter in the validator of the query. -/
def queryValidatorField (c : Setting) (pascal : String) (p : Parameter) : Emit Field := do
  match ← caught (localValidator c pascal (some p.name) 1 p.schema) with
  | .ok v => return ⟨propertyKey p.name, !p.required, v⟩
  | .error _ => return ⟨propertyKey p.name, !p.required, .any⟩

/-- Both fields of a query parameter. -/
def queryField (c : Setting) (op : Operation) (pascal : String) (p : Parameter) :
    Emit (TypeField × Field) := do
  let field ← queryTypeField c op pascal p
  return (field, ← queryValidatorField c pascal p)

/-- The argument for the query, whose type and validator are declared in the schema files. -/
def queryArgument (c : Setting) (t : Target) (op : Operation) (pascal : String) :
    Emit Argument := do
  let fields ← op.queryParameters.mapM (queryField c op pascal)
  let name := pascal ++ "QueryParams"
  declareType c (.interface_ name (fields.map Prod.fst) none)
  declareObjectValidator c (validatorName name) (fields.map Prod.snd)
  return {
    name := "query"
    type := .named (some t.namespace_) name
    required := op.queryParameters.any (·.required)
    place := .query }

/-! ### Texts of operations -/

/-- A character inside a template literal of the generated language, before `rest`. -/
def literalChar (c : Char) (rest : List Char) : List Char :=
  if c == '\\' || c == '`' then ['\\', c]
  else if c == '$' && rest.head? == some '\x7b' then ['\\', '$']
  else [c]

/-- A text inside a template literal. -/
def literalText : List Char → List Char
  | [] => []
  | c :: rest => literalChar c rest ++ literalText rest

/-- The hole of a template literal that shows an argument as part of an address. -/
def argumentHole (argument : String) : List Char :=
  "$\x7bencodeURIComponent(String(".toList ++ argument.toList ++ "))\x7d".toList

/-- The literal characters at the start of a path, and the pieces behind them. -/
def leadingLiteral : List PathPiece → List Char × List PathPiece
  | .literal c :: rest => let (cs, more) := leadingLiteral rest; (c :: cs, more)
  | pieces => ([], pieces)

theorem length_leadingLiteral_le (ps : List PathPiece) :
    (leadingLiteral ps).2.length ≤ ps.length := by
  induction ps with
  | nil => simp [leadingLiteral]
  | cons p ps ih =>
    cases p with
    | literal c => simp only [leadingLiteral, List.length_cons]; omega
    | placeholder name => simp [leadingLiteral]

theorem length_lt_of_leadingLiteral {ps rest : List PathPiece} {cs : List Char} {p : PathPiece}
    (h : leadingLiteral ps = (cs, p :: rest)) : rest.length < ps.length := by
  have := length_leadingLiteral_le ps
  rw [h, List.length_cons] at this
  omega

/-- The pieces of a path inside a template literal, each placeholder as the hole of its argument. -/
def urlText (argumentOf : String → String) (ps : List PathPiece) : List Char :=
  match h : leadingLiteral ps with
  | (cs, .placeholder name :: rest) =>
    have : rest.length < ps.length := length_lt_of_leadingLiteral h
    literalText cs ++ argumentHole (argumentOf (String.ofList name)) ++ urlText argumentOf rest
  | (cs, _) => literalText cs
termination_by ps.length

/-- The address of an operation inside a template literal. -/
def operationUrl (baseUrl : String) (op : Operation) (arguments : List Argument) : String :=
  let table := (distinct (placeholders op.path)).zip (arguments.map (·.name))
  let base := Text.dropEndWhile (· == '/') baseUrl.toList
  String.ofList (literalText base ++
    urlText (fun name => (table.lookup name).getD "") (pathPieces op.path.toList))

namespace OperationParts

/-- What the template of the response's alias sees. -/
def aliasContext (p : OperationParts) : Scope :=
  [("name", .str p.aliasName), ("type", .str p.responseType.text), ("description", .null)]

/-- The call that the function makes. -/
def call (p : OperationParts) : String :=
  "http." ++ p.operation.method.key ++ "<" ++ p.responseType.text ++ ">(" ++
    ", ".intercalate ("url" :: p.body.toList.map (·.name)) ++ ")"

/-- What the template of the function sees. -/
def functionContext (p : OperationParts) (t : Target) : Scope :=
  [("name", .str p.functionName), ("summary", .ofText? p.operation.summary),
   ("deprecated", .bool p.operation.deprecated),
   ("arguments", .texts (p.arguments.map Argument.declaration)),
   ("response_type", .str p.responseType.text),
   ("url", .str (operationUrl t.baseUrl p.operation p.path)),
   ("has_query", .bool p.query.isSome), ("call", .str p.call)]

/-- What every hook's template sees. -/
def sharedContext (p : OperationParts) (t : Target) : Scope :=
  let directory := t.layout.hooksDirectory t.module
  [("banner", .str banner), ("function_name", .str p.functionName), ("hook_name", .str p.hookName),
   ("api_import", .str (t.layout.importFrom directory (t.layout.apisDirectory t.module))),
   ("keys_name", .str t.keysName),
   ("keys_import", .str (t.layout.importFrom directory (t.layout.queryKeysFile t.module))),
   ("imports", t.imports directory p.namespaces), ("response_type", .str p.responseType.text)]

/-- The template of a hook, and what it sees beyond the shared part. -/
def ownContext (p : OperationParts) : HookLibrary → TemplateId × Scope
  | library =>
    let names := p.path.map (·.name)
    if p.operation.method.isQuery then
      (match library with
        | .reactQuery => .reactQueryQuery
        | .swr => .swrQuery,
       [("params", .texts (p.keyArguments.map Argument.declaration)),
        ("args", .texts (p.keyArguments.map (·.name)))])
    else
      let params : Scope :=
        [("params", .texts (p.path.map Argument.declaration)),
         ("variables_type", .str ((p.body.map (·.type.text)).getD "void"))]
      let body := p.body.toList
      match library with
      | .reactQuery =>
        (.reactQueryMutation, params ++
          [("variables_param", .str ((p.body.map (·.name)).getD "")),
           ("args", .texts (names ++ body.map (·.name)))])
      | .swr =>
        (.swrMutation, params ++
          [("key_args", .texts names),
           ("swr_variables_param", .str (if p.body.isSome then "_key, \x7b arg \x7d" else "")),
           ("args", .texts (names ++ body.map fun _ => "arg"))])

/-- The hook of an operation. -/
def writeHook (p : OperationParts) (c : Setting) (t : Target) (library : HookLibrary) :
    Except RenderError Artifact := do
  let (id, own) := p.ownContext library
  let content ← (c.templates id).render (p.sharedContext t ++ own)
  return { name := p.hookName, kind := .hook, content }

/-- Write an operation. -/
def write (p : OperationParts) (c : Setting) (t : Target) : Except RenderError ClientOperation := do
  let aliasText ← (c.templates .typeAlias).render p.aliasContext
  let functionText ← (c.templates .apiFunction).render (p.functionContext t)
  let hook ← match t.hooks with
    | none => pure none
    | some library => some <$> p.writeHook c t library
  return {
    parts := p
    function :=
      { name := p.functionName, kind := .function, content := withoutLastLines functionText }
    alias_ := { name := p.aliasName, kind := .type, content := withoutLastLines aliasText }
    hook }

end OperationParts

/-- The argument for the body, if the operation has one. -/
def bodyArgument? (c : Setting) (t : Target) (op : Operation) (pascal : String) :
    Emit (Option Argument) :=
  match if op.method.hasBody then op.requestBody else none with
  | none => return none
  | some node => do
    let type ← operationType c t op (pascal ++ "Request") none node
    return some { name := "body", type, place := .body }

/-- The argument for the query, if the operation asks with one. -/
def queryArgument? (c : Setting) (t : Target) (op : Operation) (pascal : String) :
    Emit (Option Argument) :=
  if op.method.isQuery && !op.queryParameters.isEmpty then some <$> queryArgument c t op pascal
  else return none

/-- The type of the response. -/
def operationResponse (c : Setting) (t : Target) (op : Operation) (pascal : String) :
    Emit TypeExpr :=
  match Operation.preferredResponse op.responses with
  | none => return .any
  | some node => operationType c t op (pascal ++ "Response") none node

/-- The parts of an operation under a function name. -/
def operationParts (c : Setting) (t : Target) (functionName : String) (op : Operation) :
    Emit OperationParts := do
  let pascal := pascalCase functionName
  let path ← pathArguments c t op pascal
  let body ← bodyArgument? c t op pascal
  let query ← queryArgument? c t op pascal
  let responseType ← operationResponse c t op pascal
  return { functionName, operation := op, path, body, query, responseType }

/-- Emit an operation under a function name. -/
def emitOperation (c : Setting) (t : Target) (functionName : String) (op : Operation) :
    Emit ClientOperation := do
  let parts ← operationParts c t functionName op
  orRenderError (parts.write c t)

/-! ### Files of operations -/

/-- The file of a module's cache keys. -/
def queryKeysFile (c : Setting) (t : Target) (ops : List ClientOperation) :
    Except RenderError String :=
  (c.templates .queryKeys).render
    [("banner", .str banner),
     ("imports", t.imports t.keysDirectory (ops.flatMap (·.keyNamespaces))),
     ("keys_name", .str t.keysName), ("module_key", .str t.module),
     ("entries", .list (ops.map fun op => op.keyEntry.context))]

/-- The file of a module's client functions. -/
def apiFile (c : Setting) (t : Target) (ops : List ClientOperation) : Except RenderError String :=
  let directory := t.layout.apisDirectory t.module
  (c.templates .fileApi).render
    [("banner", .str banner), ("uses_query", .bool (ops.any (·.usesQuery))),
     ("http_import", .str (t.layout.importFrom directory t.layout.httpClientFile)),
     ("imports", t.imports directory (ops.flatMap (·.namespaces))),
     ("response_types", .texts (ops.map (·.alias_.content))),
     ("functions", .texts (ops.map (·.function.content)))]

/-- The index file of a module's hooks. -/
def hooksIndexFile (c : Setting) (ops : List ClientOperation) : Except RenderError String :=
  (c.templates .fileHooksIndex).render
    [("banner", .str banner),
     ("hooks", .texts ((ops.filter (·.hook.isSome)).map (·.hookName)))]

end ClientGen.Emission
