import ClientGen.Json.Writer
import ClientGen.Template.Syntax
import ClientGen.Text.Chars

/-!
# Rendering

The text that a template makes of a context. A name that the context lacks, or a field that a value
lacks, is an error as soon as its value is needed.
-/

namespace ClientGen.Template

open ClientGen.Document

/-- The kind of a value, as messages call it. -/
def kindName (v : Value) : String :=
  match v.opened with
  | .null => "NoneType"
  | .bool _ => "bool"
  | .int _ => "int"
  | .float _ => "float"
  | .str _ => "str"
  | .date _ => "datetime.date"
  | .time _ _ => "datetime.datetime"
  | .bytes _ => "bytes"
  | .list _ => "list"
  | .map _ => "dict"
  | .set _ => "set"
  | .pair _ _ => "tuple"
  | .inside _ => "list"
  | .knot _ _ _ => "list"

/-- The word for the template itself. -/
def selfWord : String := "self"

/-- What can go wrong when a template is rendered. -/
inductive RenderError
  /-- The context has no such name. -/
  | undefined (name : String)
  /-- The value has no such field. -/
  | noField (owner : Value) (field : String)
  /-- A missing value should be written as JSON. -/
  | missingJson
  /-- The value has no items. -/
  | noItems (v : Value)
  /-- The value is no text, and a text is needed. -/
  | noText (v : Value)
  /-- The context has a value for the word that stands for the template. -/
  | ownName

/-- The words for an error. -/
def RenderError.message : RenderError → String
  | .undefined name => "'" ++ name ++ "' is undefined"
  | .noField owner field =>
    let kind := if owner.isNull then "None" else kindName owner ++ " object"
    "'" ++ kind ++ "' has no attribute '" ++ field ++ "'"
  | .missingJson => "Object of type StrictUndefined is not JSON serializable"
  | .noItems v => "'" ++ kindName v ++ "' object is not iterable"
  | .noText v => "'" ++ kindName v ++ "' object has no attribute 'replace'"
  | .ownName => "Template.render() got multiple values for argument '" ++ selfWord ++ "'"

/-- Names with their values, the innermost first. -/
abbrev Scope := List (String × Value)

/-- The items of a value: those of a list, the keys of a map, the characters of a text. -/
def itemsOf (v : Value) : Except RenderError (List Value) :=
  match v.opened with
  | .list items => .ok items
  | .set members => .ok members
  | .pair k v => .ok [k, v]
  | .map entries => .ok (entries.map Prod.fst)
  | .str s => .ok ((Text.singles s.toList).map fun piece => .str (String.ofList piece))
  | v => .error (.noItems v)

/-- A value as JSON inside a template. -/
def jsonText (v : Value) : String :=
  Json.write Json.Style.inline v

/-- Apply a filter. -/
def Filter.apply (filter : Filter) (v : Value) : Except RenderError Value :=
  match filter with
  | .comment =>
    match v with
    | .str s => .ok (.str (Text.commentText s))
    | v => .error (.noText v)
  | .json => .ok (.str (jsonText v))
  | .join separator => do
    return .str (separator.intercalate ((← itemsOf v).map Value.shown))
  | .mapJson => do
    if !v.truthy then return .list []
    return .list ((← itemsOf v).map fun item => .str (jsonText item))

/-- The names that stand for the same value in every template. -/
def constants : Scope :=
  [("none", .null), ("None", .null), ("true", .bool true), ("True", .bool true),
   ("false", .bool false), ("False", .bool false)]

/-- The names that stand for something in every template unless its context has them. -/
def usualNames : Scope :=
  [("range", .str "<class 'range'>"), ("dict", .str "<class 'dict'>"),
   ("cycler", .str "<class 'jinja2.utils.Cycler'>"),
   ("joiner", .str "<class 'jinja2.utils.Joiner'>"),
   ("namespace", .str "<class 'jinja2.utils.Namespace'>")]

/-- The value of a name. -/
def valueOfName? (scope : Scope) (name : String) : Option Value :=
  (constants ++ scope ++ usualNames).lookup name

/-- The value of an expression. -/
def Expr.eval (scope : Scope) : Expr → Except RenderError Value
  | .name x =>
    match valueOfName? scope x with
    | some v => .ok v
    | none => .error (.undefined x)
  | .variant written x =>
    match valueOfName? scope x with
    | some v => .ok v
    | none => .error (.undefined written)
  | .field e key => do
    let owner ← e.eval scope
    match owner.get? key with
    | some v => .ok v
    | none => .error (.noField owner key)
  | .text s => .ok (.str s)
  | .filtered filter e =>
    match filter, e.eval scope with
    | .json, .error (.undefined _) => .error .missingJson
    | .json, .error (.noField _ _) => .error .missingJson
    | _, .error err => .error err
    | filter, .ok v => filter.apply v
  | .either a b => do
    let v ← a.eval scope
    if v.truthy then .ok v else b.eval scope
  | .choice yes condition no => do
    if (← condition.eval scope).truthy then yes.eval scope else no.eval scope

mutual

/-- The text of a piece. -/
def Piece.render (scope : Scope) : Piece → Except RenderError String
  | .text s => .ok s
  | .hole e => Value.shown <$> e.eval scope
  | .each item items body _ => do
    let values ← itemsOf (← items.eval scope)
    let last := values.length
    let parts ← values.zipIdx.mapM fun (v, i) =>
      renderAll ((item, v) :: ("loop", Value.record [("last", .bool (i + 1 == last))]) :: scope) body
    return String.join parts
  | .when condition body _ => do
    if (← condition.eval scope).truthy then renderAll scope body else return ""

/-- The text of several pieces. -/
def renderAll (scope : Scope) : List Piece → Except RenderError String
  | [] => .ok ""
  | p :: rest => do return (← p.render scope) ++ (← renderAll scope rest)

end

end ClientGen.Template

namespace ClientGen

/-- The text that a template makes of a context. -/
def Template.render (t : Template) (context : Template.Scope) : Except Template.RenderError String :=
  if (context.lookup Template.selfWord).isSome then .error .ownName
  else Template.renderAll context t

end ClientGen
