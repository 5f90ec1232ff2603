import ClientGen.Collections.Distinct
import ClientGen.Template.Render
import ClientGen.Text.Compatible
import ClientGen.Text.Quoted

/-!
# Names in templates

Compatible names in a template, the same but for the form of their characters, are one variable. It
has the value of the name that comes last where each name counts at its first place. The word `self`
is the template itself, as if it came first of all.
-/

namespace ClientGen.Template

/-- The names in an expression in order; a condition comes before what it decides on. -/
def Expr.names : Expr → List String
  | .name x => [x]
  | .variant written _ => [written]
  | .field e _ => e.names
  | .text _ => []
  | .filtered _ e => e.names
  | .either a b => a.names ++ b.names
  | .choice yes condition no => condition.names ++ yes.names ++ no.names

/-- An expression with others in the places of its names. -/
def Expr.mapNames (f : String → Expr) : Expr → Expr
  | .name x => f x
  | .variant written _ => f written
  | .field e key => .field (e.mapNames f) key
  | .text s => .text s
  | .filtered filter e => .filtered filter (e.mapNames f)
  | .either a b => .either (a.mapNames f) (b.mapNames f)
  | .choice yes condition no =>
    .choice (yes.mapNames f) (condition.mapNames f) (no.mapNames f)

mutual

/-- The names in a piece in order. -/
def Piece.names : Piece → List String
  | .text _ => []
  | .hole e => e.names
  | .each _ items body _ => items.names ++ namesAll body
  | .when condition body _ => condition.names ++ namesAll body

/-- The names in some pieces in order. -/
def namesAll : List Piece → List String
  | [] => []
  | p :: rest => p.names ++ namesAll rest

end

mutual

/-- A piece with expressions in the places of its names. -/
def Piece.mapNames (f : String → Expr) : Piece → Piece
  | .text s => .text s
  | .hole e => .hole (e.mapNames f)
  | .each item items body own => .each item (items.mapNames f) (mapNamesAll f body) own
  | .when condition body own => .when (condition.mapNames f) (mapNamesAll f body) own

/-- Some pieces with expressions in the places of their names. -/
def mapNamesAll (f : String → Expr) : List Piece → List Piece
  | [] => []
  | p :: rest => p.mapNames f :: mapNamesAll f rest

end

/-- What the template in a file shows of itself. -/
def selfText (file : String) : String :=
  "<TemplateReference " ++ Text.quoted file ++ ">"

/-- The names of variables in the order of their first places. -/
def variableNames (names : List String) : List String :=
  let names := distinct (names.filter fun x => (constants.lookup x).isNone)
  names.filter (· == selfWord) ++ names.filter (· != selfWord)

/-- The name whose value counts for a name among some names. -/
def countingName (names : List String) (x : String) : String :=
  let form := Text.commonForm x.toList
  ((names.filter fun y => Text.commonForm y.toList == form).getLast?).getD x

/-- What stands for a name in the template of a file whose variables have the given names. -/
def bound (file : String) (names : List String) (x : String) : Expr :=
  if (constants.lookup x).isSome then .name x
  else
    let y := countingName names x
    if y == selfWord then .text (selfText file)
    else if x == y || x == selfWord then .name y
    else .variant x y

end ClientGen.Template

namespace ClientGen

/-- A template as it is in a file, where its names stand for variables. -/
def Template.inFile (file : String) (t : Template) : Template :=
  Template.mapNamesAll (Template.bound file (Template.variableNames (Template.namesAll t))) t

end ClientGen
