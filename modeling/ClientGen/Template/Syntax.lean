/-!
# Templates

A template is text with holes. A hole shows the value of an expression over the names of a context;
a part may be repeated for the items of a list or be left out on a condition. The tag of such a part
either stands on a line of its own, and then the line belongs to the tag, or inside a line.
-/

namespace ClientGen.Template

/-- What is done to a value before it is shown. -/
inductive Filter
  /-- Make a text safe inside a block comment. -/
  | comment
  /-- Write a value as JSON. -/
  | json
  /-- Join the items of a list. -/
  | join (separator : String)
  /-- Write each item of a list as JSON. -/
  | mapJson
  deriving DecidableEq, Repr

/-- An expression. -/
inductive Expr
  | name (name : String)
  /-- A name that is written otherwise than the one that its value is under. -/
  | variant (written name : String)
  | field (of : Expr) (field : String)
  | text (s : String)
  | filtered (filter : Filter) (of : Expr)
  /-- The first expression if it counts as true, and the second otherwise. -/
  | either (a b : Expr)
  /-- One of two expressions, by a condition. -/
  | choice (yes condition no : Expr)
  deriving DecidableEq, Repr

/-- A piece of a template. -/
inductive Piece
  | text (s : String)
  | hole (e : Expr)
  /-- A part for every item of a list. -/
  | each (item : String) (items : Expr) (body : List Piece) (ownLine : Bool)
  /-- A part on a condition. -/
  | when (condition : Expr) (body : List Piece) (ownLine : Bool)

end ClientGen.Template

namespace ClientGen

/-- A template. -/
abbrev Template := List Template.Piece

end ClientGen
