import ClientGen.Json.Quoted
import ClientGen.Number.Digits
import ClientGen.Number.Shortest
import ClientGen.Schema.Node

/-!
# Validator expressions

The values of the validation library zod that check data at run time, and their text.
-/

namespace ClientGen.TypeScript

open ClientGen.Number ClientGen.Schema

/-- A check on a text or a number. -/
inductive Check
  | min (n : Int)
  | max (n : Int)
  | email
  | url
  | uuid
  | datetime
  | regex (pattern : String)
  | atLeast (b : Bound)
  | above (b : Bound)
  | atMost (b : Bound)
  | below (b : Bound)
  | multipleOf (b : Bound)
  deriving DecidableEq, Repr

/-- The text of a bound: digits alone for a whole number, however it was written. -/
def boundText : Bound → String
  | .int n => toString n
  | .float x =>
    match x.toInt? with
    | some n => toString n
    | none => x.text

/-- Whether a bound is an integer with too many digits. A floating point number never is. -/
def isLongBound : Bound → Bool
  | .int n => isLong n
  | .float _ => false

/-- The call that makes a check. -/
def Check.text : Check → String
  | .min n => ".min(" ++ toString n ++ ")"
  | .max n => ".max(" ++ toString n ++ ")"
  | .email => ".email()"
  | .url => ".url()"
  | .uuid => ".uuid()"
  | .datetime => ".datetime()"
  | .regex pattern => ".regex(new RegExp(" ++ Json.quote pattern ++ "))"
  | .atLeast b => ".min(" ++ boundText b ++ ")"
  | .above b => ".gt(" ++ boundText b ++ ")"
  | .atMost b => ".max(" ++ boundText b ++ ")"
  | .below b => ".lt(" ++ boundText b ++ ")"
  | .multipleOf b => ".multipleOf(" ++ boundText b ++ ")"

/-- Whether a check is by an integer that has too many digits to be written. -/
def Check.hasLongInteger : Check → Bool
  | .min n => isLong n
  | .max n => isLong n
  | .atLeast b => isLongBound b
  | .above b => isLongBound b
  | .atMost b => isLongBound b
  | .below b => isLongBound b
  | .multipleOf b => isLongBound b
  | .email => false
  | .url => false
  | .uuid => false
  | .datetime => false
  | .regex _ => false

/-- The texts of some checks in a row. -/
def checksText (checks : List Check) : String :=
  String.join (checks.map Check.text)

/-- The check of a text format, for the formats that have one. -/
def formatCheck? : String → Option Check
  | "email" => some .email
  | "uri" => some .url
  | "url" => some .url
  | "uuid" => some .uuid
  | "date-time" => some .datetime
  | _ => none

/-- The checks of a text. -/
def stringChecks (c : Constraints) : List Check :=
  (c.minLength.map Check.min).toList ++ (c.maxLength.map Check.max).toList ++
    (c.format.bind formatCheck?).toList ++ (c.pattern.map Check.regex).toList

/-- The checks of a number. -/
def numberChecks (c : Constraints) : List Check :=
  (c.minimum.map Check.atLeast).toList ++ (c.exclusiveMinimum.map Check.above).toList ++
    (c.maximum.map Check.atMost).toList ++ (c.exclusiveMaximum.map Check.below).toList ++
    (c.multipleOf.map Check.multipleOf).toList

/-- The checks of an array. -/
def arrayChecks (c : Constraints) : List Check :=
  (c.minItems.map Check.min).toList ++ (c.maxItems.map Check.max).toList

mutual

/-- A validator expression. -/
inductive Validator
  | any
  | string (checks : List Check)
  | number (checks : List Check)
  | integer (checks : List Check)
  | boolean
  | blob
  /-- A declared validator, perhaps of another file. -/
  | named (namespace_ : Option String) (const : String)
  /-- A declared validator that is looked up only when it is used. -/
  | deferred (const : String)
  | array (item : Validator) (checks : List Check)
  | record (value : Validator)
  /-- An object, whose last line is indented by `level` steps and the lines of its fields by one
  more. Below zero there is nothing to take away. -/
  | object (level : Int) (fields : List Field)
  | both (first : Validator) (others : List Validator)
  | union (variants : List Validator)
  | orNull (validator : Validator)
  /-- A validator given by its text. -/
  | verbatim (text : String)

/-- A field of an object, whose key is written as it is. -/
inductive Field
  | mk (key : String) (optional : Bool) (validator : Validator)

end

instance : Inhabited Validator := ⟨.any⟩

/-- The blanks in front of a line at a level. -/
def indentation (level : Int) : String :=
  String.ofList (List.replicate (2 * level.toNat) ' ')

mutual

/-- The text of a validator. -/
def Validator.text : Validator → String
  | .any => "z.any()"
  | .string checks => "z.string()" ++ checksText checks
  | .number checks => "z.number()" ++ checksText checks
  | .integer checks => "z.number().int()" ++ checksText checks
  | .boolean => "z.boolean()"
  | .blob => "z.instanceof(Blob)"
  | .named none const => const
  | .named (some n) const => n ++ "." ++ const
  | .deferred const => "z.lazy(() => " ++ const ++ ")"
  | .array item checks => "z.array(" ++ item.text ++ ")" ++ checksText checks
  | .record value => "z.record(z.string(), " ++ value.text ++ ")"
  | .object level fields =>
    "z.object(\x7b\n" ++ String.join (Field.lines level fields) ++ indentation level ++ "\x7d)"
  | .both first others => first.text ++ String.join (Validator.conjuncts others)
  | .union variants => "z.union([" ++ ", ".intercalate (Validator.texts variants) ++ "])"
  | .orNull v => v.text ++ ".nullable()"
  | .verbatim text => text

/-- The texts of some validators. -/
def Validator.texts : List Validator → List String
  | [] => []
  | v :: rest => v.text :: Validator.texts rest

/-- The calls that add further validators to hold. -/
def Validator.conjuncts : List Validator → List String
  | [] => []
  | v :: rest => (".and(" ++ v.text ++ ")") :: Validator.conjuncts rest

/-- The lines of the fields of an object at a level. -/
def Field.lines (level : Int) : List Field → List String
  | [] => []
  | ⟨key, optional, v⟩ :: rest =>
    (indentation level ++ "  " ++ key ++ ": " ++ v.text ++
      (if optional then ".optional()" else "") ++ ",\n") :: Field.lines level rest

end

/-- The checks that a validator makes by itself. -/
def Validator.checks : Validator → List Check
  | .string checks => checks
  | .number checks => checks
  | .integer checks => checks
  | .array _ checks => checks
  | _ => []

/-- A validator, unless an integer in its own checks has too many digits to be written. -/
def Validator.writable (v : Validator) : Except DigitsFault Validator :=
  if v.checks.any Check.hasLongInteger then .error {} else .ok v

/-- Whether a validator accepts everything. -/
def Validator.isAny : Validator → Bool
  | .any => true
  | _ => false

/-- A validator that accepts null as well, unless it accepts everything. -/
def Validator.withNull (v : Validator) : Validator :=
  if v.isAny then v else .orNull v

/-- The validator of a scalar. -/
def scalarValidator (kind : PrimitiveKind) (c : Constraints) : Validator :=
  match kind with
  | .string => if c.format = some "binary" then .blob else .string (stringChecks c)
  | .integer => .integer (numberChecks c)
  | .number => .number (numberChecks c)
  | .boolean => .boolean

/-- The name of the validator of a declared type. -/
def validatorName (identifier : String) : String :=
  identifier ++ "Schema"

end ClientGen.TypeScript
