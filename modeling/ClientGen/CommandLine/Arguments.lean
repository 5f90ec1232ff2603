import ClientGen.Text.Chars

/-!
# Arguments of commands

The words behind a command as options and operands. An option may be given by the start of its name
if no other one starts so, and its value may be attached with an equals sign. A single letter may
stand before other ones behind one hyphen. Two hyphens end the options.
-/

namespace ClientGen.CommandLine

open ClientGen.Text

/-- An option of a command: its names, whether a value follows, and the values that may follow if
not all may. -/
structure Option_ where
  names : List String
  takesValue : Bool := false
  choices : Option (List String) := none
  deriving DecidableEq, Repr

/-- The option that asks for help. -/
def helpOption : Option_ := { names := ["-h", "--help"] }

/-- A word by its role: an option as it is spelled, perhaps with a value attached, an operand, or
the mark that ends the options. -/
inductive Word
  | option (o : Option_) (spelled : String) (attached : Option String)
  | unknown
  | operand (s : String)
  | separator
  deriving DecidableEq, Repr

/-- Why there is nothing to do. -/
inductive Refusal
  /-- Help is asked for. -/
  | help
  /-- The words make no sense. -/
  | misuse
  deriving DecidableEq, Repr

/-- Options with their values, an empty one for those that take none, and an operand. -/
structure Arguments where
  options : List (Option_ × String) := []
  operand : Option String := none
  deriving DecidableEq, Repr

namespace Arguments

/-- Whether an option is given. -/
def has (a : Arguments) (o : Option_) : Bool :=
  a.options.any fun (p, _) => p == o

/-- The values that are given for an option. -/
def values (a : Arguments) (o : Option_) : List String :=
  (a.options.filter fun (p, _) => p == o).map Prod.snd

/-- The value that counts: the last one. -/
def value? (a : Arguments) (o : Option_) : Option String :=
  (a.values o).getLast?

end Arguments

/-- Cut a word at its first equals sign. -/
def cutAtEquals (s : List Char) : List Char × Option (List Char) :=
  match s.span (· != '=') with
  | (head, []) => (head, none)
  | (head, _ :: tail) => (head, some tail)

/-- The options whose names start with some characters, each as often as it has such a name. -/
def withHead (options : List Option_) (head : List Char) : List (Option_ × String) :=
  options.flatMap fun o => (o.names.filter fun n => head.isPrefixOf n.toList).map fun n => (o, n)

/-- The option of a name. -/
def named? (options : List Option_) (name : String) : Option Option_ :=
  options.find? fun o => o.names.contains name

/-- The options that a word may mean. -/
def meanings (options : List Option_) (s : List Char) : List (Option_ × String × Option String) :=
  match s with
  | '-' :: '-' :: _ =>
    let (head, attached) := cutAtEquals s
    (withHead options head).map fun (o, n) => (o, n, attached.map String.ofList)
  | '-' :: letter :: rest =>
    let letter := String.ofList ['-', letter]
    let short := (named? options letter).toList.map fun o =>
      (o, letter, some (String.ofList rest))
    short ++ (withHead options s).filterMap fun (o, n) =>
      if n == letter then none else some (o, n, none)
  | _ => []

/-- Whether a word is a negative number, in digits of any script. A line feed may end it. -/
def isNegativeNumber (s : List Char) : Bool :=
  match if s.getLast? == some '\n' then s.dropLast else s with
  | '-' :: rest =>
    let (whole, tail) := rest.span isDecimalDigit
    match tail with
    | [] => !whole.isEmpty
    | '.' :: fraction => !fraction.isEmpty && fraction.all isDecimalDigit
    | _ => false
  | _ => false

/-- The role of a word in front of the mark that ends the options. -/
def Word.of (options : List Option_) (s : String) : Except Refusal Word :=
  let cs := s.toList
  if cs.head? != some '-' || cs == ['-'] then .ok (.operand s)
  else
    match named? options s with
    | some o => .ok (.option o s none)
    | none =>
      let (head, attached) := cutAtEquals cs
      match attached, named? options (String.ofList head) with
      | some tail, some o => .ok (.option o (String.ofList head) (some (String.ofList tail)))
      | _, _ =>
        match meanings options cs with
        | [(o, n, attached)] => .ok (.option o n attached)
        | _ :: _ :: _ => .error .misuse
        | [] => .ok (if isNegativeNumber cs || cs.contains ' ' then .operand s else .unknown)

/-- The roles of words. -/
def Word.all (options : List Option_) : List String → Except Refusal (List Word)
  | [] => .ok []
  | s :: rest =>
    if s == "--" then .ok (.separator :: rest.map .operand)
    else do return (← Word.of options s) :: (← Word.all options rest)

/-- An option with its value, if the value may follow it. -/
def Arguments.add (a : Arguments) (o : Option_) (value : String) : Except Refusal Arguments :=
  if o == helpOption then .error .help
  else if o.choices.all fun choices => choices.contains value then
    .ok { a with options := a.options ++ [(o, value)] }
  else .error .misuse

/-- What a word asks for: options with their values, and the option whose value is the next word. -/
abbrev Asked := List (Option_ × String) × Option Option_

/-- Single letters behind one hyphen, the last of which may take a value: those behind the letter of
an option. -/
def askedByLetters (options : List Option_) (o : Option_) : List Char → Except Refusal Asked
  | [] => .ok (if o.takesValue then ([], some o) else ([(o, "")], none))
  | c :: rest => do
    if o.takesValue then return ([(o, String.ofList (c :: rest))], none)
    else
      match named? options (String.ofList ['-', c]) with
      | some next =>
        let (more, last) ← askedByLetters options next rest
        return ((o, "") :: more, last)
      | none => .error .misuse

/-- What an option asks for, as it is spelled and perhaps with a value attached. -/
def askedBy (options : List Option_) (o : Option_) (spelled : String) (attached : Option String) :
    Except Refusal Asked :=
  let isLetter := spelled.toList.drop 1 |>.head?.all (· != '-')
  match attached with
  | none => askedByLetters options o []
  | some value =>
    if o.takesValue then .ok ([(o, value)], none)
    else if isLetter && !value.isEmpty then askedByLetters options o value.toList
    else .error .misuse

/-- Some options with their values, in order. -/
def Arguments.addAll (a : Arguments) (asked : List (Option_ × String)) : Except Refusal Arguments :=
  asked.foldlM (fun a (o, value) => a.add o value) a

/-- Read words in order. At most one operand is taken, and only if one is `wanted`; what is left
over makes the words meaningless, which is told after help has been given. -/
def Arguments.read (options : List Option_) (wanted : Bool) :
    Arguments → Bool → List Word → Except Refusal Arguments
  | a, leftOver, [] =>
    if leftOver || (wanted && a.operand.isNone) then .error .misuse else .ok a
  | a, leftOver, .option o spelled attached :: rest => do
    match ← askedBy options o spelled attached, rest with
    | (asked, none), rest => (← a.addAll asked).read options wanted leftOver rest
    | (asked, some o), .operand value :: rest =>
      (← a.addAll (asked ++ [(o, value)])).read options wanted leftOver rest
    | (_, some _), _ => .error .misuse
  | a, _, .unknown :: rest => a.read options wanted true rest
  | a, leftOver, .operand s :: rest =>
    if wanted && a.operand.isNone then
      match rest with
      | .separator :: rest => { a with operand := some s }.read options wanted leftOver rest
      | rest => { a with operand := some s }.read options wanted leftOver rest
    else a.read options wanted true rest
  | a, leftOver, .separator :: .operand s :: rest =>
    if wanted && a.operand.isNone then
      { a with operand := some s }.read options wanted leftOver rest
    else a.read options wanted true rest
  | a, _, .separator :: rest => a.read options wanted true rest

/-- The arguments of a command that knows some options, and takes an operand if one is `wanted`. -/
def Arguments.of (options : List Option_) (wanted : Bool) (words : List String) :
    Except Refusal Arguments := do
  let known := helpOption :: options
  ({} : Arguments).read known wanted false (← Word.all known words)

/-- A command in front of further words, and whether words that mean nothing stand before it. -/
structure Subcommand where
  name : String
  words : List String
  leftOver : Bool
  deriving DecidableEq, Repr

/-- The arguments of a subcommand. Words that mean nothing before it are told after help has been
given. -/
def Subcommand.arguments (c : Subcommand) (options : List Option_) (wanted : Bool) :
    Except Refusal Arguments := do
  let a ← Arguments.of options wanted c.words
  if c.leftOver then .error .misuse else .ok a

/-- The command that stands in front of further words. Only help can be asked for before it. -/
def Subcommand.of (words : List String) : Except Refusal Subcommand :=
  go false words
where
  /-- Go on behind words that mean nothing. -/
  go (leftOver : Bool) : List String → Except Refusal Subcommand
    | [] => .error .misuse
    | s :: rest => do
      if s == "--" then throw .misuse
      match ← Word.of [helpOption] s with
      | .option o spelled attached =>
        let (asked, _) ← askedBy [helpOption] o spelled attached
        let _ ← ({} : Arguments).addAll asked
        go leftOver rest
      | .operand s => return { name := s, words := rest, leftOver }
      | _ => go true rest

end ClientGen.CommandLine
