/-!
# Messages

What a run has to say while it works, as a list of records in order. Work that reports is written in
`Work`, or in `Reporting` if it needs nothing else; a failure keeps everything reported before it.
-/

namespace ClientGen

/-- How important a message is. -/
inductive Level
  | debug
  | info
  | warning
  | error
  | critical
  deriving DecidableEq, Repr, Inhabited

/-- The rank of a level, the more important the higher. -/
def Level.rank : Level → Nat
  | .debug => 0
  | .info => 1
  | .warning => 2
  | .error => 3
  | .critical => 4

/-- The name of a level. -/
def Level.name : Level → String
  | .debug => "DEBUG"
  | .info => "INFO"
  | .warning => "WARNING"
  | .error => "ERROR"
  | .critical => "CRITICAL"

/-- The level of a name. -/
def Level.ofName? (name : String) : Option Level :=
  [debug, info, warning, error, critical].find? fun l => l.name == name

/-- A message. -/
structure Message where
  level : Level
  text : String
  deriving DecidableEq, Repr, Inhabited

/-- Messages in the order in which they were reported. -/
abbrev Log := List Message

/-- Work in the monad `m` that reports messages and may fail with an `ε`. -/
abbrev Work (m : Type → Type) (ε : Type) := ExceptT ε (StateT Log m)

/-- A computation that reports messages and may fail with an `ε`. -/
abbrev Reporting (ε : Type) := Work Id ε

/-- Report a message. -/
def report {m : Type → Type} [Monad m] {ε : Type} (level : Level) (text : String) :
    Work m ε Unit :=
  modify (· ++ [⟨level, text⟩])

/-- Do a computation as part of some work. -/
def ofReporting {m : Type → Type} [Monad m] {ε α : Type} (x : Reporting ε α) : Work m ε α :=
  ExceptT.mk fun log => pure (x.run.run log)

/-- The outcome of some work. -/
def attempt {m : Type → Type} [Monad m] {ε ε' α : Type} (x : Work m ε α) :
    Work m ε' (Except ε α) :=
  ExceptT.mk (Except.ok <$> x.run)

end ClientGen
