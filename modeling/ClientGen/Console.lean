import ClientGen.Machine.Files

/-!
# Consoles

How messages are shown to whoever started a run. A console that was set up shows what goes on, with
the importance of each message; one that was not shows only the texts of warnings and worse. A log
file takes the messages as well, each with the name of the logger that it came through.
-/

namespace ClientGen

open Text

/-- A console. -/
inductive Console
  | bare
  | labelled (verbose : Bool)
  deriving DecidableEq, Repr

namespace Console

/-- The least important level that is shown. -/
def threshold : Console → Level
  | .bare => .warning
  | .labelled true => .debug
  | .labelled false => .info

/-- Whether messages of a level are shown. -/
def shows (c : Console) (level : Level) : Bool :=
  c.threshold.rank ≤ level.rank

/-- The text that a message is shown as. -/
def text (c : Console) (message : Message) : String :=
  match c with
  | .bare => message.text
  | .labelled _ => "[tsgen] " ++ message.level.name ++ " " ++ message.text

/-- The lines that messages are shown in. -/
def lines (c : Console) (log : Log) : List String :=
  (log.filter fun message => c.shows message.level).flatMap fun message =>
    (Text.lines (c.text message ++ "\n").toList).map String.ofList

end Console

/-- The logger that all others are below. -/
def rootLogger : String := "tsgen"

/-- The full name of a logger: all are below one. -/
def loggerName (name : Option String) : String :=
  match name with
  | none => rootLogger
  | some name =>
    if name.isEmpty || name == rootLogger then rootLogger
    else if (rootLogger ++ ".").toList.isPrefixOf name.toList then name
    else rootLogger ++ "." ++ name

/-- A message in a log file, behind the time. -/
def logFileText (time logger : String) (message : Message) : String :=
  time ++ " " ++ message.level.name ++ " " ++ logger ++ ": " ++ message.text ++ "\n"

variable {m : Type → Type} [Monad m] [Machine m]

/-- Write messages, each with its time and its logger, to a log file. The file is opened before
there is any, and what it held before stays in front. -/
def writeLogFile (path : String) (messages : List (String × String × Message)) :
    Work m FileError Unit :=
  Machine.appendText path
    (String.join (messages.map fun (time, logger, message) => logFileText time logger message))

end ClientGen
