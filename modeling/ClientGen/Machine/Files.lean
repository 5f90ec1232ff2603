import ClientGen.Machine.Basic
import ClientGen.Number.Digits
import ClientGen.Text.Utf8

/-!
# Work with files

What is done with the files of a machine: looking whether they are there, reading and writing them
as text, and making directories with all that lead to them.
-/

namespace ClientGen

/-- Why a file cannot be read or written as text. -/
inductive TextError
  | file (e : FileError)
  /-- Bytes are not UTF-8. -/
  | encoding (e : Text.EncodingError)
  /-- A text has no form in UTF-8. -/
  | half (h : Text.LoneHalf)
  /-- An integer of a text has too many digits to be read. -/
  | digits (f : Number.DigitsFault)
  deriving DecidableEq, Repr

namespace Machine

variable {m : Type → Type} [Monad m] [Machine m] {ε : Type}

/-- A service of the machine as a part of some work. -/
def asked {α : Type} (x : m α) : Work m ε α :=
  liftM x

/-- A service of the machine that may fail. -/
def tried {α : Type} (x : m (Except FileError α)) : Work m FileError α := do
  match ← asked x with
  | .ok a => return a
  | .error e => throw e

/-- What stands at a path, if anything does. -/
def status? (path : String) : Work m ε (Option Status) := do
  match ← asked (status path) with
  | .ok s => return some s
  | .error _ => return none

/-- Whether there is something at a path. A name that is too long has no answer. -/
def isThere (path : String) : Work m FileError Bool := do
  match ← asked (status path) with
  | .ok _ => return true
  | .error e => if e.fault == .nameTooLong then throw e else return false

/-- Whether there is a directory at a path. -/
def isDirectory (path : String) : Work m ε Bool := do
  return (← status? path) == some .directory

/-- Whether there is a file at a path. -/
def isFile (path : String) : Work m ε Bool := do
  match ← status? path with
  | some (.file _ _) => return true
  | _ => return false

/-- The text of a file, its line ends as line feeds. -/
def readText (path : String) : Work m TextError String := do
  let bytes ← (tried (readBytes path)).adapt TextError.file
  match Text.decode bytes with
  | .ok s => return String.ofList (Text.universalNewlines s.toList)
  | .error e => throw (.encoding e)

/-- The normal form of a path from the current directory, by a look at each directory on the way. -/
def resolved (path : String) : Work m FileError String := do
  if let some fault := FileFault.ofWay? path then throw ⟨fault, path⟩
  return Path.resolve (← asked here) path

/-- Give a file a new text. A text without a form in UTF-8 leaves the file empty. -/
def writeText (path text : String) : Work m TextError Unit := do
  match Text.encode text with
  | .ok bytes => (tried (writeBytes path bytes)).adapt TextError.file
  | .error h =>
    (tried (writeBytes path ByteArray.empty)).adapt TextError.file
    throw (.half h)

/-- Add a text at the end of a file, making it if there is none. -/
def appendText (path text : String) : Work m FileError Unit := do
  let before ← if ← isFile path then tried (readBytes path) else pure ByteArray.empty
  tried (writeBytes path (before ++ Text.bytesOf text))

/-- Make a directory where there is none. A missing directory above it is made first, and `height`
bounds how many there are. -/
def makeDirectoriesUpTo : Nat → String → Work m FileError Unit
  | 0, _ => return
  | height + 1, path => do
    match ← asked (makeDirectory path) with
    | .ok () => return
    | .error e =>
      if e.fault == .missing then
        if Path.parent path == path then throw e
        makeDirectoriesUpTo height (Path.parent path)
        match ← asked (makeDirectory path) with
        | .ok () => return
        | .error e =>
          if e.fault == .missing then throw e
          if !(← isDirectory path) then throw e
      else if !(← isDirectory path) then throw e

/-- Make a directory and those above it, where there are none. -/
def makeDirectories (path : String) : Work m FileError Unit :=
  makeDirectoriesUpTo ((Path.segments path).length + 1) path

/-- Where a copy under a name goes: below the target, if that is a directory. -/
def copyTarget (name target : String) : Work m ε String := do
  if ← isDirectory target then return Path.below target name
  return target

/-- Copy a file. -/
def copyFile (source target : String) : Work m FileError Unit := do
  let target ← copyTarget (Path.lastName source) target
  let bytes ← tried (readBytes source)
  tried (writeBytes target bytes)

end Machine

end ClientGen
