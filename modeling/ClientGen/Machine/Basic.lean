import ClientGen.Error
import ClientGen.Log
import ClientGen.Path

/-!
# Machines

What a run needs from the machine that it runs on: files, the network, a clock and the means to run
a command. Work is written for any machine. One kind is the real machine, and another is a machine
as a value, which is what statements about runs are about.
-/

/-!
## Paths that a machine takes

Names of files are bytes on a machine, and there are limits to how many a name and a path may have.
A path is written in UTF-8, but a byte that is not part of any UTF-8 can stand in it as well: as one
of the last 128 halves.
-/

namespace ClientGen

open ClientGen.Text

/-- Whether a number is that of a half which stands for a byte. -/
def isByteHalf (n : Nat) : Bool :=
  0xDC80 ≤ n && n < 0xDD00

/-- How many bytes a number of a path takes. -/
def pathWidth (n : Nat) : Nat :=
  if n < 0x80 || isByteHalf n then 1 else if n < 0x800 then 2 else if n < 0x10000 then 3 else 4

/-- How many bytes a path takes. -/
def pathSize (path : String) : Nat :=
  (numbers path.toList).foldl (fun size n => size + pathWidth n) 0

/-- How many bytes a name has at most. -/
def greatestNameSize : Nat := 255

/-- How many bytes a path has at most. -/
def greatestPathSize : Nat := 4095

/-- What is wrong with a path by itself, wherever it leads. -/
def FileFault.ofPath? (path : String) : Option FileFault :=
  let ns := numbers path.toList
  match loneHalf? isByteHalf ns with
  | some h => some (.half h)
  | none =>
    if ns.contains 0 then some .endMark
    else if greatestPathSize < pathSize path then some .nameTooLong else none

/-- What is wrong with a path that is brought into its normal form with a look at each directory on
the way. Names that are too long are just not there. -/
def FileFault.ofWay? (path : String) : Option FileFault :=
  let marks := Path.rootMarks path
  let names := Path.segments path
  ((List.range names.length).findSome? fun n =>
    FileFault.ofPath? (Path.normalise (marks ++ "/".intercalate (names.take (n + 1))))).filter
    (· != .nameTooLong)

end ClientGen

/-! ## Services -/

namespace ClientGen

/-- What stands at a path. -/
inductive Status
  | directory
  | file (size : Nat) (modified : Int)
  deriving DecidableEq, Repr

/-- The answer of a server: a number, the words for it, and a text. -/
structure Response where
  status : Nat := 200
  reason : String := "OK"
  text : String
  deriving DecidableEq, Repr

/-- How a command ended: its exit code, and what it said about its errors. -/
structure Finished where
  code : Int := 0
  errors : String := ""
  deriving DecidableEq, Repr

/-- The services of a machine. Relative paths are taken from its current directory. -/
class Machine (m : Type → Type) where
  /-- The current directory. -/
  here : m String
  /-- What stands at a path. -/
  status : String → m (Except FileError Status)
  /-- The bytes of a file. -/
  readBytes : String → m (Except FileError ByteArray)
  /-- Give a file new bytes, making it if there is none. -/
  writeBytes : String → ByteArray → m (Except FileError Unit)
  /-- Make one directory. -/
  makeDirectory : String → m (Except FileError Unit)
  /-- The names in a directory. -/
  names : String → m (Except FileError (List String))
  /-- Remove a file. -/
  removeFile : String → m (Except FileError Unit)
  /-- Ask a server, or say why it cannot be asked. -/
  fetch : String → m (Except String Response)
  /-- Run a command in a directory. -/
  execute : List String → String → m (Except FileError Finished)
  /-- The time in seconds since 1970. -/
  time : m Nat

/-- A machine serves work that has a state besides. -/
instance {m : Type → Type} {σ : Type} [Monad m] [Machine m] : Machine (StateT σ m) where
  here := liftM (Machine.here : m _)
  status path := liftM (Machine.status path : m _)
  readBytes path := liftM (Machine.readBytes path : m _)
  writeBytes path bytes := liftM (Machine.writeBytes path bytes : m _)
  makeDirectory path := liftM (Machine.makeDirectory path : m _)
  names path := liftM (Machine.names path : m _)
  removeFile path := liftM (Machine.removeFile path : m _)
  fetch address := liftM (Machine.fetch address : m _)
  execute command directory := liftM (Machine.execute command directory : m _)
  time := liftM (Machine.time : m _)

end ClientGen
