import ClientGen.Collections.Distinct
import ClientGen.Machine.Basic

/-!
# Disks and machines as values

A disk is a table from places to what stands there. A machine as a value has a disk, the answers of
the servers that it can ask, and what commands do on it.
-/

namespace ClientGen

/-- A place on a disk: the names on the way from the root to it. -/
abbrev Place := List String

/-- What stands at a place. -/
inductive Entry
  | directory
  | file (bytes : ByteArray) (modified : Int)

/-- A disk. The root is a directory and not listed. -/
structure Disk where
  entries : List (Place × Entry) := []

namespace Disk

/-- What stands at a place, if anything does. -/
def at? (d : Disk) (p : Place) : Option Entry :=
  if p.isEmpty then some .directory else d.entries.lookup p

/-- Put something at a place. -/
def put (d : Disk) (p : Place) (e : Entry) : Disk :=
  { entries := setEntry p e d.entries }

/-- Take away what stands at a place. -/
def erase (d : Disk) (p : Place) : Disk :=
  { entries := d.entries.filter fun (q, _) => q != p }

/-- Take away what stands at a place and below it. -/
def eraseBelow (d : Disk) (p : Place) : Disk :=
  { entries := d.entries.filter fun (q, _) => !p.isPrefixOf q }

/-- Go on from a place by the segments of a path. Only directories lead on, and there has to be one
even where two dots lead back. A name that is too long is found out where it is looked up. -/
def walk (d : Disk) : Place → List String → Except FileFault Place
  | p, [] => .ok p
  | p, s :: rest =>
    match d.at? p with
    | some .directory =>
      if greatestNameSize < pathSize s then .error .nameTooLong
      else d.walk (if s == ".." then p.dropLast else p ++ [s]) rest
    | some (.file _ _) => .error .notDirectory
    | none => .error .missing

/-- The names of what stands in a directory. -/
def namesIn (d : Disk) (p : Place) : List String :=
  d.entries.filterMap fun (q, _) =>
    if q.dropLast == p then q.getLast? else none

end Disk

/-- A machine as a value. The `clock` counts the changes of files, and each file remembers when it
was changed. -/
structure MachineState where
  disk : Disk := {}
  here : String := "/"
  clock : Nat := 0
  time : Nat := 0
  responses : List (String × Response) := []
  /-- How commands end, unless there are none. -/
  commands : Option Finished := none
  /-- The commands that were run, with their directories. -/
  executed : List (List String × String) := []

namespace MachineState

/-- The place of a path. -/
def placeOf (s : MachineState) (path : String) : Except FileFault Place :=
  match FileFault.ofPath? path with
  | some fault => .error fault
  | none => s.disk.walk [] (Path.segments (Path.join s.here path))

/-- What stands at a path. -/
def entryOf (s : MachineState) (path : String) : Except FileError Entry :=
  match s.placeOf path with
  | .error fault => .error ⟨fault, path⟩
  | .ok place =>
    match s.disk.at? place with
    | some e => .ok e
    | none => .error ⟨.missing, path⟩

/-- What is known about a path. -/
def status (s : MachineState) (path : String) : Except FileError Status :=
  match s.entryOf path with
  | .error e => .error e
  | .ok .directory => .ok .directory
  | .ok (.file bytes modified) => .ok (.file bytes.size modified)

/-- The bytes of a file. -/
def readBytes (s : MachineState) (path : String) : Except FileError ByteArray :=
  match s.entryOf path with
  | .error e => .error e
  | .ok .directory => .error ⟨.isDirectory, path⟩
  | .ok (.file bytes _) => .ok bytes

/-- Give a file new bytes. -/
def writeBytes (s : MachineState) (path : String) (bytes : ByteArray) :
    Except FileError Unit × MachineState :=
  match s.placeOf path with
  | .error fault => (.error ⟨fault, path⟩, s)
  | .ok place =>
    match s.disk.at? place with
    | some .directory => (.error ⟨.isDirectory, path⟩, s)
    | _ => (.ok (), { s with disk := s.disk.put place (.file bytes s.clock), clock := s.clock + 1 })

/-- Make one directory. -/
def makeDirectory (s : MachineState) (path : String) : Except FileError Unit × MachineState :=
  match s.placeOf path with
  | .error fault => (.error ⟨fault, path⟩, s)
  | .ok place =>
    match s.disk.at? place with
    | some _ => (.error ⟨.exists, path⟩, s)
    | none => (.ok (), { s with disk := s.disk.put place .directory })

/-- The names in a directory. -/
def names (s : MachineState) (path : String) : Except FileError (List String) :=
  match s.entryOf path, s.placeOf path with
  | .error e, _ => .error e
  | .ok (.file _ _), _ => .error ⟨.notDirectory, path⟩
  | .ok .directory, .ok place => .ok (s.disk.namesIn place)
  | .ok .directory, .error fault => .error ⟨fault, path⟩

/-- Remove a file. -/
def removeFile (s : MachineState) (path : String) : Except FileError Unit × MachineState :=
  match s.entryOf path, s.placeOf path with
  | .error e, _ => (.error e, s)
  | .ok .directory, _ => (.error ⟨.isDirectory, path⟩, s)
  | .ok (.file _ _), .ok place => (.ok (), { s with disk := s.disk.erase place })
  | .ok (.file _ _), .error fault => (.error ⟨fault, path⟩, s)

/-- Run a command. It is remembered even if there are no commands. -/
def execute (s : MachineState) (command : List String) (directory : String) :
    Except FileError Finished × MachineState :=
  let s := { s with executed := s.executed ++ [(command, directory)] }
  match s.commands with
  | some finished => (.ok finished, s)
  | none => (.error ⟨.missing, command.headD ""⟩, s)

end MachineState

instance : Machine (StateM MachineState) where
  here := do return (← get).here
  status path := do return (← get).status path
  readBytes path := do return (← get).readBytes path
  writeBytes path bytes := modifyGet fun s => s.writeBytes path bytes
  makeDirectory path := modifyGet fun s => s.makeDirectory path
  names path := do return (← get).names path
  removeFile path := modifyGet fun s => s.removeFile path
  fetch address := do
    match (← get).responses.lookup address with
    | some r => return .ok r
    | none => return .error "unreachable"
  execute command directory := modifyGet fun s => s.execute command directory
  time := do return (← get).time

end ClientGen
