import ClientGen.CommandLine.Commands

/-!
# The program

The commands on the machine that the program runs on. Servers cannot be asked from here, and no
commands can be run.
-/

namespace ClientGen

/-- The fault that an error of the machine stands for. -/
def faultOf : IO.Error → FileFault
  | .alreadyExists .. => .exists
  | .inappropriateType .. => .isDirectory
  | .invalidArgument .. => .nameTooLong
  | _ => .missing

/-- A text as it is outside; a half in it becomes the replacement character. -/
def shownOutside (s : String) : String :=
  match Text.released s with
  | .ok s => s
  | .error _ =>
    String.ofList ((Text.numbers s.toList).map fun n =>
      if Text.isHalf n then '\ufffd' else Char.ofNat n)

/-- Use a file by its path as that is outside, and give the fault that this meets. -/
def onFile {α : Type} (path : String) (use : String → IO α) : IO (Except FileError α) := do
  match FileFault.ofPath? path, Text.released path with
  | some fault, _ => return .error ⟨fault, path⟩
  | none, .error h => return .error ⟨.half h, path⟩
  | none, .ok outside =>
    try
      return .ok (← use outside)
    catch e =>
      return .error ⟨faultOf e, path⟩

/-- The time of the last change of a file that is made for the purpose. -/
def currentTime : IO Nat := do
  let (_, path) ← IO.FS.createTempFile
  let known ← path.metadata
  IO.FS.removeFile path
  return known.modified.sec.toNat

instance : Machine IO where
  here := do return Text.kept (← IO.currentDir).toString
  status path := onFile path fun path => do
    let known ← (← IO.FS.realPath path).metadata
    if known.type == .dir then return .directory
    return .file known.byteSize.toNat
      (known.modified.sec * 1000000000 + known.modified.nsec.toNat)
  readBytes path := onFile path fun path => IO.FS.readBinFile path
  writeBytes path bytes := onFile path fun path => IO.FS.writeBinFile path bytes
  makeDirectory path := onFile path fun path => IO.FS.createDir path
  names path := onFile path fun path => do
    return ((← (← IO.FS.realPath path).readDir).map (Text.kept ·.fileName)).toList
  removeFile path := onFile path fun path => IO.FS.removeFile path
  fetch _ := return .error "unreachable"
  execute command _ := return .error ⟨.missing, command.headD ""⟩
  time := currentTime

/-- Do what some words ask for, print what comes of it, and give the exit code. -/
def runProgram (words : List String) : IO UInt32 := do
  let command : CommandLine.Command IO := CommandLine.run (words.map Text.kept)
  let ((result, log), _) ← (command.run.run []).run {}
  match result with
  | .ok outcome =>
    for line in outcome.console.lines log do
      IO.eprintln (shownOutside line)
    IO.print (shownOutside outcome.text)
    return UInt32.ofNat outcome.exit
  | .error e =>
    IO.eprintln (shownOutside e.message)
    return 1

end ClientGen

/-- Run the program. -/
def main (words : List String) : IO UInt32 :=
  ClientGen.runProgram words
