import ClientGen.Machine.Files
import ClientGen.Output.Manifest

/-!
# Writing the output

Generated files are written so that nothing edited by hand is lost. A file whose text is not the one
that the manifest remembers was edited, and it is left alone unless the writer is told to go on.
-/

namespace ClientGen.Output

open ClientGen.Machine

/-- What became of a file. -/
inductive WriteStatus
  | written
  | unchanged
  | conflict
  deriving DecidableEq, Repr

/-- The name of a status. -/
def WriteStatus.name : WriteStatus → String
  | .written => "written"
  | .unchanged => "unchanged"
  | .conflict => "conflict"

/-- How files are written: whether edited ones are overwritten, whether a copy of what is
overwritten is kept, and whether nothing is written at all. -/
structure WriteOptions where
  force : Bool := false
  backup : Bool := false
  dryRun : Bool := false
  deriving DecidableEq, Repr

/-- A writer for the files below a directory. The manifest is `dirty` if it is not the one on the
disk. -/
structure Writer where
  root : String
  options : WriteOptions := {}
  manifest : Manifest := []
  dirty : Bool := false
  deriving DecidableEq, Repr

/-- The ending of a copy of what is overwritten. -/
def backupEnding : String := ".bak"

namespace Writer

variable {m : Type → Type} [Monad m] [Machine m]

/-- The file of the manifest. -/
def manifestPath (root : String) : String :=
  Path.below root Manifest.fileName

/-- The manifest of a directory. One that cannot be read counts as none, except for its bytes. -/
def loadManifest (root : String) : Work m TextError Manifest := do
  let path := manifestPath root
  if !(← (isThere path).adapt TextError.file) then return []
  match ← attempt (readText path) with
  | .error (.file e) =>
    report .warning ("Ignoring unreadable manifest " ++ path ++ ": " ++ e.message)
    return []
  | .error e => throw e
  | .ok text =>
    match Manifest.read text with
    | .ok manifest => return manifest
    -- A number that is too long to be read is no malformed text, and is not forgiven.
    | .error (.digits f) => throw (.digits f)
    | .error (.malformed message) =>
      report .warning ("Ignoring unreadable manifest " ++ path ++ ": " ++ message)
      return []

/-- A writer with the manifest of its directory. -/
def open_ (root : String) (options : WriteOptions) : Work m TextError Writer := do
  return { root, options, manifest := ← loadManifest root }

/-- The key of a file: its path below the root of the writer, or else its whole path. -/
def keyOf (here root full : String) : String :=
  (Path.within? (Path.resolve here root) full).getD full

/-- Whether a file with this text was edited since it was written. -/
def isEdited (w : Writer) (key existing : String) : Bool :=
  w.manifest.lookup key != some (Digest.ofText existing)

/-- Remember the text of a file. -/
def remember (w : Writer) (key content : String) : Writer :=
  { w with manifest := setEntry key (Digest.ofText content) w.manifest, dirty := true }

/-- Remember the text of a file, unless the manifest says the same already. -/
def adopt (w : Writer) (key content : String) : Writer :=
  if w.manifest.lookup key == some (Digest.ofText content) then w else w.remember key content

/-- Put a text into a file, whatever it held before. -/
def replace (w : Writer) (target key content : String) : Work m TextError Writer := do
  if w.options.backup && (← (isThere target).adapt TextError.file) then
    (copyFile target (Path.withName target (Path.lastName target ++ backupEnding))).adapt
      TextError.file
  (makeDirectories (Path.parent target)).adapt TextError.file
  writeText target content
  report .debug ("Wrote " ++ key)
  return w.remember key content

/-- Write one file. A text without a form in UTF-8 is refused before anything is looked at. -/
def write (w : Writer) (path content : String) : Work m TextError (WriteStatus × Writer) := do
  let target := Path.below w.root path
  let full ← (resolved target).adapt TextError.file
  -- Only the key is that of the file behind links; everything below uses the path as given.
  let key := keyOf (← asked here) w.root full
  if let .error h := Text.encode content then throw (.half h)
  if ← (isThere target).adapt TextError.file then
    let existing ← readText target
    if existing == content then return (.unchanged, w.adopt key content)
    if w.isEdited key existing && !w.options.force then
      report .warning
        ("Skipping " ++ key ++ ": it was modified since it was generated (use --force)")
      return (.conflict, w)
  if w.options.dryRun then
    report .info ("Would write " ++ key)
    return (.written, w)
  return (.written, ← w.replace target key content)

/-- Keep the manifest, if it has changed. -/
def saveManifest (w : Writer) : Work m TextError Writer := do
  if w.options.dryRun || !w.dirty then return w
  (makeDirectories w.root).adapt TextError.file
  writeText (manifestPath w.root) w.manifest.text
  return { w with dirty := false }

end Writer

end ClientGen.Output
