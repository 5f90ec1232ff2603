import ClientGen.Failure
import ClientGen.Digest
import ClientGen.Json.Reader
import ClientGen.Json.Writer

/-!
# The cache of fetched specifications

Texts that were fetched from addresses, in a directory. Every text has a second file beside it that
says what it is: its address, the time when it was fetched, and its digest. A text that does not
match what is said about it is not used.
-/

namespace ClientGen.Specification

open ClientGen.Document ClientGen.Machine

/-- A directory of fetched texts. -/
structure AddressCache where
  directory : String := ".tsgen-cache"
  deriving DecidableEq, Repr

namespace AddressCache

variable {m : Type → Type} [Monad m] [Machine m]

/-- The file of an address's text. -/
def textPath (c : AddressCache) (address : String) : String :=
  Path.below c.directory (Digest.ofText address ++ ".spec")

/-- The file of what is known about an address's text. -/
def metadataPath (c : AddressCache) (address : String) : String :=
  Path.below c.directory (Digest.ofText address ++ ".meta.json")

/-- What is known about a text. -/
def metadata (address text : String) (time : Nat) : Value :=
  .record [("url", .str address), ("timestamp", .int time),
    ("content_hash", .str (Digest.ofText text))]

/-- Whether what is known about a text names the address. -/
def names (metadata : Value) (address : String) : Bool :=
  metadata.getText? "url" == some address

/-- Whether what is known about a text fits it. -/
def fits (metadata : Value) (text : String) : Bool :=
  metadata.getText? "content_hash" == some (Digest.ofText text)

/-- What is known about an address's text. Where that cannot be read, nothing is. -/
def known? (c : AddressCache) (address : String) : Work m Failure (Option Value) := do
  let ignored : Work m Failure (Option Value) := do
    report .debug ("Ignoring unreadable cache metadata for " ++ address)
    return none
  match ← attempt (readText (c.metadataPath address)) with
  | .error (.file _) => ignored
  | .error e => throw (.ofTextError e)
  | .ok text =>
    match Json.read text with
    | .error (.malformed _) => ignored
    | .error (.digits f) => throw (.digits f)
    | .ok v => if v.isMap then return some v else throw (.metadata v)

/-- Refuse an address that has no form in UTF-8, and thus no digest. -/
def checked (address : String) : Work m TextError Unit := do
  if let .error h := Text.encode address then throw (.half h)

/-- Whether there is something at two paths. -/
def areThere (first second : String) : Work m FileError Bool := do
  if ← isThere first then isThere second else return false

/-- The text that was kept for an address. -/
def get? (c : AddressCache) (address : String) : Work m Failure (Option String) := do
  (checked address).adapt Failure.ofTextError
  if !(← (areThere (c.textPath address) (c.metadataPath address)).adapt Failure.file) then
    return none
  match ← c.known? address with
  | none => return none
  | some known =>
    if !names known address then return none
    let text ← (readText (c.textPath address)).adapt Failure.ofTextError
    if fits known text then return some text
    report .debug ("Cached spec for " ++ address ++ " failed its hash check")
    return none

/-- Keep the text of an address. -/
def put (c : AddressCache) (address text : String) : Work m TextError Unit := do
  checked address
  (makeDirectories (Path.tidy c.directory)).adapt TextError.file
  -- The text comes first: if nothing follows, what was known of another text no longer fits.
  writeText (c.textPath address) text
  let known := metadata address text (← asked time)
  writeText (c.metadataPath address) (Json.write Json.Style.block known)

/-- Remove all files of the directory. -/
def clear (c : AddressCache) : Work m FileError Unit := do
  let directory := Path.tidy c.directory
  if !(← isThere directory) then return
  for name in ← tried (Machine.names directory) do
    let path := Path.below directory name
    if ← isFile path then tried (removeFile path)

end AddressCache

end ClientGen.Specification
