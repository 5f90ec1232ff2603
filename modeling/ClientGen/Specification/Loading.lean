import ClientGen.Specification.AddressCache
import ClientGen.Specification.FileCache

/-!
# Loading specifications

The document of a source, which is a file or an address. The documents of files are kept while a run
lasts, and the texts of addresses are kept in a directory if that is asked for.
-/

namespace ClientGen.Specification

open ClientGen.Document ClientGen.Machine

variable {m : Type → Type} [Monad m] [Machine m]

/-- Why a response is no answer: the number says that the request or the server failed. -/
def refusal? (address : String) (r : Response) : Option String :=
  let told (kind : String) : Option String :=
    some (toString r.status ++ " " ++ kind ++ " Error: " ++ r.reason ++ " for url: " ++ address)
  if 400 ≤ r.status ∧ r.status < 500 then told "Client"
  else if 500 ≤ r.status ∧ r.status < 600 then told "Server"
  else none

/-- The text at an address. -/
def fetchText (address : String) : Work m SchemaError String := do
  match ← asked (fetch address) with
  | .error cause => throw (.load (.unfetched cause) address)
  | .ok r =>
    match refusal? address r with
    | some cause => throw (.load (.unfetched cause) address)
    | none => return r.text

/-- The document at an address. Only a text that is a document is kept. -/
def loadAddress (cache : Option AddressCache) (address : String) : Work m Failure Value := do
  let kept ← match cache with
    | some c => c.get? address
    | none => pure none
  match kept with
  | some text =>
    report .debug ("Using cached spec for " ++ address)
    liftM (ofText text address false)
  | none =>
    report .info ("Fetching spec from " ++ address)
    let text ← (fetchText address).adapt Failure.schema
    let document ← liftM (ofText text address false)
    match cache with
    | some c => (c.put address text).adapt Failure.ofTextError
    | none => pure ()
    return document

/-- The document of a file that is there. -/
def loadFile (path : String) : Work (StateT FileCache m) Failure Value := do
  if !(← (isThere path).adapt Failure.file) then throw (.schema (.load .missing path))
  getFile path

/-- The document of a source. Relative paths are taken from the directory `base`. -/
def load (source : String) (cache : Option AddressCache) (base : Option String) :
    Work (StateT FileCache m) Failure Value :=
  if isAddress source then loadAddress cache source
  else
    match base with
    | some directory => loadFile (Path.below directory source)
    | none => loadFile (Path.tidy source)

/-- The document of a source, through a cache of the caller's unless that is empty. -/
def loadThrough (own : FileCache) (source : String) (cache : Option AddressCache)
    (base : Option String) : Work (StateT FileCache m) Failure (Value × FileCache) :=
  if own.isEmpty then do return (← load source cache base, own)
  else
    ExceptT.mk fun log shared => do
      let ((result, log), own) ← ((load source cache base).run.run log).run own
      return ((result.map fun document => (document, own), log), shared)

end ClientGen.Specification
