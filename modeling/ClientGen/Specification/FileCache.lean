import ClientGen.Failure
import ClientGen.Json.Reader
import ClientGen.Yaml.Reader

/-!
# The cache of specification files

Documents that were read from files, so that a file that has not changed since is not read again. A
file counts as changed when its size or the time of its last change is another one. A cache has room
for a number of documents, and the oldest one makes room for a new one.

The text of a specification is in JSON or in YAML, and is a map.
-/

namespace ClientGen.Specification

open ClientGen.Document

/-! ### The text of a specification -/

/-- Whether a source is an address, and not a path. -/
def isAddress (source : String) : Bool :=
  "http://".toList.isPrefixOf source.toList || "https://".toList.isPrefixOf source.toList

/-- The value of a text in YAML that was found at `source`; `otherwise` is what is wrong with a text
that is no YAML. -/
def ofYaml (text source : String) (otherwise : LoadFault) : Except Failure Value :=
  match Yaml.read text with
  | .ok v => .ok v
  | .error .malformed => .error (.schema (.load otherwise source))
  | .error fault => .error (.yaml fault)

/-- The value of a text in YAML, or, unless YAML is what it should be, in JSON. -/
def valueOf (text source : String) (yaml : Bool) : Except Failure Value :=
  if yaml then ofYaml text source .notYaml
  else
    match Json.read text with
    | .ok v => .ok v
    | .error (.digits f) => .error (.digits f)
    | .error (.malformed _) => ofYaml text source .neither

/-- The document of a text that was found at `source`. -/
def ofText (text source : String) (yaml : Bool) : Except Failure Value := do
  let v ← valueOf text source yaml
  if v.isMap then .ok v else .error (.schema (.load .rootNotMap source))

/-! ### The cache -/

open ClientGen.Machine

/-- What tells one version of a file from another. -/
structure FileStamp where
  path : String
  status : Status
  deriving DecidableEq, Repr

/-- A document with the version of the file that it was read from. -/
structure CachedDocument where
  document : Value
  stamp : FileStamp

/-- A cache: documents by the paths of their files, the oldest first. -/
structure FileCache where
  capacity : Nat := 32
  entries : List (String × CachedDocument) := []

/-- The endings of YAML files, whatever their case. -/
def yamlEndings : List String := [".yml", ".yaml"]

/-- Whether a file should hold YAML. -/
def isYamlFile (path : String) : Bool :=
  yamlEndings.contains (String.ofList ((Path.ending path).toList.map Char.toLower))

namespace FileCache

/-- The number of documents. -/
def size (c : FileCache) : Nat :=
  c.entries.length

/-- Whether there are no documents. -/
def isEmpty (c : FileCache) : Bool :=
  c.entries.isEmpty

/-- Forget the document of a path. -/
def forget (c : FileCache) (path : String) : FileCache :=
  { c with entries := c.entries.filter fun (p, _) => p != path }

/-- Forget all documents. -/
def clear (c : FileCache) : FileCache :=
  { c with entries := [] }

/-- Keep a document. If there is no room, the oldest one goes first; a cache that has room for none
cannot keep any. -/
def keep (c : FileCache) (path : String) (d : CachedDocument) : Except Failure FileCache :=
  if c.size < c.capacity then .ok { c with entries := setEntry path d c.entries }
  else
    -- The oldest goes even if `path` has an entry already, and no room is needed.
    match c.entries with
    | [] => .error .noRoom
    | _ :: rest => .ok { c with entries := setEntry path d rest }

/-- The document of a path in a version of its file. -/
def lookup? (c : FileCache) (stamp : FileStamp) : Option Value :=
  match c.entries.lookup stamp.path with
  | some d => if d.stamp == stamp then some d.document else none
  | none => none

variable {m : Type → Type} [Monad m] [Machine m]

/-- Forget the document of a path, or all documents where none is given. -/
def invalidate (c : FileCache) : Option String → Work m Failure FileCache
  | none => return c.clear
  | some path => return c.forget (← (resolved (Path.tidy path)).adapt Failure.file)

/-- The document of a file, called `path` in messages. -/
def readDocument (path full : String) : Work m Failure Value := do
  let unreadable (e : FileError) : Failure := .schema (.load (.unreadable e) path)
  let bytes ← (tried (readBytes full)).adapt unreadable
  let text ← liftM ((Text.decode bytes).mapError Failure.encoding)
  liftM (ofText text path (isYamlFile full))

/-- The document of a file, read again only if the file has changed, and the cache with it. -/
def get (c : FileCache) (path : String) : Work m Failure (Value × FileCache) := do
  let path := Path.tidy path
  let full ← (resolved path).adapt Failure.file
  let unreadable (e : FileError) : Failure := .schema (.load (.unreadable e) path)
  let stamp : FileStamp := ⟨full, ← (tried (status full)).adapt unreadable⟩
  match c.lookup? stamp with
  | some document => return (document, c)
  | none =>
    let document ← readDocument path full
    return (document, ← liftM (c.keep full ⟨document, stamp⟩))

end FileCache

/-! ### A cache that goes along with work -/

variable {m : Type → Type} [Monad m] [Machine m]

/-- The document of a file, through the cache that goes along. -/
def getFile (path : String) : Work (StateT FileCache m) Failure Value := do
  let (document, cache) ← (← asked (get : StateT FileCache m FileCache)).get path
  asked (set cache : StateT FileCache m Unit)
  return document

/-- Forget the document of a path, or all documents, in the cache that goes along. -/
def forgetFile (path : Option String) : Work (StateT FileCache m) Failure Unit := do
  let cache ← (← asked (get : StateT FileCache m FileCache)).invalidate path
  asked (set cache : StateT FileCache m Unit)

end ClientGen.Specification
