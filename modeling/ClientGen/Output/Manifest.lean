import ClientGen.Collections.Distinct
import ClientGen.Digest
import ClientGen.Document.Shown
import ClientGen.Json.Reader
import ClientGen.Json.Writer

/-!
# Manifests

A manifest remembers the digest of what was last written to each generated file. It is kept as JSON,
sorted by the keys of the files.
-/

namespace ClientGen.Output

open ClientGen.Document

/-- The digests of the generated files by their keys. -/
abbrev Manifest := List (String × String)

namespace Manifest

/-- The name of the file that a manifest is kept in. -/
def fileName : String := ".tsgen-manifest.json"

/-- Entries in the order of their keys. -/
def sorted (m : Manifest) : Manifest :=
  m.mergeSort fun a b => decide (a.1 ≤ b.1)

/-- The text of a manifest. -/
def text (m : Manifest) : String :=
  Json.write Json.Style.block (.record
    [("version", .int 1), ("files", .record (m.sorted.map fun (k, d) => (k, .str d)))]) ++ "\n"

/-- The manifest of a document. Where there are no files, it is empty. -/
def ofDocument (v : Value) : Manifest :=
  match v.get? "files" with
  | some (.map entries) => entries.map fun (k, d) => (k.shown, d.shown)
  | _ => []

/-- The manifest of a text, or why it is not read. -/
def read (text : String) : Except Json.ReadError Manifest :=
  (Json.read text).map ofDocument

end Manifest

end ClientGen.Output
