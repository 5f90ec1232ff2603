import ClientGen.Yaml.Node

/-!
# Reading YAML

The value of the nodes of a document. A scalar has its value at once. A collection is read later:
when it is met, it is put at the end of a line, and the collections are read as they stand in the
line, each before those that are met inside of it. Of several faults the one that is met first
shows.

Entries that are merged into a mapping stand in front of its own ones, so that its own values count;
of several mappings in a list the first one counts most. Merging changes the nodes: what is read
later of a mapping is what it has become. Only scalars are keys.

While collections are read, `Value.inside` and the number of a node stand for its value. In the end
the values are put together, those of the inner nodes first, and what is inside of itself becomes a
knot.
-/

namespace ClientGen.Yaml

open ClientGen.Document

/-- Reading in progress: the nodes as they have become, how many entries should be merged in all,
the values of the nodes that have been met, the collections that have been met in this order, and
what the ones read so far hold. -/
structure Reader where
  nodes : Array Node
  merges : Nat
  known : Array (Option Value)
  line : Array Nat := #[]
  held : Array Value

/-- A step of reading. -/
abbrev Reading := StateT Reader (Except Fault)

/-- Whether nodes with a tag are collections, and so are read later than they are met. -/
def Tag.isOfCollection : Tag → Bool
  | .sequence => true
  | .mapping => true
  | .set => true
  | .entries => true
  | _ => false

/-- Whether nodes with a tag have a value at all. -/
def Tag.isRead : Tag → Bool
  | .merge => false
  | .value => false
  | .other => false
  | _ => true

/-- Whether a value can be a key. -/
def isKey : Value → Bool
  | .inside _ => false
  | _ => true

namespace Reading

/-- The text is no YAML. -/
def malformed {α : Type} : Reading α := throw .malformed

/-- The node of a number. -/
def node (place : Nat) : Reading Node := do
  match (← get).nodes[place]? with
  | some node => return node
  | none => malformed

/-- Change a node. -/
def setNode (place : Nat) (node : Node) : Reading Unit :=
  modify fun s => { s with nodes := s.nodes.setIfInBounds place node }

/-- The tag of a node. -/
def tagOf (place : Nat) : Reading Tag :=
  return (← node place).tag

/-- The entries of a node, which has to be a mapping. -/
def entriesOf (place : Nat) : Reading (List (Nat × Nat)) := do
  match (← node place).content with
  | .mapping entries => return entries
  | _ => malformed

/-! ### Scalars -/

/-- The text of a node that should be a scalar. A mapping may hold it under an equals sign. The
budget is the number of nodes and one more. -/
def textOf : Nat → Nat → Reading String
  | 0, _ => throw .endless
  | budget + 1, place => do
    match (← node place).content with
    | .scalar text => return text
    | .sequence _ => malformed
    | .mapping entries =>
      match ← entries.findM? fun (k, _) => return (← tagOf k) == .value with
      | some (_, v) => textOf budget v
      | none => malformed

/-- The value of a node with the tag of a scalar. A NaN of its own is marked with its number. -/
def scalar (place : Nat) (node : Node) : Reading Value := do
  if !node.tag.isRead then malformed
  else
    let text ← textOf ((← get).nodes.size + 1) place
    match node.tag, node.content with
    | .timestamp, .mapping _ => throw .timeInMapping
    | tag, _ => liftM (tag.valueOf (place + 1) text)

/-- The value of a node, as far as it is known. -/
def value (place : Nat) : Reading Value := do
  match (← get).known[place]? with
  | some (some v) => return v
  | _ =>
    let n ← node place
    let v ← if n.tag.isOfCollection then pure (Value.inside place) else scalar place n
    modify fun s => { s with
      known := s.known.setIfInBounds place (some v)
      line := if n.tag.isOfCollection then s.line.push place else s.line }
    return v

/-! ### Collections -/

/-- A mark of a value that is a key becomes text. -/
def markAsText (place : Nat) : Reading Unit := do
  let n ← node place
  if n.tag == .value then setNode place { n with tag := .text }

/-- The first entry that should be merged, and the entries without it. -/
def cutMerge : List (Nat × Nat) → Reading (Option (Nat × List (Nat × Nat)))
  | [] => return none
  | (k, v) :: rest => do
    if (← tagOf k) == .merge then return some (v, rest)
    else return (← cutMerge rest).map fun (source, others) => (source, (k, v) :: others)

/-- Take the entries that should be merged into a mapping into it, one after another; `merged` are
those that have been. The budget is the number of all such entries and one more. -/
def flatten : Nat → Nat → List (Nat × Nat) → Reading Unit
  | 0, _, _ => malformed
  | budget + 1, place, merged => do
    let tag ← tagOf place
    match ← cutMerge (← entriesOf place) with
    | none =>
      let own ← entriesOf place
      own.forM fun (k, _) => markAsText k
      setNode place ⟨tag, .mapping (merged ++ own)⟩
    | some (source, others) =>
      setNode place ⟨tag, .mapping others⟩
      match (← node source).content with
      | .scalar _ => malformed
      | .mapping _ =>
        flatten budget source []
        flatten budget place (merged ++ (← entriesOf source))
      | .sequence items =>
        let sources ← items.mapM fun item => do
          discard (entriesOf item)
          flatten budget item []
          entriesOf item
        flatten budget place (merged ++ sources.reverse.flatten)

/-- The entries of a mapping with those that are merged into it. -/
def entries (place : Nat) : Reading (List (Value × Value)) := do
  discard (entriesOf place)
  flatten ((← get).merges + 1) place []
  (← entriesOf place).foldlM (fun acc (k, v) => do
    let key ← value k
    if isKey key then return Value.insert key (← value v) acc else malformed) []

/-- The items of a sequence. -/
def items (place : Nat) : Reading (List Nat) := do
  match (← node place).content with
  | .sequence items => return items
  | _ => malformed

/-- The only entry of a mapping. -/
def onlyEntry (place : Nat) : Reading Value := do
  match ← entriesOf place with
  | [(k, v)] => return .pair (← value k) (← value v)
  | _ => malformed

/-- What a collection holds. -/
def collection (place : Nat) : Reading Value := do
  match ← tagOf place with
  | .sequence => return .list (← (← items place).mapM value)
  | .entries => return .list (← (← items place).mapM onlyEntry)
  | .mapping => return .map (← entries place)
  | .set => return .set ((← entries place).map Prod.fst)
  | _ => malformed

/-- Read the collections of the line from an index on. The budget is the number of nodes, of which
each stands in the line once at most. -/
def collections : Nat → Nat → Reading Unit
  | 0, _ => return
  | budget + 1, index => do
    match (← get).line[index]? with
    | none => return
    | some place =>
      let v ← collection place
      modify fun s => { s with held := s.held.setIfInBounds place v }
      collections budget (index + 1)

end Reading

/-! ### Putting values together -/

/-- A member of a collection with the values of nodes in their places, if all are known. -/
def settled? (known : Nat → Option Value) : Value → Option Value
  | .inside place => known place
  | .pair k v => return .pair (← settled? known k) (← settled? known v)
  | v => some v

/-- What a collection holds with the values of nodes in their places, if all are known. -/
def settledPart? (known : Nat → Option Value) : Value → Option Value
  | .list items => .list <$> items.mapM (settled? known)
  | .map entries => .map <$> entries.mapM fun (k, v) => return (k, ← settled? known v)
  | v => some v

/-- The values of nodes, and the numbers of the nodes of a knot. -/
structure Assembly where
  values : Array (Option Value)
  knotted : List Nat := []

/-- The value of a collection if those of the nodes in it are known, and otherwise it goes into the
knot. -/
def Assembly.add (held : Array Value) (a : Assembly) (place : Nat) : Assembly :=
  match (held[place]?).bind (settledPart? fun n => (a.values[n]?).join) with
  | some v => { a with values := a.values.setIfInBounds place (some v) }
  | none => { a with knotted := place :: a.knotted }

/-- A value with the knot in the places of its nodes. -/
def Assembly.finish (held : Array Value) (a : Assembly) (v : Value) : Value :=
  let order := a.knotted.reverse
  let numberOf := order.zipIdx
  let known (n : Nat) : Option Value :=
    match (a.values[n]?).join with
    | some v => some v
    | none => some (.inside ((numberOf.lookup n).getD 0))
  let parts := order.map fun place =>
    ((held[place]?).bind (settledPart? known)).getD .null
  match (settled? known v).getD .null with
  | .inside place => .knot (4 * parts.length + 16) parts place
  | v => v

/-- How many entries of mappings should be merged into them. -/
def Composition.merges (c : Composition) : Nat :=
  c.nodes.foldl (fun n node =>
    match node.content with
    | .mapping entries => n + entries.countP fun (k, _) => (c.nodes[k]?).any (·.tag == .merge)
    | _ => n) 0

/-- The value of the nodes of a document. -/
def Composition.value (c : Composition) : Except Fault Value := do
  let size := c.nodes.size
  let reading : Reading Value := do
    let root ← Reading.value c.root
    Reading.collections size 0
    return root
  let (root, s) ← reading.run
    { nodes := c.nodes, merges := c.merges, known := Array.replicate size none
      held := Array.replicate size .null }
  let isMet (place : Nat) : Bool := ((s.known[place]?).join).any (!isKey ·)
  let met := c.ended.filter isMet
  let a := met.foldl (Assembly.add s.held) { values := Array.replicate size none }
  return a.finish s.held root

/-- The value of a text, if it is YAML. -/
def read (text : String) : Except Fault Value := do
  (← Composition.ofTokens (TokenStream.ofText text.toList)).value

end ClientGen.Yaml
