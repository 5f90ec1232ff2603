import ClientGen.Yaml.Lexer
import ClientGen.Yaml.Scalar

/-!
# Nodes of YAML

The nodes of a stream of tokens, each with a number. A collection holds the numbers of its parts, so
that an alias is one more place where a number stands, and a collection can be inside of itself. A
stream holds at most one document; without one it stands for null.

The tokens are looked at one by one. A fault of their stream shows where the token behind the last
one is asked for, and a fault of the document before that.
-/

namespace ClientGen.Yaml

/-- What a node holds: a text, or the numbers of other nodes. -/
inductive Content
  | scalar (text : String)
  | sequence (items : List Nat)
  | mapping (entries : List (Nat × Nat))
  deriving DecidableEq, Repr

/-- A node with its tag. -/
structure Node where
  tag : Tag
  content : Content
  deriving DecidableEq, Repr

/-- A node that is not written out. -/
def Node.empty : Node := ⟨.null, .scalar ""⟩

/-- The nodes of a document by number, the number of the outermost one, and all numbers in the order
in which the nodes end. -/
structure Composition where
  nodes : Array Node
  root : Nat
  ended : List Nat

/-- What the handles of tags stand for unless a directive says otherwise. -/
def usualHandles : List (String × String) :=
  [("!", "!"), ("!!", "tag:yaml.org,2002:")]

/-- Composing in progress: the tokens left with the fault behind them, what the handles of tags
stand for, the numbers of the anchors, the nodes met, and the numbers of those that have ended, the
last one first. -/
structure Composer where
  tokens : List Token
  fault : Option Fault
  handles : List (String × String) := usualHandles
  anchors : List (String × Nat) := []
  nodes : Array Node := #[]
  ended : List Nat := []

/-- A step of composing. -/
abbrev Composing := StateT Composer (Except Fault)

namespace Composing

/-- The text is no YAML. -/
def malformed {α : Type} : Composing α := throw .malformed

/-- The next token, which is none at the end. -/
def look : Composing (Option Token) := do
  let s ← get
  match s.tokens, s.fault with
  | t :: _, _ => return some t
  | [], some fault => throw fault
  | [], none => return none

/-- Go on behind the next token. -/
def skip : Composing Unit :=
  modify fun s => { s with tokens := s.tokens.drop 1 }

/-- Go on behind the next token if it is the given one; whether it is. -/
def took (t : Token) : Composing Bool := do
  if (← look) == some t then
    skip
    return true
  else return false

/-- Whether the next token is one of some, of which the end of the tokens is none. -/
def atOneOf (ts : List Token) : Composing Bool := do
  match ← look with
  | some t => return ts.contains t
  | none => return false

/-- The full name of a tag. -/
def fullTag (handle : Option String) (rest : String) : Composing String := do
  match handle with
  | none => return rest
  | some h =>
    match (← get).handles.lookup h with
    | some head => return head ++ rest
    | none => malformed

/-- The anchor and the tag in front of a node, in either order. What the handle of the tag stands
for is asked behind both. -/
def properties : Composing (Option String × Option String) := do
  match ← look with
  | some (.anchor name) =>
    skip
    match ← look with
    | some (.tag handle rest) =>
      skip
      return (some name, some (← fullTag handle rest))
    | _ => return (some name, none)
  | some (.tag handle rest) =>
    skip
    match ← look with
    | some (.anchor name) =>
      skip
      return (some name, some (← fullTag handle rest))
    | _ => return (none, some (← fullTag handle rest))
  | _ => return (none, none)

/-- The number of the node of an anchor. -/
def ofAnchor (name : String) : Composing Nat := do
  match (← get).anchors.lookup name with
  | some place => return place
  | none => malformed

/-- A new node with its anchor, which must be a new one. -/
def start (anchor : Option String) (node : Node) : Composing Nat := do
  let s ← get
  let place := s.nodes.size
  match anchor with
  | none => set { s with nodes := s.nodes.push node }
  | some name =>
    if (s.anchors.lookup name).isSome then malformed
    set { s with nodes := s.nodes.push node, anchors := (name, place) :: s.anchors }
  return place

/-- The end of a node. -/
def finish (place : Nat) (node : Node) : Composing Unit :=
  modify fun s => { s with nodes := s.nodes.setIfInBounds place node, ended := place :: s.ended }

/-- A new node that holds no other ones. -/
def leaf (anchor : Option String) (node : Node) : Composing Nat := do
  let place ← start anchor node
  finish place node
  return place

/-- A node that is not written out. -/
def absent : Composing Nat := leaf none .empty

/-- A new collection. It has its number and its anchor before its parts are read. -/
def collection (anchor : Option String) (tag : Tag) (parts : Composing Content) :
    Composing Nat := do
  let place ← start anchor ⟨tag, .sequence []⟩
  finish place ⟨tag, ← parts⟩
  return place

end Composing

/-- The tag of a collection: a lone exclamation mark counts as none. -/
def collectionTag (usual : Tag) : Option String → Tag
  | none => usual
  | some name => if name == "!" then usual else .ofName name

/-- The tag of a scalar. A plain one without a tag, and any one with a lone exclamation mark, gets
the tag that it looks like. -/
def scalarTag (text : String) (style : ScalarStyle) : Option String → Tag
  | none => if style == .plain then .ofPlain text else .text
  | some name => if name == "!" then .ofPlain text else .ofName name

open Composing

mutual

/-- The number of a node. Block collections are read if `block`, and a sequence without an
indentation of its own if `flat`. The budget bounds the number of steps, of which a token takes at
most three. -/
def composeNode (block flat : Bool) : Nat → Composing Nat
  | 0 => malformed
  | budget + 1 => do
    match ← look with
    | some (.alias name) =>
      skip
      ofAnchor name
    | _ =>
      let (anchor, tag) ← properties
      composeContent block flat anchor tag budget

/-- A node behind its anchor and its tag. With one of them it may be empty. -/
def composeContent (block flat : Bool) (anchor tag : Option String) : Nat → Composing Nat
  | 0 => malformed
  | budget + 1 => do
    match ← look with
    | some (.scalar text style) =>
      skip
      leaf anchor ⟨scalarTag text style tag, .scalar text⟩
    | some .flowSequenceStart =>
      skip
      collection anchor (collectionTag .sequence tag) (.sequence <$> flowItems true budget)
    | some .flowMappingStart =>
      skip
      collection anchor (collectionTag .mapping tag) (.mapping <$> flowEntries true budget)
    | other =>
      if flat && other == some .blockEntry then
        collection anchor (collectionTag .sequence tag) (.sequence <$> flatItems budget)
      else if block && other == some .blockSequenceStart then
        skip
        collection anchor (collectionTag .sequence tag) (.sequence <$> blockItems budget)
      else if block && other == some .blockMappingStart then
        skip
        collection anchor (collectionTag .mapping tag) (.mapping <$> blockEntries budget)
      else if anchor.isSome || tag.isSome then
        leaf anchor ⟨scalarTag "" .plain tag, .scalar ""⟩
      else malformed

/-- The items of a block sequence. -/
def blockItems : Nat → Composing (List Nat)
  | 0 => malformed
  | budget + 1 => do
    if ← took .blockEntry then
      let item ←
        if ← atOneOf [.blockEntry, .blockEnd] then absent
        else composeNode true false budget
      return item :: (← blockItems budget)
    else if ← took .blockEnd then return []
    else malformed

/-- The items of a sequence that has no indentation of its own and ends where no item follows. -/
def flatItems : Nat → Composing (List Nat)
  | 0 => malformed
  | budget + 1 => do
    if ← took .blockEntry then
      let item ←
        if ← atOneOf [.blockEntry, .key, .value, .blockEnd] then absent
        else composeNode true false budget
      return item :: (← flatItems budget)
    else return []

/-- The entries of a block mapping. -/
def blockEntries : Nat → Composing (List (Nat × Nat))
  | 0 => malformed
  | budget + 1 => do
    if ← took .key then
      let key ← blockPart budget
      let value ← if ← took .value then blockPart budget else absent
      return (key, value) :: (← blockEntries budget)
    else if ← took .blockEnd then return []
    else malformed

/-- The key or the value of an entry of a block mapping. -/
def blockPart : Nat → Composing Nat
  | 0 => malformed
  | budget + 1 => do
    if ← atOneOf [.key, .value, .blockEnd] then absent
    else composeNode true true budget

/-- The items of a flow sequence. An item with a colon in it is a mapping of one entry. -/
def flowItems (first : Bool) : Nat → Composing (List Nat)
  | 0 => malformed
  | budget + 1 => do
    if ← took .flowSequenceEnd then return []
    else
      if !first then
        if !(← took .flowEntry) then malformed
      if ← took .flowSequenceEnd then return []
      else
        let item ←
          if ← took .key then
            collection none .mapping
              ((fun entry => .mapping [entry]) <$> flowEntryParts .flowSequenceEnd budget)
          else composeNode false false budget
        return item :: (← flowItems false budget)

/-- The entries of a flow mapping. A node alone is a key without a value. -/
def flowEntries (first : Bool) : Nat → Composing (List (Nat × Nat))
  | 0 => malformed
  | budget + 1 => do
    if ← took .flowMappingEnd then return []
    else
      if !first then
        if !(← took .flowEntry) then malformed
      if ← took .flowMappingEnd then return []
      else
        let entry ←
          if ← took .key then flowEntryParts .flowMappingEnd budget
          else do
            let key ← composeNode false false budget
            pure (key, ← absent)
        return entry :: (← flowEntries false budget)

/-- The key and the value of an entry of a flow collection that ends with the token `close`. -/
def flowEntryParts (close : Token) : Nat → Composing (Nat × Nat)
  | 0 => malformed
  | budget + 1 => do
    let key ←
      if ← atOneOf [.value, .flowEntry, close] then absent
      else composeNode false false budget
    if ← took .value then
      let value ←
        if ← atOneOf [.flowEntry, close] then absent
        else composeNode false false budget
      return (key, value)
    else return (key, ← absent)

end

/-- Whether a token can only stand outside of documents. -/
def Token.isOutside : Token → Bool
  | .versionDirective _ _ => true
  | .tagDirective _ _ => true
  | .otherDirective => true
  | .documentStart => true
  | .documentEnd => true
  | _ => false

/-- Read directives. There is at most one version, with the major number one, and one definition of
a handle. The budget is the number of tokens left and one more. -/
def composeDirectives (versioned : Bool) (handles : List (String × String)) :
    Nat → Composing (List (String × String))
  | 0 => malformed
  | budget + 1 => do
    match ← look with
    | some (.versionDirective major _) =>
      skip
      if versioned || major != 1 then malformed
      else composeDirectives true handles budget
    | some (.tagDirective handle head) =>
      skip
      if (handles.lookup handle).isSome then malformed
      else composeDirectives versioned ((handle, head) :: handles) budget
    | some .otherDirective =>
      skip
      composeDirectives versioned handles budget
    | _ => return handles

/-- The outermost node of a document that starts with directives or with its mark. -/
def composeMarked (budget : Nat) : Composing Nat := do
  let handles ← composeDirectives false [] budget
  modify fun s => { s with handles := handles ++ usualHandles }
  if !(← took .documentStart) then malformed
  else
    if (← look).all Token.isOutside then absent
    else composeNode true false budget

/-- The outermost node of the document of the stream. -/
def composeRoot (budget : Nat) : Composing Nat := do
  match ← look with
  | none => absent
  | some first =>
    if first.isOutside && first != .documentEnd then composeMarked budget
    else composeNode true false budget

/-- The end of the stream, behind marks of the end of its document. The budget is the number of
tokens left and one more. -/
def composeEnd : Nat → Composing Unit
  | 0 => malformed
  | budget + 1 => do
    match ← look with
    | none => return
    | some .documentEnd =>
      skip
      composeEnd budget
    | some _ =>
      discard (composeDirectives false [] (budget + 1))
      malformed

/-- The nodes of a stream. -/
def Composition.ofTokens (stream : TokenStream) : Except Fault Composition := do
  let budget := 3 * stream.tokens.length + 3
  let compose : Composing Nat := do
    let root ← composeRoot budget
    composeEnd budget
    return root
  let (root, s) ← compose.run { tokens := stream.tokens, fault := stream.fault }
  return { nodes := s.nodes, root, ended := s.ended.reverse }

end ClientGen.Yaml
