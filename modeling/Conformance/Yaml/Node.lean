import Conformance.Yaml.Tag
import Conformance.Yaml.Token

/-!
# Nodes — the graph of a document

A node is a scalar, a sequence or a mapping, with its tag. Nodes refer to
each other by their places, so that a node with a name can be met in many
places and even within itself. `Document.ofSource` reads a text as at most one
document, and scans a token only when it is asked for: of several faults the
first in the text counts. A name may be given to one node alone, and stands
for that node afterwards. How deep nodes may be nested is up to the caller.
-/


namespace Conformance

namespace Yaml

/-- The place of a node in its document. -/
abbrev NodeId := Nat

/-- What a node holds. -/
inductive Body where
  | scalar (text : String)
  | sequence (items : List NodeId)
  | mapping (pairs : List (NodeId × NodeId))
deriving DecidableEq, Repr, Inhabited

/-- Whether something is a scalar. -/
def Body.isScalar : Body → Bool
  | .scalar _ => true
  | _ => false

/-- A node of a document. -/
structure Node where
  tag : Tag
  body : Body
deriving DecidableEq, Repr

/-- The empty scalar. -/
def Node.empty : Node := ⟨.null, .scalar ""⟩

instance : Inhabited Node := ⟨Node.empty⟩

/-- The nodes of a document, and which of them it is. -/
structure Document where
  nodes : Array Node
  root : NodeId

namespace Document

/-- The state of reading: that of scanning, the nodes so far, those that have
names, and the stems of tag handles. -/
structure State where
  reading : Reading
  nodes : Array Node := #[]
  anchors : List (String × NodeId) := []
  handles : List (String × String) := [("!", "!"), ("!!", "tag:yaml.org,2002:")]

/-- A step of reading. -/
abbrev Reader := StateT State (Except Fault)

namespace Reader

/-- Refuses the document. -/
def refuse {α : Type} : Reader α := throw .malformed

/-- A step of scanning. -/
def scan {α : Type} (step : Scanner α) : Reader α := fun s => do
  let (a, reading) ← step.run s.reading
  return (a, { s with reading })

/-- A bound on the number of tokens. -/
def fuel : Reader Nat := return 8 * (← get).reading.source.size + 8

/-- The token that comes next. -/
def peek : Reader (Option Token) := scan Scanner.peek

/-- Passes over the token that comes next. -/
def drop : Reader Unit := scan Scanner.drop

/-- Passes over a token if it comes next. -/
def accept (t : Token) : Reader Bool := do
  if (← peek) = some t then
    drop
    return true
  else return false

/-- Passes over a token that has to come next. -/
def expect (t : Token) : Reader Unit := do
  if !(← accept t) then refuse

/-- What a step gives until it gives nothing; it is told whether it is the
first. -/
def many {α : Type} (step : Bool → Reader (Option α)) : Bool → Nat → Reader (List α)
  | _, 0 => refuse
  | first, fuel + 1 => do
    match ← step first with
    | none => return []
    | some a => return a :: (← many step false fuel)

/-- Adds a node, under a name if it has one. -/
def add (anchor : Option String) (node : Node) : Reader NodeId := do
  let id := (← get).nodes.size
  modify fun s => { s with
    nodes := s.nodes.push node
    anchors := match anchor with
      | none => s.anchors
      | some a => (a, id) :: s.anchors }
  return id

/-- Adds an empty scalar. -/
def addEmpty : Reader NodeId := add none .empty

/-- Adds a collection, which has its name while its entries are read. -/
def collection {α : Type} (anchor : Option String) (tag : Tag) (body : List α → Body)
    (entry : Bool → Reader (Option α)) : Reader NodeId := do
  let id ← add anchor ⟨tag, body []⟩
  let content ← many entry true (← fuel)
  modify fun s => { s with nodes := s.nodes.setIfInBounds id ⟨tag, body content⟩ }
  return id

/-- The name and the tag in front of a node, in either order. -/
def properties : Reader (Option String × Option (Option String × String)) := do
  match ← peek with
  | some (.anchor a) =>
    drop
    match ← peek with
    | some (.tag handle suffix) =>
      drop
      return (some a, some (handle, suffix))
    | _ => return (some a, none)
  | some (.tag handle suffix) =>
    drop
    match ← peek with
    | some (.anchor a) =>
      drop
      return (some a, some (handle, suffix))
    | _ => return (none, some (handle, suffix))
  | _ => return (none, none)

/-- A tag with its handle replaced by the stem that it stands for. -/
def resolve (tag : Option (Option String × String)) : Reader (Option String) := do
  match tag with
  | none => return none
  | some (none, suffix) => return some suffix
  | some (some handle, suffix) =>
    match (← get).handles.lookup handle with
    | some stem => return some (stem ++ suffix)
    | none => refuse

/-- The tag of a scalar. The mark alone asks for the shape to be looked at,
in quotes too. -/
def scalarTag (written : Option String) (plain : Bool) (text : String) : Tag :=
  match written with
  | none => if plain then .ofPlain text else .text
  | some "!" => .ofPlain text
  | some uri => .ofUri uri

/-- The tag of a collection. -/
def collectionTag (written : Option String) (implied : Tag) : Tag :=
  match written with
  | none => implied
  | some "!" => implied
  | some uri => .ofUri uri

/-- An empty scalar, which has a name or a tag. -/
def bare (anchor tag : Option String) : Reader NodeId :=
  if anchor.isSome || tag.isSome then add anchor ⟨scalarTag tag true "", .scalar ""⟩
  else refuse

/-! ## Entries -/

/-- A node, or an empty one before the marks that can follow it. -/
def part (ends : List Token) (node : Reader NodeId) : Reader NodeId := do
  match ← peek with
  | some t => if ends.contains t then addEmpty else node
  | none => node

/-- A value behind its mark, or an empty one. -/
def valuePart (ends : List Token) (node : Reader NodeId) : Reader NodeId := do
  if ← accept .value then part ends node else addEmpty

/-- An entry of a block, or its end. -/
def blockItem (node : Reader NodeId) (_ : Bool) : Reader (Option NodeId) := do
  if ← accept .blockEntry then return some (← part [.blockEntry, .blockEnd] node)
  expect .blockEnd
  return none

/-- An entry of a sequence without indentation, which ends where no other
follows. -/
def indentlessItem (node : Reader NodeId) (_ : Bool) : Reader (Option NodeId) := do
  if ← accept .blockEntry then
    return some (← part [.blockEntry, .key, .value, .blockEnd] node)
  return none

/-- A pair of a block, or its end. -/
def blockPair (node : Reader NodeId) (_ : Bool) : Reader (Option (NodeId × NodeId)) := do
  let ends := [Token.key, .value, .blockEnd]
  if ← accept .key then
    let key ← part ends node
    return some (key, ← valuePart ends node)
  expect .blockEnd
  return none

/-- Moves to the next entry between brackets, behind the mark between two, and
says whether there is one. -/
def flowNext (last : Token) (first : Bool) : Reader Bool := do
  if ← accept last then return false
  if !first then
    expect .flowEntry
    if ← accept last then return false
  return true

/-- An entry between brackets, or the closing one. A pair among them is a
mapping of its own. -/
def flowItem (node inPair : Reader NodeId) (first : Bool) : Reader (Option NodeId) := do
  if !(← flowNext .flowSequenceEnd first) then return none
  if ← accept .key then
    let ends := [Token.flowEntry, .flowSequenceEnd]
    let key ← part (.value :: ends) inPair
    let value ← valuePart ends inPair
    return some (← add none ⟨.mapping, .mapping [(key, value)]⟩)
  return some (← node)

/-- A pair between braces, or the closing one. A key among them may have no
value. -/
def flowPair (node : Reader NodeId) (first : Bool) : Reader (Option (NodeId × NodeId)) := do
  if !(← flowNext .flowMappingEnd first) then return none
  let ends := [Token.flowEntry, .flowMappingEnd]
  if ← accept .key then
    let key ← part (.value :: ends) node
    return some (key, ← valuePart ends node)
  let key ← node
  return some (key, ← addEmpty)

end Reader

open Reader

/-! ## Nodes -/

/-- A node, within some depth. Collections without brackets may stand only in
blocks, and a sequence without indentation only in a mapping. -/
def readNode (block indentless : Bool) : Nat → Reader NodeId
  | 0 => throw (.unrepresentable .tooDeep)
  | depth + 1 => do
    let next ← peek
    if let some (.alias a) := next then
      drop
      match (← get).anchors.lookup a with
      | some id => return id
      | none => refuse
    let (anchor, tag) ← properties
    let tag ← resolve tag
    let next ← peek
    if let some a := anchor then
      if ((← get).anchors.lookup a).isSome then refuse
    let sequence := collection anchor (collectionTag tag .sequence) .sequence
    let mapping := collection anchor (collectionTag tag .mapping) .mapping
    let inPair : Reader NodeId :=
      match depth with
      | 0 => throw (.unrepresentable .tooDeep)
      | inner + 1 => readNode false false inner
    match next with
    | some .blockEntry =>
      if indentless then sequence (indentlessItem (readNode true false depth))
      else bare anchor tag
    | some (.scalar text plain) =>
      drop
      add anchor ⟨scalarTag tag plain text, .scalar text⟩
    | some .flowSequenceStart =>
      drop
      sequence (flowItem (readNode false false depth) inPair)
    | some .flowMappingStart =>
      drop
      mapping (flowPair (readNode false false depth))
    | some .blockSequenceStart =>
      if block then
        drop
        sequence (blockItem (readNode true false depth))
      else bare anchor tag
    | some .blockMappingStart =>
      if block then
        drop
        mapping (blockPair (readNode true true depth))
      else bare anchor tag
    | _ => bare anchor tag

/-! ## Documents -/

/-- Passes over the ends of documents. -/
def skipEnds : Nat → Reader Unit
  | 0 => return ()
  | fuel + 1 => do if ← accept .documentEnd then skipEnds fuel

/-- The directives before a document: at most one version, of the first
major number, and each tag handle once. -/
def readDirectives : Nat → Bool → List (String × String) → Reader Unit
  | 0, _, _ => refuse
  | fuel + 1, versioned, handles => do
    match ← peek with
    | some (.directive (.version major)) =>
      drop
      if versioned || major ≠ 1 then refuse
      readDirectives fuel true handles
    | some (.directive (.tag handle stem)) =>
      drop
      if (handles.lookup handle).isSome then refuse
      readDirectives fuel versioned ((handle, stem) :: handles)
    | some (.directive .other) =>
      drop
      readDirectives fuel versioned handles
    | _ => modify fun s => { s with handles := handles ++ s.handles }

/-- The start of a document that is marked, if one comes before the end. -/
def openDocument : Reader Bool := do
  skipEnds (← fuel)
  if (← peek).isNone then return false
  readDirectives (← fuel) false []
  expect .documentStart
  return true

/-- The root of a document, behind its start. Behind a mark it may be missing. -/
def readRoot (depth : Nat) (marked : Bool) : Reader NodeId := do
  let root := readNode true false depth
  if !marked then return ← root
  match ← peek with
  | some (.directive _) => addEmpty
  | some .documentStart => addEmpty
  | some .documentEnd => addEmpty
  | none => addEmpty
  | _ => root

/-- The root of the document of a text, if there is one; there may not be
two. -/
def readDocument (depth : Nat) : Reader (Option NodeId) := do
  let marked := match ← peek with
    | some (.directive _) => true
    | some .documentStart => true
    | none => true
    | _ => false
  if marked then
    if !(← openDocument) then return none
  let root ← readRoot depth marked
  if ← openDocument then refuse
  return some root

/-- The document of a text, with nodes nested no deeper than `depth`. -/
def ofSource (depth : Nat) (source : Source) : Except Fault (Option Document) := do
  let read : Reader (Option NodeId) := do
    scan Scanner.start
    readDocument depth
  let (root, s) ← read.run { reading := { source } }
  return root.map fun root => ⟨s.nodes, root⟩

end Document

end Yaml

end Conformance
