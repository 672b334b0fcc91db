import Conformance.Value.Mapping
import Conformance.Yaml.Atom
import Conformance.Yaml.Merge

/-!
# Content — the value of a document

`Document.content` gives the value of a document by the tags of its nodes,
`ofSource` that of a text, `null` if it holds no document, and `Yaml.read` that
of a file. A node has one value wherever it is met. Collections wait in a row
until what was met before them is done, so of several faults the one nearest to
the root counts. Of two entries under one key the later counts; the keys of a
mapping are told apart as keys, but a node or the word for no number is one key
with itself. Only the entries of the root are kept: what the collections below
it hold is looked at for faults and otherwise left out.
-/


namespace Conformance

namespace Yaml

/-- A value, and what it is the same as even where it equals nothing. -/
structure Thing where
  identity : Nat
  value : Value
deriving Repr, Inhabited

namespace Thing

/-- Whether two keys are one. -/
def isSameKey (a b : Thing) : Bool := a.identity == b.identity || a.value.sameKey b.value

/-- Whether a value can be a key: what can change cannot. -/
def isKey (a : Thing) : Bool :=
  match a.value with
  | .array .. => false
  | .object .. => false
  | .alien .set => false
  | _ => true

/-- Binds a key in a list of entries. -/
def bind (entries : List (Thing × Value)) (key : Thing) (value : Value) : List (Thing × Value) :=
  match entries with
  | [] => [(key, value)]
  | (k, v) :: rest =>
    if k.isSameKey key then (k, value) :: rest else (k, v) :: bind rest key value

end Thing

/-- The state of making values: the nodes, the values made so far, and the
collections whose content is still to be made, each under the tag that it was
met with. -/
structure Making where
  nodes : Array Node
  made : List (NodeId × Thing) := []
  waiting : List (NodeId × Tag) := []

/-- A step of making values. -/
abbrev Maker := StateT Making (Except Fault)

namespace Maker

/-- Refuses the document. -/
def refuse {α : Type} : Maker α := throw .malformed

/-- A step on the nodes. -/
def onNodes {α : Type} (step : Editor α) : Maker α := fun s => do
  let (a, nodes) ← step.run s.nodes
  return (a, { s with nodes })

/-- The text of a scalar. A mapping is written for a scalar if it has a key
that stands for it. `fuel` bounds how often that is so. -/
def scalarText : Nat → NodeId → Editor String
  | 0, _ => throw (.unrepresentable .tooDeep)
  | fuel + 1, id => do
    match (← Editor.node id).body with
    | .scalar text => return text
    | .sequence _ => Editor.refuse
    | .mapping pairs =>
      let tagged ← pairs.filterM fun pair => return (← Editor.node pair.1).tag == .default
      match tagged with
      | (_, value) :: _ => scalarText fuel value
      | [] => Editor.refuse

/-- The empty collection of a tag. -/
def emptyCollection? : Tag → Option Value
  | .sequence => some (.array .list [])
  | .orderedMap => some (.array .list [])
  | .pairs => some (.array .list [])
  | .mapping => some (.object .plain [])
  | .set => some (.alien .set)
  | _ => none

/-- The identity of the word for no number, which all nodes with it share. -/
def noNumber : Nat := 0

/-- The value of a node that is met for the first time. A collection comes
without its content, which has to wait. -/
def makeNew (id : NodeId) : Maker Thing := do
  let node ← onNodes (Editor.node id)
  match emptyCollection? node.tag with
  | some value =>
    modify fun s => { s with waiting := s.waiting ++ [(id, node.tag)] }
    return ⟨id + 1, value⟩
  | none =>
    match node.tag with
    | .merge => refuse
    | .default => refuse
    | .unknown _ => refuse
    | tag =>
      let text ← onNodes (scalarText ((← get).nodes.size + 1) id)
      if tag == .timestamp && !node.body.isScalar then throw (.unrepresentable .mappedStamp)
      let value ← Scalar.content tag text
      return ⟨if tag == .float && Scalar.isNoNumber text then noNumber else id + 1, value⟩

/-- The value of a node. -/
def make (id : NodeId) : Maker Thing := do
  match (← get).made.lookup id with
  | some thing => return thing
  | none =>
    let thing ← makeNew id
    modify fun s => { s with made := (id, thing) :: s.made }
    return thing

/-- The entries of a mapping. -/
def entries (pairs : List (NodeId × NodeId)) : Maker (List (Value × Value)) := do
  let bound ← pairs.foldlM (fun bound (key, value) => do
    let key ← make key
    if !key.isKey then refuse
    return Thing.bind bound key (← make value).value) []
  return bound.map fun (key, value) => (key.value, value)

/-- A key and its value, alone in a mapping. -/
def single (id : NodeId) : Maker Value := do
  match ← onNodes (Editor.pairs id) with
  | [(key, value)] => return .array .tuple [(← make key).value, (← make value).value]
  | _ => refuse

/-- The items of a sequence. -/
def items (id : NodeId) : Maker (List NodeId) := do
  match (← onNodes (Editor.node id)).body with
  | .sequence items => return items
  | _ => refuse

/-- A collection with its content, under a tag. -/
def fill (id : NodeId) (tag : Tag) : Maker Value := do
  match tag with
  | .sequence => return .array .list ((← (← items id).mapM make).map Thing.value)
  | .orderedMap => return .array .list (← (← items id).mapM single)
  | .pairs => return .array .list (← (← items id).mapM single)
  | _ =>
    if (← onNodes (Editor.pairs? id)).isSome then onNodes (Editor.flatten id)
    let entries ← entries (← onNodes (Editor.pairs id))
    return if tag == .set then .alien .set else .object .plain entries

/-- The collection that has waited longest. -/
def next : Maker (Option (NodeId × Tag)) := do
  let waiting := (← get).waiting
  modify fun s => { s with waiting := waiting.tail }
  return waiting.head?

/-- Fills the collections that wait, in their order; `fuel` bounds their
number. -/
def fillAll : Nat → Maker Unit
  | 0 => return ()
  | fuel + 1 => do
    match ← next with
    | none => return ()
    | some (id, tag) =>
      let _ ← fill id tag
      fillAll fuel

/-- The value of a node and of all below it. A node waits once at most. -/
def content (root : NodeId) : Maker Value := do
  let thing ← make root
  match ← next with
  | none => return thing.value
  | some (id, tag) =>
    let value ← fill id tag
    fillAll (← get).nodes.size
    return value

end Maker

/-- The value of a document. -/
def Document.content (d : Document) : Except Fault Value :=
  (Maker.content d.root).run' { nodes := d.nodes }

/-- Why a file cannot be read. -/
inductive Unreadable where
  /-- There is no document in the text, and another text says why. -/
  | malformed (text : String)
  /-- Bytes that encode no text. -/
  | undecodable (f : Utf8.Fault)
  | unrepresentable (misfit : Misfit)
deriving DecidableEq, Repr

/-- What reads the document in a file. -/
abbrev Loader := Text.Blocks → Except Unreadable Value

/-- A fault of a document as one of its file: a text breaks off where its
bytes have a fault. Nothing is said of what is malformed. -/
def Fault.inFile (blocks : Text.Blocks) : Fault → Unreadable
  | .malformed => .malformed ""
  | .brokenOff => (blocks.fault.map .undecodable).getD (.malformed "")
  | .unrepresentable misfit => .unrepresentable misfit

/-- The value of the document of a text, the nodes of which are nested no deeper
than `depth`. -/
def ofSource (depth : Nat) (source : Source) : Except Fault Value := do
  match ← Document.ofSource depth source with
  | none => return .null
  | some document => document.content

/-- The value of the document in a file. -/
def read (depth : Nat) : Loader := fun blocks =>
  (ofSource depth (.ofBlocks blocks)).mapError (Fault.inFile blocks)

end Yaml

end Conformance
