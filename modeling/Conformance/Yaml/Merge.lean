import Conformance.Yaml.Node

/-!
# Merge — mappings that take in the pairs of others

A pair under the key of merging gives a mapping the pairs of another, or
those of a row of mappings, the last one's first. `flatten` takes such pairs
out of a mapping and puts what they give in front of the rest, so that what
the mapping says itself comes last. It does so to the mappings that are
taken in as well, and it does it in place: a node that is met in several
places is changed for all of them. The key that stands for its mapping
becomes a text on the way.
-/


namespace Conformance

namespace Yaml

/-- A step on the nodes of a document. -/
abbrev Editor := StateT (Array Node) (Except Fault)

namespace Editor

/-- Refuses the document. -/
def refuse {α : Type} : Editor α := throw .malformed

/-- A node. -/
def node (id : NodeId) : Editor Node := return (← get)[id]?.getD .empty

/-- Replaces a node. -/
def setNode (id : NodeId) (node : Node) : Editor Unit :=
  modify fun nodes => nodes.setIfInBounds id node

/-- The pairs of a mapping; nothing else has any. -/
def pairs? (id : NodeId) : Editor (Option (List (NodeId × NodeId))) := do
  match (← node id).body with
  | .mapping pairs => return some pairs
  | _ => return none

/-- The pairs of a node that has to be a mapping. -/
def pairs (id : NodeId) : Editor (List (NodeId × NodeId)) := do
  match ← pairs? id with
  | some pairs => return pairs
  | none => refuse

/-- Replaces the pairs of a mapping. -/
def setPairs (id : NodeId) (pairs : List (NodeId × NodeId)) : Editor Unit := do
  setNode id { (← node id) with body := .mapping pairs }

/-- The pairs that a node gives to a mapping. -/
def given (flatten : NodeId → Editor Unit) (id : NodeId) :
    Editor (List (NodeId × NodeId)) := do
  match (← node id).body with
  | .mapping _ =>
    flatten id
    pairs id
  | .sequence items =>
    let rows ← items.mapM fun item => do
      if (← pairs? item).isNone then refuse
      flatten item
      pairs item
    return rows.reverse.flatten
  | .scalar _ => refuse

/-- Takes the merging pairs out of a mapping, from an index on, and gives what
they give; `fuel` bounds the number of pairs that are looked at. -/
def takeIn (flatten : NodeId → Editor Unit) (id : NodeId) :
    Nat → Nat → Editor (List (NodeId × NodeId))
  | 0, _ => return []
  | fuel + 1, index => do
    let own ← pairs id
    match own[index]? with
    | none => return []
    | some (key, value) =>
      let keyNode ← node key
      match keyNode.tag with
      | .merge =>
        setPairs id (own.eraseIdx index)
        let more ← given flatten value
        return more ++ (← takeIn flatten id fuel index)
      | .default =>
        setNode key { keyNode with tag := .text }
        takeIn flatten id fuel (index + 1)
      | _ => takeIn flatten id fuel (index + 1)

/-- The number of pairs of a node. -/
def pairCount (node : Node) : Nat :=
  match node.body with
  | .mapping pairs => pairs.length
  | _ => 0

/-- The number of all pairs. -/
def pairTotal : Editor Nat :=
  return (← get).foldl (fun total node => total + pairCount node) 0

/-- Flattens a mapping; `fuel` bounds how deep mappings take in others. -/
def flattenFrom : Nat → NodeId → Editor Unit
  | 0, _ => throw (.unrepresentable .tooDeep)
  | fuel + 1, id => do
    let merged ← takeIn (flattenFrom fuel) id (2 * (← pairTotal) + 1) 0
    if !merged.isEmpty then setPairs id (merged ++ (← pairs id))

/-- Flattens a mapping. Whenever it goes deeper a pair has been taken out
before, so the number of pairs bounds the depth. -/
def flatten (id : NodeId) : Editor Unit := do
  flattenFrom ((← pairTotal) + 1) id

end Editor

end Yaml

end Conformance
