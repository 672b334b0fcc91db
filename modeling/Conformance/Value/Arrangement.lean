import Conformance.Value.Hash

/-!
# Arrangement — the order in which a set lists its items

A set has no order of its own, and lists its items by the slots of a table.
An item goes to the slot of its hash, or past it if that slot is taken, and
the table grows before it fills up. Sets with an item that has no hash list
their items as they were given.
-/


namespace Conformance

/-- Slots, of which there is a power of two; each is free or holds an item
with its hash. -/
structure Slots (α : Type) where
  slots : List (Option (Int × α))
  used : Nat

namespace Slots

variable {α : Type}

/-- Slots without items. -/
def free (size : Nat) : Slots α := ⟨List.replicate size none, 0⟩

/-- How many slots behind one that is taken are tried before the search jumps. -/
def nearby : Nat := 9

/-- The first free slot from `i` on: a few neighbours are tried if they are all
there, and then the search jumps, by the higher digits of the hash at first. -/
def search (slots : List (Option (Int × α))) : Nat → Nat → Nat → Option Nat
  | 0, _, _ => none
  | fuel + 1, i, rest =>
    let reach := if i + nearby < slots.length then nearby else 0
    match (List.range (reach + 1)).find? fun j => slots[i + j]?.all Option.isNone with
    | some j => some (i + j)
    | none => search slots fuel ((5 * i + 1 + rest / 32) % slots.length) (rest / 32)

/-- Puts an item into the slot that is free for it. -/
def put (t : Slots α) (item : Int × α) : Slots α :=
  let rest := (item.1 % (twoTo 64 : Nat)).toNat
  match search t.slots (t.slots.length + 16) (rest % t.slots.length) rest with
  | some i => ⟨t.slots.set i (some item), t.used + 1⟩
  | none => t

/-- The items in the order of their slots. -/
def items (t : Slots α) : List (Int × α) := t.slots.filterMap id

/-- The least power of two above a number, from a size on; `fuel` bounds the
doublings. -/
def sizeAbove (n : Nat) : Nat → Nat → Nat
  | 0, size => size
  | fuel + 1, size => if n < size then size else sizeAbove n fuel (2 * size)

/-- Adds an item. Where three fifths of the slots are taken, all items move to
four times as many slots as there are items, or more. -/
def add (t : Slots α) (item : Int × α) : Slots α :=
  let t := t.put item
  if 5 * t.used < 3 * (t.slots.length - 1) then t
  else
    let size := sizeAbove (if 50000 < t.used then 2 * t.used else 4 * t.used) 64 8
    t.items.foldl put (free size)

/-- Items with hashes in the order in which a set lists them. -/
def arrange (items : List (Int × α)) : List α :=
  ((items.foldl add (free 8)).items).map Prod.snd

example : arrange [(3, 'c'), (1, 'a'), (2, 'b')] = ['a', 'b', 'c'] := by decide +kernel

end Slots

namespace Value

/-- A set of items that cannot change. -/
def ofItems (items : List Value) : Value :=
  let items := distinct items
  .frozenSet (match hashes? items with
    | some hashes => Slots.arrange (hashes.zip items)
    | none => items)

end Value

end Conformance
