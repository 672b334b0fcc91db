import Conformance.Number.Arithmetic
import Conformance.Text.Utf8

/-!
# Blocks — a file as it is read

A file gives its characters in blocks of 4096, and for a block its bytes are
fetched in portions, until there are characters enough. A portion has 8192
bytes, or as many as the characters that are still missing would take at the
rate of the portion before, if those are more. Each kind of line end comes
out as a line feed. Bytes that encode no text end the blocks: the characters
of the same block are lost, and those before it are not.
-/


namespace Conformance

namespace Text

/-- Characters with each carriage return, and the line feed behind it, turned
into one line feed. -/
def lineFeeds : List Char → List Char
  | [] => []
  | '\r' :: '\n' :: rest => '\n' :: lineFeeds rest
  | '\r' :: rest => '\n' :: lineFeeds rest
  | c :: rest => c :: lineFeeds rest

/-- A file on its way: the bytes to come, those that are held back, whether a
carriage return is, the characters that are ready, and how many bytes were
fetched last and how many characters they gave. -/
structure Intake where
  bytes : List UInt8
  heldBack : List UInt8 := []
  returned : Bool := false
  ready : List Char := []
  lastBytes : Nat := 0
  lastChars : Nat := 0

namespace Intake

/-- The number of characters in a block. -/
def blockSize : Nat := 4096

/-- The least number of bytes to fetch. -/
def leastPortion : Nat := 8192

/-- How many bytes to fetch for some characters. The rate is a double, and so
is its product with their number. -/
def portion (i : Intake) (missing : Nat) : Nat :=
  let rate := Binary64.ofRatio false i.lastBytes i.lastChars
  let estimate := ((rate.mul (.ofNat missing)).toRat?.getD 0).floor.toNat
  if i.lastChars = 0 then leastPortion else max leastPortion estimate

/-- The characters of a portion with plain line ends, behind the carriage
return that was held back. A carriage return at its end is held back, unless
nothing comes any more. -/
def plainLines (i : Intake) (last : Bool) (text : List Char) : List Char × Bool :=
  let pending := i.returned && (last || !text.isEmpty)
  let text := if pending then '\r' :: text else text
  if !last && text.getLast? == some '\r' then (lineFeeds text.dropLast, true)
  else (lineFeeds text, i.returned && !pending)

/-- Fetches a portion, and says whether the file has ended. -/
def fetch (i : Intake) : Except Utf8.Fault (Intake × Bool) := do
  let size := i.portion (blockSize - i.ready.length)
  let fetched := i.bytes.take size
  let last := fetched.isEmpty
  let (text, heldBack) ← Utf8.decodePortion last (i.heldBack ++ fetched)
  let (text, returned) := i.plainLines last text
  let next : Intake :=
    ⟨i.bytes.drop size, heldBack, returned, i.ready ++ text, fetched.length, text.length⟩
  return (next, last && text.isEmpty)

/-- Fetches until a block is ready or the file has ended; `fuel` bounds the
number of portions. -/
def fill : Nat → Intake → Except Utf8.Fault Intake
  | 0, i => .ok i
  | fuel + 1, i =>
    if blockSize ≤ i.ready.length then .ok i
    else do
      let (next, ended) ← i.fetch
      if ended then return next else fill fuel next

end Intake

/-- The blocks of a file, and the fault behind them if they do not end it. -/
structure Blocks where
  rows : List (List Char)
  fault : Option Utf8.Fault

namespace Blocks

/-- The blocks to come; `fuel` bounds their number and that of portions. -/
def ofIntake : Nat → Intake → Blocks
  | 0, _ => ⟨[], none⟩
  | fuel + 1, i =>
    match i.fill (i.bytes.length + 3) with
    | .error f => ⟨[], some f⟩
    | .ok i =>
      if i.ready.isEmpty then ⟨[], none⟩
      else
        let rest := ofIntake fuel { i with ready := i.ready.drop Intake.blockSize }
        ⟨i.ready.take Intake.blockSize :: rest.rows, rest.fault⟩

/-- The blocks of a file with some bytes. -/
def ofBytes (bytes : List UInt8) : Blocks := ofIntake (bytes.length + 1) { bytes }

end Blocks

end Text

end Conformance
