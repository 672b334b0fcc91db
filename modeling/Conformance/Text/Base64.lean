/-!
# Base64 — octets as letters

Four letters of an alphabet of sixty-four stand for three octets, and pads
fill up the last four. `Base64.decode?` passes over whatever is no letter and
stops where pads complete a row of four; a row that neither letters nor pads
complete is refused.
-/


namespace Conformance

namespace Base64

/-- The value of a letter. -/
def value? (c : Char) : Option Nat :=
  if c.isUpper then some (c.toNat - 0x41)
  else if c.isLower then some (c.toNat - 0x61 + 26)
  else if c.isDigit then some (c.toNat - 0x30 + 52)
  else if c = '+' then some 62
  else if c = '/' then some 63
  else none

/-- Octets from the middle of a row on: `place` letters of the row have been
read, which leave some bits over, and `pads` pads since the last of them. -/
def decodeFrom (place left pads : Nat) : List Char → Option (List UInt8)
  | [] => if place = 0 then some [] else none
  | c :: rest =>
    if c = '=' then
      if place < 2 then decodeFrom place left pads rest
      else if 4 ≤ place + pads + 1 then some []
      else decodeFrom place left (pads + 1) rest
    else
      match value? c, place with
      | none, _ => decodeFrom place left pads rest
      | some v, 0 => decodeFrom 1 v 0 rest
      | some v, 1 => (decodeFrom 2 (v % 16) 0 rest).map (UInt8.ofNat (4 * left + v / 16) :: ·)
      | some v, 2 => (decodeFrom 3 (v % 4) 0 rest).map (UInt8.ofNat (16 * left + v / 4) :: ·)
      | some v, _ => (decodeFrom 0 0 0 rest).map (UInt8.ofNat (64 * left + v) :: ·)

/-- The octets that a text stands for. -/
def decode? (s : List Char) : Option (List UInt8) := decodeFrom 0 0 0 s

example : decode? "TWFu".toList = some [77, 97, 110] := by decide

end Base64

end Conformance
