import Conformance.Text.Quoted

/-!
# UTF-8 — bytes read as characters

`Utf8.decode` reads bytes as characters and refuses every sequence that is
not the shortest encoding of a scalar value. A fault names the bytes at
fault: the start of a sequence, with the continuation bytes that were still
sound, or a byte that starts none. Bytes can come in portions,
`Utf8.decodePortion`: a sequence that the end of a portion cuts off is held
back, and the next portion is read behind it.
-/


namespace Conformance

namespace Utf8

/-- Why bytes are not the encoding of a text. -/
inductive Cause where
  | invalidStart
  | invalidContinuation
  | unexpectedEnd
deriving DecidableEq, Repr

/-- Bytes that are not the encoding of a text: the first of them, where it
stands, and how many there are. -/
structure Fault where
  cause : Cause
  octet : UInt8
  start : Nat
  count : Nat
deriving DecidableEq, Repr

/-- The wording of a cause. -/
def Cause.text : Cause → String
  | .invalidStart => "invalid start byte"
  | .invalidContinuation => "invalid continuation byte"
  | .unexpectedEnd => "unexpected end of data"

/-- The wording of a fault: a single byte is shown, several are counted. -/
def Fault.message (f : Fault) : String :=
  "'utf-8' codec can't decode " ++
    (if f.count ≤ 1 then
      "byte 0x" ++ String.ofList (Text.hexadecimal 2 f.octet.toNat) ++ " in position " ++
        toString f.start
    else "bytes in position " ++ toString f.start ++ "-" ++ toString (f.start + f.count - 1)) ++
    ": " ++ f.cause.text

/-- A sequence begun: its first byte, where that stands, the bytes behind it
with the latest first, how many are owed, the bits so far, and the range of
the next byte. -/
structure Open where
  octet : UInt8
  start : Nat
  behind : List UInt8
  owed : Nat
  bits : Nat
  low : Nat
  high : Nat

/-- The bytes of a sequence begun. -/
def Open.octets (s : Open) : List UInt8 := s.octet :: s.behind.reverse

/-- A sequence begun that is at fault. -/
def Open.fault (s : Open) (cause : Cause) : Fault := ⟨cause, s.octet, s.start, s.behind.length + 1⟩

/-- What a first byte begins: nothing, a whole character, or a sequence. -/
inductive Lead where
  | none
  | whole (c : Char)
  | begun (s : Open)

/-- What the byte at a position begins. The second byte is bounded more
tightly after the bytes that could begin an overlong form, a surrogate or a
value past the last. -/
def lead (start : Nat) (b : UInt8) : Lead :=
  let n := b.toNat
  if n < 0x80 then .whole (Char.ofNat n)
  else if n < 0xc2 then .none
  else if n < 0xe0 then .begun ⟨b, start, [], 1, n - 0xc0, 0x80, 0xbf⟩
  else if n < 0xf0 then
    .begun ⟨b, start, [], 2, n - 0xe0, if n = 0xe0 then 0xa0 else 0x80,
      if n = 0xed then 0x9f else 0xbf⟩
  else if n < 0xf5 then
    .begun ⟨b, start, [], 3, n - 0xf0, if n = 0xf0 then 0x90 else 0x80,
      if n = 0xf4 then 0x8f else 0xbf⟩
  else .none

/-- Whether a byte makes a sequence begun the first half of a surrogate. -/
def Open.isSurrogate (s : Open) (b : UInt8) : Bool :=
  s.octet == 0xed && s.behind.isEmpty && 0xa0 ≤ b && b ≤ 0xbf

/-- Reads bytes from a position on, in the middle of a sequence or not, and
gives the characters and the bytes to be held back. Of the last portion none
are; of any other it is the sequence that the end cuts off, and the first
half of a surrogate at the very end counts as one. -/
def decodeFrom (last : Bool) (position : Nat) (begun : Option Open) :
    List UInt8 → Except Fault (List Char × List UInt8)
  | [] =>
    match begun with
    | none => .ok ([], [])
    | some s => if last then .error (s.fault .unexpectedEnd) else .ok ([], s.octets)
  | b :: rest =>
    let follow (c : Char) : Except Fault (List Char × List UInt8) :=
      (decodeFrom last (position + 1) none rest).map fun (text, held) => (c :: text, held)
    match begun with
    | none =>
      match lead position b with
      | .none => .error ⟨.invalidStart, b, position, 1⟩
      | .whole c => follow c
      | .begun s => decodeFrom last (position + 1) (some s) rest
    | some s =>
      if s.low ≤ b.toNat ∧ b.toNat ≤ s.high then
        let bits := 64 * s.bits + (b.toNat - 0x80)
        if s.owed ≤ 1 then follow (Char.ofNat bits)
        else
          decodeFrom last (position + 1)
            (some ⟨s.octet, s.start, b :: s.behind, s.owed - 1, bits, 0x80, 0xbf⟩) rest
      else if !last && rest.isEmpty && s.isSurrogate b then .ok ([], [s.octet, b])
      else .error (s.fault .invalidContinuation)

/-- The characters of a portion of bytes, and the bytes to be held back.
Positions are counted from the first of these bytes. -/
def decodePortion (last : Bool) (bytes : List UInt8) : Except Fault (List Char × List UInt8) :=
  decodeFrom last 0 none bytes

/-- The characters that bytes encode. -/
def decode (bytes : List UInt8) : Except Fault (List Char) :=
  (decodePortion true bytes).map Prod.fst

end Utf8

end Conformance
