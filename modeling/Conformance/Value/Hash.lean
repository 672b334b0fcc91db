import Conformance.Value.Mapping

/-!
# Hash — numbers that equal keys share

The hash of a number is its residue modulo a prime, which is the same for
every form of the number. The hash of a row depends on the hashes of its
items and their order, that of a set on the hashes of its items alone,
`setHash_perm`. Both are computed in words of 64 bits. Of other keys only
their being equal can be told, and they have no hash.
-/


namespace Conformance

/-! ## Hashes of numbers -/

/-- The prime modulo which numbers are hashed. -/
def hashPrime : Nat := twoTo 61 - 1

/-- A power modulo a number, by squaring; `fuel` bounds the binary digits of
the exponent. -/
def powerMod (modulus : Nat) : Nat → Nat → Nat → Nat
  | 0, _, _ => 1 % modulus
  | fuel + 1, base, exponent =>
    let half := powerMod modulus fuel (base * base % modulus) (exponent / 2)
    if exponent % 2 = 1 then base * half % modulus else half

/-- A power modulo the prime. -/
def hashPower (base exponent : Nat) : Nat :=
  powerMod hashPrime (exponent.log2 + 1) (base % hashPrime) exponent

/-- The inverse modulo the prime. -/
def hashInverse (n : Nat) : Nat := hashPower n (hashPrime - 2)

/-- The hash of what lies beyond all finite numbers. -/
def infiniteHash : Int := 314159

/-- A hash that is not the one value kept for failures. -/
def properHash (h : Int) : Int := if h = -1 then -2 else h

/-- The hash of a number. -/
def Number.hash? : Number → Option Int
  | .finite x =>
    let scale := if x.exponent < 0 then hashPower (hashInverse 10) (-x.exponent).toNat
      else hashPower 10 x.exponent.toNat
    let size : Int := if x.mantissa.den % hashPrime = 0 then infiniteHash else
      (x.mantissa.num.natAbs * hashInverse x.mantissa.den * scale % hashPrime : Nat)
    some (properHash (if x.mantissa.num < 0 then -size else size))
  | .infinite negative => some (if negative then -infiniteHash else infiniteHash)
  | .nan => none

/-! ## Hashes of rows and sets -/

/-- A word as a number with a sign. -/
def signed (w : UInt64) : Int := Int.bmod w.toNat (twoTo 64)

/-- What the hash of a row starts from. -/
def rowSeed : UInt64 := 2870177450012600261

/-- Takes the hash of one more item into that of a row. -/
def rowStep (sum : UInt64) (hash : Int) : UInt64 :=
  let sum := sum + UInt64.ofInt hash * 14029467366897019727
  ((sum <<< 31) ||| (sum >>> 33)) * 11400714785074694791

/-- The hash of a row of items with these hashes. -/
def rowHash (hashes : List Int) : Int :=
  let size := UInt64.ofNat hashes.length ^^^ (rowSeed ^^^ (3527539 : UInt64))
  let sum := hashes.foldl rowStep rowSeed + size
  if signed sum = -1 then 1546275796 else signed sum

/-- Spreads the digits of a hash over a word. -/
def spread (hash : Int) : UInt64 :=
  let w := UInt64.ofInt hash
  ((w ^^^ (89869747 : UInt64)) ^^^ (w <<< 16)) * 3644798167

/-- The hash of a set of items with these hashes. -/
def setHash (hashes : List Int) : Int :=
  let sum := hashes.foldr (fun hash sum => spread hash ^^^ sum) 0
  let sum := sum ^^^ (UInt64.ofNat (hashes.length + 1) * 1927868237)
  let sum := sum ^^^ ((sum >>> 11) ^^^ (sum >>> 25))
  let sum := sum * 69069 + 907133923
  if signed sum = -1 then 590923713 else signed sum

/-- **The order of the items of a set does not matter.** -/
theorem setHash_perm {hashes others : List Int} (h : hashes.Perm others) :
    setHash hashes = setHash others := by
  have swap (a b : Int) (sum : UInt64) :
      spread b ^^^ (spread a ^^^ sum) = spread a ^^^ (spread b ^^^ sum) := by
    rw [← UInt64.xor_assoc, UInt64.xor_comm (spread b), UInt64.xor_assoc]
  simp only [setHash, h.length_eq, h.foldr_eq' fun a _ b _ sum => swap a b sum]

namespace Value

/-- The hash of a key that is a number. -/
def numberHash? (v : Value) : Option Int := do
  let (x, y) ← v.keyNumber?
  return properHash (((← x.hash?) + 1000003 * (← y.hash?)).bmod (twoTo 64))

/-- The hash of a range of two integers or more, which is that of the row of
its length, its start and its step. -/
def rangeHash? (start stop step : Int) : Option Int := do
  let length := rangeLength start stop step
  guard (2 ≤ length)
  return rowHash (← [(length : Int), start, step].mapM fun n => numberHash? (.integer n))

mutual

/-- The hash of a key. -/
def hash? : Value → Option Int
  | .array form items => if isKeyForm form then (hashes? items).map rowHash else none
  | .range start stop step => rangeHash? start stop step
  | .frozenSet items => (hashes? items).map setHash
  | v => numberHash? v

/-- The hashes of the items of a row, if all have one. -/
def hashes? : List Value → Option (List Int)
  | [] => some []
  | v :: vs => do return (← hash? v) :: (← hashes? vs)

end

end Value

end Conformance
