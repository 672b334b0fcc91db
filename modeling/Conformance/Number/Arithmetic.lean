import Conformance.Number.Binary64

/-!
# Arithmetic — sums and products of doubles

The sum and the product of two doubles are the doubles nearest to the exact
ones. An exact zero has a sign too: that of a product is the product of the
signs, and a sum of zeros is negative only if both are.
-/


namespace Conformance

namespace Binary64

/-- The rational that a double denotes; an infinity and no number denote none. -/
def toRat? : Binary64 → Option Rat
  | .finite negative m q =>
    let size : Rat := mkRat (m * twoTo q.toNat : Nat) (twoTo (-q).toNat)
    some (if negative then -size else size)
  | _ => none

/-- A zero with a sign. -/
def signedZero (negative : Bool) : Binary64 := .finite negative 0 leastExponent

/-- The double nearest to a rational, with the sign of a zero. -/
def nearest (negative : Bool) (q : Rat) : Binary64 :=
  if q = 0 then signedZero negative else ofRatio (q < 0) q.num.natAbs q.den

/-- The double nearest to a natural number. -/
def ofNat (n : Nat) : Binary64 := ofRatio false n 1

/-- The same size with the other sign, if asked for. -/
def signed (negate : Bool) : Binary64 → Binary64
  | .finite negative m q => .finite (negative != negate) m q
  | .infinite negative => .infinite (negative != negate)
  | .nan => .nan

/-- The sum of two doubles. -/
def add (x y : Binary64) : Binary64 :=
  match x, y with
  | .nan, _ => .nan
  | _, .nan => .nan
  | .infinite a, .infinite b => if a = b then .infinite a else .nan
  | .infinite a, _ => .infinite a
  | _, .infinite b => .infinite b
  | x, y => nearest (x.isNegative && y.isNegative) (x.toRat?.getD 0 + y.toRat?.getD 0)

/-- The product of two doubles. -/
def mul (x y : Binary64) : Binary64 :=
  let negative := x.isNegative != y.isNegative
  match x.toRat?, y.toRat? with
  | some p, some q => nearest negative (p * q)
  | some p, none => if p = 0 then .nan else mulInfinite negative y
  | none, some q => if q = 0 then .nan else mulInfinite negative x
  | none, none => if x = .nan then .nan else mulInfinite negative y
where
  /-- A product with something infinite, or with no number. -/
  mulInfinite (negative : Bool) : Binary64 → Binary64
    | .nan => .nan
    | _ => .infinite negative

end Binary64

end Conformance
