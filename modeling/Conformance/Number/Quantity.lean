import Conformance.Number.Decimal

/-!
# Quantity — the forms a real number is decoded into

A quantity is a double, a decimal or a ratio. The three forms differ in
what they can hold and in how they print, and agree in denoting a `Number`.
-/


namespace Conformance

/-- A real number in one of its decoded forms. -/
inductive Quantity where
  | binary (x : Binary64)
  | decimal (x : Decimal)
  | ratio (q : Rat)
deriving DecidableEq, Repr

namespace Quantity

/-- What a quantity denotes. -/
def number : Quantity → Number
  | .binary x => x.number
  | .decimal x => x.number
  | .ratio q => .ofRat q

/-- The text of a quantity. -/
def text : Quantity → String
  | .binary x => x.text
  | .decimal x => x.text
  | .ratio q => if q.den = 1 then toString q.num else toString q.num ++ "/" ++ toString q.den

end Quantity

end Conformance
