import Conformance.Number

/-!
# Binary64 — double-precision numbers, exactly

A double is `± m · 2 ^ q` with `m` below `2 ^ 53`, an infinity or not a
number. `Binary64.ofRatio` rounds a quotient to the nearest double, a half
to the even neighbour; `Binary64.number` is the exact value; and
`Binary64.text` writes the fewest digits that read back.
-/


namespace Conformance

/-- A quotient rounded to the nearest natural number, a half to the even
neighbour. -/
def roundHalfEven (num den : Nat) : Nat :=
  let quotient := num / den
  let rest := 2 * (num % den)
  if rest < den then quotient
  else if rest = den then quotient + quotient % 2
  else quotient + 1

/-- A double-precision number. -/
inductive Binary64 where
  /-- The number `m · 2 ^ q`, or its negative. -/
  | finite (negative : Bool) (m : Nat) (q : Int)
  | infinite (negative : Bool)
  | nan
deriving DecidableEq, Repr, Inhabited

namespace Binary64

/-- The least exponent of a double. -/
def leastExponent : Int := -1074

/-- The greatest exponent of a double. -/
def greatestExponent : Int := 971

/-- The ratio `num / den / 2 ^ q` as a pair of natural numbers. -/
def scaled (num den : Nat) (q : Int) : Nat × Nat :=
  (num * twoTo (-q).toNat, den * twoTo q.toNat)

/-- The nearest double to `num / den`. -/
def ofRatio (negative : Bool) (num den : Nat) : Binary64 :=
  if num = 0 then .finite negative 0 leastExponent
  else
    let guess : Int := (num.log2 : Int) - (den.log2 : Int) - 53
    let (a, b) := scaled num den guess
    let q := max (if a / b < twoTo 53 then guess else guess + 1) leastExponent
    let (a, b) := scaled num den q
    let m := roundHalfEven a b
    let (m, q) := if m = twoTo 53 then (twoTo 52, q + 1) else (m, q)
    if greatestExponent < q then .infinite negative else .finite negative m q

/-- What a double denotes. -/
def number : Binary64 → Number
  | .finite negative m q =>
    let size : Rat := mkRat (m * twoTo q.toNat : Nat) (twoTo (-q).toNat)
    .ofRat (if negative then -size else size)
  | .infinite negative => .infinite negative
  | .nan => .nan

/-! ## Shortest digits -/

/-- The largest `p` with `10 ^ p ≤ num / den`, sought downwards from a
power that is not below it. -/
def decimalExponent (num den : Nat) : Nat → Int → Int
  | 0, p => p
  | fuel + 1, p =>
    if den * tenTo p.toNat ≤ num * tenTo (-p).toNat then p
    else decimalExponent num den fuel (p - 1)

/-- The digits and exponent `(d, e)` of the shortest decimal `d · 10 ^ e`
that rounds to `m · 2 ^ q`, the nearest one if several are as short. -/
def shortest (m : Nat) (q : Int) : Nat × Int :=
  -- in units of `2 ^ (q - 2)` the value is `4 m` and the ends are whole
  let (num, den) := scaled 1 1 (2 - q)
  let low := if m = twoTo 52 ∧ leastExponent < q then 4 * m - 1 else 4 * m - 2
  let high := 4 * m + 2
  let estimate : Int := (((m.log2 : Int) + q) * 30103) / 100000 + 1
  let p := decimalExponent (4 * m * num) den 4 estimate
  let inside (d : Nat) (e : Int) : Bool :=
    let lhs := d * tenTo e.toNat * den
    let unit := num * tenTo (-e).toNat
    if m % 2 = 0 then low * unit ≤ lhs && lhs ≤ high * unit
    else low * unit < lhs && lhs < high * unit
  let attempt (digits : Nat) : Option (Nat × Int) :=
    let e := p + 1 - digits
    let above := 4 * m * num * tenTo (-e).toNat
    let grid := den * tenTo e.toNat
    let d := above / grid
    let rest := 2 * (above % grid)
    let upper := grid < rest || (rest == grid && d % 2 == 1)
    match inside d e, inside (d + 1) e with
    | true, true => some (if upper then d + 1 else d, e)
    | true, false => some (d, e)
    | false, true => some (d + 1, e)
    | false, false => none
  ((List.range 17).findSome? fun k => attempt (k + 1)).getD (0, 0)

/-- How a decimal is laid out: positional while its leading digit stands
between the two powers of ten, where a whole number has a mark of its own
behind it; otherwise one digit before the point and a signed exponent of at
least two digits. -/
structure Layout where
  leastPositional : Int
  greatestPositional : Int
  wholeMark : String
  exponentMark : String
  exponentDigits : Nat
deriving Repr

/-- Doubles are positional from `0.0001` up to below `10 ^ 16`, and whole ones
have one place. -/
def layout : Layout := ⟨-4, 15, ".0", "e", 2⟩

/-- The layout of a part of a complex number: a whole one has no places. -/
def partLayout : Layout := { layout with wholeMark := "" }

/-- The digits of a number without its trailing zeros, and how many were
dropped. -/
def strippedDigits (d : Nat) : List Char × Nat :=
  let digits := (toString d).toList
  let kept := (digits.reverse.dropWhile (· == '0')).reverse
  (kept, digits.length - kept.length)

/-- The number `d · 10 ^ e` written in a layout. -/
def Layout.write (style : Layout) (d : Nat) (e : Int) : String :=
  let (digits, dropped) := strippedDigits d
  let e := e + dropped
  let lead : Int := e + digits.length - 1
  if style.leastPositional ≤ lead ∧ lead ≤ style.greatestPositional then
    if lead < 0 then
      "0." ++ String.ofList (List.replicate (-lead - 1).toNat '0' ++ digits)
    else
      let whole := digits.take (lead.toNat + 1)
      let places := digits.drop (lead.toNat + 1)
      String.ofList (whole ++ List.replicate (lead.toNat + 1 - whole.length) '0') ++
        (if places.isEmpty then style.wholeMark else "." ++ String.ofList places)
  else
    let tail := if digits.length ≤ 1 then "" else "." ++ String.ofList (digits.drop 1)
    let size := toString lead.natAbs
    let padding := String.ofList (List.replicate (style.exponentDigits - size.length) '0')
    String.ofList (digits.take 1) ++ tail ++ style.exponentMark ++
      (if lead < 0 then "-" else "+") ++ padding ++ size

/-- The text of the size of a double: the fewest digits that read back. -/
def sizeText (style : Layout) : Binary64 → String
  | .finite _ m q =>
    if m = 0 then "0" ++ style.wholeMark
    else
      let (d, e) := shortest m q
      style.write d e
  | .infinite _ => "inf"
  | .nan => "nan"

/-- Whether a double has a minus in front. -/
def isNegative : Binary64 → Bool
  | .finite negative _ _ => negative
  | .infinite negative => negative
  | .nan => false

/-- The text of a double. -/
def text (x : Binary64) : String := (if x.isNegative then "-" else "") ++ x.sizeText layout

end Binary64

end Conformance
