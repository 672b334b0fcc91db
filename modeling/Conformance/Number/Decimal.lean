import Conformance.Number.Numeral

/-!
# Decimal — decimal numbers that remember how they were written

A decimal keeps its coefficient and exponent apart, so that `1.50` and `1.5`
denote one number and have two texts. Besides the infinities there are
quiet and signalling forms of no number, which may carry a payload.
-/


namespace Conformance

/-- A decimal number. -/
inductive Decimal where
  /-- The number `± coefficient · 10 ^ exponent`. -/
  | finite (numeral : Numeral)
  | infinite (negative : Bool)
  | nan (negative signalling : Bool) (payload : List Char)
deriving DecidableEq, Repr

namespace Decimal

/-- What a decimal denotes. -/
def number : Decimal → Number
  | .finite ⟨negative, coefficient, exponent⟩ =>
    .finite ⟨if negative then -(coefficient : Int) else coefficient, exponent⟩
  | .infinite negative => .infinite negative
  | .nan .. => .nan

/-- A decimal in decimal notation, or one of its words. White space may stand
around it, and low lines anywhere in it. -/
def read? (text : List Char) : Option Decimal :=
  let text := (Text.plainDigits (Text.trimList text)).filter (· != '_')
  let (negative, word) := splitSign (text.map Char.toLower)
  if word = "inf".toList || word = "infinity".toList then some (.infinite negative)
  else match word with
    | 'n' :: 'a' :: 'n' :: payload =>
      if payload.all Char.isDigit then some (.nan negative false (payload.dropWhile (· == '0')))
      else none
    | 's' :: 'n' :: 'a' :: 'n' :: payload =>
      if payload.all Char.isDigit then some (.nan negative true (payload.dropWhile (· == '0')))
      else none
    | _ => (Numeral.read? text).map .finite

/-- The text of a decimal: every digit of the coefficient, positional while
the exponent is not positive and at most six zeros are needed after the
point, and otherwise with one digit before the point. -/
def text : Decimal → String
  | .finite ⟨negative, coefficient, exponent⟩ =>
    let digits := (toString coefficient).toList
    let left : Int := exponent + digits.length
    let point : Int := if exponent ≤ 0 ∧ -6 < left then left else 1
    let body :=
      if point ≤ 0 then "0." ++ String.ofList (List.replicate (-point).toNat '0' ++ digits)
      else if (digits.length : Int) ≤ point then
        String.ofList (digits ++ List.replicate (point - digits.length).toNat '0')
      else String.ofList (digits.take point.toNat) ++ "." ++ String.ofList (digits.drop point.toNat)
    let tail :=
      if left = point then ""
      else "E" ++ (if left < point then "-" else "+") ++ toString (left - point).natAbs
    (if negative then "-" else "") ++ body ++ tail
  | .infinite negative => if negative then "-Infinity" else "Infinity"
  | .nan negative signalling payload =>
    (if negative then "-" else "") ++ (if signalling then "sNaN" else "NaN") ++
      String.ofList payload

end Decimal

end Conformance
