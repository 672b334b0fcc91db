import Conformance.Number.Binary64
import Conformance.Text.Digit

/-!
# Numerals — numbers as they are written

A numeral is a signed coefficient times a power of ten, which is what
decimal notation writes: digits with or without a point, and an optional
exponent. `Numeral.read?` reads one, and `Binary64.ofNumeral` is the double
nearest to it. `readInteger?` reads an integer in a base, of however many
digits; where an integer may not have more than `digitLimit` of them the caller
looks.
-/


namespace Conformance

/-- The number `± coefficient · 10 ^ exponent`, as it was written. -/
structure Numeral where
  negative : Bool
  coefficient : Nat
  exponent : Int
deriving DecidableEq, Repr

/-- The value of a row of decimal digits. -/
def digitsValue (digits : List Char) : Nat :=
  digits.foldl (fun value c => 10 * value + (c.toNat - '0'.toNat)) 0

/-- The greatest number of decimal digits with which an integer is read or
written. -/
def digitLimit : Nat := 4300

/-- A sign, if one stands in front, and the rest. -/
def splitSign : List Char → Bool × List Char
  | '-' :: rest => (true, rest)
  | '+' :: rest => (false, rest)
  | rest => (false, rest)

/-! ## Integers -/

/-- The value of a digit, where the letters follow ten. -/
def digitIn? (base : Nat) (c : Char) : Option Nat :=
  let value :=
    if c.isDigit then c.toNat - '0'.toNat
    else if c.isAlpha then c.toLower.toNat - 'a'.toNat + 10
    else base
  if value < base then some value else none

/-- The letters that mark a base behind a zero. -/
def baseMarks (base : Nat) : List Char :=
  match base with
  | 2 => ['b', 'B']
  | 8 => ['o', 'O']
  | 16 => ['x', 'X']
  | _ => []

/-- The digits behind the mark of a base, if it is there; a low line may
follow the mark. -/
def dropBaseMark (base : Nat) (digits : List Char) : List Char :=
  match digits with
  | '0' :: mark :: rest =>
    if (baseMarks base).contains mark then
      if rest.head? = some '_' then rest.tail else rest
    else digits
  | _ => digits

/-- An integer in a base: white space, a sign, the mark of the base, and
digits, which low lines may separate. -/
def readInteger? (base : Nat) (text : List Char) : Option Int := do
  let (negative, digits) := splitSign (Text.trimAscii (Text.plainDigits text))
  let digits ← Text.unseparated? Char.isAlphanum (dropBaseMark base digits)
  guard !digits.isEmpty
  let values ← digits.mapM (digitIn? base)
  let size : Nat := values.foldl (fun value d => base * value + d) 0
  return if negative then -(size : Int) else size

/-- The number of decimal digits that a written integer begins with, behind white
space and a sign. -/
def digitCount (text : List Char) : Nat :=
  let (_, digits) := splitSign ((Text.plainDigits text).dropWhile Text.isAsciiBlank)
  (digits.takeWhile Char.isDigit).length

/-! ## Decimal notation -/

namespace Numeral

/-- The exponent part: nothing, or a mark, an optional sign and digits. -/
def readExponent? : List Char → Option Int
  | [] => some 0
  | mark :: rest =>
    let (negative, digits) := splitSign rest
    if (mark = 'e' || mark = 'E') && !digits.isEmpty && digits.all Char.isDigit then
      some (if negative then -(digitsValue digits : Int) else digitsValue digits)
    else none

/-- A numeral in decimal notation. -/
def read? (text : List Char) : Option Numeral :=
  let (negative, text) := splitSign text
  let whole := text.takeWhile Char.isDigit
  let rest := text.dropWhile Char.isDigit
  let (places, tail) := match rest with
    | '.' :: more => (more.takeWhile Char.isDigit, more.dropWhile Char.isDigit)
    | _ => ([], rest)
  if whole.isEmpty && places.isEmpty then none
  else (readExponent? tail).map fun exponent =>
    ⟨negative, digitsValue (whole ++ places), exponent - places.length⟩

end Numeral

namespace Binary64

/-- The nearest double to a numeral. Beyond four hundred places either way
the answer is an infinity or zero. -/
def ofNumeral (x : Numeral) : Binary64 :=
  let size : Int := x.exponent + (toString x.coefficient).length
  if x.coefficient = 0 || size < -400 then .finite x.negative 0 leastExponent
  else if 400 < size then .infinite x.negative
  else ofRatio x.negative (x.coefficient * tenTo x.exponent.toNat) (tenTo (-x.exponent).toNat)

/-- A double in decimal notation, or one of the words for an infinity or for
no number, in letters of either case, with white space around it. -/
def read? (text : List Char) : Option Binary64 := do
  let text ← Text.unseparated? Char.isDigit (Text.trimAscii (Text.plainDigits text))
  let (negative, word) := splitSign (text.map Char.toLower)
  if word = "inf".toList || word = "infinity".toList then return .infinite negative
  else if word = "nan".toList then return .nan
  else (Numeral.read? text).map ofNumeral

end Binary64

end Conformance
