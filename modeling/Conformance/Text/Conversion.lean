import Conformance.Number.Numeral
import Conformance.Text.Quoted

/-!
# Conversions — values laid out to a width

A value is shown by a conversion: a text as it is or between quotes, an
integer by its digits in a base or as a real number, or by the character
that it counts. Not every value can be shown by every conversion: a text is no
number, and only one of a single character is a character. A layout then gives
the value a sign, fills it up to a width, and bounds the number of characters
or of places.
-/


namespace Conformance

namespace Text

/-- How a text is shown. -/
inductive Showing where
  | plain
  | quoted
  /-- Between quotes, with every character outside ASCII by its code point. -/
  | quotedAscii
deriving DecidableEq, Repr

/-- The base in which the digits of an integer are written. -/
inductive Radix where
  | decimal
  | octal
  | hexadecimal (upper : Bool)
deriving DecidableEq, Repr

/-- The form of a real number. -/
inductive RealForm where
  /-- One digit before the point, and an exponent. -/
  | scientific
  /-- No exponent. -/
  | fixed
  /-- Whichever is shorter, as a rule, without zeros at the end. -/
  | general
deriving DecidableEq, Repr

/-- How a value is shown. -/
inductive Conversion where
  | text (showing : Showing)
  | integer (radix : Radix)
  | real (form : RealForm) (upper : Bool)
  | character
deriving DecidableEq, Repr

/-- How a value is laid out. -/
structure Layout where
  /-- Fills up behind the value rather than in front. -/
  left : Bool := false
  /-- Shows the sign of what is not negative. -/
  plus : Bool := false
  /-- Leaves room for the sign of what is not negative. -/
  blank : Bool := false
  /-- Fills up with zeros. -/
  zeros : Bool := false
  /-- Shows the mark of a base, or a point with nothing behind it. -/
  alternate : Bool := false
  width : Nat := 0
  precision : Option Nat := none
deriving DecidableEq, Repr

namespace Layout

/-- A value that is shown as it is. -/
def plain : Layout := {}

/-- Fills a value up to the width: its sign and its mark stay in front of
zeros, and behind spaces. -/
def fill (l : Layout) (numeric : Bool) (sign mark body : List Char) : List Char :=
  let missing := l.width - (sign.length + mark.length + body.length)
  if l.left then sign ++ mark ++ body ++ List.replicate missing ' '
  else if numeric && l.zeros then sign ++ mark ++ List.replicate missing '0' ++ body
  else List.replicate missing ' ' ++ sign ++ mark ++ body

/-- The sign of a number. -/
def sign (l : Layout) (negative : Bool) : List Char :=
  if negative then ['-'] else if l.plus then ['+'] else if l.blank then [' '] else []

/-! ## Texts -/

/-- A text between quotes, in ASCII. -/
def quotedAscii (s : String) : List Char :=
  (Text.quoted s).toList.flatMap fun c => if c.toNat < 0x80 then [c] else Text.escapeCode c

/-- A text as it is shown. -/
def shown : Showing → String → List Char
  | .plain, s => s.toList
  | .quoted, s => (Text.quoted s).toList
  | .quotedAscii, s => quotedAscii s

/-- A text laid out; the precision bounds the number of its characters. -/
def text (l : Layout) (showing : Showing) (s : String) : List Char :=
  let shown := shown showing s
  l.fill false [] [] (match l.precision with
    | none => shown
    | some most => shown.take most)

/-- A text laid out as it is. -/
@[simp] theorem text_plain (s : String) : plain.text .plain s = s.toList := by
  simp [text, fill, plain, shown]

/-! ## Integers -/

/-- The base of a radix. -/
def base : Radix → Nat
  | .decimal => 10
  | .octal => 8
  | .hexadecimal _ => 16

/-- The mark of a base. -/
def baseMark : Radix → List Char
  | .decimal => []
  | .octal => ['0', 'o']
  | .hexadecimal upper => ['0', if upper then 'X' else 'x']

/-- The digits of a number. -/
def digits (radix : Radix) (n : Nat) : List Char :=
  let digits := Nat.toDigits (base radix) n
  if radix = .hexadecimal true then digits.map Char.toUpper else digits

/-- An integer laid out; the precision is the least number of its digits. -/
def integer (l : Layout) (radix : Radix) (n : Int) : List Char :=
  let digits := digits radix n.natAbs
  let padding := List.replicate (l.precision.getD 0 - digits.length) '0'
  l.fill true (l.sign (n < 0)) (if l.alternate then baseMark radix else []) (padding ++ digits)

/-! ## Whole numbers as real ones -/

/-- The double nearest to a number, as a number; none if it is too large. -/
def wholeDouble? (n : Nat) : Option Nat :=
  match Binary64.ofRatio false n 1 with
  | .finite _ m q => some (m * twoTo q.toNat / twoTo (-q).toNat)
  | _ => none

/-- The first digits of a number, as many as asked for, a half rounded to the
even neighbour, and the exponent of the first one. -/
def leadingDigits (n count : Nat) : List Char × Nat :=
  let length := (Nat.toDigits 10 n).length
  if length ≤ count then
    (Nat.toDigits 10 n ++ List.replicate (count - length) '0', length - 1)
  else
    let digits := Nat.toDigits 10 (roundHalfEven n (tenTo (length - count)))
    (digits.take count, length - 1 + (digits.length - count))

/-- A row of digits without the zeros at its end. -/
def withoutZeros (digits : List Char) : List Char :=
  (digits.reverse.dropWhile (· == '0')).reverse

/-- Digits before the point and behind it; without any behind it the point
stays where it is asked for. -/
def pointed (alternate : Bool) (whole places : List Char) : List Char :=
  whole ++ (if places.isEmpty && !alternate then [] else '.' :: places)

/-- A mark and an exponent of at least two digits. -/
def exponentPart (upper : Bool) (exponent : Nat) : List Char :=
  let digits := Nat.toDigits 10 exponent
  (if upper then 'E' else 'e') :: '+' :: (List.replicate (2 - digits.length) '0' ++ digits)

/-- A number in scientific form, with some places. -/
def scientific (alternate upper : Bool) (n places : Nat) : List Char :=
  let (digits, exponent) := leadingDigits n (places + 1)
  pointed alternate (digits.take 1) (digits.drop 1) ++ exponentPart upper exponent

/-- A number in fixed form, with some places. -/
def fixed (alternate : Bool) (n places : Nat) : List Char :=
  pointed alternate (Nat.toDigits 10 n) (List.replicate places '0')

/-- A number in general form, with some digits. It is positional while it has
no more digits than that before its point. -/
def general (alternate upper : Bool) (n count : Nat) : List Char :=
  let count := max count 1
  let (digits, exponent) := leadingDigits n count
  let kept (places : List Char) : List Char := if alternate then places else withoutZeros places
  if exponent < count then
    pointed alternate (digits.take (exponent + 1)) (kept (digits.drop (exponent + 1)))
  else
    pointed alternate (digits.take 1) (kept (digits.drop 1)) ++ exponentPart upper exponent

/-- A whole number laid out as a real one; the precision is the number of its
places or, in general form, of its digits. -/
def real (l : Layout) (form : RealForm) (upper : Bool) (n : Int) : List Char :=
  let precision := l.precision.getD 6
  let body := match wholeDouble? n.natAbs, form with
    | none, _ => if upper then "INF".toList else "inf".toList
    | some n, .scientific => scientific l.alternate upper n precision
    | some n, .fixed => fixed l.alternate n precision
    | some n, .general => general l.alternate upper n precision
  l.fill true (l.sign (n < 0)) [] body

/-! ## By conversion -/

/-- A text laid out by a conversion, if it can be. -/
def showText? (l : Layout) (c : Conversion) (s : String) : Option (List Char) :=
  match c, s.toList with
  | .text showing, _ => some (l.text showing s)
  | .character, [c] => some (l.fill false [] [] [c])
  | _, _ => none

/-- An integer laid out by a conversion, if it can be. -/
def showInteger? (l : Layout) (c : Conversion) (n : Int) : Option (List Char) :=
  match c with
  | .text _ => some (l.text .plain (toString n))
  | .integer radix => some (l.integer radix n)
  | .real form upper => some (l.real form upper n)
  | .character =>
    if 0 ≤ n ∧ n.toNat.isValidChar then some (l.fill false [] [] [Char.ofNat n.toNat]) else none

end Layout

end Text

end Conformance
