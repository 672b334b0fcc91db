import Conformance.Text.Blank

/-!
# Digits — decimal digits of every script, and separators between them

A number may be written in the decimal digits of any script of Unicode.
`Text.plainDigits` writes them in ASCII, with plain spaces for the white
space of other scripts, so that a reader of numbers needs to know ASCII
alone. `Text.unseparated?` takes out the low lines that separate digits.
-/


namespace Conformance

namespace Text

/-- The code points of the digit zero in each script, in order. The other nine
digits follow each. -/
def zeros : List Nat :=
  [0x30, 0x660, 0x6f0, 0x7c0, 0x966, 0x9e6, 0xa66, 0xae6, 0xb66, 0xbe6, 0xc66, 0xce6, 0xd66, 0xde6,
    0xe50, 0xed0, 0xf20, 0x1040, 0x1090, 0x17e0, 0x1810, 0x1946, 0x19d0, 0x1a80, 0x1a90, 0x1b50,
    0x1bb0, 0x1c40, 0x1c50, 0xa620, 0xa8d0, 0xa900, 0xa9d0, 0xa9f0, 0xaa50, 0xabf0, 0xff10,
    0x104a0, 0x10d30, 0x11066, 0x110f0, 0x11136, 0x111d0, 0x112f0, 0x11450, 0x114d0, 0x11650,
    0x116c0, 0x11730, 0x118e0, 0x11950, 0x11c50, 0x11d50, 0x11da0, 0x16a60, 0x16ac0, 0x16b50,
    0x1d7ce, 0x1d7d8, 0x1d7e2, 0x1d7ec, 0x1d7f6, 0x1e140, 0x1e2f0, 0x1e950, 0x1fbf0]

/-- The value of a decimal digit of any script. -/
def digitValue? (c : Char) : Option Nat :=
  (zeros.find? fun first => first ≤ c.toNat && c.toNat ≤ first + 9).map fun first => c.toNat - first

/-- A character of a number in ASCII: a digit by its value, and white space
outside ASCII as a space. -/
def plainDigit (c : Char) : Char :=
  if c.toNat < 0x7f then c
  else if isBlank c then ' '
  else match digitValue? c with
    | some d => Char.ofNat (0x30 + d)
    | none => c

/-- A written number in ASCII. -/
def plainDigits (s : List Char) : List Char := s.map plainDigit

/-- White space of ASCII. -/
def isAsciiBlank (c : Char) : Bool := c == ' ' || (0x9 ≤ c.toNat && c.toNat ≤ 0xd)

/-- A row of characters without the white space of ASCII at its ends. -/
def trimAscii (s : List Char) : List Char :=
  ((s.dropWhile isAsciiBlank).reverse.dropWhile isAsciiBlank).reverse

/-- A row of digits and other characters without its low lines, each of which
has to stand between two digits; `behind` says whether a digit comes before. -/
def unseparatedFrom? (isDigit : Char → Bool) (behind : Bool) : List Char → Option (List Char)
  | [] => some []
  | c :: rest =>
    if c = '_' then
      if behind && rest.head?.any isDigit then unseparatedFrom? isDigit false rest else none
    else (unseparatedFrom? isDigit (isDigit c) rest).map (c :: ·)

/-- A written number without the low lines between its digits. -/
def unseparated? (isDigit : Char → Bool) (s : List Char) : Option (List Char) :=
  unseparatedFrom? isDigit false s

end Text

end Conformance
