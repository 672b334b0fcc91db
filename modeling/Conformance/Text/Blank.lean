import Conformance.Text.Range

/-!
# Blank — white space, and texts without it at their ends

The characters that count as white space where a text is trimmed: the
separators of Unicode, the controls that move the position of print, and
the four information separators. `Text.trim` drops them from both ends of
a text and nowhere else.
-/


namespace Conformance

namespace Text

/-- The code points that are white space, as closed ranges in order. -/
def blankRanges : List (Nat × Nat) :=
  [(0x9, 0xd), (0x1c, 0x20), (0x85, 0x85), (0xa0, 0xa0), (0x1680, 0x1680), (0x2000, 0x200a),
    (0x2028, 0x2029), (0x202f, 0x202f), (0x205f, 0x205f), (0x3000, 0x3000)]

/-- Whether a character is white space. -/
def isBlank (c : Char) : Bool := inRanges blankRanges c.toNat

/-- A row of characters without the white space at its ends. -/
def trimList (s : List Char) : List Char :=
  ((s.dropWhile isBlank).reverse.dropWhile isBlank).reverse

/-- A text without the white space at its ends. -/
def trim (s : String) : String := String.ofList (trimList s.toList)

end Text

end Conformance
