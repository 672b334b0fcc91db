import Conformance.Text.Blocks

/-!
# Source — a text as it is read

A source is what is left of a text, with the place at which it begins: how
many characters and lines come before, and the column. A text arrives in
pieces, and it may break off: a piece that holds a character no document may
hold, or bytes that encode none, does not arrive. What came before it is read
all the same, and the fault counts only once a character beyond is looked at.
`Scan` is a step of reading. It moves the place forward, and looks at the
character behind whatever it passes over. Lines end at a line feed, a
next-line control, or a line or paragraph separator.
-/


namespace Conformance

namespace Yaml

/-- Why a scalar stands for nothing, or a node cannot be followed. -/
inductive Misfit where
  | notInteger (base : Nat) (text : String)
  | notFloat (text : String)
  /-- A number without any character. -/
  | noDigits
  /-- An integer with more digits than one is read with. -/
  | tooManyDigits (count : Nat)
  | notBoolean (word : String)
  | notStamp
  /-- A day or a moment that is written as a mapping. -/
  | mappedStamp
  | outOfCalendar (message : String)
  /-- An offset in minutes that is a day or more. -/
  | offsetTooLarge (minutes : Int)
  /-- Parts of sixty beyond the greatest double. -/
  | tooLarge
  | noCharacter (code : Nat)
  /-- Nodes within nodes beyond the greatest depth. -/
  | tooDeep
deriving DecidableEq, Repr

/-- Why a document cannot be read. -/
inductive Fault where
  | malformed
  /-- The text breaks off. -/
  | brokenOff
  /-- A scalar that has the tag of a number, a day or a character and stands
  for none. -/
  | unrepresentable (misfit : Misfit)
deriving DecidableEq, Repr

/-- Whether a character may stand in a document. -/
def isAllowed (c : Char) : Bool :=
  let n := c.toNat
  n == 0x9 || n == 0xa || n == 0xd || n == 0x85 || (0x20 ≤ n && n ≤ 0x7e) ||
    (0xa0 ≤ n && n ≤ 0xd7ff) || (0xe000 ≤ n && n ≤ 0xfffd) || 0x10000 ≤ n

/-- Whether a character ends a line. -/
def isBreak (c : Char) : Bool :=
  c == '\n' || c == '\u0085' || c == '\u2028' || c == '\u2029'

/-- Whether a character separates words. -/
def isSpace (c : Char) : Bool := c == ' ' || c == '\t' || isBreak c

/-- Whether a character is a space or ends a line. -/
def isGap (c : Char) : Bool := c == ' ' || isBreak c

/-- The mark that may stand before a text. -/
def byteOrderMark : Char := '\ufeff'

/-- A text as it is read: the characters that are left, the fault behind them
if the text breaks off there, the place, and how many characters there were
at first. -/
structure Source where
  rest : List Char
  behind : Option Fault := none
  index : Nat := 0
  line : Nat := 0
  column : Nat := 0
  size : Nat := 0

namespace Source

/-- Two blocks arrive first, and then one at a time. -/
def pieces : List (List Char) → List (List Char)
  | first :: second :: rest => (first ++ second) :: rest
  | rows => rows

/-- A text before its first character. -/
def ofBlocks (blocks : Text.Blocks) : Source :=
  let pieces := if blocks.fault.isSome && blocks.rows.length < 2 then [] else pieces blocks.rows
  let arrived := pieces.takeWhile fun piece => piece.all isAllowed
  let rest := arrived.flatten
  { rest
    behind :=
      if arrived.length < pieces.length then some .malformed
      else blocks.fault.map fun _ => .brokenOff
    size := rest.length }

/-- The place after one character. -/
def next (s : Source) : Source :=
  match s.rest with
  | [] => s
  | c :: rest =>
    if isBreak c then { s with rest, index := s.index + 1, line := s.line + 1, column := 0 }
    else
      { s with
        rest, index := s.index + 1
        column := if c = byteOrderMark then s.column else s.column + 1 }

/-- The place after some characters. -/
def advance (s : Source) : Nat → Source
  | 0 => s
  | n + 1 => s.next.advance n

end Source

/-- A step of reading. -/
abbrev Scan := StateT Source (Except Fault)

namespace Scan

/-- Refuses the text. -/
def refuse {α : Type} : Scan α := throw .malformed

/-- A bound on the steps of any loop over what is left. -/
def fuel : Scan Nat := return (← get).size + 2

/-- The next characters, as many as asked for; there are fewer at the end of
the text only. -/
def ahead (count : Nat) : Scan (List Char) := do
  let s ← get
  let text := s.rest.take count
  match s.behind with
  | some f => if text.length < count then throw f else return text
  | none => return text

/-- The character some places on. -/
def peekAt (n : Nat) : Scan (Option Char) := return (← ahead (n + 1))[n]?

/-- The character that comes next. -/
def peek : Scan (Option Char) := peekAt 0

/-- Passes over some characters. -/
def skip (count : Nat) : Scan Unit := do
  let _ ← ahead (count + 1)
  modify fun s => s.advance count

/-- The characters in front that satisfy a condition, which are passed over. -/
def takeWhile (p : Char → Bool) : Scan (List Char) := do
  let run := (← get).rest.takeWhile p
  skip run.length
  return run

/-- Passes over the characters in front that satisfy a condition. -/
def skipWhile (p : Char → Bool) : Scan Unit := do
  let _ ← takeWhile p

/-- Whether the character some places on, if there is one, separates words. -/
def spaceAt (n : Nat) : Scan Bool := return (← peekAt n).all isSpace

/-- Whether the next character, if there is one, ends a line. -/
def atBreak : Scan Bool := return (← peek).all isBreak

/-- Whether the next character is a space or ends a line, or nothing comes. -/
def atGap : Scan Bool := return (← peek).all isGap

/-- Whether a mark stands here three times, alone. -/
def atRow (mark : Char) : Scan Bool := do
  if (← ahead 3) = [mark, mark, mark] then spaceAt 3 else return false

/-- Whether one of the rows stands here that part documents. -/
def atMarker : Scan Bool := do
  if ← atRow '-' then return true else atRow '.'

/-- Passes over a comment, if one stands here. -/
def skipComment : Scan Unit := do
  if (← peek) = some '#' then skipWhile fun c => !isBreak c

/-- Passes over a line end, if one stands here, and gives it as it counts in a
text: the separators stay, and the others are line feeds. -/
def lineBreak? : Scan (Option Char) := do
  match ← peek with
  | some c =>
    if isBreak c then
      skip 1
      return some (if c = '\u0085' then '\n' else c)
    else return none
  | none => return none

/-- Moves to the next line, if nothing but a comment stands before it. -/
def endLine : Scan Unit := do
  skipWhile (· == ' ')
  skipComment
  if !(← atBreak) then refuse
  let _ ← lineBreak?

/-- The value of a hexadecimal digit. -/
def hexValue (c : Char) : Nat :=
  if c.isDigit then c.toNat - '0'.toNat else c.toLower.toNat - 'a'.toNat + 10

/-- Whether a character is a hexadecimal digit. -/
def isHex (c : Char) : Bool := c.isDigit || ('a' ≤ c && c ≤ 'f') || ('A' ≤ c && c ≤ 'F')

/-- The value of a row of hexadecimal digits, as many as asked for, which
stay. -/
def hexadecimal (count : Nat) : Scan Nat := do
  let digits := ((← get).rest.take count).takeWhile isHex
  if digits.length < count then
    let _ ← ahead (digits.length + 1)
    refuse
  return digits.foldl (fun n c => 16 * n + hexValue c) 0

end Scan

end Yaml

end Conformance
