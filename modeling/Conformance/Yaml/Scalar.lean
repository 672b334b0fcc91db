import Conformance.Yaml.Source

/-!
# Scalars — the texts of a document

A scalar is written in one of four ways: plain, between quotes of either
kind, or as a block of lines. Each reader here starts at the first
character of the scalar, gives its text, and ends behind it. Inside
a scalar a single line end is a space, and of several one is dropped;
a block of lines keeps them unless it is folded.
-/


namespace Conformance

namespace Yaml

namespace Scalar

open Scan

/-- The text that a line end and the empty lines after it stand for. -/
def folded (lineEnd : Char) (breaks : List Char) : List Char :=
  if lineEnd != '\n' then lineEnd :: breaks
  else if breaks.isEmpty then [' ']
  else breaks

/-! ## Plain scalars -/

/-- The marks with a meaning of their own at the start of a scalar. -/
def marks : List Char := "-?:,[]\x7b\x7d#&*!|>'\"%@\x60".toList

/-- Whether a plain scalar can start here. -/
def startsPlain (inFlow : Bool) : Scan Bool := do
  match ← peek with
  | none => return false
  | some c =>
    if !(isSpace c || marks.contains c) then return true
    if ← spaceAt 1 then return false
    return c == '-' || (!inFlow && (c == '?' || c == ':'))

/-- How many characters in front belong to a word of a plain scalar. -/
def wordLength (inFlow : Bool) : List Char → Nat
  | [] => 0
  | c :: rest =>
    let ends (d : Char) : Bool := isSpace d || (inFlow && ",[]\x7b\x7d".toList.contains d)
    if isSpace c || (c == ':' && rest.head?.all ends) ||
        (inFlow && ",?[]\x7b\x7d".toList.contains c) then 0
    else wordLength inFlow rest + 1

/-- A word of a plain scalar, which is passed over. A colon ends a word by what
stands behind it. -/
def plainWord (inFlow : Bool) : Scan (List Char) := do
  if (← peek) = some '#' then return []
  let rest := (← get).rest
  let length := wordLength inFlow rest
  let _ ← ahead (length + if rest[length]? = some ':' then 2 else 1)
  skip length
  return rest.take length

/-- Empty lines inside a plain scalar, up to a marker, which is no part of
it. -/
def plainBreaks : Nat → List Char → Scan (Option (List Char))
  | 0, breaks => return some breaks.reverse
  | fuel + 1, breaks => do
    skipWhile (· == ' ')
    match ← lineBreak? with
    | none => return some breaks.reverse
    | some c => if ← atMarker then return none else plainBreaks fuel (c :: breaks)

/-- The text between two words of a plain scalar, and whether a line ended
there. -/
def plainGap : Scan (List Char × Bool) := do
  let blanks ← takeWhile (· == ' ')
  match ← lineBreak? with
  | none => return (blanks, false)
  | some lineEnd =>
    if ← atMarker then return ([], true)
    match ← plainBreaks (← fuel) [] with
    | none => return ([], true)
    | some breaks => return (folded lineEnd breaks, true)

/-- The words of a plain scalar, and whether a line has ended since the last of
them. -/
def plainWords (inFlow : Bool) (indent : Int) :
    Nat → List Char → Bool → Scan (List Char × Bool)
  | 0, _, ended => return ([], ended)
  | fuel + 1, gap, ended => do
    let word ← plainWord inFlow
    if word.isEmpty then return ([], ended)
    let (next, ended) ← plainGap
    if next.isEmpty || (← peek) = some '#' || (!inFlow && ((← get).column : Int) < indent) then
      return (gap ++ word, ended)
    let (more, ended) ← plainWords inFlow indent fuel next ended
    return (gap ++ word ++ more, ended)

/-- A plain scalar, and whether a line has ended since its last word. Outside
brackets its lines stand at least at `indent`. -/
def plain (inFlow : Bool) (indent : Int) : Scan (List Char × Bool) := do
  plainWords inFlow indent (← fuel) [] false

/-! ## Quoted scalars -/

/-- What a character after a backslash stands for. -/
def escapes : List (Char × Char) :=
  [('0', '\x00'), ('a', '\x07'), ('b', '\x08'), ('t', '\t'), ('\t', '\t'), ('n', '\n'),
    ('v', '\x0b'), ('f', '\x0c'), ('r', '\r'), ('e', '\x1b'), (' ', ' '), ('"', '"'),
    ('\\', '\\'), ('/', '/'), ('N', '\u0085'), ('_', '\u00a0'), ('L', '\u2028'),
    ('P', '\u2029')]

/-- How many digits follow a character after a backslash. -/
def escapeDigits : List (Char × Nat) := [('x', 2), ('u', 4), ('U', 8)]

/-- The empty lines inside a quoted scalar. -/
def quotedBreaks : Nat → List Char → Scan (List Char)
  | 0, _ => refuse
  | fuel + 1, breaks => do
    if ← atMarker then refuse
    skipWhile fun c => c == ' ' || c == '\t'
    match ← lineBreak? with
    | none => return breaks.reverse
    | some c => quotedBreaks fuel (c :: breaks)

/-- Whether a code point is the first half of a pair that stands for one
character. -/
def isFirstHalf (n : Nat) : Bool := 0xd800 ≤ n && n < 0xdc00

/-- Whether a code point is the second half of a pair. -/
def isSecondHalf (n : Nat) : Bool := 0xdc00 ≤ n && n < 0xe000

/-- The character of a code point. A half without the other is none, and is
replaced. -/
def character (n : Nat) : Char :=
  if isFirstHalf n || isSecondHalf n then '\ufffd' else Char.ofNat n

/-- The characters of some code points, two halves being one character. -/
def characters : List Nat → List Char
  | [] => []
  | [n] => [character n]
  | n :: m :: rest =>
    if isFirstHalf n && isSecondHalf m then
      Char.ofNat (0x10000 + 0x400 * (n - 0xd800) + (m - 0xdc00)) :: characters rest
    else character n :: characters (m :: rest)

/-- The code points an escape stands for, from behind its backslash. -/
def escape : Scan (List Nat) := do
  match ← peek with
  | none => refuse
  | some c =>
    match escapes.lookup c, escapeDigits.lookup c with
    | some meant, _ =>
      skip 1
      return [meant.toNat]
    | none, some count =>
      skip 1
      let code ← hexadecimal count
      if 0x10ffff < code then throw (.unrepresentable (.noCharacter code))
      skip count
      return [code]
    | none, none =>
      match ← lineBreak? with
      | some _ => return (← quotedBreaks (← fuel) []).map Char.toNat
      | none => refuse

/-- The text of white space inside a quoted scalar. -/
def quotedGap : Scan (List Char) := do
  let blanks ← takeWhile fun c => c == ' ' || c == '\t'
  if (← peek).isNone then refuse
  match ← lineBreak? with
  | some lineEnd => return folded lineEnd (← quotedBreaks (← fuel) [])
  | none => return blanks

/-- Whether a character stands for itself between quotes of both kinds. -/
def isOrdinary (c : Char) : Bool := !(isSpace c || c == '\'' || c == '"' || c == '\\')

/-- The code points of what stands for some text between quotes and is more
than itself, up to the last quote, which gives nothing. -/
def quotedPart (double : Bool) (c : Char) : Scan (Option (List Nat)) := do
  if isSpace c then return some ((← quotedGap).map Char.toNat)
  else if double then
    if c = '\\' then
      skip 1
      return some (← escape)
    else
      skip 1
      return if c = '"' then none else some [c.toNat]
  else if c = '\'' then
    if (← peekAt 1) = some '\'' then
      skip 2
      return some [c.toNat]
    else
      skip 1
      return none
  else
    skip 1
    return some [c.toNat]

/-- The code points of a quoted scalar, from behind its first quote to behind
its last. -/
def quotedFrom (double : Bool) : Nat → Scan (List Nat)
  | 0 => refuse
  | fuel + 1 => do
    let run := (← takeWhile isOrdinary).map Char.toNat
    match ← peek with
    | none => refuse
    | some c =>
      match ← quotedPart double c with
      | none => return run
      | some part => return run ++ part ++ (← quotedFrom double fuel)

/-- A scalar between quotes. -/
def quoted (double : Bool) : Scan (List Char) := do
  skip 1
  return characters (← quotedFrom double (← fuel))

/-! ## Blocks of lines -/

/-- What becomes of the line ends behind a block: all are dropped, the first
is kept, or all are kept. -/
inductive Chomping where
  | strip
  | clip
  | keep
deriving DecidableEq, Repr

/-- The sign of a chomping, if one stands here. -/
def chomping : Scan Chomping := do
  match ← peek with
  | some '+' =>
    skip 1
    return .keep
  | some '-' =>
    skip 1
    return .strip
  | _ => return .clip

/-- A digit of indentation, if one stands here; it is not zero. -/
def increment : Scan (Option Nat) := do
  match ← peek with
  | some c =>
    if !c.isDigit then return none
    if c = '0' then refuse
    skip 1
    return some (c.toNat - '0'.toNat)
  | none => return none

/-- The head of a block: a sign and a digit, in either order. -/
def blockHead : Scan (Chomping × Option Nat) := do
  let sign ← chomping
  let digit ← increment
  if sign = .clip && digit.isSome then return (← chomping, digit)
  return (sign, digit)

/-- The empty lines before a block, and the greatest column that their spaces
reach. -/
def blockIndentation : Nat → List Char → Nat → Scan (List Char × Nat)
  | 0, breaks, most => return (breaks.reverse, most)
  | fuel + 1, breaks, most => do
    match ← lineBreak? with
    | some c => blockIndentation fuel (c :: breaks) most
    | none =>
      if (← peek) = some ' ' then
        skipWhile (· == ' ')
        blockIndentation fuel breaks (max most (← get).column)
      else return (breaks.reverse, most)

/-- Passes over the spaces of a line, at most up to a column. -/
def skipIndent (indent : Nat) : Scan Unit := do
  let s ← get
  let room := indent - s.column
  skip ((s.rest.take room).takeWhile (· == ' ')).length

/-- Empty lines inside a block. -/
def blockBreaks (indent : Nat) : Nat → List Char → Scan (List Char)
  | 0, breaks => return breaks.reverse
  | fuel + 1, breaks => do
    skipIndent indent
    match ← lineBreak? with
    | some c => blockBreaks indent fuel (c :: breaks)
    | none => return breaks.reverse

/-- Whether the next character is white space inside a line. -/
def atBlank : Scan Bool := return (← peek).any fun c => c == ' ' || c == '\t'

/-- Whether a line of a block starts here. -/
def atLine (indent : Nat) : Scan Bool :=
  return (← get).column = indent && (← peek).isSome

/-- The lines of a block, each with its end; `breaks` are the empty lines
before the next. -/
def blockLines (fold : Bool) (indent : Nat) (chomp : Chomping) :
    Nat → List Char → Scan (List Char)
  | 0, _ => return []
  | fuel + 1, breaks => do
    let flush := !(← atBlank)
    let line ← takeWhile fun c => !isBreak c
    let lineEnd := (← lineBreak?).toList
    let empty ← blockBreaks indent (← Scan.fuel) []
    if ← atLine indent then
      let joint :=
        if fold && lineEnd == ['\n'] && flush && !(← atBlank) then
          if empty.isEmpty then [' '] else []
        else lineEnd
      return breaks ++ line ++ joint ++ (← blockLines fold indent chomp fuel empty)
    else
      return breaks ++ line ++ (if chomp = .strip then [] else lineEnd) ++
        (if chomp = .keep then empty else [])

/-- A block of lines, folded or not, under an indentation. -/
def block (fold : Bool) (indent : Int) : Scan (List Char) := do
  skip 1
  let (chomp, digit) ← blockHead
  if !(← atGap) then refuse
  endLine
  let least : Nat := (max (indent + 1) 1).toNat
  let (breaks, column) ← match digit with
    | none => do
      let (breaks, most) ← blockIndentation (← fuel) [] 0
      pure (breaks, max least most)
    | some n => do
      let breaks ← blockBreaks (least + n - 1) (← fuel) []
      pure (breaks, least + n - 1)
  if ← atLine column then blockLines fold column chomp (← fuel) breaks
  else return if chomp = .keep then breaks else []

end Scalar

end Yaml

end Conformance
