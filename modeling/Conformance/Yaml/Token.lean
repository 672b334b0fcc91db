import Conformance.Yaml.Scalar

/-!
# Tokens — the marks and scalars of a document

A `Scanner` reads a text as tokens, one after the other and no further than
it is asked to. Blocks have no brackets of their own, so it keeps the
indentation of the blocks that are open and adds their starts and ends. A key
need not be marked either: whatever could be one is remembered until the
colon that would make it one, and the mark is put in front of it then. So a
token that could be a key is settled only once this is known. A key of this
kind stands on one line and within 1024 characters.
-/


namespace Conformance

namespace Yaml

/-- A line of instructions before a document. -/
inductive Directive where
  | version (major : Nat)
  | tag (handle stem : String)
  | other
deriving DecidableEq, Repr

/-- A token. -/
inductive Token where
  | directive (d : Directive)
  | documentStart
  | documentEnd
  | blockSequenceStart
  | blockMappingStart
  | blockEnd
  | flowSequenceStart
  | flowSequenceEnd
  | flowMappingStart
  | flowMappingEnd
  | blockEntry
  | flowEntry
  | key
  | value
  | alias (name : String)
  | anchor (name : String)
  | tag (handle : Option String) (suffix : String)
  | scalar (text : String) (plain : Bool)
deriving DecidableEq, Repr

/-! ## Names, tags and directives -/

/-- The characters of names. -/
def isNameChar (c : Char) : Bool :=
  ('0' ≤ c && c ≤ '9') || ('A' ≤ c && c ≤ 'Z') || ('a' ≤ c && c ≤ 'z') || c == '-' || c == '_'

/-- The characters that stand for themselves in a tag. -/
def isTagChar (c : Char) : Bool :=
  isNameChar c || ";/?:@&=+$,.!~*'()[]".toList.contains c

namespace Scan

/-- A name, which may not be empty. -/
def name : Scan String := do
  let name ← takeWhile isNameChar
  if name.isEmpty then refuse
  return String.ofList name

/-- The name of an anchor or an alias, behind its mark. -/
def anchor : Scan String := do
  skip 1
  let name ← name
  if (← peek).all fun c => isSpace c || "?:,]\x7d%@\x60".toList.contains c then return name
  else refuse

/-- The octets of escapes that follow each other. -/
def octets : Nat → Scan (List UInt8)
  | 0 => return []
  | fuel + 1 => do
    if (← peek) = some '%' then
      skip 1
      let octet ← hexadecimal 2
      skip 2
      return UInt8.ofNat octet :: (← octets fuel)
    else return []

/-- The characters of a tag. -/
def tagText : Nat → Scan (List Char)
  | 0 => return []
  | fuel + 1 => do
    let run ← takeWhile isTagChar
    if (← peek) = some '%' then
      match Utf8.decode (← octets (← Scan.fuel)) with
      | .error _ => refuse
      | .ok letters => return run ++ letters ++ (← tagText fuel)
    else return run

/-- The text of a tag, which may not be empty. -/
def tagUri : Scan String := do
  let start := (← get).index
  let text ← tagText (← fuel)
  if (← get).index = start then refuse
  return String.ofList text

/-- The handle of a tag: a mark, or a name between two. -/
def tagHandle : Scan String := do
  if (← peek) ≠ some '!' then refuse
  if (← peekAt 1) = some ' ' then
    skip 1
    return "!"
  else
    skip 1
    let name ← takeWhile isNameChar
    if (← peek) ≠ some '!' then refuse
    skip 1
    return "!" ++ String.ofList name ++ "!"

/-- Whether a second mark stands in the word that starts here with one. -/
def hasSecondMark : Scan Bool := do
  let word := ((← get).rest.drop 1).takeWhile fun c => !(isGap c || c == '!')
  return (← peekAt (word.length + 1)) = some '!'

/-- A tag, from its mark on: between angle brackets, the mark alone, or a
handle and the rest of the tag. -/
def tag : Scan Token := do
  let token ←
    if (← peekAt 1) = some '<' then do
      skip 2
      let suffix ← tagUri
      if (← peek) ≠ some '>' then refuse
      skip 1
      pure (Token.tag none suffix)
    else if ← spaceAt 1 then do
      skip 1
      pure (Token.tag none "!")
    else do
      let handle ← if ← hasSecondMark then tagHandle else do
        skip 1
        pure "!"
      pure (Token.tag (some handle) (← tagUri))
  if ← atGap then return token else refuse

/-- A number in a directive. -/
def number : Scan Nat := do
  let digits ← takeWhile Char.isDigit
  if digits.isEmpty then refuse
  return digits.foldl (fun n c => 10 * n + (c.toNat - '0'.toNat)) 0

/-- A line of instructions, from its mark to the next line. -/
def directive : Scan Directive := do
  skip 1
  let name ← name
  if !(← atGap) then refuse
  let directive ←
    if name = "YAML" then do
      skipWhile (· == ' ')
      let major ← number
      if (← peek) ≠ some '.' then refuse
      skip 1
      let _ ← number
      if !(← atGap) then refuse
      pure (Directive.version major)
    else if name = "TAG" then do
      skipWhile (· == ' ')
      let handle ← tagHandle
      if (← peek) ≠ some ' ' then refuse
      skipWhile (· == ' ')
      let stem ← tagUri
      if !(← atGap) then refuse
      pure (Directive.tag handle stem)
    else do
      skipWhile fun c => !isBreak c
      pure Directive.other
  endLine
  return directive

end Scan

/-! ## The state of scanning -/

/-- What could be a key: how many tokens come before it, whether it has to
be one, and where it starts. -/
structure KeyStart where
  before : Nat
  required : Bool
  index : Nat
  line : Nat
  column : Nat

/-- The state of scanning: the place, the tokens that are read and not yet
taken, how many were taken, whether the text has ended, the indentation of the
innermost block and of those around it, whether a key may start, and what
could be a key at each depth of brackets, the innermost first. -/
structure Reading where
  source : Source
  queue : List Token := []
  taken : Nat := 0
  ended : Bool := false
  indent : Int := -1
  outer : List Int := []
  keyAllowed : Bool := true
  keys : List (Option KeyStart) := [none]

/-- Whether the place is inside brackets. -/
def Reading.inFlow (r : Reading) : Bool := 1 < r.keys.length

/-- A step of scanning. -/
abbrev Scanner := StateT Reading (Except Fault)

namespace Scanner

/-- Refuses the text. -/
def refuse {α : Type} : Scanner α := throw .malformed

/-- A step of reading. -/
def scan {α : Type} (step : Scan α) : Scanner α := fun r => do
  let (a, source) ← step.run r.source
  return (a, { r with source })

/-- Whether the place is inside brackets. -/
def inFlow : Scanner Bool := return (← get).inFlow

/-- Adds a token. -/
def emit (t : Token) : Scanner Unit := modify fun r => { r with queue := r.queue ++ [t] }

/-- Adds a token after some others. -/
def insert (before : Nat) (t : Token) : Scanner Unit :=
  modify fun r =>
    let (front, rest) := r.queue.splitAt (before - r.taken)
    { r with queue := front ++ t :: rest }

/-- Says whether a key may start next. -/
def allow (keyAllowed : Bool) : Scanner Unit := modify fun r => { r with keyAllowed }

/-- Gives up on keys that have gone on for too long. -/
def dropStale : Scanner Unit := do
  let r ← get
  let keep (k : Option KeyStart) : Scanner (Option KeyStart) :=
    match k with
    | none => return none
    | some k =>
      if k.line = r.source.line ∧ r.source.index ≤ k.index + 1024 then return some k
      else if k.required then refuse
      else return none
  let keys ← r.keys.mapM keep
  set { r with keys }

/-- Gives up on the key at the present depth. -/
def dropKey : Scanner Unit := do
  let r ← get
  match r.keys with
  | some k :: rest =>
    if k.required then refuse
    set { r with keys := none :: rest }
  | _ => return ()

/-- Remembers that what starts here could be a key. In the column of a block
nothing else could start. -/
def saveKey : Scanner Unit := do
  if !(← get).keyAllowed then return ()
  dropKey
  modify fun r =>
    let s := r.source
    let start : KeyStart :=
      ⟨r.taken + r.queue.length, !r.inFlow && r.indent == (s.column : Int), s.index, s.line,
        s.column⟩
    { r with keys := some start :: r.keys.tail }

/-- Ends the blocks that are indented beyond a column. -/
def unwind (column : Int) : Int → List Int → List Token → Int × List Int × List Token
  | indent, [], ends => (indent, [], ends)
  | indent, around :: outer, ends =>
    if column < indent then unwind column around outer (.blockEnd :: ends)
    else (indent, around :: outer, ends)

/-- Ends the blocks that are indented beyond a column; inside brackets
indentation does not count. -/
def closeBlocks (column : Int) : Scanner Unit :=
  modify fun r =>
    if r.inFlow then r
    else
      let (indent, outer, ends) := unwind column r.indent r.outer []
      { r with indent, outer, queue := r.queue ++ ends }

/-- Whether a column lies beyond the innermost block. -/
def isDeeper (column : Nat) : Scanner Bool := return (← get).indent < (column : Int)

/-- Starts a block at a column. -/
def openBlock (column : Nat) : Scanner Unit :=
  modify fun r => { r with indent := column, outer := r.indent :: r.outer }

/-! ## The tokens one by one -/

/-- Ends all blocks, in front of a line that stands outside documents. -/
def closeAll : Scanner Unit := do
  closeBlocks (-1)
  dropKey
  allow false

/-- A row of marks between documents. -/
def marker (t : Token) : Scanner Unit := do
  closeAll
  scan (Scan.skip 3)
  emit t

/-- A line of instructions. -/
def directive : Scanner Unit := do
  closeAll
  emit (.directive (← scan Scan.directive))

/-- A single mark. -/
def mark (t : Token) : Scanner Unit := do
  scan (Scan.skip 1)
  emit t

/-- An opening bracket. -/
def openFlow (t : Token) : Scanner Unit := do
  saveKey
  modify fun r => { r with keys := none :: r.keys, keyAllowed := true }
  mark t

/-- A closing bracket. One that closes nothing is left for the reader of the
tokens, who has no use for it. -/
def closeFlow (t : Token) : Scanner Unit := do
  dropKey
  modify fun r => { r with keys := if r.inFlow then r.keys.tail else r.keys, keyAllowed := false }
  mark t

/-- What comes before an entry or a key of a block: the start of the block if
there is none at its column. -/
def startEntry (t : Token) : Scanner Unit := do
  let r ← get
  if r.inFlow then return ()
  if !r.keyAllowed then refuse
  if ← isDeeper r.source.column then
    openBlock r.source.column
    emit t

/-- The mark of an entry of a block. -/
def blockEntry : Scanner Unit := do
  startEntry .blockSequenceStart
  allow true
  dropKey
  mark .blockEntry

/-- The mark of an entry between brackets. -/
def flowEntry : Scanner Unit := do
  allow true
  dropKey
  mark .flowEntry

/-- The mark of a key. -/
def key : Scanner Unit := do
  startEntry .blockMappingStart
  allow !(← inFlow)
  dropKey
  mark .key

/-- The mark of a value. What could be a key before it now is one. -/
def value : Scanner Unit := do
  match (← get).keys with
  | some k :: rest =>
    modify fun r => { r with keys := none :: rest }
    insert k.before .key
    if !(← inFlow) then
      if ← isDeeper k.column then
        openBlock k.column
        insert k.before .blockMappingStart
    allow false
  | _ =>
    startEntry .blockMappingStart
    allow !(← inFlow)
    dropKey
  mark .value

/-- A token that could be a key or the start of one. -/
def word (read : Scan Token) : Scanner Unit := do
  saveKey
  allow false
  emit (← scan read)

/-- A plain scalar; behind it a key may start if a line has ended. -/
def plain : Scanner Unit := do
  saveKey
  let r ← get
  let (text, ended) ← scan (Scalar.plain r.inFlow (r.indent + 1))
  allow ended
  emit (.scalar (String.ofList text) true)

/-- A block of lines. -/
def block (fold : Bool) : Scanner Unit := do
  allow true
  dropKey
  let indent := (← get).indent
  let text ← scan (Scalar.block fold indent)
  emit (.scalar (String.ofList text) false)

/-- A scalar between quotes. -/
def quoted (double : Bool) : Scanner Unit :=
  word (return .scalar (String.ofList (← Scalar.quoted double)) false)

/-- The end of the text. -/
def finish : Scanner Unit := do
  closeBlocks (-1)
  dropKey
  modify fun r => { r with ended := true, keyAllowed := false, keys := [none] }

/-! ## Scanning on demand -/

/-- Moves behind spaces, comments and line ends. -/
def skipGap : Nat → Scanner Unit
  | 0 => return ()
  | fuel + 1 => do
    scan (Scan.skipWhile (· == ' '))
    scan Scan.skipComment
    if (← scan Scan.lineBreak?).isSome then
      if !(← inFlow) then allow true
      skipGap fuel

/-- Whether the character that comes next is a mark that stands alone. -/
def standsAlone : Scanner Bool := do
  if ← inFlow then return true else scan (Scan.spaceAt 1)

/-- Reads the token that starts with a character. -/
def token (c : Char) : Scanner Unit := do
  let r ← get
  let first := r.source.column = 0
  if c = '%' ∧ first then return ← directive
  if c = '-' ∧ first then
    if ← scan (Scan.atRow '-') then return ← marker .documentStart
  if c = '.' ∧ first then
    if ← scan (Scan.atRow '.') then return ← marker .documentEnd
  if c = '-' then
    if ← scan (Scan.spaceAt 1) then return ← blockEntry
  if c = '?' then
    if ← standsAlone then return ← key
  if c = ':' then
    if ← standsAlone then return ← value
  match c with
  | '[' => openFlow .flowSequenceStart
  | '\x7b' => openFlow .flowMappingStart
  | ']' => closeFlow .flowSequenceEnd
  | '\x7d' => closeFlow .flowMappingEnd
  | ',' => flowEntry
  | '*' => word (return .alias (← Scan.anchor))
  | '&' => word (return .anchor (← Scan.anchor))
  | '!' => word Scan.tag
  | '\'' => quoted false
  | '"' => quoted true
  | _ =>
    if c = '|' && !r.inFlow then block false
    else if c = '>' && !r.inFlow then block true
    else if ← scan (Scalar.startsPlain r.inFlow) then plain
    else refuse

/-- Reads the next token, with the ends of the blocks before it. -/
def fetch : Scanner Unit := do
  skipGap (← scan Scan.fuel)
  dropStale
  closeBlocks (← get).source.column
  match ← scan Scan.peek with
  | none => finish
  | some c => token c

/-- Whether the token that comes next is known. -/
def isSettled : Scanner Bool := do
  if (← get).ended then return true
  if (← get).queue.isEmpty then return false
  dropStale
  let r ← get
  return !r.keys.any fun k => k.any fun k => k.before = r.taken

/-- Reads tokens until the next one is known; `fuel` bounds their number. -/
def settle : Nat → Scanner Unit
  | 0 => refuse
  | fuel + 1 => do
    if !(← isSettled) then
      fetch
      settle fuel

/-- The token that comes next, if there is one. -/
def peek : Scanner (Option Token) := do
  settle (← scan Scan.fuel)
  return (← get).queue.head?

/-- Takes the token that comes next. -/
def drop : Scanner Unit := modify fun r => { r with queue := r.queue.tail, taken := r.taken + 1 }

/-- Passes over a mark that may stand before a text. -/
def start : Scanner Unit := do
  if (← scan Scan.peek) = some byteOrderMark then scan (Scan.skip 1)

end Scanner

end Yaml

end Conformance
