import Conformance.Logging.Level
import Conformance.Logging.Name
import Conformance.Text.Conversion
import Conformance.Text.Digit
import Conformance.Text.Word

/-!
# Formats — how a record becomes a line

A record is a message at a level from a named logger. A formatter makes lines of
records, and may fail on some. A format is a formatter that is a row of pieces,
each a fixed text or a field of the record, converted and laid out.
`Format.read?` takes it from its written form, in which a field is `%(name)`
with a layout and a conversion behind it, and `%%` is a percent sign. The
message goes into the line as it is: nothing in it is read as a format. A
written form in which there is no field at all is refused, `isWellFormed`, and
the empty one stands for the message alone. One that has a field and cannot be
read is a formatter all the same, which fails on every record. Records have four
fields here, and a written form can show no others; but a formatter need not have
a written form, `Wording.made`.
-/


namespace Conformance

namespace Logging

open Text (Layout Conversion)

/-- A message at a level, from a logger. -/
structure Record where
  logger : LoggerName
  level : Level
  message : String
deriving DecidableEq, Repr

/-- What makes lines of records, each without its end. It may fail. -/
abbrev Formatter := Record → Option String

/-- The fields of a record that a line can show. -/
inductive RecordField where
  | name
  | levelName
  | levelNumber
  | message
deriving DecidableEq, Repr

namespace RecordField

/-- The field of a name in a format. -/
def ofName? : String → Option RecordField
  | "name" => some .name
  | "levelname" => some .levelName
  | "levelno" => some .levelNumber
  | "message" => some .message
  | _ => none

/-- A field of a record, converted and laid out, if it can be. -/
def letters? (r : Record) (layout : Layout) (c : Conversion) : RecordField → Option (List Char)
  | .name => layout.showText? c r.logger.text
  | .levelName => layout.showText? c r.level.name
  | .levelNumber => layout.showInteger? c r.level
  | .message => layout.showText? c r.message

end RecordField

/-- A piece of a line. -/
inductive Piece where
  | fixed (s : String)
  | field (field : RecordField) (layout : Layout) (conversion : Conversion)
deriving DecidableEq, Repr

/-- A piece of the line of a record. -/
def Piece.render (r : Record) : Piece → Option String
  | .fixed s => some s
  | .field shown layout conversion => (shown.letters? r layout conversion).map String.ofList

/-- A field that is written as it is. -/
def Piece.plain (shown : RecordField) : Piece := .field shown .plain (.text .plain)

/-- A line in pieces. -/
abbrev Format := List Piece

namespace Format

/-- The formatter that shows all pieces, and fails if one cannot be shown. -/
def render (f : Format) : Formatter := fun r => (f.mapM (Piece.render r)).map String.join

/-- The message and nothing else. -/
def bare : Format := [.plain .message]

/-- The name of the logger, the name of the level and the message. -/
def standard : Format :=
  [.plain .name, .fixed " - ", .plain .levelName, .fixed " - ", .plain .message]

/-- A bare line is the message. -/
@[simp] theorem render_bare (r : Record) : bare.render r = some r.message := by
  simp [bare, render, Piece.render, Piece.plain, RecordField.letters?, Layout.showText?,
    String.join]

/-! ## The written form -/

/-- The characters that lay a value out. -/
def isFlag (c : Char) : Bool := "-+ 0#".toList.contains c

/-- A layout with one more flag. -/
def flag (l : Layout) (c : Char) : Layout :=
  match c with
  | '-' => { l with left := true }
  | '+' => { l with plus := true }
  | ' ' => { l with blank := true }
  | '0' => { l with zeros := true }
  | '#' => { l with alternate := true }
  | _ => l

/-- A precision, if one is written, and the rest; a point alone is zero. -/
def readPrecision (s : List Char) : Option Nat × List Char :=
  match s with
  | '.' :: rest => (some (digitsValue (rest.takeWhile Char.isDigit)), rest.dropWhile Char.isDigit)
  | _ => (none, s)

/-- A layout and the rest: flags, a width and a precision, and behind them a
letter of size that says nothing. -/
def readLayout (s : List Char) : Layout × List Char :=
  let layout := (s.takeWhile isFlag).foldl flag {}
  let s := s.dropWhile isFlag
  let width := digitsValue (s.takeWhile Char.isDigit)
  let (precision, s) := readPrecision (s.dropWhile Char.isDigit)
  let s := if s.head?.any fun c => "hlL".toList.contains c then s.tail else s
  ({ layout with width, precision }, s)

/-- The conversion of a letter. -/
def conversion? (c : Char) : Option Conversion :=
  match c with
  | 's' => some (.text .plain)
  | 'r' => some (.text .quoted)
  | 'a' => some (.text .quotedAscii)
  | 'd' => some (.integer .decimal)
  | 'i' => some (.integer .decimal)
  | 'u' => some (.integer .decimal)
  | 'o' => some (.integer .octal)
  | 'x' => some (.integer (.hexadecimal false))
  | 'X' => some (.integer (.hexadecimal true))
  | 'e' => some (.real .scientific false)
  | 'E' => some (.real .scientific true)
  | 'f' => some (.real .fixed false)
  | 'F' => some (.real .fixed true)
  | 'g' => some (.real .general false)
  | 'G' => some (.real .general true)
  | 'c' => some .character
  | _ => none

/-- The name between brackets at the head of a text, and the rest. -/
def readName? : List Char → Option (String × List Char)
  | '(' :: rest =>
    some (String.ofList (rest.takeWhile (· != ')')), (rest.dropWhile (· != ')')).drop 1)
  | _ => none

/-- The piece behind a percent sign, and the rest of the text: another percent sign,
or a field. -/
def readPiece? (s : List Char) : Option (Piece × List Char) :=
  match s with
  | '%' :: rest => some (.fixed "%", rest)
  | _ => do
    let (name, rest) ← readName? s
    let field ← RecordField.ofName? name
    match readLayout rest with
    | (layout, letter :: rest) => return (.field field layout (← conversion? letter), rest)
    | (_, []) => none

/-- Reads pieces from a text; `fuel` bounds the number of pieces. Behind a percent
sign there has to be one. -/
def readFrom : Nat → List Char → Option Format
  | 0, _ => none
  | _, [] => some []
  | fuel + 1, '%' :: rest => do
    let (piece, rest) ← readPiece? rest
    return piece :: (← readFrom fuel rest)
  | fuel + 1, rest => do
    let fixed := String.ofList (rest.takeWhile (· != '%'))
    return .fixed fixed :: (← readFrom fuel (rest.dropWhile (· != '%')))

/-- A format in its written form. -/
def read? (text : String) : Option Format :=
  if text = "" then some bare else readFrom (text.length + 1) text.toList

example : read? "%(name)s - %(levelname)s - %(message)s" = some standard := by decide +kernel

example : read? "%(message)s%" = none := by decide +kernel

/-! ## What is refused -/

/-- Whether a character is a decimal digit of any script. -/
def isAnyDigit (c : Char) : Bool := (Text.digitValue? c).isSome

/-- The rest behind a width, which may be a star. -/
def dropWidth (s : List Char) : List Char :=
  match s with
  | '*' :: rest => rest
  | _ => s.dropWhile isAnyDigit

/-- Whether a letter is that of a conversion, or of a percent sign, in either
case. The letters i and s have more cases than two. -/
def isConversionLetter (c : Char) : Bool :=
  "diouxefgcrsa%".toList.contains c.toLower || "\u0130\u0131\u017f".toList.contains c

/-- Whether a field stands at the head of a text, whatever its name: brackets
around a word, a layout, and the letter of a conversion. -/
def startsField (s : List Char) : Bool :=
  match readName? s with
  | none => false
  | some (name, rest) =>
    let rest := dropWidth (rest.dropWhile isFlag)
    let rest := match rest with
      | '.' :: c :: behind => if c == '*' || isAnyDigit c then dropWidth (c :: behind) else rest
      | _ => rest
    name != "" && name.toList.all Text.isWordPart && rest.head?.any isConversionLetter

/-- Whether a field stands anywhere in a text. -/
def hasField : List Char → Bool
  | [] => false
  | '%' :: rest => startsField rest || hasField rest
  | _ :: rest => hasField rest

/-- Whether a written form is accepted: it is empty or has a field. -/
def isWellFormed (text : String) : Bool := text == "" || hasField text.toList

/-- The formatter of a written form that is accepted. -/
def formatter? (text : String) : Option Formatter :=
  if isWellFormed text then some fun r => (read? text).bind fun f => f.render r else none

/-- Why a written form is refused. -/
def refusal (text : String) : String := "Invalid format '" ++ text ++ "' for '%' style"

end Format

/-- What a caller gives for the lines of a logger: a format in its written form, or
a formatter of any kind. -/
inductive Wording where
  | written (text : String)
  | made (formatter : Formatter)

end Logging

end Conformance
