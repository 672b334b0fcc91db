import Conformance.Number.Numeral
import Conformance.Yaml.Source

/-!
# Tags — what kind of data a node holds

A node has a tag, written or implied. For a plain scalar that has none the
tag is read off its shape: a word for a truth value, a row of digits, and
so on; `Tag.ofPlain` tries the shapes in order, and whatever has none of
them is a text.
-/


namespace Conformance

namespace Yaml

/-- What kind of data a node holds. -/
inductive Tag where
  | null
  | boolean
  | integer
  | float
  | timestamp
  | text
  | binary
  | sequence
  | mapping
  | set
  | orderedMap
  | pairs
  /-- Takes in the entries of other mappings. -/
  | merge
  /-- Stands for the mapping it is a key of. -/
  | default
  | unknown (uri : String)
deriving DecidableEq, Repr

/-- The tag of a written name. -/
def Tag.ofUri (uri : String) : Tag :=
  match uri with
  | "tag:yaml.org,2002:null" => .null
  | "tag:yaml.org,2002:bool" => .boolean
  | "tag:yaml.org,2002:int" => .integer
  | "tag:yaml.org,2002:float" => .float
  | "tag:yaml.org,2002:timestamp" => .timestamp
  | "tag:yaml.org,2002:str" => .text
  | "tag:yaml.org,2002:binary" => .binary
  | "tag:yaml.org,2002:seq" => .sequence
  | "tag:yaml.org,2002:map" => .mapping
  | "tag:yaml.org,2002:set" => .set
  | "tag:yaml.org,2002:omap" => .orderedMap
  | "tag:yaml.org,2002:pairs" => .pairs
  | "tag:yaml.org,2002:merge" => .merge
  | "tag:yaml.org,2002:value" => .default
  | other => .unknown other

namespace Plain

/-- The words for true. -/
def trueWords : List String := ["yes", "Yes", "YES", "true", "True", "TRUE", "on", "On", "ON"]

/-- The words for false. -/
def falseWords : List String := ["no", "No", "NO", "false", "False", "FALSE", "off", "Off", "OFF"]

/-- The words for nothing. -/
def nullWords : List String := ["", "~", "null", "Null", "NULL"]

/-- A digit or a separator of digits. -/
def isDigitMark (c : Char) : Bool := c.isDigit || c == '_'

/-- A row of parts with a character between them. -/
def splitAt (mark : Char) : List Char → List (List Char)
  | [] => [[]]
  | c :: rest =>
    if c = mark then [] :: splitAt mark rest
    else match splitAt mark rest with
      | [] => [[c]]
      | part :: more => (c :: part) :: more

/-- A part below sixty, of one digit or two. -/
def isSixtieth : List Char → Bool
  | [d] => d.isDigit
  | [t, d] => '0' ≤ t && t ≤ '5' && d.isDigit
  | _ => false

/-- Digits, then parts below sixty behind colons. -/
def isSixties (first : Char → Bool) (s : List Char) : Bool :=
  match splitAt ':' s with
  | (d :: digits) :: part :: more =>
    first d && digits.all isDigitMark && (part :: more).all isSixtieth
  | _ => false

/-- A digit other than zero. -/
def isLeading (c : Char) : Bool := '1' ≤ c && c ≤ '9'

/-- A hexadecimal digit or a separator of digits. -/
def isHexMark (c : Char) : Bool :=
  isDigitMark c || ('a' ≤ c && c ≤ 'f') || ('A' ≤ c && c ≤ 'F')

/-- The shape of an integer: in one of four bases, or in sixties. -/
def isInteger (s : List Char) : Bool :=
  let body := (splitSign s).2
  (match body with
    | '0' :: 'b' :: d :: rest => (d :: rest).all fun c => c == '0' || c == '1' || c == '_'
    | _ => false) ||
  (match body with
    | '0' :: d :: rest => (d :: rest).all fun c => ('0' ≤ c && c ≤ '7') || c == '_'
    | _ => false) ||
  (match body with
    | ['0'] => true
    | d :: rest => isLeading d && rest.all isDigitMark
    | [] => false) ||
  (match body with
    | '0' :: 'x' :: d :: rest => (d :: rest).all isHexMark
    | _ => false) ||
  isSixties isLeading body

/-- The shape of an exponent, or nothing. -/
def isExponent : List Char → Bool
  | [] => true
  | mark :: sign :: d :: rest =>
    (mark == 'e' || mark == 'E') && (sign == '+' || sign == '-') && (d :: rest).all Char.isDigit
  | _ => false

/-- The shape of a number with a point: digits around it and an exponent,
sixties in front of it, or a word behind it. -/
def isFloat (s : List Char) : Bool :=
  let body := (splitSign s).2
  let whole := body.takeWhile (· != '.')
  let places := (body.dropWhile (· != '.')).drop 1
  let pointed := body.contains '.'
  let exponent := isExponent (places.dropWhile isDigitMark)
  pointed &&
    ((match whole with
      | d :: rest => d.isDigit && rest.all isDigitMark && exponent
      | [] => false) ||
    (match whole, s, places with
      | [], '.' :: _, d :: _ => d.isDigit && exponent
      | _, _, _ => false) ||
    (isSixties Char.isDigit whole && places.all isDigitMark) ||
    (whole.isEmpty && ["inf", "Inf", "INF"].contains (String.ofList places)) ||
    (s.head? == some '.' && ["nan", "NaN", "NAN"].contains (String.ofList places)))

/-! ## Days and times -/

/-- A row of digits of a length between two bounds, and the rest. -/
def digits? (least most : Nat) (s : List Char) : Option (List Char × List Char) :=
  let run := (s.takeWhile Char.isDigit).take most
  if least ≤ run.length then some (run, s.drop run.length) else none

/-- The rest behind a character. -/
def after? (c : Char) (s : List Char) : Option (List Char) :=
  match s with
  | d :: rest => if d = c then some rest else none
  | [] => none

/-- White space inside a line. -/
def isGap (c : Char) : Bool := c == ' ' || c == '\t'

/-- A moment as it is written: its digits, whether the month or the day is a
single one, and an offset in hours and minutes with a sign. -/
structure Stamp where
  year : Nat
  month : Nat
  day : Nat
  isShort : Bool
  clock : Option (Nat × Nat × Nat × List Char)
  offset : Option (Bool × Nat × Nat)

/-- The offset behind a time of day: nothing, the mark of no offset, or a
sign with hours and minutes. -/
def offset? (s : List Char) : Option (Option (Bool × Nat × Nat)) :=
  match s.dropWhile isGap with
  | [] => if s.isEmpty then some none else none
  | ['Z'] => some (some (false, 0, 0))
  | sign :: rest => do
    guard (sign = '+' ∨ sign = '-')
    let (hours, rest) ← digits? 1 2 rest
    match rest with
    | [] => return some (sign = '-', digitsValue hours, 0)
    | ':' :: rest => do
      let (minutes, rest) ← digits? 2 2 rest
      guard rest.isEmpty
      return some (sign = '-', digitsValue hours, digitsValue minutes)
    | _ => none

/-- A day, or a day and a time, as it is written. -/
def stamp? (s : List Char) : Option Stamp := do
  let (year, rest) ← digits? 4 4 s
  let rest ← after? '-' rest
  let (month, rest) ← digits? 1 2 rest
  let rest ← after? '-' rest
  let (day, rest) ← digits? 1 2 rest
  let isShort := month.length != 2 || day.length != 2
  let stamp : Stamp := ⟨digitsValue year, digitsValue month, digitsValue day, isShort, none, none⟩
  match rest with
  | [] => return stamp
  | c :: behind =>
    let rest ← if c = 'T' ∨ c = 't' then some behind
      else if isGap c then some (behind.dropWhile isGap)
      else none
    let (hour, rest) ← digits? 1 2 rest
    let rest ← after? ':' rest
    let (minute, rest) ← digits? 2 2 rest
    let rest ← after? ':' rest
    let (second, rest) ← digits? 2 2 rest
    let (fraction, rest) := match rest with
      | '.' :: rest => (rest.takeWhile Char.isDigit, rest.dropWhile Char.isDigit)
      | _ => ([], rest)
    let offset ← offset? rest
    return { stamp with
      clock := some (digitsValue hour, digitsValue minute, digitsValue second, fraction)
      offset }

/-- The shape of a day or a moment. A day that stands alone has two digits for
the month and for the day. -/
def isStamp (s : List Char) : Bool :=
  (stamp? s).any fun stamp => stamp.clock.isSome || !stamp.isShort

/-- A text without a line end behind it. -/
def withoutLineEnd (s : List Char) : List Char :=
  if s.getLast? = some '\n' then s.dropLast else s

end Plain

namespace Tag

/-- The tag of a row of characters by its shape. -/
def ofShape (s : List Char) : Tag :=
  let word := String.ofList s
  if (Plain.trueWords ++ Plain.falseWords).contains word then .boolean
  else if Plain.isFloat s then .float
  else if Plain.isInteger s then .integer
  else if word = "<<" then .merge
  else if Plain.nullWords.contains word then .null
  else if Plain.isStamp s then .timestamp
  else if word = "=" then .default
  else if ["!", "&", "*"].contains word then .unknown "tag:yaml.org,2002:yaml"
  else .text

/-- The tag that the shape of a scalar implies. One line end behind it does not
count, unless it is all there is. -/
def ofPlain (s : String) : Tag :=
  if s = "\n" then .text else ofShape (Plain.withoutLineEnd s.toList)

end Tag

end Yaml

end Conformance
