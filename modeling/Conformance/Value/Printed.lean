import Conformance.Number.Numeral
import Conformance.Text.Quoted
import Conformance.Value.Mapping

/-!
# Printed — values as texts

The text a value prints as, which is how an unknown option is named. A text
prints as itself, and inside a row it is quoted. What may change is no key and
prints nowhere, and is named by its class instead. An integer of more than
`digitLimit` digits prints nowhere either, nor does a row that holds one:
`Value.isLegible`.
-/


namespace Conformance

namespace Text

/-- A number padded with zeros to a width. -/
def padded (width n : Nat) : String :=
  let digits := toString n
  String.ofList (List.replicate (width - digits.length) '0') ++ digits

/-- Texts with a separator between them. -/
def join (separator : String) (texts : List String) : String :=
  String.intercalate separator texts

/-- Texts behind a name, between brackets and with commas. -/
def applied (name : String) (texts : List String) : String :=
  name ++ "(" ++ join ", " texts ++ ")"

end Text

/-! ## Days and moments -/

namespace Day

/-- A day, written year first. -/
def text (d : Day) : String :=
  Text.padded 4 d.year ++ "-" ++ Text.padded 2 d.month ++ "-" ++ Text.padded 2 d.day

/-- The numbers of a day, year first. -/
def parts (d : Day) : List String := [toString d.year, toString d.month, toString d.day]

end Day

namespace Clock

/-- A time of a day; fractions and the offset are written if they are there. -/
def text (c : Clock) : String :=
  Text.padded 2 c.hour ++ ":" ++ Text.padded 2 c.minute ++ ":" ++ Text.padded 2 c.second ++
    (if c.micro = 0 then "" else "." ++ Text.padded 6 c.micro) ++
    (match c.offset with
      | none => ""
      | some minutes =>
        (if minutes < 0 then "-" else "+") ++ Text.padded 2 (minutes.natAbs / 60) ++ ":" ++
          Text.padded 2 (minutes.natAbs % 60))

/-- The numbers of a time of a day. Seconds and fractions are left out where
there are no more of them. -/
def parts (c : Clock) : List String :=
  let seconds :=
    if c.micro ≠ 0 then [c.second, c.micro] else if c.second ≠ 0 then [c.second] else []
  ([c.hour, c.minute] ++ seconds).map toString

/-- An offset in minutes as whole days, and the seconds of a day beyond them. -/
def offsetText (minutes : Int) : String :=
  if minutes = 0 then "datetime.timezone.utc"
  else
    let part (name : String) (n : Int) : List String := if n = 0 then [] else [name ++ toString n]
    let size := part "days=" (minutes.fdiv 1440) ++ part "seconds=" (60 * minutes.fmod 1440)
    Text.applied "datetime.timezone" [Text.applied "datetime.timedelta" size]

end Clock

namespace Moment

/-- A moment, the day first. -/
def text (m : Moment) : String := m.day.text ++ " " ++ m.clock.text

/-- The numbers of a moment, and its offset. -/
def parts (m : Moment) : List String :=
  m.day.parts ++ m.clock.parts ++
    (m.clock.offset.map fun minutes => "tzinfo=" ++ Clock.offsetText minutes).toList

end Moment

/-- A complex number: its imaginary part alone if the real one is a plain
zero, and otherwise both parts between brackets. -/
def complexText (real imaginary : Binary64) : String :=
  let size := imaginary.sizeText Binary64.partLayout ++ "j"
  if real.number.isSame (.ofInt 0) && !real.isNegative then
    (if imaginary.isNegative then "-" else "") ++ size
  else
    "(" ++ (if real.isNegative then "-" else "") ++ real.sizeText Binary64.partLayout ++
      (if imaginary.isNegative then "-" else "+") ++ size ++ ")"

namespace Value

/-! ## The text of a value -/

/-- A scalar as a text. -/
def scalarText : Value → String
  | .undefined => "UNDEFINED"
  | .null => "None"
  | .boolean b => if b then "True" else "False"
  | .integer n => toString n
  | .quantity x => x.text
  | .text _ s => s
  | .alien (.bytes octets) => Text.quotedBytes octets
  | .alien (.byteView _ place) => place
  | .alien (.day d) => d.text
  | .alien (.moment m) => m.text
  | .alien (.complex real imaginary) => complexText real imaginary
  | .alien .ellipsis => "Ellipsis"
  | .alien (.exotic x) => x.text
  | .range start stop step =>
    Text.applied "range" (([start, stop] ++ if step = 1 then [] else [step]).map toString)
  | v => v.typeName

mutual

/-- A value as it prints inside a row. -/
def element : Value → String
  | .text _ s => Text.quoted s
  | .quantity (.decimal x) => Text.applied "Decimal" ["'" ++ x.text ++ "'"]
  | .quantity (.ratio q) => Text.applied "Fraction" [toString q.num, toString q.den]
  | .array .tuple [v] => "(" ++ element v ++ ",)"
  | .array .tuple items => "(" ++ Text.join ", " (elements items) ++ ")"
  | .array .list items => "[" ++ Text.join ", " (elements items) ++ "]"
  | .array (.named name fields) items =>
    Text.applied name (List.zipWith (fun field s => field ++ "=" ++ s) fields (elements items))
  | .frozenSet [] => "frozenset()"
  | .frozenSet items => "frozenset(\x7b" ++ Text.join ", " (elements items) ++ "\x7d)"
  | .alien (.day d) => Text.applied "datetime.date" d.parts
  | .alien (.moment m) => Text.applied "datetime.datetime" m.parts
  | .alien (.exotic x) => x.element
  | v => v.scalarText

/-- The elements of a row. -/
def elements : List Value → List String
  | [] => []
  | v :: rest => element v :: elements rest

end

/-- A value as a text. -/
def printed : Value → String
  | .array form items => element (.array form items)
  | .frozenSet items => element (.frozenSet items)
  | v => v.scalarText

/-! ## What has a text -/

/-- Whether an integer can be written. -/
def isShort (n : Int) : Bool := n.natAbs < tenTo digitLimit

mutual

/-- Whether a value has a text: every integer in it can be written. -/
def isLegible : Value → Bool
  | .integer n => isShort n
  | .quantity (.ratio q) => isShort q.num && isShort q.den
  | .range start stop step => isShort start && isShort stop && isShort step
  | .array _ items => areLegible items
  | .frozenSet items => areLegible items
  | _ => true

/-- Whether all values of a row have a text. -/
def areLegible : List Value → Bool
  | [] => true
  | v :: rest => isLegible v && areLegible rest

end

@[simp] theorem isLegible_text (form : TextForm) (s : String) :
    (Value.text form s).isLegible = true := by simp [isLegible]

end Value

end Conformance
