import Conformance.Number.Arithmetic
import Conformance.Text.Base64
import Conformance.Text.Case
import Conformance.Value
import Conformance.Yaml.Tag

/-!
# Atoms — the values of scalars

`Scalar.content` gives the value of a scalar by its tag. A written tag may
meet a text of another shape, so every reader here takes more than the shape
that implies its tag: white space around a number, say, or a second sign.
A text that stands for no value of the tag is a misfit.
-/


namespace Conformance

namespace Yaml

namespace Scalar

/-- A scalar that stands for nothing. -/
def misfit {α : Type} (m : Misfit) : Except Fault α := .error (.unrepresentable m)

/-! ## Numbers -/

/-- A row of digits in a base. Those of the base ten are counted first. -/
def readDigits (base : Nat) (digits : List Char) : Except Fault Int :=
  if base = 10 ∧ digitLimit < digitCount digits then misfit (.tooManyDigits (digitCount digits))
  else match readInteger? base digits with
    | some n => .ok n
    | none => misfit (.notInteger base (String.ofList digits))

/-- The value of parts of sixty. -/
def readSixties (parts : List (List Char)) : Except Fault Int :=
  parts.foldlM (fun n part => return 60 * n + (← readDigits 10 part)) 0

/-- The size of an integer behind its sign: in one of four bases, or in
sixties. -/
def readSize (body : List Char) : Except Fault Int :=
  match body with
  | [] => misfit .noDigits
  | ['0'] => .ok 0
  | '0' :: 'b' :: digits => readDigits 2 digits
  | '0' :: 'x' :: digits => readDigits 16 digits
  | '0' :: _ => readDigits 8 body
  | _ =>
    if body.contains ':' then readSixties (Plain.splitAt ':' body) else readDigits 10 body

/-- An integer from its written form. -/
def readInteger (s : List Char) : Except Fault Int := do
  let (negative, body) := splitSign (s.filter (· != '_'))
  let size ← readSize body
  return if negative then -size else size

/-- A double in decimal notation. -/
def readDecimal (s : List Char) : Except Fault Binary64 :=
  match Binary64.read? s with
  | some x => .ok x
  | none => misfit (.notFloat (String.ofList s))

/-- A power of sixty as a double. -/
def sixtyTo (k : Nat) : Except Fault Binary64 :=
  match Binary64.ofNat (Nat.pow 60 k) with
  | .infinite _ => misfit .tooLarge
  | x => .ok x

/-- A double from parts of sixty. The last part comes first, and every product
and every sum is rounded. -/
def sumSixties (parts : List Binary64) : Except Fault Binary64 :=
  parts.reverse.zipIdx.foldlM
    (fun sum (part, k) => return sum.add (part.mul (← sixtyTo k))) (.signedZero false)

/-- A number with a point, in small letters and without low lines. -/
def floatWord (s : String) : List Char := (Text.lower (s.replace "_" "")).toList

/-- Whether a scalar is the word for no number. -/
def isNoNumber (s : String) : Bool := (splitSign (floatWord s)).2 == ".nan".toList

/-- A double from its written form. -/
def readFloat (s : String) : Except Fault Binary64 := do
  let word := floatWord s
  if word.isEmpty then misfit .noDigits
  let (negative, body) := splitSign word
  if body = ".inf".toList then return .infinite negative
  else if body = ".nan".toList then return .nan
  else if body.contains ':' then
    return (← sumSixties (← (Plain.splitAt ':' body).mapM readDecimal)).signed negative
  else return (← readDecimal body).signed negative

/-! ## Days and moments -/

/-- A day, if the calendar has it. -/
def readDay (year month day : Nat) : Except Fault Day :=
  if year = 0 then misfit (.outOfCalendar "year 0 is out of range")
  else if month = 0 ∨ 12 < month then misfit (.outOfCalendar "month must be in 1..12")
  else if day = 0 ∨ Day.daysOf year month < day then
    misfit (.outOfCalendar "day is out of range for month")
  else .ok ⟨year, month, day⟩

/-- A time of day, if the clock shows it. -/
def readClock (hour minute second : Nat) (fraction : List Char) (offset : Option Int) :
    Except Fault Clock :=
  let micro := digitsValue ((fraction ++ List.replicate 6 '0').take 6)
  if 23 < hour then misfit (.outOfCalendar "hour must be in 0..23")
  else if 59 < minute then misfit (.outOfCalendar "minute must be in 0..59")
  else if 59 < second then misfit (.outOfCalendar "second must be in 0..59")
  else .ok ⟨hour, minute, second, micro, offset⟩

/-- An offset in minutes, which is less than a day. -/
def readOffset (offset : Option (Bool × Nat × Nat)) : Except Fault (Option Int) :=
  match offset with
  | none => .ok none
  | some (negative, hours, minutes) =>
    let size : Int := 60 * hours + minutes
    let signed := if negative then -size else size
    if 1440 ≤ size then misfit (.offsetTooLarge signed) else .ok (some signed)

/-- A day or a moment from its written form. -/
def readStamp (s : List Char) : Except Fault Alien := do
  match Plain.stamp? (Plain.withoutLineEnd s) with
  | none => misfit .notStamp
  | some stamp =>
    match stamp.clock with
    | none => return .day (← readDay stamp.year stamp.month stamp.day)
    | some (hour, minute, second, fraction) =>
      let offset ← readOffset stamp.offset
      let day ← readDay stamp.year stamp.month stamp.day
      return .moment ⟨day, ← readClock hour minute second fraction offset⟩

/-! ## By tag -/

/-- A truth value from its word. -/
def readBoolean (s : String) : Except Fault Bool :=
  let word := Text.lower s
  if Plain.trueWords.contains word then .ok true
  else if Plain.falseWords.contains word then .ok false
  else misfit (.notBoolean word)

/-- Octets from letters, all of which are in ASCII. -/
def readBinary (s : List Char) : Except Fault (List UInt8) :=
  match if s.all fun c => c.toNat < 0x80 then Base64.decode? s else none with
  | some octets => .ok octets
  | none => .error .malformed

/-- The value of a scalar by its tag; the tags of collections have none. -/
def content (tag : Tag) (text : String) : Except Fault Value :=
  match tag with
  | .text => .ok (.plain text)
  | .null => .ok .null
  | .boolean => (readBoolean text).map .boolean
  | .integer => (readInteger text.toList).map .integer
  | .float => (readFloat text).map fun x => .quantity (.binary x)
  | .timestamp => (readStamp text.toList).map .alien
  | .binary => (readBinary text.toList).map fun octets => .alien (.bytes octets)
  | _ => .error .malformed

end Scalar

end Yaml

end Conformance
