import Conformance.Value

/-!
# Mappings — keys and what they are bound to

A mapping binds keys to values. Two keys are one key if they are the same
number, or texts of the same characters, or rows or sets of the same keys,
or the same scalar. A later entry replaces the value of an earlier one and
leaves its key and place.
-/


namespace Conformance

namespace Value

/-! ## When two keys are one -/

/-- The real and the imaginary part of a key that is a number. Truth values
count as one and zero. -/
def keyNumber? : Value → Option (Number × Number)
  | .boolean b => some (.ofInt (if b then 1 else 0), .ofInt 0)
  | .alien (.complex real imaginary) => some (real.number, imaginary.number)
  | v => v.number?.map fun x => (x, .ofInt 0)

/-- Whether two values are the same number. -/
def isSameNumber (v w : Value) : Bool :=
  match v.keyNumber?, w.keyNumber? with
  | some x, some y => x.1.isSame y.1 && x.2.isSame y.2
  | _, _ => false

/-- The number of integers from `start` to before `stop`, `step` apart. -/
def rangeLength (start stop step : Int) : Nat :=
  if 0 < step then ((stop - start + step - 1) / step).toNat
  else if step < 0 then ((start - stop - step - 1) / -step).toNat
  else 0

/-- Whether two ranges hold the same integers. The stop never matters beyond
the number of them, nor the step where there is one integer at most. -/
def isSameRange (start stop step start' stop' step' : Int) : Bool :=
  let length := rangeLength start stop step
  length == rangeLength start' stop' step' &&
    (length == 0 || (start == start' && (length == 1 || step == step')))

/-- Whether two values that no schema can speak of are one key. -/
def isSameAlien : Alien → Alien → Bool
  | .bytes a, .byteView b _ => a == b
  | .byteView a _, .bytes b => a == b
  | .byteView a _, .byteView b _ => a == b
  | .moment a, .moment b => a.isSame b
  | a, b => a == b

/-- Whether a row of this form can be a key. -/
def isKeyForm : ArrayForm → Bool
  | .tuple => true
  | .named _ _ => true
  | _ => false

mutual

/-- Whether two keys are one key. -/
def sameKey : Value → Value → Bool
  | .text _ s, .text _ t => s == t
  | .undefined, .undefined => true
  | .null, .null => true
  | .array form xs, .array form' ys => isKeyForm form && isKeyForm form' && sameKeys xs ys
  | .range a b c, .range d e f => isSameRange a b c d e f
  | .frozenSet xs, .frozenSet ys => xs.length == ys.length && areAmong xs ys
  | v, w =>
    isSameNumber v w || match v, w with
      | .alien a, .alien b => isSameAlien a b
      | _, _ => false

/-- Whether two rows of keys are the same row. -/
def sameKeys : List Value → List Value → Bool
  | [], [] => true
  | v :: vs, w :: ws => sameKey v w && sameKeys vs ws
  | _, _ => false

/-- Whether every key of a row is one of some others. -/
def areAmong : List Value → List Value → Bool
  | [], _ => true
  | v :: vs, ws => ws.any (fun w => sameKey v w) && areAmong vs ws

end

/-- Texts are one key if they have the same characters, in whatever form. -/
@[simp] theorem sameKey_text (f g : TextForm) (s t : String) :
    sameKey (.text f s) (.text g t) = (s == t) := by simp [sameKey]

/-! ## Entries -/

/-- Binds a key in a list of entries. -/
def bind (entries : List (Value × Value)) (key value : Value) : List (Value × Value) :=
  match entries with
  | [] => [(key, value)]
  | (k, v) :: rest =>
    if sameKey k key then (k, value) :: rest else (k, v) :: bind rest key value

/-- A mapping from entries given in order. -/
def ofEntries (form : ObjectForm) (entries : List (Value × Value)) : Value :=
  .object form (entries.foldl (fun bound entry => bind bound entry.1 entry.2) [])

/-- Whether a key is the text of these characters, in whatever form. -/
def hasText (name : String) : Value → Bool
  | .text _ s => s == name
  | _ => false

/-- What a mapping binds a name to. -/
def get? (name : String) : Value → Option Value
  | .object _ entries => (entries.find? fun entry => entry.1.hasText name).map Prod.snd
  | _ => none

/-- What a mapping binds a name to, where `null` counts as nothing. -/
def binding? (name : String) (v : Value) : Option Value :=
  (v.get? name).filter fun
    | .null => false
    | _ => true

/-! ## Sets -/

/-- Adds an item to a row unless it is there. -/
def insertItem (items : List Value) (v : Value) : List Value :=
  if items.any fun w => sameKey w v then items else items ++ [v]

/-- The items of a row without repetitions; of two that are one key the
earlier stays. -/
def distinct (items : List Value) : List Value := items.foldl insertItem []

end Value

end Conformance
