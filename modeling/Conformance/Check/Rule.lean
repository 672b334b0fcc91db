import Conformance.Value

/-!
# Rules — one constraint, and why a value breaks it

A rule is a single constraint: a type, a divisor, a bound on a number, or a
bound on the length of a text. `Rule.failure?` says why a value breaks it,
if it does. The reasons are the constructors of `Reason`, and their wording
is `Reason.text`: the two bounds share one reason.
-/


namespace Conformance

/-! ## Types -/

/-- The types a schema may ask for. -/
inductive TypeName where
  | string
  | number
  | integer
  | boolean
  | array
  | object
deriving DecidableEq, Repr

namespace TypeName

/-- All types, in the order in which they are listed. -/
def all : List TypeName := [.string, .number, .integer, .boolean, .array, .object]

/-- The name of a type. -/
def name : TypeName → String
  | .string => "string"
  | .number => "number"
  | .integer => "integer"
  | .boolean => "boolean"
  | .array => "array"
  | .object => "object"

/-- The type of a given name. -/
def ofName? (text : String) : Option TypeName := all.find? fun t => t.name == text

/-- Which kinds of values have a type: an integer is a number too, and
otherwise a type holds exactly the values of its own kind. -/
def accepts : TypeName → Kind → Bool
  | .string, kind => kind == .string
  | .number, kind => kind == .integer || kind == .number
  | .integer, kind => kind == .integer
  | .boolean, kind => kind == .boolean
  | .array, kind => kind == .array
  | .object, kind => kind == .object

theorem mem_all (t : TypeName) : t ∈ all := by cases t <;> simp [all]

@[simp] theorem ofName?_name (t : TypeName) : ofName? t.name = some t := by
  cases t <;> decide

theorem name_of_ofName? {text : String} {t : TypeName} (h : ofName? text = some t) :
    t.name = text := by
  have := List.find?_some h
  simpa using this

end TypeName

/-! ## Bounds -/

/-- The side on which a bound closes a range of numbers. -/
inductive Side where
  | upper
  | lower
deriving DecidableEq, Repr

/-- A bound on numbers: the limit, whether it is itself left out, and whether
numbers that are not integers may be measured against it. -/
structure Bound where
  side : Side
  limit : Int
  exclusive : Bool
  allowReal : Bool
deriving DecidableEq, Repr

namespace Bound

/-- Whether a number lies within a bound. No bound holds what is no number. -/
def admits (b : Bound) (x : Number) : Bool :=
  match b.side, b.exclusive with
  | .upper, true => x.lt (.ofInt b.limit)
  | .upper, false => x.le (.ofInt b.limit)
  | .lower, true => (Number.ofInt b.limit).lt x
  | .lower, false => (Number.ofInt b.limit).le x

/-- The type a bound asks of its values. -/
def asks (b : Bound) : TypeName := if b.allowReal then .number else .integer

/-- Every bound measures integers, and some the other real numbers as well. -/
theorem asks_accepts_iff {b : Bound} {kind : Kind} :
    b.asks.accepts kind = true ↔ kind = .integer ∨ b.allowReal = true ∧ kind = .number := by
  unfold asks
  cases b.allowReal <;> simp [TypeName.accepts]

@[simp] theorem admits_nan (b : Bound) : b.admits .nan = false := by
  unfold admits; split <;> simp

end Bound

/-! ## Reasons -/

/-- Why a value breaks a rule. -/
inductive Reason where
  | notOfType (type : TypeName)
  | notNatural
  | notMultiple (of : Int)
  | tooShort (least : Int)
  | tooLong (most : Int)
  | outOfBound (limit : Int)
deriving DecidableEq, Repr

namespace Reason

/-- The wording of a reason. -/
def text : Reason → String
  | .notOfType .string => "Not a string"
  | .notOfType .number => "Not a number"
  | .notOfType .integer => "Not an integer"
  | .notOfType .boolean => "Not a boolean"
  | .notOfType .array => "Not an array"
  | .notOfType .object => "Not an object"
  | .notNatural => "Not a positive integer"
  | .notMultiple m => "Integer is not multiple of " ++ toString m
  | .tooShort n => "String is shorter than " ++ toString n ++ " characters"
  | .tooLong n => "String is longer than " ++ toString n ++ " characters"
  | .outOfBound limit => "Number is more than " ++ toString limit

end Reason

/-! ## Rules -/

/-- A single constraint. -/
inductive Rule where
  | type (type : TypeName)
  | multipleOf (m : Int)
  | bound (b : Bound)
  | minLength (n : Int)
  | maxLength (n : Int)
deriving DecidableEq, Repr

namespace Rule

/-- Why a value breaks a rule, if it does. Lengths are asked of texts only;
every other rule also refuses the kinds it cannot measure. -/
def failure? (v : Value) : Rule → Option Reason
  | .type t => if t.accepts v.kind then none else some (.notOfType t)
  | .multipleOf m =>
    match v.natural? with
    | none => some .notNatural
    | some n => if m ∣ (n : Int) then none else some (.notMultiple m)
  | .bound b =>
    if b.asks.accepts v.kind then
      if v.number?.any b.admits then none else some (.outOfBound b.limit)
    else some (.notOfType b.asks)
  | .minLength n =>
    if v.length?.any fun length => (length : Int) < n then some (.tooShort n) else none
  | .maxLength n =>
    if v.length?.any fun length => n < (length : Int) then some (.tooLong n) else none

/-- A short description of a rule. -/
def describe : Rule → String
  | .type t => "type=" ++ t.name
  | .multipleOf m => "multipleOf=" ++ toString m
  | .bound ⟨.upper, limit, exclusive, _⟩ =>
    "maximum" ++ (if exclusive then "<" else "<=") ++ toString limit
  | .bound ⟨.lower, limit, exclusive, _⟩ =>
    "minimum" ++ (if exclusive then ">" else ">=") ++ toString limit
  | .minLength n => "minLength=" ++ toString n
  | .maxLength n => "maxLength=" ++ toString n

end Rule

end Conformance
