import Conformance.Check
import Conformance.Value.Mapping

/-!
# Schemas — keywords, and the checks they compile to

A schema is a mapping that binds some of eight keywords. The keywords stand
in a fixed order; each reads its own binding and contributes one rule, no
rule, or a defect. `Schema.compile` takes the rules in order, all at one
path, and stops at the first defect. A keyword bound to `null` counts as
not bound, and names that are no keywords are not looked at: compilation
reads a schema only through `Schema.reading`.
-/


namespace Conformance

/-- The keywords of a schema. -/
inductive Keyword where
  | type
  | multipleOf
  | maximum
  | exclusiveMaximum
  | minimum
  | exclusiveMinimum
  | minLength
  | maxLength
deriving DecidableEq, Repr

namespace Keyword

/-- The order of the keywords, which is the order of the checks. -/
def all : List Keyword :=
  [.type, .multipleOf, .maximum, .exclusiveMaximum, .minimum, .exclusiveMinimum, .minLength,
    .maxLength]

/-- The spelling of a keyword. -/
def name : Keyword → String
  | .type => "type"
  | .multipleOf => "multipleOf"
  | .maximum => "maximum"
  | .exclusiveMaximum => "exclusiveMaximum"
  | .minimum => "minimum"
  | .exclusiveMinimum => "exclusiveMinimum"
  | .minLength => "minLength"
  | .maxLength => "maxLength"

theorem mem_all (k : Keyword) : k ∈ all := by cases k <;> simp [all]

theorem name_injective {j k : Keyword} (h : j.name = k.name) : j = k := by
  cases j <;> cases k <;> first | rfl | exact absurd h (by decide)

end Keyword

namespace Schema

/-! ## Defects -/

/-- What is wrong with a schema. -/
inductive Defect where
  | notObject
  | typeNotText
  | unknownType (name : String)
  | notNatural (keyword : Keyword)
  | notInteger (keyword : Keyword)
  | notBoolean (keyword : Keyword)
deriving DecidableEq, Repr

namespace Defect

/-- The wording of a defect. -/
def text : Defect → String
  | .notObject => "The schema must be an object"
  | .typeNotText => "The type property must be a string"
  | .unknownType name => "Unrecognized type '" ++ name ++ "'"
  | .notNatural k => "The " ++ k.name ++ " property must be a non-negative integer"
  | .notInteger k => "The " ++ k.name ++ " property must be an integer"
  | .notBoolean k => "The " ++ k.name ++ " property must be a boolean"

end Defect

/-! ## Readings -/

/-- What a schema binds its keywords to. -/
abbrev Reading := Keyword → Option Value

/-- The bindings of a schema, those to `null` left out. -/
def reading (schema : Value) : Reading := fun k => schema.binding? k.name

/-- The natural number a keyword is bound to, if it is bound. -/
def natural? (r : Reading) (k : Keyword) : Except Defect (Option Nat) :=
  match r k with
  | none => .ok none
  | some v => match v.natural? with
    | some n => .ok (some n)
    | none => .error (.notNatural k)

/-- The integer a keyword is bound to, if it is bound. -/
def integer? (r : Reading) (k : Keyword) : Except Defect (Option Int) :=
  match r k with
  | none => .ok none
  | some v => match v.integer? with
    | some n => .ok (some n)
    | none => .error (.notInteger k)

/-- The truth value a keyword is bound to; a keyword that is not bound is
false. -/
def flag (r : Reading) (k : Keyword) : Except Defect Bool :=
  match r k with
  | none => .ok false
  | some v => match v.boolean? with
    | some b => .ok b
    | none => .error (.notBoolean k)

/-- The type a schema asks for. -/
def typeName (r : Reading) : Except Defect TypeName :=
  match (r .type).bind Value.native? with
  | none => .error .typeNotText
  | some text => match TypeName.ofName? text with
    | some t => .ok t
    | none => .error (.unknownType text)

/-- The bound that a keyword and its flag set, if the keyword is bound. The
flag is read only then. -/
def bound? (allowReal : Bool) (r : Reading) (side : Side) (k flagged : Keyword) :
    Except Defect (Option Bound) := do
  match ← integer? r k with
  | none => return none
  | some limit => return some ⟨side, limit, ← flag r flagged, allowReal⟩

/-- What a keyword contributes. A flag is read in its own place as well, so
that it is sound whether or not its bound is set. -/
def rule? (allowReal : Bool) (r : Reading) : Keyword → Except Defect (Option Rule)
  | .type => (typeName r).map fun t => some (.type t)
  | .multipleOf => (natural? r .multipleOf).map (·.map fun m => .multipleOf m)
  | .maximum => (bound? allowReal r .upper .maximum .exclusiveMaximum).map (·.map .bound)
  | .exclusiveMaximum => (flag r .exclusiveMaximum).map fun _ => none
  | .minimum => (bound? allowReal r .lower .minimum .exclusiveMinimum).map (·.map .bound)
  | .exclusiveMinimum => (flag r .exclusiveMinimum).map fun _ => none
  | .minLength => (natural? r .minLength).map (·.map fun n => .minLength n)
  | .maxLength => (natural? r .maxLength).map (·.map fun n => .maxLength n)

/-! ## Compilation -/

/-- The rules of some keywords, or the first defect among them. -/
def rules (allowReal : Bool) (r : Reading) : List Keyword → Except Defect (List Rule)
  | [] => .ok []
  | k :: rest =>
    match rule? allowReal r k with
    | .error defect => .error defect
    | .ok none => rules allowReal r rest
    | .ok (some rule) => (rules allowReal r rest).map (rule :: ·)

/-- A row of rules at one path: a single rule stands alone. -/
def assemble (path : String) : List Rule → Check
  | [rule] => .leaf path rule
  | rules => .all path (rules.map (.leaf path))

/-- The check a schema compiles to at a path, or its first defect. -/
def compile (allowReal : Bool) (path : String) (schema : Value) : Except Defect Check :=
  if schema.kind = .object then
    (rules allowReal (reading schema) Keyword.all).map (assemble path)
  else .error .notObject

@[simp] theorem leaves_assemble (path : String) (rs : List Rule) :
    (assemble path rs).leaves = rs.map (Leaf.mk path) := by
  have row : (rs.map (Check.leaf path)).flatMap Check.leaves = rs.map (Leaf.mk path) := by
    induction rs with
    | nil => rfl
    | cons r rest ih => simp [ih]
  unfold assemble
  split
  · simp
  · simpa using row

end Schema

end Conformance
