import Conformance.Check.Blueprint
import Conformance.Proofs.Tightening

/-!
# Attempts — evaluation by operations that can fail

Checks compare values, divide them and take their lengths, and none of that
works on every value: texts have no order among numbers, decimals that are no
number cannot be compared at all, nothing is divided by zero, and many values
have no length. `Check.attempt` evaluates a check with operations that fail in
these cases, in the order in which the rules ask for them. A rule asks first
whether an operation makes sense, so `attempt_succeeds` is that none ever fails,
on any value, and that what comes out are the issues of the check.
-/


namespace Conformance

/-- Why an operation fails. -/
inductive Trap where
  | unordered
  | invalidDecimal
  | notIntegers
  | zeroDivisor
  | notSized
  | unknownType (name : String)
deriving DecidableEq, Repr

/-- What an operation gives, unless it fails. -/
abbrev Attempt := Except Trap

/-! ## Operations -/

namespace Value

/-- Whether this is a decimal that is no number. -/
def isInvalidDecimal : Value → Bool
  | .quantity (.decimal (.nan ..)) => true
  | _ => false

/-- Whether this is a decimal that not even equality may look at. -/
def isSignal : Value → Bool
  | .quantity (.decimal (.nan _ signalling _)) => signalling
  | _ => false

/-- The numbers of two values that are to be put in order. Both must be real
numbers, and no decimal may be other than a number. -/
def ordered (v w : Value) : Attempt (Number × Number) :=
  if v.isInvalidDecimal || w.isInvalidDecimal then .error .invalidDecimal
  else match v.number?, w.number? with
    | some x, some y => .ok (x, y)
    | _, _ => .error .unordered

/-- Whether a value is below another. -/
def isBelow (v w : Value) : Attempt Bool := (v.ordered w).map fun (x, y) => x.lt y

/-- Whether a value is at most another. -/
def isAtMost (v w : Value) : Attempt Bool := (v.ordered w).map fun (x, y) => x.le y

/-- Whether a value is an integer, in the sense of equality. -/
def isEqual (v : Value) (n : Int) : Attempt Bool :=
  if v.isSignal then .error .invalidDecimal else .ok (v.isSameNumber (.integer n))

/-- The remainder of a division, which has the sign of the divisor. -/
def remainder (v w : Value) : Attempt Int :=
  match v.integer?, w.integer? with
  | some n, some m => if m = 0 then .error .zeroDivisor else .ok (n.fmod m)
  | _, _ => .error .notIntegers

/-- Whether a value has a length. Besides texts these are rows, mappings, sets
and rows of bytes. -/
def isSized : Value → Bool
  | .text .. | .array .. | .range .. | .object .. | .frozenSet _ => true
  | .alien (.bytes _) | .alien .byteArray | .alien (.byteView ..) | .alien .set
  | .alien .keysView => true
  | _ => false

/-- The length of a value. A check asks for those of texts only, so how much
other values hold is left open. -/
def size (extent : Value → Nat) (v : Value) : Attempt Nat :=
  if v.isSized then .ok (v.length?.getD (extent v)) else .error .notSized

end Value

/-- The kinds that a type takes, and the reason it has against others. -/
def typeTable : List (String × List Kind × Reason) :=
  [("string", [.string], .notOfType .string),
    ("number", [.integer, .number], .notOfType .number),
    ("integer", [.integer], .notOfType .integer),
    ("boolean", [.boolean], .notOfType .boolean),
    ("array", [.array], .notOfType .array),
    ("object", [.object], .notOfType .object)]

/-- The entry of a type in the table, by its name. -/
def typeEntry (name : String) : Attempt (List Kind × Reason) :=
  match typeTable.lookup name with
  | some entry => .ok entry
  | none => .error (.unknownType name)

/-! ## Rules and checks -/

namespace Bound

/-- What a bound has against the kind of a value. -/
def kindReason? (b : Bound) (v : Value) : Option Reason :=
  if b.allowReal then if v.isReal then none else some (.notOfType .number)
  else if v.isInteger then none else some (.notOfType .integer)

/-- Whether a bound holds a value. What is no number is not compared. -/
def attempt (b : Bound) (v : Value) : Attempt Bool :=
  if v.isNaN then .ok false
  else match b.side, b.exclusive with
    | .upper, true => v.isBelow (.integer b.limit)
    | .upper, false => v.isAtMost (.integer b.limit)
    | .lower, true => (Value.integer b.limit).isBelow v
    | .lower, false => (Value.integer b.limit).isAtMost v

end Bound

namespace Rule

/-- Whether a value is an integer that is not negative. -/
def attemptNatural (v : Value) : Attempt Bool :=
  if v.isInteger then (Value.integer 0).isAtMost v else .ok false

/-- Whether a divisor divides a value. Nothing is divided by zero, and zero is
all that it divides. -/
def attemptDivides (m : Int) (v : Value) : Attempt Bool :=
  if m = 0 then v.isEqual 0 else (v.remainder (.integer m)).map (· == 0)

/-- Why a value breaks a rule, if it does and no operation fails. -/
def attempt (extent : Value → Nat) (v : Value) : Rule → Attempt (Option Reason)
  | .type t => do
    let (kinds, reason) ← typeEntry t.name
    return if v.kind ∈ kinds then none else some reason
  | .multipleOf m => do
    if ← attemptNatural v then
      if ← attemptDivides m v then return none else return some (.notMultiple m)
    else return some .notNatural
  | .bound b =>
    match b.kindReason? v with
    | some reason => .ok (some reason)
    | none => do if ← b.attempt v then return none else return some (.outOfBound b.limit)
  | .minLength n =>
    if v.kind = .string then do
      if ((← v.size extent) : Int) < n then return some (.tooShort n) else return none
    else .ok none
  | .maxLength n =>
    if v.kind = .string then do
      if n < ((← v.size extent) : Int) then return some (.tooLong n) else return none
    else .ok none

end Rule

namespace Check

mutual

/-- Every issue of a value, unless an operation fails. -/
def attempt (extent : Value → Nat) (v : Value) : Check → Attempt (List Issue)
  | .leaf path rule => do
    match ← rule.attempt extent v with
    | some reason => return [⟨path, reason⟩]
    | none => return []
  | .all _ children => attemptRow extent v children

/-- The issues of a row of checks, one after another. -/
def attemptRow (extent : Value → Nat) (v : Value) : List Check → Attempt (List Issue)
  | [] => .ok []
  | c :: rest => do
    let first ← attempt extent v c
    let others ← attemptRow extent v rest
    return first ++ others

end

end Check

/-! ## When operations succeed -/

namespace Value

variable {v w : Value} {extent : Value → Nat}

/-- **Order is there for real numbers**, decimals that are no number left out. -/
theorem ordered_eq_ok_iff {p : Number × Number} :
    v.ordered w = .ok p ↔ v.isInvalidDecimal = false ∧ w.isInvalidDecimal = false ∧
      v.number? = some p.1 ∧ w.number? = some p.2 := by
  rw [ordered]
  by_cases invalid : (v.isInvalidDecimal || w.isInvalidDecimal) = true
  · rw [if_pos invalid]
    constructor
    · intro h
      cases h
    · rintro ⟨hv, hw, -⟩
      rw [hv, hw] at invalid
      cases invalid
  · obtain ⟨hv, hw⟩ : v.isInvalidDecimal = false ∧ w.isInvalidDecimal = false := by
      simpa using invalid
    rw [if_neg invalid, hv, hw]
    cases v.number? <;> cases w.number? <;> simp [Prod.ext_iff]

/-- A signal is of the kind of numbers, and cannot be compared with any. -/
example : (Value.quantity (.decimal (.nan false true []))).isBelow (.integer 1) =
    .error .invalidDecimal := rfl

/-- **Remainders are there for integers**, and for divisors other than zero. -/
theorem remainder_eq_ok_iff {r : Int} :
    v.remainder w = .ok r ↔
      ∃ n m, v = .integer n ∧ w = .integer m ∧ m ≠ 0 ∧ r = n.fmod m := by
  cases v with
  | integer n =>
    cases w with
    | integer m =>
      by_cases zero : m = 0 <;> simp [remainder, integer?, zero, eq_comm]
    | _ => simp [remainder, integer?]
  | _ => simp [remainder, integer?]

/-- **Lengths are there for what is sized.** -/
theorem size_eq_ok_iff {n : Nat} :
    v.size extent = .ok n ↔ v.isSized = true ∧ v.length?.getD (extent v) = n := by
  rw [size]
  by_cases sized : v.isSized = true <;> simp [sized]

/-- A decimal that is no number is no number. -/
theorem isInvalidDecimal_eq_false (h : v.isNaN = false) : v.isInvalidDecimal = false := by
  unfold isInvalidDecimal
  split
  · cases h
  · rfl

/-- Numbers can be put in order with integers. -/
theorem ordered_integer {x : Number} {n : Int} (number : v.isNaN = false)
    (denoted : v.number? = some x) :
    v.ordered (.integer n) = .ok (x, .ofInt n) ∧ (Value.integer n).ordered v = .ok (.ofInt n, x) :=
  ⟨ordered_eq_ok_iff.mpr ⟨isInvalidDecimal_eq_false number, rfl, denoted, rfl⟩,
    ordered_eq_ok_iff.mpr ⟨rfl, isInvalidDecimal_eq_false number, rfl, denoted⟩⟩

/-- Integers are equal as they are. -/
theorem isEqual_integer (n m : Int) : (Value.integer n).isEqual m = .ok (decide (n = m)) := by
  have zero : (Number.ofInt 0).isSame (Number.ofInt 0) = true :=
    Number.finite_isSame_finite.mpr rfl
  have same : (Number.ofInt n).isSame (Number.ofInt m) = decide (n = m) := by
    rw [Bool.eq_iff_iff, Number.ofInt, Number.ofInt, Number.ofRat, Number.ofRat,
      Number.finite_isSame_finite, Scaled.value_mk_zero, Scaled.value_mk_zero]
    simp
  have unsigned : (Value.integer n).isSignal = false := rfl
  rw [isEqual, unsigned]
  simp [isSameNumber, keyNumber?, number?, zero, same]

end Value

/-- The entry of a type takes the kinds that the type accepts. -/
theorem exists_typeEntry_name (t : TypeName) :
    ∃ kinds, typeEntry t.name = .ok (kinds, .notOfType t) ∧
      ∀ kind, kind ∈ kinds ↔ t.accepts kind = true := by
  cases t <;> exact ⟨_, rfl, fun kind => by cases kind <;> decide⟩

/-- **The table has the types**, and nothing else. -/
theorem exists_typeEntry_iff {name : String} :
    (∃ entry, typeEntry name = .ok entry) ↔ ∃ t : TypeName, t.name = name := by
  constructor
  · rintro ⟨entry, h⟩
    rw [typeEntry] at h
    cases found : typeTable.lookup name with
    | none => simp [found] at h
    | some _ =>
      obtain ⟨before, behind, listed, -⟩ := List.lookup_eq_some_iff.mp found
      have named : name ∈ TypeName.all.map TypeName.name := by
        have names : typeTable.map Prod.fst = TypeName.all.map TypeName.name := rfl
        rw [← names, listed]
        simp
      obtain ⟨t, -, h⟩ := List.mem_map.mp named
      exact ⟨t, h⟩
  · rintro ⟨t, rfl⟩
    obtain ⟨kinds, h, -⟩ := exists_typeEntry_name t
    exact ⟨_, h⟩

/-! ## Rules ask first -/

namespace Bound

variable {b : Bound} {v : Value}

theorem kindReason?_eq (b : Bound) (v : Value) :
    b.kindReason? v = if b.asks.accepts v.kind then none else some (.notOfType b.asks) := by
  unfold kindReason? asks
  cases b.allowReal
  · simp [TypeName.accepts, Value.isInteger_iff_kind]
  · simp [TypeName.accepts, Value.isReal_iff_kind]

/-- A bound that has nothing against the kind of a value can be compared. -/
theorem attempt_eq (asked : b.asks.accepts v.kind = true) :
    b.attempt v = .ok (v.number?.any b.admits) := by
  have real : v.kind = .integer ∨ v.kind = .number :=
    (asks_accepts_iff.mp asked).imp_right And.right
  obtain ⟨x, denoted⟩ := Option.isSome_iff_exists.mp (Value.isReal_iff_kind.mpr real)
  rw [attempt, denoted, Option.any_some]
  by_cases nan : v.isNaN = true
  · have none : x = .nan := by
      rw [Value.isNaN, denoted, Option.any_some] at nan
      cases x <;> simp_all [Number.isNaN]
    rw [if_pos nan, none, admits_nan]
  · have number : v.isNaN = false := by simpa using nan
    obtain ⟨above, below⟩ := Value.ordered_integer (n := b.limit) number denoted
    rw [if_neg nan]
    unfold admits
    cases b.side <;> cases b.exclusive <;>
      simp only [Value.isBelow, Value.isAtMost, above, below, Except.map]

end Bound

namespace Rule

variable {extent : Value → Nat} {v : Value}

theorem attemptNatural_eq (v : Value) : attemptNatural v = .ok v.natural?.isSome := by
  cases v with
  | integer n =>
    obtain ⟨above, -⟩ := Value.ordered_integer (v := .integer 0) (n := n) rfl rfl
    have compared : (Number.ofInt 0).le (Number.ofInt n) = decide (0 ≤ n) := by
      rw [Bool.eq_iff_iff, Number.ofInt_le_ofInt, decide_eq_true_iff]
    have integer : (Value.integer n).isInteger = true := rfl
    rw [attemptNatural, if_pos integer, Value.isAtMost, above]
    simp only [Except.map, compared]
    cases n <;> rfl
  | _ => rfl

/-- **A divisor is asked to divide only what it can**, zero included. -/
theorem attemptDivides_eq (m n : Int) : attemptDivides m (.integer n) = .ok (decide (m ∣ n)) := by
  rw [attemptDivides]
  by_cases zero : m = 0
  · rw [if_pos zero, Value.isEqual_integer, zero]
    simp
  · have rest : (Value.integer n).remainder (.integer m) = .ok (n.fmod m) :=
      Value.remainder_eq_ok_iff.mpr ⟨n, m, rfl, rfl, zero, rfl⟩
    rw [if_neg zero, rest]
    have divided : (n.fmod m == 0) = decide (m ∣ n) := by
      rw [Bool.eq_iff_iff, beq_iff_eq, decide_eq_true_iff, Int.dvd_iff_fmod_eq_zero]
    simp only [Except.map, divided]

/-- The length of a text is there. -/
theorem size_text (form : TextForm) (s : String) :
    (Value.text form s).size extent = .ok s.length :=
  Value.size_eq_ok_iff.mpr ⟨rfl, rfl⟩

/-- **No operation of a rule fails**, and the reason is that of the rule. -/
theorem attempt_eq (extent : Value → Nat) (v : Value) (r : Rule) :
    r.attempt extent v = .ok (r.failure? v) := by
  cases r with
  | type t =>
    obtain ⟨kinds, entry, taken⟩ := exists_typeEntry_name t
    rw [attempt, entry, failure?]
    simp only [bind, Except.bind, pure, Except.pure, taken]
  | multipleOf m =>
    rw [attempt, attemptNatural_eq, failure?]
    cases natural : v.natural? with
    | none => rfl
    | some n =>
      obtain rfl := Value.natural?_eq_some_iff.mp natural
      rw [attemptDivides_eq]
      by_cases divided : m ∣ (n : Int) <;>
        simp [divided, bind, Except.bind, pure, Except.pure]
  | bound b =>
    rw [attempt, Bound.kindReason?_eq, failure?]
    by_cases asked : b.asks.accepts v.kind = true
    · simp only [if_pos asked]
      rw [Bound.attempt_eq asked]
      cases v.number?.any b.admits <;> rfl
    · simp only [if_neg asked]
  | minLength n =>
    cases v with
    | text form s =>
      have kind : (Value.text form s).kind = .string := rfl
      rw [attempt, if_pos kind, size_text, failure?]
      by_cases short : (s.length : Int) < n <;>
        simp [short, Value.length?, bind, Except.bind, pure, Except.pure]
    | _ => rfl
  | maxLength n =>
    cases v with
    | text form s =>
      have kind : (Value.text form s).kind = .string := rfl
      rw [attempt, if_pos kind, size_text, failure?]
      by_cases long : n < (s.length : Int) <;>
        simp [long, Value.length?, bind, Except.bind, pure, Except.pure]
    | _ => rfl

end Rule

/-- A divisor lets through the multiples that are not negative. -/
theorem Rule.multipleOf_eq_none_iff {m : Int} {v : Value} :
    (Rule.multipleOf m).failure? v = none ↔ ∃ n : Int, v = .integer n ∧ 0 ≤ n ∧ m ∣ n := by
  rw [← Option.map_eq_none_iff (f := Reason.text), Schema.multipleOf_objects,
    Schema.divisorObjection_eq_none_iff]

namespace Check

theorem attempt_leaf (extent : Value → Nat) (v : Value) (path : String) (rule : Rule) :
    (leaf path rule).attempt extent v = .ok ((leaf path rule).issues v) := by
  rw [attempt, Rule.attempt_eq, issues]
  cases rule.failure? v <;> rfl

/-- **No operation of a check fails**, however its rules are nested. -/
theorem attempt_eq (extent : Value → Nat) (v : Value) (c : Check) :
    c.attempt extent v = .ok (c.issues v) := by
  induction c using Check.induction with
  | leaf path rule => exact attempt_leaf extent v path rule
  | all path children ih =>
    have row : attemptRow extent v children = .ok (issuesOf v children) := by
      induction children with
      | nil => rfl
      | cons c rest ihr =>
        rw [attemptRow, ih c List.mem_cons_self,
          ihr fun d hd => ih d (List.mem_cons_of_mem c hd), issuesOf]
        rfl
    rw [attempt, row, issues]

/-- **Evaluation meets no operation that fails.** Every check gives its issues on
every value, whatever its numbers are and however much values hold; a check of a
type can be built exactly where its name is in the table; and a divisor lets
through its multiples that are not negative, a divisor of zero only zero. -/
theorem attempt_succeeds (extent : Value → Nat) :
    (∀ (c : Check) (v : Value), c.attempt extent v = .ok (c.issues v)) ∧
      (∀ (known : String → Option Check) (path name : String),
        (∃ c, (Blueprint.type path name).build known = .ok c) ↔
          ∃ entry, typeEntry name = .ok entry) ∧
      ∀ (path : String) (m : Int) (v : Value),
        (leaf path (.multipleOf m)).isValid v = true ↔
          ∃ n : Int, v = .integer n ∧ 0 ≤ n ∧ m ∣ n := by
  refine ⟨fun c v => attempt_eq extent v c, fun known path name => ?_, fun path m v => ?_⟩
  · rw [exists_typeEntry_iff, Blueprint.build]
    constructor
    · rintro ⟨c, built⟩
      cases named : TypeName.ofName? name with
      | none => simp [named] at built
      | some t => exact ⟨t, TypeName.name_of_ofName? named⟩
    · rintro ⟨t, rfl⟩
      exact ⟨leaf path (.type t), by rw [TypeName.ofName?_name]⟩
  · rw [isValid_iff, issues_leaf, Option.toList_eq_nil_iff, Leaf.issue?, Option.map_eq_none_iff,
      Rule.multipleOf_eq_none_iff]

end Check

end Conformance
