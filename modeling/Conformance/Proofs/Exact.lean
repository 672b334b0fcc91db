import Conformance.Check.Rule
import Mathlib.Data.Rat.Cast.Order
import Mathlib.Order.WithBot
import Mathlib.Tactic.FieldSimp
import Mathlib.Tactic.NormNum
import Mathlib.Tactic.Ring

/-!
# Exact values — numbers on the extended line

What a numeric value denotes is a point of the extended rational line, or
no point where it is no number. `Value.extended?` gives the point in the
terms of arithmetic: a double is its significand times a power of two, a
decimal its coefficient times a power of ten. The library compares numbers
without ever writing the powers out, and `Number.lt_iff` and
`Number.le_iff` say that what it decides is the order of the line. So a
bound admits exactly the numbers whose point it holds, `Bound.admits_iff`.
-/


namespace Conformance

/-- The extended rational line. -/
abbrev Extended : Type := WithBot (WithTop ℚ)

namespace Extended

/-- A rational as a point of the line. -/
def rational (q : ℚ) : Extended := ((q : WithTop ℚ) : WithBot (WithTop ℚ))

/-- The end of the line on one side. -/
def infinity (negative : Bool) : Extended := if negative then ⊥ else ⊤

@[simp] theorem rational_lt_rational {p q : ℚ} : rational p < rational q ↔ p < q := by
  simp [rational]

@[simp] theorem rational_le_rational {p q : ℚ} : rational p ≤ rational q ↔ p ≤ q := by
  simp [rational]

@[simp] theorem rational_inj {p q : ℚ} : rational p = rational q ↔ p = q := by
  simp [rational]

theorem rational_lt_infinity {q : ℚ} {negative : Bool} :
    rational q < infinity negative ↔ negative = false := by
  cases negative
  · simpa [rational, infinity] using WithBot.coe_lt_coe.mpr (WithTop.coe_lt_top q)
  · simp [infinity]

theorem infinity_lt_rational {q : ℚ} {negative : Bool} :
    infinity negative < rational q ↔ negative = true := by
  cases negative
  · simp [infinity]
  · simp [rational, infinity]

end Extended

/-! ## The point a number denotes -/

/-- A sign in front of a size. -/
def withSign (negative : Bool) (size : ℚ) : ℚ := if negative then -size else size

/-- A power with an exponent of either sign is what its two halves leave. -/
theorem pow_toNat_div_pow_toNat (b : ℚ) (e : ℤ) : b ^ e.toNat / b ^ (-e).toNat = b ^ e := by
  rcases le_total 0 e with h | h
  · lift e to ℕ using h
    simp
  · obtain ⟨n, rfl⟩ : ∃ n : ℕ, e = -n := ⟨(-e).toNat, by omega⟩
    simp

@[simp] theorem cast_tenTo (n : ℕ) : (tenTo n : ℚ) = 10 ^ n := by simp [tenTo]

@[simp] theorem cast_twoTo (n : ℕ) : (twoTo n : ℚ) = 2 ^ n := by simp [twoTo]

namespace Scaled

/-- The value of a scaled number, in one piece. -/
theorem value_eq (x : Scaled) : x.value = x.mantissa * (10 : ℚ) ^ x.exponent := by
  rw [value, Rat.mkRat_eq_div, ← pow_toNat_div_pow_toNat]
  push_cast
  rw [cast_tenTo, cast_tenTo, mul_div_mul_comm, Rat.num_div_den]

end Scaled

namespace Number

/-- The point a number denotes. -/
def point? : Number → Option Extended
  | .finite x => some (.rational x.value)
  | .infinite negative => some (.infinity negative)
  | .nan => none

@[simp] theorem point?_ofRat (q : ℚ) : (ofRat q).point? = some (.rational q) := by
  simp [ofRat, point?]

@[simp] theorem point?_ofInt (n : ℤ) : (ofInt n).point? = some (.rational n) := by
  simp [ofInt]

/-- The infinities stand in the order of the ends of the line. -/
theorem infinite_lt_infinite {a b : Bool} :
    (infinite a).lt (infinite b) = true ↔ Extended.infinity a < Extended.infinity b := by
  cases a <;> cases b <;> decide

theorem infinite_le_infinite {a b : Bool} :
    (infinite a).le (infinite b) = true ↔ Extended.infinity a ≤ Extended.infinity b := by
  cases a <;> cases b <;> decide

/-- **The strict order is that of the line.** -/
theorem lt_iff {x y : Number} :
    x.lt y = true ↔ ∃ a ∈ x.point?, ∃ b ∈ y.point?, a < b := by
  cases x <;> cases y <;> simp only [point?, Option.mem_def, Option.some.injEq, exists_eq_left',
    reduceCtorEq, false_and, exists_false, and_false, lt_nan_left, lt_nan_right, Bool.false_eq_true]
  case finite.finite x y => rw [finite_lt_finite, Extended.rational_lt_rational]
  case finite.infinite x b =>
    rw [Extended.rational_lt_infinity]
    cases b <;> simp [lt, compare?]
  case infinite.finite a y =>
    rw [Extended.infinity_lt_rational]
    cases a <;> simp [lt, compare?]
  case infinite.infinite a b => exact infinite_lt_infinite

/-- **And so is the weak order.** -/
theorem le_iff {x y : Number} :
    x.le y = true ↔ ∃ a ∈ x.point?, ∃ b ∈ y.point?, a ≤ b := by
  cases x <;> cases y <;> simp only [point?, Option.mem_def, Option.some.injEq, exists_eq_left',
    reduceCtorEq, false_and, exists_false, and_false, le_nan_left, le_nan_right, Bool.false_eq_true]
  case finite.finite x y => rw [finite_le_finite, Extended.rational_le_rational]
  case finite.infinite x b =>
    rw [← not_lt, Extended.infinity_lt_rational]
    cases b <;> simp [le, compare?]
  case infinite.finite a y =>
    rw [← not_lt, Extended.rational_lt_infinity]
    cases a <;> simp [le, compare?]
  case infinite.infinite a b => exact infinite_le_infinite

end Number

/-! ## The point a value denotes -/

namespace Value

/-- The point a value denotes: an integer is itself, a double is its
significand times a power of two, a decimal its coefficient times a power
of ten. A quantity that is no number denotes no point, and no other value
does. -/
def extended? : Value → Option Extended
  | .integer n => some (.rational n)
  | .quantity (.binary (.finite negative m q)) => some (.rational (withSign negative (m * 2 ^ q)))
  | .quantity (.binary (.infinite negative)) => some (.infinity negative)
  | .quantity (.binary .nan) => none
  | .quantity (.decimal (.finite ⟨negative, c, e⟩)) =>
    some (.rational (withSign negative (c * 10 ^ e)))
  | .quantity (.decimal (.infinite negative)) => some (.infinity negative)
  | .quantity (.decimal (.nan ..)) => none
  | .quantity (.ratio q) => some (.rational q)
  | _ => none

end Value

/-- The size of a finite double, in one piece. -/
theorem Binary64.size_eq (m : ℕ) (q : ℤ) :
    mkRat (m * twoTo q.toNat : ℕ) (twoTo (-q).toNat) = m * (2 : ℚ) ^ q := by
  rw [Rat.mkRat_eq_div, ← pow_toNat_div_pow_toNat]
  push_cast
  rw [cast_twoTo, cast_twoTo, mul_div_assoc]

theorem Binary64.point?_number_finite (negative : Bool) (m : ℕ) (q : ℤ) :
    (Binary64.finite negative m q).number.point? =
      some (.rational (withSign negative (m * 2 ^ q))) := by
  rw [Binary64.number, Number.point?_ofRat, Binary64.size_eq, withSign]

theorem Decimal.point?_number_finite (negative : Bool) (c : ℕ) (e : ℤ) :
    (Decimal.finite ⟨negative, c, e⟩).number.point? =
      some (.rational (withSign negative (c * 10 ^ e))) := by
  rw [Decimal.number, Number.point?, Scaled.value_eq]
  cases negative <;> simp [withSign]

/-- **The library's number of a value is the point it denotes.** -/
theorem Value.point?_number? (v : Value) : v.number?.bind Number.point? = v.extended? := by
  cases v with
  | integer n => exact Number.point?_ofInt n
  | quantity x =>
    cases x with
    | binary x =>
      cases x with
      | finite negative m q => exact Binary64.point?_number_finite negative m q
      | infinite negative => rfl
      | nan => rfl
    | decimal x =>
      cases x with
      | finite numeral => exact Decimal.point?_number_finite _ _ _
      | infinite negative => rfl
      | nan negative signalling payload => rfl
    | ratio q => exact Number.point?_ofRat q
  | _ => rfl

/-! ## Bounds on the line -/

/-- Whether a point lies on the right side of a limit. -/
def Bound.holds (b : Bound) (x : Extended) : Prop :=
  match b.side, b.exclusive with
  | .upper, true => x < .rational b.limit
  | .upper, false => x ≤ .rational b.limit
  | .lower, true => .rational b.limit < x
  | .lower, false => .rational b.limit ≤ x

instance (b : Bound) (x : Extended) : Decidable (b.holds x) :=
  match b with
  | ⟨.upper, limit, true, _⟩ => inferInstanceAs (Decidable (x < .rational limit))
  | ⟨.upper, limit, false, _⟩ => inferInstanceAs (Decidable (x ≤ .rational limit))
  | ⟨.lower, limit, true, _⟩ => inferInstanceAs (Decidable (.rational limit < x))
  | ⟨.lower, limit, false, _⟩ => inferInstanceAs (Decidable (.rational limit ≤ x))

/-- **A bound admits the numbers whose point it holds**, and never what is
no number. -/
theorem Bound.admits_iff {b : Bound} {x : Number} :
    b.admits x = true ↔ ∃ p ∈ x.point?, b.holds p := by
  obtain ⟨side, limit, exclusive, allowReal⟩ := b
  cases side <;> cases exclusive <;>
    simp [admits, holds, Number.lt_iff, Number.le_iff, Number.point?_ofInt]

/-- The same of a value, by the point the value denotes. -/
theorem Bound.any_admits (b : Bound) (v : Value) :
    v.number?.any b.admits = v.extended?.any fun x => b.holds x := by
  rw [← Value.point?_number?, Bool.eq_iff_iff]
  cases v.number? with
  | none => simp
  | some x =>
    rw [Option.any_some, Bound.admits_iff, Option.bind_some]
    simp only [Option.any_eq_true, Option.mem_def, decide_eq_true_eq]

end Conformance
