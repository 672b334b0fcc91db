import Conformance.Number.Scaled

/-!
# Numbers — exact values and their order

What a numeric value denotes, whatever form it was decoded from: a finite
number, an infinity, or no number at all. Comparison is exact. The order is
the usual one on rationals with the infinities at its ends, and nothing is
comparable with `nan`: `compare?_nan_right`. On integers it is the order of
the integers, `ofInt_lt_ofInt`.
-/


namespace Conformance

/-- What a numeric value denotes. -/
inductive Number where
  | finite (x : Scaled)
  | infinite (negative : Bool)
  | nan
deriving DecidableEq, Repr, Inhabited

namespace Number

/-- The number a ratio denotes. -/
def ofRat (q : Rat) : Number := .finite ⟨q, 0⟩

/-- The number an integer denotes. -/
def ofInt (n : Int) : Number := ofRat n

/-- Whether this is no number at all. -/
def isNaN : Number → Bool
  | .nan => true
  | _ => false

/-- How two numbers compare: `-∞`, the rationals, `+∞`. -/
def compare? : Number → Number → Option Ordering
  | .finite x, .finite y => some (x.compare y)
  | .finite _, .infinite negative => some (if negative then .gt else .lt)
  | .infinite negative, .finite _ => some (if negative then .lt else .gt)
  | .infinite a, .infinite b => some (compare b a)
  | _, _ => none

/-- The strict order. -/
def lt (x y : Number) : Bool := x.compare? y == some .lt

/-- The weak order: below or equal, and only between numbers. -/
def le (x y : Number) : Bool := (x.compare? y).any Ordering.isLE

/-- Whether two numbers are one, however they are written. -/
def isSame (x y : Number) : Bool := x.compare? y == some .eq

/-! ## Nothing compares with `nan` -/

@[simp] theorem compare?_nan_right (x : Number) : compare? x .nan = none := by cases x <;> rfl

@[simp] theorem compare?_nan_left (x : Number) : compare? .nan x = none := by cases x <;> rfl

@[simp] theorem lt_nan_right (x : Number) : lt x .nan = false := by simp [lt]

@[simp] theorem lt_nan_left (x : Number) : lt .nan x = false := by simp [lt]

@[simp] theorem le_nan_right (x : Number) : le x .nan = false := by simp [le]

@[simp] theorem le_nan_left (x : Number) : le .nan x = false := by simp [le]

/-! ## Ratios and integers keep their order -/

theorem finite_lt_finite {x y : Scaled} :
    (finite x).lt (finite y) = true ↔ x.value < y.value := by
  rw [← Scaled.compare_eq_lt_iff, lt, compare?]
  simp

theorem finite_le_finite {x y : Scaled} :
    (finite x).le (finite y) = true ↔ x.value ≤ y.value := by
  rw [← Rat.not_lt, ← Scaled.compare_eq_gt_iff, le, compare?]
  cases x.compare y <;> simp

theorem finite_isSame_finite {x y : Scaled} :
    (finite x).isSame (finite y) = true ↔ x.value = y.value := by
  rw [← Scaled.compare_eq_eq_iff, isSame, compare?]
  simp

theorem ofInt_lt_ofInt {m n : Int} : (ofInt m).lt (ofInt n) = true ↔ m < n := by
  rw [ofInt, ofInt, ofRat, ofRat, finite_lt_finite, Scaled.value_mk_zero, Scaled.value_mk_zero]
  exact Rat.intCast_lt_intCast

theorem ofInt_le_ofInt {m n : Int} : (ofInt m).le (ofInt n) = true ↔ m ≤ n := by
  rw [ofInt, ofInt, ofRat, ofRat, finite_le_finite, Scaled.value_mk_zero, Scaled.value_mk_zero]
  exact Rat.intCast_le_intCast

end Number

end Conformance
