/-!
# Scaled — ratios times powers of ten

A scaled number is a ratio times a power of ten, with the power kept apart:
it may be far too large to be written out. `Scaled.compare` compares two of
them exactly and writes a power out only as far as it can matter.
`compare_eq_lt_iff` and `compare_eq_eq_iff` say that it is the order of the
rationals that they denote.
-/


namespace Conformance

/-- A power of two. -/
def twoTo (n : Nat) : Nat := Nat.pow 2 n

/-- A power of ten. -/
def tenTo (n : Nat) : Nat := Nat.pow 10 n

theorem tenTo_pos (n : Nat) : 0 < tenTo n := Nat.pow_pos (by decide)

theorem tenTo_add (m n : Nat) : tenTo (m + n) = tenTo m * tenTo n := Nat.pow_add 10 m n

/-- How `x · 10 ^ k` and `y` compare. Beyond the size of `y` only the sign of
`x` matters, so the power grows no further. -/
def compareShifted (x : Int) (k : Nat) (y : Int) : Ordering :=
  compare (x * (tenTo (min k (y.natAbs.log2 + 1)) : Nat)) y

/-- A number is below the power of ten that `compareShifted` stops at. -/
theorem natAbs_lt_tenTo (y : Int) {m : Nat} (h : y.natAbs.log2 < m) : y.natAbs < tenTo m :=
  Nat.lt_of_lt_of_le Nat.lt_log2_self
    (Nat.le_trans (Nat.pow_le_pow_left (by decide) _) (Nat.pow_le_pow_right (by decide) h))

/-- Two powers that are both beyond the size of `y` compare alike. -/
theorem compare_mul_of_natAbs_lt {x y : Int} {p q : Nat} (hp : y.natAbs < p) (hq : y.natAbs < q) :
    compare (x * (p : Int)) y = compare (x * (q : Int)) y := by
  rcases Int.lt_trichotomy x 0 with hx | rfl | hx
  · have below : ∀ {r : Nat}, y.natAbs < r → x * (r : Int) < y := fun {r} hr => by
      have : x * (r : Int) ≤ -1 * (r : Int) := Int.mul_le_mul_of_nonneg_right (by omega) (by omega)
      omega
    rw [Int.compare_eq_lt.mpr (below hp), Int.compare_eq_lt.mpr (below hq)]
  · simp
  · have above : ∀ {r : Nat}, y.natAbs < r → y < x * (r : Int) := fun {r} hr => by
      have : 1 * (r : Int) ≤ x * (r : Int) := Int.mul_le_mul_of_nonneg_right (by omega) (by omega)
      omega
    rw [Int.compare_eq_gt.mpr (above hp), Int.compare_eq_gt.mpr (above hq)]

/-- Stopping early changes nothing. -/
theorem compareShifted_eq (x : Int) (k : Nat) (y : Int) :
    compareShifted x k y = compare (x * (tenTo k : Nat)) y := by
  unfold compareShifted
  rcases Nat.le_total k (y.natAbs.log2 + 1) with h | h
  · rw [Nat.min_eq_left h]
  · rw [Nat.min_eq_right h]
    exact compare_mul_of_natAbs_lt (natAbs_lt_tenTo y (Nat.lt_succ_self _))
      (natAbs_lt_tenTo y (Nat.lt_of_succ_le h))

/-- The number `mantissa · 10 ^ exponent`. -/
structure Scaled where
  mantissa : Rat
  exponent : Int := 0
deriving DecidableEq, Repr, Inhabited

namespace Scaled

/-- The rational that a scaled number denotes. -/
def value (x : Scaled) : Rat :=
  mkRat (x.mantissa.num * (tenTo x.exponent.toNat : Nat))
    (x.mantissa.den * tenTo (-x.exponent).toNat)

/-- Without a power the value is the mantissa. -/
@[simp] theorem value_mk_zero (q : Rat) : value ⟨q, 0⟩ = q := by
  simp [value, tenTo, Rat.mkRat_self]

/-- How two scaled numbers compare. -/
def compare (x y : Scaled) : Ordering :=
  let a := x.mantissa.num * y.mantissa.den
  let b := y.mantissa.num * x.mantissa.den
  if y.exponent ≤ x.exponent then compareShifted a (x.exponent - y.exponent).toNat b
  else (compareShifted b (y.exponent - x.exponent).toNat a).swap

/-! ## The order -/

/-- A ratio times its denominator is its numerator. -/
theorem mkRat_mul_den (a : Int) {b : Nat} (hb : 0 < b) : mkRat a b * (b : Int) = (a : Rat) := by
  rw [← Rat.mkRat_one b, Rat.mkRat_mul_mkRat, Nat.mul_comm b 1,
    Rat.mkRat_mul_right (Nat.ne_of_gt hb), Rat.mkRat_one]

/-- Ratios compare as their cross products. -/
theorem mkRat_lt_mkRat {a c : Int} {b d : Nat} (hb : 0 < b) (hd : 0 < d) :
    mkRat a b < mkRat c d ↔ a * d < c * b := by
  have hb' : (0 : Rat) < (b : Int) := Rat.intCast_pos.mpr (by omega)
  have hd' : (0 : Rat) < (d : Int) := Rat.intCast_pos.mpr (by omega)
  have left : mkRat a b * (b : Int) * (d : Int) = ((a * d : Int) : Rat) := by
    rw [mkRat_mul_den a hb, Rat.intCast_mul]
  have right : mkRat c d * (b : Int) * (d : Int) = ((c * b : Int) : Rat) := by
    rw [Rat.mul_assoc, Rat.mul_comm (b : Int), ← Rat.mul_assoc, mkRat_mul_den c hd, Rat.intCast_mul]
  rw [← Rat.mul_lt_mul_right hb', ← Rat.mul_lt_mul_right hd', left, right, Rat.intCast_lt_intCast]

/-- The denominator of a value is positive. -/
theorem den_pos (x : Scaled) : 0 < x.mantissa.den * tenTo (-x.exponent).toNat :=
  Nat.mul_pos x.mantissa.den_pos (tenTo_pos _)

/-- Where one exponent is `k` above the other, `10 ^ k` is all that the powers
contribute to the cross products of the values. -/
theorem tenTo_mul_tenTo {e f : Int} {k : Nat} (h : e = f + k) :
    tenTo e.toNat * tenTo (-f).toNat = tenTo k * (tenTo f.toNat * tenTo (-e).toNat) := by
  rw [← tenTo_add, ← tenTo_add, ← tenTo_add]
  congr 1
  omega

/-- The cross products of two values are those of their mantissas, one of
them shifted, times a common positive factor. -/
theorem cross_products {x y : Scaled} {k : Nat} (h : x.exponent = y.exponent + k) :
    ∃ common : Int, 0 < common ∧
      (x.mantissa.num * (tenTo x.exponent.toNat : Nat)) *
          (y.mantissa.den * tenTo (-y.exponent).toNat : Nat) =
        x.mantissa.num * y.mantissa.den * (tenTo k : Nat) * common ∧
      (y.mantissa.num * (tenTo y.exponent.toNat : Nat)) *
          (x.mantissa.den * tenTo (-x.exponent).toNat : Nat) =
        y.mantissa.num * x.mantissa.den * common := by
  refine ⟨(tenTo y.exponent.toNat * tenTo (-x.exponent).toNat : Nat), ?_, ?_, ?_⟩
  · exact Int.natCast_pos.mpr (Nat.mul_pos (tenTo_pos _) (tenTo_pos _))
  · have := congrArg (Nat.cast (R := Int)) (tenTo_mul_tenTo h)
    push_cast at this ⊢
    grind
  · push_cast
    grind

theorem compareShifted_of_exponent_eq {x y : Scaled} {k : Nat} (h : x.exponent = y.exponent + k) :
    (compareShifted (x.mantissa.num * y.mantissa.den) k (y.mantissa.num * x.mantissa.den) = .lt ↔
      x.value < y.value) ∧
    (compareShifted (x.mantissa.num * y.mantissa.den) k (y.mantissa.num * x.mantissa.den) = .gt ↔
      y.value < x.value) := by
  obtain ⟨common, pos, left, right⟩ := cross_products h
  rw [compareShifted_eq, Int.compare_eq_lt, Int.compare_eq_gt, value, value,
    mkRat_lt_mkRat x.den_pos y.den_pos, mkRat_lt_mkRat y.den_pos x.den_pos, left, right]
  exact ⟨(Int.mul_lt_mul_right pos).symm, (Int.mul_lt_mul_right pos).symm⟩

/-- **Comparison is the order of the rationals**, from below. -/
theorem compare_eq_lt_iff {x y : Scaled} : x.compare y = .lt ↔ x.value < y.value := by
  unfold compare
  split
  · rename_i h
    exact (compareShifted_of_exponent_eq (by omega)).1
  · rename_i h
    rw [Ordering.swap_eq_lt]
    exact (compareShifted_of_exponent_eq (by omega)).2

/-- **Comparison is the order of the rationals**, from above. -/
theorem compare_eq_gt_iff {x y : Scaled} : x.compare y = .gt ↔ y.value < x.value := by
  unfold compare
  split
  · rename_i h
    exact (compareShifted_of_exponent_eq (by omega)).2
  · rename_i h
    rw [Ordering.swap_eq_gt]
    exact (compareShifted_of_exponent_eq (by omega)).1

/-- **Equal numbers are the same rational**, however they are scaled. -/
theorem compare_eq_eq_iff {x y : Scaled} : x.compare y = .eq ↔ x.value = y.value := by
  have lt := compare_eq_lt_iff (x := x) (y := y)
  have gt := compare_eq_gt_iff (x := x) (y := y)
  cases h : x.compare y <;> simp only [h, reduceCtorEq, true_iff, false_iff] at lt gt ⊢
  · exact Rat.ne_of_lt lt
  · exact Rat.le_antisymm (Rat.not_lt.mp gt) (Rat.not_lt.mp lt)
  · exact (Rat.ne_of_lt gt).symm

end Scaled

end Conformance
