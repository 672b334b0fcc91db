import Conformance.Proofs.Exact
import Conformance.Validator

/-!
# Partition — the two sides of a limit

A limit parts the extended line in two, and the limit itself belongs to one of
the parts. `Bound.opposite` is the bound of the other part, `holds_opposite`.
What is no number denotes no point of the line, so neither bound lets it
through, and every real number denotes one, so `bounds_part_numbers` is that
exactly one of the two bounds does, by the order of the line. Among integers a
bound that leaves out its limit is one that ends a step before it,
`holds_inner`, and the lower bounds mirror the upper ones, `holds_mirror`.
-/


namespace Conformance

/-! ## Points of numbers -/

/-- What is no number is all that denotes no point. -/
theorem Number.point?_eq_none_iff {x : Number} : x.point? = none ↔ x.isNaN = true := by
  cases x <;> simp [point?, isNaN]

namespace Value

variable {v : Value}

/-- The values that are no number: the one of the doubles, and those of the
decimals, whatever sign or payload they carry. -/
theorem isNaN_iff :
    v.isNaN = true ↔ v = .quantity (.binary .nan) ∨
      ∃ negative signalling payload,
        v = .quantity (.decimal (.nan negative signalling payload)) := by
  constructor
  · intro h
    cases v with
    | quantity x =>
      cases x with
      | binary x =>
        cases x with
        | nan => exact .inl rfl
        | _ => cases h
      | decimal x =>
        cases x with
        | nan negative signalling payload => exact .inr ⟨negative, signalling, payload, rfl⟩
        | _ => cases h
      | ratio q => cases h
    | _ => cases h
  · rintro (rfl | ⟨negative, signalling, payload, rfl⟩) <;> rfl

theorem extended?_of_isNaN (h : v.isNaN = true) : v.extended? = none := by
  obtain ⟨x, denoted, nan⟩ := (Option.any_eq_true _ _).mp h
  rw [← point?_number?, denoted, Option.bind_some]
  exact Number.point?_eq_none_iff.mpr nan

/-- **Every real number but those denotes a point.** -/
theorem exists_extended? (real : v.kind = .integer ∨ v.kind = .number) (number : v.isNaN = false) :
    ∃ x, v.extended? = some x := by
  obtain ⟨x, denoted⟩ := Option.isSome_iff_exists.mp (isReal_iff_kind.mpr real)
  have pointed : x.point? ≠ none := by
    intro h
    have nan := Number.point?_eq_none_iff.mp h
    rw [isNaN, denoted, Option.any_some, nan] at number
    exact absurd number (by decide)
  rw [← point?_number?, denoted, Option.bind_some]
  exact Option.ne_none_iff_exists'.mp pointed

end Value

/-! ## Bounds that go together -/

/-- The side across. -/
def Side.other : Side → Side
  | .upper => .lower
  | .lower => .upper

namespace Bound

variable {b : Bound}

/-- The bound that begins where another ends: at the same limit, on the side
across, and with the limit in exactly one of the two. -/
def opposite (b : Bound) : Bound := ⟨b.side.other, b.limit, !b.exclusive, b.allowReal⟩

/-- The bound as seen from the other end of the line. -/
def mirror (b : Bound) : Bound := ⟨b.side.other, -b.limit, b.exclusive, b.allowReal⟩

/-- The bound that ends a step before another, and there includes its limit. -/
def inner (b : Bound) : Bound :=
  ⟨b.side, match b.side with
    | .upper => b.limit - 1
    | .lower => b.limit + 1, false, b.allowReal⟩

/-- **Every point lies on one side of a limit.** -/
theorem holds_opposite {x : Extended} : b.opposite.holds x ↔ ¬ b.holds x := by
  obtain ⟨side, limit, exclusive, allowReal⟩ := b
  cases side <;> cases exclusive <;> simp [opposite, Side.other, holds]

/-- A bound holds the integers on its side of the limit. -/
theorem holds_integer {n : Int} :
    b.holds (.rational n) ↔
      match b.side, b.exclusive with
      | .upper, true => n < b.limit
      | .upper, false => n ≤ b.limit
      | .lower, true => b.limit < n
      | .lower, false => b.limit ≤ n := by
  obtain ⟨side, limit, exclusive, allowReal⟩ := b
  cases side <;> cases exclusive <;> simp [holds]

theorem holds_mirror {n : Int} : b.mirror.holds (.rational ↑(-n)) ↔ b.holds (.rational n) := by
  rw [holds_integer, holds_integer]
  obtain ⟨side, limit, exclusive, allowReal⟩ := b
  cases side <;> cases exclusive <;> simp only [mirror, Side.other] <;> omega

/-- Between a limit and the integer before it there is no integer. -/
theorem holds_inner (exclusive : b.exclusive = true) {n : Int} :
    b.inner.holds (.rational n) ↔ b.holds (.rational n) := by
  rw [holds_integer, holds_integer]
  obtain ⟨side, limit, flag, allowReal⟩ := b
  obtain rfl : flag = true := exclusive
  cases side <;> simp only [inner] <;> omega

end Bound

/-! ## Checks of bounds -/

namespace Check

variable {path : String} {b : Bound} {v : Value}

/-- The check that numbers are not above a limit. -/
def maximum (path : String) (limit : Int) (exclusive allowReal : Bool) : Check :=
  .leaf path (.bound ⟨.upper, limit, exclusive, allowReal⟩)

/-- The check that numbers are not below a limit. -/
def minimum (path : String) (limit : Int) (exclusive allowReal : Bool) : Check :=
  .leaf path (.bound ⟨.lower, limit, exclusive, allowReal⟩)

/-- What a bound measures, it finds fault with unless it holds its point. -/
theorem issues_bound (asked : b.asks.accepts v.kind = true) :
    (leaf path (.bound b)).issues v =
      if v.extended?.any (fun x => b.holds x) then [] else [⟨path, .outOfBound b.limit⟩] := by
  rw [issues_leaf, Leaf.issue?, Rule.failure?, if_pos asked, b.any_admits]
  split <;> rfl

theorem isValid_bound_iff {x : Extended} (asked : b.asks.accepts v.kind = true)
    (denoted : v.extended? = some x) :
    (leaf path (.bound b)).isValid v = true ↔ b.holds x := by
  rw [isValid_iff, issues_bound asked, denoted, Option.any_some]
  by_cases held : b.holds x <;> simp [held]

/-- A bound that measures real numbers leaves out what is none, in the words that
it has for what is beyond it. -/
theorem issues_bound_of_isNaN (real : b.allowReal = true) (nan : v.isNaN = true) :
    ((leaf path (.bound b)).issues v).map (fun issue => (issue.path, issue.reason.text)) =
      [(path, "Number is more than " ++ toString b.limit)] := by
  have number : v.kind = .number := by
    obtain rfl | ⟨negative, signalling, payload, rfl⟩ := Value.isNaN_iff.mp nan <;> rfl
  have asked : b.asks.accepts v.kind = true := Bound.asks_accepts_iff.mpr (.inr ⟨real, number⟩)
  have outside : v.extended? = none := Value.extended?_of_isNaN nan
  rw [issues_bound asked, outside]
  rfl

/-- Bounds that hold the same of two integers let them through alike. -/
theorem isValid_bound_congr {b' : Bound} {n n' : Int}
    (h : b.holds (.rational n) ↔ b'.holds (.rational n')) :
    (leaf path (.bound b)).isValid (.integer n) =
      (leaf path (.bound b')).isValid (.integer n') := by
  have asked (c : Bound) : c.asks.accepts (Value.integer n).kind = true :=
    Bound.asks_accepts_iff.mpr (.inl rfl)
  have asked' (c : Bound) : c.asks.accepts (Value.integer n').kind = true :=
    Bound.asks_accepts_iff.mpr (.inl rfl)
  rw [Bool.eq_iff_iff, isValid_bound_iff (asked b) rfl, isValid_bound_iff (asked' b') rfl]
  exact h

/-- **The two bounds at a limit part the real numbers.** A real number that is
one denotes a point, and the order of the line decides which bound takes it;
what is no number is out of both. Among integers a bound that leaves out its limit
is the one that ends a step before it, and the minima mirror the maxima. -/
theorem bounds_part_numbers (path : String) (limit : Int) :
    (∀ v : Value, v.kind = .integer ∨ v.kind = .number → v.isNaN = false →
      ∃ x, v.extended? = some x ∧ ∀ exclusive : Bool,
        ((maximum path limit exclusive true).isValid v = true ↔
          if exclusive then x < .rational limit else x ≤ .rational limit) ∧
        ((minimum path limit (!exclusive) true).isValid v = true ↔
          if exclusive then .rational limit ≤ x else .rational limit < x) ∧
        Xor ((maximum path limit exclusive true).isValid v = true)
          ((minimum path limit (!exclusive) true).isValid v = true)) ∧
      (∀ v : Value, v.isNaN = true → ∀ exclusive : Bool,
        ((maximum path limit exclusive true).issues v).map
            (fun issue => (issue.path, issue.reason.text)) =
          [(path, "Number is more than " ++ toString limit)] ∧
        ((minimum path limit exclusive true).issues v).map
            (fun issue => (issue.path, issue.reason.text)) =
          [(path, "Number is more than " ++ toString limit)]) ∧
      ∀ (n : Int) (allowReal : Bool),
        (maximum path limit true allowReal).isValid (.integer n) =
            (maximum path (limit - 1) false allowReal).isValid (.integer n) ∧
          (minimum path limit true allowReal).isValid (.integer n) =
            (minimum path (limit + 1) false allowReal).isValid (.integer n) ∧
          ∀ exclusive : Bool, (maximum path limit exclusive allowReal).isValid (.integer n) =
            (minimum path (-limit) exclusive allowReal).isValid (.integer (-n)) := by
  refine ⟨fun v real number => ?_, fun v nan exclusive => ?_, fun n allowReal => ?_⟩
  · obtain ⟨x, denoted⟩ := Value.exists_extended? real number
    refine ⟨x, denoted, fun exclusive => ?_⟩
    have asked {b : Bound} (allowed : b.allowReal = true) : b.asks.accepts v.kind = true :=
      Bound.asks_accepts_iff.mpr (real.imp_right fun kind => ⟨allowed, kind⟩)
    have above : (maximum path limit exclusive true).isValid v = true ↔
        (Bound.mk .upper limit exclusive true).holds x := isValid_bound_iff (asked rfl) denoted
    have below : (minimum path limit (!exclusive) true).isValid v = true ↔
        ¬ (Bound.mk .upper limit exclusive true).holds x := by
      rw [← Bound.holds_opposite]
      exact isValid_bound_iff (asked rfl) denoted
    refine ⟨?_, ?_, ?_⟩
    · rw [above]
      cases exclusive <;> rfl
    · rw [below]
      cases exclusive <;> simp [Bound.holds]
    · rw [above, below]
      exact xor_not_right.mpr Iff.rfl
  · exact ⟨issues_bound_of_isNaN rfl nan, issues_bound_of_isNaN rfl nan⟩
  · refine ⟨?_, ?_, fun exclusive => ?_⟩
    · exact isValid_bound_congr
        (Bound.holds_inner (b := ⟨.upper, limit, true, allowReal⟩) rfl).symm
    · exact isValid_bound_congr
        (Bound.holds_inner (b := ⟨.lower, limit, true, allowReal⟩) rfl).symm
    · exact isValid_bound_congr
        (Bound.holds_mirror (b := ⟨.upper, limit, exclusive, allowReal⟩)).symm

/-- A limit that no double is at, next to `2 ^ 53`. The double `2 ^ 53` and the
decimal one tenth below the limit are both below it, which they would not be if
the limit were rounded; a signalling decimal is out of all bounds; and the limit
itself is out of the maximum that leaves it out. -/
theorem bounds_part_numbers_rounding :
    let limit : Int := 9007199254740993
    let double := Value.quantity (.binary (.finite false (2 ^ 52) 1))
    let decimal := Value.quantity (.decimal (.finite ⟨false, 90071992547409929, -1⟩))
    let signal := Value.quantity (.decimal (.nan true true ['1', '2']))
    (maximum "x" limit true true).isValid double = true ∧
      ¬ (minimum "x" limit false true).isValid decimal = true ∧
      ((minimum "x" limit false true).issues signal).map
          (fun issue => (issue.path, issue.reason.text)) =
        [("x", "Number is more than 9007199254740993")] ∧
      (maximum "x" limit true false).isValid (.integer limit) = false := by
  intro limit double decimal signal
  obtain ⟨parted, outside, integers⟩ := bounds_part_numbers "x" limit
  refine ⟨?_, ?_, ?_, ?_⟩
  · obtain ⟨x, denoted, sides⟩ := parted double (.inr rfl) rfl
    obtain rfl : _ = x := Option.some.inj denoted
    refine (sides true).1.mpr (Extended.rational_lt_rational.mpr ?_)
    norm_num [withSign, limit]
  · obtain ⟨x, denoted, sides⟩ := parted decimal (.inr rfl) rfl
    obtain rfl : _ = x := Option.some.inj denoted
    refine (sides true).2.1.not.mpr (not_le.mpr (Extended.rational_lt_rational.mpr ?_))
    norm_num [withSign, limit]
  · exact (outside signal rfl false).2
  · exact (integers limit false).1.trans (by decide +kernel)

end Check

end Conformance
