import Conformance.Proofs.Exact
import Conformance.Validator

/-!
# Appearance — what a check sees of a value

Two values look alike when they are of one kind, as long as each other if they
are texts, and at one point of the extended line if they are numbers. How a
number is represented, how a text is wrapped and what an array holds are no
part of it. A rule asks for nothing else, `failure?_eq_of_looksLike`, so
neither does a tree of rules, however it is nested:
`issues_eq_of_looksLike` is that values which look alike have the same issues.
-/


namespace Conformance

namespace Value

variable {v w : Value}

/-! ## Looking alike -/

/-- Two values look alike: they agree in their kind, in their length if it is
that of texts, and in the point they denote if it is that of numbers. Two
numbers that denote no point agree in that. -/
structure LooksLike (v w : Value) : Prop where
  kind : v.kind = w.kind
  length : v.kind = .string → v.length? = w.length?
  point : v.kind = .integer ∨ v.kind = .number → v.extended? = w.extended?

theorem kind_eq_integer_iff : v.kind = .integer ↔ ∃ n, v = .integer n := by
  cases v <;> simp [kind]

theorem length?_eq_none (h : v.kind ≠ .string) : v.length? = none := by
  rw [← Option.not_isSome_iff_eq_none]
  exact mt length?_isSome_iff_kind.mp h

theorem extended?_eq_none (h : ¬ (v.kind = .integer ∨ v.kind = .number)) :
    v.extended? = none := by
  have numberless : v.number? = none := by
    rw [← Option.not_isSome_iff_eq_none]
    exact mt isReal_iff_kind.mp h
  rw [← point?_number?, numberless, Option.bind_none]

theorem natural?_eq_none (h : v.kind ≠ .integer) : v.natural? = none := by
  refine Option.eq_none_iff_forall_ne_some.mpr fun n natural => h ?_
  exact kind_eq_integer_iff.mpr ⟨n, natural?_eq_some_iff.mp natural⟩

namespace LooksLike

/-- Lengths agree throughout: only texts have one. -/
theorem length?_eq (h : v.LooksLike w) : v.length? = w.length? := by
  by_cases text : v.kind = .string
  · exact h.length text
  · rw [length?_eq_none text, length?_eq_none (h.kind ▸ text)]

/-- Points agree throughout: only integers and quantities denote one. -/
theorem extended?_eq (h : v.LooksLike w) : v.extended? = w.extended? := by
  by_cases measured : v.kind = .integer ∨ v.kind = .number
  · exact h.point measured
  · rw [extended?_eq_none measured, extended?_eq_none (h.kind ▸ measured)]

/-- An integer is known by its point, and a quantity is never one, even where
its point is that of an integer. -/
theorem natural?_eq (h : v.LooksLike w) : v.natural? = w.natural? := by
  by_cases integer : v.kind = .integer
  · obtain ⟨n, rfl⟩ := kind_eq_integer_iff.mp integer
    obtain ⟨m, rfl⟩ := kind_eq_integer_iff.mp (h.kind ▸ integer)
    -- integers embed into the line, so one point is one integer
    have same : n = m := by simpa [extended?] using h.point (.inl integer)
    rw [same]
  · rw [natural?_eq_none integer, natural?_eq_none (h.kind ▸ integer)]

end LooksLike

/-! ## Values that look alike -/

/-- Texts of one length look alike, in whatever form they come. -/
theorem looksLike_text {s s' : String} (h : s.length = s'.length) (form form' : TextForm) :
    (text form s).LooksLike (text form' s') where
  kind := rfl
  length := fun _ => congrArg some h
  point := fun _ => rfl

/-- Quantities that denote one point look alike, and so do those that denote
none. -/
theorem looksLike_quantity {x y : Quantity}
    (h : (quantity x).extended? = (quantity y).extended?) :
    (quantity x).LooksLike (quantity y) where
  kind := rfl
  length := fun _ => rfl
  point := fun _ => h

/-- Values that are neither texts nor numbers look alike when they are of one
kind. -/
theorem looksLike_of_kind (h : v.kind = w.kind) (text : v.kind ≠ .string)
    (integer : v.kind ≠ .integer) (number : v.kind ≠ .number) : v.LooksLike w where
  kind := h
  length := fun is => absurd is text
  point := fun is => absurd is (not_or.mpr ⟨integer, number⟩)

end Value

/-! ## What a rule and a tree of rules see -/

variable {v w : Value}

/-- **A rule breaks in the same way for values that look alike.** -/
theorem Rule.failure?_eq_of_looksLike (h : v.LooksLike w) (r : Rule) :
    r.failure? v = r.failure? w := by
  cases r with
  | type t => rw [failure?, failure?, h.kind]
  | multipleOf m => rw [failure?, failure?, h.natural?_eq]
  | bound b =>
    have admitted : v.number?.any b.admits = w.number?.any b.admits := by
      rw [Bound.any_admits, Bound.any_admits, h.extended?_eq]
    rw [failure?, failure?, h.kind, admitted]
  | minLength n => rw [failure?, failure?, h.length?_eq]
  | maxLength n => rw [failure?, failure?, h.length?_eq]

namespace Check

/-- The issues of values that look alike are the same at every leaf, and so in
the whole tree. -/
theorem issues_congr (h : v.LooksLike w) (c : Check) : c.issues v = c.issues w := by
  have leafwise : Leaf.issue? v = Leaf.issue? w := by
    funext l
    rw [Leaf.issue?, Leaf.issue?, Rule.failure?_eq_of_looksLike h]
  rw [issues_eq_filterMap_leaves, issues_eq_filterMap_leaves, leafwise]

/-- **Values that look alike have the same issues**, in every tree. So texts of
one length, quantities at one point, quantities that are no number, and values
of one of the other kinds cannot be told apart. -/
theorem issues_eq_of_looksLike (c : Check) :
    (∀ v w : Value, v.LooksLike w → c.issues v = c.issues w) ∧
      (∀ (form form' : TextForm) (s s' : String), s.length = s'.length →
        c.issues (.text form s) = c.issues (.text form' s')) ∧
      (∀ x y : Quantity, (Value.quantity x).extended? = (Value.quantity y).extended? →
        c.issues (.quantity x) = c.issues (.quantity y)) ∧
      (∀ negative signalling payload,
        c.issues (.quantity (.decimal (.nan negative signalling payload))) =
          c.issues (.quantity (.binary .nan))) ∧
      ∀ v w : Value, v.kind = w.kind → v.kind ≠ .string → v.kind ≠ .integer →
        v.kind ≠ .number → c.issues v = c.issues w := by
  refine ⟨fun v w h => issues_congr h c, ?_, ?_, ?_, ?_⟩
  · intro form form' s s' length
    exact issues_congr (Value.looksLike_text length form form') c
  · intro x y point
    exact issues_congr (Value.looksLike_quantity point) c
  · intro negative signalling payload
    have pointless : (Value.quantity (.decimal (.nan negative signalling payload))).extended? =
        (Value.quantity (.binary .nan)).extended? := rfl
    exact issues_congr (Value.looksLike_quantity pointless) c
  · intro v w kind text integer number
    exact issues_congr (Value.looksLike_of_kind kind text integer number) c

/-- A tree that asks for a multiple, for a length and for numbers below one. -/
def searching : Check :=
  .all "value" [.leaf "step" (.multipleOf 3),
    .all "inner" [.leaf "size" (.minLength 2), .leaf "top" (.bound ⟨.upper, 1, true, true⟩)]]

/-- A half is searched alike as a double, as the decimal `0.50` and as a ratio;
and so are two texts of one letter, and two sets, which are of no kind that a
type asks for. -/
theorem issues_eq_of_looksLike_half :
    let double := Value.quantity (.binary (.finite false (2 ^ 52) (-53)))
    let decimal := Value.quantity (.decimal (.finite ⟨false, 50, -2⟩))
    let ratio := Value.quantity (.ratio (1 / 2))
    double.LooksLike decimal ∧ searching.issues double = [⟨"step", .notNatural⟩] ∧
      searching.issues ratio = [⟨"step", .notNatural⟩] ∧
      searching.issues (.text .wrapped "é") = searching.issues (.text .plain "e") ∧
      searching.issues (.frozenSet [.null]) = searching.issues (.alien .set) := by
  intro double decimal ratio
  obtain ⟨alike, texts, quantities, -, others⟩ := issues_eq_of_looksLike searching
  have found : searching.issues decimal = [⟨"step", .notNatural⟩] := by decide +kernel
  have binary : double.extended? = decimal.extended? := by
    norm_num [double, decimal, Value.extended?, withSign]
  have rational : ratio.extended? = decimal.extended? := by
    norm_num [ratio, decimal, Value.extended?, withSign]
  have looks : double.LooksLike decimal := Value.looksLike_quantity binary
  refine ⟨looks, (alike _ _ looks).trans found, (quantities _ _ rational).trans found, ?_, ?_⟩
  · exact texts _ _ _ _ (by decide)
  · exact others _ _ rfl (by decide) (by decide) (by decide)

end Check

end Conformance
