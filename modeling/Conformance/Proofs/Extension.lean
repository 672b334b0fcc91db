import Conformance.Proofs.Distinction
import Conformance.Proofs.Tightening

/-!
# Extension — schemas with further keywords

One schema extends another where it binds every keyword that the other binds,
to the same value, and perhaps others. What it adds shows in two ways. A keyword
that has a rule of its own puts that rule somewhere into the row, and may turn a
check that stood alone into a row. A flag has no rule: it changes the bound that
is there. `failure?_of_exclusive` is that such a bound still breaks wherever it
broke before, and for the same reason, so nothing is taken out of a report:
`issues_sublist_of_extends`.
-/


namespace Conformance

/-! ## Bindings that are the same -/

namespace Value

/-- A keyword is bound to the same thing by two values: they are one value, or
texts of the same characters in whatever form. -/
inductive SameUpToForm : Value → Value → Prop
  | refl (v : Value) : SameUpToForm v v
  | text (form form' : TextForm) (s : String) : SameUpToForm (.text form s) (.text form' s)

namespace SameUpToForm

variable {v w : Value}

/-- Texts that are native have the same characters. -/
theorem native?_eq (h : SameUpToForm v w) {s s' : String} (hs : v.native? = some s)
    (hs' : w.native? = some s') : s = s' := by
  cases h with
  | refl => exact Option.some.inj (hs.symm.trans hs')
  | text form form' t =>
    have native {form : TextForm} {u : String} (h : (Value.text form t).native? = some u) :
        t = u := by
      cases form with
      | wrapped => cases h
      | plain => exact Option.some.inj h
      | derived => exact Option.some.inj h
    exact (native hs).symm.trans (native hs')

theorem eq_integer {n : Int} (h : SameUpToForm (.integer n) w) : w = .integer n := by
  cases h with
  | refl => rfl

theorem eq_boolean {b : Bool} (h : SameUpToForm (.boolean b) w) : w = .boolean b := by
  cases h with
  | refl => rfl

end SameUpToForm

end Value

namespace Schema

/-- What one binding is, if there is one, another is too. -/
def Kept (x x' : Option Value) : Prop := ∀ v ∈ x, ∃ w ∈ x', v.SameUpToForm w

namespace Kept

variable {x' : Option Value}

theorem integer {n : Int} (h : Kept (some (.integer n)) x') : x' = some (.integer n) := by
  obtain ⟨w, hw, same⟩ := h _ rfl
  rwa [same.eq_integer] at hw

theorem boolean {b : Bool} (h : Kept (some (.boolean b)) x') : x' = some (.boolean b) := by
  obtain ⟨w, hw, same⟩ := h _ rfl
  rwa [same.eq_boolean] at hw

end Kept

/-- A schema extends another: it binds every keyword that the other binds, to the
same value. A keyword that is bound to `null` is not bound. -/
def Extends (more less : Value) : Prop := ∀ k : Keyword, Kept (reading less k) (reading more k)

end Schema

/-! ## Terms that say more -/

namespace Terms

/-- Some terms say all that others say. Their limits are at the same places, and
they may be exclusive where those of the others are not. -/
structure Extends (more less : Terms) : Prop where
  type : more.type = less.type
  multipleOf : ∀ m ∈ less.multipleOf, m ∈ more.multipleOf
  limit : ∀ side, ∀ l ∈ less.limit? side, ∃ l' ∈ more.limit? side,
    l'.value = l.value ∧ (l.exclusive = true → l'.exclusive = true)
  minLength : ∀ n ∈ less.minLength, n ∈ more.minLength
  maxLength : ∀ n ∈ less.maxLength, n ∈ more.maxLength

end Terms

namespace Schema

variable {x x' flag flag' : Option Value}

/-- A natural number that is stated is stated again. -/
theorem Kept.natural {o o' : Option Nat} (kept : Kept x x')
    (h : x = o.map fun n : Nat => .integer n) (h' : x' = o'.map fun n : Nat => .integer n) :
    ∀ n ∈ o, n ∈ o' := by
  intro n hn
  rw [h, Option.mem_def.mp hn] at kept
  have again := kept.integer
  rw [h', Option.map_eq_some_iff] at again
  obtain ⟨m, hm, same⟩ := again
  obtain rfl : m = n := Int.ofNat.inj (Value.integer.inj same)
  exact hm

/-- A limit that is stated is stated again at its place. Its flag may be new, but
if it was set it still is. -/
theorem StatesLimit.exists_of_kept {o o' : Option Limit} (h : StatesLimit x flag o)
    (h' : StatesLimit x' flag' o') (value : Kept x x') (exclusive : Kept flag flag') :
    ∀ l ∈ o, ∃ l' ∈ o', l'.value = l.value ∧ (l.exclusive = true → l'.exclusive = true) := by
  intro l hl
  cases h with
  | none => cases hl
  | orphan b => cases hl
  | plain n =>
    obtain rfl := Option.some.inj hl
    obtain rfl := value.integer
    cases h' with
    | plain => exact ⟨_, rfl, rfl, fun set => absurd set Bool.false_ne_true⟩
    | flagged _ b => exact ⟨_, rfl, rfl, fun set => absurd set Bool.false_ne_true⟩
  | flagged n b =>
    obtain rfl := Option.some.inj hl
    obtain rfl := value.integer
    obtain rfl := exclusive.boolean
    cases h' with
    | flagged => exact ⟨_, rfl, rfl, id⟩

/-- The terms of a schema say all that those of a schema say which it extends. -/
theorem Extends.terms {more less : Value} (h : Extends more less) {t t' : Terms}
    (ht : States (reading less) t) (ht' : States (reading more) t') : t'.Extends t where
  type := by
    obtain ⟨v, hv, named⟩ := Option.bind_eq_some_iff.mp ht.type
    obtain ⟨v', hv', named'⟩ := Option.bind_eq_some_iff.mp ht'.type
    obtain ⟨w, hw, hsame⟩ := h .type v hv
    obtain rfl : v' = w := Option.some.inj (hv'.symm.trans hw)
    exact (TypeName.name_injective (hsame.native?_eq named named')).symm
  multipleOf := (h .multipleOf).natural ht.multipleOf ht'.multipleOf
  limit := fun side =>
    match side with
    | .upper => ht.maximum.exists_of_kept ht'.maximum (h .maximum) (h .exclusiveMaximum)
    | .lower => ht.minimum.exists_of_kept ht'.minimum (h .minimum) (h .exclusiveMinimum)
  minLength := (h .minLength).natural ht.minLength ht'.minLength
  maxLength := (h .maxLength).natural ht.maxLength ht'.maxLength

end Schema

/-! ## Nothing is taken out of a report -/

/-- What a limit within another admits, the other admits too. -/
theorem Bound.any_admits_of_within {side : Side} {inner outer : Limit} {allowReal : Bool}
    {v : Value} (h : side.Within inner outer)
    (admitted : v.number?.any (inner.bound allowReal side).admits = true) :
    v.number?.any (outer.bound allowReal side).admits = true := by
  rw [Bound.any_admits, Option.any_eq_true] at admitted ⊢
  obtain ⟨point, denoted, inside⟩ := admitted
  have held : (outer.bound allowReal side).holds point := h.holds (of_decide_eq_true inside)
  exact ⟨point, denoted, decide_eq_true held⟩

/-- **A bound that is made exclusive breaks wherever it broke**, for the same
reason: what it asks of a value and the limit it names stay the same. -/
theorem Rule.failure?_of_exclusive {side : Side} {inner outer : Limit} {allowReal : Bool}
    {v : Value} {r : Reason} (value : inner.value = outer.value)
    (exclusive : outer.exclusive = true → inner.exclusive = true)
    (h : (Rule.bound (outer.bound allowReal side)).failure? v = some r) :
    (Rule.bound (inner.bound allowReal side)).failure? v = some r := by
  have asks : (inner.bound allowReal side).asks = (outer.bound allowReal side).asks := rfl
  have limit : (inner.bound allowReal side).limit = (outer.bound allowReal side).limit := value
  have within : side.Within inner outer := .inr ⟨value, exclusive⟩
  rw [Rule.failure?] at h ⊢
  rw [asks, limit]
  by_cases accepted : (outer.bound allowReal side).asks.accepts v.kind = true
  · rw [if_pos accepted] at h ⊢
    by_cases held : v.number?.any (outer.bound allowReal side).admits = true
    · rw [if_pos held] at h
      cases h
    · rw [if_neg held] at h
      rwa [if_neg (mt (Bound.any_admits_of_within within) held)]
  · rwa [if_neg accepted] at h ⊢

namespace Terms

/-- One option's list is within another's when the other holds what it holds. -/
theorem toList_sublist {α : Type} {o o' : Option α} (h : ∀ a ∈ o, a ∈ o') :
    o.toList.Sublist o'.toList := by
  cases o with
  | none => exact List.nil_sublist _
  | some a => rw [Option.mem_def.mp (h a rfl)]

namespace Extends

variable {more less : Terms}

/-- A keyword that is kept in a form which breaks for the same reasons keeps its
reasons. -/
theorem bind_sublist {α : Type} {o o' : Option α} {f : α → Option Reason}
    (h : ∀ a ∈ o, ∃ a' ∈ o', ∀ r, f a = some r → f a' = some r) :
    (o.bind f).toList.Sublist (o'.bind f).toList := by
  refine toList_sublist fun r hr => ?_
  obtain ⟨a, ha, broken⟩ := Option.bind_eq_some_iff.mp hr
  obtain ⟨a', ha', kept⟩ := h a ha
  exact Option.bind_eq_some_iff.mpr ⟨a', ha', kept r broken⟩

/-- The reasons of the two bounds stay, one bound after the other. -/
theorem outside_sublist (h : more.Extends less) (allowReal : Bool) (v : Value) :
    (less.outside allowReal v).Sublist (more.outside allowReal v) := by
  have side (s : Side) :
      (((less.limit? s).bind fun l =>
        (Rule.bound (l.bound allowReal s)).failure? v).toList).Sublist
      ((more.limit? s).bind fun l => (Rule.bound (l.bound allowReal s)).failure? v).toList := by
    refine bind_sublist fun l hl => ?_
    obtain ⟨l', hl', value, exclusive⟩ := h.limit s l hl
    exact ⟨l', hl', fun r => Rule.failure?_of_exclusive value exclusive⟩
  exact (side .upper).append (side .lower)

/-- **The reasons of some terms are among those of terms that say more**, in the
same order. -/
theorem reasons_sublist (h : more.Extends less) (allowReal : Bool) (v : Value) :
    (less.reasons allowReal v).Sublist (more.reasons allowReal v) := by
  have kept {f : Nat → Option Reason} {o o' : Option Nat} (members : ∀ n ∈ o, n ∈ o') :
      (o.bind f).toList.Sublist (o'.bind f).toList :=
    bind_sublist fun n hn => ⟨n, members n hn, fun _ broken => broken⟩
  have type : ((Rule.type less.type).failure? v).toList.Sublist
      ((Rule.type more.type).failure? v).toList := by
    rw [h.type]
  rw [reasons_eq, reasons_eq]
  exact type.append ((kept h.multipleOf).append ((h.outside_sublist allowReal v).append
    ((kept h.minLength).append (kept h.maxLength))))

end Extends

end Terms

namespace Schema

variable {settings : Settings} {given : Option String}

/-- The issues of a compiled schema are the reasons of its terms, all at its
path. -/
theorem exists_issues_eq_reasons {schema : Value} {c : Validator}
    (h : Validator.compile settings given schema = .ok c) :
    ∃ t, States (reading schema) t ∧ ∀ v,
      c.issues v = (t.reasons settings.realNumberBounds v).map
        (Issue.mk (Validator.pathOf settings given)) := by
  obtain ⟨-, t, ht, rfl⟩ := validator_compile_eq_ok_iff.mp h
  exact ⟨t, ht, fun v => issues_assemble v _⟩

/-- The first failure of a verdict is the first of its issues. -/
theorem first_eq_of_head? {c : Validator} {v : Value} {issue : Issue}
    (h : (c.issues v).head? = some issue) :
    (c.verdict v).first = .error (.validationFailed issue) :=
  (c.check.verify_eq_error_iff v _).mpr ⟨issue, h, rfl⟩

/-- **Adding keywords only adds failures.** Where one schema extends another, and
both compile under the same settings at the same path, the issues that the smaller
one finds in a value are among those of the larger one, in the same order. So the
first failure that the smaller one reports is still there; and if the value is not
of the type, that is the first failure of both. -/
theorem issues_sublist_of_extends {more less : Value} {c c' : Validator}
    (h : Validator.compile settings given less = .ok c)
    (h' : Validator.compile settings given more = .ok c') (larger : Extends more less)
    (v : Value) :
    (c.issues v).Sublist (c'.issues v) ∧
      (∀ e, (c.verdict v).first = .error e →
        ∃ issue ∈ c'.issues v, e = .validationFailed issue) ∧
      ∀ t : TypeName, textAt less "type" = some t.name → t.accepts v.kind = false →
        (c.verdict v).first =
            .error (.validationFailed ⟨Validator.pathOf settings given, .notOfType t⟩) ∧
          (c'.verdict v).first =
            .error (.validationFailed ⟨Validator.pathOf settings given, .notOfType t⟩) := by
  obtain ⟨t, ht, found⟩ := exists_issues_eq_reasons h
  obtain ⟨t', ht', found'⟩ := exists_issues_eq_reasons h'
  have fuller : t'.Extends t := larger.terms ht ht'
  have kept : (c.issues v).Sublist (c'.issues v) := by
    rw [found, found']
    exact (fuller.reasons_sublist settings.realNumberBounds v).map _
  refine ⟨kept, ?_, ?_⟩
  · intro e failed
    obtain ⟨issue, first, rfl⟩ := (c.check.verify_eq_error_iff v e).mp failed
    exact ⟨issue, kept.subset (List.mem_of_mem_head? first), rfl⟩
  · intro u named refused
    have stated : textAt less "type" = some t.type.name := ht.type
    obtain rfl : t.type = u :=
      TypeName.name_injective (Option.some.inj (stated.symm.trans named))
    have refused' : t'.type.accepts v.kind = false := by rw [fuller.type]; exact refused
    constructor
    · refine first_eq_of_head? ?_
      rw [found, List.head?_map, Terms.head?_reasons_of_not_accepts _ refused]
      rfl
    · refine first_eq_of_head? ?_
      rw [found', List.head?_map, Terms.head?_reasons_of_not_accepts _ refused', fuller.type]
      rfl

/-- Integers up to `5`. -/
def capSchema : Value :=
  .object .plain [(.plain "type", .plain "integer"), (.plain "maximum", .integer 5),
    (.plain "multipleOf", .null)]

/-- Even integers below `5`: the maximum has got a flag, and the type is bound to
another form of its text. -/
def flaggedCapSchema : Value :=
  .object .ordered [(.plain "exclusiveMaximum", .boolean true), (.plain "multipleOf", .integer 2),
    (.plain "maximum", .integer 5), (.plain "maxLength", .integer 0),
    (.plain "type", .text (.derived "Word") "integer")]

theorem flaggedCapSchema_extends : Extends flaggedCapSchema capSchema := by
  intro k v hv
  cases k with
  | type =>
    obtain rfl : Value.plain "integer" = v := Option.some.inj hv
    exact ⟨.text (.derived "Word") "integer", rfl, .text _ _ _⟩
  | maximum =>
    obtain rfl : Value.integer 5 = v := Option.some.inj hv
    exact ⟨.integer 5, rfl, .refl _⟩
  | _ => cases (show v ∈ none from hv)

/-- The limit itself passes without the flag and fails with it, and `7` fails by
the divisor that was added before it fails by the limit. A text fails by the type
first. -/
theorem issues_sublist_of_extends_flag :
    ∃ c c', Validator.compile {} (some "x") capSchema = .ok c ∧
      Validator.compile {} (some "x") flaggedCapSchema = .ok c' ∧
      Extends flaggedCapSchema capSchema ∧
      (c.issues (.integer 7)).Sublist (c'.issues (.integer 7)) ∧
      c.issues (.integer 7) = [⟨"x", .outOfBound 5⟩] ∧
      c'.issues (.integer 7) = [⟨"x", .notMultiple 2⟩, ⟨"x", .outOfBound 5⟩] ∧
      c.issues (.integer 5) = [] ∧ (c'.issues (.integer 5)).length = 2 ∧
      (c'.verdict (.plain "7")).first = .error (.validationFailed ⟨"x", .notOfType .integer⟩) := by
  obtain ⟨c, h⟩ : ∃ c, Validator.compile {} (some "x") capSchema = .ok c := ⟨_, rfl⟩
  obtain ⟨c', h'⟩ : ∃ c, Validator.compile {} (some "x") flaggedCapSchema = .ok c := ⟨_, rfl⟩
  have larger := flaggedCapSchema_extends
  refine ⟨c, c', h, h', larger, (issues_sublist_of_extends h h' larger _).1, ?_, ?_, ?_, ?_, ?_⟩
  · obtain rfl := Except.ok.inj h
    decide +kernel
  · obtain rfl := Except.ok.inj h'
    decide +kernel
  · obtain rfl := Except.ok.inj h
    decide +kernel
  · obtain rfl := Except.ok.inj h'
    decide +kernel
  · have typed := (issues_sublist_of_extends h h' larger (.plain "7")).2.2 .integer rfl rfl
    exact typed.2

end Schema

end Conformance
