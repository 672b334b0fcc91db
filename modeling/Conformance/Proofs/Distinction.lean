import Conformance.Proofs.Objections
import Mathlib

/-!
# Distinction — which schemas can be told apart

Two compiled schemas are the same to a reader of their reports when they
find the same issues in every value. `Schema.profile` is what a schema says
once everything is dropped that no report can show on its own: names that
are no keywords, bindings to `null`, flags without their bounds. The
parameters of a schema can be read back off its reports, one value or one
ray of values at a time, all but one thing: the two bounds share their
wording, so of two limits at one place only the number of the flags shows.
`Schema.issues_eq_iff_interchangeable` says that this is all: the reports agree on every
value exactly when the profiles are interchangeable.
-/


namespace Conformance

/-! ## The wording tells the reasons apart -/

namespace Reason

/-- A reason with its number left out. -/
def blank : Reason → Reason
  | .notMultiple _ => .notMultiple 0
  | .tooShort _ => .tooShort 0
  | .tooLong _ => .tooLong 0
  | .outOfBound _ => .outOfBound 0
  | reason => reason

/-- The reasons with their numbers left out. -/
def blanks : List Reason :=
  TypeName.all.map .notOfType ++
    [.notNatural, .notMultiple 0, .tooShort 0, .tooLong 0, .outOfBound 0]

theorem blank_mem_blanks (r : Reason) : r.blank ∈ blanks := by
  cases r with
  | notOfType t => exact List.mem_append_left _ (List.mem_map_of_mem t.mem_all)
  | _ => simp [blank, blanks]

/-- The words of a reason in front of its number. -/
def stem : Reason → String
  | .notMultiple _ => "Integer is not multiple of "
  | .tooShort _ => "String is shorter than "
  | .tooLong _ => "String is longer than "
  | .outOfBound _ => "Number is more than "
  | reason => reason.text

theorem stem_blank (r : Reason) : r.blank.stem = r.stem := by cases r <;> rfl

theorem exists_text_eq (r : Reason) : ∃ rest, r.text = r.stem ++ rest := by
  cases r with
  | notOfType t => exact ⟨"", String.append_empty.symm⟩
  | notNatural => exact ⟨"", String.append_empty.symm⟩
  | notMultiple m => exact ⟨_, rfl⟩
  | tooShort n => exact ⟨_, String.append_assoc⟩
  | tooLong n => exact ⟨_, String.append_assoc⟩
  | outOfBound limit => exact ⟨_, rfl⟩

theorem stem_prefix_text (r : Reason) : r.blank.stem.toList <+: r.text.toList := by
  obtain ⟨rest, h⟩ := exists_text_eq r
  rw [stem_blank, h, String.toList_append]
  exact List.prefix_append _ _

/-- No stem begins another one. -/
theorem eq_of_stem_begins :
    ∀ r ∈ blanks, ∀ r' ∈ blanks, r.stem.toList <+: r'.stem.toList → r = r' := by
  decide +kernel

/-- **No two reasons share a wording.** -/
theorem text_injective : Function.Injective text := by
  intro r r' h
  have blanks : r.blank = r'.blank := by
    have front : r.blank.stem.toList <+: r'.text.toList := h ▸ stem_prefix_text r
    rcases List.prefix_or_prefix_of_prefix front (stem_prefix_text r') with le | le
    · exact eq_of_stem_begins _ (blank_mem_blanks r) _ (blank_mem_blanks r') le
    · exact (eq_of_stem_begins _ (blank_mem_blanks r') _ (blank_mem_blanks r) le).symm
  -- behind one stem, the wordings differ as their numbers do
  cases r <;> cases r' <;> simp only [blank, reduceCtorEq, notOfType.injEq] at blanks
  case notOfType.notOfType t t' => rw [blanks]
  case notNatural.notNatural => rfl
  case notMultiple.notMultiple m n =>
    rw [Int.repr_injective ((String.append_right_inj _).mp h)]
  case tooShort.tooShort m n =>
    rw [Int.repr_injective ((String.append_right_inj _).mp ((String.append_left_inj _).mp h))]
  case tooLong.tooLong m n =>
    rw [Int.repr_injective ((String.append_right_inj _).mp ((String.append_left_inj _).mp h))]
  case outOfBound.outOfBound m n =>
    rw [Int.repr_injective ((String.append_right_inj _).mp h)]

end Reason

theorem TypeName.name_injective : Function.Injective TypeName.name := by
  intro t t' h
  have named := congrArg TypeName.ofName? h
  simpa only [TypeName.ofName?_name, Option.some.injEq] using named

/-! ## Profiles -/

/-- What a schema says, keyword by keyword. A flag counts only beside its
bound, and no text is shorter than no least length or a least length of zero. -/
structure Profile where
  type : Option String
  multipleOf : Option Int
  maximum : Option Int
  exclusiveMaximum : Bool
  minimum : Option Int
  exclusiveMinimum : Bool
  minLength : Int
  maxLength : Option Int
deriving DecidableEq, Repr

namespace Profile

/-- The two bounds are there and at one place. -/
def IsTied (p : Profile) : Prop := p.maximum.isSome = true ∧ p.maximum = p.minimum

instance (p : Profile) : Decidable p.IsTied := inferInstanceAs (Decidable (_ ∧ _))

/-- How many flags are set. -/
def flags (p : Profile) : Nat := p.exclusiveMaximum.toNat + p.exclusiveMinimum.toNat

/-- Two profiles say the same. Where the bounds are at one place, the flags
may change places. -/
structure Interchangeable (p q : Profile) : Prop where
  type : p.type = q.type
  multipleOf : p.multipleOf = q.multipleOf
  maximum : p.maximum = q.maximum
  minimum : p.minimum = q.minimum
  minLength : p.minLength = q.minLength
  maxLength : p.maxLength = q.maxLength
  flags : if p.IsTied then p.flags = q.flags
    else p.exclusiveMaximum = q.exclusiveMaximum ∧ p.exclusiveMinimum = q.exclusiveMinimum

instance (p q : Profile) : Decidable (p.Interchangeable q) :=
  decidable_of_iff
    (p.type = q.type ∧ p.multipleOf = q.multipleOf ∧ p.maximum = q.maximum ∧
      p.minimum = q.minimum ∧ p.minLength = q.minLength ∧ p.maxLength = q.maxLength ∧
      if p.IsTied then p.flags = q.flags
      else p.exclusiveMaximum = q.exclusiveMaximum ∧ p.exclusiveMinimum = q.exclusiveMinimum)
    ⟨fun ⟨h1, h2, h3, h4, h5, h6, h7⟩ => ⟨h1, h2, h3, h4, h5, h6, h7⟩,
      fun ⟨h1, h2, h3, h4, h5, h6, h7⟩ => ⟨h1, h2, h3, h4, h5, h6, h7⟩⟩

end Profile

namespace Schema

/-- The profile of a schema, off its bindings. -/
def profile (schema : Value) : Profile where
  type := textAt schema "type"
  multipleOf := integerAt schema "multipleOf"
  maximum := integerAt schema "maximum"
  exclusiveMaximum :=
    (integerAt schema "maximum").isSome && flagAt schema "exclusiveMaximum"
  minimum := integerAt schema "minimum"
  exclusiveMinimum :=
    (integerAt schema "minimum").isSome && flagAt schema "exclusiveMinimum"
  minLength := (integerAt schema "minLength").getD 0
  maxLength := integerAt schema "maxLength"

end Schema

namespace Terms

/-- The profile of some terms. -/
def profile (t : Terms) : Profile where
  type := some t.type.name
  multipleOf := t.multipleOf.map Nat.cast
  maximum := t.maximum.map Limit.value
  exclusiveMaximum := t.maximum.any Limit.exclusive
  minimum := t.minimum.map Limit.value
  exclusiveMinimum := t.minimum.any Limit.exclusive
  minLength := (t.minLength.getD 0 : Nat)
  maxLength := t.maxLength.map Nat.cast

end Terms

/-- A natural number that is stated is bound as an integer. -/
theorem Schema.integer?_of_natural {x : Option Value} {o : Option Nat}
    (h : x = o.map fun n : Nat => .integer n) : x.bind Value.integer? = o.map Nat.cast := by
  rw [h]
  cases o <;> rfl

/-- A limit that is stated is bound as its value and its flag. -/
theorem Schema.StatesLimit.integer? {x flag : Option Value} {o : Option Limit}
    (h : StatesLimit x flag o) :
    x.bind Value.integer? = o.map Limit.value ∧
      ((x.bind Value.integer?).isSome && (flag.bind Value.boolean?).getD false) =
        o.any Limit.exclusive := by
  cases h <;> exact ⟨rfl, rfl⟩

/-- The profile of a schema is that of the terms it states. -/
theorem Schema.profile_of_states {schema : Value} {t : Terms} (h : States (reading schema) t) :
    profile schema = t.profile := by
  have type : textAt schema "type" = some t.type.name := h.type
  have multipleOf : integerAt schema "multipleOf" = t.multipleOf.map Nat.cast :=
    integer?_of_natural h.multipleOf
  have maximum : integerAt schema "maximum" = t.maximum.map Limit.value := h.maximum.integer?.1
  have upper : ((integerAt schema "maximum").isSome && flagAt schema "exclusiveMaximum") =
      t.maximum.any Limit.exclusive := h.maximum.integer?.2
  have minimum : integerAt schema "minimum" = t.minimum.map Limit.value := h.minimum.integer?.1
  have lower : ((integerAt schema "minimum").isSome && flagAt schema "exclusiveMinimum") =
      t.minimum.any Limit.exclusive := h.minimum.integer?.2
  have minLength : (integerAt schema "minLength").getD 0 = (t.minLength.getD 0 : Nat) := by
    have : integerAt schema "minLength" = t.minLength.map Nat.cast :=
      integer?_of_natural h.minLength
    rw [this]
    cases t.minLength <;> rfl
  have maxLength : integerAt schema "maxLength" = t.maxLength.map Nat.cast :=
    integer?_of_natural h.maxLength
  rw [profile, Terms.profile, type, multipleOf, upper, lower, maximum, minimum, minLength,
    maxLength]

/-! ## The reasons of some terms -/

/-- Whether an integer lies beyond a limit, on the side that it closes. -/
def Side.beyond : Side → Int → Int → Prop
  | .upper, limit, n => limit < n
  | .lower, limit, n => n < limit

namespace Terms

variable {allowReal : Bool} {t : Terms}

/-- Why a value breaks the rules of some terms, in their order. -/
def reasons (allowReal : Bool) (t : Terms) (v : Value) : List Reason :=
  (t.rules allowReal).filterMap (Rule.failure? v)

/-- Why a value breaks the two bounds. -/
def outside (allowReal : Bool) (t : Terms) (v : Value) : List Reason :=
  (t.maximum.bind fun l => (Rule.bound (l.bound allowReal .upper)).failure? v).toList ++
    (t.minimum.bind fun l => (Rule.bound (l.bound allowReal .lower)).failure? v).toList

theorem reasons_eq (v : Value) :
    t.reasons allowReal v =
      ((Rule.type t.type).failure? v).toList ++
        ((t.multipleOf.bind fun m : Nat => (Rule.multipleOf m).failure? v).toList ++
          (t.outside allowReal v ++
            ((t.minLength.bind fun n : Nat => (Rule.minLength n).failure? v).toList ++
              (t.maxLength.bind fun n : Nat => (Rule.maxLength n).failure? v).toList))) := by
  have type : [Rule.type t.type].filterMap (Rule.failure? v) =
      ((Rule.type t.type).failure? v).toList :=
    Schema.filterMap_toList (some t.type) Rule.type _
  rw [reasons, rules, constraints, outside, ← List.singleton_append, List.filterMap_append, type]
  simp only [List.filterMap_append, Schema.filterMap_toList, List.append_assoc]

theorem mem_reasons {v : Value} {r : Reason} :
    r ∈ t.reasons allowReal v ↔ ∃ rule ∈ t.rules allowReal, rule.failure? v = some r :=
  List.mem_filterMap

end Terms

/-! ## Which rule gives a reason -/

namespace Rule

variable {rule : Rule} {v : Value}

theorem failure?_eq_notNatural :
    rule.failure? v = some .notNatural ↔ (∃ m, rule = .multipleOf m) ∧ v.natural? = none := by
  cases rule with
  | multipleOf m =>
    rw [failure?]
    cases v.natural? with
    | none => simp
    | some n => by_cases h : m ∣ (n : Int) <;> simp [h]
  | _ =>
    simp only [failure?]
    split <;> simp

theorem failure?_eq_notMultiple {m : Int} {n : Nat} :
    rule.failure? (.integer n) = some (.notMultiple m) ↔
      rule = .multipleOf m ∧ ¬ m ∣ (n : Int) := by
  have natural : (Value.integer n).natural? = some n := rfl
  cases rule with
  | multipleOf k =>
    simp only [failure?, natural, Option.ite_none_left_eq_some]
    constructor
    · rintro ⟨left, h⟩
      cases h
      exact ⟨rfl, left⟩
    · rintro ⟨h, left⟩
      cases h
      exact ⟨left, rfl⟩
  | _ =>
    simp only [failure?]
    split <;> simp

/-- The length of a text decides its least length. -/
theorem failure?_eq_tooShort {form : TextForm} {s : String} {n : Int} :
    rule.failure? (.text form s) = some (.tooShort n) ↔
      rule = .minLength n ∧ (s.length : Int) < n := by
  cases rule with
  | minLength k =>
    simp only [failure?, Value.length?, Option.bind_eq_bind, Option.bind_some, Option.pure_def,
      Option.any_some, decide_eq_true_eq, Option.ite_none_right_eq_some]
    constructor
    · rintro ⟨short, h⟩
      cases h
      exact ⟨rfl, short⟩
    · rintro ⟨h, short⟩
      cases h
      exact ⟨short, rfl⟩
  | _ =>
    simp only [failure?]
    split <;> simp

/-- And its greatest. -/
theorem failure?_eq_tooLong {form : TextForm} {s : String} {n : Int} :
    rule.failure? (.text form s) = some (.tooLong n) ↔
      rule = .maxLength n ∧ n < (s.length : Int) := by
  cases rule with
  | maxLength k =>
    simp only [failure?, Value.length?, Option.bind_eq_bind, Option.bind_some, Option.pure_def,
      Option.any_some, decide_eq_true_eq, Option.ite_none_right_eq_some]
    constructor
    · rintro ⟨long, h⟩
      cases h
      exact ⟨rfl, long⟩
    · rintro ⟨h, long⟩
      cases h
      exact ⟨long, rfl⟩
  | _ =>
    simp only [failure?]
    split <;> simp

/-- A bound leaves out the integers beyond its limit, and the limit itself
when it is exclusive. -/
theorem failure?_bound_integer (b : Bound) (n : Int) (r : Reason) :
    (Rule.bound b).failure? (.integer n) = some r ↔
      r = .outOfBound b.limit ∧
        (b.side.beyond b.limit n ∨ b.exclusive = true ∧ n = b.limit) := by
  have asks : b.asks.accepts (Value.integer n).kind = true :=
    Bound.asks_accepts_iff.mpr (.inl rfl)
  rw [failure?, if_pos asks, Value.number?, Option.any_some, Option.ite_none_left_eq_some]
  have out : ¬ b.admits (.ofInt n) = true ↔
      b.side.beyond b.limit n ∨ b.exclusive = true ∧ n = b.limit := by
    obtain ⟨side, limit, exclusive, allowReal⟩ := b
    cases side <;> cases exclusive <;>
      simp [Bound.admits, Side.beyond, Number.ofInt_lt_ofInt, Number.ofInt_le_ofInt] <;> omega
  rw [out, and_comm, Option.some_inj, eq_comm]

theorem failure?_eq_outOfBound {n limit : Int} :
    rule.failure? (.integer n) = some (.outOfBound limit) ↔
      ∃ b, rule = .bound b ∧ b.limit = limit ∧
        (b.side.beyond limit n ∨ b.exclusive = true ∧ n = limit) := by
  cases rule with
  | bound b =>
    rw [failure?_bound_integer]
    constructor
    · rintro ⟨h, out⟩
      cases h
      exact ⟨b, rfl, rfl, out⟩
    · rintro ⟨b, h, rfl, out⟩
      cases h
      exact ⟨rfl, out⟩
  | multipleOf m =>
    simp only [failure?]
    split <;> [skip; split] <;> simp
  | _ =>
    simp only [failure?]
    split <;> simp

end Rule

/-! ## Reading terms back off their reasons -/

namespace Side

theorem beyond_irrefl (side : Side) (limit : Int) : ¬ side.beyond limit limit := by
  cases side <;> simp only [beyond] <;> omega

/-- What lies beyond a limit on one side lies within it on the other. -/
theorem within_of_beyond {side other : Side} {limit n : Int} (h : side.beyond limit n)
    (ne : other ≠ side) : ¬ other.beyond limit n ∧ n ≠ limit := by
  cases side <;> cases other <;> simp only [beyond, ne_eq, not_true_eq_false] at * <;> omega

/-- Far enough out, an integer lies beyond three limits. -/
theorem exists_beyond (side : Side) (a b c : Int) :
    ∃ n, side.beyond a n ∧ side.beyond b n ∧ side.beyond c n := by
  cases side with
  | upper => exact ⟨max a (max b c) + 1, by simp only [beyond]; omega⟩
  | lower => exact ⟨min a (min b c) - 1, by simp only [beyond]; omega⟩

end Side

namespace Terms

variable (allowReal : Bool) {t : Terms}

/-- The limit of some terms on one side. -/
def limit? (t : Terms) : Side → Option Limit
  | .upper => t.maximum
  | .lower => t.minimum

section Rules

variable {allowReal}

theorem multipleOf_mem_rules {m : Int} :
    .multipleOf m ∈ t.rules allowReal ↔ ∃ n ∈ t.multipleOf, (n : Nat) = m := by
  simp [rules, constraints]

theorem bound_mem_rules {b : Bound} :
    .bound b ∈ t.rules allowReal ↔ ∃ side, ∃ l ∈ t.limit? side, l.bound allowReal side = b := by
  have sides {P : Side → Prop} : (∃ side, P side) ↔ P .upper ∨ P .lower :=
    ⟨fun ⟨side, h⟩ => by cases side <;> simp [h], fun h => h.elim (⟨_, ·⟩) (⟨_, ·⟩)⟩
  simp [rules, constraints, sides, limit?]

theorem minLength_mem_rules {n : Int} :
    .minLength n ∈ t.rules allowReal ↔ ∃ k ∈ t.minLength, (k : Nat) = n := by
  simp [rules, constraints]

theorem maxLength_mem_rules {n : Int} :
    .maxLength n ∈ t.rules allowReal ↔ ∃ k ∈ t.maxLength, (k : Nat) = n := by
  simp [rules, constraints]

end Rules

/-- The first reason at a value that is not of the type is the type. -/
theorem head?_reasons_of_not_accepts {v : Value} (h : t.type.accepts v.kind = false) :
    (t.reasons allowReal v).head? = some (.notOfType t.type) := by
  have type : (Rule.type t.type).failure? v = some (.notOfType t.type) := by
    rw [Rule.failure?, h]
    rfl
  rw [reasons, rules, List.filterMap_cons, type]
  rfl

/-- So it is at `null`, which is of no type. -/
theorem head?_reasons_null : (t.reasons allowReal .null).head? = some (.notOfType t.type) := by
  refine head?_reasons_of_not_accepts allowReal ?_
  cases t.type <;> rfl

theorem notNatural_mem_reasons_null :
    .notNatural ∈ t.reasons allowReal .null ↔ t.multipleOf.isSome = true := by
  simp only [mem_reasons, Rule.failure?_eq_notNatural]
  constructor
  · rintro ⟨_, mem, ⟨m, rfl⟩, -⟩
    obtain ⟨n, h, -⟩ := multipleOf_mem_rules.mp mem
    exact Option.isSome_of_mem h
  · intro h
    obtain ⟨n, h⟩ := Option.isSome_iff_exists.mp h
    exact ⟨_, multipleOf_mem_rules.mpr ⟨n, h, rfl⟩, ⟨n, rfl⟩, rfl⟩

/-- Every divisor but one leaves `1` over. -/
theorem notMultiple_mem_reasons_one {m : Nat} :
    .notMultiple m ∈ t.reasons allowReal (.integer 1) ↔ t.multipleOf = some m ∧ m ≠ 1 := by
  have left : ¬ (m : Int) ∣ (1 : Nat) ↔ m ≠ 1 := by
    rw [Int.natCast_dvd_natCast, Nat.dvd_one]
  change .notMultiple m ∈ t.reasons allowReal (.integer (1 : Nat)) ↔ _
  simp only [mem_reasons, Rule.failure?_eq_notMultiple, left]
  constructor
  · rintro ⟨_, mem, rfl, ne⟩
    obtain ⟨n, h, same⟩ := multipleOf_mem_rules.mp mem
    obtain rfl : n = m := by omega
    exact ⟨h, ne⟩
  · rintro ⟨h, ne⟩
    exact ⟨_, multipleOf_mem_rules.mpr ⟨m, h, rfl⟩, rfl, ne⟩

/-- **The divisor shows at `null` and at `1`.** -/
theorem multipleOf_eq_some_iff {m : Nat} :
    t.multipleOf = some m ↔
      .notNatural ∈ t.reasons allowReal .null ∧
        ∀ k : Nat, .notMultiple k ∈ t.reasons allowReal (.integer 1) ↔ k = m ∧ m ≠ 1 := by
  simp only [notNatural_mem_reasons_null, notMultiple_mem_reasons_one]
  constructor
  · intro h
    rw [h]
    exact ⟨rfl, fun k => by simp only [Option.some.injEq]; omega⟩
  · rintro ⟨there, shows⟩
    obtain ⟨n, h⟩ := Option.isSome_iff_exists.mp there
    -- where nothing is named at `1`, the divisor that is there is one
    have atN := shows n
    have atM := shows m
    simp only [h, Option.some.injEq, true_and] at atN atM ⊢
    omega

theorem outOfBound_mem_reasons {limit n : Int} :
    .outOfBound limit ∈ t.reasons allowReal (.integer n) ↔
      ∃ side, ∃ l ∈ t.limit? side, l.value = limit ∧
        (side.beyond limit n ∨ l.exclusive = true ∧ n = limit) := by
  simp only [mem_reasons, Rule.failure?_eq_outOfBound]
  constructor
  · rintro ⟨_, mem, b, rfl, value, out⟩
    obtain ⟨side, l, h, rfl⟩ := bound_mem_rules.mp mem
    exact ⟨side, l, h, value, out⟩
  · rintro ⟨side, l, h, value, out⟩
    exact ⟨_, bound_mem_rules.mpr ⟨side, l, h, rfl⟩, _, rfl, value, out⟩

/-- Far enough out on one side, an integer lies beyond every limit. -/
theorem exists_beyond_limits (t : Terms) (side : Side) (start : Int) :
    ∃ n, side.beyond start n ∧ ∀ other, ∀ l ∈ t.limit? other, side.beyond l.value n := by
  obtain ⟨n, out, above, below⟩ := side.exists_beyond start
    ((t.limit? .upper).elim 0 Limit.value) ((t.limit? .lower).elim 0 Limit.value)
  refine ⟨n, out, fun other l h => ?_⟩
  cases other with
  | upper => rwa [Option.mem_def.mp h] at above
  | lower => rwa [Option.mem_def.mp h] at below

/-- **A limit shows at every integer far enough out on its side.** -/
theorem limit?_eq_some_iff {side : Side} {limit : Int} :
    (t.limit? side).map Limit.value = some limit ↔
      ∃ start, ∀ n, side.beyond start n → .outOfBound limit ∈ t.reasons allowReal (.integer n) := by
  simp only [outOfBound_mem_reasons]
  constructor
  · intro h
    obtain ⟨l, mem, rfl⟩ := Option.map_eq_some_iff.mp h
    exact ⟨l.value, fun n out => ⟨side, l, mem, rfl, .inl out⟩⟩
  · rintro ⟨start, shows⟩
    obtain ⟨n, out, all⟩ := t.exists_beyond_limits side start
    obtain ⟨other, l, h, rfl, broken⟩ := shows n out
    -- what is beyond the limits on one side breaks none on the other
    by_cases same : other = side
    · rw [← same, Option.mem_def.mp h]
      rfl
    · have within := Side.within_of_beyond (all other l h) same
      rcases broken with broken | ⟨-, broken⟩
      · exact absurd broken within.1
      · exact absurd broken within.2

/-- The limits of some terms are tied when both are there and at one place. -/
theorem isTied_iff : t.profile.IsTied ↔ ∃ k, ∀ side, (t.limit? side).map Limit.value = some k := by
  constructor
  · rintro ⟨there, same⟩
    obtain ⟨k, h⟩ := Option.isSome_iff_exists.mp there
    refine ⟨k, fun side => ?_⟩
    cases side with
    | upper => exact h
    | lower => exact same.symm.trans h
  · rintro ⟨k, h⟩
    exact ⟨Option.isSome_iff_exists.mpr ⟨k, h .upper⟩, (h .upper).trans (h .lower).symm⟩

/-- **A flag shows at the limit itself**, where no other limit is. -/
theorem exclusive_iff {side : Side} {l : Limit} (h : t.limit? side = some l)
    (free : ¬ t.profile.IsTied) :
    l.exclusive = true ↔ .outOfBound l.value ∈ t.reasons allowReal (.integer l.value) := by
  rw [outOfBound_mem_reasons]
  constructor
  · intro exclusive
    exact ⟨side, l, h, rfl, .inr ⟨exclusive, rfl⟩⟩
  · rintro ⟨other, l', h', value, broken⟩
    by_cases same : other = side
    · obtain rfl : l' = l := by
        rw [same, Option.mem_def, h] at h'
        exact (Option.some.inj h').symm
      rcases broken with broken | ⟨exclusive, -⟩
      · exact absurd broken (other.beyond_irrefl _)
      · exact exclusive
    · -- a limit on the other side that is named here ties the two
      refine absurd (isTied_iff.mpr ⟨l.value, fun any => ?_⟩) free
      have : any = side ∨ any = other := by cases any <;> cases side <;> cases other <;> simp_all
      rcases this with rfl | rfl
      · rw [h, Option.map_some]
      · rw [Option.mem_def.mp h', Option.map_some, value]

/-- Why a value breaks a bound on each side of one limit. -/
def around (allowReal : Bool) (limit : Int) (upper lower : Bool) (v : Value) : List Reason :=
  ((Rule.bound ⟨.upper, limit, upper, allowReal⟩).failure? v).toList ++
    ((Rule.bound ⟨.lower, limit, lower, allowReal⟩).failure? v).toList

/-- At the limit itself, a bound is broken when it is exclusive. -/
theorem failure?_bound_limit (side : Side) (limit : Int) (exclusive : Bool) :
    (Rule.bound ⟨side, limit, exclusive, allowReal⟩).failure? (.integer limit) =
      if exclusive then some (.outOfBound limit) else none := by
  refine Option.ext fun r => ?_
  rw [Rule.failure?_bound_integer, Option.ite_none_right_eq_some]
  constructor
  · rintro ⟨rfl, broken | ⟨flagged, -⟩⟩
    · exact absurd broken (side.beyond_irrefl limit)
    · exact ⟨flagged, rfl⟩
  · rintro ⟨flagged, h⟩
    exact ⟨(Option.some.inj h).symm, .inr ⟨flagged, rfl⟩⟩

/-- So it breaks as many of the two as there are flags. -/
theorem count_around (limit : Int) (upper lower : Bool) :
    (around allowReal limit upper lower (.integer limit)).count (.outOfBound limit) =
      upper.toNat + lower.toNat := by
  rw [around, failure?_bound_limit, failure?_bound_limit]
  cases upper <;> cases lower <;> simp

/-- The bounds of tied terms stand around one limit. -/
theorem outside_of_tied {t : Terms} {k : Int}
    (places : ∀ side, (t.limit? side).map Limit.value = some k) :
    ∃ upper lower : Bool, (∀ v, t.outside allowReal v = around allowReal k upper lower v) ∧
      t.profile.flags = upper.toNat + lower.toNat := by
  obtain ⟨⟨n, upper⟩, max, rfl⟩ := Option.map_eq_some_iff.mp (places .upper)
  obtain ⟨⟨n', lower⟩, min, tied⟩ := Option.map_eq_some_iff.mp (places .lower)
  obtain rfl : n' = n := tied
  change t.maximum = some _ at max
  change t.minimum = some _ at min
  refine ⟨upper, lower, fun v => ?_, ?_⟩
  · rw [outside, max, min]
    rfl
  · rw [Profile.flags, profile, max, min]
    rfl

/-- Among the reasons at an integer, only the two bounds give that of a bound. -/
theorem count_outOfBound (n limit : Int) :
    (t.reasons allowReal (.integer n)).count (.outOfBound limit) =
      (t.outside allowReal (.integer n)).count (.outOfBound limit) := by
  have other {α : Type} (o : Option α) (rule : α → Rule) (h : ∀ a b, rule a ≠ .bound b) :
      (o.bind fun a => (rule a).failure? (.integer n)).toList.count (.outOfBound limit) = 0 := by
    refine List.count_eq_zero.mpr fun mem => ?_
    obtain ⟨a, -, fails⟩ := Option.bind_eq_some_iff.mp (Option.mem_toList.mp mem)
    obtain ⟨b, isBound, -⟩ := Rule.failure?_eq_outOfBound.mp fails
    exact h a b isBound
  have type : ((Rule.type t.type).failure? (.integer n)).toList.count (.outOfBound limit) = 0 :=
    other (some t.type) Rule.type (by simp)
  rw [reasons_eq]
  simp only [List.count_append, type, other _ (fun m : Nat => Rule.multipleOf m) (by simp),
    other _ (fun n : Nat => Rule.minLength n) (by simp),
    other _ (fun n : Nat => Rule.maxLength n) (by simp), Nat.zero_add, Nat.add_zero]

/-- **Where the limits are tied, the number of the flags shows.** -/
theorem count_reasons_of_tied {k : Int}
    (places : ∀ side, (t.limit? side).map Limit.value = some k) :
    (t.reasons allowReal (.integer k)).count (.outOfBound k) = t.profile.flags := by
  obtain ⟨upper, lower, out, flags⟩ := outside_of_tied allowReal places
  rw [count_outOfBound, out, count_around, flags]

theorem tooShort_mem_reasons_empty {n : Nat} :
    .tooShort n ∈ t.reasons allowReal (.plain "") ↔ t.minLength = some n ∧ 0 < n := by
  simp only [mem_reasons, Value.plain, Rule.failure?_eq_tooShort]
  constructor
  · rintro ⟨_, mem, rfl, short⟩
    obtain ⟨k, h, same⟩ := minLength_mem_rules.mp mem
    obtain rfl : k = n := by omega
    exact ⟨h, Int.natCast_pos.mp short⟩
  · rintro ⟨h, short⟩
    exact ⟨_, minLength_mem_rules.mpr ⟨n, h, rfl⟩, rfl, Int.natCast_pos.mpr short⟩

theorem tooLong_mem_reasons {n : Nat} {s : String} :
    .tooLong n ∈ t.reasons allowReal (.plain s) ↔ t.maxLength = some n ∧ n < s.length := by
  simp only [mem_reasons, Value.plain, Rule.failure?_eq_tooLong]
  constructor
  · rintro ⟨_, mem, rfl, long⟩
    obtain ⟨k, h, same⟩ := maxLength_mem_rules.mp mem
    obtain rfl : k = n := by omega
    exact ⟨h, Int.ofNat_lt.mp long⟩
  · rintro ⟨h, long⟩
    exact ⟨_, maxLength_mem_rules.mpr ⟨n, h, rfl⟩, rfl, Int.ofNat_lt.mpr long⟩

/-- **A least length shows at the empty text**, unless it is zero. -/
theorem minLength_eq_iff {n : Nat} (pos : 0 < n) :
    t.minLength.getD 0 = n ↔ .tooShort n ∈ t.reasons allowReal (.plain "") := by
  rw [tooShort_mem_reasons_empty]
  cases t.minLength with
  | none => simp only [Option.getD_none, reduceCtorEq, false_and, iff_false]; omega
  | some k => simp only [Option.getD_some, Option.some.injEq]; omega

/-- **A greatest length shows at every text that is long enough.** -/
theorem maxLength_eq_some_iff {n : Nat} :
    t.maxLength = some n ↔
      ∃ start, ∀ s : String, start < s.length → .tooLong n ∈ t.reasons allowReal (.plain s) := by
  simp only [tooLong_mem_reasons]
  constructor
  · intro h
    exact ⟨n, fun s long => ⟨h, long⟩⟩
  · rintro ⟨start, shows⟩
    exact (shows (String.ofList (List.replicate (start + 1) 'a')) (by simp)).1

/-! ## The same reasons, interchangeable profiles -/

variable {t₁ t₂ : Terms}

/-- Terms that give the same reasons have the same limits. -/
theorem limit?_value_eq (same : ∀ v, t₁.reasons allowReal v = t₂.reasons allowReal v)
    (side : Side) : (t₁.limit? side).map Limit.value = (t₂.limit? side).map Limit.value := by
  refine Option.ext fun k => ?_
  rw [limit?_eq_some_iff allowReal, limit?_eq_some_iff allowReal]
  simp only [same]

/-- And where the limits are not tied, the same flags. -/
theorem limit?_exclusive_eq (same : ∀ v, t₁.reasons allowReal v = t₂.reasons allowReal v)
    (free : ¬ t₁.profile.IsTied) (side : Side) :
    (t₁.limit? side).any Limit.exclusive = (t₂.limit? side).any Limit.exclusive := by
  have values := limit?_value_eq allowReal same
  have free' : ¬ t₂.profile.IsTied := by
    rw [isTied_iff] at free ⊢
    simpa only [values] using free
  have value := values side
  cases h₁ : t₁.limit? side with
  | none =>
    rw [h₁, Option.map_none, eq_comm, Option.map_eq_none_iff] at value
    rw [value]
  | some l₁ =>
    rw [h₁, Option.map_some, eq_comm, Option.map_eq_some_iff] at value
    obtain ⟨l₂, h₂, value⟩ := value
    rw [h₂, Option.any_some, Option.any_some, Bool.eq_iff_iff, exclusive_iff allowReal h₁ free,
      exclusive_iff allowReal h₂ free', value, same]

/-- And where they are tied, as many. -/
theorem flags_eq_of_tied (same : ∀ v, t₁.reasons allowReal v = t₂.reasons allowReal v)
    (tied : t₁.profile.IsTied) : t₁.profile.flags = t₂.profile.flags := by
  obtain ⟨k, places⟩ := isTied_iff.mp tied
  have places' (side : Side) : (t₂.limit? side).map Limit.value = some k :=
    (limit?_value_eq allowReal same side).symm.trans (places side)
  rw [← count_reasons_of_tied allowReal places, same, count_reasons_of_tied allowReal places']

/-- **Terms that give the same reasons have interchangeable profiles.** -/
theorem interchangeable_of_reasons_eq
    (same : ∀ v, t₁.reasons allowReal v = t₂.reasons allowReal v) :
    t₁.profile.Interchangeable t₂.profile where
  type := by
    have : t₁.type = t₂.type := by
      have first := (head?_reasons_null allowReal).symm.trans
        ((congrArg List.head? (same .null)).trans (head?_reasons_null allowReal))
      simpa using first
    rw [profile, profile, this]
  multipleOf := by
    have : t₁.multipleOf = t₂.multipleOf := by
      refine Option.ext fun m => ?_
      rw [multipleOf_eq_some_iff allowReal, multipleOf_eq_some_iff allowReal]
      simp only [same]
    rw [profile, profile, this]
  maximum := limit?_value_eq allowReal same .upper
  minimum := limit?_value_eq allowReal same .lower
  minLength := by
    -- a least length of zero is not named, but it is all that is not
    have each (n : Nat) (pos : 0 < n) : t₁.minLength.getD 0 = n ↔ t₂.minLength.getD 0 = n := by
      rw [minLength_eq_iff allowReal pos, minLength_eq_iff allowReal pos, same]
    have : t₁.minLength.getD 0 = t₂.minLength.getD 0 := by
      by_contra ne
      have left := each (t₁.minLength.getD 0)
      have right := each (t₂.minLength.getD 0)
      omega
    rw [profile, profile, this]
  maxLength := by
    have : t₁.maxLength = t₂.maxLength := by
      refine Option.ext fun m => ?_
      rw [maxLength_eq_some_iff allowReal, maxLength_eq_some_iff allowReal]
      simp only [same]
    rw [profile, profile, this]
  flags := by
    by_cases tied : t₁.profile.IsTied
    · rw [if_pos tied]
      exact flags_eq_of_tied allowReal same tied
    · rw [if_neg tied]
      exact ⟨limit?_exclusive_eq allowReal same tied .upper,
        limit?_exclusive_eq allowReal same tied .lower⟩

/-! ## Interchangeable profiles, the same reasons -/

/-- Limits of one value with one flag are one. -/
theorem limit_ext {o o' : Option Limit} (value : o.map Limit.value = o'.map Limit.value)
    (exclusive : o.any Limit.exclusive = o'.any Limit.exclusive) : o = o' := by
  cases o with
  | none => exact (Option.map_eq_none_iff.mp value.symm).symm
  | some l =>
    obtain ⟨l', rfl, same⟩ := Option.map_eq_some_iff.mp value.symm
    obtain ⟨n, b⟩ := l
    obtain ⟨n', b'⟩ := l'
    obtain rfl : n' = n := same
    obtain rfl : b = b' := exclusive
    rfl

/-- Around one limit a flag may change its side: every other point breaks
one of the two bounds, whatever the flags are, and the limit itself breaks
as many as there are flags. -/
theorem around_swap (limit : Int) (v : Value) :
    around allowReal limit true false v = around allowReal limit false true v := by
  obtain ⟨type, asks⟩ : ∃ type, ∀ side exclusive,
      (Bound.mk side limit exclusive allowReal).asks = type :=
    ⟨(Bound.mk .upper limit true allowReal).asks, fun _ _ => rfl⟩
  simp only [around, Rule.failure?, asks, Bound.any_admits]
  split
  · cases v.extended? with
    | none => rfl
    | some x =>
      simp only [Option.any_some, Bound.holds]
      rcases lt_trichotomy x (.rational limit) with below | at_ | above
      · simp [below, below.le, below.not_ge, below.not_gt]
      · simp [at_]
      · simp [above, above.le, above.not_ge, above.not_gt]
  · rfl

/-- So around one limit only the number of the flags counts. -/
theorem around_eq {limit : Int} {upper lower upper' lower' : Bool}
    (h : upper.toNat + lower.toNat = upper'.toNat + lower'.toNat) (v : Value) :
    around allowReal limit upper lower v = around allowReal limit upper' lower' v := by
  by_cases same : upper = upper'
  · have : lower = lower' := by
      revert upper upper' lower lower'
      decide
    rw [same, this]
  · -- then it is one flag, and it stands on either side
    obtain ⟨one, two, three⟩ : upper' = !upper ∧ lower = !upper ∧ lower' = upper := by
      revert upper upper' lower lower'
      decide
    rw [one, two, three]
    cases upper with
    | false => exact (around_swap allowReal limit v).symm
    | true => exact around_swap allowReal limit v

theorem outside_eq_of_interchangeable (h : t₁.profile.Interchangeable t₂.profile) (v : Value) :
    t₁.outside allowReal v = t₂.outside allowReal v := by
  have values (side : Side) :
      (t₁.limit? side).map Limit.value = (t₂.limit? side).map Limit.value := by
    cases side with
    | upper => exact h.maximum
    | lower => exact h.minimum
  have flags := h.flags
  by_cases tied : t₁.profile.IsTied
  · rw [if_pos tied] at flags
    obtain ⟨k, places⟩ := isTied_iff.mp tied
    have places' (side : Side) : (t₂.limit? side).map Limit.value = some k :=
      (values side).symm.trans (places side)
    obtain ⟨upper, lower, out, count⟩ := outside_of_tied allowReal places
    obtain ⟨upper', lower', out', count'⟩ := outside_of_tied allowReal places'
    rw [count, count'] at flags
    rw [out, out', around_eq allowReal flags]
  · rw [if_neg tied] at flags
    have upper : t₁.maximum = t₂.maximum := limit_ext h.maximum flags.1
    have lower : t₁.minimum = t₂.minimum := limit_ext h.minimum flags.2
    rw [outside, outside, upper, lower]

/-- A least length of zero is none. -/
theorem minLength_failure? (t : Terms) (v : Value) :
    (t.minLength.bind fun n : Nat => (Rule.minLength n).failure? v) =
      (Rule.minLength (t.minLength.getD 0 : Nat)).failure? v := by
  cases t.minLength with
  | some n => rfl
  | none =>
    have : (Rule.minLength (0 : Nat)).failure? v = none := by
      cases v with
      | text form s =>
        have : ¬ (s.length : Int) < (0 : Nat) := by omega
        simp only [Rule.failure?, Value.length?, Option.bind_eq_bind, Option.bind_some,
          Option.pure_def, Option.any_some, decide_eq_true_eq, if_neg this]
      | _ => rfl
    exact this.symm

/-- **Terms of interchangeable profiles give the same reasons.** -/
theorem reasons_eq_of_interchangeable (h : t₁.profile.Interchangeable t₂.profile) (v : Value) :
    t₁.reasons allowReal v = t₂.reasons allowReal v := by
  have type : t₁.type = t₂.type := TypeName.name_injective (Option.some.inj h.type)
  have natural {o o' : Option Nat} (h : o.map (Nat.cast : Nat → Int) = o'.map Nat.cast) : o = o' :=
    Option.map_injective Nat.cast_injective h
  have multipleOf : t₁.multipleOf = t₂.multipleOf := natural h.multipleOf
  have minLength : t₁.minLength.getD 0 = t₂.minLength.getD 0 := Nat.cast_injective h.minLength
  have maxLength : t₁.maxLength = t₂.maxLength := natural h.maxLength
  rw [reasons_eq, reasons_eq, type, multipleOf, outside_eq_of_interchangeable allowReal h,
    minLength_failure?, minLength_failure?, minLength, maxLength]

end Terms

namespace Schema

/-- **Reports tell schemas apart just as their profiles do.** Two schemas that
compile at one path and under the same settings find the same issues in
every value exactly when they agree on each keyword, a least length of zero
being none, and on the flags, which may change places where the two bounds
have one limit. -/
theorem issues_eq_iff_interchangeable {settings : Settings} {given : Option String}
    {schema₁ schema₂ : Value} {c₁ c₂ : Validator}
    (h₁ : Validator.compile settings given schema₁ = .ok c₁)
    (h₂ : Validator.compile settings given schema₂ = .ok c₂) :
    (∀ v, (c₁.issues v).map (fun issue => (issue.path, issue.reason.text)) =
        (c₂.issues v).map fun issue => (issue.path, issue.reason.text)) ↔
      (profile schema₁).Interchangeable (profile schema₂) := by
  obtain ⟨-, t₁, states₁, rfl⟩ := validator_compile_eq_ok_iff.mp h₁
  obtain ⟨-, t₂, states₂, rfl⟩ := validator_compile_eq_ok_iff.mp h₂
  have reports (t : Terms) (v : Value) :
      (Validator.issues v ⟨Validator.pathOf settings given, settings,
        t.check settings.realNumberBounds (Validator.pathOf settings given)⟩).map
          (fun issue => (issue.path, issue.reason.text)) =
        (t.reasons settings.realNumberBounds v).map
          fun reason => (Validator.pathOf settings given, reason.text) := by
    rw [Validator.issues, Terms.check, issues_assemble, List.map_map]
    rfl
  have wording : Function.Injective
      fun reason : Reason => (Validator.pathOf settings given, reason.text) :=
    fun _ _ h => Reason.text_injective (congrArg Prod.snd h)
  rw [profile_of_states states₁, profile_of_states states₂]
  simp only [reports, (List.map_injective_iff.mpr wording).eq_iff]
  exact ⟨Terms.interchangeable_of_reasons_eq _, Terms.reasons_eq_of_interchangeable _⟩

/-- The integers from `5` on that are below `5`. -/
def upperFlagged : Value :=
  .object .plain [(.plain "type", .plain "integer"), (.plain "maximum", .integer 5),
    (.plain "exclusiveMaximum", .boolean true), (.plain "minimum", .integer 5)]

/-- The integers above `5` that are at most `5`, in another order and with
bindings that say nothing. -/
def lowerFlagged : Value :=
  .object .ordered [(.plain "exclusiveMinimum", .boolean true), (.plain "minimum", .integer 5),
    (.plain "minLength", .integer 0), (.plain "maxLength", .null), (.plain "maximum", .integer 5),
    (.plain "title", .integer 7), (.plain "type", .plain "integer")]

/-- The same of the multiples of one, which all integers are. -/
def lowerDivided : Value :=
  .object .plain [(.plain "type", .plain "integer"), (.plain "maximum", .integer 5),
    (.plain "minimum", .integer 5), (.plain "exclusiveMinimum", .boolean true),
    (.plain "multipleOf", .integer 1)]

/-- The flag may be on either side of `5`, but a divisor shows. -/
theorem issues_eq_iff_interchangeable_five :
    ∃ c₁ c₂ c₃, Validator.compile {} none upperFlagged = .ok c₁ ∧
      Validator.compile {} none lowerFlagged = .ok c₂ ∧
      Validator.compile {} none lowerDivided = .ok c₃ ∧
      (∀ v, (c₁.issues v).map (fun issue => (issue.path, issue.reason.text)) =
        (c₂.issues v).map fun issue => (issue.path, issue.reason.text)) ∧
      ¬ ∀ v, (c₂.issues v).map (fun issue => (issue.path, issue.reason.text)) =
        (c₃.issues v).map fun issue => (issue.path, issue.reason.text) := by
  obtain ⟨c₁, h₁⟩ : ∃ c, Validator.compile {} none upperFlagged = .ok c := ⟨_, rfl⟩
  obtain ⟨c₂, h₂⟩ : ∃ c, Validator.compile {} none lowerFlagged = .ok c := ⟨_, rfl⟩
  obtain ⟨c₃, h₃⟩ : ∃ c, Validator.compile {} none lowerDivided = .ok c := ⟨_, rfl⟩
  refine ⟨c₁, c₂, c₃, h₁, h₂, h₃, ?_, fun same => ?_⟩
  · exact (issues_eq_iff_interchangeable h₁ h₂).mpr (by decide +kernel)
  · exact absurd ((issues_eq_iff_interchangeable h₂ h₃).mp same) (by decide +kernel)

end Schema

end Conformance
