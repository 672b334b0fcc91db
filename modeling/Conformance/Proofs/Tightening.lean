import Conformance.Proofs.Objections

/-!
# Tightening — schemas that ask for more of the same

One schema tightens another where each keyword of the other is there too and
asks for as much: a type within the type, a multiple of the divisor, limits
that lie within the limits, lengths within the lengths. `Tightens` compares
the schemas keyword by keyword, as they are written.
`isValid_of_tightens` is that a value which the tighter schema lets through
passes the other as well, whatever the value is. Each keyword has its own
reason: the order of the extended line is transitive, and so is divisibility,
by zero too.
-/


namespace Conformance

namespace Schema

/-! ## What a keyword lets through -/

theorem typeObjection_eq_none_iff {type : String} {v : Value} :
    typeObjection type v = none ↔ v.kind.name = type ∨ type = "number" ∧ v.kind = .integer := by
  rw [typeObjection]
  split <;> simp_all

/-- A divisor lets through the integers that it divides, as far as they are not
negative. -/
theorem divisorObjection_eq_none_iff {m : Int} {v : Value} :
    divisorObjection m v = none ↔ ∃ n : Int, v = .integer n ∧ 0 ≤ n ∧ m ∣ n := by
  cases v with
  | integer n =>
    rw [divisorObjection]
    by_cases negative : n < 0
    · simp [negative]
    · by_cases divided : m ∣ n
      · simp [negative, divided]
        omega
      · simp [negative, divided]
  | _ => simp [divisorObjection]

/-- A bound lets through what it measures and holds the point of. -/
theorem boundObjection_eq_none_iff {b : Bound} {v : Value} :
    boundObjection b v = none ↔
      (v.kind = .integer ∨ b.allowReal = true ∧ v.kind = .number) ∧
        ∃ x ∈ v.extended?, b.holds x := by
  rw [boundObjection]
  split
  · rename_i measured
    have held : v.extended?.any (fun x => b.holds x) = true ↔ ∃ x ∈ v.extended?, b.holds x := by
      simp [Option.any_eq_true]
    rw [← held]
    split <;> simp_all
  · rename_i unmeasured
    simp [unmeasured]

theorem shortObjection_eq_none_iff {n : Int} {v : Value} :
    shortObjection n v = none ↔ ∀ length ∈ v.length?, n ≤ (length : Int) := by
  cases v <;> simp [shortObjection, Value.length?]

theorem longObjection_eq_none_iff {n : Int} {v : Value} :
    longObjection n v = none ↔ ∀ length ∈ v.length?, (length : Int) ≤ n := by
  cases v <;> simp [longObjection, Value.length?]

end Schema

/-! ## What lies within -/

namespace Side

/-- Whether a point lies on the inner side of another. -/
def Inside : Side → Extended → Extended → Prop
  | .upper, x, y => x < y
  | .lower, x, y => y < x

theorem Inside.trans {side : Side} {x y z : Extended} (h : side.Inside x y)
    (h' : side.Inside y z) : side.Inside x z := by
  cases side with
  | upper => exact lt_trans h h'
  | lower => exact lt_trans h' h

/-- One limit lies within another on a side: it is further in, or it is at the
same place and exclusive if the other is. -/
def Within (side : Side) (inner outer : Limit) : Prop :=
  (match side with
    | .upper => inner.value < outer.value
    | .lower => outer.value < inner.value) ∨
  inner.value = outer.value ∧ (outer.exclusive = true → inner.exclusive = true)

instance (side : Side) (inner outer : Limit) : Decidable (side.Within inner outer) :=
  match side with
  | .upper => inferInstanceAs (Decidable (inner.value < outer.value ∨ _ ∧ (_ → _)))
  | .lower => inferInstanceAs (Decidable (outer.value < inner.value ∨ _ ∧ (_ → _)))

end Side

/-- A bound holds what is inside its limit, and the limit if it is not
exclusive. -/
theorem Bound.holds_iff {b : Bound} {x : Extended} :
    b.holds x ↔ b.side.Inside x (.rational b.limit) ∨
      x = .rational b.limit ∧ b.exclusive = false := by
  obtain ⟨side, limit, exclusive, allowReal⟩ := b
  cases side <;> cases exclusive <;> simp [holds, Side.Inside, le_iff_lt_or_eq, eq_comm]

/-- **A limit within another holds less.** The point may be any of the line, so
this is where the order has to be exact. -/
theorem Side.Within.holds {side : Side} {inner outer : Limit} (h : side.Within inner outer)
    {allowReal : Bool} {x : Extended} (held : (inner.bound allowReal side).holds x) :
    (outer.bound allowReal side).holds x := by
  rw [Bound.holds_iff] at held ⊢
  rcases h with nearer | ⟨same, kept⟩
  · have inside : side.Inside (.rational inner.value) (.rational outer.value) := by
      cases side with
      | upper => exact Extended.rational_lt_rational.mpr (Int.cast_lt.mpr nearer)
      | lower => exact Extended.rational_lt_rational.mpr (Int.cast_lt.mpr nearer)
    rcases held with held | ⟨rfl, -⟩
    · exact .inl (held.trans inside)
    · exact .inl inside
  · have place : Extended.rational inner.value = .rational outer.value := by rw [same]
    rcases held with held | ⟨at_, included⟩
    · exact .inl (place ▸ held)
    · have included' : outer.exclusive = false := by
        by_contra exclusive
        exact absurd (kept (by simpa using exclusive)) (by simpa [Limit.bound] using included)
      exact .inr ⟨at_.trans place, included'⟩

namespace Schema

/-- The limit that a name and the name of its flag are bound to. -/
def limitAt (schema : Value) (name flag : String) : Option Limit :=
  (integerAt schema name).map fun n => ⟨n, flagAt schema flag⟩

/-- A schema tightens another: it asks for all that the other asks for, keyword
by keyword, and it may ask for more. -/
structure Tightens (tight loose : Value) : Prop where
  type : textAt tight "type" = textAt loose "type" ∨
    textAt tight "type" = some "integer" ∧ textAt loose "type" = some "number"
  multipleOf : ∀ m ∈ integerAt loose "multipleOf", ∃ m' ∈ integerAt tight "multipleOf", m ∣ m'
  maximum : ∀ l ∈ limitAt loose "maximum" "exclusiveMaximum",
    ∃ l' ∈ limitAt tight "maximum" "exclusiveMaximum", Side.upper.Within l' l
  minimum : ∀ l ∈ limitAt loose "minimum" "exclusiveMinimum",
    ∃ l' ∈ limitAt tight "minimum" "exclusiveMinimum", Side.lower.Within l' l
  minLength : ∀ n ∈ integerAt loose "minLength", ∃ n' ∈ integerAt tight "minLength", n ≤ n'
  maxLength : ∀ n ∈ integerAt loose "maxLength", ∃ n' ∈ integerAt tight "maxLength", n' ≤ n

instance (tight loose : Value) : Decidable (Tightens tight loose) :=
  decidable_of_iff
    ((textAt tight "type" = textAt loose "type" ∨
        textAt tight "type" = some "integer" ∧ textAt loose "type" = some "number") ∧
      (∀ m ∈ integerAt loose "multipleOf", ∃ m' ∈ integerAt tight "multipleOf", m ∣ m') ∧
      (∀ l ∈ limitAt loose "maximum" "exclusiveMaximum",
        ∃ l' ∈ limitAt tight "maximum" "exclusiveMaximum", Side.upper.Within l' l) ∧
      (∀ l ∈ limitAt loose "minimum" "exclusiveMinimum",
        ∃ l' ∈ limitAt tight "minimum" "exclusiveMinimum", Side.lower.Within l' l) ∧
      (∀ n ∈ integerAt loose "minLength", ∃ n' ∈ integerAt tight "minLength", n ≤ n') ∧
      ∀ n ∈ integerAt loose "maxLength", ∃ n' ∈ integerAt tight "maxLength", n' ≤ n)
    ⟨fun ⟨h1, h2, h3, h4, h5, h6⟩ => ⟨h1, h2, h3, h4, h5, h6⟩,
      fun ⟨h1, h2, h3, h4, h5, h6⟩ => ⟨h1, h2, h3, h4, h5, h6⟩⟩

/-! ## Each keyword lets through no more -/

variable {v : Value}

/-- An integer is a number. -/
theorem typeObjection_number (passed : typeObjection "integer" v = none) :
    typeObjection "number" v = none := by
  have named : v.kind.name = "integer" := by simpa using typeObjection_eq_none_iff.mp passed
  have kind : v.kind = .integer := by
    revert named
    cases v.kind <;> decide
  exact typeObjection_eq_none_iff.mpr (.inr ⟨rfl, kind⟩)

/-- A multiple of a divisor divides less. Zero is a multiple of all divisors,
and divides nothing but itself. -/
theorem divisorObjection_of_dvd {m m' : Int} (h : m ∣ m') (passed : divisorObjection m' v = none) :
    divisorObjection m v = none := by
  obtain ⟨n, rfl, nonneg, divided⟩ := divisorObjection_eq_none_iff.mp passed
  exact divisorObjection_eq_none_iff.mpr ⟨n, rfl, nonneg, h.trans divided⟩

theorem boundObjection_of_within {side : Side} {inner outer : Limit} {allowReal : Bool}
    (h : side.Within inner outer)
    (passed : boundObjection (inner.bound allowReal side) v = none) :
    boundObjection (outer.bound allowReal side) v = none := by
  obtain ⟨measured, x, denoted, held⟩ := boundObjection_eq_none_iff.mp passed
  exact boundObjection_eq_none_iff.mpr ⟨measured, x, denoted, h.holds held⟩

theorem shortObjection_of_le {n n' : Int} (h : n ≤ n') (passed : shortObjection n' v = none) :
    shortObjection n v = none := by
  rw [shortObjection_eq_none_iff] at passed ⊢
  exact fun length measured => h.trans (passed length measured)

theorem longObjection_of_le {n n' : Int} (h : n' ≤ n) (passed : longObjection n' v = none) :
    longObjection n v = none := by
  rw [longObjection_eq_none_iff] at passed ⊢
  exact fun length measured => (passed length measured).trans h

/-! ## And so does the schema -/

/-- A keyword that objects to nothing when it is there in a tighter form does
not object when it may be missing. -/
theorem bind_eq_none_of_tighter {α : Type} {o o' : Option α} {objects : α → Option String}
    (h : ∀ a ∈ o, ∃ a' ∈ o', objects a' = none → objects a = none)
    (passed : o'.bind objects = none) : o.bind objects = none := by
  cases o with
  | none => rfl
  | some a =>
    obtain ⟨a', stated, kept⟩ := h a rfl
    exact kept (Option.bind_eq_none_iff.mp passed a' stated)

/-- A schema objects to nothing when none of its keywords does. -/
theorem objections_eq_nil_iff {allowReal : Bool} {schema : Value} :
    objections allowReal schema v = [] ↔
      (textAt schema "type").bind (typeObjection · v) = none ∧
        (integerAt schema "multipleOf").bind (divisorObjection · v) = none ∧
        ((limitAt schema "maximum" "exclusiveMaximum").bind fun l =>
          boundObjection (l.bound allowReal .upper) v) = none ∧
        ((limitAt schema "minimum" "exclusiveMinimum").bind fun l =>
          boundObjection (l.bound allowReal .lower) v) = none ∧
        (integerAt schema "minLength").bind (shortObjection · v) = none ∧
        (integerAt schema "maxLength").bind (longObjection · v) = none := by
  simp only [objections, reduceOption_cons, List.append_eq_nil_iff, Option.toList_eq_nil_iff,
    List.reduceOption_nil, and_true, limitAt, Option.bind_map, Function.comp_def, Limit.bound]

/-- A value is valid where the schema that was compiled has no objection. -/
theorem isValid_iff_objections {settings : Settings} {given : Option String} {schema : Value}
    {c : Validator} (h : Validator.compile settings given schema = .ok c) :
    (c.verdict v).isValid = true ↔ objections settings.realNumberBounds schema v = [] := by
  obtain ⟨-, t, ht, rfl⟩ := validator_compile_eq_ok_iff.mp h
  refine (isValid_check_iff t v).trans ?_
  rw [objections_of_states ht, List.map_eq_nil_iff, List.filterMap_eq_nil_iff]

/-- **Tightening a schema never admits a new value.** -/
theorem isValid_of_tightens {settings : Settings} {given given' : Option String}
    {tight loose : Value} {c c' : Validator}
    (h' : Validator.compile settings given' tight = .ok c')
    (h : Validator.compile settings given loose = .ok c) (tighter : Tightens tight loose)
    (v : Value) (valid : (c'.verdict v).isValid = true) : (c.verdict v).isValid = true := by
  rw [isValid_iff_objections h', objections_eq_nil_iff] at valid
  rw [isValid_iff_objections h, objections_eq_nil_iff]
  obtain ⟨type, multipleOf, maximum, minimum, minLength, maxLength⟩ := valid
  -- only what the looser schema states has to be found in the tighter one
  refine ⟨bind_eq_none_of_tighter (fun t stated => ?_) type,
    bind_eq_none_of_tighter (fun m stated => ?_) multipleOf,
    bind_eq_none_of_tighter (fun l stated => ?_) maximum,
    bind_eq_none_of_tighter (fun l stated => ?_) minimum,
    bind_eq_none_of_tighter (fun n stated => ?_) minLength,
    bind_eq_none_of_tighter (fun n stated => ?_) maxLength⟩
  · rcases tighter.type with same | ⟨integer, number⟩
    · exact ⟨t, same.trans stated, id⟩
    · obtain rfl : t = "number" := Option.some.inj (stated.symm.trans number)
      exact ⟨"integer", integer, typeObjection_number⟩
  · obtain ⟨m', stated', divides⟩ := tighter.multipleOf m stated
    exact ⟨m', stated', divisorObjection_of_dvd divides⟩
  · obtain ⟨l', stated', within⟩ := tighter.maximum l stated
    exact ⟨l', stated', boundObjection_of_within within⟩
  · obtain ⟨l', stated', within⟩ := tighter.minimum l stated
    exact ⟨l', stated', boundObjection_of_within within⟩
  · obtain ⟨n', stated', longer⟩ := tighter.minLength n stated
    exact ⟨n', stated', shortObjection_of_le longer⟩
  · obtain ⟨n', stated', shorter⟩ := tighter.maxLength n stated
    exact ⟨n', stated', longObjection_of_le shorter⟩

/-- Numbers from `-4` on that are below `10`. -/
def broadSchema : Value :=
  .object .plain [(.plain "type", .plain "number"), (.plain "maximum", .integer 10),
    (.plain "exclusiveMaximum", .boolean true), (.plain "minimum", .integer (-4)),
    (.plain "multipleOf", .null)]

/-- Even integers above `-4` that are below `10`, and a length that no integer
has. -/
def narrowSchema : Value :=
  .object .ordered [(.plain "exclusiveMinimum", .boolean true), (.plain "minimum", .integer (-4)),
    (.plain "type", .plain "integer"), (.plain "multipleOf", .integer 2),
    (.plain "exclusiveMaximum", .boolean true), (.plain "maximum", .integer 10),
    (.plain "maxLength", .integer 0)]

/-- The even `8` is let through by the narrow schema, and so by the broad one.
The decimal `1E+1` is kept out by the broad schema, and so by the narrow one. -/
theorem isValid_of_tightens_even :
    ∃ narrow broad, Validator.compile { realNumberBounds := true } none narrowSchema = .ok narrow ∧
      Validator.compile { realNumberBounds := true } (some "x") broadSchema = .ok broad ∧
      Tightens narrowSchema broadSchema ∧ (broad.verdict (.integer 8)).isValid = true ∧
      ¬ (narrow.verdict (.quantity (.decimal (.finite ⟨false, 1, 1⟩)))).isValid = true := by
  obtain ⟨narrow, h'⟩ : ∃ c, Validator.compile { realNumberBounds := true } none narrowSchema =
    .ok c := ⟨_, rfl⟩
  obtain ⟨broad, h⟩ : ∃ c, Validator.compile { realNumberBounds := true } (some "x") broadSchema =
    .ok c := ⟨_, rfl⟩
  have tighter : Tightens narrowSchema broadSchema := by decide +kernel
  refine ⟨narrow, broad, h', h, tighter, ?_, fun valid => ?_⟩
  · exact isValid_of_tightens h' h tighter _ ((isValid_iff_objections h').mpr (by decide +kernel))
  · have broadly := isValid_of_tightens h' h tighter _ valid
    exact absurd ((isValid_iff_objections h).mp broadly) (by decide +kernel)

end Schema

end Conformance
