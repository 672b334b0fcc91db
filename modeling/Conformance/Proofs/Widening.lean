import Conformance.Proofs.Objections

/-!
# Widening — bounds that measure every real number

Settings say whether bounds measure integers only or all real numbers.
`compile_measuring` is that this setting reaches the bounds of a check and
nothing else: not which schemas are sound, nor what is wrong with the others. A
rule that a value keeps when bounds are strict it keeps when they are wide, and
only a quantity can be let through by a wide bound and not by a strict one, so
`bounds_widen` can say where issues differ, and where verdicts do. A verdict
hangs on the setting only for quantities under the type of numbers, with a bound
and without a divisor.
-/


namespace Conformance

/-! ## Checks with something changed in them -/

/-- A rule whose bound measures real numbers, or integers only. -/
def Rule.measuring (allowReal : Bool) : Rule → Rule
  | .bound b => .bound { b with allowReal }
  | r => r

namespace Check

mutual

/-- A check with other paths and other rules. -/
def map (onPath : String → String) (onRule : Rule → Rule) : Check → Check
  | .leaf path rule => .leaf (onPath path) (onRule rule)
  | .all path children => .all (onPath path) (mapRow onPath onRule children)

/-- A row of checks with other paths and other rules. -/
def mapRow (onPath : String → String) (onRule : Rule → Rule) : List Check → List Check
  | [] => []
  | c :: rest => map onPath onRule c :: mapRow onPath onRule rest

end

variable {onPath : String → String} {onRule : Rule → Rule}

@[simp] theorem map_leaf (path : String) (rule : Rule) :
    (leaf path rule).map onPath onRule = .leaf (onPath path) (onRule rule) := by
  rw [map]

@[simp] theorem map_all (path : String) (children : List Check) :
    (all path children).map onPath onRule =
      .all (onPath path) (children.map (map onPath onRule)) := by
  have row : mapRow onPath onRule children = children.map (map onPath onRule) := by
    induction children with
    | nil => rfl
    | cons c rest ih => rw [mapRow, ih, List.map_cons]
  rw [map, row]

/-- The leaves change one by one. -/
theorem leaves_map (c : Check) :
    (c.map onPath onRule).leaves = c.leaves.map fun l => ⟨onPath l.path, onRule l.rule⟩ := by
  induction c using Check.induction with
  | leaf path rule => simp
  | all path children ih =>
    rw [map_all, leaves_all, leaves_all, List.flatMap_map, List.map_flatMap]
    exact List.flatMap_congr ih

/-- A check changed twice. -/
theorem map_map (onPath' : String → String) (onRule' : Rule → Rule) (c : Check) :
    (c.map onPath onRule).map onPath' onRule' =
      c.map (onPath' ∘ onPath) (onRule' ∘ onRule) := by
  induction c using Check.induction with
  | leaf path rule => simp
  | all path children ih =>
    rw [map_all, map_all, map_all, List.map_map]
    exact congrArg _ (List.map_congr_left ih)

end Check

namespace Schema

/-- The check of a row of rules changes rule by rule. -/
theorem map_assemble (onPath : String → String) (onRule : Rule → Rule) (path : String)
    (rules : List Rule) :
    (assemble path rules).map onPath onRule =
      assemble (onPath path) (rules.map onRule) := by
  unfold assemble
  split
  · simp
  · rename_i several
    rw [Check.map_all, List.map_map]
    split
    · rename_i rule single
      obtain ⟨first, rfl, -⟩ := List.map_eq_singleton_iff.mp single
      exact absurd rfl (several first)
    · rw [List.map_map]
      exact congrArg _ (List.map_congr_left fun rule _ => Check.map_leaf path rule)

end Schema

/-! ## Failures of a check -/

/-- A leaf that a value breaks, and why. -/
structure Failure where
  leaf : Leaf
  reason : Reason

/-- A failure as it is reported. -/
def Failure.issue (f : Failure) : Issue := ⟨f.leaf.path, f.reason⟩

/-- Why a value breaks a rule, in the words of wide bounds: a bound that found no
integer finds no number. -/
def Rule.reworded : Rule → Reason → Reason
  | .bound _ => fun reason =>
    if reason = .notOfType .integer then .notOfType .number else reason
  | _ => id

/-- A failure as it is reported where bounds are wide. -/
def Failure.reworded (f : Failure) : Issue := ⟨f.leaf.path, f.leaf.rule.reworded f.reason⟩

namespace Check

/-- The leaves of a check that a value breaks, from left to right. -/
def failures (v : Value) (c : Check) : List Failure :=
  c.leaves.filterMap fun l => (l.rule.failure? v).map (Failure.mk l)

/-- The issues of a check report its failures one by one. -/
theorem issues_eq_failures (v : Value) (c : Check) :
    c.issues v = (c.failures v).map Failure.issue := by
  rw [issues_eq_filterMap_leaves, failures, List.map_filterMap]
  refine List.filterMap_congr fun l _ => ?_
  rw [Option.map_map]
  rfl

end Check

/-! ## Strict rules and wide ones -/

namespace Rule

variable {v : Value}

/-- What a bound has against a value of a kind that it measures. -/
def outside (b : Bound) (v : Value) : Option Reason :=
  if v.number?.any b.admits then none else some (.outOfBound b.limit)

/-- The kinds that a bound measures hang on the setting, and the points that it
holds do not. -/
theorem failure?_measuring (allowReal : Bool) (b : Bound) (v : Value) :
    ((bound b).measuring allowReal).failure? v =
      if v.kind = .integer ∨ allowReal = true ∧ v.kind = .number then outside b v
      else some (.notOfType (if allowReal then .number else .integer)) := by
  have asked : ({ b with allowReal } : Bound).asks.accepts v.kind = true ↔
      v.kind = .integer ∨ allowReal = true ∧ v.kind = .number := Bound.asks_accepts_iff
  rw [measuring, failure?]
  simp only [asked]
  rfl

theorem failure?_strict (b : Bound) (v : Value) :
    ((bound b).measuring false).failure? v =
      if v.kind = .integer then outside b v else some (.notOfType .integer) := by
  simp [failure?_measuring]

theorem failure?_wide (b : Bound) (v : Value) :
    ((bound b).measuring true).failure? v =
      if v.kind = .integer ∨ v.kind = .number then outside b v
      else some (.notOfType .number) := by
  simp [failure?_measuring]

/-- **Wide bounds let through more**: a rule that a value keeps when it is strict
is kept when it is wide. -/
theorem failure?_wide_eq_none {r : Rule} (kept : (r.measuring false).failure? v = none) :
    (r.measuring true).failure? v = none := by
  cases r with
  | bound b =>
    rw [failure?_strict] at kept
    by_cases integer : v.kind = .integer
    · rw [if_pos integer] at kept
      rw [failure?_wide, if_pos (.inl integer), kept]
    · rw [if_neg integer] at kept
      cases kept
  | _ => exact kept

/-- **To what is no quantity, wide bounds are strict ones in other words.** -/
theorem failure?_wide_of_kind_ne (h : v.kind ≠ .number) (r : Rule) :
    (r.measuring true).failure? v =
      ((r.measuring false).failure? v).map r.reworded := by
  cases r with
  | bound b =>
    rw [failure?_strict, failure?_wide]
    by_cases integer : v.kind = .integer
    · rw [if_pos integer, if_pos (.inl integer), outside]
      split <;> rfl
    · have unmeasured : ¬ (v.kind = .integer ∨ v.kind = .number) := by simp [integer, h]
      rw [if_neg integer, if_neg unmeasured]
      rfl
  | _ => exact (congrFun Option.map_id _).symm

/-- Only a bound can let a value through when it is wide and not when it is
strict, and only a quantity. -/
theorem exists_bound_of_differ {r : Rule} (wide : (r.measuring true).failure? v = none)
    (strict : (r.measuring false).failure? v ≠ none) : (∃ b, r = .bound b) ∧ v.kind = .number := by
  have quantity : v.kind = .number := by
    by_contra h
    rw [failure?_wide_of_kind_ne h, Option.map_eq_none_iff] at wide
    exact strict wide
  cases r with
  | bound b => exact ⟨⟨b, rfl⟩, quantity⟩
  | _ => exact absurd wide strict

end Rule

/-! ## Strict checks and wide ones -/

namespace Check

variable {v : Value}

/-- The issues of a check with wide bounds, leaf by leaf. -/
theorem issues_measuring (allowReal : Bool) (v : Value) (c : Check) :
    (c.map id (Rule.measuring allowReal)).issues v =
      c.leaves.filterMap fun l =>
        ((l.rule.measuring allowReal).failure? v).map (Issue.mk l.path) := by
  rw [issues_eq_filterMap_leaves, leaves_map, List.filterMap_map]
  rfl

theorem failures_measuring (allowReal : Bool) (v : Value) (c : Check) :
    (c.map id (Rule.measuring allowReal)).failures v =
      c.leaves.filterMap fun l =>
        ((l.rule.measuring allowReal).failure? v).map
          (Failure.mk ⟨l.path, l.rule.measuring allowReal⟩) := by
  rw [failures, leaves_map, List.filterMap_map]
  rfl

/-- To what is no quantity, a wide check says what a strict one does, in other
words. -/
theorem issues_wide_of_kind_ne (h : v.kind ≠ .number) (c : Check) :
    (c.map id (Rule.measuring true)).issues v =
      ((c.map id (Rule.measuring false)).failures v).map Failure.reworded := by
  rw [issues_measuring, failures_measuring, List.map_filterMap]
  refine List.filterMap_congr fun l _ => ?_
  rw [Rule.failure?_wide_of_kind_ne h, Option.map_map, Option.map_map]
  cases l.rule <;> rfl

/-- A leaf that has an issue when it is wide has one when it is strict. -/
theorem length_issues_wide_le (v : Value) (c : Check) :
    ((c.map id (Rule.measuring true)).issues v).length ≤
      ((c.map id (Rule.measuring false)).issues v).length := by
  rw [issues_measuring, issues_measuring, List.length_filterMap_eq_countP,
    List.length_filterMap_eq_countP]
  refine List.countP_mono_left fun l _ found => ?_
  rw [Option.isSome_map] at found ⊢
  by_contra kept
  rw [Option.not_isSome_iff_eq_none] at kept
  rw [Rule.failure?_wide_eq_none kept] at found
  cases found

/-- What a strict check lets through, a wide one does. -/
theorem isValid_wide_of_strict {c : Check}
    (valid : (c.map id (Rule.measuring false)).isValid v = true) :
    (c.map id (Rule.measuring true)).isValid v = true := by
  rw [isValid_iff, ← List.length_eq_zero_iff] at valid ⊢
  have fewer := length_issues_wide_le v c
  omega

end Check

namespace Terms

/-- The rules of some terms differ in what bounds measure, and in nothing else. -/
theorem map_measuring_rules (real allowReal : Bool) (t : Terms) :
    (t.rules real).map (Rule.measuring allowReal) = t.rules allowReal := by
  have row {α : Type} (o : Option α) (f g : α → Rule) (h : ∀ a, (f a).measuring allowReal = g a) :
      (o.map f).toList.map (Rule.measuring allowReal) = (o.map g).toList := by
    cases o <;> simp [h]
  have natural (o : Option Nat) (f : Int → Rule) (h : ∀ n, (f n).measuring allowReal = f n) :
      (o.map fun n : Nat => f n).toList.map (Rule.measuring allowReal) =
        (o.map fun n : Nat => f n).toList :=
    row o _ _ fun n => h n
  have limit (side : Side) (o : Option Limit) :
      (o.map fun l => Rule.bound (l.bound real side)).toList.map (Rule.measuring allowReal) =
        (o.map fun l => Rule.bound (l.bound allowReal side)).toList :=
    row o _ _ fun l => rfl
  rw [rules, rules, constraints, constraints, List.map_cons]
  simp only [List.map_append]
  rw [natural _ _ fun _ => rfl, natural _ _ fun _ => rfl, natural _ _ fun _ => rfl, limit, limit]
  rfl

theorem map_measuring_check (real allowReal : Bool) (path : String) (t : Terms) :
    (t.check real path).map id (Rule.measuring allowReal) = t.check allowReal path := by
  rw [check, Schema.map_assemble, map_measuring_rules]
  rfl

/-- **Where a verdict hangs on the setting**, the value is a quantity, numbers are
asked for, there is a bound, and there is no divisor. -/
theorem of_verdicts_differ {t : Terms} {path : String} {v : Value}
    (wide : (t.check true path).isValid v = true)
    (strict : ¬ (t.check false path).isValid v = true) :
    v.kind = .number ∧ t.type = .number ∧ (t.maximum.isSome ∨ t.minimum.isSome) ∧
      t.multipleOf = none := by
  rw [Schema.isValid_check_iff] at wide strict
  have kept (rule : Rule) (stated : rule ∈ t.rules false) :
      (rule.measuring true).failure? v = none := by
    refine wide _ ?_
    rw [← map_measuring_rules false true]
    exact List.mem_map_of_mem stated
  obtain ⟨rule, stated, broken⟩ : ∃ rule ∈ t.rules false,
      (rule.measuring false).failure? v ≠ none := by
    by_contra h
    push Not at h
    refine strict fun rule stated => ?_
    rw [← map_measuring_rules false false] at stated
    obtain ⟨r, listed, rfl⟩ := List.mem_map.mp stated
    exact h r listed
  obtain ⟨⟨b, rfl⟩, quantity⟩ := Rule.exists_bound_of_differ (kept rule stated) broken
  refine ⟨quantity, ?_, ?_, ?_⟩
  · have typed : (Rule.type t.type).failure? v = none := kept _ List.mem_cons_self
    rw [Rule.failure?, quantity] at typed
    cases h : t.type <;> simp_all [TypeName.accepts]
  · -- a rule that is a bound comes of one of the two keywords
    by_contra unbounded
    obtain ⟨maximum, minimum⟩ : t.maximum = none ∧ t.minimum = none := by simpa using unbounded
    have none_bound : ∀ r ∈ t.constraints false, r ≠ .bound b := by
      rw [forall_mem_constraints, maximum, minimum]
      simp
    rcases List.mem_cons.mp stated with h | h
    · cases h
    · exact none_bound _ h rfl
  · by_contra divided
    obtain ⟨m, stated⟩ := Option.ne_none_iff_exists'.mp divided
    have listed : Rule.multipleOf m ∈ t.rules false := by
      simp [rules, constraints, stated]
    have met : (Rule.multipleOf m).failure? v = none := kept _ listed
    have unnatural : v.natural? = none := by
      cases v <;> first | rfl | cases quantity
    rw [Rule.failure?, unnatural] at met
    cases met

end Terms

namespace Schema

/-- **The setting reaches the bounds of a check and nothing else**: not which
schemas are sound, and not what is wrong with the others. -/
theorem compile_measuring (real allowReal : Bool) (path : String) (schema : Value) :
    compile allowReal path schema =
      (compile real path schema).map (Check.map id (Rule.measuring allowReal)) := by
  by_cases object : schema.kind = .object
  · rw [compile_eq object, compile_eq object]
    cases terms? (reading schema) with
    | error defect => rfl
    | ok t => exact congrArg Except.ok (Terms.map_measuring_check real allowReal path t).symm
  · rw [compile, compile, if_neg object, if_neg object]
    rfl

/-- The same of validators, whose paths do not hang on it either. -/
theorem validator_compile_wide (settings : Settings) (given : Option String) (schema : Value) :
    Validator.compile { settings with realNumberBounds := true } given schema =
      (Validator.compile { settings with realNumberBounds := false } given schema).map fun c =>
        { c with
          settings := { settings with realNumberBounds := true }
          check := c.check.map id (Rule.measuring true) } := by
  let narrow : Settings := { settings with realNumberBounds := false }
  let broad : Settings := { settings with realNumberBounds := true }
  have paths : Validator.pathOf broad given = Validator.pathOf narrow given := rfl
  have checks : compile broad.realNumberBounds (Validator.pathOf narrow given) schema =
      (compile narrow.realNumberBounds (Validator.pathOf narrow given) schema).map
        (Check.map id (Rule.measuring true)) :=
    compile_measuring false true _ schema
  change Validator.compile broad given schema = (Validator.compile narrow given schema).map _
  rw [validator_compile_eq, validator_compile_eq, paths, checks]
  cases compile narrow.realNumberBounds (Validator.pathOf narrow given) schema <;> rfl

/-- How the answers about a value change when the bounds of a schema are made to
measure all real numbers. -/
structure Widens (schema v : Value) (strict wide : Validator) : Prop where
  /-- To what is no quantity both say the same, one entry for each failure, but a
  bound that found no integer finds no number. -/
  reworded : v.kind ≠ .number →
    strict.issues v = (strict.check.failures v).map Failure.issue ∧
      wide.issues v = (strict.check.failures v).map Failure.reworded
  fewer : v.kind = .number → (wide.issues v).length ≤ (strict.issues v).length
  admits : (strict.verdict v).isValid = true → (wide.verdict v).isValid = true
  differs : (strict.verdict v).isValid ≠ (wide.verdict v).isValid →
    v.kind = .number ∧ textAt schema "type" = some "number" ∧
      ((schema.binding? "maximum").isSome ∨ (schema.binding? "minimum").isSome) ∧
      schema.binding? "multipleOf" = none

/-- A limit that is stated is bound. -/
theorem StatesLimit.isSome {x flag : Option Value} {o : Option Limit} (h : StatesLimit x flag o)
    (stated : o.isSome) : x.isSome := by
  cases h <;> first | rfl | cases stated

theorem widens_of_states {schema : Value} {t : Terms} (h : States (reading schema) t) (v : Value)
    (settings settings' : Settings) (path : String) :
    Widens schema v ⟨path, settings, t.check false path⟩ ⟨path, settings', t.check true path⟩ := by
  have strict : (t.check true path).map id (Rule.measuring false) = t.check false path :=
    t.map_measuring_check true false path
  have wide : (t.check true path).map id (Rule.measuring true) = t.check true path :=
    t.map_measuring_check true true path
  have admits : (t.check false path).isValid v = true → (t.check true path).isValid v = true := by
    intro valid
    have := Check.isValid_wide_of_strict (c := t.check true path) (v := v)
    rw [strict, wide] at this
    exact this valid
  refine ⟨fun kind => ⟨Check.issues_eq_failures v _, ?_⟩, fun _ => ?_, admits, fun differ => ?_⟩
  · have said := Check.issues_wide_of_kind_ne kind (t.check true path)
    rwa [strict, wide] at said
  · have fewer := Check.length_issues_wide_le v (t.check true path)
    rwa [strict, wide] at fewer
  · have invalid : ¬ (t.check false path).isValid v = true := by
      intro valid
      exact differ (valid.trans (admits valid).symm)
    have valid : (t.check true path).isValid v = true := by
      by_contra h
      refine differ ?_
      change (t.check false path).isValid v = (t.check true path).isValid v
      rw [Bool.not_eq_true] at invalid h
      rw [invalid, h]
    obtain ⟨quantity, type, bounded, undivided⟩ := Terms.of_verdicts_differ valid invalid
    refine ⟨quantity, ?_, bounded.imp h.maximum.isSome h.minimum.isSome, ?_⟩
    · exact h.type.trans (by rw [type]; rfl)
    · exact h.multipleOf.trans (by rw [undivided]; rfl)

/-- **Bounds that measure all real numbers are a conservative extension.** The
setting decides neither whether a schema compiles nor why not; the checks differ
in what bounds measure; and the answers about values differ as `Widens` says. -/
theorem bounds_widen (settings : Settings) (given : Option String) (schema : Value) :
    let narrow : Settings := { settings with realNumberBounds := false }
    let broad : Settings := { settings with realNumberBounds := true }
    (∀ e, Validator.compile narrow given schema = .error e ↔
        Validator.compile broad given schema = .error e) ∧
      ∀ strict, Validator.compile narrow given schema = .ok strict →
        ∃ wide, Validator.compile broad given schema = .ok wide ∧ wide.path = strict.path ∧
          wide.check = strict.check.map id (Rule.measuring true) ∧
          strict.check = wide.check.map id (Rule.measuring false) ∧
          ∀ v, Widens schema v strict wide := by
  intro narrow broad
  have compiled := validator_compile_wide settings given schema
  refine ⟨fun e => ?_, fun strict h => ?_⟩
  · rw [compiled]
    cases Validator.compile narrow given schema <;> simp [Except.map]
  · obtain ⟨-, t, ht, rfl⟩ := validator_compile_eq_ok_iff.mp h
    refine ⟨_, compiled.trans (congrArg (Except.map _) h), rfl, rfl, ?_, fun v => ?_⟩
    · change t.check false _ = ((t.check false _).map id (Rule.measuring true)).map id _
      rw [t.map_measuring_check, t.map_measuring_check]
    · have wide := t.map_measuring_check false true (Validator.pathOf narrow given)
      change Widens schema v _ ⟨_, _, (t.check false (Validator.pathOf narrow given)).map id _⟩
      rw [wide]
      exact widens_of_states ht v _ _ _

/-- Numbers up to three. -/
def threeSchema : Value :=
  .object .plain [(.plain "type", .plain "number"), (.plain "maximum", .integer 3)]

/-- The validator for them. -/
def three (path : String) (allowReal : Bool) : Validator :=
  ⟨path, { rootPath := path, realNumberBounds := allowReal },
    .all path [.leaf path (.type .number), .leaf path (.bound ⟨.upper, 3, false, allowReal⟩)]⟩

/-- A text is refused twice either way, the second time in other words; a half
passes only where bounds measure it. -/
theorem bounds_widen_half :
    ∃ strict wide, Validator.compile { rootPath := "x" } none threeSchema = .ok strict ∧
      Validator.compile { rootPath := "x", realNumberBounds := true } none threeSchema = .ok wide ∧
      strict.issues (.plain "3") = [⟨"x", .notOfType .number⟩, ⟨"x", .notOfType .integer⟩] ∧
      wide.issues (.plain "3") = [⟨"x", .notOfType .number⟩, ⟨"x", .notOfType .number⟩] ∧
      (strict.verdict (.quantity (.ratio (1 / 2)))).isValid ≠
        (wide.verdict (.quantity (.ratio (1 / 2)))).isValid ∧
      textAt threeSchema "type" = some "number" := by
  have compiled : Validator.compile { rootPath := "x" } none threeSchema =
      .ok (three "x" false) := by
    decide +kernel
  obtain ⟨wide, h, -, check, -, widens⟩ :=
    (bounds_widen { rootPath := "x" } none threeSchema).2 (three "x" false) compiled
  have refused := (widens (.plain "3")).reworded (by decide)
  have differ : ((three "x" false).verdict (.quantity (.ratio (1 / 2)))).isValid ≠
      (wide.verdict (.quantity (.ratio (1 / 2)))).isValid := by
    change _ ≠ wide.check.isValid _
    rw [check]
    decide +kernel
  have typed := ((widens (.quantity (.ratio (1 / 2)))).differs differ).2.1
  exact ⟨three "x" false, wide, compiled, h, refused.1.trans (by decide +kernel),
    refused.2.trans (by decide +kernel), differ, typed⟩

end Schema

end Conformance
