import Conformance.Validator

/-!
# Terms — what a sound schema asks for

A schema is sound when each keyword is bound to a value of its sort or not
bound at all. `Terms` is what is left of it then: the type, and for each
constraint its parameters. `Schema.terms?` reads every keyword once, in
the order of the table, and `rules_all` says that compilation is that
reading followed by `Terms.rules`, although the table comes to a flag
twice. `Schema.States` is the same reading as a relation, and
`compile_eq_ok_iff` is what success means: the schema states some terms,
and the check is theirs.
-/


namespace Conformance

/-- A step that succeeds, and the steps behind it. -/
theorem bind_eq_ok_iff {ε α β : Type} {x : Except ε α} {f : α → Except ε β} {b : β} :
    x >>= f = .ok b ↔ ∃ a, x = .ok a ∧ f a = .ok b := by
  cases x with
  | error fault => simp [bind, Except.bind]
  | ok a => simp [bind, Except.bind]

/-- A limit on numbers, and whether it is itself left out. -/
structure Limit where
  value : Int
  exclusive : Bool
deriving DecidableEq, Repr

namespace Limit

/-- The bound a limit sets on one side. -/
def bound (allowReal : Bool) (side : Side) (l : Limit) : Bound :=
  ⟨side, l.value, l.exclusive, allowReal⟩

end Limit

/-- What a sound schema asks for. -/
structure Terms where
  type : TypeName
  multipleOf : Option Nat := none
  maximum : Option Limit := none
  minimum : Option Limit := none
  minLength : Option Nat := none
  maxLength : Option Nat := none
deriving DecidableEq, Repr

namespace Terms

/-- The constraints behind the type, in the order of the keywords. -/
def constraints (allowReal : Bool) (t : Terms) : List Rule :=
  (t.multipleOf.map fun m : Nat => Rule.multipleOf m).toList ++
    ((t.maximum.map fun l => Rule.bound (l.bound allowReal .upper)).toList ++
      ((t.minimum.map fun l => Rule.bound (l.bound allowReal .lower)).toList ++
        ((t.minLength.map fun n : Nat => Rule.minLength n).toList ++
          (t.maxLength.map fun n : Nat => Rule.maxLength n).toList)))

/-- The rules of some terms: the type, and the constraints behind it. -/
def rules (allowReal : Bool) (t : Terms) : List Rule := .type t.type :: t.constraints allowReal

/-- What holds of all constraints holds of each that is stated. -/
theorem forall_mem_constraints {allowReal : Bool} {t : Terms} {P : Rule → Prop} :
    (∀ rule ∈ t.constraints allowReal, P rule) ↔
      (∀ m ∈ t.multipleOf, P (.multipleOf (m : Nat))) ∧
        (∀ l ∈ t.maximum, P (.bound (l.bound allowReal .upper))) ∧
        (∀ l ∈ t.minimum, P (.bound (l.bound allowReal .lower))) ∧
        (∀ n ∈ t.minLength, P (.minLength (n : Nat))) ∧
        ∀ n ∈ t.maxLength, P (.maxLength (n : Nat)) := by
  have row {α : Type} (o : Option α) (f : α → Rule) :
      (∀ rule ∈ (o.map f).toList, P rule) ↔ ∀ a ∈ o, P (f a) := by
    cases o <;> simp
  simp only [constraints, List.forall_mem_append, row]

/-- The check of some terms at a path. -/
def check (allowReal : Bool) (path : String) (t : Terms) : Check :=
  Schema.assemble path (t.rules allowReal)

end Terms

namespace Schema

variable {r : Reading} {k : Keyword} {allowReal : Bool} {path : String}

/-! ## Reading each keyword once -/

/-- The limit that a keyword and its flag set. The flag is read whether or
not the keyword is bound. -/
def limit? (r : Reading) (k flagged : Keyword) : Except Defect (Option Limit) := do
  let value ← integer? r k
  let exclusive ← flag r flagged
  return value.map fun n => ⟨n, exclusive⟩

/-- The terms of a reading, or its first defect. -/
def terms? (r : Reading) : Except Defect Terms := do
  let type ← typeName r
  let multipleOf ← natural? r .multipleOf
  let maximum ← limit? r .maximum .exclusiveMaximum
  let minimum ← limit? r .minimum .exclusiveMinimum
  let minLength ← natural? r .minLength
  let maxLength ← natural? r .maxLength
  return { type, multipleOf, maximum, minimum, minLength, maxLength }

/-- The rules of a row of keywords, one keyword at a time. -/
theorem rules_cons (rest : List Keyword) :
    rules allowReal r (k :: rest) = do
      let rule ← rule? allowReal r k
      let more ← rules allowReal r rest
      return rule.toList ++ more := by
  rw [rules]
  cases rule? allowReal r k with
  | error defect => rfl
  | ok rule =>
    cases rule with
    | none => cases rules allowReal r rest <;> simp [bind, Except.bind, pure, Except.pure]
    | some rule =>
      cases rules allowReal r rest <;> simp [bind, Except.bind, pure, Except.pure, Except.map]

/-- A bound and its flag in the row behind it are one limit: a flag that is
read twice is read once. -/
theorem bound?_bind_flag {α : Type} (side : Side) (flagged : Keyword)
    (next : Option Bound → Except Defect α) :
    (bound? allowReal r side k flagged >>= fun b => flag r flagged >>= fun _ => next b) =
      limit? r k flagged >>= fun l => next (l.map (Limit.bound allowReal side)) := by
  unfold bound? limit?
  cases integer? r k with
  | error defect => rfl
  | ok value =>
    -- where the first reading of the flag succeeds, so does the second
    cases value <;> cases flag r flagged <;>
      simp [bind, Except.bind, pure, Except.pure, Limit.bound]

/-- A result that is changed first and passed on then. -/
theorem map_bind {α β γ : Type} (x : Except Defect α) (f : α → β) (g : β → Except Defect γ) :
    (x.map f >>= g) = x >>= fun a => g (f a) := by
  cases x <;> rfl

/-- **Compilation reads each keyword once**, and rules come of what it
reads. -/
theorem rules_all (allowReal : Bool) (r : Reading) :
    rules allowReal r Keyword.all = (terms? r).map (Terms.rules allowReal) := by
  have made (x : Except Defect Terms) : x.map (Terms.rules allowReal) =
      x >>= fun t => pure (Terms.rules allowReal t) := by
    cases x <;> rfl
  have widened (x : Option Nat) (f : Int → Rule) :
      ((do let n ← x; pure (n : Int)) : Option Int).map f = x.map fun n : Nat => f n := by
    cases x <;> rfl
  have last : rules allowReal r [] = pure [] := rfl
  rw [made, terms?]
  simp only [Keyword.all, rules_cons, rule?, map_bind, bind_assoc, pure_bind, bound?_bind_flag,
    widened, last, Option.map_map, Function.comp_def, Option.toList_none, Option.toList_some,
    List.nil_append, List.append_nil, List.singleton_append, Terms.rules, Terms.constraints]

/-! ## What a sound reading states -/

/-- What a bound and its flag say together. A flag without its bound says
nothing, and a bound without its flag is not exclusive. -/
inductive StatesLimit : Option Value → Option Value → Option Limit → Prop
  | none : StatesLimit none none none
  | orphan (b : Bool) : StatesLimit none (some (.boolean b)) none
  | plain (n : Int) : StatesLimit (some (.integer n)) none (some ⟨n, false⟩)
  | flagged (n : Int) (b : Bool) :
    StatesLimit (some (.integer n)) (some (.boolean b)) (some ⟨n, b⟩)

/-- A reading states some terms: every keyword is bound to what they say. -/
structure States (r : Reading) (t : Terms) : Prop where
  type : (r .type).bind Value.native? = some t.type.name
  multipleOf : r .multipleOf = t.multipleOf.map fun n : Nat => .integer n
  maximum : StatesLimit (r .maximum) (r .exclusiveMaximum) t.maximum
  minimum : StatesLimit (r .minimum) (r .exclusiveMinimum) t.minimum
  minLength : r .minLength = t.minLength.map fun n : Nat => .integer n
  maxLength : r .maxLength = t.maxLength.map fun n : Nat => .integer n

theorem typeName_eq_ok_iff {t : TypeName} :
    typeName r = .ok t ↔ (r .type).bind Value.native? = some t.name := by
  unfold typeName
  cases (r .type).bind Value.native? with
  | none => simp
  | some text =>
    constructor
    · intro h
      cases ht : TypeName.ofName? text with
      | none => simp [ht] at h
      | some u =>
        obtain rfl : u = t := by simpa [ht] using h
        rw [TypeName.name_of_ofName? ht]
    · intro h
      obtain rfl : text = t.name := by simpa using h
      simp

theorem natural?_eq_ok_iff {o : Option Nat} :
    natural? r k = .ok o ↔ r k = o.map fun n : Nat => .integer n := by
  unfold natural?
  cases r k with
  | none => cases o <;> simp
  | some v =>
    cases h : v.natural? with
    | none =>
      cases o with
      | none => simp [h]
      | some n =>
        have : v ≠ .integer n := fun e => by simp [Value.natural?_eq_some_iff.mpr e] at h
        simp [h, this]
    | some m =>
      obtain rfl := Value.natural?_eq_some_iff.mp h
      cases o with
      | none => simp [h]
      | some n =>
        simp only [h, Except.ok.injEq, Option.some.injEq, Option.map_some, Value.integer.injEq,
          Int.ofNat_inj]

theorem integer?_eq_ok_iff {o : Option Int} :
    integer? r k = .ok o ↔ r k = o.map Value.integer := by
  unfold integer?
  cases r k with
  | none => cases o <;> simp
  | some v => cases v <;> cases o <;> simp [Value.integer?]

theorem flag_eq_ok_iff {b : Bool} :
    flag r k = .ok b ↔ r k = none ∧ b = false ∨ r k = some (.boolean b) := by
  unfold flag
  cases r k with
  | none => simp [eq_comm]
  | some v => cases v <;> simp [Value.boolean?]

theorem limit?_eq_ok_iff {flagged : Keyword} {o : Option Limit} :
    limit? r k flagged = .ok o ↔ StatesLimit (r k) (r flagged) o := by
  simp only [limit?, bind_eq_ok_iff, integer?_eq_ok_iff, flag_eq_ok_iff]
  constructor
  · rintro ⟨value, hk, exclusive, hf, h⟩
    obtain rfl : value.map (fun n => Limit.mk n exclusive) = o := by
      simpa [pure, Except.pure] using h
    rw [hk]
    rcases hf with ⟨hf, rfl⟩ | hf <;> rw [hf] <;> cases value <;> constructor
  · generalize r k = value, r flagged = exclusive
    rintro (_ | b | n | ⟨n, b⟩)
    · exact ⟨none, rfl, false, .inl ⟨rfl, rfl⟩, rfl⟩
    · exact ⟨none, rfl, b, .inr rfl, rfl⟩
    · exact ⟨some n, rfl, false, .inl ⟨rfl, rfl⟩, rfl⟩
    · exact ⟨some n, rfl, b, .inr rfl, rfl⟩

/-- **Reading succeeds exactly on what states some terms**, and finds them. -/
theorem terms?_eq_ok_iff {t : Terms} : terms? r = .ok t ↔ States r t := by
  simp only [terms?, bind_eq_ok_iff, typeName_eq_ok_iff, natural?_eq_ok_iff, limit?_eq_ok_iff]
  constructor
  · rintro ⟨type, h1, multipleOf, h2, maximum, h3, minimum, h4, minLength, h5, maxLength, h6, h⟩
    obtain rfl := Except.ok.inj h
    exact ⟨h1, h2, h3, h4, h5, h6⟩
  · rintro ⟨h1, h2, h3, h4, h5, h6⟩
    exact ⟨_, h1, _, h2, _, h3, _, h4, _, h5, _, h6, rfl⟩

/-! ## Compilation -/

/-- Compiling a mapping is reading its terms and building their check. -/
theorem compile_eq {schema : Value} (h : schema.kind = .object) :
    compile allowReal path schema = (terms? (reading schema)).map (Terms.check allowReal path) := by
  rw [compile, if_pos h, rules_all]
  cases terms? (reading schema) <;> rfl

/-- **What compiles is a mapping that states some terms**, and it compiles
to their check. -/
theorem compile_eq_ok_iff {schema : Value} {c : Check} :
    compile allowReal path schema = .ok c ↔
      schema.kind = .object ∧ ∃ t, States (reading schema) t ∧ t.check allowReal path = c := by
  by_cases h : schema.kind = .object
  · rw [compile_eq h]
    simp only [h, true_and, ← terms?_eq_ok_iff]
    cases terms? (reading schema) <;> simp [Except.map]
  · simp [compile, h]

/-- A validator compiles to what its schema does, at the path given or that
of its settings. -/
theorem validator_compile_eq (settings : Settings) (given : Option String) (schema : Value) :
    Validator.compile settings given schema =
      match compile settings.realNumberBounds (Validator.pathOf settings given) schema with
      | .ok check => .ok ⟨Validator.pathOf settings given, settings, check⟩
      | .error defect => .error (.badSchema (Validator.pathOf settings given) defect) :=
  rfl

/-- The same of a validator. -/
theorem validator_compile_eq_ok_iff {settings : Settings} {given : Option String} {schema : Value}
    {c : Validator} :
    Validator.compile settings given schema = .ok c ↔
      schema.kind = .object ∧ ∃ t, States (reading schema) t ∧
        c = ⟨Validator.pathOf settings given, settings,
          t.check settings.realNumberBounds (Validator.pathOf settings given)⟩ := by
  rw [validator_compile_eq]
  constructor
  · intro h
    cases hc : compile settings.realNumberBounds (Validator.pathOf settings given) schema with
    | error defect => simp [hc] at h
    | ok check =>
      obtain ⟨mapping, t, ht, rfl⟩ := compile_eq_ok_iff.mp hc
      exact ⟨mapping, t, ht, by simpa [hc, eq_comm] using h⟩
  · rintro ⟨mapping, t, ht, rfl⟩
    rw [compile_eq_ok_iff.mpr ⟨mapping, t, ht, rfl⟩]

/-! ## The issues of a check -/

/-- The issues of a row of rules at one path are their failures, in order. -/
theorem issues_assemble (v : Value) (rs : List Rule) :
    (assemble path rs).issues v = (rs.filterMap (Rule.failure? v)).map (Issue.mk path) := by
  rw [Check.issues_eq_filterMap_leaves, leaves_assemble, List.filterMap_map, List.map_filterMap]
  rfl

/-- A value passes the check of some terms when no rule of theirs fails. -/
theorem isValid_check_iff (t : Terms) (v : Value) :
    (t.check allowReal path).isValid v = true ↔
      ∀ rule ∈ t.rules allowReal, rule.failure? v = none := by
  rw [Check.isValid_iff, Terms.check, issues_assemble, List.map_eq_nil_iff,
    List.filterMap_eq_nil_iff]

end Schema

end Conformance
