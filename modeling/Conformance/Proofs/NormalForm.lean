import Conformance.Proofs.Terms

/-!
# Normal forms — the checks that schemas compile to, and the schemas behind them

Compilation is one to one once a schema has nothing idle in it. The checks
it reaches are those in `NormalForm`: a type alone, or a type and behind it
some constraints in the order of the keywords, none of them twice.
`decompile` reads a schema back off such a check, and `normalise` takes out
of a schema what compilation does not see: names that are no keywords,
keywords bound to `null`, and flags without their bounds. The two meet in
`compile_decompile` and `decompile_of_compile`, and `normalForm_iff` is
what ties the form to the terms of a schema.
-/


namespace Conformance

/-! ## The form -/

namespace Rule

/-- The keyword a rule comes of. -/
def keyword : Rule → Keyword
  | .type _ => .type
  | .multipleOf _ => .multipleOf
  | .bound ⟨.upper, _, _, _⟩ => .maximum
  | .bound ⟨.lower, _, _, _⟩ => .minimum
  | .minLength _ => .minLength
  | .maxLength _ => .maxLength

/-- What compilation gives a rule: numbers that are not negative, and bounds
that measure what the settings say. -/
def IsProper (allowReal : Bool) : Rule → Prop
  | .type _ => True
  | .multipleOf m => 0 ≤ m
  | .bound b => b.allowReal = allowReal
  | .minLength n => 0 ≤ n
  | .maxLength n => 0 ≤ n

end Rule

namespace Schema

/-- The keywords that constraints come of, in their order. -/
def constraining : List Keyword := [.multipleOf, .maximum, .minimum, .minLength, .maxLength]

/-- The checks that schemas compile to: a type that stands alone, or a type
and a row of constraints that is not empty, in the order of their keywords
and none of them twice, all of it at one path. -/
inductive NormalForm (allowReal : Bool) (path : String) : Check → Prop
  | single (type : TypeName) : NormalForm allowReal path (.leaf path (.type type))
  | several (type : TypeName) {rules : List Rule} :
    rules ≠ [] → (rules.map Rule.keyword).Sublist constraining →
    (∀ rule ∈ rules, rule.IsProper allowReal) →
    NormalForm allowReal path (.all path ((.type type :: rules).map (.leaf path)))

variable {allowReal : Bool} {path : String}

/-- A row of rules in the order of some keywords begins with a rule of the
first of them, or has none. -/
theorem exists_of_sublist_cons {rules : List Rule} {k : Keyword} {rest : List Keyword}
    (h : (rules.map Rule.keyword).Sublist (k :: rest)) :
    ∃ (first : Option Rule) (more : List Rule), rules = first.toList ++ more ∧
      (∀ rule ∈ first, rule.keyword = k) ∧ (more.map Rule.keyword).Sublist rest := by
  cases rules with
  | nil => exact ⟨none, [], rfl, by simp, List.nil_sublist _⟩
  | cons rule more =>
    rw [List.map_cons] at h
    cases h with
    | cons _ h => exact ⟨none, rule :: more, rfl, by simp, h⟩
    | cons_cons _ h => exact ⟨some rule, more, rfl, by simp, h⟩

/-- A rule that may be missing is of some shape as far as it is there. -/
theorem exists_eq_map {α : Type} {o : Option Rule} {f : α → Rule}
    (h : ∀ rule ∈ o, ∃ a, f a = rule) : ∃ p : Option α, o = p.map f := by
  cases o with
  | none => exact ⟨none, rfl⟩
  | some rule =>
    obtain ⟨a, rfl⟩ := h rule rfl
    exact ⟨some a, rfl⟩

/-- A constraint that may be missing takes the place of its keyword. -/
theorem map_keyword_sublist {α : Type} (o : Option α) {f : α → Rule} {k : Keyword}
    (h : ∀ a, (f a).keyword = k) : ((o.map f).toList.map Rule.keyword).Sublist [k] := by
  cases o with
  | none => exact List.nil_sublist _
  | some a => simp [h]

theorem constraints_sublist (t : Terms) :
    ((t.constraints allowReal).map Rule.keyword).Sublist constraining := by
  have multipleOf : ((t.multipleOf.map fun m : Nat => Rule.multipleOf m).toList.map
      Rule.keyword).Sublist [.multipleOf] :=
    map_keyword_sublist _ fun _ => rfl
  have maximum : ((t.maximum.map fun l => Rule.bound (l.bound allowReal .upper)).toList.map
      Rule.keyword).Sublist [.maximum] :=
    map_keyword_sublist _ fun _ => rfl
  have minimum : ((t.minimum.map fun l => Rule.bound (l.bound allowReal .lower)).toList.map
      Rule.keyword).Sublist [.minimum] :=
    map_keyword_sublist _ fun _ => rfl
  have minLength : ((t.minLength.map fun n : Nat => Rule.minLength n).toList.map
      Rule.keyword).Sublist [.minLength] :=
    map_keyword_sublist _ fun _ => rfl
  have maxLength : ((t.maxLength.map fun n : Nat => Rule.maxLength n).toList.map
      Rule.keyword).Sublist [.maxLength] :=
    map_keyword_sublist _ fun _ => rfl
  rw [Terms.constraints]
  simp only [List.map_append]
  exact multipleOf.append (maximum.append (minimum.append (minLength.append maxLength)))

theorem constraints_proper (t : Terms) :
    ∀ rule ∈ t.constraints allowReal, rule.IsProper allowReal :=
  Terms.forall_mem_constraints.mpr ⟨fun m _ => Int.natCast_nonneg m, fun _ _ => rfl,
    fun _ _ => rfl, fun n _ => Int.natCast_nonneg n, fun n _ => Int.natCast_nonneg n⟩

/-- What a proper rule of each keyword looks like. -/
theorem exists_of_keyword {rule : Rule} (proper : rule.IsProper allowReal) :
    (rule.keyword = .multipleOf → ∃ m : Nat, Rule.multipleOf m = rule) ∧
      (rule.keyword = .maximum → ∃ l : Limit, Rule.bound (l.bound allowReal .upper) = rule) ∧
      (rule.keyword = .minimum → ∃ l : Limit, Rule.bound (l.bound allowReal .lower) = rule) ∧
      (rule.keyword = .minLength → ∃ n : Nat, Rule.minLength n = rule) ∧
      (rule.keyword = .maxLength → ∃ n : Nat, Rule.maxLength n = rule) := by
  cases rule with
  | type t => simp [Rule.keyword]
  | multipleOf m =>
    obtain ⟨n, rfl⟩ := Int.eq_ofNat_of_zero_le proper
    simp [Rule.keyword]
  | bound b =>
    obtain ⟨side, limit, exclusive, real⟩ := b
    obtain rfl : real = allowReal := proper
    cases side <;> simp only [Rule.keyword, reduceCtorEq, false_implies, true_implies, true_and,
      and_true] <;> exact ⟨⟨limit, exclusive⟩, rfl⟩
  | minLength n =>
    obtain ⟨n, rfl⟩ := Int.eq_ofNat_of_zero_le proper
    simp [Rule.keyword]
  | maxLength n =>
    obtain ⟨n, rfl⟩ := Int.eq_ofNat_of_zero_le proper
    simp [Rule.keyword]

/-- **Every row of proper rules in the order of the keywords is the row of
some terms.** The row is taken apart keyword by keyword. -/
theorem exists_constraints_eq {rules : List Rule} (type : TypeName)
    (order : (rules.map Rule.keyword).Sublist constraining)
    (proper : ∀ rule ∈ rules, rule.IsProper allowReal) :
    ∃ t : Terms, t.type = type ∧ t.constraints allowReal = rules := by
  obtain ⟨o₁, rules, rfl, k₁, order⟩ := exists_of_sublist_cons order
  obtain ⟨o₂, rules, rfl, k₂, order⟩ := exists_of_sublist_cons order
  obtain ⟨o₃, rules, rfl, k₃, order⟩ := exists_of_sublist_cons order
  obtain ⟨o₄, rules, rfl, k₄, order⟩ := exists_of_sublist_cons order
  obtain ⟨o₅, rules, rfl, k₅, order⟩ := exists_of_sublist_cons order
  obtain rfl : rules = [] := by simpa using order
  simp only [List.mem_append, Option.mem_toList] at proper
  have shape (rule : Rule) (h : _) := exists_of_keyword (proper rule h)
  obtain ⟨multipleOf, rfl⟩ := exists_eq_map fun rule h =>
    (shape rule (.inl h)).1 (k₁ rule h)
  obtain ⟨maximum, rfl⟩ := exists_eq_map fun rule h =>
    (shape rule (.inr (.inl h))).2.1 (k₂ rule h)
  obtain ⟨minimum, rfl⟩ := exists_eq_map fun rule h =>
    (shape rule (.inr (.inr (.inl h)))).2.2.1 (k₃ rule h)
  obtain ⟨minLength, rfl⟩ := exists_eq_map fun rule h =>
    (shape rule (.inr (.inr (.inr (.inl h))))).2.2.2.1 (k₄ rule h)
  obtain ⟨maxLength, rfl⟩ := exists_eq_map fun rule h =>
    (shape rule (.inr (.inr (.inr (.inr (.inl h)))))).2.2.2.2 (k₅ rule h)
  refine ⟨⟨type, multipleOf, maximum, minimum, minLength, maxLength⟩, rfl, ?_⟩
  rw [Terms.constraints, List.append_nil]

/-- **The checks in normal form are those of terms.** -/
theorem normalForm_iff {c : Check} :
    NormalForm allowReal path c ↔ ∃ t : Terms, t.check allowReal path = c := by
  constructor
  · rintro (⟨type⟩ | ⟨type, nonempty, order, proper⟩)
    · -- the type alone is the one row that no node is built for
      exact ⟨{ type }, rfl⟩
    · obtain ⟨t, rfl, rfl⟩ := exists_constraints_eq type order proper
      refine ⟨t, ?_⟩
      rw [Terms.check, Terms.rules]
      cases h : t.constraints allowReal with
      | nil => exact absurd h nonempty
      | cons rule more => rfl
  · rintro ⟨t, rfl⟩
    -- whether a node is built depends on there being a constraint
    rw [Terms.check, Terms.rules]
    cases h : t.constraints allowReal with
    | nil => exact .single t.type
    | cons rule more =>
      refine .several t.type (List.cons_ne_nil rule more) ?_ ?_
      · rw [← h]
        exact constraints_sublist t
      · rw [← h]
        exact constraints_proper t

/-! ## Reading a schema back -/

/-- A keyword, spelt out, and what it is bound to. -/
def entry (k : Keyword) (v : Value) : Value × Value := (.plain k.name, v)

/-- What a schema says in place of a rule. A bound says both its limit and
its flag. -/
def bindings : Rule → List (Value × Value)
  | .type t => [entry .type (.plain t.name)]
  | .multipleOf m => [entry .multipleOf (.integer m)]
  | .bound ⟨.upper, limit, exclusive, _⟩ =>
    [entry .maximum (.integer limit), entry .exclusiveMaximum (.boolean exclusive)]
  | .bound ⟨.lower, limit, exclusive, _⟩ =>
    [entry .minimum (.integer limit), entry .exclusiveMinimum (.boolean exclusive)]
  | .minLength n => [entry .minLength (.integer n)]
  | .maxLength n => [entry .maxLength (.integer n)]

/-- The schema that a check was compiled from, as far as the check shows it. -/
def decompile (c : Check) : Value :=
  .object .plain (c.leaves.flatMap fun l => bindings l.rule)

/-- The bindings of a reading to some keywords. -/
def entries (r : Reading) (ks : List Keyword) : List (Value × Value) :=
  ks.filterMap fun k => (r k).map (entry k)

/-- The schema of a reading, keywords in their order. -/
def ofReading (r : Reading) : Value := .object .plain (entries r Keyword.all)

/-- What compilation sees of a reading: the characters of the type, flags
only beside their bounds, and there also those that are `false` for want of
a binding. -/
def trim (r : Reading) : Reading
  | .type => ((r .type).bind Value.native?).map Value.plain
  | .exclusiveMaximum => (r .maximum).map fun _ => (r .exclusiveMaximum).getD (.boolean false)
  | .exclusiveMinimum => (r .minimum).map fun _ => (r .exclusiveMinimum).getD (.boolean false)
  | k => r k

/-- A schema without what compilation does not see. -/
def normalise (schema : Value) : Value := ofReading (trim (reading schema))

theorem entries_cons (r : Reading) (k : Keyword) (ks : List Keyword) :
    entries r (k :: ks) = ((r k).map (entry k)).toList ++ entries r ks := by
  unfold entries
  cases h : r k <;> simp [h]

/-- What the entries say of a keyword that is listed. One that is not bound
leaves no entry, listed or not. -/
theorem find?_entries {r : Reading} {k : Keyword} {ks : List Keyword} (h : r k = none ∨ k ∈ ks) :
    (entries r ks).find? (fun e => e.1.hasText k.name) = (r k).map (entry k) := by
  have named (j : Keyword) (v : Value) : (entry j v).1.hasText k.name = decide (j = k) := by
    by_cases hj : j = k
    · simp [entry, Value.plain, Value.hasText, hj]
    · have : j.name ≠ k.name := fun e => hj (Keyword.name_injective e)
      simp [entry, Value.plain, Value.hasText, hj, this]
  induction ks with
  | nil =>
    rw [h.resolve_right List.not_mem_nil]
    rfl
  | cons j rest ih =>
    rw [entries_cons, List.find?_append]
    by_cases hj : j = k
    · subst hj
      cases hk : r j with
      | none => simp [ih (.inl hk), hk]
      | some v => simp [named]
    · rw [ih (h.imp_right fun h => (List.mem_cons.mp h).resolve_left (Ne.symm hj))]
      cases r j <;> simp [named, hj]

/-- A schema of a reading reads so, if it binds nothing to `null`. -/
theorem reading_ofReading {r : Reading} (h : ∀ k, r k ≠ some .null) :
    reading (ofReading r) = r := by
  funext k
  have found : (ofReading r).get? k.name = r k := by
    rw [ofReading, Value.get?, find?_entries (.inr (Keyword.mem_all k))]
    cases r k <;> rfl
  rw [reading, Value.binding?, found]
  cases hk : r k with
  | none => rfl
  | some v =>
    have : v ≠ .null := fun e => h k (by rw [hk, e])
    cases v <;> simp_all

/-! ## The schema of some terms -/

end Schema

/-- What some terms read as, flags spelt out. -/
def Terms.reading (t : Terms) : Schema.Reading
  | .type => some (.plain t.type.name)
  | .multipleOf => t.multipleOf.map fun n : Nat => .integer n
  | .maximum => t.maximum.map fun l => .integer l.value
  | .exclusiveMaximum => t.maximum.map fun l => .boolean l.exclusive
  | .minimum => t.minimum.map fun l => .integer l.value
  | .exclusiveMinimum => t.minimum.map fun l => .boolean l.exclusive
  | .minLength => t.minLength.map fun n : Nat => .integer n
  | .maxLength => t.maxLength.map fun n : Nat => .integer n

namespace Schema

variable {allowReal : Bool} {path : String}

theorem states_reading (t : Terms) : States t.reading t := by
  have limit (o : Option Limit) :
      StatesLimit (o.map fun l => .integer l.value) (o.map fun l => .boolean l.exclusive) o := by
    cases o <;> constructor
  exact ⟨rfl, rfl, limit t.maximum, limit t.minimum, rfl, rfl⟩

theorem reading_ne_null (t : Terms) (k : Keyword) : t.reading k ≠ some .null := by
  cases k <;> simp [Terms.reading, Value.plain]

/-- What is left of a reading is what its terms read as. -/
theorem trim_eq_of_states {r : Reading} {t : Terms} (h : States r t) : trim r = t.reading := by
  have flagged {bound flag : Option Value} {o : Option Limit} (h : StatesLimit bound flag o) :
      bound = o.map (fun l => .integer l.value) ∧
        bound.map (fun _ => flag.getD (.boolean false)) = o.map fun l => .boolean l.exclusive := by
    cases h <;> exact ⟨rfl, rfl⟩
  funext k
  cases k with
  | type => rw [trim, h.type]; rfl
  | multipleOf => exact h.multipleOf
  | maximum => exact (flagged h.maximum).1
  | exclusiveMaximum => exact (flagged h.maximum).2
  | minimum => exact (flagged h.minimum).1
  | exclusiveMinimum => exact (flagged h.minimum).2
  | minLength => exact h.minLength
  | maxLength => exact h.maxLength

/-- The rules of some terms say what the terms read as. -/
theorem flatMap_bindings (t : Terms) :
    (t.rules allowReal).flatMap bindings = entries t.reading Keyword.all := by
  have natural (k : Keyword) (f : Int → Rule) (hf : ∀ n, bindings (f n) = [entry k (.integer n)])
      (o : Option Nat) : (o.map fun n : Nat => f n).toList.flatMap bindings =
        ((o.map fun n : Nat => Value.integer n).map (entry k)).toList := by
    cases o <;> simp [hf]
  have upper (o : Option Limit) :
      (o.map fun l => Rule.bound (l.bound allowReal .upper)).toList.flatMap bindings =
        ((o.map fun l => Value.integer l.value).map (entry .maximum)).toList ++
          ((o.map fun l => Value.boolean l.exclusive).map (entry .exclusiveMaximum)).toList := by
    cases o <;> rfl
  have lower (o : Option Limit) :
      (o.map fun l => Rule.bound (l.bound allowReal .lower)).toList.flatMap bindings =
        ((o.map fun l => Value.integer l.value).map (entry .minimum)).toList ++
          ((o.map fun l => Value.boolean l.exclusive).map (entry .exclusiveMinimum)).toList := by
    cases o <;> rfl
  rw [Terms.rules, Terms.constraints, List.flatMap_cons, List.flatMap_append, List.flatMap_append,
    List.flatMap_append, List.flatMap_append, natural .multipleOf _ fun _ => rfl, upper, lower,
    natural .minLength _ fun _ => rfl, natural .maxLength _ fun _ => rfl]
  have last : entries t.reading [] = [] := rfl
  simp only [Keyword.all, entries_cons, last, List.append_assoc, List.append_nil]
  rfl

theorem decompile_check (t : Terms) : decompile (t.check allowReal path) = ofReading t.reading := by
  rw [decompile, Terms.check, leaves_assemble, List.flatMap_map, ofReading, flatMap_bindings]

/-- The schema of some terms compiles to their check. -/
theorem compile_ofReading (t : Terms) :
    compile allowReal path (ofReading t.reading) = .ok (t.check allowReal path) := by
  refine compile_eq_ok_iff.mpr ⟨rfl, t, ?_, rfl⟩
  rw [reading_ofReading (reading_ne_null t)]
  exact states_reading t

/-! ## Round trips -/

theorem compile_decompile {c : Check} (h : NormalForm allowReal path c) :
    compile allowReal path (decompile c) = .ok c := by
  obtain ⟨t, rfl⟩ := normalForm_iff.mp h
  rw [decompile_check, compile_ofReading]

theorem decompile_of_compile {schema : Value} {c : Check}
    (h : compile allowReal path schema = .ok c) : decompile c = normalise schema := by
  obtain ⟨-, t, ht, rfl⟩ := compile_eq_ok_iff.mp h
  rw [decompile_check, normalise, trim_eq_of_states ht]

/-- What a check shows of its schema is what compilation saw of it. -/
theorem reading_decompile {schema : Value} {c : Check}
    (h : compile allowReal path schema = .ok c) :
    reading (decompile c) = trim (reading schema) := by
  obtain ⟨-, t, ht, rfl⟩ := compile_eq_ok_iff.mp h
  rw [decompile_check, reading_ofReading (reading_ne_null t), trim_eq_of_states ht]

theorem normalForm_of_compile {schema : Value} {c : Check}
    (h : compile allowReal path schema = .ok c) : NormalForm allowReal path c := by
  obtain ⟨-, t, -, rfl⟩ := compile_eq_ok_iff.mp h
  exact normalForm_iff.mpr ⟨t, rfl⟩

/-- An inner node has a type and a constraint below it at least, and below
it there are leaves only. -/
theorem NormalForm.children {p : String} {children : List Check}
    (h : NormalForm allowReal path (.all p children)) :
    2 ≤ children.length ∧ ∀ child ∈ children, ∃ rule, child = .leaf path rule := by
  cases h with
  | several type nonempty order proper =>
    constructor
    · have := List.length_pos_iff.mpr nonempty
      rw [List.length_map, List.length_cons]
      omega
    · intro child h
      obtain ⟨rule, -, rfl⟩ := List.mem_map.mp h
      exact ⟨rule, rfl⟩

/-- **Compilation is one to one between the schemas with nothing idle in
them and the checks in normal form.** These are the checks it reaches;
reading a check back and compiling it again changes nothing; a schema comes
back without what compilation does not see; and two schemas compile to one
check when they differ in nothing else. -/
theorem compile_one_to_one (allowReal : Bool) (path : String) :
    (∀ c, NormalForm allowReal path c ↔ ∃ schema, compile allowReal path schema = .ok c) ∧
      (∀ c, NormalForm allowReal path c →
        compile allowReal path (decompile c) = .ok c ∧ normalise (decompile c) = decompile c) ∧
      (∀ schema c, compile allowReal path schema = .ok c →
        decompile c = normalise schema ∧ reading (decompile c) = trim (reading schema) ∧
          compile allowReal path (normalise schema) = .ok c) ∧
      (∀ s₁ s₂ c₁ c₂, compile allowReal path s₁ = .ok c₁ → compile allowReal path s₂ = .ok c₂ →
        (c₁ = c₂ ↔ normalise s₁ = normalise s₂)) ∧
      ∀ p children, NormalForm allowReal path (.all p children) →
        2 ≤ children.length ∧ ∀ child ∈ children, ∃ rule, child = .leaf path rule := by
  refine ⟨fun c => ⟨fun h => ⟨_, compile_decompile h⟩, ?_⟩, fun c h => ?_, fun schema c h => ?_,
    fun s₁ s₂ c₁ c₂ h₁ h₂ => ?_, fun p children h => h.children⟩
  · rintro ⟨schema, h⟩
    exact normalForm_of_compile h
  · have back := compile_decompile h
    exact ⟨back, (decompile_of_compile back).symm⟩
  · have back := decompile_of_compile h
    refine ⟨back, reading_decompile h, ?_⟩
    rw [← back]
    exact compile_decompile (normalForm_of_compile h)
  · rw [← decompile_of_compile h₁, ← decompile_of_compile h₂]
    constructor
    · rintro rfl
      rfl
    · intro same
      have first := compile_decompile (normalForm_of_compile h₁)
      rw [same, compile_decompile (normalForm_of_compile h₂)] at first
      exact (Except.ok.inj first).symm

/-- Most of this schema is idle: a name that is no keyword, a keyword bound to
`null`, and a flag without its bound. Its one bound comes without a flag. -/
def idleSchema : Value :=
  .object .ordered [(.plain "title", .plain "size"), (.plain "maxLength", .null),
    (.plain "exclusiveMaximum", .boolean true), (.plain "minimum", .integer 1),
    (.text (.derived "Word") "type", .text (.derived "Word") "integer")]

/-- The type and the bound come back, and the flag of the bound with it. -/
theorem compile_one_to_one_idle :
    ∃ c, compile false "root" idleSchema = .ok c ∧
      decompile c = .object .plain [(.plain "type", .plain "integer"),
        (.plain "minimum", .integer 1), (.plain "exclusiveMinimum", .boolean false)] := by
  obtain ⟨c, hc⟩ : ∃ c, compile false "root" idleSchema = .ok c := ⟨_, rfl⟩
  exact ⟨c, hc, ((compile_one_to_one false "root").2.2.1 _ _ hc).1.trans rfl⟩

end Schema

end Conformance
