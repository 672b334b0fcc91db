import Conformance.Proofs.Exact
import Conformance.Proofs.Terms
import Mathlib.Data.List.ReduceOption

/-!
# Objections — what a schema holds against a value

Validating means two things in a row: a schema becomes a tree of rules, and
the tree finds issues. `objections` says in one step what comes of it. It
goes through the keywords as the schema binds them and asks each what it
holds against the value, in words; bounds compare exactly, on the extended
line. `issues_eq_objections` says that the issues of a compiled schema are
these objections, in this order, each at the path of the validator.
-/


namespace Conformance

namespace Schema

/-! ## The objections of each keyword -/

/-- The wording for a value that is not of a type. -/
def notA (type : String) : String :=
  (if type ∈ ["integer", "array", "object"] then "Not an " else "Not a ") ++ type

/-- A type holds the values of the kind of its name, and a number may be an
integer as well. -/
def typeObjection (type : String) (v : Value) : Option String :=
  if v.kind.name = type ∨ type = "number" ∧ v.kind = .integer then none else some (notA type)

/-- A divisor takes integers that are not negative, and of them those it
divides. Zero divides nothing but itself. -/
def divisorObjection (m : Int) : Value → Option String
  | .integer n =>
    if n < 0 then some "Not a positive integer"
    else if m ∣ n then none
    else some ("Integer is not multiple of " ++ toString m)
  | _ => some "Not a positive integer"

/-- A bound takes integers, or real numbers where it is allowed to, and of
them those whose point it holds. What is no number has no point. -/
def boundObjection (b : Bound) (v : Value) : Option String :=
  if v.kind = .integer ∨ b.allowReal = true ∧ v.kind = .number then
    if v.extended?.any (fun x => b.holds x) then none
    else some ("Number is more than " ++ toString b.limit)
  else some (notA (if b.allowReal then "number" else "integer"))

/-- A least length is asked of texts only. -/
def shortObjection (n : Int) : Value → Option String
  | .text _ s =>
    if (s.length : Int) < n then some ("String is shorter than " ++ toString n ++ " characters")
    else none
  | _ => none

/-- And so is a greatest length. -/
def longObjection (n : Int) : Value → Option String
  | .text _ s =>
    if n < (s.length : Int) then some ("String is longer than " ++ toString n ++ " characters")
    else none
  | _ => none

/-! ## The objections of a schema -/

/-- The text a name is bound to. -/
def textAt (schema : Value) (name : String) : Option String :=
  (schema.binding? name).bind Value.native?

/-- The integer a name is bound to. -/
def integerAt (schema : Value) (name : String) : Option Int :=
  (schema.binding? name).bind Value.integer?

/-- Whether a name is bound to `true`. -/
def flagAt (schema : Value) (name : String) : Bool :=
  ((schema.binding? name).bind Value.boolean?).getD false

/-- What a schema holds against a value, keyword by keyword. -/
def objections (allowReal : Bool) (schema v : Value) : List String :=
  List.reduceOption
    [(textAt schema "type").bind (typeObjection · v),
      (integerAt schema "multipleOf").bind (divisorObjection · v),
      (integerAt schema "maximum").bind fun limit =>
        boundObjection ⟨.upper, limit, flagAt schema "exclusiveMaximum", allowReal⟩ v,
      (integerAt schema "minimum").bind fun limit =>
        boundObjection ⟨.lower, limit, flagAt schema "exclusiveMinimum", allowReal⟩ v,
      (integerAt schema "minLength").bind (shortObjection · v),
      (integerAt schema "maxLength").bind (longObjection · v)]

/-! ## Rules object as their keywords do -/

theorem accepts_iff {t : TypeName} {kind : Kind} :
    t.accepts kind = true ↔ kind.name = t.name ∨ t.name = "number" ∧ kind = .integer := by
  cases t <;> cases kind <;> decide

theorem text_notOfType (t : TypeName) : (Reason.notOfType t).text = notA t.name := by
  cases t <;> decide

theorem type_objects (t : TypeName) (v : Value) :
    ((Rule.type t).failure? v).map Reason.text = typeObjection t.name v := by
  rw [Rule.failure?, typeObjection]
  by_cases h : t.accepts v.kind = true
  · rw [if_pos h, if_pos (accepts_iff.mp h)]
    rfl
  · rw [if_neg h, if_neg fun named => h (accepts_iff.mpr named), ← text_notOfType]
    rfl

theorem multipleOf_objects (m : Int) (v : Value) :
    ((Rule.multipleOf m).failure? v).map Reason.text = divisorObjection m v := by
  cases v with
  | integer n =>
    cases n with
    | ofNat n =>
      have : ¬ (n : Int) < 0 := by omega
      simp only [Rule.failure?, Value.natural?, divisorObjection, Int.ofNat_eq_natCast, if_neg this]
      split <;> rfl
    | negSucc n =>
      simp only [Rule.failure?, Value.natural?, divisorObjection, if_pos (Int.negSucc_lt_zero n)]
      rfl
  | _ => rfl

theorem bound_objects (b : Bound) (v : Value) :
    ((Rule.bound b).failure? v).map Reason.text = boundObjection b v := by
  -- what the kind lets through is decided on the line, and so exactly
  rw [Rule.failure?, boundObjection, b.any_admits]
  by_cases h : b.asks.accepts v.kind = true
  · rw [if_pos h, if_pos (Bound.asks_accepts_iff.mp h)]
    split <;> rfl
  · rw [if_neg h, if_neg fun kinds => h (Bound.asks_accepts_iff.mpr kinds)]
    have : b.asks.name = if b.allowReal then "number" else "integer" := by
      unfold Bound.asks
      cases b.allowReal <;> rfl
    rw [← this, ← text_notOfType]
    rfl

theorem minLength_objects (n : Int) (v : Value) :
    ((Rule.minLength n).failure? v).map Reason.text = shortObjection n v := by
  cases v with
  | text form s =>
    simp only [Rule.failure?, Value.length?, Option.bind_eq_bind, Option.bind_some, Option.pure_def,
      Option.any_some, shortObjection, decide_eq_true_eq]
    split <;> rfl
  | _ => rfl

theorem maxLength_objects (n : Int) (v : Value) :
    ((Rule.maxLength n).failure? v).map Reason.text = longObjection n v := by
  cases v with
  | text form s =>
    simp only [Rule.failure?, Value.length?, Option.bind_eq_bind, Option.bind_some, Option.pure_def,
      Option.any_some, longObjection, decide_eq_true_eq]
    split <;> rfl
  | _ => rfl

/-! ## A compiled schema objects as its keywords do -/

/-- A list of objections, with the first of them taken out. -/
theorem reduceOption_cons {α : Type} (o : Option α) (rest : List (Option α)) :
    (o :: rest).reduceOption = o.toList ++ rest.reduceOption := by
  cases o <;> rfl

/-- A rule that may be missing fails as far as it is there. -/
theorem filterMap_toList {α β γ : Type} (o : Option α) (f : α → β) (g : β → Option γ) :
    (o.map f).toList.filterMap g = (o.bind fun a => g (f a)).toList := by
  cases o with
  | none => rfl
  | some a => cases h : g (f a) <;> simp [h]

/-- The rules of some terms object one after another. -/
theorem rules_object (allowReal : Bool) (t : Terms) (v : Value) :
    ((t.rules allowReal).filterMap (Rule.failure? v)).map Reason.text =
      List.reduceOption
        [typeObjection t.type.name v,
          t.multipleOf.bind fun m : Nat => divisorObjection m v,
          t.maximum.bind fun l => boundObjection (l.bound allowReal .upper) v,
          t.minimum.bind fun l => boundObjection (l.bound allowReal .lower) v,
          t.minLength.bind fun n : Nat => shortObjection n v,
          t.maxLength.bind fun n : Nat => longObjection n v] := by
  rw [List.map_filterMap, Terms.rules, Terms.constraints]
  have type : [Rule.type t.type].filterMap (fun r => (r.failure? v).map Reason.text) =
      (typeObjection t.type.name v).toList := by
    rw [← type_objects]
    exact filterMap_toList (some t.type) Rule.type _
  rw [← List.singleton_append, List.filterMap_append, type]
  simp only [List.filterMap_append, filterMap_toList, reduceOption_cons, multipleOf_objects,
    bound_objects, minLength_objects, maxLength_objects, List.reduceOption_nil, List.append_nil]

/-- A natural number that is stated is read as an integer. -/
theorem bind_integer?_of_natural {α : Type} {x : Option Value} {o : Option Nat}
    (h : x = o.map fun n : Nat => .integer n) (f : Int → Option α) :
    (x.bind Value.integer?).bind f = o.bind fun n : Nat => f n := by
  rw [h]
  cases o <;> rfl

/-- A limit that is stated is read off its bound and its flag. -/
theorem StatesLimit.bind_integer? {α : Type} {x flag : Option Value} {o : Option Limit}
    (h : StatesLimit x flag o) (f : Int → Bool → Option α) :
    ((x.bind Value.integer?).bind fun n => f n ((flag.bind Value.boolean?).getD false)) =
      o.bind fun l => f l.value l.exclusive := by
  cases h <;> rfl

/-- A schema that states some terms objects as they do. -/
theorem objections_of_states {allowReal : Bool} {schema : Value} {t : Terms}
    (h : States (reading schema) t) (v : Value) :
    objections allowReal schema v =
      ((t.rules allowReal).filterMap (Rule.failure? v)).map Reason.text := by
  have type : textAt schema "type" = some t.type.name := h.type
  have multipleOf : (integerAt schema "multipleOf").bind (divisorObjection · v) =
      t.multipleOf.bind fun m : Nat => divisorObjection m v :=
    bind_integer?_of_natural h.multipleOf _
  have maximum : ((integerAt schema "maximum").bind fun limit =>
        boundObjection ⟨.upper, limit, flagAt schema "exclusiveMaximum", allowReal⟩ v) =
      t.maximum.bind fun l => boundObjection (l.bound allowReal .upper) v :=
    h.maximum.bind_integer? fun n b => boundObjection ⟨.upper, n, b, allowReal⟩ v
  have minimum : ((integerAt schema "minimum").bind fun limit =>
        boundObjection ⟨.lower, limit, flagAt schema "exclusiveMinimum", allowReal⟩ v) =
      t.minimum.bind fun l => boundObjection (l.bound allowReal .lower) v :=
    h.minimum.bind_integer? fun n b => boundObjection ⟨.lower, n, b, allowReal⟩ v
  have minLength : (integerAt schema "minLength").bind (shortObjection · v) =
      t.minLength.bind fun n : Nat => shortObjection n v :=
    bind_integer?_of_natural h.minLength _
  have maxLength : (integerAt schema "maxLength").bind (longObjection · v) =
      t.maxLength.bind fun n : Nat => longObjection n v :=
    bind_integer?_of_natural h.maxLength _
  rw [rules_object, objections, type, multipleOf, maximum, minimum, minLength, maxLength,
    Option.bind_some]

/-- **The issues of a compiled schema are its objections**, in the order of
the keywords, and each is found at the path that the schema was given, or
at that of the settings. The value is valid when there are none. -/
theorem issues_eq_objections {settings : Settings} {given : Option String} {schema : Value}
    {c : Validator} (h : Validator.compile settings given schema = .ok c) (v : Value) :
    (c.issues v).map (fun issue => (issue.path, issue.reason.text)) =
        (objections settings.realNumberBounds schema v).map
          (Prod.mk (given.getD settings.rootPath)) ∧
      ((c.verdict v).isValid = true ↔ objections settings.realNumberBounds schema v = []) := by
  obtain ⟨-, t, ht, rfl⟩ := validator_compile_eq_ok_iff.mp h
  have found : Validator.issues v ⟨Validator.pathOf settings given, settings,
      t.check settings.realNumberBounds (Validator.pathOf settings given)⟩ =
      ((t.rules settings.realNumberBounds).filterMap (Rule.failure? v)).map
        (Issue.mk (given.getD settings.rootPath)) :=
    issues_assemble v _
  constructor
  · rw [found, objections_of_states ht, List.map_map, List.map_map]
    rfl
  · rw [objections_of_states ht, List.map_eq_nil_iff]
    refine (Check.verdict_isValid_iff v _).trans ?_
    change Validator.issues v _ = [] ↔ _
    rw [found, List.map_eq_nil_iff]

/-- A number below an exclusive maximum of `10`, not below `10`, and a
multiple of zero. -/
def strictSchema : Value :=
  .object .plain [(.plain "maximum", .integer 10), (.plain "type", .plain "number"),
    (.plain "exclusiveMaximum", .boolean true), (.plain "minimum", .integer 10),
    (.plain "maxLength", .null), (.plain "multipleOf", .integer 0)]

/-- The double `10` is of the type and above the minimum; it is no integer,
and it is not below the maximum. -/
theorem issues_eq_objections_strict :
    ∃ c, Validator.compile { realNumberBounds := true } (some "root.x") strictSchema = .ok c ∧
      (c.issues (.quantity (.binary (.finite false 5 1)))).map
          (fun issue => (issue.path, issue.reason.text)) =
        [("root.x", "Not a positive integer"), ("root.x", "Number is more than 10")] := by
  obtain ⟨c, hc⟩ : ∃ c, Validator.compile { realNumberBounds := true } (some "root.x")
      strictSchema = .ok c := ⟨_, rfl⟩
  exact ⟨c, hc, (issues_eq_objections hc _).1.trans (by decide +kernel)⟩

end Schema

end Conformance
