import Conformance.Proofs.Objections

/-!
# Draft 4 — the other reading of a schema

In Draft 4 a keyword constrains the values of its own kind and passes all
others: a maximum asks nothing of a text, and a multiple may be negative.
Here a bound refuses what it cannot measure, and only what is not negative
is a multiple. `DraftFour.Valid` writes the first reading down, over JSON
alone. `DraftFour.Overlap` holds of the schemas on which the two can be
told to agree: where the type already refuses what a bound would, and a
minimum what a divisor would. There `isValid_iff_valid` is an
equivalence for every JSON value.
-/


namespace Conformance

/-! ## JSON -/

/-- A JSON value. Integers have any size, and other numbers are doubles. -/
inductive Json where
  | null
  | boolean (b : Bool)
  | integer (n : Int)
  /-- The number `m · 2 ^ q`, or its negative. -/
  | float (negative : Bool) (m : Nat) (q : Int)
  | string (s : String)
  | array (items : List Json)
  | object (members : List (String × Json))

namespace Json

mutual

/-- What a JSON value is decoded into. -/
def decoded : Json → Value
  | .null => .null
  | .boolean b => .boolean b
  | .integer n => .integer n
  | .float negative m q => .quantity (.binary (.finite negative m q))
  | .string s => .plain s
  | .array items => .array .list (decodedItems items)
  | .object members => .object .plain (decodedMembers members)

/-- What the items of an array are decoded into. -/
def decodedItems : List Json → List Value
  | [] => []
  | j :: rest => decoded j :: decodedItems rest

/-- What the members of an object are decoded into. -/
def decodedMembers : List (String × Json) → List (Value × Value)
  | [] => []
  | (name, j) :: rest => (.plain name, decoded j) :: decodedMembers rest

end

/-- The number a JSON value is. -/
def number? : Json → Option ℚ
  | .integer n => some n
  | .float negative m q => some (withSign negative (m * 2 ^ q))
  | _ => none

/-- The text a JSON value is. -/
def string? : Json → Option String
  | .string s => some s
  | _ => none

/-- A number is decoded exactly. -/
theorem extended?_decoded (j : Json) : j.decoded.extended? = j.number?.map .rational := by
  cases j with
  | float negative m q => rfl
  | integer n => rfl
  | _ => simp only [decoded, number?]; rfl

end Json

namespace DraftFour

open Schema

/-! ## The reading -/

/-- Whether a JSON value has the type of a name. -/
def HasType (name : String) : Json → Prop
  | .null => name = "null"
  | .boolean _ => name = "boolean"
  | .integer _ => name = "integer" ∨ name = "number"
  | .float .. => name = "number"
  | .string _ => name = "string"
  | .array _ => name = "array"
  | .object _ => name = "object"

/-- A number has to be a multiple, negative ones among them. -/
def IsMultipleOf (m : Int) (j : Json) : Prop := ∀ x ∈ j.number?, ∃ k : ℤ, x = k * m

/-- A number has to be below a limit, or at one that is not exclusive. -/
def IsAtMost (limit : Int) (exclusive : Prop) (j : Json) : Prop :=
  ∀ x ∈ j.number?, x < limit ∨ x = limit ∧ ¬ exclusive

/-- A number has to be above a limit, or at one that is not exclusive. -/
def IsAtLeast (limit : Int) (exclusive : Prop) (j : Json) : Prop :=
  ∀ x ∈ j.number?, limit < x ∨ x = limit ∧ ¬ exclusive

/-- A text has to have so many characters. -/
def IsLong (n : Int) (j : Json) : Prop := ∀ s ∈ j.string?, n ≤ s.length

/-- A text may have so many characters. -/
def IsShort (n : Int) (j : Json) : Prop := ∀ s ∈ j.string?, s.length ≤ n

/-- A JSON value is valid where each keyword of the schema holds of it. -/
structure Valid (schema : Value) (j : Json) : Prop where
  type : ∀ form name, schema.get? "type" = some (.text form name) → HasType name j
  multipleOf : ∀ m, schema.get? "multipleOf" = some (.integer m) → IsMultipleOf m j
  maximum : ∀ limit, schema.get? "maximum" = some (.integer limit) →
    IsAtMost limit (schema.get? "exclusiveMaximum" = some (.boolean true)) j
  minimum : ∀ limit, schema.get? "minimum" = some (.integer limit) →
    IsAtLeast limit (schema.get? "exclusiveMinimum" = some (.boolean true)) j
  minLength : ∀ n, schema.get? "minLength" = some (.integer n) → IsLong n j
  maxLength : ∀ n, schema.get? "maxLength" = some (.integer n) → IsShort n j

/-! ## The overlap -/

/-- Whether a schema names a type. -/
def Names (schema : Value) (name : String) : Prop :=
  ∃ form, schema.get? "type" = some (.text form name)

/-- Whether the type of a schema refuses all that its bounds would. -/
def IsMeasured (allowReal : Bool) (schema : Value) : Prop :=
  Names schema "integer" ∨ allowReal = true ∧ Names schema "number"

/-- The schemas on which the two readings agree. -/
structure Overlap (allowReal : Bool) (schema : Value) : Prop where
  noNull : ∀ k : Keyword, schema.get? k.name ≠ some .null
  maximum : schema.get? "maximum" ≠ none → IsMeasured allowReal schema
  minimum : schema.get? "minimum" ≠ none → IsMeasured allowReal schema
  multipleOf : ∀ v, schema.get? "multipleOf" = some v →
    Names schema "integer" ∧ (∃ m : Int, v = .integer m ∧ 0 < m) ∧
      ∃ least : Int, schema.get? "minimum" = some (.integer least) ∧ 0 ≤ least

variable {allowReal : Bool} {schema : Value} {t : Terms} {j : Json}

/-! ## Both readings of sound terms -/

/-- What a schema binds its keywords to, `null` included. -/
def lookup (schema : Value) : Reading := fun k => schema.get? k.name

/-- Where nothing is bound to `null`, reading is looking a keyword up. -/
theorem reading_eq_lookup (h : ∀ k : Keyword, schema.get? k.name ≠ some .null) :
    reading schema = lookup schema := by
  funext k
  rw [reading, Value.binding?, lookup]
  cases found : schema.get? k.name with
  | none => rfl
  | some v =>
    have : v ≠ .null := fun e => h k (by rw [found, e])
    cases v <;> first | rfl | exact absurd rfl this

/-- What is asked of an integer that is bound is asked of what is stated. -/
theorem forall_integer_iff {x : Option Value} {o : Option Nat}
    (h : x = o.map fun n : Nat => .integer n) {P : Int → Prop} :
    (∀ n, x = some (.integer n) → P n) ↔ ∀ n ∈ o, P (n : Nat) := by
  subst h
  cases o with
  | none => simp
  | some n => simp

/-- The same of a limit and its flag. -/
theorem forall_limit_iff {x flag : Option Value} {o : Option Limit}
    (h : StatesLimit x flag o) {P : Int → Prop → Prop} :
    (∀ n, x = some (.integer n) → P n (flag = some (.boolean true))) ↔
      ∀ l ∈ o, P l.value (l.exclusive = true) := by
  cases h <;> simp

/-- A schema names the type that its terms have. -/
theorem names_iff (h : States (lookup schema) t) {name : String} :
    Names schema name ↔ t.type.name = name := by
  have typed : (schema.get? "type").bind Value.native? = some t.type.name := h.type
  constructor
  · rintro ⟨form, named⟩
    rw [named] at typed
    cases form <;> simp_all [Value.native?]
  · rintro rfl
    obtain ⟨v, found, native⟩ := Option.bind_eq_some_iff.mp typed
    rw [Names, found]
    cases v with
    | text form s => cases form <;> simp_all [Value.native?]
    | _ => simp [Value.native?] at native

/-- What Draft 4 asks where a schema states some terms. -/
theorem valid_iff (h : States (lookup schema) t) :
    Valid schema j ↔ HasType t.type.name j ∧
      (∀ m ∈ t.multipleOf, IsMultipleOf (m : Nat) j) ∧
      (∀ l ∈ t.maximum, IsAtMost l.value (l.exclusive = true) j) ∧
      (∀ l ∈ t.minimum, IsAtLeast l.value (l.exclusive = true) j) ∧
      (∀ n ∈ t.minLength, IsLong (n : Nat) j) ∧
      ∀ n ∈ t.maxLength, IsShort (n : Nat) j := by
  have type : (∀ form name, schema.get? "type" = some (.text form name) → HasType name j) ↔
      HasType t.type.name j := by
    constructor
    · intro typed
      obtain ⟨form, named⟩ := (names_iff h).mpr rfl
      exact typed form _ named
    · intro typed form name named
      rwa [← (names_iff h).mp ⟨form, named⟩]
  rw [← type, ← forall_integer_iff h.multipleOf (P := fun m => IsMultipleOf m j),
    ← forall_limit_iff h.maximum (P := fun n e => IsAtMost n e j),
    ← forall_limit_iff h.minimum (P := fun n e => IsAtLeast n e j),
    ← forall_integer_iff h.minLength (P := fun n => IsLong n j),
    ← forall_integer_iff h.maxLength (P := fun n => IsShort n j)]
  constructor
  · rintro ⟨type, multipleOf, maximum, minimum, minLength, maxLength⟩
    exact ⟨type, multipleOf, maximum, minimum, minLength, maxLength⟩
  · rintro ⟨type, multipleOf, maximum, minimum, minLength, maxLength⟩
    exact ⟨type, multipleOf, maximum, minimum, minLength, maxLength⟩

/-! ## Rule by rule -/

theorem type_agrees (type : TypeName) :
    (Rule.type type).failure? j.decoded = none ↔ HasType type.name j := by
  have accepted : (Rule.type type).failure? j.decoded = none ↔
      type.accepts j.decoded.kind = true := by
    rw [Rule.failure?]
    split <;> simp_all
  rw [accepted, accepts_iff]
  cases j <;> simp [Json.decoded, Value.plain, Value.kind, Kind.name, HasType, eq_comm]

theorem minLength_agrees (n : Int) :
    (Rule.minLength n).failure? j.decoded = none ↔ IsLong n j := by
  rw [← Option.map_eq_none_iff (f := Reason.text), minLength_objects]
  cases j <;> simp [Json.decoded, Value.plain, shortObjection, IsLong, Json.string?]

theorem maxLength_agrees (n : Int) :
    (Rule.maxLength n).failure? j.decoded = none ↔ IsShort n j := by
  rw [← Option.map_eq_none_iff (f := Reason.text), maxLength_objects]
  cases j <;> simp [Json.decoded, Value.plain, longObjection, IsShort, Json.string?]

/-- A bound agrees on what it measures. -/
theorem bound_agrees {b : Bound} {x : ℚ} (hx : j.number? = some x)
    (asked : b.asks.accepts j.decoded.kind = true) :
    (Rule.bound b).failure? j.decoded = none ↔ b.holds (.rational x) := by
  rw [Rule.failure?, if_pos asked, b.any_admits, Json.extended?_decoded, hx]
  simp

theorem upper_agrees {l : Limit} {x : ℚ} (hx : j.number? = some x)
    (asked : (l.bound allowReal .upper).asks.accepts j.decoded.kind = true) :
    (Rule.bound (l.bound allowReal .upper)).failure? j.decoded = none ↔
      IsAtMost l.value (l.exclusive = true) j := by
  rw [bound_agrees hx asked, IsAtMost, hx]
  obtain ⟨value, exclusive⟩ := l
  cases exclusive <;> simp [Limit.bound, Bound.holds, le_iff_lt_or_eq]

theorem lower_agrees {l : Limit} {x : ℚ} (hx : j.number? = some x)
    (asked : (l.bound allowReal .lower).asks.accepts j.decoded.kind = true) :
    (Rule.bound (l.bound allowReal .lower)).failure? j.decoded = none ↔
      IsAtLeast l.value (l.exclusive = true) j := by
  rw [bound_agrees hx asked, IsAtLeast, hx]
  obtain ⟨value, exclusive⟩ := l
  cases exclusive <;> simp [Limit.bound, Bound.holds, le_iff_lt_or_eq, eq_comm]

/-- A divisor agrees on integers that are not negative. -/
theorem multipleOf_agrees {m : Int} {n : Int} (h : 0 ≤ n) :
    (Rule.multipleOf m).failure? (Json.integer n).decoded = none ↔ IsMultipleOf m (.integer n) := by
  rw [← Option.map_eq_none_iff (f := Reason.text), multipleOf_objects]
  simp only [Json.decoded, divisorObjection, if_neg (not_lt.mpr h), IsMultipleOf,
    Json.number?, Option.mem_some_iff, forall_eq']
  rw [show (if m ∣ n then none else _) = none ↔ m ∣ n by simp]
  constructor
  · rintro ⟨k, rfl⟩
    exact ⟨k, by push_cast; ring⟩
  · rintro ⟨k, hk⟩
    exact ⟨k, by exact_mod_cast hk.trans (mul_comm _ _)⟩

/-! ## Agreement -/

/-- A value of the type of a schema is a number that its bounds measure. -/
theorem measured (h : States (lookup schema) t) (typed : HasType t.type.name j)
    {x flag : Option Value} {o : Option Limit} (stated : StatesLimit x flag o)
    (bounded : x ≠ none → IsMeasured allowReal schema) {l : Limit} (hl : l ∈ o) :
    ∃ q, j.number? = some q ∧
      ∀ side, (l.bound allowReal side).asks.accepts j.decoded.kind = true := by
  have bound : x ≠ none := by
    rintro rfl
    cases stated <;> cases hl
  rcases bounded bound with named | ⟨rfl, named⟩
  · rw [(names_iff h).mp named] at typed
    cases j <;> simp only [HasType, String.reduceEq] at typed
    case integer n =>
      -- an integer is a number too, so bounds of either sort measure it
      refine ⟨n, rfl, fun side => ?_⟩
      cases allowReal <;> rfl
  · rw [(names_iff h).mp named] at typed
    cases j <;> simp only [HasType, String.reduceEq] at typed
    case integer n => exact ⟨n, rfl, fun side => rfl⟩
    case float negative m q => exact ⟨_, rfl, fun side => rfl⟩

/-- A value that a divisor is asked about is not negative: it is an integer,
and the minimum beside the divisor holds of it. -/
theorem exists_nonneg_of_multipleOf (h : States (lookup schema) t)
    (overlap : Overlap allowReal schema) (typed : HasType t.type.name j)
    (least : ∀ l ∈ t.minimum, IsAtLeast l.value (l.exclusive = true) j) {m : Nat}
    (hm : m ∈ t.multipleOf) : ∃ n : Int, 0 ≤ n ∧ j = .integer n := by
  have set : schema.get? "multipleOf" = some (.integer m) := by
    refine h.multipleOf.trans ?_
    rw [hm]
    rfl
  obtain ⟨named, -, limit, hlimit, nonneg⟩ := overlap.multipleOf _ set
  rw [(names_iff h).mp named] at typed
  cases j <;> simp only [HasType, String.reduceEq] at typed
  case integer n =>
    have above := (forall_limit_iff h.minimum (P := fun n e => IsAtLeast n e _)).mpr least
      limit hlimit n rfl
    have : (limit : ℚ) ≤ n := by
      rcases above with above | ⟨at_limit, -⟩
      · exact above.le
      · exact at_limit.ge
    exact ⟨n, nonneg.trans (by exact_mod_cast this), rfl⟩

/-- **On the overlap the two readings agree**: a value is valid here exactly
when it is valid in Draft 4. -/
theorem isValid_iff_valid {settings : Settings} {given : Option String} {c : Validator}
    (h : Validator.compile settings given schema = .ok c)
    (overlap : Overlap settings.realNumberBounds schema) (j : Json) :
    (c.verdict j.decoded).isValid = true ↔ Valid schema j := by
  obtain ⟨-, t, ht, rfl⟩ := validator_compile_eq_ok_iff.mp h
  rw [reading_eq_lookup overlap.noNull] at ht
  refine (isValid_check_iff t j.decoded).trans ?_
  rw [valid_iff ht, Terms.rules, List.forall_mem_cons, type_agrees, Terms.forall_mem_constraints]
  refine and_congr_right fun typed => ?_
  have maximum : ∀ l ∈ t.maximum,
      ((Rule.bound (l.bound settings.realNumberBounds .upper)).failure? j.decoded = none ↔
        IsAtMost l.value (l.exclusive = true) j) := by
    intro l hl
    obtain ⟨q, hq, asked⟩ := measured ht typed ht.maximum overlap.maximum hl
    exact upper_agrees hq (asked .upper)
  have minimum : ∀ l ∈ t.minimum,
      ((Rule.bound (l.bound settings.realNumberBounds .lower)).failure? j.decoded = none ↔
        IsAtLeast l.value (l.exclusive = true) j) := by
    intro l hl
    obtain ⟨q, hq, asked⟩ := measured ht typed ht.minimum overlap.minimum hl
    exact lower_agrees hq (asked .lower)
  -- alone the divisor would not agree: it is the minimum that refuses negative multiples
  have multipleOf (least : ∀ l ∈ t.minimum, IsAtLeast l.value (l.exclusive = true) j) :
      ∀ m ∈ t.multipleOf,
        ((Rule.multipleOf (m : Nat)).failure? j.decoded = none ↔ IsMultipleOf (m : Nat) j) := by
    intro m hm
    obtain ⟨n, nonneg, rfl⟩ := exists_nonneg_of_multipleOf ht overlap typed least hm
    exact multipleOf_agrees nonneg
  rw [forall₂_congr maximum, forall₂_congr minimum]
  simp only [minLength_agrees, maxLength_agrees]
  constructor
  · rintro ⟨divided, most, least, lengths⟩
    exact ⟨fun m hm => (multipleOf least m hm).mp (divided m hm), most, least, lengths⟩
  · rintro ⟨divided, most, least, lengths⟩
    exact ⟨fun m hm => (multipleOf least m hm).mpr (divided m hm), most, least, lengths⟩

/-- A schema in the overlap: multiples of three from `0` to `30`. -/
def threesSchema : Value :=
  .object .plain [(.plain "type", .plain "integer"), (.plain "multipleOf", .integer 3),
    (.plain "minimum", .integer 0), (.plain "maximum", .integer 30)]

theorem threesSchema_overlap : Overlap false threesSchema where
  noNull := by
    intro k
    cases k <;> simp [threesSchema, Value.get?, Value.plain, Value.hasText, Keyword.name]
  maximum := fun _ => .inl ⟨.plain, rfl⟩
  minimum := fun _ => .inl ⟨.plain, rfl⟩
  multipleOf := by
    intro v hv
    obtain rfl := Option.some.inj (hv.symm.trans (show _ = some (.integer 3) from rfl))
    exact ⟨⟨.plain, rfl⟩, ⟨3, rfl, by decide⟩, 0, rfl, le_rfl⟩

/-- In Draft 4 too `9` is valid, and `33` and a text are not. -/
theorem isValid_iff_valid_threes :
    ∃ c, Validator.compile {} none threesSchema = .ok c ∧ Valid threesSchema (.integer 9) ∧
      ¬ Valid threesSchema (.integer 33) ∧ ¬ Valid threesSchema (.string "9") := by
  have agrees {c : Validator} (h : Validator.compile {} none threesSchema = .ok c) (j : Json) :=
    isValid_iff_valid h threesSchema_overlap j
  refine ⟨_, rfl, (agrees rfl _).mp ?_, mt (agrees rfl _).mpr ?_, mt (agrees rfl _).mpr ?_⟩ <;>
    decide +kernel

end DraftFour

end Conformance
