import Conformance.Proofs.Options
import Conformance.Proofs.Terms
import Mathlib.Logic.Relation

/-!
# Bindings — what compilation looks at, and what it does not

A schema is compiled by what it binds the eight keywords to, where `null`
counts as nothing. Whatever else there is in a mapping leaves no trace: its
form, the order of its entries, entries under other keys, and keywords that are
bound to `null`. `Idle` is such a change of the entries, one at a time, and
`agrees_of_idle` is that it changes no binding that counts.
`compile_eq_of_bindings` puts this together: schemas of the same bindings
compile alike, or are refused for the same defect at the same path, and so are
mappings that idle changes lead from one to the other.
-/


namespace Conformance

namespace Schema

/-! ## Bindings that agree -/

/-- A binding that counts as none. -/
def IsAbsent (x : Option Value) : Prop := x = none ∨ x = some .null

/-- Two bindings agree: they are to the same value, or neither counts. -/
def Agrees (x y : Option Value) : Prop := x = y ∨ IsAbsent x ∧ IsAbsent y

theorem Agrees.symm {x y : Option Value} (h : Agrees x y) : Agrees y x := by
  rcases h with rfl | ⟨hx, hy⟩
  · exact .inl rfl
  · exact .inr ⟨hy, hx⟩

theorem Agrees.trans {x y z : Option Value} (h : Agrees x y) (h' : Agrees y z) : Agrees x z := by
  rcases h with rfl | ⟨hx, hy⟩
  · exact h'
  · rcases h' with rfl | ⟨-, hz⟩
    · exact .inr ⟨hx, hy⟩
    · exact .inr ⟨hx, hz⟩

/-- Two mappings agree on the keywords. -/
def SameBindings (schema schema' : Value) : Prop :=
  ∀ k : Keyword, Agrees (schema.get? k.name) (schema'.get? k.name)

/-- A binding that counts as none is not read. -/
theorem binding?_of_isAbsent {schema : Value} {name : String} (h : IsAbsent (schema.get? name)) :
    schema.binding? name = none := by
  rw [Value.binding?]
  rcases h with h | h
  · rw [h]
    rfl
  · rw [h]
    rfl

/-- What counts is all that is read. -/
theorem reading_eq_of_agrees {schema schema' : Value} (h : SameBindings schema schema') :
    reading schema = reading schema' := by
  funext k
  rw [reading, reading]
  rcases h k with same | ⟨absent, absent'⟩
  · rw [Value.binding?, Value.binding?, same]
  · rw [binding?_of_isAbsent absent, binding?_of_isAbsent absent']

/-- Mappings with the same bindings compile alike. -/
theorem compile_eq_of_agrees {schema schema' : Value} (mapping : schema.kind = .object)
    (mapping' : schema'.kind = .object) (h : SameBindings schema schema') (allowReal : Bool)
    (path : String) : compile allowReal path schema = compile allowReal path schema' := by
  rw [compile, compile, if_pos mapping, if_pos mapping', reading_eq_of_agrees h]

/-! ## Changes that change no binding -/

/-- A change of entries that changes no binding to a keyword: another order, an
entry more under a key that is no keyword, or one that binds a key of its own
to `null`. -/
inductive Idle : List (Value × Value) → List (Value × Value) → Prop
  | reorder {entries entries' : List (Value × Value)} :
    Value.KeysApart entries → entries'.Perm entries → Idle entries entries'
  | unknown (front back : List (Value × Value)) (key value : Value) :
    (∀ k : Keyword, key.hasText k.name = false) →
    Idle (front ++ back) (front ++ (key, value) :: back)
  | null (front back : List (Value × Value)) (key : Value) :
    (∀ entry ∈ front ++ back, Value.sameKey entry.1 key = false) →
    Idle (front ++ back) (front ++ (key, .null) :: back)

/-- An entry under another key is passed over. -/
theorem find?_insert_of_ne {front back : List (Value × Value)} {key value : Value} {name : String}
    (h : key.hasText name = false) :
    ((front ++ (key, value) :: back).find? fun entry => entry.1.hasText name) =
      (front ++ back).find? fun entry => entry.1.hasText name := by
  rw [List.find?_append, List.find?_append, List.find?_cons, h]

/-- Where no key has a name, no entry is found under it. -/
theorem find?_eq_none_of_unnamed {entries : List (Value × Value)} {name : String}
    (h : ∀ entry ∈ entries, entry.1.hasText name = false) :
    (entries.find? fun entry => entry.1.hasText name) = none := by
  refine List.find?_eq_none.mpr fun entry member => ?_
  rw [h entry member]
  exact Bool.false_ne_true

/-- An entry under a name that no other key has is found. -/
theorem find?_insert_of_fresh {front back : List (Value × Value)} {key value : Value}
    {name : String} (named : key.hasText name = true)
    (fresh : ∀ entry ∈ front ++ back, entry.1.hasText name = false) :
    ((front ++ (key, value) :: back).find? fun entry => entry.1.hasText name) =
      some (key, value) := by
  have before : (front.find? fun entry => entry.1.hasText name) = none :=
    find?_eq_none_of_unnamed fun entry member => fresh entry (List.mem_append_left _ member)
  rw [List.find?_append, before, List.find?_cons, named]
  rfl

/-- Keys that are apart do not share a name. -/
theorem hasText_eq_false_of_apart {key other : Value} {name : String}
    (apart : Value.sameKey other key = false) (named : key.hasText name = true) :
    other.hasText name = false := by
  rw [Bool.eq_false_iff]
  intro named'
  obtain ⟨f, rfl⟩ := Value.hasText_iff.mp named
  obtain ⟨g, rfl⟩ := Value.hasText_iff.mp named'
  simp at apart

/-- **An idle change changes no binding that counts.** -/
theorem agrees_of_idle {entries entries' : List (Value × Value)} (h : Idle entries entries')
    (form form' : ObjectForm) :
    SameBindings (.object form entries) (.object form' entries') := by
  intro k
  cases h with
  | reorder apart same => exact .inl (Value.get?_eq_of_perm apart same k.name).symm
  | unknown front back key value other =>
    rw [Value.get?, Value.get?, find?_insert_of_ne (other k)]
    exact .inl rfl
  | null front back key fresh =>
    -- a keyword that is bound to `null` now was not bound before
    by_cases named : key.hasText k.name = true
    · have unnamed : ∀ entry ∈ front ++ back, entry.1.hasText k.name = false :=
        fun entry member => hasText_eq_false_of_apart (fresh entry member) named
      rw [Value.get?, Value.get?, find?_insert_of_fresh named unnamed,
        find?_eq_none_of_unnamed unnamed]
      exact .inr ⟨.inl rfl, .inr rfl⟩
    · rw [Value.get?, Value.get?, find?_insert_of_ne (Bool.eq_false_iff.mpr named)]
      exact .inl rfl

/-- And neither do idle changes in a row, made or undone. -/
theorem agrees_of_idles {entries entries' : List (Value × Value)}
    (h : Relation.EqvGen Idle entries entries') (form form' : ObjectForm) :
    SameBindings (.object form entries) (.object form' entries') := by
  induction h generalizing form form' with
  | rel _ _ h => exact agrees_of_idle h form form'
  | refl _ => exact fun k => .inl rfl
  | symm _ _ _ ih => exact fun k => (ih form' form k).symm
  | trans _ _ _ _ _ ih ih' => exact fun k => (ih form form k).trans (ih' form form' k)

/-- **Only the bindings of the keywords matter.** Two mappings that agree on
them compile to the same check, or are refused for the same defect at the same
path. So are mappings of any forms that idle changes lead from one to the
other. -/
theorem compile_eq_of_bindings (settings : Settings) (given : Option String) :
    (∀ schema schema' : Value, schema.kind = .object → schema'.kind = .object →
      SameBindings schema schema' →
      Validator.compile settings given schema = Validator.compile settings given schema') ∧
    ∀ (form form' : ObjectForm) (entries entries' : List (Value × Value)),
      Relation.EqvGen Idle entries entries' →
      Validator.compile settings given (.object form entries) =
        Validator.compile settings given (.object form' entries') := by
  have alike (schema schema' : Value) (mapping : schema.kind = .object)
      (mapping' : schema'.kind = .object) (same : SameBindings schema schema') :
      Validator.compile settings given schema = Validator.compile settings given schema' := by
    rw [validator_compile_eq, validator_compile_eq, compile_eq_of_agrees mapping mapping' same]
  exact ⟨alike, fun form form' _ _ changed => alike _ _ rfl rfl (agrees_of_idles changed form form')⟩

/-- An integer with a flag that is no truth value. -/
def misflagged : List (Value × Value) :=
  [(.plain "type", .plain "integer"), (.plain "maximum", .integer 3),
    (.plain "exclusiveMaximum", .integer 1)]

/-- The same with a key that is a number, one in other letters, and a minimum
that is none. -/
def misflaggedMore : List (Value × Value) :=
  [(.integer 7, .plain "seven"), (.plain "type", .plain "integer"), (.plain "minimum", .null),
    (.plain "maximum", .integer 3), (.plain "exclusiveMaximum", .integer 1),
    (.plain "Maximum", .boolean true)]

theorem misflagged_idle : Relation.EqvGen Idle misflagged misflaggedMore.reverse := by
  have number : Idle misflagged ((.integer 7, .plain "seven") :: misflagged) :=
    .unknown [] misflagged _ _ fun k => rfl
  have minimum : Idle ((.integer 7, .plain "seven") :: misflagged)
      ((.integer 7, .plain "seven") :: (.plain "type", .plain "integer") ::
        (.plain "minimum", .null) :: misflagged.tail) :=
    .null [(.integer 7, .plain "seven"), (.plain "type", .plain "integer")] misflagged.tail
      (.plain "minimum") (by decide +kernel)
  have letters : Idle ((.integer 7, .plain "seven") :: (.plain "type", .plain "integer") ::
      (.plain "minimum", .null) :: misflagged.tail) misflaggedMore :=
    .unknown ((.integer 7, .plain "seven") :: (.plain "type", .plain "integer") ::
      (.plain "minimum", .null) :: misflagged.tail) [] (.plain "Maximum") (.boolean true)
      fun k => by cases k <;> decide
  have turned : Idle misflaggedMore misflaggedMore.reverse :=
    .reorder (by decide +kernel) (List.reverse_perm _)
  exact (((Relation.EqvGen.rel _ _ number).trans _ _ _ (.rel _ _ minimum)).trans _ _ _
    (.rel _ _ letters)).trans _ _ _ (.rel _ _ turned)

/-- The two are refused alike, in whatever mappings they stand, and `null` as
the flag would have been none. -/
theorem compile_eq_of_bindings_misflagged :
    (∃ e, Validator.compile {} none (.object .plain misflagged) = .error e ∧
      Validator.compile {} none (.object .chained misflaggedMore.reverse) = .error e ∧
      e.report = ⟨.badSchema, "root", "The exclusiveMaximum property must be a boolean"⟩) ∧
    Validator.compile {} none
        (.object .plain [(.plain "type", .plain "array"), (.plain "exclusiveMaximum", .null)]) =
      Validator.compile {} none (.object .wrapped [(.plain "type", .plain "array")]) := by
  obtain ⟨bindings, idle⟩ := compile_eq_of_bindings {} none
  constructor
  · have same := idle .plain .chained _ _ misflagged_idle
    refine ⟨.badSchema "root" (.notBoolean .exclusiveMaximum), ?_, ?_, by decide +kernel⟩
    · rfl
    · rw [← same]
      rfl
  · refine bindings _ _ rfl rfl fun k => ?_
    cases k with
    | exclusiveMaximum => exact .inr ⟨.inr rfl, .inl rfl⟩
    | _ => exact .inl rfl

end Schema

end Conformance
