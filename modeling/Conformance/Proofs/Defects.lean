import Conformance.Proofs.Terms

/-!
# Defects — every complaint about a schema, and the one that is reported

Each keyword demands a sort of value, and `complaints` lists everything
that is wrong with a schema, keyword by keyword and without regard to what
else is wrong. Compilation stops early and comes to the flags twice; what
it reports is the first complaint all the same,
`compile_reports_first_complaint`, and where there is none it succeeds.
`Fails` is what carries this through the steps of a reading: a step that
fails as a list of complaints begins, and the steps behind it, fail
together as the two lists in a row.
-/


namespace Conformance

namespace Schema

/-! ## Complaints -/

/-- What the value of a keyword must be. -/
inductive Demand where
  | natural
  | integer
  | boolean
deriving DecidableEq, Repr

namespace Demand

/-- Whether a value is what is demanded. -/
def isMet : Demand → Value → Bool
  | .natural, .integer n => 0 ≤ n
  | .integer, .integer _ => true
  | .boolean, .boolean _ => true
  | _, _ => false

/-- A demand as it is worded. -/
def text : Demand → String
  | .natural => "a non-negative integer"
  | .integer => "an integer"
  | .boolean => "a boolean"

end Demand

/-- What the keywords behind the type demand, in the order of the table. -/
def demands : List (String × Demand) :=
  [("multipleOf", .natural), ("maximum", .integer), ("exclusiveMaximum", .boolean),
    ("minimum", .integer), ("exclusiveMinimum", .boolean), ("minLength", .natural),
    ("maxLength", .natural)]

/-- The complaint about the type: it must be there, be a text, and be one of
the six names. -/
def typeComplaints (schema : Value) : List String :=
  match schema.binding? "type" with
  | some (.text .plain s) | some (.text (.derived _) s) =>
    if s ∈ ["string", "number", "integer", "boolean", "array", "object"] then []
    else ["Unrecognized type '" ++ s ++ "'"]
  | _ => ["The type property must be a string"]

/-- The complaint about another keyword: where it is bound, its demand must
be met. -/
def complaintsAbout (schema : Value) (name : String) (demand : Demand) : List String :=
  match schema.binding? name with
  | none => []
  | some v => if demand.isMet v then [] else ["The " ++ name ++ " property must be " ++ demand.text]

/-- Everything that is wrong with a schema. -/
def complaints (schema : Value) : List String :=
  if schema.kind = .object then
    typeComplaints schema ++
      demands.flatMap fun (name, demand) => complaintsAbout schema name demand
  else ["The schema must be an object"]

/-! ## Failing as a list begins -/

/-- A step fails as a list of complaints begins: it succeeds where the list
is empty, and fails with the first of it otherwise. -/
def Fails {α : Type} (x : Except Defect α) (complaints : List String) : Prop :=
  match x with
  | .ok _ => complaints = []
  | .error defect => complaints.head? = some defect.text

@[simp] theorem fails_ok {α : Type} {a : α} {l : List String} : Fails (.ok a) l ↔ l = [] := Iff.rfl

@[simp] theorem fails_error {α : Type} {defect : Defect} {l : List String} :
    Fails (.error defect : Except Defect α) l ↔ l.head? = some defect.text := Iff.rfl

/-- **Steps in a row fail as their lists in a row begin.** -/
theorem Fails.bind {α β : Type} {x : Except Defect α} {f : α → Except Defect β}
    {first rest : List String} (hx : Fails x first) (hf : ∀ a, Fails (f a) rest) :
    Fails (x >>= f) (first ++ rest) := by
  cases x with
  | error defect =>
    change (first ++ rest).head? = some defect.text
    rw [List.head?_append, fails_error.mp hx]
    rfl
  | ok a =>
    obtain rfl : first = [] := hx
    exact hf a

/-- The last step of a row succeeds. -/
theorem Fails.map {α β : Type} {x : Except Defect α} {l : List String} (hx : Fails x l)
    (f : α → β) : Fails (x >>= fun a => pure (f a)) l := by
  have := hx.bind fun a => (fails_ok (a := f a)).mpr rfl
  rwa [List.append_nil] at this

/-! ## The steps of a reading -/

variable {schema : Value}

/-- What a schema binds a keyword to, by its spelling. -/
theorem reading_apply (schema : Value) (k : Keyword) : reading schema k = schema.binding? k.name :=
  rfl

/-- A name that is none of the six is the name of no type. -/
theorem ofName?_eq_none_iff {s : String} :
    TypeName.ofName? s = none ↔
      s ∉ ["string", "number", "integer", "boolean", "array", "object"] := by
  have names : ["string", "number", "integer", "boolean", "array", "object"] =
      TypeName.all.map TypeName.name := rfl
  rw [names, TypeName.ofName?, List.find?_eq_none]
  simp only [beq_iff_eq, List.mem_map, not_exists, not_and]

theorem typeName_fails : Fails (typeName (reading schema)) (typeComplaints schema) := by
  unfold typeName typeComplaints
  rw [reading_apply, show Keyword.type.name = "type" from rfl]
  cases schema.binding? "type" with
  | none => exact fails_error.mpr rfl
  | some v =>
    cases v with
    | text form s =>
      -- a wrapped text is refused even where its characters are a name
      cases form with
      | wrapped => exact fails_error.mpr rfl
      | _ =>
        simp only [Option.bind_some, Value.native?]
        cases ht : TypeName.ofName? s with
        | none =>
          rw [if_neg (ofName?_eq_none_iff.mp ht)]
          exact fails_error.mpr rfl
        | some t =>
          rw [if_pos (Decidable.not_not.mp fun h => by simp [ofName?_eq_none_iff.mpr h] at ht)]
          exact fails_ok.mpr rfl
    | _ => exact fails_error.mpr rfl

theorem text_notNatural (k : Keyword) :
    (Defect.notNatural k).text =
      "The " ++ k.name ++ " property must be " ++ Demand.natural.text := by
  unfold Defect.text Demand.text
  simp only [String.append_assoc, String.reduceAppend]

theorem text_notInteger (k : Keyword) :
    (Defect.notInteger k).text =
      "The " ++ k.name ++ " property must be " ++ Demand.integer.text := by
  unfold Defect.text Demand.text
  simp only [String.append_assoc, String.reduceAppend]

theorem text_notBoolean (k : Keyword) :
    (Defect.notBoolean k).text =
      "The " ++ k.name ++ " property must be " ++ Demand.boolean.text := by
  unfold Defect.text Demand.text
  simp only [String.append_assoc, String.reduceAppend]

theorem natural?_fails (k : Keyword) :
    Fails (natural? (reading schema) k) (complaintsAbout schema k.name .natural) := by
  unfold natural? complaintsAbout
  rw [reading_apply, ← text_notNatural]
  cases schema.binding? k.name with
  | none => exact fails_ok.mpr rfl
  | some v =>
    cases v with
    | integer n => cases n <;> simp [Value.natural?, Demand.isMet]
    | _ => simp [Value.natural?, Demand.isMet]

theorem integer?_fails (k : Keyword) :
    Fails (integer? (reading schema) k) (complaintsAbout schema k.name .integer) := by
  unfold integer? complaintsAbout
  rw [reading_apply, ← text_notInteger]
  cases schema.binding? k.name with
  | none => exact fails_ok.mpr rfl
  | some v => cases v <;> simp [Value.integer?, Demand.isMet]

theorem flag_fails (k : Keyword) :
    Fails (flag (reading schema) k) (complaintsAbout schema k.name .boolean) := by
  unfold flag complaintsAbout
  rw [reading_apply, ← text_notBoolean]
  cases schema.binding? k.name with
  | none => exact fails_ok.mpr rfl
  | some v => cases v <;> simp [Value.boolean?, Demand.isMet]

/-- A bound and its flag fail with the bound first. -/
theorem limit?_fails (k flagged : Keyword) :
    Fails (limit? (reading schema) k flagged)
      (complaintsAbout schema k.name .integer ++ complaintsAbout schema flagged.name .boolean) :=
  (integer?_fails k).bind fun _ => (flag_fails flagged).map _

/-- **The reading of a schema fails with its first complaint.** -/
theorem terms?_fails (h : schema.kind = .object) :
    Fails (terms? (reading schema)) (complaints schema) := by
  have row : (demands.flatMap fun (name, demand) => complaintsAbout schema name demand) =
      complaintsAbout schema Keyword.multipleOf.name .natural ++
        ((complaintsAbout schema Keyword.maximum.name .integer ++
            complaintsAbout schema Keyword.exclusiveMaximum.name .boolean) ++
          ((complaintsAbout schema Keyword.minimum.name .integer ++
              complaintsAbout schema Keyword.exclusiveMinimum.name .boolean) ++
            (complaintsAbout schema Keyword.minLength.name .natural ++
              complaintsAbout schema Keyword.maxLength.name .natural))) := by
    simp only [demands, List.flatMap_cons, List.flatMap_nil, List.append_nil, List.append_assoc,
      Keyword.name]
  rw [complaints, if_pos h, row]
  refine typeName_fails.bind fun type => ?_
  refine (natural?_fails .multipleOf).bind fun multipleOf => ?_
  refine (limit?_fails .maximum .exclusiveMaximum).bind fun maximum => ?_
  refine (limit?_fails .minimum .exclusiveMinimum).bind fun minimum => ?_
  refine (natural?_fails .minLength).bind fun minLength => ?_
  exact (natural?_fails .maxLength).map _

/-- Building a check of the terms that were read cannot fail. -/
theorem compile_fails (allowReal : Bool) (path : String) (schema : Value) :
    Fails (compile allowReal path schema) (complaints schema) := by
  by_cases h : schema.kind = .object
  · have := terms?_fails h
    rw [compile_eq h]
    cases ht : terms? (reading schema) with
    | error defect => rwa [ht] at this
    | ok t => rwa [ht] at this
  · rw [compile, if_neg h, complaints, if_neg h]
    exact fails_error.mpr rfl

/-- **Compilation reports the first complaint, and succeeds where there is
none.** The complaint about a flag is one of its own, made in the place of
the flag whether or not its bound is there. -/
theorem compile_reports_first_complaint (settings : Settings) (given : Option String)
    (schema : Value) :
    match complaints schema with
    | [] => ∃ c, Validator.compile settings given schema = .ok c
    | reason :: _ => ∃ e, Validator.compile settings given schema = .error e ∧
        e.report = ⟨.badSchema, given.getD settings.rootPath, reason⟩ := by
  have fails := compile_fails settings.realNumberBounds (Validator.pathOf settings given) schema
  rw [validator_compile_eq]
  cases hc : compile settings.realNumberBounds (Validator.pathOf settings given) schema with
  | ok check =>
    rw [hc, fails_ok] at fails
    rw [fails]
    exact ⟨_, rfl⟩
  | error defect =>
    rw [hc, fails_error] at fails
    obtain ⟨rest, hl⟩ := List.head?_eq_some_iff.mp fails
    rw [hl]
    exact ⟨_, rfl, rfl⟩

end Schema

end Conformance
