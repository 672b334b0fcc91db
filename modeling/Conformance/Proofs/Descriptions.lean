import Mathlib
import Conformance.Proofs.Widening

/-!
# Descriptions — what a text gives away of a check

A description leaves out the paths of a check and whether its bounds measure
real numbers. It leaves out nothing else: `describe_eq_iff` is that two checks
have one description exactly when they are the same once both are erased. Rules
are told apart by their words and their numbers; inside a row a description ends
where a comma or a parenthesis of the row begins, because neither is in the
description of a rule, so a row falls apart in one way only. The text of a
validator puts a path in front, which may hold anything; but no description
holds a colon, so the path ends at the last one.
-/


namespace Conformance

/-! ## Texts that fall apart in one way -/

namespace Text

/-- A text ends where the first letter of another kind is. -/
theorem eq_of_append_eq {p : Char → Prop} {s t r r' : List Char} (hs : ∀ c ∈ s, ¬ p c)
    (ht : ∀ c ∈ t, ¬ p c) (hr : ∀ c ∈ r.head?, p c) (hr' : ∀ c ∈ r'.head?, p c)
    (h : s ++ r = t ++ r') : s = t ∧ r = r' := by
  induction s generalizing t with
  | nil =>
    cases t with
    | nil => exact ⟨rfl, h⟩
    | cons d t =>
      -- the letter `d` would be of both kinds
      have first : d ∈ r.head? := by
        rw [List.nil_append] at h
        rw [h]
        rfl
      exact absurd (hr d first) (ht d List.mem_cons_self)
  | cons c s ih =>
    cases t with
    | nil =>
      have first : c ∈ r'.head? := by
        rw [List.nil_append] at h
        rw [← h]
        rfl
      exact absurd (hr' c first) (hs c List.mem_cons_self)
    | cons d t =>
      obtain ⟨rfl, behind⟩ := List.cons.inj h
      obtain ⟨rfl, same⟩ := ih (fun c hc => hs c (List.mem_cons_of_mem _ hc))
        (fun c hc => ht c (List.mem_cons_of_mem _ hc)) behind
      exact ⟨rfl, same⟩

/-- Texts with a mark between two parts are the same part by part, if the part
behind the mark is free of it. -/
theorem eq_of_append_cons_eq {mark : Char} {s t r r' : List Char} (hr : mark ∉ r)
    (hr' : mark ∉ r') (h : s ++ mark :: r = t ++ mark :: r') : s = t ∧ r = r' := by
  have backwards : r.reverse ++ mark :: s.reverse = r'.reverse ++ mark :: t.reverse := by
    have := congrArg List.reverse h
    simpa using this
  have apart {u : List Char} (hu : mark ∉ u) : ∀ c ∈ u.reverse, ¬ c = mark := by
    rintro c hc rfl
    exact hu (List.mem_reverse.mp hc)
  obtain ⟨behind, before⟩ := eq_of_append_eq (p := (· = mark)) (apart hr) (apart hr')
    (by simp) (by simp) backwards
  exact ⟨List.reverse_injective (List.cons.inj before).2, List.reverse_injective behind⟩

/-- The letters of a number. -/
def IsNumeral (c : Char) : Prop := c.isDigit = true ∨ c = '-'

theorem isNumeral_of_mem {n : Int} {c : Char} (h : c ∈ (toString n).toList) : IsNumeral c := by
  have digit {k : Nat} (h : c ∈ k.repr.toList) : IsNumeral c := by
    rw [Nat.toList_repr] at h
    exact .inl (Nat.isDigit_of_mem_toDigits (by decide) (by decide) h)
  cases n with
  | ofNat k => exact digit h
  | negSucc k =>
    have parts : c ∈ ['-'] ++ k.succ.repr.toList := by
      have split : (toString (Int.negSucc k)).toList = ['-'] ++ k.succ.repr.toList :=
        String.toList_append
      rwa [split] at h
    rcases List.mem_append.mp parts with minus | h
    · exact .inr (List.mem_singleton.mp minus)
    · exact digit h

end Text

/-! ## Rules -/

namespace Rule

/-- The words of a description. -/
def label : Rule → String
  | .type t => "type=" ++ t.name
  | .multipleOf _ => "multipleOf="
  | .bound ⟨.upper, _, exclusive, _⟩ => "maximum" ++ if exclusive then "<" else "<="
  | .bound ⟨.lower, _, exclusive, _⟩ => "minimum" ++ if exclusive then ">" else ">="
  | .minLength _ => "minLength="
  | .maxLength _ => "maxLength="

/-- The number behind the words. -/
def number? : Rule → Option Int
  | .type _ => none
  | .multipleOf m => some m
  | .bound b => some b.limit
  | .minLength n => some n
  | .maxLength n => some n

/-- The number as it is written. -/
def numeral (r : Rule) : String := (r.number?.map toString).getD ""

theorem describe_eq (r : Rule) : r.describe = r.label ++ r.numeral := by
  obtain t | m | ⟨side, limit, exclusive, allowReal⟩ | n | n := r
  · exact String.append_empty.symm
  · rfl
  · cases side <;> rfl
  · rfl
  · rfl

/-- A rule without its number, and without what a bound measures. -/
def blank : Rule → Rule
  | .type t => .type t
  | .multipleOf _ => .multipleOf 0
  | .bound b => .bound ⟨b.side, 0, b.exclusive, false⟩
  | .minLength _ => .minLength 0
  | .maxLength _ => .maxLength 0

/-- The rules without numbers. -/
def blanks : List Rule :=
  TypeName.all.map .type ++
    [.multipleOf 0, .bound ⟨.upper, 0, false, false⟩, .bound ⟨.upper, 0, true, false⟩,
      .bound ⟨.lower, 0, false, false⟩, .bound ⟨.lower, 0, true, false⟩, .minLength 0, .maxLength 0]

theorem blank_mem_blanks (r : Rule) : r.blank ∈ blanks := by
  obtain t | m | ⟨side, limit, exclusive, allowReal⟩ | n | n := r
  · exact List.mem_append_left _ (List.mem_map_of_mem t.mem_all)
  · simp [blank, blanks]
  · cases side <;> cases exclusive <;> simp [blank, blanks]
  · simp [blank, blanks]
  · simp [blank, blanks]

theorem label_blank (r : Rule) : r.blank.label = r.label := by
  obtain t | m | ⟨side, limit, exclusive, allowReal⟩ | n | n := r
  case bound => cases side <;> rfl
  all_goals rfl

/-- No two rules without numbers share their words. -/
theorem eq_of_label_eq : ∀ r ∈ blanks, ∀ s ∈ blanks, r.label = s.label → r = s := by
  decide +kernel

/-- The words begin with a letter that is not that of a row. -/
theorem head_label : ∀ r ∈ blanks,
    r.label.toList.head? = some 't' ∨ r.label.toList.head? = some 'm' := by
  decide +kernel

/-- The words hold no letter of a number, and none that a row or a validator is
written with. -/
theorem letters_label : ∀ r ∈ blanks,
    r.label.toList.all fun c => !c.isDigit && c ∉ ['-', ',', ')', ':'] := by
  decide +kernel

theorem of_mem_label {r : Rule} {c : Char} (h : c ∈ r.label.toList) :
    c.isDigit = false ∧ c ∉ ['-', ',', ')', ':'] := by
  rw [← label_blank] at h
  simpa using List.all_eq_true.mp (letters_label _ r.blank_mem_blanks) c h

theorem isNumeral_of_mem_numeral {r : Rule} {c : Char} (h : c ∈ r.numeral.toList) :
    Text.IsNumeral c := by
  unfold numeral at h
  cases number : r.number? with
  | none => simp [number] at h
  | some n =>
    rw [number] at h
    exact Text.isNumeral_of_mem h

theorem not_isNumeral_of_mem_label {r : Rule} {c : Char} (h : c ∈ r.label.toList) :
    ¬ Text.IsNumeral c := by
  obtain ⟨digit, others⟩ := of_mem_label h
  rintro (h | rfl)
  · rw [digit] at h
    cases h
  · exact others List.mem_cons_self

/-- What a row is written with, and a colon, are in no description of a rule. -/
theorem not_mem_of_mem_describe {r : Rule} {c : Char} (h : c ∈ r.describe.toList) :
    c ∉ [',', ')', ':'] := by
  rw [describe_eq, String.toList_append] at h
  rcases List.mem_append.mp h with h | h
  · exact List.not_mem_of_not_mem_cons (of_mem_label h).2
  · intro listed
    rcases isNumeral_of_mem_numeral h with digit | rfl
    · simp only [List.mem_cons, List.not_mem_nil, or_false] at listed
      obtain rfl | rfl | rfl := listed <;> exact absurd digit (by decide)
    · exact absurd listed (by decide)

/-- A description of a rule begins with a small letter, and not with that of a
row. -/
theorem exists_describe_eq_cons (r : Rule) :
    ∃ c rest, r.describe.toList = c :: rest ∧ (c = 't' ∨ c = 'm') := by
  have begins {c : Char} (h : r.label.toList.head? = some c) :
      ∃ rest, r.describe.toList = c :: rest := by
    obtain ⟨rest, label⟩ := List.head?_eq_some_iff.mp h
    exact ⟨rest ++ r.numeral.toList, by rw [describe_eq, String.toList_append, label]; rfl⟩
  have first := head_label _ r.blank_mem_blanks
  rw [label_blank] at first
  rcases first with t | m
  · obtain ⟨rest, h⟩ := begins t
    exact ⟨'t', rest, h, .inl rfl⟩
  · obtain ⟨rest, h⟩ := begins m
    exact ⟨'m', rest, h, .inr rfl⟩

/-- **A description gives a rule away**, but for what a bound measures: the words
end where the number begins. -/
theorem measuring_eq_of_describe_eq {r s : Rule} (h : r.describe = s.describe) :
    r.measuring false = s.measuring false := by
  rw [describe_eq, describe_eq, ← String.toList_inj, String.toList_append,
    String.toList_append] at h
  obtain ⟨labels, numerals⟩ := Text.eq_of_append_eq
    (fun _ => not_isNumeral_of_mem_label) (fun _ => not_isNumeral_of_mem_label)
    (fun _ hc => isNumeral_of_mem_numeral (List.mem_of_mem_head? hc))
    (fun _ hc => isNumeral_of_mem_numeral (List.mem_of_mem_head? hc)) h
  have blanks : r.blank = s.blank := by
    refine eq_of_label_eq _ r.blank_mem_blanks _ s.blank_mem_blanks ?_
    rw [label_blank, label_blank, String.toList_inj.mp labels]
  have numeral : r.numeral = s.numeral := String.toList_inj.mp numerals
  -- with one blank, the two rules are of one kind, and one number is behind one numeral
  cases r <;> cases s <;> simp only [blank, reduceCtorEq, type.injEq, bound.injEq,
    Bound.mk.injEq] at blanks
  case type.type t t' => rw [blanks]
  case multipleOf.multipleOf m m' => rw [Int.repr_injective numeral]
  case bound.bound b b' =>
    obtain ⟨side, -, exclusive, -⟩ := blanks
    have limit : b.limit = b'.limit := Int.repr_injective numeral
    simp only [measuring, side, exclusive, limit]
  case minLength.minLength n n' => rw [Int.repr_injective numeral]
  case maxLength.maxLength n n' => rw [Int.repr_injective numeral]

@[simp] theorem describe_measuring (allowReal : Bool) (r : Rule) :
    (r.measuring allowReal).describe = r.describe := by
  obtain t | m | ⟨side, limit, exclusive, real⟩ | n | n := r
  case bound => cases side <;> rfl
  all_goals rfl

end Rule

/-! ## Rows and trees -/

namespace Check

/-- A check without its paths, and without what its bounds measure. -/
def erased (c : Check) : Check := c.map (fun _ => "") (Rule.measuring false)

@[simp] theorem erased_leaf (path : String) (rule : Rule) :
    (leaf path rule).erased = .leaf "" (rule.measuring false) :=
  map_leaf path rule

@[simp] theorem erased_all (path : String) (children : List Check) :
    (all path children).erased = .all "" (children.map erased) :=
  map_all path children

/-- The row behind its first check, as it is written. -/
def behind : List Check → String
  | [] => ""
  | c :: rest => ", " ++ describeRow (c :: rest)

theorem describeRow_cons (c : Check) (rest : List Check) :
    describeRow (c :: rest) = c.describe ++ behind rest := by
  cases rest with
  | nil => rw [describeRow, behind, String.append_empty]
  | cons d rest => rw [describeRow, behind, String.append_assoc]; simp

/-- A description hangs on the erased check only. -/
theorem describe_erased (c : Check) : c.erased.describe = c.describe := by
  induction c using Check.induction with
  | leaf path rule => rw [erased_leaf, describe, describe, Rule.describe_measuring]
  | all path children ih =>
    have row : describeRow (children.map erased) = describeRow children := by
      induction children with
      | nil => rfl
      | cons c rest ihr =>
        have others := ihr fun d hd => ih d (List.mem_cons_of_mem c hd)
        rw [List.map_cons, describeRow_cons, describeRow_cons, ih c List.mem_cons_self]
        cases rest with
        | nil => rfl
        | cons d rest =>
          rw [List.map_cons, behind, behind, ← List.map_cons, others]
    rw [erased_all, describe, describe, row]

/-- The letters behind which a description inside a row ends. -/
def IsDelimiter (letter : Char) : Prop := letter = ',' ∨ letter = ')'

theorem not_isDelimiter_of_mem {rule : Rule} {letter : Char}
    (h : letter ∈ rule.describe.toList) : ¬ IsDelimiter letter := by
  have others := Rule.not_mem_of_mem_describe h
  rintro (rfl | rfl)
  · exact others (by decide)
  · exact others (by decide)

/-- A text that can stand behind a description. -/
def Ends (r : List Char) : Prop := ∀ letter ∈ r.head?, IsDelimiter letter

theorem toList_behind_cons (c : Check) (rest : List Check) (r : List Char) :
    (behind (c :: rest)).toList ++ r =
      ',' :: ' ' :: (c.describe.toList ++ ((behind rest).toList ++ r)) := by
  rw [behind, describeRow_cons]
  simp

theorem ends_behind (cs : List Check) (r : List Char) :
    Ends ((behind cs).toList ++ ')' :: r) := by
  intro letter first
  cases cs with
  | nil => exact .inr (Option.some.inj first).symm
  | cons c rest =>
    rw [toList_behind_cons] at first
    exact .inl (Option.some.inj first).symm

theorem toList_describe_all (path : String) (children : List Check) (r : List Char) :
    (all path children).describe.toList ++ r =
      'a' :: 'l' :: 'l' :: '(' :: ((describeRow children).toList ++ ')' :: r) := by
  rw [describe]
  simp

/-- A description begins with a letter that is no delimiter. -/
theorem exists_describe_eq_cons (c : Check) :
    ∃ letter rest, c.describe.toList = letter :: rest ∧ ¬ IsDelimiter letter := by
  cases c with
  | leaf path rule =>
    obtain ⟨letter, rest, begins, which⟩ := rule.exists_describe_eq_cons
    refine ⟨letter, rest, by rw [describe, begins], ?_⟩
    rcases which with rfl | rfl <;> simp [IsDelimiter]
  | all path children =>
    have begins := toList_describe_all path children []
    rw [List.append_nil] at begins
    exact ⟨'a', _, begins, by simp [IsDelimiter]⟩

/-- A check whose description, with more text behind it, gives away the check and
where that text begins. -/
def Readable (c : Check) : Prop :=
  ∀ (d : Check) (r r' : List Char), Ends r → Ends r' →
    c.describe.toList ++ r = d.describe.toList ++ r' → c.erased = d.erased ∧ r = r'

/-- A row of readable checks is read check by check: behind each there is a comma,
or the parenthesis that closes the row. -/
theorem eq_of_behind_eq {cs ds : List Check} (readable : ∀ c ∈ cs, Readable c)
    {r r' : List Char} (h : (behind cs).toList ++ ')' :: r = (behind ds).toList ++ ')' :: r') :
    cs.map erased = ds.map erased ∧ r = r' := by
  induction cs generalizing ds with
  | nil =>
    cases ds with
    | nil => exact ⟨rfl, (List.cons.inj h).2⟩
    | cons d ds =>
      rw [toList_behind_cons] at h
      exact absurd (List.cons.inj h).1 (by decide)
  | cons c cs ih =>
    cases ds with
    | nil =>
      rw [toList_behind_cons] at h
      exact absurd (List.cons.inj h).1 (by decide)
    | cons d ds =>
      rw [toList_behind_cons, toList_behind_cons] at h
      have h := (List.cons.inj (List.cons.inj h).2).2
      obtain ⟨first, others⟩ := readable c List.mem_cons_self d _ _ (ends_behind cs r)
        (ends_behind ds r') h
      obtain ⟨rest, same⟩ := ih (fun e he => readable e (List.mem_cons_of_mem c he)) others
      exact ⟨by rw [List.map_cons, List.map_cons, first, rest], same⟩

/-- A row that is not empty does not begin with the parenthesis that closes it. -/
theorem describeRow_cons_ne (c : Check) (rest : List Check) (r r' : List Char) :
    (describeRow (c :: rest)).toList ++ r ≠ ')' :: r' := by
  intro h
  obtain ⟨letter, text, begins, other⟩ := c.exists_describe_eq_cons
  rw [describeRow_cons, String.toList_append, begins] at h
  exact other (.inr (List.cons.inj h).1)

theorem eq_of_describeRow_eq {cs ds : List Check} (readable : ∀ c ∈ cs, Readable c)
    {r r' : List Char}
    (h : (describeRow cs).toList ++ ')' :: r = (describeRow ds).toList ++ ')' :: r') :
    cs.map erased = ds.map erased ∧ r = r' := by
  cases cs with
  | nil =>
    cases ds with
    | nil => exact ⟨rfl, (List.cons.inj h).2⟩
    | cons d ds => exact absurd h.symm (describeRow_cons_ne d ds _ r)
  | cons c cs =>
    cases ds with
    | nil => exact absurd h (describeRow_cons_ne c cs _ r')
    | cons d ds =>
      -- put a comma in front of both rows, and read them as the rest of a row
      refine eq_of_behind_eq readable ?_
      rw [behind, behind, String.toList_append, String.toList_append, List.append_assoc,
        List.append_assoc, h]

/-- A rule is not described like a row. -/
theorem describe_leaf_ne_all (path path' : String) (rule : Rule) (children : List Check)
    (r r' : List Char) :
    (leaf path rule).describe.toList ++ r ≠ (all path' children).describe.toList ++ r' := by
  intro h
  obtain ⟨letter, text, begins, which⟩ := rule.exists_describe_eq_cons
  rw [toList_describe_all, describe, begins] at h
  obtain rfl := (List.cons.inj h).1
  exact absurd which (by decide)

/-- **Every check is readable.** -/
theorem readable (c : Check) : Readable c := by
  induction c using Check.induction with
  | leaf path rule =>
    intro d r r' hr hr' h
    cases d with
    | leaf path' rule' =>
      rw [describe, describe] at h
      obtain ⟨same, rest⟩ := Text.eq_of_append_eq (fun _ => not_isDelimiter_of_mem)
        (fun _ => not_isDelimiter_of_mem) hr hr' h
      have rules := Rule.measuring_eq_of_describe_eq (String.toList_inj.mp same)
      exact ⟨by rw [erased_leaf, erased_leaf, rules], rest⟩
    | all path' children => exact absurd h (describe_leaf_ne_all path path' rule children r r')
  | all path children ih =>
    intro d r r' hr hr' h
    cases d with
    | leaf path' rule => exact absurd h.symm (describe_leaf_ne_all path' path rule children r' r)
    | all path' children' =>
      rw [toList_describe_all, toList_describe_all] at h
      simp only [List.cons.injEq, true_and] at h
      obtain ⟨same, rest⟩ := eq_of_describeRow_eq ih h
      exact ⟨by rw [erased_all, erased_all, same], rest⟩

/-- **A description gives a check away**, but for its paths and what its bounds
measure. -/
theorem describe_eq_iff (c d : Check) : c.describe = d.describe ↔ c.erased = d.erased := by
  constructor
  · intro h
    have whole : c.describe.toList ++ [] = d.describe.toList ++ [] := by rw [h]
    exact (c.readable d [] [] (by simp [Ends]) (by simp [Ends]) whole).1
  · intro h
    rw [← describe_erased, h, describe_erased]

/-- The letters of a row are those of its checks, and those between them. -/
theorem mem_describeRow {children : List Check} {letter : Char}
    (h : letter ∈ (describeRow children).toList) :
    letter = ',' ∨ letter = ' ' ∨ ∃ c ∈ children, letter ∈ c.describe.toList := by
  induction children with
  | nil => simp [describeRow] at h
  | cons c rest ih =>
    rw [describeRow_cons, String.toList_append] at h
    rcases List.mem_append.mp h with first | h
    · exact .inr (.inr ⟨c, List.mem_cons_self, first⟩)
    · cases rest with
      | nil => simp [behind] at h
      | cons d rest =>
        rw [behind, String.toList_append] at h
        rcases List.mem_append.mp h with between | h
        · have mark : letter = ',' ∨ letter = ' ' := by simpa using between
          exact mark.imp_right .inl
        · refine (ih h).imp_right (Or.imp_right ?_)
          rintro ⟨e, listed, he⟩
          exact ⟨e, List.mem_cons_of_mem c listed, he⟩

/-- No description holds a colon. -/
theorem colon_not_mem_describe (c : Check) : ':' ∉ c.describe.toList := by
  induction c using Check.induction with
  | leaf path rule =>
    rw [describe]
    intro h
    exact Rule.not_mem_of_mem_describe h (by decide)
  | all path children ih =>
    intro h
    have parts := toList_describe_all path children []
    rw [List.append_nil] at parts
    rw [parts] at h
    have row : ':' ∈ (describeRow children).toList := by simpa using h
    obtain comma | blank | ⟨c, listed, hc⟩ := mem_describeRow row
    · cases comma
    · cases blank
    · exact ih c listed hc

end Check

/-! ## Validators -/

namespace Validator

/-- **The text of a validator gives away its path and its description**, whatever
the path holds: the description begins behind the last colon. -/
theorem text_eq_iff (a b : Validator) :
    a.text = b.text ↔ a.path = b.path ∧ a.check.describe = b.check.describe := by
  constructor
  · intro h
    have shape (c : Validator) : c.text.toList =
        "Validator(".toList ++
          (c.path.toList ++ ':' :: ' ' :: (c.check.describe.toList ++ [')'])) := by
      simp [text]
    have behind (c : Validator) : ':' ∉ ' ' :: (c.check.describe.toList ++ [')']) := by
      have := c.check.colon_not_mem_describe
      simpa using this
    rw [← String.toList_inj, shape, shape] at h
    obtain ⟨path, rest⟩ :=
      Text.eq_of_append_cons_eq (behind a) (behind b) (List.append_cancel_left h)
    have described := List.append_cancel_right (List.cons.inj rest).2
    exact ⟨String.toList_inj.mp path, String.toList_inj.mp described⟩
  · rintro ⟨path, described⟩
    rw [text, text, path, described]

/-- Every check inside a compiled one has the path of the validator. -/
theorem map_path_of_compile {settings : Settings} {given : Option String} {schema : Value}
    {c : Validator} (h : compile settings given schema = .ok c) :
    c.check.map (fun _ => c.path) id = c.check := by
  obtain ⟨-, t, -, rfl⟩ := Schema.validator_compile_eq_ok_iff.mp h
  change (Schema.assemble _ _).map _ _ = Schema.assemble _ _
  rw [Schema.map_assemble, List.map_id]

/-- So of two compiled checks with one path, nothing is lost with the paths. -/
theorem erased_eq_iff_of_compile {settings settings' : Settings} {given given' : Option String}
    {schema schema' : Value} {a b : Validator} (ha : compile settings given schema = .ok a)
    (hb : compile settings' given' schema' = .ok b) (path : a.path = b.path) :
    a.check.erased = b.check.erased ↔
      a.check.map id (Rule.measuring false) = b.check.map id (Rule.measuring false) := by
  have restore {c : Validator} (h : c.check.map (fun _ => c.path) id = c.check) :
      c.check.erased.map (fun _ => c.path) id = c.check.map id (Rule.measuring false) := by
    rw [Check.erased, Check.map_map]
    conv_rhs => rw [← h, Check.map_map]
    rfl
  constructor
  · intro h
    rw [← restore (map_path_of_compile ha), ← restore (map_path_of_compile hb), h, path]
  · intro h
    have := congrArg (Check.map (fun _ => "") id) h
    rwa [Check.map_map, Check.map_map] at this

/-- **Descriptions and texts are uniquely readable.** Two checks share a
description exactly when they are the same without their paths and without what
their bounds measure. Two validators share a text exactly when they share their
path and their checks do a description; and of compiled ones, whose paths are all
that of the validator, exactly when they share their path and the checks are the
same but for what their bounds measure. -/
theorem text_reads_uniquely :
    (∀ c d : Check, c.describe = d.describe ↔ c.erased = d.erased) ∧
      (∀ a b : Validator, a.text = b.text ↔ a.path = b.path ∧ a.check.erased = b.check.erased) ∧
      ∀ (settings settings' : Settings) (given given' : Option String) (schema schema' : Value)
        (a b : Validator), compile settings given schema = .ok a →
        compile settings' given' schema' = .ok b →
          (a.text = b.text ↔ a.path = b.path ∧
            a.check.map id (Rule.measuring false) = b.check.map id (Rule.measuring false)) := by
  have texts (a b : Validator) :
      a.text = b.text ↔ a.path = b.path ∧ a.check.erased = b.check.erased := by
    rw [text_eq_iff, Check.describe_eq_iff]
  refine ⟨Check.describe_eq_iff, texts, ?_⟩
  intro settings settings' given given' schema schema' a b ha hb
  rw [texts]
  exact and_congr_right fun path => erased_eq_iff_of_compile ha hb path

/-- A path that ends like a description is told apart from the path before it,
and what bounds measure is not told. -/
theorem text_reads_uniquely_colon :
    compile { rootPath := "p: all()" } none Schema.threeSchema =
        .ok (Schema.three "p: all()" false) ∧
      compile { rootPath := "p: all()", realNumberBounds := true } none Schema.threeSchema =
        .ok (Schema.three "p: all()" true) ∧
      compile { rootPath := "p" } none Schema.threeSchema = .ok (Schema.three "p" false) ∧
      (Schema.three "p: all()" false).text = (Schema.three "p: all()" true).text ∧
      (Schema.three "p: all()" false).text ≠ (Schema.three "p" false).text := by
  have strict : compile { rootPath := "p: all()" } none Schema.threeSchema =
      .ok (Schema.three "p: all()" false) := by
    decide +kernel
  have wide : compile { rootPath := "p: all()", realNumberBounds := true } none
      Schema.threeSchema = .ok (Schema.three "p: all()" true) := by
    decide +kernel
  have before : compile { rootPath := "p" } none Schema.threeSchema =
      .ok (Schema.three "p" false) := by
    decide +kernel
  refine ⟨strict, wide, before, ?_, ?_⟩
  · exact (text_reads_uniquely.2.2 _ _ _ _ _ _ _ _ strict wide).mpr ⟨rfl, by decide +kernel⟩
  · intro same
    have paths := ((text_reads_uniquely.2.2 _ _ _ _ _ _ _ _ strict before).mp same).1
    exact absurd paths (by decide)

end Validator

end Conformance
