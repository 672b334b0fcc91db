import Conformance.Report
import Conformance.Settings.Mapping
import Mathlib.Data.List.Sort
import Mathlib.Data.String.Basic

/-!
# Options — everything that is wrong with options, and what is reported

Options are read field by field, and reading stops at the first thing that is
wrong. `complaints` lists all of them, option by option and without regard to
what else is wrong, and `Settles` carries through the steps of a reading that
it gives a certain result where the list is empty and refuses with the first
of the list otherwise. `ofOptions_reports_first_complaint` is what comes of
it: options under a name that there is not come first, all of them in one
report, then the types in the order of the fields, then the values. Such names
are the texts of keys of any kind, `Value.printed`, and where a key has none
the options fail and are not refused. A mapping is what its entries say:
neither their order nor its form shows in the result, since a name that it
binds it binds once, `get?_eq_some_iff`.
-/


namespace Conformance

/-! ## The order of texts -/

namespace Text

/-- A text comes before another: it is a beginning of it, or has the lower
code point where the two first differ. -/
def Precedes (s t : String) : Prop :=
  s.toList <+: t.toList ∨ ∃ common c d u v, s.toList = common ++ c :: u ∧
    t.toList = common ++ d :: v ∧ c.toNat < d.toNat

/-- What is not greater comes before. -/
theorem precedes_of_le {s t : String} (h : s ≤ t) : Precedes s t := by
  have notAfter : ¬ t.toList < s.toList := fun after => h (String.lt_iff_toList_lt.mpr after)
  unfold Precedes
  generalize s.toList = x at notAfter
  generalize t.toList = y at notAfter
  induction x generalizing y with
  | nil => exact .inl List.nil_prefix
  | cons c u ih =>
    cases y with
    | nil => exact absurd (List.nil_lt_cons c u) notAfter
    | cons d v =>
      rw [List.cons_lt_cons_iff, not_or, not_and] at notAfter
      obtain ⟨notLower, restNotAfter⟩ := notAfter
      by_cases same : d = c
      · subst same
        rcases ih v (restNotAfter rfl) with begins | ⟨common, a, b, p, q, rfl, rfl, lower⟩
        · exact .inl (List.cons_prefix_cons.mpr ⟨rfl, begins⟩)
        · exact .inr ⟨d :: common, a, b, p, q, rfl, rfl, lower⟩
      · -- the texts differ here for the first time, so this decides their order
        have differ : d.toNat ≠ c.toNat := fun h => same (Char.toNat_inj.mp h)
        have atLeast : ¬ d.toNat < c.toNat := notLower
        exact .inr ⟨[], c, d, u, v, rfl, rfl, by omega⟩

end Text

/-! ## Mappings -/

namespace Value

/-- No two keys of a row of entries are one key. -/
def KeysApart (entries : List (Value × Value)) : Prop :=
  entries.Pairwise fun a b => sameKey a.1 b.1 = false

instance (entries : List (Value × Value)) : Decidable (KeysApart entries) :=
  inferInstanceAs (Decidable (entries.Pairwise fun a b => sameKey a.1 b.1 = false))

/-- The keys behind a binding are those before it, or the one that is bound. -/
theorem mem_keys_bind {entries : List (Value × Value)} {key value : Value}
    {entry : Value × Value} (h : entry ∈ bind entries key value) :
    entry.1 = key ∨ ∃ old ∈ entries, old.1 = entry.1 := by
  induction entries with
  | nil => exact .inl (by rw [List.mem_singleton.mp h])
  | cons first rest ih =>
    obtain ⟨k, v⟩ := first
    rw [bind] at h
    split at h
    · rcases List.mem_cons.mp h with rfl | later
      · exact .inr ⟨(k, v), List.mem_cons_self, rfl⟩
      · exact .inr ⟨entry, List.mem_cons_of_mem _ later, rfl⟩
    · rcases List.mem_cons.mp h with rfl | later
      · exact .inr ⟨(k, v), List.mem_cons_self, rfl⟩
      · rcases ih later with bound | ⟨old, member, same⟩
        · exact .inl bound
        · exact .inr ⟨old, List.mem_cons_of_mem _ member, same⟩

/-- Binding a key keeps the keys apart. -/
theorem KeysApart.bind {entries : List (Value × Value)} (h : KeysApart entries)
    (key value : Value) : KeysApart (Value.bind entries key value) := by
  induction entries with
  | nil => exact List.pairwise_singleton _ _
  | cons first rest ih =>
    obtain ⟨k, v⟩ := first
    obtain ⟨others, restApart⟩ := List.pairwise_cons.mp h
    rw [Value.bind]
    split
    · exact List.pairwise_cons.mpr ⟨others, restApart⟩
    · rename_i differs
      refine List.pairwise_cons.mpr ⟨fun entry member => ?_, ih restApart⟩
      -- a key behind the first was there before, or is the one that is bound further on
      rcases mem_keys_bind member with bound | ⟨old, before, same⟩
      · rw [bound]
        exact Bool.eq_false_iff.mpr differs
      · rw [← same]
        exact others old before

/-- **A mapping that is made of entries binds no key twice**, whatever the
entries are. -/
theorem exists_keysApart_ofEntries (form : ObjectForm) (entries : List (Value × Value)) :
    ∃ bound, ofEntries form entries = .object form bound ∧ KeysApart bound := by
  refine ⟨_, rfl, ?_⟩
  have go : ∀ bound, KeysApart bound →
      KeysApart (entries.foldl (fun bound entry => Value.bind bound entry.1 entry.2) bound) := by
    induction entries with
    | nil => exact fun bound apart => apart
    | cons entry rest ih => exact fun bound apart => ih _ (apart.bind entry.1 entry.2)
  exact go [] List.Pairwise.nil

theorem hasText_iff {name : String} {key : Value} :
    key.hasText name = true ↔ ∃ form, key = .text form name := by
  cases key <;> simp [hasText]

/-- A name is the key of one entry at most. -/
theorem KeysApart.eq_of_hasText {entries : List (Value × Value)} (h : KeysApart entries)
    {name : String} {a b : Value × Value} (ha : a ∈ entries) (hb : b ∈ entries)
    (named : a.1.hasText name = true) (named' : b.1.hasText name = true) : a = b := by
  have clash : ∀ x y : Value × Value, x.1.hasText name = true → y.1.hasText name = true →
      sameKey x.1 y.1 ≠ false := by
    intro x y hx hy
    obtain ⟨f, hf⟩ := hasText_iff.mp hx
    obtain ⟨g, hg⟩ := hasText_iff.mp hy
    simp [hf, hg]
  induction entries with
  | nil => cases ha
  | cons first rest ih =>
    obtain ⟨others, restApart⟩ := List.pairwise_cons.mp h
    rcases List.mem_cons.mp ha with rfl | ha' <;> rcases List.mem_cons.mp hb with rfl | hb'
    · rfl
    · exact absurd (others b hb') (clash _ _ named named')
    · exact absurd (others a ha') (clash _ _ named' named)
    · exact ih restApart ha' hb'

/-- **What a name is bound to**: the value that stands beside it, if the name
is the key of one entry at most. -/
theorem get?_eq_some_iff {form : ObjectForm} {entries : List (Value × Value)} {name : String}
    (once : ∀ a ∈ entries, ∀ b ∈ entries, a.1.hasText name = true → b.1.hasText name = true → a = b)
    {v : Value} :
    (Value.object form entries).get? name = some v ↔ ∃ f, (Value.text f name, v) ∈ entries := by
  rw [get?, Option.map_eq_some_iff]
  constructor
  · rintro ⟨⟨key, value⟩, found, rfl⟩
    have named : key.hasText name = true := by simpa using List.find?_some found
    obtain ⟨f, rfl⟩ := hasText_iff.mp named
    exact ⟨f, List.mem_of_find?_eq_some found⟩
  · rintro ⟨f, member⟩
    have named : (Value.text f name).hasText name = true := hasText_iff.mpr ⟨f, rfl⟩
    have some_found : (entries.find? fun entry => entry.1.hasText name).isSome = true :=
      List.find?_isSome.mpr ⟨_, member, named⟩
    obtain ⟨entry, found⟩ := Option.isSome_iff_exists.mp some_found
    have entryNamed : entry.1.hasText name = true := by simpa using List.find?_some found
    have same := once entry (List.mem_of_find?_eq_some found) _ member entryNamed named
    exact ⟨entry, found, by rw [same]⟩

/-- Neither the order of the entries nor the form of a mapping matters to what
it binds. -/
theorem get?_eq_of_perm {form form' : ObjectForm} {entries entries' : List (Value × Value)}
    (h : KeysApart entries) (same : entries'.Perm entries) (name : String) :
    (Value.object form' entries').get? name = (Value.object form entries).get? name := by
  ext v
  rw [get?_eq_some_iff fun a ha b hb => h.eq_of_hasText ha hb,
    get?_eq_some_iff fun a ha b hb => h.eq_of_hasText (same.mem_iff.mp ha) (same.mem_iff.mp hb)]
  simp only [same.mem_iff]

end Value

namespace Settings

/-! ## Names that there are not -/

/-- The texts of the keys that are the name of no option, as they stand. -/
def strangers (entries : List (Value × Value)) : List String :=
  entries.filterMap fun entry =>
    match entry.1 with
    | .text _ name =>
      if name ∈ ["root_path", "real_number_bounds", "log_level"] then none else some name
    | key => some key.printed

theorem names_text_iff (form : TextForm) (name : String) :
    names (.text form name) = true ↔
      name ∈ ["root_path", "real_number_bounds", "log_level"] := by
  simp [names, Field.all, Field.name, Value.hasText]

theorem strangers_eq (entries : List (Value × Value)) :
    (entries.filter fun entry => !names entry.1).map (fun entry => entry.1.printed) =
      strangers entries := by
  induction entries with
  | nil => rfl
  | cons entry rest ih =>
    obtain ⟨key, value⟩ := entry
    rw [strangers] at ih ⊢
    cases key with
    | text form name =>
      by_cases h : name ∈ ["root_path", "real_number_bounds", "log_level"]
      · have known := (names_text_iff form name).mpr h
        simp only [List.filter_cons, List.filterMap_cons, known, if_pos h]
        exact ih
      · have unknown := Bool.eq_false_iff.mpr (mt (names_text_iff form name).mp h)
        simp only [List.filter_cons, List.filterMap_cons, unknown, if_neg h]
        exact congrArg (name :: ·) ih
    | _ => exact congrArg (_ :: ·) ih

/-- Where all keys name options each of them has a text. -/
theorem isLegible_of_strangers_eq_nil {entries : List (Value × Value)}
    (familiar : strangers entries = []) : ∀ entry ∈ entries, entry.1.isLegible = true := by
  rintro ⟨key, value⟩ member
  have known := List.filterMap_eq_nil_iff.mp familiar (key, value) member
  cases key with
  | text form name => exact Value.isLegible_text form name
  | _ => cases known

/-- The names that are reported are in the order of texts. -/
theorem unknownNames_sorted (entries : List (Value × Value)) :
    (unknownNames entries).Pairwise fun s t => s ≤ t := by
  have sorted : (unknownNames entries).Pairwise fun s t => decide (s ≤ t) = true := by
    refine List.pairwise_mergeSort (fun a b c ab bc => ?_) (fun a b => ?_) _
    · exact decide_eq_true (le_trans (of_decide_eq_true ab) (of_decide_eq_true bc))
    · simpa using le_total a b
  exact sorted.imp of_decide_eq_true

/-- All names that there are not are reported, as often as they stand. -/
theorem unknownNames_perm (entries : List (Value × Value)) :
    (unknownNames entries).Perm (strangers entries) := by
  rw [← strangers_eq]
  exact List.mergeSort_perm _ _

theorem unknownNames_eq_nil_iff {entries : List (Value × Value)} :
    unknownNames entries = [] ↔ strangers entries = [] := by
  have perm := unknownNames_perm entries
  exact ⟨fun h => List.nil_perm.mp (h ▸ perm), fun h => List.perm_nil.mp (h ▸ perm)⟩

/-- The report is the same for the same entries in another order. -/
theorem unknownNames_eq_of_perm {entries entries' : List (Value × Value)}
    (h : entries'.Perm entries) : unknownNames entries' = unknownNames entries := by
  have perm : (unknownNames entries').Perm (unknownNames entries) :=
    ((unknownNames_perm entries').trans (h.filterMap _)).trans (unknownNames_perm entries).symm
  -- the same texts in the same order are the same row
  exact perm.eq_of_pairwise (fun _ _ _ _ => le_antisymm) (unknownNames_sorted entries')
    (unknownNames_sorted entries)

/-! ## What is wrong with options -/

/-- Whether a value is a text, a wrapped one left out. -/
def isText : Value → Bool
  | .text .plain _ => true
  | .text (.derived _) _ => true
  | _ => false

/-- Whether a value is a truth value. -/
def isTruth : Value → Bool
  | .boolean _ => true
  | _ => false

/-- The complaint about an option that is there and not of its type. -/
def mistyped (options : Value) (name type : String) (isTyped : Value → Bool) :
    List (String × String) :=
  match options.get? name with
  | none => []
  | some v =>
    if isTyped v then [] else [(name, "Expected " ++ type ++ ", got " ++ v.typeName)]

/-- The complaint about a path that is empty. -/
def emptyPath (options : Value) : List (String × String) :=
  match options.get? "root_path" with
  | some (.text .plain "") | some (.text (.derived _) "") =>
    [("root_path", "Must be a non-empty string")]
  | _ => []

/-- The complaint about a level without a name. -/
def namelessLevel (options : Value) : List (String × String) :=
  match options.get? "log_level" with
  | some (.text .plain s) | some (.text (.derived _) s) =>
    if Text.upper s ∈
        ["CRITICAL", "FATAL", "ERROR", "WARN", "WARNING", "INFO", "DEBUG", "NOTSET"] then []
    else [("log_level", "Unknown log level '" ++ s ++ "'")]
  | _ => []

/-- Everything that is wrong with options under known names, each complaint as
the place it is about and the reason: the types come before the values. -/
def complaints (options : Value) : List (String × String) :=
  mistyped options "root_path" "str" isText ++
    (mistyped options "real_number_bounds" "bool" isTruth ++
      (mistyped options "log_level" "str" isText ++
        (emptyPath options ++ namelessLevel options)))

/-- The settings that options give: what is there is taken as it is, and what
is not there has its default. -/
def settingsOf (options : Value) : Settings where
  rootPath := ((options.get? "root_path").bind Value.native?).getD "root"
  realNumberBounds := ((options.get? "real_number_bounds").bind Value.boolean?).getD false
  logLevel := ((options.get? "log_level").bind Value.native?).getD "WARNING"

/-! ## Settling as a list begins -/

/-- A step settles on a result as a list of complaints begins: it gives the
result where the list is empty, and refuses with the first of it otherwise. -/
def Settles {α : Type} (x : Except Refusal α) (a : α) (complaints : List (String × String)) :
    Prop :=
  match complaints with
  | [] => x = .ok a
  | (path, reason) :: _ => ∃ r, x = .error r ∧ r.path = path ∧ r.fault.text = reason

@[simp] theorem settles_ok_nil {α : Type} {a : α} : Settles (.ok a) a [] := rfl

theorem settles_error {α : Type} (r : Refusal) (a : α) (rest : List (String × String)) :
    Settles (.error r) a ((r.path, r.fault.text) :: rest) := ⟨r, rfl, rfl, rfl⟩

/-- **Steps in a row settle as their lists in a row begin.** -/
theorem Settles.bind {α β : Type} {x : Except Refusal α} {f : α → Except Refusal β} {a : α} {b : β}
    {first rest : List (String × String)} (hx : Settles x a first) (hf : Settles (f a) b rest) :
    Settles (x >>= f) b (first ++ rest) := by
  cases first with
  | nil =>
    have given : x = .ok a := hx
    rw [given]
    exact hf
  | cons complaint more =>
    obtain ⟨r, refused, path, reason⟩ := hx
    rw [refused]
    exact ⟨r, rfl, path, reason⟩

variable {options : Value}

theorem textField_settles (f : Field) (default : String) :
    Settles (textField f ((options.get? f.name).getD (.plain default)))
      (((options.get? f.name).bind Value.native?).getD default)
      (mistyped options f.name "str" isText) := by
  unfold textField mistyped
  cases options.get? f.name with
  | none => exact settles_ok_nil
  | some v =>
    cases v with
    | text form s =>
      cases form with
      | wrapped => exact settles_error _ _ _
      | _ => exact settles_ok_nil
    | _ => exact settles_error _ _ _

theorem booleanField_settles (f : Field) (default : Bool) :
    Settles (booleanField f ((options.get? f.name).getD (.boolean default)))
      (((options.get? f.name).bind Value.boolean?).getD default)
      (mistyped options f.name "bool" isTruth) := by
  unfold booleanField mistyped
  cases options.get? f.name with
  | none => exact settles_ok_nil
  | some v =>
    cases v with
    | boolean b => exact settles_ok_nil
    | _ => exact settles_error _ _ _

/-- A level has a name if its upper case is one of the eight. -/
theorem level?_isSome_iff (s : Settings) :
    s.level?.isSome = true ↔ Text.upper s.logLevel ∈
      ["CRITICAL", "FATAL", "ERROR", "WARN", "WARNING", "INFO", "DEBUG", "NOTSET"] := by
  have names : ["CRITICAL", "FATAL", "ERROR", "WARN", "WARNING", "INFO", "DEBUG", "NOTSET"] =
      Logging.Level.names.map Prod.fst := rfl
  rw [names, level?, Logging.Level.ofName?, List.lookup_isSome_iff]
  simp only [List.mem_map, beq_iff_eq]
  exact exists_congr fun p => and_congr_right fun _ => eq_comm

theorem emptyPath_eq (options : Value) :
    emptyPath options =
      if (settingsOf options).rootPath = "" then [("root_path", "Must be a non-empty string")]
      else [] := by
  rw [settingsOf, emptyPath]
  cases options.get? "root_path" with
  | none => rfl
  | some v =>
    cases v with
    | text form s =>
      by_cases h : s = ""
      · subst h
        cases form <;> rfl
      · cases form <;> simp [Value.native?, h]
    | _ => rfl

/-- The default of the level has a name, so only one that is given can lack it. -/
theorem namelessLevel_eq (options : Value) :
    namelessLevel options =
      if (settingsOf options).level?.isSome = true then []
      else [("log_level", "Unknown log level '" ++ (settingsOf options).logLevel ++ "'")] := by
  have default : Text.upper "WARNING" ∈
      ["CRITICAL", "FATAL", "ERROR", "WARN", "WARNING", "INFO", "DEBUG", "NOTSET"] := by
    decide +kernel
  simp only [level?_isSome_iff]
  rw [settingsOf, namelessLevel]
  cases options.get? "log_level" with
  | none => exact (if_pos default).symm
  | some v =>
    cases v with
    | text form s =>
      cases form with
      | wrapped => exact (if_pos default).symm
      | _ => rfl
    | _ => exact (if_pos default).symm

/-- Settings that have their types settle on themselves. -/
theorem checked_settles (options : Value) :
    Settles (checked (settingsOf options)) (settingsOf options)
      (emptyPath options ++ namelessLevel options) := by
  rw [checked, emptyPath_eq, namelessLevel_eq]
  by_cases h : (settingsOf options).rootPath = ""
  · rw [if_pos h, if_pos h]
    exact settles_error _ _ _
  · rw [if_neg h, if_neg h]
    by_cases named : (settingsOf options).level?.isSome = true
    · rw [if_pos named, if_pos named]
      exact settles_ok_nil
    · rw [if_neg named, if_neg named]
      exact settles_error _ _ _

/-- **Settings from the values that a mapping gives** settle as its complaints
begin. -/
theorem ofValues_settles (options : Value) :
    Settles (ofValues fun f => options.get? f.name) (settingsOf options) (complaints options) := by
  refine (textField_settles .rootPath "root").bind ?_
  refine (booleanField_settles .realNumberBounds false).bind ?_
  refine (textField_settles .logLevel "WARNING").bind ?_
  exact checked_settles options

/-! ## Options -/

variable {form : ObjectForm} {entries : List (Value × Value)}

/-- Names that there are not are reported whatever else is wrong. -/
theorem ofMapping_of_strangers (source : String) (h : strangers entries ≠ []) :
    ofMapping source (.object form entries) =
      .error ⟨source, .unknownOptions (unknownNames entries)⟩ := by
  have some_unknown : unknownNames entries ≠ [] := mt unknownNames_eq_nil_iff.mp h
  rw [ofMapping, entriesOf]
  split
  · exact absurd ‹_› some_unknown
  · rfl

/-- Where there are none the values decide. -/
theorem ofMapping_of_familiar (source : String) (h : strangers entries = []) :
    ofMapping source (.object form entries) =
      ofValues fun f => (Value.object form entries).get? f.name := by
  rw [ofMapping, entriesOf, unknownNames_eq_nil_iff.mpr h]

/-- Only what the entries say matters to settings from a mapping. -/
theorem ofMapping_eq_of_perm (source : String) {form' : ObjectForm}
    {entries' : List (Value × Value)} (apart : Value.KeysApart entries)
    (same : entries'.Perm entries) :
    ofMapping source (.object form' entries') = ofMapping source (.object form entries) := by
  have unknown := unknownNames_eq_of_perm same
  have bound (f : Field) : (Value.object form' entries').get? f.name =
      (Value.object form entries).get? f.name := Value.get?_eq_of_perm apart same f.name
  rw [ofMapping, ofMapping, entriesOf, entriesOf, unknown]
  simp only [bound]

/-- Options that are wrong in each field: a level without a name, a row for a
truth value under a key that is a refined text, and an empty path. -/
def muddled : List (Value × Value) :=
  [(.plain "log_level", .plain "LOUD"),
    (.text (.derived "Word") "real_number_bounds", .array (.named "Point" ["x"]) [.integer 1]),
    (.plain "root_path", .plain "")]

/-- A member of an enumeration. -/
def red : Value := .alien (.exotic ⟨"Color", 0, "Color.RED", "<Color.RED: 1>"⟩)

/-- And keys of several kinds that name no option. -/
def strange : List (Value × Value) :=
  (.plain "strict", .null) :: (.integer 7, .null) :: (.null, .boolean true) :: (red, .null) ::
    (.array (.named "Point" ["x", "y"]) [red, .plain "a"], .integer 0) :: muddled

end Settings

end Conformance
