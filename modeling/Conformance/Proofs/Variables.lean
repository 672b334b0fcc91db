import Conformance.Proofs.Options
import Conformance.Settings.Environment
import Mathlib.Data.List.TakeWhile

/-!
# Variables — an environment as options

An environment stands for options: two texts are taken over as they are, and
the text of the third becomes the truth value that it spells.
`ofEnvironment_refines_options` says that settings from an environment are
those from these options, refusals included, with one exception: a text that
spells no truth value is refused first, whatever else is wrong. What a text
spells is found between the white space at its ends, `stripped_iff`. No other
variable is looked at.
-/


namespace Conformance

/-! ## White space at the ends -/

namespace Text

variable {s t : List Char}

/-- What is between the white space at the ends of a text: it has none at its
own. -/
def Stripped (text core : String) : Prop :=
  ∃ before behind, (∀ c ∈ before, isBlank c = true) ∧ (∀ c ∈ behind, isBlank c = true) ∧
    text.toList = before ++ core.toList ++ behind ∧
    (∀ c ∈ core.toList.head?, isBlank c = false) ∧ ∀ c ∈ core.toList.getLast?, isBlank c = false

/-- Dropping white space stops at the first character that is none. -/
theorem dropWhile_isBlank_append {before : List Char} (blank : ∀ c ∈ before, isBlank c = true)
    (sound : ∀ c ∈ s.head?, isBlank c = false) : (before ++ s).dropWhile isBlank = s := by
  rw [List.dropWhile_append_of_pos blank]
  cases s with
  | nil => rfl
  | cons c rest => exact List.dropWhile_cons_of_neg (by simp [sound c rfl])

/-- Where it stops there is no white space. -/
theorem isBlank_head?_dropWhile (s : List Char) :
    ∀ c ∈ (s.dropWhile isBlank).head?, isBlank c = false := by
  intro c first
  have stop := List.head?_dropWhile_not isBlank s
  rw [Option.mem_def.mp first] at stop
  exact stop

/-- What is dropped is white space. -/
theorem exists_eq_append_dropWhile (s : List Char) :
    ∃ before, (∀ c ∈ before, isBlank c = true) ∧ s = before ++ s.dropWhile isBlank :=
  ⟨s.takeWhile isBlank, fun _ member => List.mem_takeWhile_imp member,
    List.takeWhile_append_dropWhile.symm⟩

/-- The core of a text is what trimming leaves. -/
theorem Stripped.eq_trim {text core : String} (h : Stripped text core) : core = trim text := by
  obtain ⟨before, behind, blank, blank', whole, first, last⟩ := h
  have blankRow : ∀ c ∈ behind.reverse, isBlank c = true :=
    fun c member => blank' c (List.mem_reverse.mp member)
  have trimmed : trimList text.toList = core.toList := by
    rw [whole, trimList, List.append_assoc]
    by_cases empty : core.toList = []
    · -- all of the text is white space, and the first pass drops it
      have all : ∀ c ∈ before ++ behind, isBlank c = true := by
        intro c member
        exact (List.mem_append.mp member).elim (blank c) (blank' c)
      have dropped := dropWhile_isBlank_append (s := []) all (by simp)
      rw [List.append_nil] at dropped
      rw [empty, List.nil_append, dropped]
      rfl
    · have front : ∀ c ∈ (core.toList ++ behind).head?, isBlank c = false := by
        rwa [List.head?_append_of_ne_nil _ empty]
      have back : ∀ c ∈ core.toList.reverse.head?, isBlank c = false := by
        rwa [List.head?_reverse]
      rw [dropWhile_isBlank_append blank front, List.reverse_append,
        dropWhile_isBlank_append blankRow back, List.reverse_reverse]
  rw [trim, trimmed, String.ofList_toList]

/-- And trimming leaves it. -/
theorem stripped_trim (text : String) : Stripped text (trim text) := by
  obtain ⟨before, blank, front⟩ := exists_eq_append_dropWhile text.toList
  obtain ⟨behind, blank', back⟩ :=
    exists_eq_append_dropWhile (text.toList.dropWhile isBlank).reverse
  have core : (trim text).toList =
      ((text.toList.dropWhile isBlank).reverse.dropWhile isBlank).reverse := by
    rw [trim, String.toList_ofList, trimList]
  have middle : text.toList.dropWhile isBlank = (trim text).toList ++ behind.reverse := by
    rw [core, ← List.reverse_append, ← back, List.reverse_reverse]
  refine ⟨before, behind.reverse, blank, fun c member => blank' c (List.mem_reverse.mp member),
    by rw [List.append_assoc, ← middle, ← front], fun c first => ?_, fun c last => ?_⟩
  · refine isBlank_head?_dropWhile text.toList c ?_
    rw [middle, List.head?_append, Option.mem_def.mp first]
    rfl
  · refine isBlank_head?_dropWhile (text.toList.dropWhile isBlank).reverse c ?_
    rwa [core, List.getLast?_reverse] at last

/-- **Trimming finds the one text between the white space.** -/
theorem stripped_iff {text core : String} : Stripped text core ↔ core = trim text :=
  ⟨Stripped.eq_trim, fun h => h ▸ stripped_trim text⟩

end Text

/-! ## The options of an environment -/

namespace Settings

/-- The words of truth values. -/
def truthWords : List String := ["1", "true", "yes", "on", "0", "false", "no", "off", ""]

/-- The option that holds the text of a variable, if the variable is set. -/
def textOption (env : Environment) (name place : String) : Option (Value × Value) :=
  (env.get? place).map fun text => (.plain name, .plain text)

/-- The option that holds what the text of a variable spells. -/
def truthOption (env : Environment) (name place : String) : Option (Value × Value) :=
  (env.get? place).map fun text =>
    (.plain name, .boolean (decide (Text.lower (Text.trim text) ∈ ["1", "true", "yes", "on"])))

/-- The options that an environment stands for. -/
def optionsOf (env : Environment) : List (Value × Value) :=
  (textOption env "root_path" "OPENAPI_SCHEMA_CHECKS_ROOT_PATH").toList ++
    (truthOption env "real_number_bounds" "OPENAPI_SCHEMA_CHECKS_REAL_NUMBER_BOUNDS").toList ++
      (textOption env "log_level" "OPENAPI_SCHEMA_CHECKS_LOG_LEVEL").toList

variable {env : Environment}

/-- What is spelled between the white space is all that counts of a text. -/
theorem readBoolean?_eq {text core : String} (h : Text.Stripped text core) :
    readBoolean? text =
      if Text.lower core ∈ truthWords then
        some (decide (Text.lower core ∈ ["1", "true", "yes", "on"]))
      else none := by
  have words : truthWords = trueWords ++ falseWords := rfl
  rw [h.eq_trim, readBoolean?, words]
  by_cases yes : Text.lower (Text.trim text) ∈ trueWords
  · have contained := List.contains_iff_mem.mpr yes
    rw [if_pos (List.mem_append_left _ yes)]
    simp only [contained, if_true]
    exact congrArg some (decide_eq_true yes).symm
  · have uncontained := Bool.eq_false_iff.mpr (mt List.contains_iff_mem.mp yes)
    by_cases no : Text.lower (Text.trim text) ∈ falseWords
    · have contained := List.contains_iff_mem.mpr no
      rw [if_pos (List.mem_append_right _ no)]
      simp only [uncontained, contained, if_true]
      exact congrArg some (decide_eq_false yes).symm
    · have uncontained' := Bool.eq_false_iff.mpr (mt List.contains_iff_mem.mp no)
      rw [if_neg (mt List.mem_append.mp (not_or.mpr ⟨yes, no⟩))]
      simp only [uncontained, uncontained']
      rfl

/-- The options of an environment have names that there are. -/
theorem strangers_optionsOf (env : Environment) : strangers (optionsOf env) = [] := by
  rw [optionsOf, textOption, truthOption, textOption]
  cases env.get? "OPENAPI_SCHEMA_CHECKS_ROOT_PATH" <;>
    cases env.get? "OPENAPI_SCHEMA_CHECKS_REAL_NUMBER_BOUNDS" <;>
    cases env.get? "OPENAPI_SCHEMA_CHECKS_LOG_LEVEL" <;> rfl

/-- And they are texts of their own. -/
theorem isWrapped_optionsOf (env : Environment) :
    ∀ entry ∈ entriesOf (.object .plain (optionsOf env)), isWrapped entry.1 = false := by
  intro entry member
  rw [entriesOf, optionsOf, List.mem_append, List.mem_append, textOption, truthOption, textOption]
    at member
  simp only [Option.mem_toList, Option.map_eq_some_iff] at member
  rcases member with (⟨_, _, rfl⟩ | ⟨_, _, rfl⟩) | ⟨_, _, rfl⟩ <;> rfl

/-- What they bind the name of each field to. -/
theorem get?_optionsOf (env : Environment) (f : Field) :
    (Value.object .plain (optionsOf env)).get? f.name =
      match f with
      | .realNumberBounds => (env.get? f.variableName).map fun text =>
          .boolean (decide (Text.lower (Text.trim text) ∈ ["1", "true", "yes", "on"]))
      | _ => (env.get? f.variableName).map .plain := by
  rw [optionsOf, textOption, truthOption, textOption]
  have root : Field.rootPath.variableName = "OPENAPI_SCHEMA_CHECKS_ROOT_PATH" := rfl
  have flag : Field.realNumberBounds.variableName = "OPENAPI_SCHEMA_CHECKS_REAL_NUMBER_BOUNDS" :=
    rfl
  have level : Field.logLevel.variableName = "OPENAPI_SCHEMA_CHECKS_LOG_LEVEL" := rfl
  -- whichever of the three are set, the entry of the field is found behind the others
  cases f with
  | rootPath =>
    dsimp only
    rw [root]
    cases env.get? "OPENAPI_SCHEMA_CHECKS_ROOT_PATH" <;>
      cases env.get? "OPENAPI_SCHEMA_CHECKS_REAL_NUMBER_BOUNDS" <;>
      cases env.get? "OPENAPI_SCHEMA_CHECKS_LOG_LEVEL" <;> rfl
  | realNumberBounds =>
    dsimp only
    rw [flag]
    cases env.get? "OPENAPI_SCHEMA_CHECKS_ROOT_PATH" <;>
      cases env.get? "OPENAPI_SCHEMA_CHECKS_REAL_NUMBER_BOUNDS" <;>
      cases env.get? "OPENAPI_SCHEMA_CHECKS_LOG_LEVEL" <;> rfl
  | logLevel =>
    dsimp only
    rw [level]
    cases env.get? "OPENAPI_SCHEMA_CHECKS_ROOT_PATH" <;>
      cases env.get? "OPENAPI_SCHEMA_CHECKS_REAL_NUMBER_BOUNDS" <;>
      cases env.get? "OPENAPI_SCHEMA_CHECKS_LOG_LEVEL" <;> rfl

/-- **Settings from an environment are those from its options**, if the truth
value is one. -/
theorem ofEnvironment_eq (h : ∀ text core,
      env.get? "OPENAPI_SCHEMA_CHECKS_REAL_NUMBER_BOUNDS" = some text →
        Text.Stripped text core → Text.lower core ∈ truthWords) :
    ofEnvironment env = ofValues fun f => (Value.object .plain (optionsOf env)).get? f.name := by
  rw [ofEnvironment, given]
  cases set : env.get? Field.realNumberBounds.variableName with
  | none =>
    dsimp only
    refine congrArg ofValues (funext fun f => ?_)
    rw [get?_optionsOf]
    cases f with
    | realNumberBounds =>
      rw [set]
      rfl
    | _ => rfl
  | some text =>
    have spelled := readBoolean?_eq (Text.stripped_trim text)
    rw [if_pos (h text _ set (Text.stripped_trim text))] at spelled
    dsimp only
    rw [spelled]
    dsimp only
    refine congrArg ofValues (funext fun f => ?_)
    rw [get?_optionsOf]
    cases f with
    | realNumberBounds =>
      rw [set]
      rfl
    | _ => rfl

/-- A text that spells no truth value is refused whatever else is set. -/
theorem ofEnvironment_of_not_truth {text core : String}
    (set : env.get? "OPENAPI_SCHEMA_CHECKS_REAL_NUMBER_BOUNDS" = some text)
    (stripped : Text.Stripped text core) (wrong : Text.lower core ∉ truthWords) :
    ofEnvironment env = .error ⟨Field.realNumberBounds.variableName, .notBoolean text⟩ := by
  have set' : env.get? Field.realNumberBounds.variableName = some text := set
  have spelled := readBoolean?_eq stripped
  rw [if_neg wrong] at spelled
  rw [ofEnvironment, given, set']
  dsimp only
  rw [spelled]

/-- Only the variables of the fields are looked at. -/
theorem ofEnvironment_congr {env' : Environment}
    (h : ∀ f : Field, env'.get? f.variableName = env.get? f.variableName) :
    ofEnvironment env' = ofEnvironment env := by
  have flag := h .realNumberBounds
  rw [ofEnvironment, ofEnvironment, given, given, flag]
  simp only [h]

/-- **Settings from an environment are those from the options it stands for.**
The one exception is a text that spells no truth value: it is refused as it is
set, by the name of its variable, even where other variables are wrong as well.
What a text spells is what stands between the white space at its ends, in
letters of any case. Variables of other names do not matter. -/
theorem ofEnvironment_refines_options (env : Environment) :
    (∀ text core, env.get? "OPENAPI_SCHEMA_CHECKS_REAL_NUMBER_BOUNDS" = some text →
      Text.Stripped text core → Text.lower core ∉ truthWords →
        ∃ r, ofEnvironment env = .error r ∧ (Error.configuration r).report =
          ⟨.configuration, "OPENAPI_SCHEMA_CHECKS_REAL_NUMBER_BOUNDS",
            "Expected a boolean, got '" ++ text ++ "'"⟩) ∧
    ((∀ text core, env.get? "OPENAPI_SCHEMA_CHECKS_REAL_NUMBER_BOUNDS" = some text →
      Text.Stripped text core → Text.lower core ∈ truthWords) →
        ∀ source, (ofEnvironment env).mapError .refusal =
          ofOptions source (.object .plain (optionsOf env))) ∧
    ∀ env' : Environment,
      (∀ name ∈ ["OPENAPI_SCHEMA_CHECKS_ROOT_PATH", "OPENAPI_SCHEMA_CHECKS_REAL_NUMBER_BOUNDS",
        "OPENAPI_SCHEMA_CHECKS_LOG_LEVEL"], env'.get? name = env.get? name) →
      ofEnvironment env' = ofEnvironment env := by
  refine ⟨fun text core set stripped wrong => ?_, fun right source => ?_, fun env' same => ?_⟩
  · exact ⟨_, ofEnvironment_of_not_truth set stripped wrong, rfl⟩
  · have familiar := strangers_optionsOf env
    have legible : ∀ entry ∈ entriesOf (.object .plain (optionsOf env)), entry.1.isLegible = true :=
      isLegible_of_strangers_eq_nil familiar
    rw [ofEnvironment_eq right, ofOptions_eq_ofMapping legible fun _ => isWrapped_optionsOf env,
      ofMapping_of_familiar source familiar]
  · refine ofEnvironment_congr fun f => same _ ?_
    cases f <;> decide

/-- A truth value between spaces of many kinds and in mixed case, an empty path,
and a variable that is none of the three. -/
def settledEnvironment : Environment :=
  [("OPENAPI_SCHEMA_CHECKS_STRICT", "1"),
    ("OPENAPI_SCHEMA_CHECKS_REAL_NUMBER_BOUNDS", "\u00a0 yEs\n\u3000"),
    ("OPENAPI_SCHEMA_CHECKS_ROOT_PATH", "")]

/-- The same with a text that spells no truth value. -/
def unsettledEnvironment : Environment :=
  ("OPENAPI_SCHEMA_CHECKS_REAL_NUMBER_BOUNDS", " maybe ") :: settledEnvironment

/-- The empty path is refused as it is in options, unless the truth value is
refused before it. -/
theorem ofEnvironment_refines_options_unsettled :
    (∃ r, ofEnvironment unsettledEnvironment = .error r ∧ (Error.configuration r).report =
      ⟨.configuration, "OPENAPI_SCHEMA_CHECKS_REAL_NUMBER_BOUNDS",
        "Expected a boolean, got ' maybe '"⟩) ∧
    ofEnvironment settledEnvironment.tail = ofEnvironment settledEnvironment ∧
    (ofEnvironment settledEnvironment).mapError .refusal =
      ofOptions "config" (.object .plain
        [(.plain "root_path", .plain ""), (.plain "real_number_bounds", .boolean true)]) := by
  obtain ⟨refused, -, -⟩ := ofEnvironment_refines_options unsettledEnvironment
  obtain ⟨-, agrees, apart⟩ := ofEnvironment_refines_options settledEnvironment
  have core : Text.Stripped " maybe " "maybe" := Text.stripped_iff.mpr (by decide +kernel)
  have yes : Text.lower (Text.trim "\u00a0 yEs\n\u3000") = "yes" := by decide +kernel
  refine ⟨refused " maybe " "maybe" rfl core (by decide +kernel), apart _ (by decide), ?_⟩
  refine (agrees (fun text core set stripped => ?_) "config").trans ?_
  · obtain rfl : "\u00a0 yEs\n\u3000" = text := Option.some.inj set
    rw [stripped.eq_trim, yes]
    decide
  · have flag : truthOption settledEnvironment "real_number_bounds"
        "OPENAPI_SCHEMA_CHECKS_REAL_NUMBER_BOUNDS" =
          some (.plain "real_number_bounds", .boolean true) := by
      change some (Value.plain "real_number_bounds",
        Value.boolean (decide (Text.lower (Text.trim "\u00a0 yEs\n\u3000") ∈ _))) = _
      rw [yes]
      rfl
    rw [optionsOf, flag]
    rfl

end Settings

end Conformance
