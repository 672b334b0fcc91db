import Conformance.Proofs.Elsewhere
import Conformance.Settings.File

/-!
# Obedience — how settings are come by, and what the package makes of their level

There are four ways to settings: the values of the fields, a mapping, an
environment and a file. Each ends in `Settings.ofValues`, `ofValues_given`, so
whatever settings anybody has, each field holds a value of its type, the path is
not empty and the level has a name, `ofValues_eq_ok_iff`. The name is looked up
twice, in one table when settings are made and in another when they are obeyed,
and what the first holds the second holds too, so no level stands in.

The package then has that level until it is configured again, and its records
are admitted from there on. The level `NOTSET` is none of its own: it leaves the
records to the root, and a record without a positive level is never admitted,
however low the level of the root is. The name of the package is plain, so it makes
no difference to its records whether answers are kept, `LiveSession.step_of_plain`.
-/


namespace Conformance

namespace Settings

/-! ## What settings are made of -/

/-- A field of settings holds what a value stands for, and the value has the type
of the field. -/
def Holds (c : Settings) : Field → Value → Prop
  | .rootPath, v => v.native? = some c.rootPath
  | .realNumberBounds, v => v.boolean? = some c.realNumberBounds
  | .logLevel, v => v.native? = some c.logLevel

theorem textField_eq_ok_iff {f : Field} {v : Value} {s : String} :
    textField f v = .ok s ↔ v.native? = some s := by
  unfold textField
  cases v.native? <;> simp

theorem booleanField_eq_ok_iff {f : Field} {v : Value} {b : Bool} :
    booleanField f v = .ok b ↔ v.boolean? = some b := by
  unfold booleanField
  cases v.boolean? <;> simp

/-- **Settings are made of values that have the types of their fields**, or of
defaults, if the path is not empty and the level has a name. -/
theorem ofValues_eq_ok_iff {given : Field → Option Value} {c : Settings} :
    ofValues given = .ok c ↔
      (∀ f, c.Holds f ((given f).getD (({} : Settings).value f))) ∧ c.rootPath ≠ "" ∧
        c.level?.isSome = true := by
  simp only [ofValues, bind_eq_ok_iff, textField_eq_ok_iff, booleanField_eq_ok_iff,
    checked_eq_ok_iff]
  constructor
  · rintro ⟨rootPath, path, realNumberBounds, bounds, logLevel, level, rfl, nonempty, named⟩
    refine ⟨fun f => ?_, nonempty, named⟩
    cases f with
    | rootPath => exact path
    | realNumberBounds => exact bounds
    | logLevel => exact level
  · rintro ⟨holds, nonempty, named⟩
    exact ⟨_, holds .rootPath, _, holds .realNumberBounds, _, holds .logLevel, rfl, nonempty, named⟩

/-! ## The ways to settings -/

/-- A way to settings, with all that it is given. -/
inductive Route where
  | values (given : Field → Option Value)
  | mapping (source : String) (options : Value)
  | environment (env : Environment)
  | file (load : Yaml.Loader) (path : String) (state : FileState)

namespace Route

/-- The settings at the end of a way, if it leads to any. -/
def settings? : Route → Option Settings
  | values given => (ofValues given).toOption
  | mapping source options => (ofOptions source options).toOption
  | environment env => (ofEnvironment env).toOption
  | file load path state => (ofFile load path state).toOption

/-- The document in a file. -/
def document? (load : Yaml.Loader) : FileState → Option Value
  | .content bytes => (load (.ofBytes bytes)).toOption
  | _ => none

/-- The value that a way gives to a field. -/
def given : Route → Field → Option Value
  | values given, f => given f
  | mapping _ options, f => options.get? f.name
  | environment env, f => (Settings.given env).toOption.bind fun values => values f
  | file load _ state, f => (document? load state).bind fun document => document.get? f.name

end Route

theorem toOption_eq_some_iff {ε α : Type} {x : Except ε α} {a : α} :
    x.toOption = some a ↔ x = .ok a := by
  cases x <;> simp [Except.toOption]

theorem mapError_eq_ok_iff {ε ε' α : Type} {x : Except ε α} {f : ε → ε'} {a : α} :
    x.mapError f = .ok a ↔ x = .ok a := by
  cases x <;> simp [Except.mapError]

/-- A mapping that gives settings gives its fields what it binds them to. -/
theorem ofValues_of_ofMapping {source : String} {options : Value} {c : Settings}
    (h : ofMapping source options = .ok c) : ofValues (fun f => options.get? f.name) = .ok c := by
  unfold ofMapping at h
  split at h
  · exact h
  · cases h

/-- And so do options of any names. -/
theorem ofValues_of_ofOptions {source : String} {options : Value} {c : Settings}
    (h : ofOptions source options = .ok c) : ofValues (fun f => options.get? f.name) = .ok c := by
  simp only [ofOptions] at h
  split at h
  · cases h
  · split at h
    · cases h
    · exact ofValues_of_ofMapping (mapError_eq_ok_iff.mp h)

/-- A document that gives settings is a mapping, or nothing. -/
theorem ofValues_of_ofDocument {path : String} {document : Value} {c : Settings}
    (h : ofDocument path document = .ok c) :
    ofValues (fun f => document.get? f.name) = .ok c := by
  unfold ofDocument at h
  split at h
  · -- the defaults are what comes of no values at all
    rw [← Except.ok.inj h]
    rfl
  · exact ofValues_of_ofOptions (mapError_eq_ok_iff.mp h)
  · cases h

/-- **All ways to settings end alike**: in settings of the values that the fields
are given. -/
theorem Route.ofValues_given {route : Route} {c : Settings} (h : route.settings? = some c) :
    ofValues route.given = .ok c := by
  cases route with
  | values given => exact toOption_eq_some_iff.mp h
  | mapping source options => exact ofValues_of_ofOptions (toOption_eq_some_iff.mp h)
  | environment env =>
    have made : ofEnvironment env = .ok c := toOption_eq_some_iff.mp h
    have read : (environment env).given = fun f =>
        (Settings.given env).toOption.bind fun values => values f := rfl
    rw [read]
    unfold ofEnvironment at made
    cases found : Settings.given env with
    | error refusal =>
      rw [found] at made
      cases made
    | ok values =>
      rw [found] at made
      exact made
  | file load path state =>
    have made : ofFile load path state = .ok c := toOption_eq_some_iff.mp h
    have read : (file load path state).given = fun f =>
        (document? load state).bind fun document => document.get? f.name := rfl
    rw [read]
    unfold ofFile at made
    split at made
    · cases made
    · cases state with
      | content bytes =>
        dsimp only at made
        cases decoded : load (.ofBytes bytes) with
        | error fault =>
          rw [decoded] at made
          cases fault <;> cases made
        | ok document =>
          rw [decoded] at made
          rw [document?, decoded]
          exact ofValues_of_ofDocument made
      | _ => cases made

/-! ## The level that settings ask for -/

/-- **The level that is asked for is the level that is named**: a name that was
accepted is that of a constant, so warnings never stand in. -/
theorem exists_level {c : Settings} (named : c.level?.isSome = true) :
    (Text.upper c.logLevel, c.level) ∈ Logging.Level.names ∧
      Logging.Level.constant? (Text.upper c.logLevel) = some c.level := by
  obtain ⟨number, name⟩ := Option.isSome_iff_exists.mp named
  have constant := Logging.Level.constant?_of_ofName? name
  have level : c.level = number := by rw [Settings.level, constant]; rfl
  rw [level]
  exact ⟨Logging.Level.mem_names_of_ofName? name, constant⟩

end Settings

/-! ## The package and the root -/

namespace Logging

namespace Loggers

variable {s : Loggers}

/-- There is nothing between the package and the root, whatever loggers are
known. -/
theorem lineage_package (s : Loggers) : s.lineage package = [package, LoggerName.root] := by
  simp [Loggers.lineage, Kinship.lineage, package, Kinship.climb]

/-- For the root its own level counts. -/
theorem effective_root (s : Loggers) :
    s.effective LoggerName.root = (s.logger LoggerName.root).level := by
  have way : s.lineage LoggerName.root = [LoggerName.root] := rfl
  rw [effective, way]
  by_cases unset : (s.logger LoggerName.root).level = 0 <;> simp [unset]

/-- For the package its own level counts, and that of the root where it has none. -/
theorem effective_package (s : Loggers) :
    s.effective package =
      if (s.logger package).level = 0 then s.effective LoggerName.root
      else (s.logger package).level := by
  rw [effective_root, effective, lineage_package]
  by_cases unset : (s.logger package).level = 0
  · by_cases unsetRoot : (s.logger LoggerName.root).level = 0 <;> simp [unset, unsetRoot]
  · simp [unset]

/-- The records of the package go by its own handlers first, and by those of the
root then. -/
theorem reach_package (s : Loggers) :
    s.reach package = (s.logger package).handlers ++ (s.logger LoggerName.root).handlers := by
  rw [reach, lineage_package]
  simp

end Loggers

end Logging

/-! ## Sessions -/

namespace Session

open Logging
open Loggers (Split)

/-! ### The level of the package -/

/-- The package has a level of a name, and its records are treated by it. -/
structure Honours (t : Session) (number : Level) : Prop where
  level : (t.loggers.logger package).level = number
  /-- Records are admitted from the level on. -/
  own : number ≠ 0 → ∀ r : Record, r.logger = package →
    ((t.met r).admits package r.level = true ↔ number ≤ r.level)
  /-- Where the level is none, the root decides, and there is no record without a
  positive level. -/
  inherited : number = 0 → ∀ r : Record, r.logger = package →
    ((t.met r).admits package r.level = true ↔
      0 < r.level ∧ t.loggers.effective LoggerName.root ≤ r.level)
  /-- What is admitted goes to every handler of the package and of the root, and
  nothing else is written. -/
  written : ∀ r : Record, r.logger = package →
    (t.step (.log r)).1 = ⟨.ok .nothing, Written.ofLines
      (if (t.met r).admits package r.level then
        ((t.met r).reach package).filterMap (Handler.line? r) else [])⟩

/-- A package that has a level and some handler treats its records by that level. -/
theorem honours_of_logger {t : Session} {number : Level} (positive : number ≠ 0 → 0 < number)
    (level : (t.loggers.logger package).level = number)
    (handlers : (t.loggers.logger package).handlers ≠ []) : Honours t number := by
  have effective (r : Record) : (t.met r).effective package =
      if number = 0 then t.loggers.effective LoggerName.root else number := by
    rw [Loggers.effective_package, Loggers.effective_root, Loggers.effective_root, met,
      Loggers.logger_touch, level]
  refine ⟨level, fun set r _ => ?_, fun unset r _ => ?_, fun r on => ?_⟩
  · have above := positive set
    rw [Loggers.admits_iff, effective, if_neg set]
    exact ⟨And.right, fun enough => ⟨Int.lt_of_lt_of_le above enough, enough⟩⟩
  · rw [Loggers.admits_iff, effective, if_pos unset]
  · have reached : (t.met r).reach r.logger ≠ [] := by
      rw [on, Loggers.reach_package]
      exact List.append_ne_nil_of_left_ne_nil handlers _
    have emitted : (t.met r).emit r = if (t.met r).admits r.logger r.level then
        ((t.met r).reach r.logger).filterMap (Handler.line? r) else [] := by
      rw [Loggers.emit, Loggers.dispatch_of_reach_ne_nil reached]
    rw [on] at emitted
    exact congrArg (fun lines => Outcome.mk (.ok .nothing) (Written.ofLines lines)) emitted

/-- **The package keeps the level that it is given** until it is configured again,
and its records are treated by that level. -/
theorem honours_of_configured {s : Session} {split : Split} {steps : List Step}
    (positive : split.level ≠ 0 → 0 < split.level)
    (kept : splits package ((s.configured package split).history steps) = []) :
    Honours ((s.configured package split).after steps) split.level := by
  have given : (s.configured package split).loggers.logger package =
      split.apply (s.loggers.logger package) := by
    rw [configured, Loggers.configure, Loggers.logger_update_self]
  have logger := logger_performAll_of_splits_eq_nil (s.configured package split).loggers kept
  rw [← loggers_after, given] at logger
  refine honours_of_logger positive ?_ ?_
  · rw [logger]
    rfl
  · rw [logger]
    simp [Split.apply, Split.handlers]

/-- Obeying settings whose level has a name gives the package that level. -/
theorem honours_of_obey {s : Session} {register : String} {c : Settings} {steps : List Step}
    (named : c.level?.isSome = true) (found : s.settings.lookup register = some c)
    (kept : splits package ((s.step (.obey register)).2.history steps) = []) :
    Honours ((s.step (.obey register)).2.after steps) c.level := by
  have made : s.call? (.obey register) = some (.configure package { level := c.level }) := by
    simp only [call?, lookup, found]
  rw [step_of_configure made] at kept ⊢
  have positive : ∀ entry ∈ Level.names, entry.2 ≠ 0 → 0 < entry.2 := by decide
  exact honours_of_configured (positive _ (Settings.exists_level named).1) kept

/-! ### The settings of a session -/

/-- All settings in the registers of a session have been come by on some way. -/
def IsObtained (s : Session) : Prop :=
  ∀ entry ∈ s.settings, ∃ route : Settings.Route, route.settings? = some entry.2

/-- A step leaves the settings as they are, or puts some that it has come by into a
register. -/
theorem settings_step (s : Session) (next : Step) :
    (s.step next).2.settings = s.settings ∨
      ∃ (register : String) (c : Settings) (route : Settings.Route),
        route.settings? = some c ∧ (s.step next).2.settings = (register, c) :: s.settings := by
  rw [(s.step_changes next).2.2]
  cases next with
  | settings register options =>
    rw [settingsBehind]
    cases made : Settings.ofValues fun f => options.get? f.name with
    | error refusal => exact .inl rfl
    | ok c => exact .inr ⟨register, c, .values _, Settings.toOption_eq_some_iff.mpr made, rfl⟩
  | environment register env =>
    rw [settingsBehind]
    cases made : Settings.ofEnvironment env with
    | error refusal => exact .inl rfl
    | ok c => exact .inr ⟨register, c, .environment env, Settings.toOption_eq_some_iff.mpr made, rfl⟩
  | _ => exact .inl rfl

theorem IsObtained.step {s : Session} (h : s.IsObtained) (next : Step) :
    (s.step next).2.IsObtained := by
  intro entry mem
  rcases s.settings_step next with same | ⟨register, c, route, made, put⟩
  · exact h entry (same ▸ mem)
  · rw [put] at mem
    rcases List.mem_cons.mp mem with rfl | old
    · exact ⟨route, made⟩
    · exact h entry old

/-- **A session holds no settings but those it has come by.** -/
theorem IsObtained.after {s : Session} (h : s.IsObtained) (steps : List Step) :
    (s.after steps).IsObtained := by
  induction steps generalizing s with
  | nil => exact h
  | cons next rest ih => exact ih (h.step next)

/-- So in a session that starts with none, whatever settings the package is told to
obey, their level has a name, and the package has it from then on. -/
theorem obeyed_settings_honoured {s : Session} (start : s.settings = []) {first rest : List Step}
    {register : String} {c : Settings}
    (found : (s.after first).settings.lookup register = some c)
    (kept : splits package (((s.after first).step (.obey register)).2.history rest) = []) :
    (Text.upper c.logLevel, c.level) ∈ Level.names ∧
      Honours (((s.after first).step (.obey register)).2.after rest) c.level := by
  have obtained : s.IsObtained := fun entry mem => absurd (start ▸ mem) List.not_mem_nil
  obtain ⟨before, behind, listed, -⟩ := List.lookup_eq_some_iff.mp found
  obtain ⟨route, made⟩ := obtained.after first (register, c)
    (listed ▸ List.mem_append_right before List.mem_cons_self)
  have named := (Settings.ofValues_eq_ok_iff.mp (Settings.Route.ofValues_given made)).2.2
  exact ⟨(Settings.exists_level named).1, honours_of_obey named found kept⟩

/-! ### Settings of any origin -/

/-- **Settings that are obtained are well formed, and their level is honoured.** On
every way to settings, each field holds a value that has its type, the path is not
empty, and the level in capital letters is one of the eight names. The level that
the package has after it is told to obey them is that of the name, whatever was done
to the loggers before. Until the package is configured again its records are
admitted from that level on; or, where it is none, if their level is positive and
from the level on that counts for the root. -/
theorem obtained_settings_honoured {route : Settings.Route} {c : Settings}
    (h : route.settings? = some c) :
    (∀ f, c.Holds f ((route.given f).getD (({} : Settings).value f))) ∧ c.rootPath ≠ "" ∧
      ∃ number, (Text.upper c.logLevel, number) ∈ Level.names ∧
        Level.constant? (Text.upper c.logLevel) = some number ∧
        ∀ (s : Session) (register : String) (steps : List Step),
          s.settings.lookup register = some c →
          splits package ((s.step (.obey register)).2.history steps) = [] →
            Honours ((s.step (.obey register)).2.after steps) number := by
  obtain ⟨holds, nonempty, named⟩ := Settings.ofValues_eq_ok_iff.mp (Settings.Route.ofValues_given h)
  obtain ⟨listed, constant⟩ := Settings.exists_level named
  refine ⟨holds, nonempty, c.level, listed, constant, fun s register steps found kept => ?_⟩
  exact honours_of_obey named found kept

/-- A session with settings in a register, in which the root has a level and
somebody else listens to the package. -/
def heard (c : Settings) (level : Level) : Session :=
  ({ settings := [("c", c)] } : Session).after
    [.configure LoggerName.root level 30 none, .addForeign package 0]

/-- What happens behind the obedience: a handler joins the root, and another logger
is configured. -/
def bystanders : List Step :=
  [.addForeign LoggerName.root 0, .configure ["app"] 40 40 none]

/-- The letters of a level may be any whose capitals are those of its name. An
`INFO` with a dotless letter is the level `20`, and a `NOTSET` with a long one leaves
the records of the package to a root that has the level `15`. -/
theorem obtained_settings_honoured_letters :
    let info : Settings := { realNumberBounds := true, logLevel := "ınfo" }
    let notset : Settings := { rootPath := "p", logLevel := "noTſet" }
    let told (c : Settings) := ((heard c 15).step (.obey "c")).2.after bystanders
    Honours (told info) 20 ∧ Honours (told notset) 0 ∧
      ((told info).met ⟨package, 20, "m"⟩).admits package 20 = true ∧
      ¬ ((told info).met ⟨package, 19, "m"⟩).admits package 19 = true ∧
      ((told notset).met ⟨package, 15, "m"⟩).admits package 15 = true ∧
      ¬ ((told notset).met ⟨package, 14, "m"⟩).admits package 14 = true := by
  intro info notset told
  have fromVariables : (Settings.Route.environment
      [("OPENAPI_SCHEMA_CHECKS_LOG_LEVEL", "ınfo"),
        ("OPENAPI_SCHEMA_CHECKS_REAL_NUMBER_BOUNDS", " Yes ")]).settings? = some info := by
    decide +kernel
  have fromOptions : (Settings.Route.mapping "config" (.object .plain
      [(.plain "root_path", .plain "p"), (.plain "log_level", .plain "noTſet")])).settings? =
      some notset := by
    decide +kernel
  have infoCapitals : Text.upper info.logLevel = "INFO" := by decide +kernel
  have notsetCapitals : Text.upper notset.logLevel = "NOTSET" := by decide +kernel
  have honoursInfo : Honours (told info) 20 := by
    obtain ⟨-, -, number, listed, -, honours⟩ := obtained_settings_honoured fromVariables
    obtain rfl : number = 20 := by simpa [infoCapitals, Level.names] using listed
    exact honours (heard info 15) "c" bystanders rfl rfl
  have honoursNotset : Honours (told notset) 0 := by
    obtain ⟨-, -, number, listed, -, honours⟩ := obtained_settings_honoured fromOptions
    obtain rfl : number = 0 := by simpa [notsetCapitals, Level.names] using listed
    exact honours (heard notset 15) "c" bystanders rfl rfl
  have root : (told notset).loggers.effective LoggerName.root = 15 := rfl
  refine ⟨honoursInfo, honoursNotset, ?_, ?_, ?_, ?_⟩
  · exact (honoursInfo.own (by decide) ⟨package, 20, "m"⟩ rfl).mpr (by decide)
  · exact fun admitted =>
      absurd ((honoursInfo.own (by decide) ⟨package, 19, "m"⟩ rfl).mp admitted) (by decide)
  · exact (honoursNotset.inherited rfl ⟨package, 15, "m"⟩ rfl).mpr ⟨by decide, Int.le_of_eq root⟩
  · intro admitted
    have inherited := ((honoursNotset.inherited rfl ⟨package, 14, "m"⟩ rfl).mp admitted).2
    rw [root] at inherited
    exact absurd inherited (by decide)

/-- **A record without a positive level is refused where nothing is set.** The
settings name `NOTSET`, and the level that counts for the root is zero: a record of
the package with level zero is not admitted, although it is not below that, and the
handler that takes every record writes nothing. -/
theorem notset_refuses_zero :
    let c : Settings := { logLevel := "NOTSET" }
    let told := ((heard c 0).step (.obey "c")).2
    (Settings.Route.values fun f =>
        if f = .logLevel then some (.plain "NOTSET") else none).settings? = some c ∧
      (told.loggers.logger package).handlers.head? = some (.foreign 0) ∧
      told.loggers.effective LoggerName.root = 0 ∧
      ¬ ((told.met ⟨package, 0, "m"⟩).admits package 0 = true ↔
        told.loggers.effective LoggerName.root ≤ 0) ∧
      (told.step (.log ⟨package, 0, "m"⟩)).1.written = {} := by
  refine ⟨?_, rfl, ?_⟩
  · decide +kernel
  · decide +kernel

end Session

end Conformance
