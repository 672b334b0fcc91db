import Conformance.Logging.Level
import Conformance.Text.Case
import Conformance.Value.Mapping

/-!
# Settings — how schemas are compiled

Three settings steer compilation: the path of a schema that is given none,
whether bounds measure all real numbers, and how much is logged. Settings
come from values that may be of any type, so `Settings.ofValues` looks at
them first: each must have the type of its field, in the order of the
fields, the path must not be empty, and the level must have one of the
known names, in letters of any case.
-/


namespace Conformance

/-- How schemas are compiled. -/
structure Settings where
  rootPath : String := "root"
  /-- Whether bounds measure every real number rather than integers only. -/
  realNumberBounds : Bool := false
  logLevel : String := "WARNING"
deriving DecidableEq, Repr

/-- The fields of settings. -/
inductive Field where
  | rootPath
  | realNumberBounds
  | logLevel
deriving DecidableEq, Repr

namespace Field

/-- The order of the fields. -/
def all : List Field := [.rootPath, .realNumberBounds, .logLevel]

/-- The name of a field. -/
def name : Field → String
  | .rootPath => "root_path"
  | .realNumberBounds => "real_number_bounds"
  | .logLevel => "log_level"

/-- The field of a name. -/
def ofName? (text : String) : Option Field := all.find? fun f => f.name == text

end Field

namespace Settings

/-- Why settings are refused. -/
inductive Fault where
  | unknownOptions (names : List String)
  | wrongType (expected found : String)
  | emptyText
  | unknownLevel (text : String)
  | notBoolean (text : String)
  | missingFile (path : String)
  | directory (path : String)
  | tooLong (path : String)
  /-- The document cannot be read, and a text says why. -/
  | malformed (text : String)
  | notMapping
deriving DecidableEq, Repr

/-- What the settings hold in a field, as a value. -/
def value (s : Settings) : Field → Value
  | .rootPath => .plain s.rootPath
  | .realNumberBounds => .boolean s.realNumberBounds
  | .logLevel => .plain s.logLevel

/-- The level that the settings name, in letters of any case. -/
def level? (s : Settings) : Option Logging.Level := Logging.Level.ofName? (Text.upper s.logLevel)

/-- The level that the settings ask for: the constant of the name, or that of
warnings where there is no such constant. -/
def level (s : Settings) : Logging.Level :=
  (Logging.Level.constant? (Text.upper s.logLevel)).getD Logging.Level.warning

/-- A refusal, and the place at which it is reported. -/
structure Refusal where
  path : String
  fault : Fault
deriving DecidableEq, Repr

/-- The text a field was given. -/
def textField (f : Field) (v : Value) : Except Refusal String :=
  match v.native? with
  | some s => .ok s
  | none => .error ⟨f.name, .wrongType "str" v.typeName⟩

/-- The truth value a field was given. -/
def booleanField (f : Field) (v : Value) : Except Refusal Bool :=
  match v.boolean? with
  | some b => .ok b
  | none => .error ⟨f.name, .wrongType "bool" v.typeName⟩

/-- Settings whose fields have their types, if they make sense. -/
def checked (s : Settings) : Except Refusal Settings :=
  if s.rootPath = "" then .error ⟨Field.rootPath.name, .emptyText⟩
  else if s.level?.isSome then .ok s
  else .error ⟨Field.logLevel.name, .unknownLevel s.logLevel⟩

/-- Settings from the values given; a field that is given none keeps its
default. -/
def ofValues (given : Field → Option Value) : Except Refusal Settings := do
  let given (f : Field) : Value := (given f).getD (({} : Settings).value f)
  let rootPath ← textField .rootPath (given .rootPath)
  let realNumberBounds ← booleanField .realNumberBounds (given .realNumberBounds)
  let logLevel ← textField .logLevel (given .logLevel)
  checked ⟨rootPath, realNumberBounds, logLevel⟩

theorem checked_eq_ok_iff {s t : Settings} :
    checked s = .ok t ↔ s = t ∧ s.rootPath ≠ "" ∧ s.level?.isSome = true := by
  unfold checked
  by_cases h : s.rootPath = ""
  · simp [h]
  · by_cases hl : s.level?.isSome = true <;> simp [h, hl]

end Settings

end Conformance
