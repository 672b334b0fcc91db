import Conformance.Settings
import Conformance.Text.Blank

/-!
# Environment — settings from variables

Each field has a variable of its own, and no other variable is looked at.
The texts of two fields are taken as they are; the third is a truth value,
written as one of a few words in letters of any case, with white space at
its ends.
-/


namespace Conformance

/-- The variables of an environment, each with its text. -/
abbrev Environment := List (String × String)

/-- The text of a variable. -/
def Environment.get? (env : Environment) (name : String) : Option String := env.lookup name

namespace Field

/-- What every variable of a field begins with. -/
def variableStem : String := "OPENAPI_SCHEMA_CHECKS_"

/-- The variable of a field. -/
def variableName : Field → String
  | .rootPath => variableStem ++ "ROOT_PATH"
  | .realNumberBounds => variableStem ++ "REAL_NUMBER_BOUNDS"
  | .logLevel => variableStem ++ "LOG_LEVEL"

end Field

namespace Settings

/-- The words for true. -/
def trueWords : List String := ["1", "true", "yes", "on"]

/-- The words for false; the empty text is one. -/
def falseWords : List String := ["0", "false", "no", "off", ""]

/-- The truth value a text stands for. -/
def readBoolean? (text : String) : Option Bool :=
  let word := Text.lower (Text.trim text)
  if trueWords.contains word then some true
  else if falseWords.contains word then some false
  else none

/-- The values that an environment gives to the fields, or a refusal of the
text that should have been a truth value. -/
def given (env : Environment) : Except Refusal (Field → Option Value) :=
  let texts (flag : Option Bool) : Field → Option Value
    | .realNumberBounds => flag.map .boolean
    | f => (env.get? f.variableName).map .plain
  match env.get? Field.realNumberBounds.variableName with
  | none => .ok (texts none)
  | some text =>
    match readBoolean? text with
    | some b => .ok (texts (some b))
    | none => .error ⟨Field.realNumberBounds.variableName, .notBoolean text⟩

/-- Settings from an environment. -/
def ofEnvironment (env : Environment) : Except Refusal Settings :=
  match given env with
  | .error refusal => .error refusal
  | .ok values => ofValues values

end Settings

end Conformance
