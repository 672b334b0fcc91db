import Conformance.Logging
import Conformance.Settings.Environment

/-!
# Catalogue — what the package offers by name

The version, the public names, and the stem of the variables that give
settings.
-/


namespace Conformance

namespace Catalogue

/-- The version. -/
def version : String := "0.1.0"

/-- The public names, sorted. -/
def publicNames : List String :=
  ["AllCheck", "BadSchemaError", "Check", "CompilerConfig", "ConfigurationError", "KEYWORDS",
    "MaxLengthCheck", "MaximumCheck", "MinLengthCheck", "MinimumCheck", "MultipleOfCheck",
    "SchemaCheckError", "TypeCheck", "UNDEFINED", "ValidationFailedError", "ValidationIssue",
    "Validator", "ValueKind", "classify", "compile_check", "compile_schema"]

/-- The spellings of the keywords, in order. -/
def keywords : List String := Keyword.all.map Keyword.name

/-- The names of the types, in order. -/
def typeNames : List String := TypeName.all.map TypeName.name

/-- What every variable that gives a setting begins with. -/
def variableStem : String := Field.variableStem

/-- The logger of the package. -/
def logger : String := Logging.packageName

end Catalogue

end Conformance
