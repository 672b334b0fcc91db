import Conformance.Check.Blueprint
import Conformance.Schema
import Conformance.Settings
import Conformance.Value.Printed

/-!
# Reports — errors, and how they are worded

An error is a cause at a path: a defect of a schema, an issue of a value,
or a refusal of settings. A report is its face: a kind, the path and the
reason as texts. `Report.message` puts the two texts into the sentence of
the kind as they are, whatever they hold.
-/


namespace Conformance

/-- The wording of a refusal of settings. -/
def Settings.Fault.text : Settings.Fault → String
  | .unknownOptions names => "Unknown option(s): " ++ Text.join ", " names
  | .wrongType expected found => "Expected " ++ expected ++ ", got " ++ found
  | .emptyText => "Must be a non-empty string"
  | .unknownLevel text => "Unknown log level '" ++ text ++ "'"
  | .notBoolean text => "Expected a boolean, got '" ++ text ++ "'"
  | .missingFile path =>
    "Unable to read config file: [Errno 2] No such file or directory: " ++ Text.quoted path
  | .directory path =>
    "Unable to read config file: [Errno 21] Is a directory: " ++ Text.quoted path
  | .tooLong path =>
    "Unable to read config file: [Errno 36] File name too long: " ++ Text.quoted path
  | .malformed text => "Invalid YAML: " ++ text
  | .notMapping => "Config file must contain a mapping"

/-- The kinds of errors. Every kind is a case of the general one. -/
inductive ErrorKind where
  | general
  | badSchema
  | validationFailed
  | configuration
deriving DecidableEq, Repr

namespace ErrorKind

/-- All kinds of errors, in the order of their names. -/
def all : List ErrorKind := [.badSchema, .configuration, .general, .validationFailed]

/-- The name of a kind. -/
def name : ErrorKind → String
  | .general => "SchemaCheckError"
  | .badSchema => "BadSchemaError"
  | .validationFailed => "ValidationFailedError"
  | .configuration => "ConfigurationError"

/-- The kind of a name. -/
def ofName? (text : String) : Option ErrorKind := all.find? fun kind => kind.name == text

/-- What stands before the path in a message. -/
def opening : ErrorKind → String
  | .general => ""
  | .badSchema => "Schema invalid at "
  | .validationFailed => "Validation failed for "
  | .configuration => "Configuration invalid at "

/-- Whether an error of one kind counts as one of another. -/
def isA (kind other : ErrorKind) : Bool := other == .general || kind == other

end ErrorKind

/-- The face of an error. -/
structure Report where
  kind : ErrorKind
  path : String
  reason : String
deriving DecidableEq, Repr

namespace Report

/-- A report as one line of text. -/
def message (r : Report) : String := r.kind.opening ++ r.path ++ ": " ++ r.reason

/-- The kinds that an error counts as, in the order of their names. -/
def kinds (r : Report) : List ErrorKind := ErrorKind.all.filter r.kind.isA

end Report

/-- What went wrong. -/
inductive Error where
  | badSchema (path : String) (defect : Schema.Defect)
  | validationFailed (issue : Issue)
  | configuration (refusal : Settings.Refusal)
deriving DecidableEq, Repr

namespace Error

/-- The face of an error. -/
def report : Error → Report
  | .badSchema path defect => ⟨.badSchema, path, defect.text⟩
  | .validationFailed issue => ⟨.validationFailed, issue.path, issue.reason.text⟩
  | .configuration refusal => ⟨.configuration, refusal.path, refusal.fault.text⟩

/-- An error as one line of text. -/
def message (e : Error) : String := e.report.message

/-- The issue behind a failed validation. -/
def issue? : Error → Option Issue
  | .validationFailed issue => some issue
  | _ => none

/-- A failed validation reads as its issue does. -/
@[simp] theorem message_validationFailed (issue : Issue) :
    (validationFailed issue).message = issue.message := rfl

end Error

end Conformance
