import Conformance.Check.Cursor
import Conformance.Report

/-!
# Validators — schemas compiled once

A validator is a schema compiled under settings at a path. Its verdict on a
value is the first issue, whether there is one, and all of them; the three
agree, `verdict_isValid_iff`.
-/


namespace Conformance

/-- A compiled schema, with the path and the settings it was compiled under. -/
structure Validator where
  path : String
  settings : Settings
  check : Check
deriving DecidableEq, Repr

/-- What a check says of a value. -/
structure Verdict where
  first : Except Error Unit
  isValid : Bool
  issues : List Issue

namespace Check

/-- Passes a value that has no issue, and fails with the first otherwise. -/
def verify (v : Value) (c : Check) : Except Error Unit :=
  match c.firstIssue? v with
  | some issue => .error (.validationFailed issue)
  | none => .ok ()

/-- The verdict of a check on a value. -/
def verdict (v : Value) (c : Check) : Verdict := ⟨c.verify v, c.isValid v, c.issues v⟩

theorem verify_eq_ok_iff (v : Value) (c : Check) : c.verify v = .ok () ↔ c.issues v = [] := by
  rw [verify, firstIssue?_eq_head?]
  cases c.issues v <;> simp

theorem verify_eq_error_iff (v : Value) (c : Check) (e : Error) :
    c.verify v = .error e ↔ ∃ issue, (c.issues v).head? = some issue ∧
      e = .validationFailed issue := by
  rw [verify, firstIssue?_eq_head?]
  cases c.issues v <;> simp [eq_comm]

theorem verdict_isValid_iff (v : Value) (c : Check) :
    (c.verdict v).isValid = true ↔ (c.verdict v).issues = [] :=
  isValid_iff v c

end Check

namespace Validator

/-- The path of a schema: the one given, or that of the settings. -/
def pathOf (settings : Settings) (given : Option String) : String :=
  given.getD settings.rootPath

/-- Compiles a schema. -/
def compile (settings : Settings) (given : Option String) (schema : Value) :
    Except Error Validator :=
  let path := pathOf settings given
  match Schema.compile settings.realNumberBounds path schema with
  | .ok check => .ok ⟨path, settings, check⟩
  | .error defect => .error (.badSchema path defect)

/-- Every issue of a value. -/
def issues (v : Value) (c : Validator) : List Issue := c.check.issues v

/-- The verdict of a validator on a value. -/
def verdict (v : Value) (c : Validator) : Verdict := c.check.verdict v

/-- A validator as a text. -/
def text (c : Validator) : String :=
  "Validator(" ++ c.path ++ ": " ++ c.check.describe ++ ")"

end Validator

end Conformance
