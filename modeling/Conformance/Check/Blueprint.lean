import Conformance.Check

/-!
# Blueprints — checks as they are written down

A blueprint is a check before its names are resolved: a type is still a
text, and a subtree may be the name of a check built earlier.
`Blueprint.build` resolves both, children in order, and stops at the first
name it does not know. The blueprint of a check builds that check again,
`build_ofCheck`.
-/


namespace Conformance

/-- A check whose names are not yet resolved. -/
inductive Blueprint where
  | named (name : String)
  | type (path typeName : String)
  | rule (path : String) (rule : Rule)
  | all (path : String) (children : List Blueprint)
deriving Inhabited

namespace Blueprint

/-- A name that could not be resolved. -/
inductive Fault where
  | unknownType (name : String)
  | unknownCheck (name : String)
deriving DecidableEq, Repr

/-- The wording of a fault. -/
def Fault.message : Fault → String
  | .unknownType name => "Unknown type name: " ++ name
  | .unknownCheck name => "Unknown check: " ++ name

mutual

/-- The check a blueprint describes, given the checks that have names. -/
def build (known : String → Option Check) : Blueprint → Except Fault Check
  | .named name =>
    match known name with
    | some c => .ok c
    | none => .error (.unknownCheck name)
  | .type path typeName =>
    match TypeName.ofName? typeName with
    | some t => .ok (.leaf path (.type t))
    | none => .error (.unknownType typeName)
  | .rule path r => .ok (.leaf path r)
  | .all path children => (buildRow known children).map (.all path)

/-- The checks of a row of blueprints. -/
def buildRow (known : String → Option Check) : List Blueprint → Except Fault (List Check)
  | [] => .ok []
  | b :: rest =>
    match build known b with
    | .error fault => .error fault
    | .ok c => (buildRow known rest).map (c :: ·)

end

mutual

/-- A check written down. -/
def ofCheck : Check → Blueprint
  | .leaf path (.type t) => .type path t.name
  | .leaf path r => .rule path r
  | .all path children => .all path (ofChecks children)

/-- A row of checks written down. -/
def ofChecks : List Check → List Blueprint
  | [] => []
  | c :: rest => ofCheck c :: ofChecks rest

end

/-- **Writing a check down loses nothing.** -/
theorem build_ofCheck (known : String → Option Check) (c : Check) :
    (ofCheck c).build known = .ok c := by
  induction c using Check.induction with
  | leaf path rule => cases rule <;> simp [ofCheck, build]
  | all path children ih =>
    have row : buildRow known (ofChecks children) = .ok children := by
      induction children with
      | nil => rfl
      | cons c rest ihr =>
        rw [ofChecks, buildRow, ih c (by simp)]
        simp [ihr fun d hd => ih d (by simp [hd]), Except.map]
    rw [ofCheck, build, row]
    rfl

end Blueprint

end Conformance
