import Conformance.Logging.Memory
import Conformance.Session

/-!
# Live sessions — sessions whose loggers remember their answers

A live session goes by the same steps as any other, but its gate is what loggers
have kept. A record that is logged asks its logger, and a compilation that
succeeds asks that of the compiler. A step that sets a level has all answers
forgotten.
-/


namespace Conformance

/-- Whether a step sets the level of a logger, if it succeeds. -/
def Step.setsLevel : Step → Bool
  | .obey _ => true
  | .configure .. => true
  | _ => false

/-- The logger that a step asks, if it succeeds, and the level that it asks
about. -/
def Step.question? : Step → Option (Logging.LoggerName × Logging.Level)
  | .validator .. => some (Logging.compiler, Logging.Level.debug)
  | .log record => some (record.logger, record.level)
  | _ => none

/-- A session, and what its loggers have kept. -/
structure LiveSession where
  session : Session := {}
  memory : Logging.Memory := .blank

namespace LiveSession

open Logging

/-- What is kept behind a step that succeeds, if these are the loggers behind
it. -/
def memoryBehind (s : LiveSession) (loggers : Loggers) (next : Step) : Memory :=
  if next.setsLevel then .blank
  else
    match next.question? with
    | some (name, n) => s.memory.keep loggers name n
    | none => s.memory

/-- The outcome of a step, and the live session behind it. A step that fails
changes and writes nothing. -/
def step (s : LiveSession) (next : Step) : Outcome × LiveSession :=
  match s.session.advanceBy s.memory.answer next with
  | .ok (answer, lines, behind) =>
    (⟨.ok answer, Written.ofLines lines⟩, ⟨behind, s.memoryBehind behind.loggers next⟩)
  | .error fault => (⟨.error fault, {}⟩, s)

/-- The live session behind a row of steps. -/
def after (s : LiveSession) (steps : List Step) : LiveSession :=
  steps.foldl (fun s next => (s.step next).2) s

/-- The outcomes of a row of steps. -/
def run (s : LiveSession) : List Step → List Outcome
  | [] => []
  | next :: rest => (s.step next).1 :: run (s.step next).2 rest

end LiveSession

end Conformance
