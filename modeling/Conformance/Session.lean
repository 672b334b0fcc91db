import Conformance.Logging
import Conformance.Settings.Environment
import Conformance.Settings.Mapping

/-!
# Sessions — steps over registers and loggers

A session is a row of steps. Each may read and write registers, which hold
settings, checks and cursors by name, may change the loggers, and may write
lines. A step that fails leaves the session as it was. `Session.run` gives
the outcome of every step in order. Whether a record is written is for a gate
to say, and here it is asked of the rules alone; sessions whose loggers remember
their answers are live ones, and have a module of their own.
-/


namespace Conformance

/-- What can be asked for a verdict. -/
inductive Subject where
  | validator (v : Validator)
  | check (c : Check)

/-- The tree of a subject; a validator stands for its own. -/
def Subject.tree : Subject → Check
  | .validator v => v.check
  | .check c => c

/-- A step of a session. -/
inductive Step where
  | settings (register : String) (options : Value)
  | environment (register : String) (env : Environment)
  | validator (register : String) (schema : Value) (path settings : Option String)
  | check (register : String) (blueprint : Blueprint)
  | verdict (subject : String) (value : Value)
  | iterate (subject register : String) (value : Value)
  | next (cursor : String)
  | equal (a b : String)
  | obey (settings : String)
  /-- Splits the records of a logger, in the given wording or else in the standard
  format. -/
  | configure (logger : Logging.LoggerName) (level floor : Logging.Level)
      (wording : Option Logging.Wording)
  | addForeign (logger : Logging.LoggerName) (floor : Logging.Level)
  | log (record : Logging.Record)
  | inspect (logger : Logging.LoggerName)

/-- What a step gives back. -/
inductive Answer where
  | settings (s : Settings)
  | validator (v : Validator)
  | description (text : String)
  | verdict (v : Verdict)
  | nothing
  | issue (issue : Option Issue)
  | truth (b : Bool)
  | logger (name : Logging.LoggerName) (l : Logging.Logger)

/-- Why a step fails. -/
inductive StepFault where
  | error (e : Error)
  | blueprint (fault : Blueprint.Fault)
  | unreadableFormat (text : String)
  | unknownRegister (name : String)

/-- The registers and the loggers of a session. -/
structure Session where
  settings : List (String × Settings) := []
  subjects : List (String × Subject) := []
  cursors : List (String × Cursor) := []
  loggers : Logging.Loggers := Logging.Loggers.fresh

/-- What a step gives back, and what it writes. -/
structure Outcome where
  answer : Except StepFault Answer
  written : Logging.Written

namespace Session

open Logging

/-- The content of a register. -/
def lookup {α : Type} (name : String) (registers : List (String × α)) : Except StepFault α :=
  match registers.lookup name with
  | some content => .ok content
  | none => .error (.unknownRegister name)

/-- A refusal of settings as a fault of a step. -/
def settled (result : Except Settings.Refusal Settings) : Except StepFault Settings :=
  result.mapError fun refusal => .error (.configuration refusal)

/-- Settings from a register, or the defaults. -/
def settingsOf (s : Session) : Option String → Except StepFault Settings
  | none => .ok {}
  | some name => lookup name s.settings

/-- The formatter of a wording, or the standard one. -/
def formatterOf : Option Wording → Except StepFault Formatter
  | none => .ok Format.standard.render
  | some (.made formatter) => .ok formatter
  | some (.written text) =>
    match Format.formatter? text with
    | some formatter => .ok formatter
    | none => .error (.unreadableFormat text)

/-- One step: what it gives back, the lines it writes where a gate admits them,
and the session behind it. -/
def advanceBy (gate : Loggers.Gate) (s : Session) :
    Step → Except StepFault (Answer × List Line × Session)
  | .settings register options => do
    let found ← settled (Settings.ofValues fun f => options.get? f.name)
    return (.settings found, [], { s with settings := (register, found) :: s.settings })
  | .environment register env => do
    let found ← settled (Settings.ofEnvironment env)
    return (.settings found, [], { s with settings := (register, found) :: s.settings })
  | .validator register schema path settings => do
    let settings ← s.settingsOf settings
    match Validator.compile settings path schema with
    | .error e => throw (.error e)
    | .ok v =>
      return (.validator v, s.loggers.announceBy gate v,
        { s with subjects := (register, .validator v) :: s.subjects })
  | .check register blueprint => do
    let known (name : String) : Option Check := (s.subjects.lookup name).map Subject.tree
    match blueprint.build known with
    | .error fault => throw (.blueprint fault)
    | .ok c =>
      return (.description c.describe, [],
        { s with subjects := (register, .check c) :: s.subjects })
  | .verdict subject value => do
    let c ← lookup subject s.subjects
    return (.verdict (c.tree.verdict value), [], s)
  | .iterate subject register value => do
    let c ← lookup subject s.subjects
    return (.nothing, [],
      { s with cursors := (register, Cursor.start c.tree value) :: s.cursors })
  | .next cursor => do
    let k ← lookup cursor s.cursors
    let (issue, k) := k.pull
    return (.issue issue, [], { s with cursors := (cursor, k) :: s.cursors })
  | .equal a b => do
    let c ← lookup a s.subjects
    let d ← lookup b s.subjects
    return (.truth (c.tree == d.tree), [], s)
  | .obey settings => do
    let found ← lookup settings s.settings
    let loggers := s.loggers.obey found
    return (.logger package (loggers.logger package), [], { s with loggers })
  | .configure name level floor wording => do
    let formatter ← formatterOf wording
    let loggers := s.loggers.configure name ⟨level, floor, formatter⟩
    return (.logger name (loggers.logger name), [], { s with loggers })
  | .addForeign name floor =>
    let loggers := s.loggers.addForeign name floor
    return (.logger name (loggers.logger name), [], { s with loggers })
  | .log record =>
    let loggers := s.loggers.touch record.logger
    return (.nothing, loggers.emitBy gate record, { s with loggers })
  | .inspect name =>
    let loggers := s.loggers.touch name
    return (.logger name (loggers.logger name), [], { s with loggers })

/-- One step, with the gate of the rules. -/
def advance (s : Session) (next : Step) : Except StepFault (Answer × List Line × Session) :=
  s.advanceBy Loggers.admits next

/-- The outcome of a step, and the session behind it. A step that fails
changes and writes nothing. -/
def step (s : Session) (next : Step) : Outcome × Session :=
  match s.advance next with
  | .ok (answer, lines, s) => (⟨.ok answer, Written.ofLines lines⟩, s)
  | .error fault => (⟨.error fault, {}⟩, s)

/-- The session behind a row of steps. -/
def after (s : Session) (steps : List Step) : Session :=
  steps.foldl (fun s next => (s.step next).2) s

/-- The outcomes of a row of steps. -/
def run (s : Session) : List Step → List Outcome
  | [] => []
  | next :: rest => (s.step next).1 :: run (s.step next).2 rest

end Session

end Conformance
