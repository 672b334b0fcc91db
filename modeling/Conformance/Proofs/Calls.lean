import Conformance.Session

/-!
# Calls — what a session does to its loggers, cursors and settings

Most steps of a session leave the loggers as they are. The others perform one
call each: they ask for a logger, configure one, or give one a handler of
somebody else. Two kinds of steps have to do with cursors, and two with settings.
`step_changes` says all this of a step. `Session.history` is the row of calls that a row of
steps makes, and `loggers_after` says that the loggers behind the steps are
those behind the calls. A call changes the logger of its name alone,
`logger_perform`, so what is said of calls needs no step to be opened again.
-/


namespace Conformance

namespace Logging

/-! ## Calls -/

/-- What can be done to loggers. -/
inductive Call where
  /-- Asks for a logger, and changes nothing of it. -/
  | touch (name : LoggerName)
  | configure (name : LoggerName) (split : Loggers.Split)
  | addForeign (name : LoggerName) (floor : Level)

namespace Call

/-- The logger that a call is about. -/
def name : Call → LoggerName
  | .touch name => name
  | .configure name _ => name
  | .addForeign name _ => name

/-- The split that a call gives to a logger. -/
def split? (logger : LoggerName) : Call → Option Loggers.Split
  | .configure name split => if name = logger then some split else none
  | _ => none

/-- The handler of somebody else that a call gives to a logger. -/
def handler? (logger : LoggerName) : Call → Option Handler
  | .addForeign name floor => if name = logger then some (.foreign floor) else none
  | _ => none

/-- What becomes of the logger that a call is about. -/
def change : Call → Logger → Logger
  | .touch _ => id
  | .configure _ split => split.apply
  | .addForeign _ floor => fun l => { l with handlers := l.handlers ++ [.foreign floor] }

end Call

namespace Loggers

/-- The loggers behind a call. -/
def perform (s : Loggers) : Call → Loggers
  | .touch name => s.touch name
  | .configure name split => s.configure name split
  | .addForeign name floor => s.addForeign name floor

/-- The loggers behind a row of calls. -/
def performAll (s : Loggers) (calls : List Call) : Loggers := calls.foldl perform s

@[simp] theorem performAll_nil (s : Loggers) : s.performAll [] = s := rfl

@[simp] theorem performAll_cons (s : Loggers) (call : Call) (rest : List Call) :
    s.performAll (call :: rest) = (s.perform call).performAll rest := rfl

theorem performAll_append (s : Loggers) (first rest : List Call) :
    s.performAll (first ++ rest) = (s.performAll first).performAll rest :=
  List.foldl_append

/-- A call makes its logger known and no other. -/
@[simp] theorem kin_perform (s : Loggers) (call : Call) :
    (s.perform call).kin = s.kin.add call.name := by
  cases call <;> rfl

/-- **A call changes the logger of its name alone.** -/
theorem logger_perform (s : Loggers) (call : Call) (name : LoggerName) :
    (s.perform call).logger name =
      if name = call.name then call.change (s.logger name) else s.logger name := by
  by_cases h : name = call.name
  · rw [if_pos h, h]
    cases call with
    | touch _ => rfl
    | configure other split => exact logger_update_self s other split.apply
    | addForeign other floor => exact logger_update_self s other (Call.change (.addForeign other floor))
  · rw [if_neg h]
    cases call with
    | touch _ => rfl
    | configure other split => exact logger_update_of_ne _ h
    | addForeign other floor => exact logger_update_of_ne (Call.change (.addForeign other floor)) h

end Loggers

end Logging

/-! ## Steps -/

namespace Session

open Logging

/-- The call that a step makes on the loggers, if it comes to one: settings
have to be there to be obeyed, and a format has to be accepted. -/
def call? (s : Session) : Step → Option Call
  | .obey settings =>
    match lookup settings s.settings with
    | .ok found => some (.configure package { level := found.level })
    | .error _ => none
  | .configure name level floor wording =>
    match formatterOf wording with
    | .ok formatter => some (.configure name ⟨level, floor, formatter⟩)
    | .error _ => none
  | .addForeign name floor => some (.addForeign name floor)
  | .log record => some (.touch record.logger)
  | .inspect name => some (.touch name)
  | _ => none

/-- The calls that a row of steps makes on the loggers. -/
def history (s : Session) : List Step → List Call
  | [] => []
  | next :: rest => (s.call? next).toList ++ history (s.step next).2 rest

/-- The cursors behind a step. One that is opened stands before its check, and
one that is pulled behind its pull. -/
def cursorsBehind (s : Session) : Step → List (String × Cursor)
  | .iterate subject register value =>
    match lookup subject s.subjects with
    | .ok c => (register, Cursor.start c.tree value) :: s.cursors
    | .error _ => s.cursors
  | .next cursor =>
    match lookup cursor s.cursors with
    | .ok k => (cursor, k.pull.2) :: s.cursors
    | .error _ => s.cursors
  | _ => s.cursors

/-- The settings behind a step. Those that it finds are put before the others. -/
def settingsBehind (s : Session) : Step → List (String × Settings)
  | .settings register options =>
    match Settings.ofValues fun f => options.get? f.name with
    | .ok found => (register, found) :: s.settings
    | .error _ => s.settings
  | .environment register env =>
    match Settings.ofEnvironment env with
    | .ok found => (register, found) :: s.settings
    | .error _ => s.settings
  | _ => s.settings

/-- **What a step changes**: the loggers by the call that it makes, if it makes
one, the cursors if it opens or pulls one, and the settings if it finds some. -/
theorem step_changes (s : Session) (next : Step) :
    (s.step next).2.loggers = s.loggers.performAll (s.call? next).toList ∧
      (s.step next).2.cursors = s.cursorsBehind next ∧
      (s.step next).2.settings = s.settingsBehind next := by
  cases next with
  | settings register options =>
    simp only [step, advance, advanceBy, settingsBehind, bind, Except.bind]
    cases Settings.ofValues fun f => options.get? f.name <;> exact ⟨rfl, rfl, rfl⟩
  | environment register env =>
    simp only [step, advance, advanceBy, settingsBehind, bind, Except.bind]
    cases Settings.ofEnvironment env <;> exact ⟨rfl, rfl, rfl⟩
  | validator register schema path settings =>
    simp only [step, advance, advanceBy, bind, Except.bind]
    cases s.settingsOf settings with
    | error fault => exact ⟨rfl, rfl, rfl⟩
    | ok found =>
      dsimp only
      cases Validator.compile found path schema <;> exact ⟨rfl, rfl, rfl⟩
  | check register blueprint =>
    simp only [step, advance, advanceBy]
    cases blueprint.build fun name => (s.subjects.lookup name).map Subject.tree <;>
      exact ⟨rfl, rfl, rfl⟩
  | verdict subject value =>
    simp only [step, advance, advanceBy, bind, Except.bind]
    cases lookup subject s.subjects <;> exact ⟨rfl, rfl, rfl⟩
  | iterate subject register value =>
    simp only [step, advance, advanceBy, cursorsBehind, bind, Except.bind]
    cases lookup subject s.subjects <;> exact ⟨rfl, rfl, rfl⟩
  | next cursor =>
    simp only [step, advance, advanceBy, cursorsBehind, bind, Except.bind]
    cases lookup cursor s.cursors <;> exact ⟨rfl, rfl, rfl⟩
  | equal a b =>
    simp only [step, advance, advanceBy, bind, Except.bind]
    cases lookup a s.subjects with
    | error fault => exact ⟨rfl, rfl, rfl⟩
    | ok c => cases lookup b s.subjects <;> exact ⟨rfl, rfl, rfl⟩
  | obey settings =>
    simp only [step, advance, advanceBy, call?, bind, Except.bind]
    cases lookup settings s.settings <;> exact ⟨rfl, rfl, rfl⟩
  | configure name level floor wording =>
    simp only [step, advance, advanceBy, call?, bind, Except.bind]
    cases formatterOf wording <;> exact ⟨rfl, rfl, rfl⟩
  | addForeign name floor => exact ⟨rfl, rfl, rfl⟩
  | log record => exact ⟨rfl, rfl, rfl⟩
  | inspect name => exact ⟨rfl, rfl, rfl⟩

/-- **The loggers behind a row of steps are those behind its calls.** -/
theorem loggers_after (s : Session) (steps : List Step) :
    (s.after steps).loggers = s.loggers.performAll (s.history steps) := by
  induction steps generalizing s with
  | nil => rfl
  | cons next rest ih =>
    have behind : (s.after (next :: rest)).loggers = ((s.step next).2.after rest).loggers := rfl
    rw [behind, ih, (s.step_changes next).1, history, Loggers.performAll_append]

end Session

end Conformance
