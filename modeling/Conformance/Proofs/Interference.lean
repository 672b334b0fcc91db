import Conformance.Proofs.Routing
import Conformance.Proofs.Terms

/-!
# Interference — compilation and logging leave each other alone

A compilation announces itself, and does so only if somebody listens. That
is a shortcut and no more: `advance_validator` says that a compilation which
succeeds writes what logging the one record of it would write, line by line
and handler by handler, and that one which fails writes nothing. In the other
direction loggers decide nothing but what is written: sessions that differ in
their loggers alone give the same answers, `step_withLoggers` and
`run_withLoggers`, but for answers that show a logger itself. Records are admitted
by the rules here; in a live session a compilation and its record are admitted
alike too, `LiveSession.written_validator`.
-/


namespace Conformance

namespace Logging

/-! ## The record of a compilation -/

/-- Asking for the compiler changes nothing of what its records write. -/
theorem emit_touch_compiler (s : Loggers) (v : Validator) :
    (s.touch compiler).emit (compiled v) = s.emit (compiled v) :=
  Loggers.AlikeAbove.emit (alikeAbove_touch_compiler s)

/-- Every line of a compilation is the delivery of a handler: it is not grave
enough to be written where there is none. -/
theorem emit_compiled (s : Loggers) (v : Validator) :
    s.emit (compiled v) = (s.deliveries (compiled v)).map Delivery.line := by
  have dispatched : s.dispatch (compiled v) = (s.handed (compiled v)).map Delivery.line := by
    by_cases none_met : s.reach (compiled v).logger = []
    · have nothing : s.dispatch (compiled v) = [] := by
        rw [Loggers.dispatch, none_met]
        rfl
      have unhanded : s.handed (compiled v) = [] := by
        refine List.flatMap_eq_nil_iff.mpr fun name on => ?_
        rw [Loggers.deliveriesAt, List.flatMap_eq_nil_iff.mp none_met name on]
        rfl
      rw [nothing, unhanded]
      rfl
    · exact Loggers.dispatch_eq_handed none_met
  rw [Loggers.emit, Loggers.deliveries, dispatched]
  split
  · rfl
  · rfl

/-- A line of the standard format shows the message as it is. -/
theorem render_standard (r : Record) :
    Format.standard.render r =
      some (r.logger.text ++ " - " ++ r.level.name ++ " - " ++ r.message) := by
  simp [Format.standard, Format.render, Piece.render, Piece.plain, RecordField.letters?,
    Text.Layout.showText?, String.join, String.append_assoc]

end Logging

/-! ## Steps -/

/-- Whether a step asks what a check says of a value. -/
def Step.validates : Step → Bool
  | .verdict .. => true
  | .iterate .. => true
  | .next _ => true
  | _ => false

/-- An answer without what it shows of a logger. -/
def Answer.blind : Answer → Answer
  | .logger name _ => .logger name {}
  | a => a

namespace Session

open Logging

variable {s t : Session}

/-- A compilation: it is refused and changes nothing, or it succeeds and
writes its record. -/
theorem advance_validator (s : Session) (register : String) (schema : Value)
    (path options : Option String) :
    s.advance (.validator register schema path options) =
      match s.settingsOf options with
      | .error fault => .error fault
      | .ok found =>
        match Validator.compile found path schema with
        | .error e => .error (.error e)
        | .ok v =>
          .ok (.validator v, s.loggers.emit (compiled v),
            { s with subjects := (register, .validator v) :: s.subjects }) :=
  advanceBy_validator Loggers.admits s register schema path options

/-- **A step answers the same whatever the loggers are**, up to what it shows
of one, and leaves the same registers. -/
theorem step_withLoggers (s : Session) (l : Loggers) (next : Step) :
    (({ s with loggers := l } : Session).step next).1.answer.map Answer.blind =
        (s.step next).1.answer.map Answer.blind ∧
      ∃ l', (({ s with loggers := l } : Session).step next).2 =
        { (s.step next).2 with loggers := l' } := by
  cases next with
  | settings register options =>
    simp only [step, advance, advanceBy, bind, Except.bind]
    cases settled (Settings.ofValues fun f => options.get? f.name) <;> exact ⟨rfl, l, rfl⟩
  | environment register env =>
    simp only [step, advance, advanceBy, bind, Except.bind]
    cases settled (Settings.ofEnvironment env) <;> exact ⟨rfl, l, rfl⟩
  | validator register schema path options =>
    have same : ({ s with loggers := l } : Session).settingsOf options = s.settingsOf options := by
      cases options <;> rfl
    simp only [step, advance_validator, same]
    cases s.settingsOf options with
    | error fault => exact ⟨rfl, l, rfl⟩
    | ok found =>
      dsimp only
      cases Validator.compile found path schema <;> exact ⟨rfl, l, rfl⟩
  | check register blueprint =>
    simp only [step, advance, advanceBy]
    cases blueprint.build fun name => (s.subjects.lookup name).map Subject.tree <;>
      exact ⟨rfl, l, rfl⟩
  | verdict subject value =>
    simp only [step, advance, advanceBy, bind, Except.bind]
    cases lookup subject s.subjects <;> exact ⟨rfl, l, rfl⟩
  | iterate subject register value =>
    simp only [step, advance, advanceBy, bind, Except.bind]
    cases lookup subject s.subjects <;> exact ⟨rfl, l, rfl⟩
  | next cursor =>
    simp only [step, advance, advanceBy, bind, Except.bind]
    cases lookup cursor s.cursors <;> exact ⟨rfl, l, rfl⟩
  | equal a b =>
    simp only [step, advance, advanceBy, bind, Except.bind]
    cases lookup a s.subjects with
    | error fault => exact ⟨rfl, l, rfl⟩
    | ok c => cases lookup b s.subjects <;> exact ⟨rfl, l, rfl⟩
  | obey settings =>
    simp only [step, advance, advanceBy, bind, Except.bind]
    cases lookup settings s.settings with
    | error fault => exact ⟨rfl, l, rfl⟩
    | ok found => exact ⟨rfl, l.obey found, rfl⟩
  | configure name level floor wording =>
    simp only [step, advance, advanceBy, bind, Except.bind]
    cases formatterOf wording with
    | error fault => exact ⟨rfl, l, rfl⟩
    | ok formatter => exact ⟨rfl, l.configure name ⟨level, floor, formatter⟩, rfl⟩
  | addForeign name floor => exact ⟨rfl, l.addForeign name floor, rfl⟩
  | log record => exact ⟨rfl, l.touch record.logger, rfl⟩
  | inspect name => exact ⟨rfl, l.touch name, rfl⟩

/-- **And so does a row of steps.** -/
theorem run_withLoggers (s : Session) (l : Loggers) (steps : List Step) :
    (({ s with loggers := l } : Session).run steps).map (fun o => o.answer.map Answer.blind) =
      (s.run steps).map (fun o => o.answer.map Answer.blind) := by
  induction steps generalizing s l with
  | nil => rfl
  | cons next rest ih =>
    obtain ⟨answer, l', behind⟩ := step_withLoggers s l next
    rw [run, run, List.map_cons, List.map_cons, answer, behind, ih]

/-- A step that validates writes nothing and leaves the loggers alone. -/
theorem step_of_validates (s : Session) {next : Step} (h : next.validates = true) :
    (s.step next).1.written = {} ∧ (s.step next).2.loggers = s.loggers := by
  cases next with
  | verdict subject value =>
    simp only [step, advance, advanceBy, bind, Except.bind]
    cases lookup subject s.subjects <;> exact ⟨rfl, rfl⟩
  | iterate subject register value =>
    simp only [step, advance, advanceBy, bind, Except.bind]
    cases lookup subject s.subjects <;> exact ⟨rfl, rfl⟩
  | next cursor =>
    simp only [step, advance, advanceBy, bind, Except.bind]
    cases lookup cursor s.cursors <;> exact ⟨rfl, rfl⟩
  | _ => cases h

/-- A compilation that succeeds, and what it writes beside what logging its
record writes. -/
theorem advance_of_compile {s : Session} {options path : Option String} {found : Settings}
    {schema : Value} {v : Validator} (settled : s.settingsOf options = .ok found)
    (sound : Validator.compile found path schema = .ok v) (register : String) :
    s.advance (.validator register schema path options) =
        .ok (.validator v, (s.loggers.deliveries (compiled v)).map Delivery.line,
          { s with subjects := (register, .validator v) :: s.subjects }) ∧
      s.advance (.log (compiled v)) =
        .ok (.nothing, (s.loggers.deliveries (compiled v)).map Delivery.line,
          { s with loggers := s.loggers.touch compiler }) := by
  constructor
  · rw [advance_validator, settled]
    dsimp only
    rw [sound]
    dsimp only
    rw [emit_compiled]
  · rw [← emit_compiled, ← emit_touch_compiler]
    rfl

/-- A compilation is refused for what it reads, and never for a logger. -/
theorem step_validator_cases (s : Session) (register : String) (schema : Value)
    (path options : Option String) :
    (∃ fault, s.step (.validator register schema path options) = (⟨.error fault, {}⟩, s)) ∨
      ∃ found v, s.settingsOf options = .ok found ∧ Validator.compile found path schema = .ok v ∧
        s.step (.validator register schema path options) =
          (⟨.ok (.validator v),
              Written.ofLines ((s.loggers.deliveries (compiled v)).map Delivery.line)⟩,
            { s with subjects := (register, .validator v) :: s.subjects }) := by
  cases settled : s.settingsOf options with
  | error fault =>
    refine .inl ⟨fault, ?_⟩
    rw [step, advance_validator, settled]
  | ok found =>
    cases sound : Validator.compile found path schema with
    | error e =>
      refine .inl ⟨.error e, ?_⟩
      rw [step, advance_validator, settled]
      dsimp only
      rw [sound]
    | ok v =>
      refine .inr ⟨found, v, rfl, sound, ?_⟩
      rw [step, (advance_of_compile settled sound register).1]

/-- **Compilation and logging do not interfere.** Compiling a schema answers
the same whatever the loggers are, and leaves them as they are. If it fails,
nothing is written; if it succeeds, what is written, line by line and by the
same handlers, is what logging one record writes, of the lowest named level,
by the logger of the compiler, and with the path and the description in it as
they are. Validating writes nothing and leaves the loggers as they are. And a
whole session gives the same answers whatever the loggers are at first, but
for what its answers show of a logger. -/
theorem compilation_apart_from_logging (s : Session) :
    (∀ (register : String) (schema : Value) (path options : Option String),
      let compile := Step.validator register schema path options
      (∀ l : Loggers, (({ s with loggers := l } : Session).step compile).1.answer =
          (s.step compile).1.answer) ∧
        (s.step compile).2.loggers = s.loggers ∧
        (∀ fault, (s.step compile).1.answer = .error fault → (s.step compile).1.written = {}) ∧
        ∀ v, (s.step compile).1.answer = .ok (.validator v) →
          let text := "Compiled schema at " ++ v.path ++ ": " ++ v.check.describe
          let announcement : Record := ⟨compiler, Level.debug, text⟩
          (∃ found, s.settingsOf options = .ok found ∧
            Validator.compile found path schema = .ok v ∧ v.path = path.getD found.rootPath) ∧
          (s.step compile).1.written = (s.step (.log announcement)).1.written ∧
          (∃ lines behind behind', s.advance compile = .ok (.validator v, lines, behind) ∧
            s.advance (.log announcement) = .ok (.nothing, lines, behind') ∧
            lines = (s.loggers.deliveries announcement).map Delivery.line) ∧
          Format.bare.render announcement = some text ∧
          Format.standard.render announcement =
            some ("openapi_schema_checks.compiler - DEBUG - " ++ text)) ∧
      (∀ next : Step, next.validates = true →
        (s.step next).1.written = {} ∧ (s.step next).2.loggers = s.loggers) ∧
      ∀ (l : Loggers) (steps : List Step),
        (({ s with loggers := l } : Session).run steps).map (fun o => o.answer.map Answer.blind) =
          (s.run steps).map (fun o => o.answer.map Answer.blind) := by
  refine ⟨fun register schema path options => ?_, fun next h => step_of_validates s h,
    run_withLoggers s⟩
  intro compile
  refine ⟨fun l => ?_, ?_, ?_, ?_⟩
  · have same : ({ s with loggers := l } : Session).settingsOf options = s.settingsOf options := by
      cases options <;> rfl
    rw [step, step, advance_validator, advance_validator, same]
    cases s.settingsOf options with
    | error fault => rfl
    | ok found =>
      dsimp only
      cases Validator.compile found path schema <;> rfl
  · rcases step_validator_cases s register schema path options with
      ⟨fault, refused⟩ | ⟨found, v, -, -, done⟩
    · rw [refused]
    · rw [done]
  · intro fault answer
    rcases step_validator_cases s register schema path options with
      ⟨other, refused⟩ | ⟨found, v, -, -, done⟩
    · rw [refused]
    · rw [done] at answer
      cases answer
  · intro v answer text announcement
    rcases step_validator_cases s register schema path options with
      ⟨other, refused⟩ | ⟨found, w, settled, sound, done⟩
    · rw [refused] at answer
      cases answer
    · obtain rfl : w = v := by
        rw [done] at answer
        cases answer
        rfl
      obtain ⟨compiles, logs⟩ := advance_of_compile settled sound register
      have path_eq : w.path = path.getD found.rootPath := by
        obtain ⟨-, t, -, rfl⟩ := Schema.validator_compile_eq_ok_iff.mp sound
        rfl
      refine ⟨⟨found, settled, sound, path_eq⟩, ?_, ⟨_, _, _, compiles, logs, rfl⟩,
        Format.render_bare _, render_standard _⟩
      rw [done, step, show announcement = Logging.compiled w from rfl, logs]

/-- A session in which the records of the compiler go to the second stream, and
to a handler of somebody else at the root. -/
def listening : Session :=
  { loggers := (Loggers.fresh.configure package ⟨10, -3, Format.standard.render⟩).addForeign
      LoggerName.root 0 }

/-- A schema of two rules. -/
def pairSchema : Value :=
  .object .plain [(.plain "type", .plain "string"), (.plain "minLength", .integer 2)]

/-- A compilation at a path that looks like a format. -/
def percentStep : Step := .validator "v" pairSchema (some "50% \x7bx\x7d") none

/-- The path is written as it is, once by each handler, and nothing is written
of a verdict. -/
theorem compilation_apart_from_logging_percent :
    (∃ v, (listening.step percentStep).1.answer = .ok (.validator v) ∧
        (listening.step percentStep).1.written =
          ⟨"", "openapi_schema_checks.compiler - DEBUG - " ++
              "Compiled schema at 50% \x7bx\x7d: all(type=string, minLength=2)\n",
            "Compiled schema at 50% \x7bx\x7d: all(type=string, minLength=2)\n"⟩) ∧
      (listening.step (.verdict "v" .null)).1.written = {} := by
  obtain ⟨compile, validate, -⟩ := compilation_apart_from_logging listening
  refine ⟨⟨_, rfl, ?_⟩, (validate (.verdict "v" .null) rfl).1⟩
  have writes := ((compile "v" pairSchema (some "50% \x7bx\x7d") none).2.2.2 _ rfl).2.1
  exact writes.trans (by decide +kernel)

end Session

end Conformance
