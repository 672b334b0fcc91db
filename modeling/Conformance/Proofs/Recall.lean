import Conformance.Proofs.Handlers
import Conformance.Session.Live

/-!
# Recall — what it changes that loggers keep their answers

A live session does what a session does, `step_follows`: memory decides nothing
but which records are written. `Answers` says how it decides that. A logger that is
asked for the first time since a level was set answers as by the rules; one that was
asked before answers as it did then. What can have changed in the meantime is the
way from the logger to the root, for which a logger that has become known is
enough. The way of a plain name never changes, so plain names are always
answered as by the rules of now, and where no others are asked a live session is
not to be told from one without memory, `run_of_plain`. The compiler is one of
them, and its records are written alike whether they are logged or come of a
compilation, `written_validator`.
-/


namespace Conformance

namespace Logging

namespace Loggers

variable {s t : Loggers} {name : LoggerName}

/-- To a plain name loggers are alike if they have the same levels and handlers. -/
theorem alikeAbove_of_plain (plain : name.IsPlain)
    (same : ∀ other, s.logger other = t.logger other) : AlikeAbove name s t :=
  ⟨Kinship.lineage_of_plain s.kin t.kin plain, fun other _ => same other⟩

/-- And if they have the same levels, the same level counts for it. -/
theorem effective_of_plain (plain : name.IsPlain)
    (same : ∀ other, (s.logger other).level = (t.logger other).level) :
    s.effective name = t.effective name := by
  rw [effective, effective, lineage, lineage, Kinship.lineage_of_plain s.kin t.kin plain]
  simp only [same]

/-- Calls that configure no logger leave the levels as they are. -/
theorem level_performAll (s : Loggers) {calls : List Call} (name : LoggerName)
    (kept : splits name calls = []) :
    ((s.performAll calls).logger name).level = (s.logger name).level := by
  rw [logger_performAll_of_splits_eq_nil s kept]

end Loggers

theorem isPlain_compiler : compiler.IsPlain := by decide

/-- Asking for the compiler changes nothing of what its records meet. -/
theorem alikeAbove_touch_compiler (s : Loggers) :
    Loggers.AlikeAbove compiler (s.touch compiler) s :=
  Loggers.alikeAbove_of_plain isPlain_compiler fun _ => rfl

end Logging

/-! ## Steps and their questions -/

namespace Session

open Logging

/-- The loggers that a record meets: logging it asks for its own. -/
def met (s : Session) (r : Record) : Loggers := s.loggers.touch r.logger

/-- No step of a row sets the level of a logger. -/
def LeavesLevels (s : Session) (steps : List Step) : Prop :=
  ∀ name, splits name (s.history steps) = []

theorem after_append (s : Session) (first rest : List Step) :
    s.after (first ++ rest) = (s.after first).after rest :=
  List.foldl_append

theorem after_concat (s : Session) (steps : List Step) (next : Step) :
    s.after (steps ++ [next]) = ((s.after steps).step next).2 :=
  s.after_append steps [next]

theorem history_append (s : Session) (first rest : List Step) :
    s.history (first ++ rest) = s.history first ++ (s.after first).history rest := by
  induction first generalizing s with
  | nil => rfl
  | cons next more ih =>
    have behind : s.after (next :: more) = (s.step next).2.after more := rfl
    rw [List.cons_append, history, history, ih, behind, List.append_assoc]

/-- The levels behind steps that set none. -/
theorem LeavesLevels.level {s : Session} {steps : List Step} (h : s.LeavesLevels steps)
    (name : LoggerName) :
    ((s.after steps).loggers.logger name).level = (s.loggers.logger name).level := by
  rw [loggers_after]
  exact s.loggers.level_performAll name (h name)

/-- A step sets no level if it fails, or if it is not of the kind that does. -/
theorem splits_call (s : Session) {next : Step}
    (h : next.setsLevel = false ∨ s.call? next = none) (name : LoggerName) :
    splits name (s.call? next).toList = [] := by
  rcases h with unset | failed
  · cases next <;> first | rfl | cases unset
  · rw [failed]
    rfl

/-- **A step of the kind that sets a level** fails and makes no call, or configures a
logger and does nothing else. -/
theorem advance_of_setsLevel (s : Session) {next : Step} (sets : next.setsLevel = true) :
    (∃ fault, s.advance next = .error fault ∧ s.call? next = none) ∨
      ∃ name split, s.call? next = some (.configure name split) ∧
        s.advance next = .ok (.logger name ((s.loggers.configure name split).logger name), [],
          { s with loggers := s.loggers.configure name split }) := by
  cases next with
  | obey settings =>
    simp only [advance, advanceBy, call?, bind, Except.bind]
    cases lookup settings s.settings with
    | error fault => exact .inl ⟨fault, rfl, rfl⟩
    | ok found => exact .inr ⟨package, { level := found.level }, rfl, rfl⟩
  | configure name level floor wording =>
    simp only [advance, advanceBy, call?, bind, Except.bind]
    cases formatterOf wording with
    | error fault => exact .inl ⟨fault, rfl, rfl⟩
    | ok formatter => exact .inr ⟨name, ⟨level, floor, formatter⟩, rfl, rfl⟩
  | _ => cases sets

/-- A step that fails makes no call. -/
theorem call_of_error {s : Session} {next : Step} {fault : StepFault}
    (h : s.advance next = .error fault) : s.call? next = none := by
  by_cases sets : next.setsLevel = true
  · rcases s.advance_of_setsLevel sets with ⟨_, -, none⟩ | ⟨_, _, -, done⟩
    · exact none
    · rw [h] at done
      cases done
  · cases next with
    | obey settings => exact absurd rfl sets
    | configure name level floor wording => exact absurd rfl sets
    | addForeign name floor => cases h
    | log record => cases h
    | inspect name => cases h
    | _ => rfl

/-- Of steps that set no level the first sets none, and so do the others. -/
theorem LeavesLevels.tail {s : Session} {next : Step} {rest : List Step}
    (h : s.LeavesLevels (next :: rest)) (name : LoggerName) :
    splits name (s.call? next).toList = [] ∧ splits name ((s.step next).2.history rest) = [] := by
  have whole := h name
  rw [history, splits_append] at whole
  exact List.append_eq_nil_iff.mp whole

/-- Steps that set no level may be followed by another that sets none. -/
theorem LeavesLevels.concat {s : Session} {steps : List Step} (h : s.LeavesLevels steps)
    {next : Step} (unset : next.setsLevel = false ∨ (s.after steps).call? next = none) :
    s.LeavesLevels (steps ++ [next]) := by
  intro name
  have last : (s.after steps).history [next] = ((s.after steps).call? next).toList := by
    simp [history]
  rw [history_append, splits_append, h name, last, splits_call _ unset, List.append_nil]

/-- A compilation: it is refused and changes nothing, or it succeeds and
writes its record. -/
theorem advanceBy_validator (gate : Loggers.Gate) (s : Session) (register : String)
    (schema : Value) (path options : Option String) :
    s.advanceBy gate (.validator register schema path options) =
      match s.settingsOf options with
      | .error fault => .error fault
      | .ok found =>
        match Validator.compile found path schema with
        | .error e => .error (.error e)
        | .ok v =>
          .ok (.validator v, s.loggers.emitBy gate (compiled v),
            { s with subjects := (register, .validator v) :: s.subjects }) := by
  simp only [advanceBy, bind, Except.bind]
  cases s.settingsOf options with
  | error fault => rfl
  | ok found =>
    dsimp only
    cases Validator.compile found path schema with
    | error e => rfl
    | ok v =>
      dsimp only
      rw [Loggers.announceBy_eq_emitBy]
      rfl

/-- What a step gives back and leaves behind is the same for every gate. -/
theorem advanceBy_apart (gate : Loggers.Gate) (s : Session) (next : Step) :
    (s.advanceBy gate next).map (fun done => (done.1, done.2.2)) =
      (s.advance next).map fun done => (done.1, done.2.2) := by
  cases next with
  | validator register schema path options =>
    rw [advance, advanceBy_validator, advanceBy_validator]
    cases s.settingsOf options with
    | error fault => rfl
    | ok found =>
      dsimp only
      cases Validator.compile found path schema <;> rfl
  | _ => rfl

/-- **Gates differ by their answers to the step's question alone**, of the loggers
behind it. -/
theorem advanceBy_congr {gate gate' : Loggers.Gate} {s : Session} {next : Step}
    (same : ∀ name n, next.question? = some (name, n) →
      gate (s.step next).2.loggers name n = gate' (s.step next).2.loggers name n) :
    s.advanceBy gate next = s.advanceBy gate' next := by
  cases next with
  | validator register schema path options =>
    have loggers : (s.step (.validator register schema path options)).2.loggers = s.loggers :=
      (s.step_changes _).1
    rw [loggers] at same
    have emitted (v : Validator) :
        s.loggers.emitBy gate (compiled v) = s.loggers.emitBy gate' (compiled v) := by
      rw [Loggers.emitBy, Loggers.emitBy, show (compiled v).logger = compiler from rfl,
        show (compiled v).level = Level.debug from rfl, same compiler Level.debug rfl]
    simp only [advanceBy_validator, emitted]
  | log r =>
    have asked : gate (s.loggers.touch r.logger) r.logger r.level =
        gate' (s.loggers.touch r.logger) r.logger r.level := same r.logger r.level rfl
    simp only [advanceBy, Loggers.emitBy, asked]
  | _ => rfl

end Session

/-! ## Live sessions -/

namespace LiveSession

open Logging

variable {s : LiveSession} {steps : List Step} {name : LoggerName} {n : Level}

/-- **A live session does what a session does.** It gives the same answer to a
step and goes on with the same session; and it keeps what a step makes it keep, if
that succeeds. -/
theorem step_follows (s : LiveSession) (next : Step) :
    (s.step next).1.answer = (s.session.step next).1.answer ∧
      (s.step next).2.session = (s.session.step next).2 ∧
      ((s.session.advance next).isOk = true ∧
          (s.step next).2.memory = s.memoryBehind (s.session.step next).2.loggers next ∨
        s.session.call? next = none ∧ (s.step next).2.memory = s.memory) := by
  have apart := Session.advanceBy_apart s.memory.answer s.session next
  simp only [step, Session.step]
  cases live : s.session.advanceBy s.memory.answer next with
  | error fault =>
    rw [live] at apart
    cases plain : s.session.advance next with
    | error other =>
      rw [plain] at apart
      obtain rfl : fault = other := Except.error.inj apart
      exact ⟨rfl, rfl, .inr ⟨Session.call_of_error plain, rfl⟩⟩
    | ok done =>
      rw [plain] at apart
      cases apart
  | ok done =>
    rw [live] at apart
    cases plain : s.session.advance next with
    | error other =>
      rw [plain] at apart
      cases apart
    | ok done' =>
      rw [plain] at apart
      obtain ⟨same, behind⟩ := Prod.mk.inj (Except.ok.inj apart)
      obtain ⟨answer, lines, session⟩ := done
      obtain ⟨answer', lines', session'⟩ := done'
      dsimp only at same behind
      subst same behind
      exact ⟨rfl, rfl, .inl ⟨rfl, rfl⟩⟩

/-- **And so does a row of steps.** -/
theorem session_after (s : LiveSession) (steps : List Step) :
    (s.after steps).session = s.session.after steps := by
  induction steps generalizing s with
  | nil => rfl
  | cons next rest ih =>
    have behind : s.after (next :: rest) = (s.step next).2.after rest := rfl
    rw [behind, ih, (s.step_follows next).2.1]
    rfl

theorem after_append (s : LiveSession) (first rest : List Step) :
    s.after (first ++ rest) = (s.after first).after rest :=
  List.foldl_append

theorem after_concat (s : LiveSession) (steps : List Step) (next : Step) :
    s.after (steps ++ [next]) = ((s.after steps).step next).2 :=
  s.after_append steps [next]

/-! ## What is kept -/

/-- A step that asks a logger has asked for it, or else the logger is that of the
compiler and answers alike. -/
theorem admits_touch_of_question (s : Session) {next : Step}
    (asked : next.question? = some (name, n)) :
    ((s.step next).2.loggers.touch name).admits name n = (s.step next).2.loggers.admits name n := by
  cases next with
  | validator register schema path settings =>
    obtain ⟨rfl, rfl⟩ := Prod.mk.inj (Option.some.inj asked)
    exact (alikeAbove_touch_compiler _).admits _
  | log r =>
    obtain ⟨rfl, rfl⟩ := Prod.mk.inj (Option.some.inj asked)
    have behind : (s.step (.log r)).2.loggers = s.loggers.touch r.logger := rfl
    rw [behind, Loggers.touch, Loggers.touch, Kinship.add_add]
  | _ => cases asked

/-- A step keeps what was kept, if it sets no level. -/
theorem kept_step {b : Bool} (kept : s.memory.kept name n = some b) {next : Step}
    (unset : ∀ other, splits other (s.session.call? next).toList = []) :
    (s.step next).2.memory.kept name n = some b := by
  rcases (s.step_follows next).2.2 with ⟨done, behind⟩ | ⟨-, behind⟩
  · rw [behind, memoryBehind]
    split
    case isTrue sets =>
      rcases s.session.advance_of_setsLevel sets with ⟨_, failed, -⟩ | ⟨other, split, made, -⟩
      · rw [failed] at done
        cases done
      · have none_made := unset other
        rw [made] at none_made
        simp [splits, Call.split?] at none_made
    case isFalse =>
      split
      · exact Memory.kept_keep_of_kept kept
      · exact kept
  · rw [behind]
    exact kept

/-- **Nothing is forgotten where no level is set.** -/
theorem kept_after {b : Bool} (kept : s.memory.kept name n = some b)
    (quiet : s.session.LeavesLevels steps) : (s.after steps).memory.kept name n = some b := by
  induction steps generalizing s with
  | nil => exact kept
  | cons next rest ih =>
    refine ih (kept_step kept fun other => (quiet.tail other).1) ?_
    rw [(s.step_follows next).2.1]
    exact fun other => (quiet.tail other).2

/-- A logger is asked by one of some steps, and no step behind that sets a level. -/
def Asked (s : Session) (first : List Step) (asking : Step) (rest : List Step)
    (name : LoggerName) (n : Level) : Prop :=
  asking.question? = some (name, n) ∧ (s.after (first ++ [asking])).LeavesLevels rest

/-- What is asked of a logger stays asked where no level is set. -/
theorem Asked.concat {s : Session} {first rest : List Step} {asking next : Step}
    (h : Asked s first asking rest name n)
    (unset : next.setsLevel = false ∨ (s.after (first ++ asking :: rest)).call? next = none) :
    Asked s first asking (rest ++ [next]) name n := by
  refine ⟨h.1, h.2.concat ?_⟩
  rwa [← Session.after_append, List.append_assoc, List.singleton_append]

/-- **What a logger has kept the rules have answered**, behind a step that asked it,
and no level was set since. A step keeps to that: it forgets all answers if it
sets a level, and otherwise adds at most that of the rules to what it asks. -/
theorem asked_of_kept (start : s.memory = .blank) (steps : List Step) {b : Bool}
    (kept : (s.after steps).memory.kept name n = some b) :
    ∃ first asking rest, steps = first ++ asking :: rest ∧
      Asked s.session first asking rest name n ∧
      ((s.session.after (first ++ [asking])).loggers.touch name).admits name n = b := by
  induction steps using List.reverseRecOn generalizing name n b with
  | nil =>
    have nothing : (s.after []).memory = .blank := start
    rw [nothing] at kept
    cases kept
  | append_singleton steps next ih =>
    have older {name : LoggerName} {n : Level} {b : Bool}
        (kept : (s.after steps).memory.kept name n = some b)
        (unset : next.setsLevel = false ∨ (s.session.after steps).call? next = none) :
        ∃ first asking rest, steps ++ [next] = first ++ asking :: rest ∧
          Asked s.session first asking rest name n ∧
          ((s.session.after (first ++ [asking])).loggers.touch name).admits name n = b := by
      obtain ⟨first, asking, rest, rfl, asked, given⟩ := ih kept
      exact ⟨first, asking, rest ++ [next], by simp, asked.concat unset, given⟩
    rw [after_concat] at kept
    rcases ((s.after steps).step_follows next).2.2 with ⟨-, done⟩ | ⟨failed, same⟩
    · rw [done, memoryBehind] at kept
      split at kept
      case isTrue => cases kept
      case isFalse unset =>
        have unset : next.setsLevel = false := by simpa using unset
        split at kept
        case h_2 => exact older kept (.inl unset)
        case h_1 asker k asked =>
          rcases Memory.kept_keep kept with old | ⟨rfl, rfl, -, given⟩
          · exact older old (.inl unset)
          · refine ⟨steps, next, [], rfl, ⟨asked, fun _ => rfl⟩, ?_⟩
            rw [given, session_after, Session.after_concat]
            exact admits_touch_of_question _ asked
    · rw [same] at kept
      rw [session_after] at failed
      exact older kept (.inr failed)

/-! ## What is answered -/

/-- Whether a live session writes a record if it is logged. -/
def admits (s : LiveSession) (r : Record) : Bool :=
  s.memory.answer (s.session.met r) r.logger r.level

/-- **A plain name is answered as by the rules of now**: no logger that becomes
known comes to stand on its way. The loggers may be those of now or any others with
their levels. -/
theorem answer_of_plain (start : s.memory = .blank) (steps : List Step) (plain : name.IsPlain)
    {t : Loggers}
    (levels : ∀ other, (t.logger other).level =
      ((s.session.after steps).loggers.logger other).level) :
    (s.after steps).memory.answer t name n = t.admits name n := by
  cases kept : (s.after steps).memory.kept name n with
  | none => exact Memory.answer_of_kept_eq_none kept
  | some b =>
    rw [Memory.answer_of_kept_eq_some kept]
    obtain ⟨first, asking, rest, rfl, ⟨-, quiet⟩, rfl⟩ := asked_of_kept start steps kept
    have split_off : s.session.after (first ++ asking :: rest) =
        (s.session.after (first ++ [asking])).after rest := by
      rw [← Session.after_append, List.append_assoc, List.singleton_append]
    have then_now : ((s.session.after (first ++ [asking])).loggers.touch name).effective name =
        t.effective name := by
      refine Loggers.effective_of_plain plain fun other => ?_
      rw [levels, split_off, quiet.level other, Loggers.logger_touch]
    rw [Loggers.admits, Loggers.admits, then_now]

theorem admits_of_plain (start : s.memory = .blank) (steps : List Step) {r : Record}
    (plain : r.logger.IsPlain) :
    (s.after steps).admits r = ((s.session.after steps).met r).admits r.logger r.level := by
  rw [admits, session_after]
  exact answer_of_plain start steps plain fun other => rfl

/-- **A logger that is asked again answers as before.** -/
theorem admits_again (start : s.memory = .blank) {first rest : List Step} {asking : Step}
    {r : Record} (asked : Asked s.session first asking rest r.logger r.level) :
    (s.after (first ++ asking :: rest)).admits r = (s.after first).admits r := by
  obtain ⟨question, quiet⟩ := asked
  have split_off : s.after (first ++ asking :: rest) =
      ((s.after first).step asking).2.after rest := by
    rw [after_append]
    rfl
  cases asking with
  | log r' =>
    obtain ⟨sameLogger, sameLevel⟩ := Prod.mk.inj (Option.some.inj question)
    have kept : ((s.after first).step (.log r')).2.memory.kept r.logger r.level =
        some ((s.after first).admits r) := by
      rw [admits, Session.met, ← sameLogger, ← sameLevel]
      exact Memory.kept_keep_self
    have still : (s.after (first ++ .log r' :: rest)).memory.kept r.logger r.level =
        some ((s.after first).admits r) := by
      rw [split_off]
      refine kept_after kept ?_
      rw [((s.after first).step_follows _).2.1, session_after, ← Session.after_concat]
      exact quiet
    rw [admits, Memory.answer_of_kept_eq_some still]
  | validator register schema path settings =>
    -- a compilation that fails asks nothing, but the compiler's name is plain
    obtain ⟨sameLogger, -⟩ := Prod.mk.inj (Option.some.inj question)
    have plain : r.logger.IsPlain := by
      rw [← sameLogger]
      exact isPlain_compiler
    have levels : ((s.session.after (first ++ .validator register schema path settings :: rest)).met
        r).effective r.logger = ((s.session.after first).met r).effective r.logger := by
      refine Loggers.effective_of_plain plain fun other => ?_
      have loggers : ((s.session.after first).step
          (.validator register schema path settings)).2.loggers = (s.session.after first).loggers :=
        ((s.session.after first).step_changes _).1
      have level := quiet.level other
      rw [← Session.after_append, List.append_assoc, List.singleton_append, Session.after_concat,
        loggers] at level
      exact level
    rw [admits_of_plain start _ plain, admits_of_plain start _ plain, Loggers.admits,
      Loggers.admits, levels]
  | _ => cases question

/-- How a live session admits records behind some steps. -/
structure Answers (s : LiveSession) (steps : List Step) (r : Record) : Prop where
  /-- If the logger was not asked about the level since a level was set, the rules
  decide. -/
  first : (∀ first asking rest, steps = first ++ asking :: rest →
      ¬ Asked s.session first asking rest r.logger r.level) →
    ((s.after steps).admits r = true ↔
      0 < r.level ∧ ((s.after steps).session.met r).effective r.logger ≤ r.level)
  /-- If it was, it answers as it did then. -/
  again : ∀ first asking rest, steps = first ++ asking :: rest →
    Asked s.session first asking rest r.logger r.level →
      (s.after steps).admits r = (s.after first).admits r
  /-- For a plain name the rules decide in any case. -/
  plain : r.logger.IsPlain →
    ((s.after steps).admits r = true ↔
      0 < r.level ∧ ((s.after steps).session.met r).effective r.logger ≤ r.level)

/-- **A live session that starts with nothing kept answers so.** -/
theorem answers_of_blank (start : s.memory = .blank) (steps : List Step) (r : Record) :
    Answers s steps r := by
  refine ⟨fun never => ?_, ?_, fun plain => ?_⟩
  · rw [← Loggers.admits_iff, admits]
    cases kept : (s.after steps).memory.kept r.logger r.level with
    | none => rw [Memory.answer_of_kept_eq_none kept]
    | some b =>
      obtain ⟨first, asking, rest, split_off, asked, -⟩ := asked_of_kept start steps kept
      exact absurd asked (never first asking rest split_off)
  · rintro first asking rest rfl asked
    exact admits_again start asked
  · rw [← Loggers.admits_iff, admits_of_plain start steps plain, session_after]

/-! ## Where nothing is out of date -/

/-- **A step that asks plain names goes as without memory.** -/
theorem step_of_plain (start : s.memory = .blank) (steps : List Step) {next : Step}
    (plain : ∀ name n, next.question? = some (name, n) → name.IsPlain) :
    ((s.after steps).step next).1 = ((s.session.after steps).step next).1 := by
  have same : (s.session.after steps).advanceBy (s.after steps).memory.answer next =
      (s.session.after steps).advance next := by
    refine Session.advanceBy_congr fun name n asked => ?_
    refine answer_of_plain start steps (plain name n asked) fun other => ?_
    have unset : next.setsLevel = false := by
      cases next <;> first | rfl | cases asked
    rw [((s.session.after steps).step_changes next).1]
    exact Loggers.level_performAll _ _ (Session.splits_call _ (.inl unset) other)
  rw [step, Session.step, session_after, same]
  cases (s.session.after steps).advance next with
  | error fault => rfl
  | ok done => rfl

/-- **And so do such steps in a row.** -/
theorem run_of_plain (start : s.memory = .blank) (first : List Step) {rest : List Step}
    (plain : ∀ next ∈ rest, ∀ name n, next.question? = some (name, n) → name.IsPlain) :
    (s.after first).run rest = (s.session.after first).run rest := by
  induction rest generalizing first with
  | nil => rfl
  | cons next more ih =>
    rw [run, Session.run, step_of_plain start first (plain next List.mem_cons_self),
      ← after_concat, ← Session.after_concat,
      ih (first ++ [next]) fun step mem => plain step (List.mem_cons_of_mem _ mem)]

/-- **A compilation writes what its record writes when it is logged**, whatever is
kept. -/
theorem written_validator (s : LiveSession) {register : String} {schema : Value}
    {path options : Option String} {v : Validator}
    (done : (s.step (.validator register schema path options)).1.answer = .ok (.validator v)) :
    (s.step (.validator register schema path options)).1.written =
      (s.step (.log (compiled v))).1.written := by
  have alike := alikeAbove_touch_compiler s.session.loggers
  have asked : s.memory.answer (s.session.loggers.touch compiler) compiler Level.debug =
      s.memory.answer s.session.loggers compiler Level.debug := by
    rw [Memory.answer, Memory.answer, alike.admits]
  have logged : (s.session.loggers.touch compiler).emitBy s.memory.answer (compiled v) =
      s.session.loggers.emitBy s.memory.answer (compiled v) := by
    rw [Loggers.emitBy, Loggers.emitBy, Loggers.AlikeAbove.dispatch alike]
    exact congrArg (fun heard : Bool => if heard then _ else _) asked
  rw [step, Session.advanceBy_validator] at done ⊢
  cases settled : s.session.settingsOf options with
  | error fault =>
    rw [settled] at done
    cases done
  | ok found =>
    rw [settled] at done
    dsimp only at done
    cases sound : Validator.compile found path schema with
    | error e =>
      rw [sound] at done
      cases done
    | ok w =>
      rw [sound] at done
      obtain rfl : w = v := by
        cases done
        rfl
      dsimp only
      rw [sound]
      exact congrArg Written.ofLines logged.symm

end LiveSession

end Conformance
