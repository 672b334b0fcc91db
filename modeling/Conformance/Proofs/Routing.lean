import Conformance.Proofs.Recall
import Mathlib.Data.List.Nodup

/-!
# Routing — where the records of a configured logger go

A logger that is given a split divides its records between two streams. The
thresholds of four places have a part in that: the level that counts for the
logger of a record, the least level of each of the two handlers, and the
ceiling of the first. `Split.lines` says what they are for: a record from `10`
on is one line, if its formatter makes one, on the one stream below the floor of
the split and on the other from there on.

`Loggers.handed` names the handler behind every line, so that what our
handlers of one logger write can be told from all else, `share`. `split_routes`
says that this is what the split makes of a record, for every logger that has
the configured one on its way, whatever has been called since but another
configuration, and whatever loggers have kept of their answers. Names that merely
begin with the name of the configured logger have it on their way too, up to the
two exceptions of `Kinship.mem_lineage_of_prefix`. These are real, and so are
answers that are out of date: `split_misses_names`.
-/


namespace Conformance

namespace Logging

open Loggers (Split)

/-! ## Who writes a line -/

/-- A line, and the handler that writes it. -/
structure Delivery where
  logger : LoggerName
  handler : Handler
  line : Line

/-- The lines that our handlers of one logger write, of all that are written. -/
def share (deliveries : List Delivery) (name : LoggerName) : List Line :=
  (deliveries.filter fun d => d.logger = name && d.handler.isOwn).map Delivery.line

/-- The first of our handlers takes records from `10` up to its ceiling. -/
theorem Handler.takes_low (ceiling n : Level) (formatter : Formatter) :
    (Handler.low ceiling formatter).takes n = true ↔ 10 ≤ n ∧ n ≤ ceiling := by
  change (decide (10 ≤ n) && decide (n ≤ ceiling)) = true ↔ _
  rw [Bool.and_eq_true, decide_eq_true_iff, decide_eq_true_iff]

/-- The second takes records from its floor on. -/
theorem Handler.takes_high (floor n : Level) (formatter : Formatter) :
    (Handler.high floor formatter).takes n = true ↔ floor ≤ n := by
  change (decide (floor ≤ n) && true) = true ↔ _
  rw [Bool.and_true, decide_eq_true_iff]

namespace Loggers

variable {s : Loggers} {name : LoggerName} {r : Record}

/-- What the handlers of one logger write of a record that comes by. -/
def deliveriesAt (s : Loggers) (r : Record) (name : LoggerName) : List Delivery :=
  (s.logger name).handlers.filterMap fun h => (h.line? r).map (Delivery.mk name h)

/-- What all handlers write of a record that is admitted. -/
def handed (s : Loggers) (r : Record) : List Delivery :=
  (s.lineage r.logger).flatMap (s.deliveriesAt r)

/-- What all handlers write of a record. -/
def deliveries (s : Loggers) (r : Record) : List Delivery :=
  if s.admits r.logger r.level then s.handed r else []

theorem map_line_deliveriesAt (s : Loggers) (r : Record) (name : LoggerName) :
    (s.deliveriesAt r name).map Delivery.line =
      (s.logger name).handlers.filterMap (Handler.line? r) := by
  rw [deliveriesAt, List.map_filterMap]
  congr 1
  funext h
  cases h.line? r <;> rfl

/-- Where there is a handler on its way, a record is written by the handlers
alone. -/
theorem dispatch_of_reach_ne_nil (h : s.reach r.logger ≠ []) :
    s.dispatch r = (s.reach r.logger).filterMap (Handler.line? r) := by
  unfold dispatch
  split
  case h_1 none_met => exact absurd none_met h
  case h_2 => rfl

/-- **Where a record meets a handler at all, every line of it is the delivery
of one.** -/
theorem dispatch_eq_handed (h : s.reach r.logger ≠ []) :
    s.dispatch r = (s.handed r).map Delivery.line := by
  rw [dispatch_of_reach_ne_nil h, reach, handed, List.filterMap_flatMap, List.map_flatMap]
  congr 1
  funext name
  exact (map_line_deliveriesAt s r name).symm

/-- One logger on the way has written what its own handlers write: it is met
once. -/
theorem share_handed (on : name ∈ s.lineage r.logger) :
    share (s.handed r) name =
      ((s.logger name).handlers.filter Handler.isOwn).filterMap (Handler.line? r) := by
  have elsewhere {other : LoggerName} (h : other ≠ name) :
      (s.deliveriesAt r other).filter (fun d => d.logger = name && d.handler.isOwn) = [] := by
    refine List.filter_eq_nil_iff.mpr fun d mem => ?_
    obtain ⟨handler, -, written⟩ := List.mem_filterMap.mp mem
    obtain ⟨line, -, rfl⟩ := Option.map_eq_some_iff.mp written
    simp [h]
  have nowhere {names : List LoggerName} (h : name ∉ names) :
      (names.flatMap (s.deliveriesAt r)).filter
        (fun d => d.logger = name && d.handler.isOwn) = [] := by
    rw [List.filter_flatMap, List.flatMap_eq_nil_iff]
    intro other mem
    exact elsewhere fun same => h (same ▸ mem)
  have here : ((s.deliveriesAt r name).filter
        (fun d => d.logger = name && d.handler.isOwn)).map Delivery.line =
      ((s.logger name).handlers.filter Handler.isOwn).filterMap (Handler.line? r) := by
    rw [deliveriesAt]
    induction (s.logger name).handlers with
    | nil => rfl
    | cons h rest ih =>
      cases written : h.line? r <;> cases own : h.isOwn <;> simp [written, own, ih]
  obtain ⟨nearer, further, way⟩ := List.append_of_mem on
  have once := Kinship.nodup_lineage s.kin r.logger
  rw [show s.kin.lineage r.logger = nearer ++ name :: further from way] at once
  obtain ⟨not_nearer, not_further⟩ : name ∉ nearer ∧ name ∉ further := by
    have := List.nodup_middle.mp once
    rw [List.nodup_cons, List.mem_append] at this
    exact not_or.mp this.1
  rw [share, handed, way, List.flatMap_append, List.flatMap_cons, List.filter_append,
    List.filter_append, nowhere not_nearer, nowhere not_further, List.nil_append, List.append_nil,
    here]

/-! ## What a split is for -/

/-- What a split makes of a record: from `10` on one line, on the stream that
the level of the record selects. A formatter that fails on the record makes none. -/
def Split.lines (split : Split) (r : Record) : List Line :=
  if r.level < 10 then []
  else
    (split.formatter r).toList.map fun text =>
      ⟨if r.level < max split.stderrLevel 10 then .stdout else .stderr, text ++ "\n"⟩

/-- **The pair of a split does what the split is for**: the ceiling of the
one handler ends where the floor of the other begins. -/
theorem Split.filterMap_line? (split : Split) (r : Record) :
    split.handlers.filterMap (Handler.line? r) = split.lines r := by
  have least : 10 ≤ split.floor := Int.le_max_right _ _
  let written (stream : Stream) : Option Line :=
    (split.formatter r).map fun text => ⟨stream, text ++ "\n"⟩
  have low : (Handler.low (split.floor - 1) split.formatter).line? r =
      if 10 ≤ r.level ∧ r.level < split.floor then written .stdout else none := by
    simp only [Handler.line?, Handler.takes_low, Int.le_sub_one_iff]
    rfl
  have high : (Handler.high split.floor split.formatter).line? r =
      if split.floor ≤ r.level then written .stderr else none := by
    simp only [Handler.line?, Handler.takes_high]
    rfl
  have lines : split.lines r =
      if r.level < 10 then []
      else (written (if r.level < split.floor then .stdout else .stderr)).toList := by
    simp only [written, Option.toList_map]
    rfl
  have pair : split.handlers.filterMap (Handler.line? r) =
      ((Handler.low (split.floor - 1) split.formatter).line? r).toList ++
        ((Handler.high split.floor split.formatter).line? r).toList := by
    simp only [Split.handlers, List.filterMap_eq_flatMap_toList, List.flatMap_cons,
      List.flatMap_nil, List.append_nil]
  rw [pair, lines, low, high]
  rcases Int.lt_or_le r.level 10 with small | enough
  · have not_low : ¬ (10 ≤ r.level ∧ r.level < split.floor) := fun h => Int.not_le.mpr small h.1
    have not_high : ¬ split.floor ≤ r.level :=
      Int.not_le.mpr (Int.lt_of_lt_of_le small least)
    rw [if_neg not_low, if_neg not_high, if_pos small]
    rfl
  · rw [if_neg (Int.not_lt.mpr enough)]
    rcases Int.lt_or_le r.level split.floor with below | above
    · rw [if_pos ⟨enough, below⟩, if_neg (Int.not_le.mpr below), if_pos below, Option.toList_none,
        List.append_nil]
    · have not_low : ¬ (10 ≤ r.level ∧ r.level < split.floor) :=
        fun h => Int.not_lt.mpr above h.2
      rw [if_neg not_low, if_pos above, if_neg (Int.not_lt.mpr above), Option.toList_none,
        List.nil_append]

end Loggers

/-! ## Behind a configuration -/

namespace Loggers

variable {s : Loggers} {name : LoggerName} {split : Split} {calls : List Call} {r : Record}

/-- Our handlers of a logger are those of its last configuration. -/
theorem filter_isOwn_of_configured (s : Loggers) (split : Split)
    (kept : splits name calls = []) :
    (((s.configure name split).performAll calls).logger name).handlers.filter Handler.isOwn =
      split.handlers := by
  rw [logger_performAll_of_splits_eq_nil _ kept, configure, logger_update_self, Split.apply]
  simp [List.filter_filter]

/-- So they write of a record what the split makes of it. -/
theorem share_of_configured (kept : splits name calls = [])
    (on : name ∈ ((s.configure name split).performAll calls).lineage r.logger) :
    share (((s.configure name split).performAll calls).handed r) name = split.lines r := by
  rw [share_handed on, filter_isOwn_of_configured s split kept, Split.filterMap_line?]

/-- A record that has a configured logger on its way meets a handler. -/
theorem reach_ne_nil_of_configured (kept : splits name calls = [])
    (on : name ∈ ((s.configure name split).performAll calls).lineage r.logger) :
    ((s.configure name split).performAll calls).reach r.logger ≠ [] := by
  intro none_met
  have empty := List.flatMap_eq_nil_iff.mp none_met name on
  have own := filter_isOwn_of_configured s split kept
  rw [empty] at own
  cases own

/-- Known loggers stay known. -/
theorem isKnown_performAll {other : LoggerName} (calls : List Call)
    (known : s.kin.isKnown other = true) : (s.performAll calls).kin.isKnown other = true := by
  induction calls generalizing s with
  | nil => exact known
  | cons call rest ih =>
    refine ih ?_
    rw [kin_perform]
    exact Kinship.isKnown_add_of_isKnown known

/-- Behind its configuration no logger becomes early below a logger of one
part. -/
theorem isEarly_performAll {other : LoggerName} (calls : List Call) (alone : name.length = 1)
    (below : name <+: other) (known : s.kin.isKnown name = true) :
    (s.performAll calls).kin.isEarly other = s.kin.isEarly other := by
  induction calls generalizing s with
  | nil => rfl
  | cons call rest ih =>
    have still : (s.perform call).kin.isKnown name = true := isKnown_performAll [call] known
    rw [performAll_cons, ih still, kin_perform,
      Kinship.isEarly_add_of_isKnown known below alone call.name]

end Loggers

end Logging

/-! ## Sessions -/

namespace Session

open Logging
open Loggers (Split)

/-- A session in which a logger has just been given a split. -/
def configured (s : Session) (name : LoggerName) (split : Split) : Session :=
  { s with loggers := s.loggers.configure name split }

/-- Only a step of the kind that sets a level configures a logger. -/
theorem setsLevel_of_configure {s : Session} {next : Step} {name : LoggerName} {split : Split}
    (made : s.call? next = some (.configure name split)) : next.setsLevel = true := by
  cases next <;> first | rfl | cases made

/-- A step that configures a logger does nothing else. -/
theorem step_of_configure {s : Session} {next : Step} {name : LoggerName} {split : Split}
    (made : s.call? next = some (.configure name split)) :
    (s.step next).2 = s.configured name split := by
  rcases s.advance_of_setsLevel (setsLevel_of_configure made) with
    ⟨_, -, none⟩ | ⟨other, given, made', done⟩
  · rw [none] at made
    cases made
  · obtain ⟨rfl, rfl⟩ := Call.configure.inj (Option.some.inj (made.symm.trans made'))
    rw [step, done]
    rfl

/-- The loggers that a record meets behind some steps, as the work of calls. -/
theorem met_after (s : Session) (steps : List Step) (r : Record) :
    (s.after steps).met r = s.loggers.performAll (s.history steps ++ [.touch r.logger]) := by
  rw [met, loggers_after, Loggers.performAll_append]
  rfl

end Session

namespace LiveSession

open Logging
open Loggers (Split)

/-- And in a live session it has all answers forgotten. -/
theorem step_of_configure {s : LiveSession} {next : Step} {name : LoggerName} {split : Split}
    (made : s.session.call? next = some (.configure name split)) :
    (s.step next).2 = ⟨s.session.configured name split, .blank⟩ := by
  obtain ⟨-, session, memory⟩ := s.step_follows next
  have blank : (s.step next).2.memory = .blank := by
    rcases memory with ⟨-, behind⟩ | ⟨failed, -⟩
    · rw [behind, memoryBehind, if_pos (Session.setsLevel_of_configure made)]
    · rw [made] at failed
      cases failed
  rw [Session.step_of_configure made] at session
  exact congrArg₂ LiveSession.mk session blank

/-- What all handlers write of a record that is logged. -/
def deliveries (s : LiveSession) (r : Record) : List Delivery :=
  if s.admits r then (s.session.met r).handed r else []

/-- What is written of a record that meets a handler. -/
theorem step_log {s : LiveSession} {r : Record} (h : (s.session.met r).reach r.logger ≠ []) :
    (s.step (.log r)).1 =
      ⟨.ok .nothing, Written.ofLines ((s.deliveries r).map Delivery.line)⟩ := by
  have emitted :
      (s.session.met r).emitBy s.memory.answer r = (s.deliveries r).map Delivery.line := by
    rw [Loggers.emitBy, deliveries, Loggers.dispatch_eq_handed h, ← admits]
    split
    · rfl
    · rfl
  exact congrArg (fun lines => Outcome.mk (.ok .nothing) (Written.ofLines lines)) emitted

/-- How a live session routes a record, if a logger on its way has a split. -/
structure Routes (s : LiveSession) (name : LoggerName) (split : Split) (r : Record) : Prop where
  /-- A record that is admitted is written by the pair of the logger as the
  split says: once, or not at all. -/
  once : s.admits r = true → share (s.deliveries r) name = split.lines r
  /-- A record that is not is written nowhere. -/
  silent : s.admits r = false → (s.step (.log r)).1.written = {}
  /-- Nothing is written of a record but by handlers: none stands in where
  there is no other. -/
  accounted : (s.step (.log r)).1 =
    ⟨.ok .nothing, Written.ofLines ((s.deliveries r).map Delivery.line)⟩

/-- **A configured logger splits the records below it.** A step gives it a split, and
until it is configured again its handlers write every record that has it on its way
to the root and that is admitted once, if the level is `10` or above, on the stream
that the split selects; and no handler stands in for them. A record is admitted if
its level is positive and not below the one that counts for its logger; but if the
logger was asked about that level before, and no level has been set since, then as
it was then, which makes no difference for plain names. On the way to the root a
name meets every beginning of it, except one that is followed by an empty part and
not known with it, and a shaded one that was not known before some logger below
it. -/
theorem split_routes {s : LiveSession} {next : Step} {name : LoggerName} {split : Split}
    {steps : List Step} (made : s.session.call? next = some (.configure name split))
    (kept : splits name ((s.step next).2.session.history steps) = []) (r : Record) :
    let start := (s.step next).2
    let now := start.after steps
    (name ∈ (now.session.met r).lineage r.logger → Routes now name split r) ∧
      Answers start steps r ∧
      (name <+: r.logger →
        (name ++ [""] <+: r.logger → (now.session.met r).kin.isKnown (name ++ [""]) = true) →
        (name.isShaded = true → ∀ other, name <+: other →
          start.session.loggers.kin.isEarly other = false) →
        name ∈ (now.session.met r).lineage r.logger) := by
  intro start now
  have begun : start = ⟨s.session.configured name split, .blank⟩ := step_of_configure made
  have calls : now.session.met r = (s.session.loggers.configure name split).performAll
      (start.session.history steps ++ [.touch r.logger]) := by
    rw [session_after, Session.met_after, begun]
    rfl
  have kept : splits name (start.session.history steps ++ [.touch r.logger]) = [] := by
    rw [splits_append, kept]
    rfl
  refine ⟨fun on => ?_, answers_of_blank (by rw [begun]) steps r, fun mem gap late => ?_⟩
  · rw [calls] at on
    have accounted : (now.step (.log r)).1 =
        ⟨.ok .nothing, Written.ofLines ((now.deliveries r).map Delivery.line)⟩ := by
      refine step_log ?_
      rw [calls]
      exact Loggers.reach_ne_nil_of_configured kept on
    refine ⟨fun admitted => ?_, fun refused => ?_, accounted⟩
    · rw [deliveries, if_pos admitted, calls]
      exact Loggers.share_of_configured kept on
    · rw [accounted, deliveries, refused]
      rfl
  · refine Kinship.mem_lineage_of_prefix mem gap fun shaded other below => ?_
    obtain ⟨part, rfl, -⟩ := LoggerName.isShaded_iff.mp shaded
    have known : (s.session.loggers.configure [part] split).kin.isKnown [part] = true :=
      Kinship.isKnown_add_self _ _
    have never := late shaded other below
    rw [begun] at never
    rw [calls, Loggers.isEarly_performAll _ rfl below known]
    exact never

/-- What happens behind the configuration of the package: a handler of
somebody else joins it, and another logger and the root are configured. -/
def bustle : List Step :=
  [.addForeign package 0, .log ⟨compiler, 10, "50% \x7bok\x7d"⟩, .configure ["app"] 10 10 none,
    .configure LoggerName.root 40 (-7) none, .log ⟨compiler, 39, "5%"⟩, .inspect ["app", "db"]]

/-- A record of the compiler, below the package, is on the first stream once,
and one that is graver on the second. -/
theorem split_routes_bustle :
    let now := (({} : LiveSession).step (.configure package 10 40 none)).2.after bustle
    share (now.deliveries ⟨compiler, 39, "50%"⟩) package =
        [⟨.stdout, "openapi_schema_checks.compiler - Level 39 - 50%\n"⟩] ∧
      share (now.deliveries ⟨compiler, 40, "50%"⟩) package =
        [⟨.stderr, "openapi_schema_checks.compiler - ERROR - 50%\n"⟩] := by
  intro now
  have made : ({} : LiveSession).session.call? (.configure package 10 40 none) =
      some (.configure package ⟨10, 40, Format.standard.render⟩) := rfl
  have kept : splits package
      ((({} : LiveSession).step (.configure package 10 40 none)).2.session.history bustle) = [] := rfl
  have routed (n : Level) := split_routes made kept ⟨compiler, n, "50%"⟩
  have on (n : Level) := (routed n).2.2 (List.prefix_append package ["compiler"])
    (fun gap : package ++ [""] <+: compiler => absurd gap (by decide))
    (fun shaded => absurd shaded (by decide))
  have admitted (n : Level) := (routed n).2.1.plain (by decide : compiler.IsPlain)
  have info := ((routed 39).1 (on 39)).once ((admitted 39).mpr (by decide +kernel))
  have error := ((routed 40).1 (on 40)).once ((admitted 40).mpr (by decide +kernel))
  exact ⟨info.trans (by decide +kernel), error.trans (by decide +kernel)⟩

/-- A live session in which `r.x` was known before `r` was configured. -/
def shadedSession : LiveSession :=
  ({} : LiveSession).after [.log ⟨["r", "x"], 30, "first"⟩, .configure ["r"] 30 30 none]

/-- One in which `a` is configured, and `a.` with an empty part is not known. -/
def gapSession : LiveSession := ({} : LiveSession).after [.configure ["a"] 30 30 none]

/-- One in which `a..b` was asked about `10` before `a.` was known, and `a` has come to
stand on its way since. -/
def staleSession : LiveSession :=
  ({} : LiveSession).after
    [.configure ["a"] 10 30 none, .log ⟨["a", "", "b"], 10, "first"⟩, .inspect ["a", ""]]

/-- **A split misses names below its logger.** The records of `r.x` and of
`a..b` are admitted, but the loggers `r` and `a` are not on their way to the
root. The pairs there write nothing of them, and warnings are written bare. And
where `a` is on the way of `a..b` at last, and the level of `a` counts for it, what
`a..b` has answered before is still kept. -/
theorem split_misses_names :
    (["r"] <+: ["r", "x"] ∧
      (shadedSession.session.met ⟨["r", "x"], 30, "m"⟩).effective ["r", "x"] = 30 ∧
      share (shadedSession.deliveries ⟨["r", "x"], 30, "m"⟩) ["r"] = [] ∧
      Split.lines {} ⟨["r", "x"], 30, "m"⟩ = [⟨.stderr, "r.x - WARNING - m\n"⟩] ∧
      (shadedSession.step (.log ⟨["r", "x"], 30, "m"⟩)).1.written = { stderr := "m\n" }) ∧
    (["a"] <+: ["a", "", "b"] ∧
      (gapSession.session.met ⟨["a", "", "b"], 30, "m"⟩).effective ["a", "", "b"] = 30 ∧
      share (gapSession.deliveries ⟨["a", "", "b"], 30, "m"⟩) ["a"] = [] ∧
      Split.lines {} ⟨["a", "", "b"], 30, "m"⟩ = [⟨.stderr, "a..b - WARNING - m\n"⟩] ∧
      (gapSession.step (.log ⟨["a", "", "b"], 30, "m"⟩)).1.written = { stderr := "m\n" }) ∧
    (["a"] ∈ (staleSession.session.met ⟨["a", "", "b"], 10, "m"⟩).lineage ["a", "", "b"] ∧
      (staleSession.session.met ⟨["a", "", "b"], 10, "m"⟩).effective ["a", "", "b"] = 10 ∧
      Split.lines { level := 10 } ⟨["a", "", "b"], 10, "m"⟩ = [⟨.stdout, "a..b - DEBUG - m\n"⟩] ∧
      (staleSession.step (.log ⟨["a", "", "b"], 10, "m"⟩)).1.written = {}) := by
  decide +kernel

end LiveSession

end Conformance
