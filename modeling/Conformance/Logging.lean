import Conformance.Logging.Format
import Conformance.Validator

/-!
# Logging — loggers, handlers, and the lines a record writes

Loggers are named, and each has a level and a row of handlers. A record is
admitted by the nearest level that is set on the way from its logger to the
root, and an admitted record goes to every handler on that way, each with a
level of its own. Here admission is taken afresh for every record; that loggers
keep what they have answered once is the matter of another module, and the
`emitBy` of this one takes whatever answer there is. A handler whose formatter
fails writes no line; what is reported of the failure itself is no line of a
record, and is left out.

`Loggers.configure` gives a logger a pair of handlers that split its records
between two streams, and takes away the pair that an earlier call gave it;
all other handlers stay. Configuring twice is configuring once,
`configure_configure`, and two loggers are configured in either order,
`configure_comm`.
-/


namespace Conformance

namespace Logging

/-- Where lines go. -/
inductive Stream where
  | stdout
  | stderr
  /-- Wherever the handlers of others write. -/
  | foreign
deriving DecidableEq, Repr

/-! ## Handlers -/

/-- What takes records and writes lines. -/
inductive Handler where
  /-- Our handler for records up to a ceiling, on the first stream. -/
  | low (ceiling : Level) (formatter : Formatter)
  /-- Our handler for records from a floor on, on the second stream. -/
  | high (floor : Level) (formatter : Formatter)
  /-- A handler that somebody else has added. -/
  | foreign (floor : Level)

namespace Handler

/-- Whether a handler is one of ours. -/
def isOwn : Handler → Bool
  | .foreign _ => false
  | _ => true

/-- The least level that a handler takes. -/
def level : Handler → Level
  | .low .. => Level.debug
  | .high floor _ => floor
  | .foreign floor => floor

/-- Where a handler writes. -/
def stream : Handler → Stream
  | .low .. => .stdout
  | .high .. => .stderr
  | .foreign _ => .foreign

/-- Whether a handler takes records of a level. -/
def takes (h : Handler) (n : Level) : Bool :=
  h.level ≤ n && match h with
    | .low ceiling _ => n ≤ ceiling
    | _ => true

/-- How a handler writes records. -/
def formatter : Handler → Formatter
  | .low _ formatter => formatter
  | .high _ formatter => formatter
  | .foreign _ => Format.bare.render

end Handler

/-- A line, with its end, on a stream. -/
structure Line where
  stream : Stream
  text : String
deriving DecidableEq, Repr

/-- The line that a handler writes for a record it takes, unless its formatter
fails. -/
def Handler.line? (r : Record) (h : Handler) : Option Line :=
  if h.takes r.level then (h.formatter r).map fun text => ⟨h.stream, text ++ "\n"⟩ else none

/-! ## Loggers -/

/-- A logger: its level, zero where none is set, and its handlers. -/
structure Logger where
  level : Level := 0
  handlers : List Handler := []

/-- All loggers, and which of them anybody has asked for. -/
structure Loggers where
  logger : LoggerName → Logger
  kin : Kinship

namespace Loggers

/-- Asks for a logger. -/
def touch (s : Loggers) (name : LoggerName) : Loggers := { s with kin := s.kin.add name }

/-- Changes one logger, which is asked for. -/
def update (s : Loggers) (name : LoggerName) (f : Logger → Logger) : Loggers :=
  { logger := fun other => if other = name then f (s.logger name) else s.logger other
    kin := s.kin.add name }

@[simp] theorem logger_touch (s : Loggers) (name : LoggerName) :
    (s.touch name).logger = s.logger := rfl

@[simp] theorem kin_update (s : Loggers) (name : LoggerName) (f : Logger → Logger) :
    (s.update name f).kin = s.kin.add name := rfl

@[simp] theorem logger_update_self (s : Loggers) (name : LoggerName) (f : Logger → Logger) :
    (s.update name f).logger name = f (s.logger name) := by simp [update]

@[simp] theorem logger_update_of_ne {s : Loggers} {name other : LoggerName}
    (f : Logger → Logger) (h : other ≠ name) :
    (s.update name f).logger other = s.logger other := by simp [update, h]

/-- A logger and those it descends from, the nearest first. -/
def lineage (s : Loggers) (name : LoggerName) : List LoggerName := s.kin.lineage name

/-- The level that counts for a logger: the nearest one that is set on the
way to the root. -/
def effective (s : Loggers) (name : LoggerName) : Level :=
  ((s.lineage name).map fun other => (s.logger other).level).find? (· ≠ 0) |>.getD 0

/-- Whether a record of a level from a logger goes to any handler. Records
without a positive level never do. -/
def admits (s : Loggers) (name : LoggerName) (n : Level) : Bool :=
  0 < n && s.effective name ≤ n

theorem admits_iff {s : Loggers} {name : LoggerName} {n : Level} :
    s.admits name n = true ↔ 0 < n ∧ s.effective name ≤ n := by
  rw [admits, Bool.and_eq_true, decide_eq_true_iff, decide_eq_true_iff]

/-- The handlers on the way from a logger to the root. -/
def reach (s : Loggers) (name : LoggerName) : List Handler :=
  (s.lineage name).flatMap fun other => (s.logger other).handlers

/-- The lines that a record writes once it is admitted. Where there is no handler
at all on its way, a warning or anything graver is written bare. -/
def dispatch (s : Loggers) (r : Record) : List Line :=
  match s.reach r.logger with
  | [] => if Level.warning ≤ r.level then [⟨.stderr, r.message ++ "\n"⟩] else []
  | handlers => handlers.filterMap (Handler.line? r)

/-- The lines that a record writes. -/
def emit (s : Loggers) (r : Record) : List Line :=
  if s.admits r.logger r.level then s.dispatch r else []

/-- How it is answered whether records of a level from a logger go to any handler. -/
abbrev Gate := Loggers → LoggerName → Level → Bool

/-- The lines that a record writes where a gate admits it. -/
def emitBy (gate : Gate) (s : Loggers) (r : Record) : List Line :=
  if gate s r.logger r.level then s.dispatch r else []

/-- Adds a handler of somebody else. -/
def addForeign (s : Loggers) (name : LoggerName) (floor : Level) : Loggers :=
  s.update name fun l => { l with handlers := l.handlers ++ [.foreign floor] }

/-! ## Configuration -/

/-- How a logger is to write: from which level on, from which level on to the
second stream, and by which formatter. -/
structure Split where
  level : Level := Level.warning
  stderrLevel : Level := Level.warning
  formatter : Formatter := Format.standard.render

/-- The level from which records go to the second stream. -/
def Split.floor (split : Split) : Level := max split.stderrLevel Level.debug

/-- The pair of handlers that divides the records between the streams. -/
def Split.handlers (split : Split) : List Handler :=
  [.low (split.floor - 1) split.formatter, .high split.floor split.formatter]

/-- A logger with our handlers replaced by a new pair. -/
def Split.apply (split : Split) (l : Logger) : Logger :=
  { l with
    level := split.level
    handlers := (l.handlers.filter fun h => !h.isOwn) ++ split.handlers }

/-- Gives a logger a level and a pair of handlers. -/
def configure (s : Loggers) (name : LoggerName) (split : Split) : Loggers :=
  s.update name split.apply

/-- The second pair replaces the first. -/
theorem Split.apply_apply (a b : Split) (l : Logger) : b.apply (a.apply l) = b.apply l := by
  simp [Split.apply, Split.handlers, Handler.isOwn, List.filter_append, List.filter_filter]

/-- **The last call wins.** -/
theorem configure_configure (s : Loggers) (name : LoggerName) (a b : Split) :
    (s.configure name a).configure name b = s.configure name b := by
  simp only [configure, update, Kinship.add_add, if_true, Split.apply_apply, Loggers.mk.injEq,
    and_true]
  funext other
  by_cases h : other = name <;> simp [h]

/-- **Different loggers are configured in either order.** -/
theorem configure_comm (s : Loggers) {m n : LoggerName} (h : m ≠ n) (a b : Split) :
    ((s.configure m a).configure n b).logger = ((s.configure n b).configure m a).logger := by
  funext other
  by_cases hm : other = m
  · subst hm; simp [configure, h]
  · by_cases hn : other = n
    · subst hn; simp [configure, hm]
    · simp [configure, hm, hn]

end Loggers

/-! ## The package and its compiler -/

/-- The name of the package. -/
def packageName : String := "openapi_schema_checks"

/-- The logger of the package. -/
def package : LoggerName := [packageName]

/-- The logger from which compilation is reported. -/
def compiler : LoggerName := [packageName, "compiler"]

/-- No handlers anywhere, a level at the root alone, and no logger asked for
but that of compilation. -/
def Loggers.fresh : Loggers :=
  { logger := fun name => if name = LoggerName.root then { level := Level.warning } else {}
    kin := ⟨fun name => name == compiler, fun _ => false⟩ }

/-- The record of a compilation. -/
def compiled (v : Validator) : Record :=
  ⟨compiler, Level.debug, "Compiled schema at " ++ v.path ++ ": " ++ v.check.describe⟩

/-- The lines that a compilation writes. The record is made only if somebody
listens, and then it is asked again whether anybody does. -/
def Loggers.announceBy (gate : Gate) (s : Loggers) (v : Validator) : List Line :=
  if gate s compiler Level.debug then s.emitBy gate (compiled v) else []

/-- **The guard is only a shortcut**, however it is answered. -/
theorem Loggers.announceBy_eq_emitBy (gate : Gate) (s : Loggers) (v : Validator) :
    s.announceBy gate v = s.emitBy gate (compiled v) := by
  unfold announceBy
  split
  · rfl
  · rename_i unheard
    rw [emitBy, if_neg]
    exact unheard

/-- Gives the package the level that settings ask for. -/
def Loggers.obey (s : Loggers) (settings : Settings) : Loggers :=
  s.configure package { level := settings.level }

/-! ## What was written -/

/-- The text of the lines that reached each stream. -/
structure Written where
  stdout : String := ""
  stderr : String := ""
  foreign : String := ""
deriving DecidableEq, Repr

/-- The texts of the lines on a stream, joined. -/
def textOn (stream : Stream) (lines : List Line) : String :=
  String.join ((lines.filter fun l => l.stream == stream).map Line.text)

/-- What lines leave on the streams. -/
def Written.ofLines (lines : List Line) : Written :=
  ⟨textOn .stdout lines, textOn .stderr lines, textOn .foreign lines⟩

end Logging

end Conformance
