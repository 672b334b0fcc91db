import Conformance.Proofs.Calls
import Conformance.Proofs.Descent

/-!
# Handlers — how loggers stand behind a session

Loggers change by calls alone, and what a logger looks like can be told from
the calls on it. It has the handlers that others gave to it, all of them and
in their order; it has our pair if it was ever configured, and that pair is
the one of the last configuration and stands in one piece; and the last
configuration has set its level. `stands_performAll` says so of any row of
calls on loggers that had no handlers, and `handlers_follow_calls` of any
session.

Two configurations of one logger come to the second, and of two loggers it
does not matter which is configured first, `alike_configure_configure`: unless
one is shaded and the other below it. Then the order decides which of the two
is known first, and with it whether the second descends from the first.
-/


namespace Conformance

namespace Logging

open Loggers (Split)

variable {s t : Loggers} {name : LoggerName} {call : Call} {calls : List Call}

/-! ## What calls give to a logger -/

/-- The splits that calls give to a logger, the last one last. -/
def splits (name : LoggerName) (calls : List Call) : List Split :=
  calls.filterMap (Call.split? name)

/-- The handlers of others that calls give to a logger, in their order. -/
def added (name : LoggerName) (calls : List Call) : List Handler :=
  calls.filterMap (Call.handler? name)

theorem splits_append (name : LoggerName) (first rest : List Call) :
    splits name (first ++ rest) = splits name first ++ splits name rest :=
  List.filterMap_append

theorem isOwn_of_mem_added {h : Handler} (mem : h ∈ added name calls) : h.isOwn = false := by
  obtain ⟨call, -, given⟩ := List.mem_filterMap.mp mem
  cases call with
  | addForeign other floor =>
    obtain ⟨-, rfl⟩ : other = name ∧ Handler.foreign floor = h := by
      simpa [Call.handler?] using given
    rfl
  | touch other => cases given
  | configure other split => cases given

@[simp] theorem filter_isOwn_added : (added name calls).filter Handler.isOwn = [] :=
  List.filter_eq_nil_iff.mpr fun _ h => by simp [isOwn_of_mem_added h]

@[simp] theorem filter_not_isOwn_added :
    (added name calls).filter (fun h => !h.isOwn) = added name calls :=
  List.filter_eq_self.mpr fun _ h => by simp [isOwn_of_mem_added h]

/-- Both handlers of a split are ours. -/
@[simp] theorem filter_isOwn_handlers (split : Split) :
    split.handlers.filter Handler.isOwn = split.handlers := rfl

@[simp] theorem filter_not_isOwn_handlers (split : Split) :
    split.handlers.filter (fun h => !h.isOwn) = [] := rfl

/-! ## One call -/

/-- A call that configures a logger leaves the handlers of others and puts a
pair behind them. -/
theorem logger_perform_of_split {split : Split} (h : call.split? name = some split) :
    (s.perform call).logger name = split.apply (s.logger name) := by
  cases call with
  | configure other given =>
    obtain ⟨rfl, rfl⟩ : other = name ∧ given = split := by simpa [Call.split?] using h
    rw [Loggers.logger_perform]
    exact if_pos rfl
  | touch other => cases h
  | addForeign other floor => cases h

/-- Any other call adds a handler at most. -/
theorem logger_perform_of_not_split (h : call.split? name = none) :
    (s.perform call).logger name =
      ⟨(s.logger name).level, (s.logger name).handlers ++ (call.handler? name).toList⟩ := by
  rw [Loggers.logger_perform]
  cases call with
  | configure other given =>
    have other_ne : ¬ other = name := by simpa [Call.split?] using h
    simp [Call.name, Call.handler?, Ne.symm other_ne]
  | touch other => simp [Call.change, Call.handler?]
  | addForeign other floor =>
    by_cases hn : other = name
    · simp [Call.name, Call.change, Call.handler?, hn]
    · simp [Call.name, Call.handler?, hn, Ne.symm hn]

/-- **No call loses a handler of others**, moves it or changes it. -/
theorem foreign_perform (s : Loggers) (call : Call) (name : LoggerName) :
    ((s.perform call).logger name).handlers.filter (fun h => !h.isOwn) =
      (s.logger name).handlers.filter (fun h => !h.isOwn) ++ (call.handler? name).toList := by
  cases hs : call.split? name with
  | some split =>
    have none_added : call.handler? name = none := by
      cases call <;> first | rfl | cases hs
    rw [logger_perform_of_split hs, none_added]
    simp [Split.apply, List.filter_filter]
  | none =>
    rw [logger_perform_of_not_split hs, List.filter_append]
    have single : (call.handler? name).toList = added name [call] := by
      cases hc : call.handler? name <;> simp [added, hc]
    rw [single, filter_not_isOwn_added]

/-! ## A row of calls -/

theorem foreign_performAll (s : Loggers) (calls : List Call) (name : LoggerName) :
    ((s.performAll calls).logger name).handlers.filter (fun h => !h.isOwn) =
      (s.logger name).handlers.filter (fun h => !h.isOwn) ++ added name calls := by
  induction calls generalizing s with
  | nil => simp [added]
  | cons call rest ih =>
    have split_off : added name (call :: rest) = (call.handler? name).toList ++ added name rest := by
      cases h : call.handler? name <;> simp [added, h]
    rw [Loggers.performAll_cons, ih, foreign_perform, split_off, List.append_assoc]

/-- Calls that do not configure a logger only add to its handlers. -/
theorem logger_performAll_of_splits_eq_nil (s : Loggers) (h : splits name calls = []) :
    (s.performAll calls).logger name =
      ⟨(s.logger name).level, (s.logger name).handlers ++ added name calls⟩ := by
  induction calls generalizing s with
  | nil => simp [added]
  | cons call rest ih =>
    have none_here : call.split? name = none := by
      cases hc : call.split? name with
      | none => rfl
      | some split => simp [splits, hc] at h
    have none_behind : splits name rest = [] := by simpa [splits, none_here] using h
    rw [Loggers.performAll_cons, ih _ none_behind, logger_perform_of_not_split none_here]
    cases hh : call.handler? name <;> simp [added, hh]

/-- The last of the configurations of a logger, and the calls around it. -/
theorem exists_last_split {split : Split} (h : (splits name calls).getLast? = some split) :
    ∃ first call rest, calls = first ++ call :: rest ∧ call.split? name = some split ∧
      splits name rest = [] := by
  induction calls with
  | nil => cases h
  | cons call rest ih =>
    by_cases last : splits name rest = []
    · refine ⟨[], call, rest, rfl, ?_, last⟩
      cases hc : call.split? name with
      | none => simp [splits, hc, show List.filterMap _ rest = [] from last] at h
      | some found =>
        have : splits name (call :: rest) = [found] := by
          simpa [splits, hc] using last
        rw [this] at h
        exact h
    · -- a later one is still to come
      have behind : (splits name rest).getLast? = some split := by
        rw [← h, ← List.singleton_append, splits_append, List.getLast?_append]
        cases hr : (splits name rest).getLast? with
        | none => exact absurd (List.getLast?_eq_none_iff.mp hr) last
        | some _ => rfl
      obtain ⟨first, found, after, rfl, given, none_behind⟩ := ih behind
      exact ⟨call :: first, found, after, rfl, given, none_behind⟩

/-- A logger that has been configured: the handlers of others that it had
then, the pair, and the handlers it was given since. -/
theorem logger_performAll_of_split (s : Loggers) {split : Split} (first : List Call)
    {rest : List Call} (given : call.split? name = some split)
    (last : splits name rest = []) :
    (s.performAll (first ++ call :: rest)).logger name =
      ⟨split.level, (s.logger name).handlers.filter (fun h => !h.isOwn) ++ added name first ++
        split.handlers ++ added name rest⟩ := by
  rw [Loggers.performAll_append, Loggers.performAll_cons,
    logger_performAll_of_splits_eq_nil _ last, logger_perform_of_split given, Split.apply,
    foreign_performAll]

/-! ## How a logger stands -/

/-- How a logger stands behind some calls, if it had no handler before them
and this level. -/
structure Stands (initial : Level) (name : LoggerName) (calls : List Call) (l : Logger) :
    Prop where
  /-- All handlers of others that it was given are there, in their order. -/
  foreign : l.handlers.filter (fun h => !h.isOwn) = added name calls
  /-- None of its handlers is ours if it was never configured. -/
  unconfigured : splits name calls = [] → l.handlers.filter Handler.isOwn = []
  /-- Otherwise two are, side by side, and they are the pair of the last
  configuration. -/
  configured : ∀ split, (splits name calls).getLast? = some split → ∃ before after,
    l.handlers = before ++ split.handlers ++ after ∧ ∀ h ∈ before ++ after, h.isOwn = false
  /-- And that configuration has set the level. -/
  level : l.level = ((splits name calls).getLast?.map Split.level).getD initial

/-- **What a logger looks like can be told from the calls on it.** -/
theorem stands_performAll (s : Loggers) (name : LoggerName) (calls : List Call)
    (fresh : (s.logger name).handlers = []) :
    Stands (s.logger name).level name calls ((s.performAll calls).logger name) := by
  have foreign : ((s.performAll calls).logger name).handlers.filter (fun h => !h.isOwn) =
      added name calls := by
    rw [foreign_performAll, fresh]
    rfl
  by_cases never : splits name calls = []
  · have found := logger_performAll_of_splits_eq_nil s never
    rw [fresh, List.nil_append] at found
    refine ⟨foreign, fun _ => ?_, fun split h => ?_, ?_⟩
    · rw [found, filter_isOwn_added]
    · rw [never] at h
      cases h
    · rw [found, never]
      rfl
  · obtain ⟨split, last⟩ : ∃ split, (splits name calls).getLast? = some split :=
      ⟨_, List.getLast?_eq_some_getLast never⟩
    obtain ⟨first, call, rest, rfl, given, none_behind⟩ := exists_last_split last
    have found := logger_performAll_of_split s first given none_behind
    rw [fresh, List.filter_nil, List.nil_append] at found
    refine ⟨foreign, fun h => absurd h never, fun other h => ?_, ?_⟩
    · obtain rfl : split = other := Option.some.inj (last.symm.trans h)
      refine ⟨added name first, added name rest, by rw [found], fun h mem => ?_⟩
      rcases List.mem_append.mp mem with mem | mem
      · exact isOwn_of_mem_added mem
      · exact isOwn_of_mem_added mem
    · rw [found, last]
      rfl

/-! ## The order of calls -/

namespace Loggers

/-- Loggers that no record can tell apart, now or behind any calls. -/
structure Alike (s t : Loggers) : Prop where
  logger : s.logger = t.logger
  kin : Kinship.Alike s.kin t.kin

theorem Alike.perform (h : Alike s t) (call : Call) : Alike (s.perform call) (t.perform call) where
  logger := by
    funext name
    rw [logger_perform, logger_perform, h.logger]
  kin := by
    rw [kin_perform, kin_perform]
    exact h.kin.add call.name

theorem Alike.performAll (h : Alike s t) (calls : List Call) :
    Alike (s.performAll calls) (t.performAll calls) := by
  induction calls generalizing s t with
  | nil => exact h
  | cons call rest ih => exact ih (h.perform call)

/-- **A record is written alike.** -/
theorem Alike.emit (h : Alike s t) (r : Record) : s.emit r = t.emit r :=
  AlikeAbove.emit ⟨h.kin.lineage r.logger, fun other _ => by rw [h.logger]⟩

/-- Two loggers are configured in either order, unless one is shaded and the
other below it. -/
theorem alike_configure_configure (s : Loggers) {m n : LoggerName} (distinct : m ≠ n)
    (hm : ¬ (m.isShaded = true ∧ m <+: n)) (hn : ¬ (n.isShaded = true ∧ n <+: m)) (a b : Split) :
    Alike ((s.configure m a).configure n b) ((s.configure n b).configure m a) where
  logger := configure_comm s distinct a b
  kin := Kinship.add_comm_alike s.kin distinct hm hn

end Loggers

end Logging

/-! ## Sessions -/

namespace Session

open Logging
open Loggers (Split)

/-- **Loggers follow the calls on them.** Where no logger has a handler at
first, each stands behind a session as its calls say: the handlers of others
in their order, our pair of the last configuration side by side, and the level
of that configuration. The pair takes records from `10` on for the one stream
and from the given level on, but not below `10`, for the other. Of two
configurations of one logger only the second counts. Two loggers have the same
levels and handlers whichever is configured first; and unless one is shaded
and the other below it, whatever is called and logged then is written alike. -/
theorem handlers_follow_calls {s : Session}
    (fresh : ∀ name, (s.loggers.logger name).handlers = []) (steps : List Step) :
    (∀ name, Stands (s.loggers.logger name).level name (s.history steps)
        ((s.after steps).loggers.logger name)) ∧
      (∀ split : Split, split.handlers.map (fun h => (h.isOwn, h.stream, h.level)) =
        [(true, .stdout, 10), (true, .stderr, max 10 split.stderrLevel)]) ∧
      (∀ (u : Loggers) (name : LoggerName) (a b : Split),
        (u.configure name a).configure name b = u.configure name b) ∧
      ∀ (u : Loggers) (m n : LoggerName) (a b : Split), m ≠ n →
        ((u.configure m a).configure n b).logger = ((u.configure n b).configure m a).logger ∧
          (¬ (m.isShaded = true ∧ m <+: n) → ¬ (n.isShaded = true ∧ n <+: m) →
            ∀ (calls : List Call) (r : Record),
              (((u.configure m a).configure n b).performAll calls).emit r =
                (((u.configure n b).configure m a).performAll calls).emit r) := by
  refine ⟨fun name => ?_, fun split => ?_, fun u name a b => u.configure_configure name a b,
    fun u m n a b distinct => ⟨u.configure_comm distinct a b, fun hm hn calls r => ?_⟩⟩
  · rw [loggers_after]
    exact stands_performAll s.loggers name (s.history steps) (fresh name)
  · have floor : split.floor = max 10 split.stderrLevel := Int.max_comm _ _
    rw [← floor]
    rfl
  · exact ((u.alike_configure_configure distinct hm hn a b).performAll calls).emit r

/-- Handlers of others come before, between and behind two configurations. -/
def interleaved : List Step :=
  [.addForeign ["a"] 5, .configure ["a"] 30 50 none, .addForeign ["a"] 0, .log ⟨["a"], 40, "x"⟩,
    .configure ["b"] 10 10 none, .configure ["a"] 20 (-3) none, .addForeign ["a"] 7]

/-- The pair of the second configuration stands behind the two handlers that
it found, and its floor is lifted. -/
theorem handlers_follow_calls_interleaved :
    (∃ before after, (((({} : Session).after interleaved).loggers.logger ["a"]).handlers =
        before ++ [.low 9 Format.standard.render, .high 10 Format.standard.render] ++ after) ∧
        ∀ h ∈ before ++ after, h.isOwn = false) ∧
      ((({} : Session).after interleaved).loggers.logger ["a"]).handlers.filter
        (fun h => !h.isOwn) = [.foreign 5, .foreign 0, .foreign 7] ∧
      ((({} : Session).after interleaved).loggers.logger ["a"]).level = 20 := by
  have fresh (name : LoggerName) : ((({} : Session).loggers).logger name).handlers = [] := by
    change (if name = LoggerName.root then _ else _ : Logger).handlers = []
    split <;> rfl
  have stands := (handlers_follow_calls fresh interleaved).1 ["a"]
  exact ⟨stands.configured ⟨20, -3, Format.standard.render⟩ rfl, stands.foreign.trans rfl,
    stands.level.trans rfl⟩

/-- **The order shows below a shaded name.** Where `r` is known first, `r.x`
descends from it, and its records are written by both pairs of handlers; where
`r.x` is, they are written by its own alone. -/
theorem configure_order_shows :
    ((Loggers.fresh.configure ["r"] {}).configure ["r", "x"] {}).emit ⟨["r", "x"], 30, "m"⟩ =
        [⟨.stderr, "r.x - WARNING - m\n"⟩, ⟨.stderr, "r.x - WARNING - m\n"⟩] ∧
      ((Loggers.fresh.configure ["r", "x"] {}).configure ["r"] {}).emit ⟨["r", "x"], 30, "m"⟩ =
        [⟨.stderr, "r.x - WARNING - m\n"⟩] ∧
      (Loggers.fresh.configure ["r"] {}).configure ["r", "x"] {} ≠
        (Loggers.fresh.configure ["r", "x"] {}).configure ["r"] {} := by
  have first : ((Loggers.fresh.configure ["r"] {}).configure ["r", "x"] {}).emit
      ⟨["r", "x"], 30, "m"⟩ =
        [⟨.stderr, "r.x - WARNING - m\n"⟩, ⟨.stderr, "r.x - WARNING - m\n"⟩] := by
    decide +kernel
  have second : ((Loggers.fresh.configure ["r", "x"] {}).configure ["r"] {}).emit
      ⟨["r", "x"], 30, "m"⟩ = [⟨.stderr, "r.x - WARNING - m\n"⟩] := by
    decide +kernel
  refine ⟨first, second, fun same => ?_⟩
  rw [same, second] at first
  exact absurd first (by decide)

end Session

end Conformance
