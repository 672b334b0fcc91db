import Conformance.Proofs.Interference

/-!
# Elsewhere — what a configuration does not touch

To configure a logger is to change that logger and to make it known, and nobody
above it or beside it can tell. Loggers that differ in one of them and in those
below it alone, `AlikeOutside`, do so whatever is called then, and no other
logger has any of these on its way to the root. So its records are written the
same, by the same handlers or by none: `configuration_unseen_elsewhere`. Which
names are below which is said of names as they are written, `Covers`: a name
that merely begins with another, and goes on without a dot, is not below it.
All this is by the rules. In a live session a configuration has every answer that
was kept forgotten, so it can be seen elsewhere where one was out of date, and for
plain names none is, `LiveSession.step_of_plain`.
-/


namespace Conformance

namespace Logging

/-! ## Written names -/

namespace LoggerName

/-- One written name covers another: it is the root's, or the other is the same
or goes on from it with a dot. -/
def Covers (upper lower : String) : Prop :=
  ofText upper = root ∨ lower = upper ∨ ∃ rest, lower = upper ++ "." ++ rest

/-- The parts of two names in a row are written with a dot between them. -/
theorem text_append {name rest : LoggerName} (h : name ≠ []) (h' : rest ≠ []) :
    text (name ++ rest) = text name ++ "." ++ Text.join "." rest := by
  simp [text, h, Text.join, String.intercalate_append_of_ne_nil h h']

/-- A name that goes on with a dot has the parts before the dot in front. -/
theorem prefix_ofText_dot (upper rest : String) : ofText upper <+: ofText (upper ++ "." ++ rest) := by
  by_cases top : upper = "" ∨ upper = "root"
  · rw [ofText_eq_root_iff.mpr top]
    exact List.nil_prefix
  · have dotted : '.' ∈ (upper ++ "." ++ rest).toList := by simp
    have named : ¬ (upper ++ "." ++ rest = "" ∨ upper ++ "." ++ rest = "root") := by
      rintro (h | h)
      · rw [h] at dotted
        exact absurd dotted (by decide)
      · rw [h] at dotted
        exact absurd dotted (by decide)
    have parts : (upper ++ "." ++ rest).toList.splitOn '.' =
        upper.toList.splitOn '.' ++ rest.toList.splitOn '.' := by
      simp [List.splitOn_append_cons_self]
    rw [ofText_of_named top, ofText_of_named named, parts, List.map_append]
    exact List.prefix_append _ _

/-- **Names cover each other as their parts begin with each other.** -/
theorem ofText_prefix_iff {upper lower : String} :
    ofText upper <+: ofText lower ↔ Covers upper lower := by
  constructor
  · rintro ⟨rest, parts⟩
    by_cases top : ofText upper = root
    · exact .inl top
    have lower_named : ofText lower ≠ root := by
      rw [← parts]
      exact List.append_ne_nil_of_left_ne_nil top rest
    have written {name : String} (h : ofText name ≠ root) : (ofText name).text = name :=
      text_ofText fun empty => h (ofText_eq_root_iff.mpr (.inl empty))
    by_cases last : rest = []
    · rw [last, List.append_nil] at parts
      exact .inr (.inl (by rw [← written top, parts, written lower_named]))
    · refine .inr (.inr ⟨Text.join "." rest, ?_⟩)
      rw [← written lower_named, ← parts, text_append top last, written top]
  · rintro (top | rfl | ⟨rest, rfl⟩)
    · rw [top]
      exact List.nil_prefix
    · exact List.prefix_rfl
    · exact prefix_ofText_dot upper rest

instance (upper lower : String) : Decidable (Covers upper lower) :=
  decidable_of_iff _ ofText_prefix_iff

end LoggerName

/-! ## Loggers that differ below one name -/

namespace Loggers

variable {s t : Loggers} {top name : LoggerName}

/-- Loggers that are alike but for one of them and those below it. -/
structure AlikeOutside (top : LoggerName) (s t : Loggers) : Prop where
  logger : ∀ name, ¬ top <+: name → s.logger name = t.logger name
  known : ∀ name, ¬ top <+: name → s.kin.isKnown name = t.kin.isKnown name
  early : ∀ name, ¬ top <+: name → s.kin.isEarly name = t.kin.isEarly name

/-- Configuring a logger changes nothing but that logger, and what is known of it
and below. -/
theorem alikeOutside_configure (s : Loggers) (top : LoggerName) (split : Split) :
    AlikeOutside top (s.configure top split) s where
  logger name outside :=
    logger_update_of_ne _ fun same => outside (by rw [same])
  known name outside := by
    have other : (name == top) = false := beq_false_of_ne fun same => outside (by rw [same])
    rw [configure, kin_update, Kinship.isKnown_add, other, Bool.false_or]
  early name outside := by
    have above : top.isPrefixOf name = false := by
      simpa [Bool.eq_false_iff] using outside
    rw [configure, kin_update, Kinship.isEarly_add, above]
    simp

/-- **Calls keep to it**: what a call makes of a logger hangs on that logger, and
what it makes early stands below the logger of its name. -/
theorem AlikeOutside.perform (h : AlikeOutside top s t) (call : Call) :
    AlikeOutside top (s.perform call) (t.perform call) where
  logger name outside := by
    rw [logger_perform, logger_perform, h.logger name outside]
  known name outside := by
    rw [kin_perform, kin_perform, Kinship.isKnown_add, Kinship.isKnown_add, h.known name outside]
  early name outside := by
    rw [kin_perform, kin_perform, Kinship.isEarly_add, Kinship.isEarly_add, h.early name outside,
      h.known name outside]
    by_cases above : call.name <+: name
    · rw [h.known call.name fun below => outside (below.trans above)]
    · have apart : call.name.isPrefixOf name = false := by
        simpa [Bool.eq_false_iff] using above
      simp [apart]

theorem AlikeOutside.performAll (h : AlikeOutside top s t) (calls : List Call) :
    AlikeOutside top (s.performAll calls) (t.performAll calls) := by
  induction calls generalizing s t with
  | nil => exact h
  | cons call rest ih => exact ih (h.perform call)

/-- **The way of any other name keeps clear of the difference**: it leads through
beginnings of that name. -/
theorem AlikeOutside.alikeAbove (h : AlikeOutside top s t) (outside : ¬ top <+: name) :
    AlikeAbove name s t where
  way := Kinship.lineage_congr (fun m on => h.known m fun below => outside (below.trans on))
    fun _ m _ _ on => h.early m fun below => outside (below.trans on)
  logger m on := h.logger m fun below =>
    outside (below.trans (Kinship.prefix_of_mem_lineage on))

/-- Loggers that are alike on the way of a record deliver it alike. -/
theorem AlikeAbove.deliveries {r : Record} (h : AlikeAbove r.logger s t) :
    s.deliveries r = t.deliveries r := by
  have handed : s.handed r = t.handed r := by
    rw [Loggers.handed, Loggers.handed, ← h.way]
    exact List.flatMap_congr fun name on => by rw [deliveriesAt, deliveriesAt, h.logger name on]
  rw [Loggers.deliveries, Loggers.deliveries, h.admits, handed]

end Loggers

end Logging

/-! ## Sessions -/

namespace Session

open Logging
open Loggers (Split)

/-- The calls of some steps do not hang on the loggers that they are made on. -/
theorem history_withLoggers (s : Session) (l : Loggers) (steps : List Step) :
    ({ s with loggers := l } : Session).history steps = s.history steps := by
  induction steps generalizing s l with
  | nil => rfl
  | cons next rest ih =>
    obtain ⟨-, l', behind⟩ := step_withLoggers s l next
    have call : ({ s with loggers := l } : Session).call? next = s.call? next := by
      cases next <;> rfl
    rw [history, history, call, behind, ih]

/-- A session with settings that ask for all records of the package. -/
def attentive : Session := { settings := [("c", { logLevel := "debug" })] }

/-- A handler of somebody else at the root, and a logger whose name begins with
that of the package. -/
def neighbourhood : List Step :=
  [.addForeign LoggerName.root 0, .configure ["openapi_schema_checks2"] 20 40 none]

end Session

end Conformance
