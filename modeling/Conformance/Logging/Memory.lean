import Conformance.Logging

/-!
# Memory — the answers that loggers keep

A logger that has said whether it admits records of a level says the same until
a level is set, its own or that of any other: then all answers are forgotten. A
logger that becomes known may come to stand on the way of others, but nothing is
forgotten for that. So an answer that is kept is one that the rules gave, and
need not be the one that they give now.
-/


namespace Conformance

namespace Logging

/-- What loggers have answered, by the levels that they were asked about. -/
structure Memory where
  kept : LoggerName → Level → Option Bool

namespace Memory

variable {m : Memory} {s : Loggers} {name other : LoggerName} {n k : Level}

/-- Nothing is kept. -/
def blank : Memory := ⟨fun _ _ => none⟩

/-- The answer of a logger: the one that it has kept, or else that of the rules. -/
def answer (m : Memory) : Loggers.Gate := fun s name n => (m.kept name n).getD (s.admits name n)

/-- Keeps the answer of a logger. -/
def keep (m : Memory) (s : Loggers) (name : LoggerName) (n : Level) : Memory :=
  ⟨fun other k => if other = name ∧ k = n then some (m.answer s name n) else m.kept other k⟩

/-- A logger that has kept nothing answers by the rules. -/
theorem answer_of_kept_eq_none (h : m.kept name n = none) :
    m.answer s name n = s.admits name n := by
  rw [answer, h, Option.getD_none]

theorem answer_of_kept_eq_some {b : Bool} (h : m.kept name n = some b) : m.answer s name n = b := by
  rw [answer, h, Option.getD_some]

/-- What a logger has kept is what it had kept before, or what it was asked. -/
theorem kept_keep {b : Bool} (h : (m.keep s name n).kept other k = some b) :
    m.kept other k = some b ∨
      other = name ∧ k = n ∧ m.kept name n = none ∧ b = s.admits name n := by
  simp only [keep] at h
  split at h
  case isFalse => exact .inl h
  case isTrue asked =>
    obtain ⟨rfl, rfl⟩ := asked
    cases before : m.kept other k with
    | some old =>
      rw [answer_of_kept_eq_some before] at h
      exact .inl h
    | none =>
      rw [answer_of_kept_eq_none before] at h
      exact .inr ⟨rfl, rfl, rfl, (Option.some.inj h).symm⟩

/-- What a logger was asked it keeps. -/
theorem kept_keep_self : (m.keep s name n).kept name n = some (m.answer s name n) :=
  if_pos ⟨rfl, rfl⟩

/-- **What a logger has kept it goes on to keep**, whatever is asked and whatever the
rules say by then. -/
theorem kept_keep_of_kept {b : Bool} (h : m.kept other k = some b) :
    (m.keep s name n).kept other k = some b := by
  simp only [keep]
  split
  case isFalse => exact h
  case isTrue asked =>
    obtain ⟨rfl, rfl⟩ := asked
    rw [answer_of_kept_eq_some h]

end Memory

end Logging

end Conformance
