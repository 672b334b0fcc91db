/-!
# Levels — how grave a record is

A level is an integer, and six of them have names: the graver the record,
the higher its level. Two levels have a second name, which reads and is
never written. The levels with names stand as constants as well, in a table
of their own, and the two tables agree: `constant?_of_ofName?`.
-/


namespace Conformance

namespace Logging

/-- The gravity of a record. -/
abbrev Level := Int

namespace Level

/-- The level of records for those who look for faults. -/
def debug : Level := 10

/-- The level of warnings. -/
def warning : Level := 30

/-- The names of levels. -/
def names : List (String × Level) :=
  [("CRITICAL", 50), ("FATAL", 50), ("ERROR", 40), ("WARN", 30), ("WARNING", 30), ("INFO", 20),
    ("DEBUG", 10), ("NOTSET", 0)]

/-- The level of a name. -/
def ofName? (name : String) : Option Level := names.lookup name

/-- The levels that are constants, each under the name of the constant. -/
def constants : List (String × Level) :=
  [("CRITICAL", 50), ("FATAL", 50), ("ERROR", 40), ("WARNING", 30), ("WARN", 30), ("INFO", 20),
    ("DEBUG", 10), ("NOTSET", 0)]

/-- The level that is the constant of a name. -/
def constant? (name : String) : Option Level := constants.lookup name

/-- The name of a level as a record shows it. -/
def name (level : Level) : String :=
  match level with
  | 50 => "CRITICAL"
  | 40 => "ERROR"
  | 30 => "WARNING"
  | 20 => "INFO"
  | 10 => "DEBUG"
  | 0 => "NOTSET"
  | n => "Level " ++ toString n

theorem mem_names_of_ofName? {name : String} {level : Level} (h : ofName? name = some level) :
    (name, level) ∈ names := by
  obtain ⟨before, behind, listed, -⟩ := List.lookup_eq_some_iff.mp h
  rw [listed]
  exact List.mem_append_right before List.mem_cons_self

/-- Every name of a level is that of a constant, and the constant is that level. -/
theorem constant?_of_ofName? {name : String} {level : Level} (h : ofName? name = some level) :
    constant? name = some level := by
  have agree : ∀ entry ∈ names, constant? entry.1 = some entry.2 := by decide
  exact agree (name, level) (mem_names_of_ofName? h)

end Level

end Logging

end Conformance
