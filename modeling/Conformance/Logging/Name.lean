import Conformance.Value.Printed

/-!
# Names — loggers, and what they descend from

A logger is named by the parts between the dots of its written name, and
descends from the loggers whose parts its own begin with. On the way to the
root a name that ends in an empty part, so in a dot, is a step of its own
only if that logger is known: otherwise the way leads past the name before
it. And a logger that was known before the logger of its first part does not
descend from that one where its name begins the root's. All other names descend
from every beginning of theirs.
-/


namespace Conformance

namespace Logging

/-- The name of a logger, as the parts between its dots. The root has none. -/
abbrev LoggerName := List String

namespace LoggerName

/-- The logger that every other descends from. -/
def root : LoggerName := []

/-- The logger of a written name. -/
def ofText (text : String) : LoggerName :=
  if text = "" ∨ text = "root" then root else (text.toList.splitOn '.').map String.ofList

/-- A logger's name, written. -/
def text (name : LoggerName) : String :=
  if name.isEmpty then "root" else Text.join "." name

theorem ofText_of_named {written : String} (h : ¬ (written = "" ∨ written = "root")) :
    ofText written = (written.toList.splitOn '.').map String.ofList := if_neg h

/-- The root is written in two ways. -/
theorem ofText_eq_root_iff {written : String} :
    ofText written = root ↔ written = "" ∨ written = "root" := by
  refine ⟨fun h => Decidable.byContradiction fun named => ?_, fun h => if_pos h⟩
  rw [ofText_of_named named, root, List.map_eq_nil_iff] at h
  exact List.splitOn_ne_nil _ _ h

/-- A name that is read is written as before, unless it is empty. -/
theorem text_ofText {written : String} (h : written ≠ "") : (ofText written).text = written := by
  by_cases top : written = "root"
  · rw [top]
    rfl
  · have named : ¬ (written = "" ∨ written = "root") := not_or.mpr ⟨h, top⟩
    have parts : (ofText written).isEmpty = false := by
      simpa [root] using mt ofText_eq_root_iff.mp named
    rw [text, parts, ofText_of_named named, ← String.toList_inj]
    simp [Text.join, String.toList_intercalate, List.intercalate_splitOn]

/-- Whether the name of the root begins with a part. -/
def beginsRoot (part : String) : Bool := part.toList.isPrefixOf "root".toList

end LoggerName

/-- Which loggers are known, and which of them were so before the logger of
their first part. -/
structure Kinship where
  isKnown : LoggerName → Bool
  isEarly : LoggerName → Bool

namespace Kinship

/-- Makes a logger known. -/
def add (k : Kinship) (name : LoggerName) : Kinship :=
  if k.isKnown name then k
  else
    { isKnown := fun other => other == name || k.isKnown other
      isEarly := fun other =>
        k.isEarly other || (name.length == 1 && name.isPrefixOf other && k.isKnown other) }

/-- What is known stays known. -/
theorem isKnown_add (k : Kinship) (name other : LoggerName) :
    (k.add name).isKnown other = (other == name || k.isKnown other) := by
  unfold add
  split
  · by_cases h : other = name <;> simp_all
  · rfl

@[simp] theorem isKnown_add_self (k : Kinship) (name : LoggerName) :
    (k.add name).isKnown name = true := by simp [isKnown_add]

/-- A logger that is known is not made known again. -/
@[simp] theorem add_add (k : Kinship) (name : LoggerName) :
    (k.add name).add name = k.add name := by
  rw [add, if_pos (isKnown_add_self k name)]

/-- The way from a name to the root, where the name is given by its parts from
the last to the first, and `below` is the nearest known logger on the way to
it. -/
def climb (k : Kinship) (below : LoggerName) : List String → List LoggerName
  | [] => [LoggerName.root]
  | [last] =>
    if below ≠ [last] ∧ LoggerName.beginsRoot last ∧ k.isEarly below then [LoggerName.root]
    else [[last], LoggerName.root]
  | last :: next :: rest =>
    let name := (last :: next :: rest).reverse
    let below := if k.isKnown name then name else below
    name ::
      if last = "" && !k.isKnown name then climb k below rest else climb k below (next :: rest)

/-- A logger and those it descends from, the nearest first. -/
def lineage (k : Kinship) (name : LoggerName) : List LoggerName := k.climb name name.reverse

theorem prefix_of_mem_climb {k : Kinship} {below other : LoggerName} {parts : List String}
    (h : other ∈ k.climb below parts) : other <+: parts.reverse := by
  fun_induction climb k below parts with
  | case1 => simp_all [LoggerName.root]
  | case2 => simp_all [LoggerName.root]
  | case3 below last =>
    simp only [List.mem_cons, List.not_mem_nil, or_false] at h
    rcases h with rfl | rfl
    · exact List.prefix_rfl
    · exact List.nil_prefix
  | case4 below last next rest name _ far near =>
    have step : (next :: rest).reverse <+: name := by
      simp only [name, List.reverse_cons (a := last)]
      exact List.prefix_append _ _
    have leap : rest.reverse <+: name := by
      refine List.IsPrefix.trans ?_ step
      rw [List.reverse_cons]
      exact List.prefix_append _ _
    rcases List.mem_cons.mp h with rfl | h
    · exact List.prefix_rfl
    · split at h
      · exact (far h).trans leap
      · exact (near h).trans step

/-- A logger descends from beginnings of its name alone. -/
theorem prefix_of_mem_lineage {k : Kinship} {name other : LoggerName}
    (h : other ∈ k.lineage name) : other <+: name := by
  have := prefix_of_mem_climb h
  rwa [List.reverse_reverse] at this

end Kinship

end Logging

end Conformance
