import Conformance.Check

/-!
# Cursors — issues one at a time

A cursor stands in the middle of a check: it holds the leaves that are
still to be asked and the value they are asked about. `Cursor.next?` asks
leaves until one fails. Pulling until the end gives the issues of the
check, `toList_start`, so the first pull gives the first issue, which
is all that `Check.firstIssue?` and `Check.isValid` look for.
-/


namespace Conformance

/-- A pass over a check that has not come to its end. -/
structure Cursor where
  pending : List Leaf
  value : Value

namespace Cursor

/-- A cursor before the first leaf of a check. -/
def start (c : Check) (v : Value) : Cursor := ⟨c.leaves, v⟩

/-- The next issue among pending leaves, with the leaves behind it. -/
def scan? (v : Value) : List Leaf → Option (Issue × List Leaf)
  | [] => none
  | l :: rest =>
    match l.issue? v with
    | some issue => some (issue, rest)
    | none => scan? v rest

/-- The next issue, and the cursor behind it. -/
def next? (k : Cursor) : Option (Issue × Cursor) :=
  (scan? k.value k.pending).map fun (issue, rest) => (issue, ⟨rest, k.value⟩)

/-- A cursor with nothing left to ask. -/
def done (k : Cursor) : Cursor := ⟨[], k.value⟩

/-- One pull: the issue found, if any, and where the cursor stands then. -/
def pull (k : Cursor) : Option Issue × Cursor :=
  match k.next? with
  | some (issue, rest) => (some issue, rest)
  | none => (none, k.done)

/-- What is still to come. -/
def toList (k : Cursor) : List Issue := k.pending.filterMap (Leaf.issue? k.value)

@[simp] theorem toList_start (c : Check) (v : Value) : (start c v).toList = c.issues v :=
  (Check.issues_eq_filterMap_leaves v c).symm

/-- A pull gives the first of what is to come and leaves the others. -/
theorem pull_eq (k : Cursor) :
    k.pull.1 = k.toList.head? ∧ k.pull.2.toList = k.toList.tail := by
  obtain ⟨pending, v⟩ := k
  induction pending with
  | nil => exact ⟨rfl, rfl⟩
  | cons l rest ih =>
    cases h : l.issue? v with
    | some issue => simp [pull, next?, scan?, toList, h]
    | none =>
      have step : (Cursor.mk (l :: rest) v).pull = (Cursor.mk rest v).pull := by
        simp [pull, next?, scan?, h, done]
      rw [step]
      simpa [toList, List.filterMap_cons, h] using ih

end Cursor

namespace Check

/-- The first issue of a value. -/
def firstIssue? (v : Value) (c : Check) : Option Issue :=
  (Cursor.start c v).next?.map Prod.fst

/-- Whether a value has no issue. -/
def isValid (v : Value) (c : Check) : Bool := (c.firstIssue? v).isNone

theorem firstIssue?_eq_head? (v : Value) (c : Check) :
    c.firstIssue? v = (c.issues v).head? := by
  have h := (Cursor.pull_eq (Cursor.start c v)).1
  rw [Cursor.toList_start] at h
  rw [← h, firstIssue?, Cursor.pull]
  cases (Cursor.start c v).next? <;> rfl

theorem isValid_iff (v : Value) (c : Check) : c.isValid v = true ↔ c.issues v = [] := by
  rw [isValid, firstIssue?_eq_head?]
  cases c.issues v <;> simp

end Check

end Conformance
