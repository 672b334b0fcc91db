import Conformance.Proofs.Calls

/-!
# Pulls — issues one at a time, among other things

A cursor that is opened in a session stays in its register while other steps
go on, and each pull moves it to the next issue. `pulls_give_issues` says that
nothing else does: whatever steps come between, the pull behind `k` others
gives the issue of number `k` that the check has alone, and nothing from the
end on. A pass over nested checks that goes down and up again gives the same,
`pull_cursor`: what it has still to ask, row by row, is what a cursor holds.
And an issue depends on nothing behind its leaf, `getElem?_issues_of_prefix`, so
whatever stands to the right of a place in a check can be replaced.
-/


namespace Conformance

/-! ## Pulling several times -/

namespace Cursor

/-- A cursor behind some pulls. -/
def pulled : Nat → Cursor → Cursor
  | 0, k => k
  | n + 1, k => pulled n k.pull.2

/-- Each pull takes one issue from what is still to come. -/
theorem toList_pulled (n : Nat) (k : Cursor) : (k.pulled n).toList = k.toList.drop n := by
  induction n generalizing k with
  | zero => rfl
  | succ n ih => rw [pulled, ih, (pull_eq k).2, List.drop_tail]

/-- **The pull behind some others gives the issue of their number**, and nothing
from the end on. -/
theorem pull_pulled_start (n : Nat) (c : Check) (v : Value) :
    ((start c v).pulled n).pull.1 = (c.issues v)[n]? := by
  rw [(pull_eq _).1, toList_pulled, toList_start, List.head?_drop]

end Cursor

/-! ## Passes that go down and up -/

/-- A pass over a check that has not come to its end. For each node that it is
within, the innermost first, it holds the children that are still to be asked. -/
structure Walk where
  rows : List (List Check)
  value : Value

namespace Walk

/-- A walk before a check. -/
def start (c : Check) (v : Value) : Walk := ⟨[[c]], v⟩

/-- Goes on to the next issue: down into a node that is met, and up from a row
that has come to its end. -/
def resume? (v : Value) : List (List Check) → Option (Issue × List (List Check))
  | [] => none
  | [] :: outer => resume? v outer
  | (.leaf path rule :: row) :: outer =>
    match Leaf.issue? v ⟨path, rule⟩ with
    | some issue => some (issue, row :: outer)
    | none => resume? v (row :: outer)
  | (.all _ children :: row) :: outer => resume? v (children :: row :: outer)
termination_by rows => sizeOf rows

/-- One pull: the issue found, if any, and where the walk stands then. -/
def pull (w : Walk) : Option Issue × Walk :=
  match resume? w.value w.rows with
  | some (issue, rows) => (some issue, ⟨rows, w.value⟩)
  | none => (none, ⟨[], w.value⟩)

/-- A walk behind some pulls. -/
def pulled : Nat → Walk → Walk
  | 0, w => w
  | n + 1, w => pulled n w.pull.2

/-- The leaves that a walk has still to ask. -/
def pending (rows : List (List Check)) : List Leaf := rows.flatMap fun row => row.flatMap Check.leaves

/-- A walk as a cursor. -/
def cursor (w : Walk) : Cursor := ⟨pending w.rows, w.value⟩

/-- Going down and up asks the leaves in their order. -/
theorem resume?_eq_scan? (v : Value) (rows : List (List Check)) :
    (resume? v rows).map (fun found => (found.1, pending found.2)) =
      Cursor.scan? v (pending rows) := by
  fun_induction resume? v rows with
  | case1 => rfl
  | case2 outer ih => exact ih
  | case3 path rule row outer issue raised =>
    have first : pending ((.leaf path rule :: row) :: outer) =
        ⟨path, rule⟩ :: pending (row :: outer) := by
      simp [pending]
    rw [first, Cursor.scan?, raised]
    rfl
  | case4 path rule row outer passed ih =>
    have first : pending ((.leaf path rule :: row) :: outer) =
        ⟨path, rule⟩ :: pending (row :: outer) := by
      simp [pending]
    rw [first, Cursor.scan?, passed]
    exact ih
  | case5 path children row outer ih =>
    -- a node that is gone into leaves its children in a row of their own
    have same : pending ((.all path children :: row) :: outer) =
        pending (children :: row :: outer) := by
      simp [pending]
    rw [same]
    exact ih

/-- **A walk pulls what its cursor does**, and goes on as its cursor goes on. -/
theorem pull_cursor (w : Walk) : w.pull.1 = w.cursor.pull.1 ∧ w.pull.2.cursor = w.cursor.pull.2 := by
  have scanned : Cursor.scan? w.value (pending w.rows) =
      (resume? w.value w.rows).map fun found => (found.1, pending found.2) :=
    (resume?_eq_scan? w.value w.rows).symm
  rw [pull, Cursor.pull, Cursor.next?, cursor]
  dsimp only
  rw [scanned]
  cases resume? w.value w.rows with
  | none => exact ⟨rfl, rfl⟩
  | some found => exact ⟨rfl, rfl⟩

theorem cursor_pulled (n : Nat) (w : Walk) : (w.pulled n).cursor = w.cursor.pulled n := by
  induction n generalizing w with
  | zero => rfl
  | succ n ih => rw [pulled, Cursor.pulled, ih, (pull_cursor w).2]

theorem cursor_start (c : Check) (v : Value) : (start c v).cursor = Cursor.start c v := by
  simp [start, cursor, Cursor.start, pending]

/-- **Going down and up gives the issues of a check in their order.** -/
theorem pull_pulled_start (n : Nat) (c : Check) (v : Value) :
    ((start c v).pulled n).pull.1 = (c.issues v)[n]? := by
  rw [(pull_cursor _).1, cursor_pulled, cursor_start, Cursor.pull_pulled_start]

end Walk

/-! ## Places in a check -/

/-- A node around a place: its path, and the checks on either side of the place
or of the node within. -/
structure Layer where
  path : String
  before : List Check
  behind : List Check

namespace Layer

/-- A check with nodes around it, the outermost first. -/
def around : List Layer → Check → Check
  | [], c => c
  | l :: inner, c => .all l.path (l.before ++ around inner c :: l.behind)

/-- The leaves in front of a place. -/
def leavesBefore (layers : List Layer) : List Leaf :=
  layers.flatMap fun l => l.before.flatMap Check.leaves

/-- The leaves behind a place. -/
def leavesBehind : List Layer → List Leaf
  | [] => []
  | l :: inner => leavesBehind inner ++ l.behind.flatMap Check.leaves

/-- The leaves of a check stand between those in front and those behind. -/
theorem leaves_around (layers : List Layer) (c : Check) :
    (around layers c).leaves = leavesBefore layers ++ c.leaves ++ leavesBehind layers := by
  induction layers with
  | nil => simp [around, leavesBefore, leavesBehind]
  | cons l inner ih =>
    rw [leavesBefore] at ih
    simp [around, leavesBefore, leavesBehind, ih]

/-- What stands behind a place has no part in what stands in front of it. -/
theorem leavesBefore_congr {layers layers' : List Layer}
    (h : layers'.map Layer.before = layers.map Layer.before) :
    leavesBefore layers' = leavesBefore layers := by
  have fronts (layers : List Layer) :
      leavesBefore layers = (layers.map Layer.before).flatMap (List.flatMap Check.leaves) := by
    rw [leavesBefore, List.flatMap_map]
  rw [fronts, fronts, h]

end Layer

/-- The place of a leaf among those of a row of checks. -/
theorem exists_child {children : List Check} {front back : List Leaf} {leaf : Leaf}
    (h : children.flatMap Check.leaves = front ++ leaf :: back) :
    ∃ before c behind inner inner', children = before ++ c :: behind ∧
      c.leaves = inner ++ leaf :: inner' ∧ front = before.flatMap Check.leaves ++ inner := by
  induction children generalizing front with
  | nil => simp at h
  | cons c rest ih =>
    -- the leaf is one of the first child if and only if those in front are
    have later {front' : List Leaf} (h' : rest.flatMap Check.leaves = front' ++ leaf :: back)
        (whole : front = c.leaves ++ front') : ∃ before d behind inner inner',
          c :: rest = before ++ d :: behind ∧ d.leaves = inner ++ leaf :: inner' ∧
            front = before.flatMap Check.leaves ++ inner := by
      obtain ⟨before, d, behind, inner, inner', rfl, within, rfl⟩ := ih h'
      exact ⟨c :: before, d, behind, inner, inner', rfl, within,
        by rw [whole, List.flatMap_cons, List.append_assoc]⟩
    rw [List.flatMap_cons, List.append_eq_append_iff] at h
    rcases h with ⟨front', whole, h'⟩ | ⟨own, within, h'⟩
    · exact later h' whole
    · cases own with
      | nil =>
        have first : rest.flatMap Check.leaves = [] ++ leaf :: back := h'.symm
        exact later first (by simpa using within.symm)
      | cons first inner' =>
        obtain ⟨rfl, -⟩ := List.cons.inj h'
        exact ⟨[], c, rest, front, inner', rfl, within, rfl⟩

/-- **Every leaf of a check has its place.** -/
theorem exists_around (c : Check) {front back : List Leaf} {leaf : Leaf}
    (h : c.leaves = front ++ leaf :: back) :
    ∃ layers, c = Layer.around layers (.leaf leaf.path leaf.rule) ∧
      Layer.leavesBefore layers = front := by
  induction c using Check.induction generalizing front back with
  | leaf path rule =>
    rw [Check.leaves_leaf, eq_comm, List.append_eq_singleton_iff] at h
    rcases h with ⟨rfl, only⟩ | ⟨-, none⟩
    · obtain ⟨rfl, -⟩ := List.cons.inj only
      exact ⟨[], rfl, rfl⟩
    · cases none
  | all path children ih =>
    rw [Check.leaves_all] at h
    obtain ⟨before, c, behind, inner, inner', rfl, within, rfl⟩ := exists_child h
    obtain ⟨layers, same, inFront⟩ := ih c (by simp) within
    refine ⟨⟨path, before, behind⟩ :: layers, by rw [Layer.around, ← same], ?_⟩
    rw [Layer.leavesBefore, List.flatMap_cons, ← inFront]
    rfl

/-- **An issue depends on nothing behind its leaf.** Two checks that begin with
the same leaves have the same issues up to those of these leaves. -/
theorem getElem?_issues_of_prefix {c d : Check} {front : List Leaf} {v : Value}
    (hc : front <+: c.leaves) (hd : front <+: d.leaves) {j : Nat}
    (early : j < (front.filterMap (Leaf.issue? v)).length) :
    (d.issues v)[j]? = (c.issues v)[j]? := by
  have own {e : Check} (he : front <+: e.leaves) :
      (e.issues v)[j]? = (front.filterMap (Leaf.issue? v))[j]? := by
    obtain ⟨back, whole⟩ := he
    rw [Check.issues_eq_filterMap_leaves, ← whole, List.filterMap_append,
      List.getElem?_append_left early]
  rw [own hc, own hd]

/-- The leaf behind an issue. -/
theorem exists_leaf_of_issue {leaves : List Leaf} {v : Value} {k : Nat}
    (h : k < (leaves.filterMap (Leaf.issue? v)).length) :
    ∃ front leaf back, leaves = front ++ leaf :: back ∧ (leaf.issue? v).isSome = true ∧
      (front.filterMap (Leaf.issue? v)).length = k := by
  induction leaves generalizing k with
  | nil => simp at h
  | cons l rest ih =>
    cases raised : l.issue? v with
    | none =>
      rw [List.filterMap_cons_none raised] at h
      obtain ⟨front, leaf, back, rfl, fails, count⟩ := ih h
      exact ⟨l :: front, leaf, back, rfl, fails, by rw [List.filterMap_cons_none raised, count]⟩
    | some issue =>
      cases k with
      | zero => exact ⟨[], l, rest, rfl, by rw [raised]; rfl, rfl⟩
      | succ k =>
        rw [List.filterMap_cons_some raised, List.length_cons] at h
        obtain ⟨front, leaf, back, rfl, fails, count⟩ := ih (Nat.lt_of_succ_lt_succ h)
        exact ⟨l :: front, leaf, back, rfl, fails,
          by rw [List.filterMap_cons_some raised, List.length_cons, count]⟩

/-! ## Cursors in a session -/

/-- Whether a step opens a cursor in a register. -/
def Step.opens (register : String) : Step → Bool
  | .iterate _ r _ => r == register
  | _ => false

/-- Whether a step pulls from a register. -/
def Step.pulls (register : String) : Step → Bool
  | .next r => r == register
  | _ => false

namespace Session

variable {s : Session} {register : String}

theorem lookup_eq_ok_iff {α : Type} {name : String} {registers : List (String × α)} {content : α} :
    lookup name registers = .ok content ↔ registers.lookup name = some content := by
  rw [lookup]
  cases registers.lookup name <;> simp

/-- **A step moves the cursor that it pulls from and no other**, unless it opens
one in its place. -/
theorem lookup_cursors_step {k : Cursor} (held : s.cursors.lookup register = some k) {next : Step}
    (kept : next.opens register = false) :
    (s.step next).2.cursors.lookup register =
      some (if next.pulls register then k.pull.2 else k) := by
  have others (name : String) (other : Cursor) (h : (name == register) = false) :
      ((name, other) :: s.cursors).lookup register = some k := by
    have apart : (register == name) = false := by rwa [BEq.comm]
    rw [List.lookup_cons, apart, held]
  rw [(s.step_changes next).2.1]
  -- only two kinds of steps touch the cursors, and they do so in their own registers
  cases next with
  | iterate subject name value =>
    rw [cursorsBehind]
    cases lookup subject s.subjects with
    | error fault => exact held
    | ok c => exact others name _ kept
  | next name =>
    rw [cursorsBehind]
    cases same : name == register with
    | true =>
      obtain rfl : name = register := eq_of_beq same
      rw [lookup_eq_ok_iff.mpr held]
      simp [Step.pulls]
    | false =>
      have unmoved : (Step.next name).pulls register = false := same
      rw [unmoved]
      cases lookup name s.cursors with
      | error fault => exact held
      | ok other => exact others name _ same
  | _ => exact held

/-- **A cursor is as far as it was pulled**, whatever else went on. -/
theorem lookup_cursors_after {k : Cursor} (held : s.cursors.lookup register = some k)
    {steps : List Step} (kept : ∀ next ∈ steps, next.opens register = false) :
    (s.after steps).cursors.lookup register =
      some (k.pulled (steps.countP (Step.pulls register))) := by
  induction steps generalizing s k with
  | nil => exact held
  | cons next rest ih =>
    have moved := lookup_cursors_step held (kept next List.mem_cons_self)
    have behind := ih moved fun later member => kept later (List.mem_cons_of_mem _ member)
    have after : s.after (next :: rest) = (s.step next).2.after rest := rfl
    rw [after, behind, List.countP_cons]
    cases next.pulls register with
    | true => rfl
    | false => rfl

/-- What a pull gives, and it writes nothing. -/
theorem step_next {k : Cursor} (held : s.cursors.lookup register = some k) :
    (s.step (.next register)).1 = ⟨.ok (.issue k.pull.1), {}⟩ := by
  have found := lookup_eq_ok_iff.mpr held
  simp only [step, advance, advanceBy, bind, Except.bind, found]
  rfl

/-- **Pulls give the issues of the check alone.** Whatever goes on in a session
behind the opening of a cursor, as long as its register is not opened anew, the
cursor stands where a walk over the check stands behind as many pulls, and the
next pull gives the issue of that number, or nothing from the end on. Each
issue has its leaf, and a check with the same leaves up to it has the same
issues up to it; so all that stands behind the leaf can be replaced. -/
theorem pulls_give_issues (s : Session) (subject register : String) (value : Value) {c : Subject}
    (found : lookup subject s.subjects = .ok c) :
    (∀ between : List Step, (∀ next ∈ between, next.opens register = false) →
      let behind := (s.step (.iterate subject register value)).2.after between
      let k := between.countP (Step.pulls register)
      behind.cursors.lookup register = some ((Walk.start c.tree value).pulled k).cursor ∧
        (behind.step (.next register)).1 = ⟨.ok (.issue (c.tree.issues value)[k]?), {}⟩) ∧
      (∀ k, ((Walk.start c.tree value).pulled k).pull.1 = (c.tree.issues value)[k]?) ∧
      ∀ k < (c.tree.issues value).length, ∃ layers leaf,
        c.tree = Layer.around layers (.leaf leaf.path leaf.rule) ∧
          (leaf.issue? value).isSome = true ∧
          ((Layer.leavesBefore layers).filterMap (Leaf.issue? value)).length = k ∧
          (∀ d : Check, Layer.leavesBefore layers ++ [leaf] <+: d.leaves → ∀ j ≤ k,
            (d.issues value)[j]? = (c.tree.issues value)[j]?) ∧
          ∀ layers' : List Layer, layers'.map Layer.before = layers.map Layer.before → ∀ j ≤ k,
            ((Layer.around layers' (.leaf leaf.path leaf.rule)).issues value)[j]? =
              (c.tree.issues value)[j]? := by
  refine ⟨fun between kept => ?_, fun k => Walk.pull_pulled_start k c.tree value, fun k short => ?_⟩
  · intro behind k
    have opened : (s.step (.iterate subject register value)).2.cursors.lookup register =
        some (Cursor.start c.tree value) := by
      rw [(s.step_changes _).2.1, cursorsBehind, found]
      exact List.lookup_cons_self
    have held : behind.cursors.lookup register = some ((Cursor.start c.tree value).pulled k) :=
      lookup_cursors_after opened kept
    constructor
    · rw [held, Walk.cursor_pulled, Walk.cursor_start]
    · rw [step_next held, Cursor.pull_pulled_start]
  · rw [Check.issues_eq_filterMap_leaves] at short
    obtain ⟨front, leaf, back, split, fails, count⟩ := exists_leaf_of_issue short
    obtain ⟨layers, place, rfl⟩ := exists_around c.tree split
    -- the leaves in front make `k` issues and the leaf itself one more
    have counted : ((Layer.leavesBefore layers ++ [leaf]).filterMap (Leaf.issue? value)).length =
        k + 1 := by
      obtain ⟨issue, raised⟩ := Option.isSome_iff_exists.mp fails
      rw [List.filterMap_append, List.length_append, count, List.filterMap_cons_some raised]
      rfl
    have begins (layers' : List Layer) (h : layers'.map Layer.before = layers.map Layer.before) :
        Layer.leavesBefore layers ++ [leaf] <+:
          (Layer.around layers' (.leaf leaf.path leaf.rule)).leaves := by
      rw [Layer.leaves_around, Layer.leavesBefore_congr h, Check.leaves_leaf]
      exact List.prefix_append _ _
    have agree (d : Check) (h : Layer.leavesBefore layers ++ [leaf] <+: d.leaves) (j : Nat)
        (early : j ≤ k) : (d.issues value)[j]? = (c.tree.issues value)[j]? := by
      have own : Layer.leavesBefore layers ++ [leaf] <+: c.tree.leaves := by
        rw [place]
        exact begins layers rfl
      exact getElem?_issues_of_prefix own h (by omega)
    exact ⟨layers, leaf, place, fails, count, agree,
      fun layers' h j early => agree _ (begins layers' h) j early⟩

/-- A check within a check, of which a short text breaks all leaves but the first. -/
def nestedCheck : Check :=
  .all "t" [.leaf "t.a" (.type .string),
    .all "t.b" [.leaf "t.b.c" (.type .integer), .leaf "t.b.d" (.minLength 2)],
    .leaf "t.e" (.type .number)]

/-- A session with this check in a register. -/
def nestedSession : Session := { subjects := [("t", .check nestedCheck)] }

/-- The session behind the opening of a cursor over the check. -/
def openedSession : Session := (nestedSession.step (.iterate "t" "first" (.plain "x"))).2

/-- Pulls from a first cursor, with a second one over the same check between
them, a verdict, and a new check in the register of the old. -/
def entwinedSteps : List Step :=
  [.next "first", .iterate "t" "second" (.integer 4), .next "second",
    .verdict "t" (.plain "x"), .check "t" (.type "u" "array"), .next "second"]

/-- The pull behind one other gives the second issue, which is the same with
something else behind its leaf, and the pull behind three others gives nothing. -/
theorem pulls_give_issues_entwined :
    (∀ next ∈ entwinedSteps, next.opens "first" = false) ∧
      ((openedSession.after entwinedSteps).step (.next "first")).1.answer =
        .ok (.issue (some ⟨"t.b.d", .tooShort 2⟩)) ∧
      ((openedSession.after (entwinedSteps ++ [.next "first", .next "first"])).step
        (.next "first")).1.answer = .ok (.issue none) ∧
      ∃ layers, ∃ leaf : Leaf, nestedCheck = Layer.around layers (.leaf leaf.path leaf.rule) ∧
        ((Layer.leavesBefore layers).filterMap (Leaf.issue? (.plain "x"))).length = 1 := by
  have found : lookup "t" nestedSession.subjects = .ok (.check nestedCheck) := rfl
  obtain ⟨pulls, -, places⟩ := pulls_give_issues nestedSession "t" "first" (.plain "x") found
  have kept : ∀ next ∈ entwinedSteps, next.opens "first" = false := by decide
  have keptOn : ∀ next ∈ entwinedSteps ++ [.next "first", .next "first"],
      next.opens "first" = false := by decide
  have second := congrArg Outcome.answer (pulls entwinedSteps kept).2
  have none := congrArg Outcome.answer (pulls _ keptOn).2
  obtain ⟨layers, leaf, place, -, count, -⟩ := places 1 (by decide +kernel)
  exact ⟨kept, second, none, layers, leaf, place, count⟩

end Session

end Conformance
