import Conformance.Check.Rule

/-!
# Checks — trees of rules, and the issues they find

A check is a tree whose leaves are rules, each with the path it reports.
`Check.issues` collects every issue of a value, depth first; `Check.leaves`
lists the rules from left to right, and `issues_eq_filterMap_leaves` says
that the issues are those of the leaves, in order: an inner node adds
nothing, its path included.
-/


namespace Conformance

/-- A failure: where it was found, and why. -/
structure Issue where
  path : String
  reason : Reason
deriving DecidableEq, Repr

namespace Issue

/-- An issue as one line of text. -/
def message (issue : Issue) : String :=
  "Validation failed for " ++ issue.path ++ ": " ++ issue.reason.text

end Issue

/-- A tree of rules. -/
inductive Check where
  | leaf (path : String) (rule : Rule)
  /-- Holds when every child does. -/
  | all (path : String) (children : List Check)
deriving Repr, Inhabited

/-- A rule and the path it reports. -/
structure Leaf where
  path : String
  rule : Rule
deriving DecidableEq, Repr

namespace Leaf

/-- The issue a value raises at a leaf. -/
def issue? (v : Value) (l : Leaf) : Option Issue :=
  (l.rule.failure? v).map fun reason => ⟨l.path, reason⟩

end Leaf

namespace Check

/-- The path of a check. -/
def path : Check → String
  | .leaf path _ => path
  | .all path _ => path

/-! ## Induction -/

/-- Induction over checks, with the hypothesis at every child. -/
@[elab_as_elim]
theorem induction {motive : Check → Prop} (leaf : ∀ path rule, motive (.leaf path rule))
    (all : ∀ path children, (∀ c ∈ children, motive c) → motive (.all path children))
    (c : Check) : motive c :=
  Check.rec (motive_2 := fun children => ∀ c ∈ children, motive c) leaf
    (fun path children ih => all path children ih)
    (fun _ h => absurd h List.not_mem_nil)
    (fun _ _ hd tl c h => by
      rcases List.mem_cons.mp h with rfl | h
      · exact hd
      · exact tl c h)
    c

/-! ## Leaves -/

mutual

/-- The rules of a check with their paths, from left to right. -/
def leaves : Check → List Leaf
  | .leaf path rule => [⟨path, rule⟩]
  | .all _ children => leavesOf children

/-- The leaves of a row of checks. -/
def leavesOf : List Check → List Leaf
  | [] => []
  | c :: rest => leaves c ++ leavesOf rest

end

theorem leavesOf_eq_flatMap (children : List Check) :
    leavesOf children = children.flatMap leaves := by
  induction children with
  | nil => rfl
  | cons c rest ih => rw [leavesOf, ih, List.flatMap_cons]

@[simp] theorem leaves_leaf (path : String) (rule : Rule) :
    (leaf path rule).leaves = [⟨path, rule⟩] := by
  rw [leaves]

@[simp] theorem leaves_all (path : String) (children : List Check) :
    (all path children).leaves = children.flatMap leaves := by
  rw [leaves, leavesOf_eq_flatMap]

/-! ## Issues -/

mutual

/-- Every issue of a value, in the order in which the rules stand. -/
def issues (v : Value) : Check → List Issue
  | .leaf path rule =>
    match rule.failure? v with
    | some reason => [⟨path, reason⟩]
    | none => []
  | .all _ children => issuesOf v children

/-- The issues of a row of checks. -/
def issuesOf (v : Value) : List Check → List Issue
  | [] => []
  | c :: rest => issues v c ++ issuesOf v rest

end

theorem issuesOf_eq_flatMap (v : Value) (children : List Check) :
    issuesOf v children = children.flatMap (issues v) := by
  induction children with
  | nil => rfl
  | cons c rest ih => rw [issuesOf, ih, List.flatMap_cons]

@[simp] theorem issues_leaf (v : Value) (path : String) (rule : Rule) :
    issues v (leaf path rule) = (Leaf.issue? v ⟨path, rule⟩).toList := by
  rw [issues, Leaf.issue?]
  cases rule.failure? v <;> rfl

@[simp] theorem issues_all (v : Value) (path : String) (children : List Check) :
    issues v (all path children) = children.flatMap (issues v) := by
  rw [issues, issuesOf_eq_flatMap]

/-- **The issues are those of the leaves**, from left to right. -/
theorem issues_eq_filterMap_leaves (v : Value) (c : Check) :
    issues v c = c.leaves.filterMap (Leaf.issue? v) := by
  induction c using Check.induction with
  | leaf path rule =>
    rw [issues_leaf, leaves_leaf]
    cases h : Leaf.issue? v ⟨path, rule⟩ <;> simp [h]
  | all path children ih =>
    rw [issues_all, leaves_all]
    induction children with
    | nil => rfl
    | cons c rest ihr =>
      rw [List.flatMap_cons, List.flatMap_cons, List.filterMap_append, ih c (by simp),
        ihr fun d hd => ih d (by simp [hd])]

/-! ## Equality -/

mutual

/-- Whether two checks are the same tree. -/
def same : Check → Check → Bool
  | .leaf p r, .leaf q s => p == q && r == s
  | .all p cs, .all q ds => p == q && sameAll cs ds
  | _, _ => false

/-- Whether two rows of checks are the same. -/
def sameAll : List Check → List Check → Bool
  | [], [] => true
  | c :: cs, d :: ds => same c d && sameAll cs ds
  | _, _ => false

end

theorem same_iff_eq {c d : Check} : same c d = true ↔ c = d := by
  induction c using Check.induction generalizing d with
  | leaf p r =>
    cases d with
    | leaf q s => simp [same]
    | all q ds => simp [same]
  | all p cs ih =>
    cases d with
    | leaf q s => simp [same]
    | all q ds =>
      have row : sameAll cs ds = true ↔ cs = ds := by
        induction cs generalizing ds with
        | nil => cases ds <;> simp [sameAll]
        | cons c cs ihr =>
          cases ds with
          | nil => simp [sameAll]
          | cons d ds =>
            simp [sameAll, ih c (by simp), ihr (fun e he => ih e (by simp [he]))]
      simp [same, row]

instance : DecidableEq Check := fun _ _ => decidable_of_iff _ same_iff_eq

/-! ## Descriptions -/

mutual

/-- A short description of a check. -/
def describe : Check → String
  | .leaf _ rule => rule.describe
  | .all _ children => "all(" ++ describeRow children ++ ")"

/-- The descriptions of a row of checks, with commas between them. -/
def describeRow : List Check → String
  | [] => ""
  | [c] => describe c
  | c :: rest => describe c ++ ", " ++ describeRow rest

end

end Check

end Conformance
