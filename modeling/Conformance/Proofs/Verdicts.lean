import Conformance.Validator

/-!
# Verdicts — one row of issues behind every question

A check can be asked whether a value passes, whether it is valid, and for all
that is wrong with it. `Verdict.GoesBy` says what each of the three answers is
where one row of issues stands behind them, and `verdict_goes_by_leaves` is
that the row is that of the leaves, from left to right, so that how the nodes
above them group the leaves shows in no answer. Trees have the same leaves
exactly when regrouping leads from one to the other, `regroups_iff_leaves_eq`.
An error is worded by a template, and `format?_template` says that filling it
in puts the path and the reason into the sentence as they are, braces and all.
-/


namespace Conformance

/-! ## Templates -/

namespace Template

/-- A part of a template: a letter that stands as it is, or the place of a
value that has a name. -/
inductive Part where
  | letter (c : Char)
  | place (name : String)
deriving DecidableEq, Repr

mutual

/-- The parts of a template in its written form. A name in braces is a place,
and a brace that is meant is written twice; one that stands alone is refused. -/
def read? : List Char → Option (List Part)
  | [] => some []
  | '\x7b' :: '\x7b' :: rest => (read? rest).map (.letter '\x7b' :: ·)
  | '\x7d' :: '\x7d' :: rest => (read? rest).map (.letter '\x7d' :: ·)
  | '\x7b' :: rest => readName? [] rest
  | '\x7d' :: _ => none
  | c :: rest => (read? rest).map (.letter c :: ·)

/-- The parts behind an opening brace, where some letters of the name are read.
A name is all that may stand in braces: nothing converts, lays out or takes
apart the value. -/
def readName? (name : List Char) : List Char → Option (List Part)
  | [] => none
  | '\x7d' :: rest => (read? rest).map (.place (String.ofList name) :: ·)
  | c :: rest => if c ∈ ['\x7b', '!', ':', '.', '['] then none else readName? (name ++ [c]) rest

end

/-- Puts values into their places, all of which must have one. -/
def fill? (value? : String → Option String) : List Part → Option (List Char)
  | [] => some []
  | .letter c :: rest => (fill? value? rest).map (c :: ·)
  | .place name :: rest => do
    let value ← value? name
    let behind ← fill? value? rest
    return value.toList ++ behind

/-- A template filled in. What is put in is not read again. -/
def format? (template : String) (value? : String → Option String) : Option String := do
  let parts ← read? template.toList
  let letters ← fill? value? parts
  return String.ofList letters

/-- Letters stand for themselves. -/
theorem fill?_letters (value? : String → Option String) (s : List Char) (rest : List Part) :
    fill? value? (s.map .letter ++ rest) = (fill? value? rest).map (s ++ ·) := by
  induction s with
  | nil => simp
  | cons c s ih =>
    rw [List.map_cons, List.cons_append, fill?, ih, Option.map_map]
    rfl

/-- A place stands for its value. -/
theorem fill?_place {value? : String → Option String} {name value : String}
    (h : value? name = some value) (rest : List Part) :
    fill? value? (.place name :: rest) = (fill? value? rest).map (value.toList ++ ·) := by
  rw [fill?, h]
  cases fill? value? rest <;> rfl

end Template

/-- The template of a kind of errors. -/
def ErrorKind.template : ErrorKind → String
  | .general => "{path}: {reason}"
  | .badSchema => "Schema invalid at {path}: {reason}"
  | .validationFailed => "Validation failed for {path}: {reason}"
  | .configuration => "Configuration invalid at {path}: {reason}"

namespace Report

/-- The values that a template can name. -/
def value? (r : Report) : String → Option String
  | "path" => some r.path
  | "reason" => some r.reason
  | _ => none

open Template in
/-- A template is what opens the sentence, the two places, and a colon between
them. -/
theorem read?_template (kind : ErrorKind) :
    read? kind.template.toList = some (kind.opening.toList.map .letter ++ .place "path" ::
      ((": ").toList.map .letter ++ [.place "reason"])) := by
  cases kind <;> decide +kernel

/-- **Filling in the template gives the message**, whatever the path and the
reason hold. -/
theorem format?_template (r : Report) :
    Template.format? r.kind.template r.value? = some r.message := by
  have path : r.value? "path" = some r.path := rfl
  have reason : r.value? "reason" = some r.reason := rfl
  have filled : Template.fill? r.value? (r.kind.opening.toList.map .letter ++ .place "path" ::
      ((": ").toList.map .letter ++ [.place "reason"])) = some r.message.toList := by
    rw [Template.fill?_letters, Template.fill?_place path, Template.fill?_letters,
      Template.fill?_place reason, Template.fill?]
    simp [message]
  simp only [Template.format?, read?_template, Option.bind_eq_bind, Option.bind_some, filled,
    Option.pure_def, String.ofList_toList]

end Report

/-! ## Regrouping -/

namespace Check

/-- Trees that differ in how the nodes group the leaves: a node may be put
around a tree, the children of a node may stand in its place, and both
anywhere in a tree and as often as one likes. -/
inductive Regroups : Check → Check → Prop
  | refl (c : Check) : Regroups c c
  | symm {c d : Check} : Regroups c d → Regroups d c
  | trans {c d e : Check} : Regroups c d → Regroups d e → Regroups c e
  | wrap (path : String) (c : Check) : Regroups c (.all path [c])
  | flatten (outer inner : String) (before children behind : List Check) :
    Regroups (.all outer (before ++ .all inner children :: behind))
      (.all outer (before ++ (children ++ behind)))
  | within (path : String) (before behind : List Check) {c d : Check} :
    Regroups c d → Regroups (.all path (before ++ c :: behind)) (.all path (before ++ d :: behind))

/-- Regrouping leaves the leaves as they are. -/
theorem Regroups.leaves_eq {c d : Check} (h : Regroups c d) : c.leaves = d.leaves := by
  induction h with
  | refl c => rfl
  | symm _ ih => exact ih.symm
  | trans _ _ ih ih' => exact ih.trans ih'
  | wrap path c => simp
  | flatten outer inner before children behind => simp
  | within path before behind _ ih => simp [ih]

/-- The leaves of a check as checks. -/
def branches (c : Check) : List Check := c.leaves.map fun l => .leaf l.path l.rule

theorem branches_all (path : String) (children : List Check) :
    (all path children).branches = children.flatMap branches := by
  rw [branches, leaves_all, List.map_flatMap]
  rfl

/-- The children of a node can be replaced by their leaves one after another. -/
theorem regroups_branches (path : String) {children : List Check}
    (h : ∀ c ∈ children, Regroups c (.all "" c.branches)) (before : List Check) :
    Regroups (.all path (before ++ children)) (.all path (before ++ children.flatMap branches)) := by
  -- `before` grows by the leaves of each child that has been replaced
  induction children generalizing before with
  | nil => exact .refl _
  | cons c rest ih =>
    have first : Regroups (.all path (before ++ c :: rest))
        (.all path (before ++ .all "" c.branches :: rest)) :=
      .within path before rest (h c List.mem_cons_self)
    have opened : Regroups (.all path (before ++ .all "" c.branches :: rest))
        (.all path (before ++ (c.branches ++ rest))) :=
      .flatten path "" before c.branches rest
    have others := ih (fun d hd => h d (List.mem_cons_of_mem _ hd)) (before ++ c.branches)
    rw [List.flatMap_cons]
    simp only [List.append_assoc] at others
    exact first.trans (opened.trans others)

/-- Every tree can be regrouped into one node above its leaves. -/
theorem regroups_flat (c : Check) : Regroups c (.all "" c.branches) := by
  induction c using Check.induction with
  | leaf path rule => simpa [branches] using Regroups.wrap "" (.leaf path rule)
  | all path children ih =>
    have wrapped : Regroups (.all path children) (.all "" [.all path children]) := .wrap "" _
    have opened : Regroups (.all "" [.all path children]) (.all "" (children ++ [])) :=
      .flatten "" path [] children []
    have flat := regroups_branches "" ih []
    rw [List.append_nil] at opened
    rw [branches_all]
    exact wrapped.trans (opened.trans flat)

/-- **Regrouping leads from one tree to another exactly when they have the same
leaves.** -/
theorem regroups_iff_leaves_eq {c d : Check} : Regroups c d ↔ c.leaves = d.leaves := by
  constructor
  · exact Regroups.leaves_eq
  · intro same
    have flat : Check.all "" c.branches = .all "" d.branches := by rw [branches, branches, same]
    have back := (regroups_flat d).symm
    rw [← flat] at back
    exact (regroups_flat c).trans back

end Check

/-! ## What stands behind a verdict -/

/-- An error tells of an issue: it holds it, reports its path and its reason,
and reads as it does, in the sentence of the issue as well as by the template
of the error. -/
structure Error.TellsOf (e : Error) (issue : Issue) : Prop where
  holds : e.issue? = some issue
  report : e.report = ⟨.validationFailed, issue.path, issue.reason.text⟩
  message : e.message = issue.message
  filled : Template.format? e.report.kind.template e.report.value? = some issue.message

theorem Error.validationFailed_tellsOf (issue : Issue) :
    (Error.validationFailed issue).TellsOf issue where
  holds := rfl
  report := rfl
  message := rfl
  filled := Report.format?_template _

/-- A verdict goes by a row of issues: it lists them, it is valid and passes
where there are none, and else it fails with the first. -/
structure Verdict.GoesBy (verdict : Verdict) (found : List Issue) : Prop where
  issues : verdict.issues = found
  isValid : verdict.isValid = true ↔ found = []
  passes : verdict.first = .ok () ↔ found = []
  fails : ∀ issue, found.head? = some issue →
    ∃ e, verdict.first = .error e ∧ e.TellsOf issue

namespace Check

/-- **A check goes by its issues.** -/
theorem verdict_goesBy_issues (c : Check) (v : Value) : (c.verdict v).GoesBy (c.issues v) where
  issues := rfl
  isValid := verdict_isValid_iff v c
  passes := verify_eq_ok_iff v c
  fails := by
    intro issue first
    have failed := (verify_eq_error_iff v c (.validationFailed issue)).mpr ⟨issue, first, rfl⟩
    exact ⟨_, failed, Error.validationFailed_tellsOf issue⟩

/-- **Every answer goes by the leaves**, in their order and with their own
paths. Trees that regroup the leaves have the same issues, and a validator
answers as its tree does. -/
theorem verdict_goes_by_leaves (c : Check) (v : Value) :
    (c.verdict v).GoesBy (c.leaves.filterMap (Leaf.issue? v)) ∧
      (∀ d, Regroups c d → d.issues v = c.issues v) ∧
      ∀ w : Validator, w.issues v = w.check.leaves.filterMap (Leaf.issue? v) ∧
        (w.verdict v).GoesBy (w.check.leaves.filterMap (Leaf.issue? v)) := by
  have goes (c : Check) : (c.verdict v).GoesBy (c.leaves.filterMap (Leaf.issue? v)) := by
    rw [← issues_eq_filterMap_leaves]
    exact c.verdict_goesBy_issues v
  refine ⟨goes c, fun d regrouped => ?_, fun w => ⟨?_, goes w.check⟩⟩
  · rw [issues_eq_filterMap_leaves, issues_eq_filterMap_leaves, regrouped.leaves_eq]
  · exact issues_eq_filterMap_leaves v w.check

/-- Two leaves in a nest of nodes, one of them empty. The first path looks like
the place of a value. -/
def nested : Check :=
  .all "top" [.all "void" [], .all "inner" [.leaf "\x7bpath\x7d%s" (.type .string)],
    .leaf "top: x" (.bound ⟨.upper, 5, true, false⟩)]

/-- The same two leaves below one node. -/
def unnested : Check :=
  .all "all" [.leaf "\x7bpath\x7d%s" (.type .string),
    .leaf "top: x" (.bound ⟨.upper, 5, true, false⟩)]

/-- The integer `5` breaks both rules. The error is worded with the path as it
is, and without the nest the issues are the same. -/
theorem verdict_goes_by_leaves_nested :
    (∃ e, (nested.verdict (.integer 5)).first = .error e ∧
        e.message = "Validation failed for \x7bpath\x7d%s: Not a string") ∧
      Regroups nested unnested ∧
      unnested.issues (.integer 5) =
        [⟨"\x7bpath\x7d%s", .notOfType .string⟩, ⟨"top: x", .outOfBound 5⟩] := by
  obtain ⟨goes, regrouped, -⟩ := verdict_goes_by_leaves nested (.integer 5)
  have regroups : Regroups nested unnested := regroups_iff_leaves_eq.mpr (by decide +kernel)
  refine ⟨?_, regroups, (regrouped unnested regroups).trans (by decide +kernel)⟩
  obtain ⟨e, failed, tells⟩ := goes.fails ⟨"\x7bpath\x7d%s", .notOfType .string⟩ (by decide +kernel)
  exact ⟨e, failed, tells.message.trans (by decide +kernel)⟩

end Check

end Conformance
