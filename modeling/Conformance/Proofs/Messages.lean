import Conformance.Proofs.Descriptions
import Conformance.Proofs.Distinction

/-!
# Messages — what a message tells of its issue

A message puts a path and a reason behind each other, with a colon and a blank
between them, and the path may hold anything: colons, whole messages, the
wording of a reason. So reports with reasons of any wording can share a message.
The reasons that checks give cannot hold a colon, `colon_not_mem_text`, so the
last colon of a message is the one that its kind put there. From this a message
gives away its path and its reason, `message_eq_iff`.
-/


namespace Conformance

/-! ## No reason holds a colon -/

/-- **No wording of a reason holds a colon**, whatever the numbers in it. -/
theorem Reason.colon_not_mem_text (r : Reason) : ':' ∉ r.text.toList := by
  have numeral (n : Int) : ':' ∉ (toString n).toList := by
    intro h
    rcases Text.isNumeral_of_mem h with digit | minus
    · exact absurd digit (by decide)
    · exact absurd minus (by decide)
  have joined {s t : String} (hs : ':' ∉ s.toList) (ht : ':' ∉ t.toList) :
      ':' ∉ (s ++ t).toList := by
    rw [String.toList_append, List.mem_append]
    exact not_or.mpr ⟨hs, ht⟩
  cases r with
  | notOfType t => cases t <;> decide
  | notNatural => decide
  | notMultiple m => exact joined (by decide) (numeral m)
  | tooShort n => exact joined (joined (by decide) (numeral n)) (by decide)
  | tooLong n => exact joined (joined (by decide) (numeral n)) (by decide)
  | outOfBound limit => exact joined (by decide) (numeral limit)

namespace Report

/-- A message is the opening of its kind, the path, a colon and a blank, and the
reason. -/
theorem toList_message (r : Report) :
    r.message.toList =
      r.kind.opening.toList ++ (r.path.toList ++ ':' :: ' ' :: r.reason.toList) := by
  simp [message]

/-- Reports of one kind whose reasons hold no colon share a message only if they
are the same: the reason begins behind the last colon. -/
theorem eq_of_message_eq {a b : Report} (kind : a.kind = b.kind) (ha : ':' ∉ a.reason.toList)
    (hb : ':' ∉ b.reason.toList) (h : a.message = b.message) : a = b := by
  rw [← String.toList_inj, toList_message, toList_message, kind] at h
  have behind {r : Report} (hr : ':' ∉ r.reason.toList) : ':' ∉ ' ' :: r.reason.toList := by
    rw [List.mem_cons]
    exact not_or.mpr ⟨by decide, hr⟩
  obtain ⟨path, rest⟩ :=
    Text.eq_of_append_cons_eq (behind ha) (behind hb) (List.append_cancel_left h)
  obtain ⟨kindA, pathA, reasonA⟩ := a
  obtain ⟨kindB, pathB, reasonB⟩ := b
  obtain rfl : kindA = kindB := kind
  obtain rfl : pathA = pathB := String.toList_inj.mp path
  obtain rfl : reasonA = reasonB := String.toList_inj.mp (List.cons.inj rest).2
  rfl

/-- With reasons of any wording, a message can be that of two reports. -/
example : message ⟨.validationFailed, "a: b", "c"⟩ = message ⟨.validationFailed, "a", "b: c"⟩ := by
  decide

end Report

/-! ## Messages of issues -/

/-- An issue is its path and the wording of its reason. -/
theorem Issue.eq_iff {i j : Issue} :
    i.path = j.path ∧ i.reason.text = j.reason.text ↔ i = j := by
  constructor
  · rintro ⟨path, text⟩
    obtain ⟨pathI, reasonI⟩ := i
    obtain ⟨pathJ, reasonJ⟩ := j
    obtain rfl : pathI = pathJ := path
    obtain rfl : reasonI = reasonJ := Reason.text_injective text
    rfl
  · rintro rfl
    exact ⟨rfl, rfl⟩

namespace Check

variable {v w : Value}

/-- The reports of the issues that a check finds in a value. -/
def reports (v : Value) (c : Check) : List Report :=
  (c.issues v).map fun issue => (Error.validationFailed issue).report

/-- A report of a check is of a failed validation, at the path of a leaf and with
the reason of its rule. -/
theorem mem_reports {c : Check} {a : Report} :
    a ∈ c.reports v ↔ ∃ l ∈ c.leaves, ∃ reason, l.rule.failure? v = some reason ∧
      a = ⟨.validationFailed, l.path, reason.text⟩ := by
  rw [reports, issues_eq_filterMap_leaves, List.map_filterMap, List.mem_filterMap]
  refine exists_congr fun l => and_congr_right fun _ => ?_
  rw [Leaf.issue?, Option.map_map, Option.map_eq_some_iff]
  refine exists_congr fun reason => and_congr_right fun _ => ?_
  exact eq_comm

/-- So no report of a check has a colon in its reason. -/
theorem colon_not_mem_of_mem_reports {c : Check} {a : Report} (h : a ∈ c.reports v) :
    a.kind = .validationFailed ∧ ':' ∉ a.reason.toList := by
  obtain ⟨l, -, reason, -, rfl⟩ := mem_reports.mp h
  exact ⟨rfl, reason.colon_not_mem_text⟩

/-- Reports of checks that share a message are the same. -/
theorem eq_of_mem_reports {t u : Check} {a b : Report} (ha : a ∈ t.reports v)
    (hb : b ∈ u.reports w) (h : a.message = b.message) : a = b := by
  obtain ⟨kindA, reasonA⟩ := colon_not_mem_of_mem_reports ha
  obtain ⟨kindB, reasonB⟩ := colon_not_mem_of_mem_reports hb
  exact Report.eq_of_message_eq (kindA.trans kindB.symm) reasonA reasonB h

/-- **A message gives away its issue.** Reports of any checks on any values share a
message only if they are the same report, although a report may hold any texts. So
two issues, or the errors made from them, share a message exactly when they have
the same path and the same wording of the reason; and then they are one issue. -/
theorem message_eq_iff (t u : Check) (v w : Value) :
    (∀ a ∈ t.reports v, ∀ b ∈ u.reports w, a.message = b.message → a = b) ∧
      ∀ i ∈ t.issues v, ∀ j ∈ u.issues w,
        (i.message = j.message ↔ i.path = j.path ∧ i.reason.text = j.reason.text) ∧
        ((Error.validationFailed i).message = (Error.validationFailed j).message ↔
          i.path = j.path ∧ i.reason.text = j.reason.text) ∧
        (i.path = j.path ∧ i.reason.text = j.reason.text ↔ i = j) := by
  have apart : ∀ i ∈ t.issues v, ∀ j ∈ u.issues w,
      (i.message = j.message ↔ i.path = j.path ∧ i.reason.text = j.reason.text) := by
    intro i hi j hj
    refine ⟨fun same => ?_, fun alike => by rw [Issue.eq_iff.mp alike]⟩
    have report : (Error.validationFailed i).report = (Error.validationFailed j).report :=
      eq_of_mem_reports (List.mem_map_of_mem hi) (List.mem_map_of_mem hj) same
    exact ⟨congrArg Report.path report, congrArg Report.reason report⟩
  refine ⟨fun a ha b hb => eq_of_mem_reports ha hb, fun i hi j hj => ?_⟩
  have issues := apart i hi j hj
  refine ⟨issues, ?_, Issue.eq_iff⟩
  rwa [Error.message_validationFailed, Error.message_validationFailed]

/-- A rule at a path which ends like the message of another rule: the two are told
apart, and the last colon is what tells them. -/
theorem message_eq_iff_mimic :
    (⟨"a: Number is more than 5", .notOfType .integer⟩ : Issue) ∈
        (leaf "a: Number is more than 5" (.type .integer)).issues .null ∧
      (⟨"a", .outOfBound 5⟩ : Issue) ∈
        (all "b" [leaf "a" (.type .integer), leaf "a" (.bound ⟨.upper, 5, true, false⟩)]).issues
          (.integer 5) ∧
      (⟨"a: Number is more than 5", .notOfType .integer⟩ : Issue).message ≠
        (Error.validationFailed ⟨"a", .outOfBound 5⟩).message := by
  have mimic : (⟨"a: Number is more than 5", .notOfType .integer⟩ : Issue) ∈
      (leaf "a: Number is more than 5" (.type .integer)).issues .null := by
    decide +kernel
  have other : (⟨"a", .outOfBound 5⟩ : Issue) ∈
      (all "b" [leaf "a" (.type .integer), leaf "a" (.bound ⟨.upper, 5, true, false⟩)]).issues
        (.integer 5) := by
    decide +kernel
  refine ⟨mimic, other, fun same => ?_⟩
  have told := ((message_eq_iff _ _ _ _).2 _ mimic _ other).1.mp same
  exact absurd told.1 (by decide)

end Check

end Conformance
