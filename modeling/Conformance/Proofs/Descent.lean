import Conformance.Logging
import Mathlib.Data.List.Infix

/-!
# Descent — the way from a logger to the root

What a record of a logger meets on its way to the root. The way leads through
beginnings of the logger's name, each shorter than the one before it, so it
comes to none of them twice: `nodup_lineage`. Two things keep a beginning off
the way. An empty part right behind it leads past it, and where it is a
shaded name, one part that the root's name begins with, it is missed by the
loggers that were early. `mem_lineage_of_prefix` says that nothing else does.
Nothing but the names of loggers that are shaded can tell in which order
loggers became known, `Alike.lineage`, and plain names cannot tell which loggers are
known at all, `lineage_of_plain`. A record depends on the loggers on its way
and on nothing else, `AlikeAbove.emit`.
-/


namespace Conformance

namespace Logging

namespace LoggerName

/-- A name of one part that the name of the root begins with. -/
def isShaded : LoggerName → Bool
  | [part] => beginsRoot part
  | _ => false

theorem isShaded_iff {name : LoggerName} :
    name.isShaded = true ↔ ∃ part, name = [part] ∧ beginsRoot part = true := by
  unfold isShaded
  split <;> simp_all

/-- A name whose way to the root is the same whatever loggers are known: no part of
it is empty, and it is not below a shaded one. -/
def IsPlain (name : LoggerName) : Prop := "" ∉ name ∧ isShaded (name.take 1) = false

instance (name : LoggerName) : Decidable name.IsPlain := inferInstanceAs (Decidable (_ ∧ _))

end LoggerName

namespace Kinship

variable {k l : Kinship} {name other below : LoggerName} {parts : List String}

/-! ## What becomes early -/

/-- A logger that is made known makes those below it early that were known
before. -/
theorem isEarly_add (k : Kinship) (name other : LoggerName) :
    (k.add name).isEarly other =
      (k.isEarly other ||
        (!k.isKnown name && (name.length == 1 && name.isPrefixOf other && k.isKnown other))) := by
  unfold add
  by_cases h : k.isKnown name = true
  · simp [h]
  · simp [h]

theorem isKnown_add_of_isKnown (h : k.isKnown other = true) : (k.add name).isKnown other = true := by
  simp [isKnown_add, h]

/-- Once a logger is known, no logger below it becomes early any more. -/
theorem isEarly_add_of_isKnown (known : k.isKnown name = true) (below : name <+: other)
    (alone : name.length = 1) (new : LoggerName) :
    (k.add new).isEarly other = k.isEarly other := by
  rw [isEarly_add]
  by_cases single : new.length = 1 ∧ new <+: other
  · -- a new first part of the same name is that logger itself
    have : new = name := by
      obtain ⟨rest, rfl⟩ := below
      exact (List.prefix_of_prefix_length_le single.2 (List.prefix_append name rest)
        (by omega)).eq_of_length (by omega)
    simp [this, known]
  · have : (new.length == 1 && new.isPrefixOf other) = false := by
      simpa [Bool.eq_false_iff] using single
    simp [this]

/-! ## The way gets shorter -/

/-- What comes behind a name on the way to the root is shorter. -/
theorem pairwise_climb (k : Kinship) (below : LoggerName) (parts : List String) :
    (k.climb below parts).Pairwise fun a b => b.length < a.length := by
  fun_induction climb k below parts with
  | case1 => simp
  | case2 => simp
  | case3 below last _ => simp [LoggerName.root]
  | case4 below last next rest name _ far near =>
    refine List.pairwise_cons.mpr ⟨fun other h => ?_, ?_⟩
    · have shorter : other.length ≤ (next :: rest).length := by
        split at h
        · have := (prefix_of_mem_climb h).length_le
          rw [List.length_reverse] at this
          exact this.trans (by simp)
        · have := (prefix_of_mem_climb h).length_le
          rwa [List.length_reverse] at this
      simp only [name, List.length_reverse, List.length_cons] at shorter ⊢
      omega
    · split
      · exact far
      · exact near

/-- **The way to the root meets no logger twice.** -/
theorem nodup_lineage (k : Kinship) (name : LoggerName) : (k.lineage name).Nodup :=
  (pairwise_climb k name name.reverse).imp fun {a b} shorter same => by
    rw [same] at shorter
    exact absurd shorter (lt_irrefl _)

/-! ## What is on the way -/

/-- The way goes on from the nearest known logger, whichever that is. -/
theorem prefix_nearer {start : LoggerName} {known : Prop} [Decidable known] (h : start <+: name)
    (on : name <+: below) : start <+: if known then name else below := by
  split
  · exact h
  · exact h.trans on

theorem mem_climb_of_prefix (mem : other <+: parts.reverse) (on : parts.reverse <+: below)
    (gap : other ++ [""] <+: parts.reverse → k.isKnown (other ++ [""]) = true)
    (late : other.isShaded = true → ∀ m, other <+: m → k.isEarly m = false) :
    other ∈ k.climb below parts := by
  fun_induction climb k below parts with
  | case1 => simpa [LoggerName.root] using mem
  | case2 below last missed =>
    obtain ⟨-, shaded, early⟩ := missed
    have mem : other <+: [] ++ [last] := mem
    rcases List.prefix_concat_iff.mp mem with rfl | mem
    · -- a shaded name is missed only by what is early below it
      have := late (LoggerName.isShaded_iff.mpr ⟨last, rfl, shaded⟩) below on
      rw [this] at early
      cases early
    · simpa [LoggerName.root] using mem
  | case3 below last _ =>
    have mem : other <+: [] ++ [last] := mem
    rcases List.prefix_concat_iff.mp mem with rfl | mem
    · exact List.mem_cons_self
    · simpa [LoggerName.root] using Or.inr (List.prefix_nil.mp mem)
  | case4 below last next rest name nearer far near =>
    have up : (next :: rest).reverse <+: name := List.reverse_prefix.mpr (List.suffix_cons _ _)
    have leap : rest.reverse <+: name :=
      (List.reverse_prefix.mpr (List.suffix_cons next rest)).trans up
    have shape : name = (next :: rest).reverse ++ [last] := List.reverse_cons
    rw [show (last :: next :: rest).reverse = name from rfl, shape] at mem
    rcases List.prefix_concat_iff.mp mem with whole | above
    · rw [whole, ← shape]
      exact List.mem_cons_self
    refine List.mem_cons_of_mem _ ?_
    split
    case isFalse => exact near above (prefix_nearer up on) fun h => gap (h.trans up)
    case isTrue skipped =>
      simp only [Bool.and_eq_true, decide_eq_true_eq, Bool.not_eq_true'] at skipped
      obtain ⟨empty, unknown⟩ := skipped
      rw [List.reverse_cons] at above
      rcases List.prefix_concat_iff.mp above with whole | beyond
      · -- the name that is led past is the one with the empty part behind it
        have led : other ++ [""] = name := by rw [whole, shape, empty, List.reverse_cons]
        rw [led] at gap
        rw [gap List.prefix_rfl] at unknown
        cases unknown
      · exact far beyond (prefix_nearer leap on) fun h => gap (h.trans leap)

/-- **What keeps a beginning of a name off the way.** It is an empty part
right behind it, unless the name with this part is known, or a shaded name
that loggers below it were known before. -/
theorem mem_lineage_of_prefix (mem : other <+: name)
    (gap : other ++ [""] <+: name → k.isKnown (other ++ [""]) = true)
    (late : other.isShaded = true → ∀ m, other <+: m → k.isEarly m = false) :
    other ∈ k.lineage name := by
  have back : name.reverse.reverse = name := List.reverse_reverse name
  refine mem_climb_of_prefix ?_ ?_ ?_ late
  · rwa [back]
  · rw [back]
  · rwa [back]

/-! ## What the way depends on -/

theorem climb_congr (known : ∀ m, m <+: name → k.isKnown m = l.isKnown m)
    (early : ∀ top m, LoggerName.isShaded top = true → top <+: m → m <+: name →
      k.isEarly m = l.isEarly m)
    (on : parts.reverse <+: below) (within : below <+: name) :
    k.climb below parts = l.climb below parts := by
  fun_induction Kinship.climb k below parts with
  | case1 => rfl
  | case2 below last missed =>
    obtain ⟨other, shaded, isEarly⟩ := missed
    rw [early [last] below shaded on within] at isEarly
    rw [Kinship.climb, if_pos ⟨other, shaded, isEarly⟩]
  | case3 below last met =>
    rw [Kinship.climb, if_neg]
    rintro ⟨other, shaded, isEarly⟩
    rw [← early [last] below shaded on within] at isEarly
    exact met ⟨other, shaded, isEarly⟩
  | case4 below last next rest whole nearer far near =>
    have up : (next :: rest).reverse <+: whole := List.reverse_prefix.mpr (List.suffix_cons _ _)
    have leap : rest.reverse <+: whole :=
      (List.reverse_prefix.mpr (List.suffix_cons next rest)).trans up
    have within' : nearer <+: name := by
      unfold nearer
      split
      · exact on.trans within
      · exact within
    rw [Kinship.climb, ← known whole (on.trans within), ← far (prefix_nearer leap on) within',
      ← near (prefix_nearer up on) within']

/-- **The way of a name depends on its beginnings only**: on which of them are
known, and which are early below a shaded name. -/
theorem lineage_congr (known : ∀ m, m <+: name → k.isKnown m = l.isKnown m)
    (early : ∀ top m, LoggerName.isShaded top = true → top <+: m → m <+: name →
      k.isEarly m = l.isEarly m) :
    k.lineage name = l.lineage name := by
  refine climb_congr known early ?_ List.prefix_rfl
  rw [List.reverse_reverse]

theorem climb_of_plain (k l : Kinship) (below below' : LoggerName) (full : "" ∉ parts)
    (bare : LoggerName.isShaded (parts.reverse.take 1) = false) :
    k.climb below parts = l.climb below' parts := by
  induction parts generalizing below below' with
  | nil => rfl
  | cons last before ih =>
    cases before with
    | nil =>
      have plain : ¬ LoggerName.beginsRoot last = true := by
        simpa [LoggerName.isShaded] using bare
      rw [climb, climb, if_neg fun missed => plain missed.2.1,
        if_neg fun missed => plain missed.2.1]
    | cons next rest =>
      have last_full : ¬ last = "" := fun empty => full (by simp [empty])
      have first : (last :: next :: rest).reverse.take 1 = (next :: rest).reverse.take 1 := by
        rw [List.reverse_cons, List.take_append_of_le_length (by simp)]
      -- no part is led past, so the way goes on from the name before it
      have up (m : Kinship) (b : LoggerName) : ∃ b', m.climb b (last :: next :: rest) =
          (last :: next :: rest).reverse :: m.climb b' (next :: rest) := by
        rw [climb, if_neg (by simp [last_full])]
        exact ⟨_, rfl⟩
      obtain ⟨b, hk⟩ := up k below
      obtain ⟨b', hl⟩ := up l below'
      rw [hk, hl, ih b b' (fun mem => full (List.mem_cons_of_mem _ mem)) (first ▸ bare)]

/-- **The way of a plain name is always the same.** -/
theorem lineage_of_plain (k l : Kinship) (plain : name.IsPlain) :
    k.lineage name = l.lineage name := by
  refine climb_of_plain k l name name (fun mem => plain.1 (List.mem_reverse.mp mem)) ?_
  rw [List.reverse_reverse]
  exact plain.2

/-- Two kinships that no way can tell apart: the same loggers are known, and
below shaded names the same ones are early. -/
structure Alike (k l : Kinship) : Prop where
  known : ∀ name, k.isKnown name = l.isKnown name
  early : ∀ top name, LoggerName.isShaded top = true → top <+: name →
    k.isEarly name = l.isEarly name

/-- Kinships stay alike. -/
theorem Alike.add (h : Alike k l) (name : LoggerName) : Alike (k.add name) (l.add name) where
  known other := by rw [isKnown_add, isKnown_add, h.known]
  early top other shaded mem := by
    rw [isEarly_add, isEarly_add, h.known, h.known, h.early top other shaded mem]

/-- **Ways lead the same way where kinships are alike.** -/
theorem Alike.lineage (h : Alike k l) (name : LoggerName) : k.lineage name = l.lineage name :=
  lineage_congr (fun m _ => h.known m) fun top m shaded mem _ => h.early top m shaded mem

/-- Two loggers become known in either order, unless one of them is shaded
and the other below it. -/
theorem add_comm_alike (k : Kinship) {m n : LoggerName} (distinct : m ≠ n)
    (hm : ¬ (m.isShaded = true ∧ m <+: n)) (hn : ¬ (n.isShaded = true ∧ n <+: m)) :
    Alike ((k.add m).add n) ((k.add n).add m) where
  known name := by
    simp only [isKnown_add]
    exact Bool.or_left_comm _ _ _
  early top name shaded mem := by
    obtain ⟨part, rfl, first⟩ := LoggerName.isShaded_iff.mp shaded
    -- only a shaded name makes early what stands below a shaded name
    have only {new old : LoggerName} (h : ¬ (new.isShaded = true ∧ new <+: old))
        (below : [part] <+: old) : (new.length == 1 && new.isPrefixOf old) = false := by
      rw [Bool.eq_false_iff]
      intro both
      simp only [Bool.and_eq_true, beq_iff_eq, List.isPrefixOf_iff_prefix] at both
      refine h ⟨?_, both.2⟩
      have : new = [part] :=
        (List.prefix_of_prefix_length_le both.2 below (by simp [both.1])).eq_of_length
          (by simp [both.1])
      rwa [this]
    have apart (old new : LoggerName) (ne : old ≠ new) : (k.add new).isKnown old = k.isKnown old := by
      simp [isKnown_add, ne]
    simp only [isEarly_add, apart m n distinct, apart n m distinct.symm]
    -- the names themselves are early for nothing but the other of the two
    by_cases atM : name = m
    · rw [atM] at mem ⊢
      simp [only hn mem, apart m n distinct]
    by_cases atN : name = n
    · rw [atN] at mem ⊢
      simp [only hm mem, apart n m distinct.symm]
    rw [apart name m atM, apart name n atN, Bool.or_right_comm]

end Kinship

namespace Loggers

variable {s t : Loggers} {name : LoggerName}

/-! ## What a record depends on -/

/-- Loggers that are alike to the records of one: its way to the root is the
same, and so are the loggers on it. -/
structure AlikeAbove (name : LoggerName) (s t : Loggers) : Prop where
  way : s.lineage name = t.lineage name
  logger : ∀ other ∈ s.lineage name, s.logger other = t.logger other

theorem AlikeAbove.effective (h : AlikeAbove name s t) : s.effective name = t.effective name := by
  have levels : (s.lineage name).map (fun other => (s.logger other).level) =
      (t.lineage name).map fun other => (t.logger other).level := by
    rw [← h.way]
    exact List.map_congr_left fun other on => by rw [h.logger other on]
  rw [Loggers.effective, Loggers.effective, levels]

theorem AlikeAbove.reach (h : AlikeAbove name s t) : s.reach name = t.reach name := by
  rw [Loggers.reach, Loggers.reach, ← h.way]
  exact List.flatMap_congr fun other on => by rw [h.logger other on]

theorem AlikeAbove.admits (h : AlikeAbove name s t) (n : Level) :
    s.admits name n = t.admits name n := by
  rw [Loggers.admits, Loggers.admits, h.effective]

theorem AlikeAbove.dispatch {r : Record} (h : AlikeAbove r.logger s t) :
    s.dispatch r = t.dispatch r := by
  rw [Loggers.dispatch, Loggers.dispatch, h.reach]

/-- **A record is written alike** where the loggers on its way are. -/
theorem AlikeAbove.emit {r : Record} (h : AlikeAbove r.logger s t) : s.emit r = t.emit r := by
  rw [Loggers.emit, Loggers.emit, h.admits, h.dispatch]

end Loggers

end Logging

end Conformance
