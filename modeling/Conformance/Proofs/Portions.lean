import Conformance.Text.Blocks

/-!
# Portions — bytes that encode no text are found in any portions

Bytes that come in portions are read portion by portion, and what the end of a
portion cuts off is read with the next. Whether they encode a text does not
depend on where the portions end, `isOk_decodeFrom_append`. So a file on its way
keeps encoding a text, or keeps encoding none, through every fetch, and its
blocks end in a fault exactly where its bytes encode none. The blocks before
the fault are full, and something is left behind them.
-/


namespace Conformance

namespace Utf8

/-! ## One byte -/

/-- What a byte does: it ends a character, it goes on with a sequence, or it
fits nowhere. -/
inductive Move where
  | whole (c : Char)
  | inside (s : Open)
  | stuck (f : Fault)

/-- What a byte does behind a sequence begun, or behind a whole character. -/
def move (position : Nat) (begun : Option Open) (b : UInt8) : Move :=
  match begun with
  | none =>
    match lead position b with
    | .none => .stuck ⟨.invalidStart, b, position, 1⟩
    | .whole c => .whole c
    | .begun s => .inside s
  | some s =>
    if s.low ≤ b.toNat ∧ b.toNat ≤ s.high then
      let bits := 64 * s.bits + (b.toNat - 0x80)
      if s.owed ≤ 1 then .whole (Char.ofNat bits)
      else .inside ⟨s.octet, s.start, b :: s.behind, s.owed - 1, bits, 0x80, 0xbf⟩
    else .stuck (s.fault .invalidContinuation)

/-- The first half of a surrogate that ends a portion which is not the last. -/
def halfAtEnd (last : Bool) (begun : Option Open) (b : UInt8) (rest : List UInt8) : Bool :=
  !last && rest.isEmpty && begun.any fun s => s.isSurrogate b

/-- **Reading goes byte by byte.** Only where a byte fits nowhere does it matter
what comes behind it: it may be held back. -/
theorem decodeFrom_cons (last : Bool) (position : Nat) (begun : Option Open) (b : UInt8)
    (rest : List UInt8) :
    decodeFrom last position begun (b :: rest) = match move position begun b with
      | .whole c => (decodeFrom last (position + 1) none rest).map
          fun (text, held) => (c :: text, held)
      | .inside s => decodeFrom last (position + 1) (some s) rest
      | .stuck f => if halfAtEnd last begun b rest then .ok ([], [0xed, b]) else .error f := by
  rw [decodeFrom.eq_def]
  cases begun with
  | none =>
    dsimp only [move, halfAtEnd]
    cases lead position b <;> simp
  | some s =>
    by_cases fits : s.low ≤ b.toNat ∧ b.toNat ≤ s.high
    · simp only [move, if_pos fits]
      split <;> rfl
    · -- a surrogate is told by its first two bytes, of which the first is this one
      have atEnd : halfAtEnd last (some s) b rest =
          (!last && rest.isEmpty && s.isSurrogate b) := rfl
      simp only [move, if_neg fits]
      rw [atEnd]
      by_cases half : (!last && rest.isEmpty && s.isSurrogate b) = true
      · have octet : s.octet = 0xed := by
          simp only [Open.isSurrogate, Bool.and_eq_true, beq_iff_eq] at half
          exact half.2.1.1.1
        rw [if_pos half, if_pos half, octet]
      · rw [if_neg half, if_neg half]

/-! ## Positions -/

/-- A sequence begun, as if it stood somewhere else. -/
def Open.at (start : Nat) (s : Open) : Open := { s with start }

/-- What a byte begins, as if it stood somewhere else. -/
def Lead.at (start : Nat) : Lead → Lead
  | .none => .none
  | .whole c => .whole c
  | .begun s => .begun (s.at start)

/-- What a byte begins does not depend on where it stands. -/
theorem lead_at (p q : Nat) (b : UInt8) : lead q b = (lead p b).at q := by
  simp only [lead, apply_ite (Lead.at q)]
  rfl

/-- Nor does what a byte does. -/
theorem move_at (p q start : Nat) (begun : Option Open) (b : UInt8) :
    match move p begun b with
    | .whole c => move q (begun.map (Open.at start)) b = .whole c
    | .inside s => ∃ k, move q (begun.map (Open.at start)) b = .inside (s.at k)
    | .stuck _ => ∃ f, move q (begun.map (Open.at start)) b = .stuck f := by
  cases begun with
  | none =>
    simp only [Option.map_none, move, lead_at p q]
    cases lead p b with
    | none => exact ⟨_, rfl⟩
    | whole c => rfl
    | begun s => exact ⟨q, rfl⟩
  | some s =>
    simp only [Option.map_some, move, Open.at]
    by_cases fits : s.low ≤ b.toNat ∧ b.toNat ≤ s.high
    · simp only [if_pos fits]
      by_cases ends : s.owed ≤ 1
      · simp only [if_pos ends]
      · simp only [if_neg ends]
        exact ⟨start, rfl⟩
    · simp only [if_neg fits]
      exact ⟨_, rfl⟩

theorem isOk_map {α β : Type} (x : Except Fault α) (f : α → β) : (x.map f).isOk = x.isOk := by
  cases x <;> rfl

/-- Whether bytes are read does not depend on where they stand. -/
theorem isOk_decodeFrom_at (last : Bool) (p q start : Nat) (begun : Option Open)
    (bytes : List UInt8) :
    (decodeFrom last q (begun.map (Open.at start)) bytes).isOk =
      (decodeFrom last p begun bytes).isOk := by
  induction bytes generalizing p q start begun with
  | nil => cases begun <;> cases last <;> rfl
  | cons b rest ih =>
    have half : halfAtEnd last (begun.map (Open.at start)) b rest = halfAtEnd last begun b rest := by
      cases begun <;> rfl
    have moved := move_at p q start begun b
    rw [decodeFrom_cons, decodeFrom_cons, half]
    cases h : move p begun b with
    | whole c =>
      rw [h] at moved
      simp only [moved, isOk_map]
      exact ih (p + 1) (q + 1) 0 none
    | inside s =>
      rw [h] at moved
      obtain ⟨k, moved⟩ := moved
      simp only [moved]
      exact ih (p + 1) (q + 1) k (some s)
    | stuck f =>
      rw [h] at moved
      obtain ⟨g, moved⟩ := moved
      simp only [moved]
      split <;> rfl

theorem isOk_decodeFrom (last : Bool) (p q : Nat) (begun : Option Open) (bytes : List UInt8) :
    (decodeFrom last q begun bytes).isOk = (decodeFrom last p begun bytes).isOk := by
  cases begun with
  | none => exact isOk_decodeFrom_at last p q 0 none bytes
  | some s => exact isOk_decodeFrom_at last p q s.start (some s) bytes

/-! ## Portions -/

theorem isOk_decode (position : Nat) (bytes : List UInt8) :
    (decode bytes).isOk = (decodeFrom true position none bytes).isOk :=
  (isOk_map _ _).trans (isOk_decodeFrom true position 0 none bytes)

/-- A sequence begun stands for its bytes: reading goes on behind it as it does
behind them. -/
def Open.Reached (s : Open) : Prop :=
  ∀ position rest,
    (decode (s.octets ++ rest)).isOk = (decodeFrom true position (some s) rest).isOk

theorem octets_of_lead {position : Nat} {b : UInt8} {s : Open} (h : lead position b = .begun s) :
    s.octets = [b] := by
  unfold lead at h
  dsimp only at h
  repeat' split at h
  all_goals cases h
  all_goals rfl

/-- The bytes of what is begun, if anything is. -/
def octetsOf : Option Open → List UInt8
  | none => []
  | some s => s.octets

/-- The bytes of a sequence are those before it went on, and the one it went on with. -/
theorem octets_of_move {position : Nat} {begun : Option Open} {b : UInt8} {s : Open}
    (moved : move position begun b = .inside s) :
    s.octets = octetsOf begun ++ [b] := by
  cases begun with
  | none =>
    rw [move] at moved
    cases h : lead position b with
    | none =>
      rw [h] at moved
      cases moved
    | whole c =>
      rw [h] at moved
      cases moved
    | begun r =>
      rw [h] at moved
      cases moved
      exact octets_of_lead h
  | some r =>
    simp only [move] at moved
    split at moved
    · split at moved
      · cases moved
      · cases moved
        simp [octetsOf, Open.octets]
    · cases moved

/-- Every byte that goes on with a sequence leaves one that stands for its bytes. -/
theorem reached_of_move {position : Nat} {begun : Option Open} {b : UInt8} {s : Open}
    (reached : ∀ r ∈ begun, r.Reached) (moved : move position begun b = .inside s) :
    s.Reached := by
  intro p rest
  have before : (decode (octetsOf begun ++ b :: rest)).isOk =
      (decodeFrom true position begun (b :: rest)).isOk := by
    cases begun with
    | none => exact isOk_decode position (b :: rest)
    | some r => exact reached r rfl position (b :: rest)
  -- the byte is the last of the sequence, and the first of what came behind the one before
  rw [decodeFrom_cons, moved] at before
  rw [octets_of_move moved, List.append_assoc]
  exact before.trans (isOk_decodeFrom true p (position + 1) (some s) rest)

/-- The first half of a surrogate begins no text, whatever comes behind it. -/
theorem isOk_decode_surrogate {b : UInt8} (h : 0xa0 ≤ b) (rest : List UInt8) :
    (decode (0xed :: b :: rest)).isOk = false := by
  have tooHigh : ¬ (0x80 ≤ b.toNat ∧ b.toNat ≤ 0x9f) := by
    have low : (0xa0 : UInt8).toNat ≤ b.toNat := h
    have value : (0xa0 : UInt8).toNat = 0xa0 := rfl
    omega
  have begins : move 0 none 0xed = .inside ⟨0xed, 0, [], 2, 0xd, 0x80, 0x9f⟩ := rfl
  have stops : ∃ f, move 1 (some ⟨0xed, 0, [], 2, 0xd, 0x80, 0x9f⟩) b = .stuck f := by
    simp only [move, if_neg tooHigh]
    exact ⟨_, rfl⟩
  obtain ⟨f, stops⟩ := stops
  rw [isOk_decode 0, decodeFrom_cons, begins]
  dsimp only
  rw [decodeFrom_cons, stops]
  rfl

/-- Whether what a portion leaves encodes a text with the bytes behind it. -/
def goesOn (behind : List UInt8) : Except Fault (List Char × List UInt8) → Bool
  | .ok (_, held) => (decode (held ++ behind)).isOk
  | .error _ => false

theorem goesOn_map (behind : List UInt8) (x : Except Fault (List Char × List UInt8)) (c : Char) :
    goesOn behind (x.map fun (text, held) => (c :: text, held)) = goesOn behind x := by
  cases x <;> rfl

/-- **Where a portion ends does not matter** to whether bytes encode a text: what
the portion holds back is read with the bytes behind it. -/
theorem isOk_decodeFrom_append (position : Nat) (begun : Option Open) (bytes behind : List UInt8)
    (reached : ∀ s ∈ begun, s.Reached) :
    (decodeFrom true position begun (bytes ++ behind)).isOk =
      goesOn behind (decodeFrom false position begun bytes) := by
  induction bytes generalizing position begun with
  | nil =>
    cases begun with
    | none => exact (isOk_decode position behind).symm
    | some s => exact (reached s rfl position behind).symm
  | cons b rest ih =>
    rw [List.cons_append, decodeFrom_cons, decodeFrom_cons]
    cases moved : move position begun b with
    | whole c =>
      dsimp only
      rw [isOk_map, goesOn_map]
      exact ih (position + 1) none (by simp)
    | inside s =>
      refine ih (position + 1) (some s) fun r member => ?_
      obtain rfl : s = r := Option.some.inj member
      exact reached_of_move reached moved
    | stuck f =>
      have whole : halfAtEnd true begun b (rest ++ behind) = false := rfl
      dsimp only
      rw [whole]
      by_cases half : halfAtEnd false begun b rest = true
      · rw [if_pos half]
        -- a surrogate is held back, but it encodes nothing with any bytes
        have high : 0xa0 ≤ b := by
          simp only [halfAtEnd, Bool.and_eq_true, Option.any_eq_true, Open.isSurrogate,
            decide_eq_true_eq] at half
          obtain ⟨-, s, -, ⟨-, low⟩, -⟩ := half
          exact low
        exact (isOk_decode_surrogate high behind).symm
      · rw [if_neg half]
        rfl

/-- What comes of bytes: no character takes less than one, and of the last
portion nothing is held back. -/
theorem decodeFrom_ok {last : Bool} {position : Nat} {begun : Option Open}
    {bytes held : List UInt8} {text : List Char}
    (h : decodeFrom last position begun bytes = .ok (text, held)) :
    text.length + held.length ≤ (octetsOf begun).length + bytes.length ∧
      (last = true → held = []) := by
  induction bytes generalizing position begun text with
  | nil =>
    cases begun with
    | none =>
      cases h
      exact ⟨by simp, fun _ => rfl⟩
    | some s =>
      cases last with
      | true => cases h
      | false =>
        cases h
        exact ⟨by simp [octetsOf], fun none => by cases none⟩
  | cons b rest ih =>
    rw [decodeFrom_cons] at h
    rw [List.length_cons]
    cases moved : move position begun b with
    | whole c =>
      rw [moved] at h
      cases read : decodeFrom last (position + 1) none rest with
      | error f =>
        rw [read] at h
        cases h
      | ok found =>
        rw [read] at h
        cases h
        obtain ⟨bound, nothing⟩ := ih read
        rw [octetsOf, List.length_nil] at bound
        rw [List.length_cons]
        exact ⟨by omega, nothing⟩
    | inside s =>
      rw [moved] at h
      obtain ⟨bound, nothing⟩ := ih h
      rw [octetsOf, octets_of_move moved, List.length_append, List.length_singleton] at bound
      exact ⟨by omega, nothing⟩
    | stuck f =>
      simp only [moved] at h
      split at h
      · rename_i half
        cases h
        cases begun with
        | none => simp [halfAtEnd] at half
        | some s =>
          rw [octetsOf, Open.octets]
          simp only [List.length_cons, List.length_nil]
          refine ⟨by omega, ?_⟩
          rintro rfl
          cases half
      · cases h

end Utf8

namespace Text

/-! ## Fetching -/

theorem length_lineFeeds_le (s : List Char) : (lineFeeds s).length ≤ s.length := by
  fun_induction lineFeeds s <;> simp only [List.length_cons, List.length_nil] <;> omega

namespace Intake

/-- Whether the bytes that have not come out yet encode a text. -/
def isSound (i : Intake) : Bool := (Utf8.decode (i.heldBack ++ i.bytes)).isOk

/-- How many characters can still come out at most. -/
def extent (i : Intake) : Nat :=
  i.ready.length + i.returned.toNat + i.heldBack.length + i.bytes.length

/-- Bytes that encode no text are not none. -/
theorem extent_pos {i : Intake} (h : i.isSound = false) : 0 < i.extent := by
  rcases Nat.eq_zero_or_pos i.extent with none | some_byte
  · have empty : i.heldBack ++ i.bytes = [] := by
      rw [extent] at none
      exact List.length_eq_zero_iff.mp (by rw [List.length_append]; omega)
    rw [isSound, empty] at h
    cases h
  · exact some_byte

/-- Plain line ends take no more characters, a carriage return that is held back
counted in. -/
theorem length_plainLines_le (i : Intake) (last : Bool) (text : List Char) :
    (i.plainLines last text).1.length + (i.plainLines last text).2.toNat ≤
      text.length + i.returned.toNat := by
  unfold plainLines
  dsimp only
  generalize hpending : (i.returned && (last || !text.isEmpty)) = pending
  generalize hwhole : (if pending = true then '\r' :: text else text) = whole
  have length : whole.length + (i.returned && !pending).toNat = text.length + i.returned.toNat := by
    subst hwhole
    cases pending <;> cases h : i.returned <;> simp_all
  split
  · rename_i held
    have short := length_lineFeeds_le whole.dropLast
    have some_char : whole ≠ [] := by
      rintro rfl
      simp at held
    have one := List.length_pos_iff.mpr some_char
    rw [List.length_dropLast] at short
    simp only [Bool.toNat_true]
    omega
  · have short := length_lineFeeds_le whole
    dsimp only
    omega

theorem leastPortion_le_portion (i : Intake) (missing : Nat) :
    leastPortion ≤ i.portion missing := by
  unfold portion
  dsimp only
  split
  · exact Nat.le_refl _
  · exact Nat.le_max_left _ _

/-- The bytes that a fetch takes. -/
def fetched (i : Intake) : List UInt8 := i.bytes.take (i.portion (blockSize - i.ready.length))

/-- The bytes that it leaves. -/
def later (i : Intake) : List UInt8 := i.bytes.drop (i.portion (blockSize - i.ready.length))

theorem fetched_append_later (i : Intake) : i.fetched ++ i.later = i.bytes :=
  List.take_append_drop _ _

/-- A fetch takes nothing at the end of the file only. -/
theorem bytes_of_fetched {i : Intake} (h : i.fetched.isEmpty = true) : i.bytes = [] := by
  have fetches := leastPortion_le_portion i (blockSize - i.ready.length)
  rw [leastPortion] at fetches
  rcases List.take_eq_nil_iff.mp (List.isEmpty_iff.mp h) with none | none
  · omega
  · exact none

/-- What a fetch reads, and what becomes of it. -/
theorem fetch_eq (i : Intake) :
    i.fetch = match Utf8.decodePortion i.fetched.isEmpty (i.heldBack ++ i.fetched) with
      | .error f => .error f
      | .ok (text, held) =>
        let (text, returned) := i.plainLines i.fetched.isEmpty text
        .ok (⟨i.later, held, returned, i.ready ++ text, i.fetched.length, text.length⟩,
          i.fetched.isEmpty && text.isEmpty) := by
  unfold fetch
  change (Utf8.decodePortion i.fetched.isEmpty (i.heldBack ++ i.fetched) >>= _) = _
  cases Utf8.decodePortion i.fetched.isEmpty (i.heldBack ++ i.fetched) <;> rfl

/-- What a fetch reads decides whether the bytes encode a text. -/
theorem isSound_eq_goesOn (i : Intake) :
    i.isSound = Utf8.goesOn i.later
      (Utf8.decodePortion i.fetched.isEmpty (i.heldBack ++ i.fetched)) := by
  cases h : i.fetched.isEmpty with
  | true =>
    have ended := bytes_of_fetched h
    have nothing : i.fetched = [] := List.isEmpty_iff.mp h
    have left : i.later = [] := by rw [later, ended, List.drop_nil]
    rw [isSound, Utf8.isOk_decode 0, ended, nothing, left, Utf8.decodePortion]
    cases read : Utf8.decodeFrom true 0 none (i.heldBack ++ []) with
    | error f => rfl
    | ok found =>
      obtain ⟨text, held⟩ := found
      obtain rfl := (Utf8.decodeFrom_ok read).2 rfl
      rfl
  | false =>
    rw [isSound, Utf8.isOk_decode 0, ← fetched_append_later, ← List.append_assoc]
    exact Utf8.isOk_decodeFrom_append 0 none _ _ (by simp)

/-- **A fetch keeps everything that counts.** It fails only where the bytes encode
no text. Otherwise it does not change what they encode, and no more can come out
than before. While they encode no text the file has not ended, and every fetch
takes some of them. -/
theorem fetch_spec (i : Intake) :
    match i.fetch with
    | .error _ => i.isSound = false
    | .ok (next, ended) => next.isSound = i.isSound ∧ next.extent ≤ i.extent ∧
        (i.isSound = false → ended = false ∧ next.bytes.length < i.bytes.length) := by
  have sound := isSound_eq_goesOn i
  rw [fetch_eq]
  cases read : Utf8.decodePortion i.fetched.isEmpty (i.heldBack ++ i.fetched) with
  | error f =>
    rw [read] at sound
    exact sound
  | ok found =>
    obtain ⟨text, held⟩ := found
    rw [read] at sound
    have plain := length_plainLines_le i i.fetched.isEmpty text
    dsimp only
    generalize i.plainLines i.fetched.isEmpty text = lines at plain
    have split : i.fetched.length + i.later.length = i.bytes.length := by
      rw [← List.length_append, fetched_append_later]
    refine ⟨sound.symm, ?_, fun unsound => ?_⟩
    · have chars := (Utf8.decodeFrom_ok read).1
      simp only [Utf8.octetsOf, List.length_nil, List.length_append] at chars
      simp only [extent, List.length_append]
      omega
    · cases none : i.fetched.isEmpty with
      | true =>
        -- at the end of the file nothing is left that could encode no text
        rw [none] at read
        obtain rfl := (Utf8.decodeFrom_ok read).2 rfl
        have left : i.later = [] := by rw [later, bytes_of_fetched none, List.drop_nil]
        rw [unsound, left] at sound
        cases sound
      | false =>
        refine ⟨rfl, ?_⟩
        have some_byte : 0 < i.fetched.length :=
          List.length_pos_iff.mpr fun h => by rw [h] at none; cases none
        omega

/-- **Filling a block keeps it too**, and fills the block where the bytes encode
no text: the fetches do not run out, since each takes a byte. -/
theorem fill_spec (fuel : Nat) (i : Intake) :
    match i.fill fuel with
    | .error _ => i.isSound = false
    | .ok filled => filled.isSound = i.isSound ∧ filled.extent ≤ i.extent ∧
        (i.isSound = false → i.bytes.length < fuel → blockSize ≤ filled.ready.length) := by
  induction fuel generalizing i with
  | zero => exact ⟨rfl, Nat.le_refl _, fun _ short => absurd short (by omega)⟩
  | succ fuel ih =>
    rw [fill]
    by_cases enough : blockSize ≤ i.ready.length
    · rw [if_pos enough]
      exact ⟨rfl, Nat.le_refl _, fun _ _ => enough⟩
    · rw [if_neg enough]
      have fetched := fetch_spec i
      cases fetching : i.fetch with
      | error f =>
        rw [fetching] at fetched
        exact fetched
      | ok found =>
        obtain ⟨next, ended⟩ := found
        rw [fetching] at fetched
        obtain ⟨sound, extent, takes⟩ := fetched
        simp only [bind, Except.bind]
        cases ended with
        | true => exact ⟨sound, extent, fun unsound _ => by cases (takes unsound).1⟩
        | false =>
          have rest := ih next
          simp only [Bool.false_eq_true, if_false]
          cases filling : next.fill fuel with
          | error f =>
            rw [filling] at rest
            exact sound.symm.trans rest
          | ok filled =>
            rw [filling] at rest
            obtain ⟨sound', extent', full⟩ := rest
            refine ⟨sound'.trans sound, Nat.le_trans extent' extent, fun unsound short => ?_⟩
            have fewer := (takes unsound).2
            exact full (sound.trans unsound) (by omega)

end Intake

/-! ## Blocks -/

namespace Blocks

open Intake

/-- Blocks end in a fault where the bytes encode no text only. -/
theorem isSound_of_fault {fuel : Nat} {i : Intake} {f : Utf8.Fault}
    (h : (ofIntake fuel i).fault = some f) : i.isSound = false := by
  induction fuel generalizing i with
  | zero => cases h
  | succ fuel ih =>
    rw [ofIntake] at h
    have spec := fill_spec (i.bytes.length + 3) i
    cases filling : i.fill (i.bytes.length + 3) with
    | error g =>
      rw [filling] at spec
      exact spec
    | ok filled =>
      rw [filling] at h spec
      dsimp only at h
      split at h
      · cases h
      · have behind := ih h
        exact spec.1.symm.trans behind

/-- Where the bytes encode no text the blocks end in a fault. All of them are
full, and something is left behind them. -/
theorem exists_fault (fuel : Nat) (i : Intake) (unsound : i.isSound = false)
    (enough : i.extent < fuel) :
    ∃ f, (ofIntake fuel i).fault = some f ∧
      blockSize * (ofIntake fuel i).rows.length < i.extent := by
  induction fuel generalizing i with
  | zero => omega
  | succ fuel ih =>
    rw [ofIntake]
    have spec := fill_spec (i.bytes.length + 3) i
    cases filling : i.fill (i.bytes.length + 3) with
    | error f => exact ⟨f, rfl, by simpa using extent_pos unsound⟩
    | ok filled =>
      rw [filling] at spec
      obtain ⟨sound, extent, full⟩ := spec
      have block := full unsound (by omega)
      have pos : 0 < blockSize := by decide
      have some_char : filled.ready.isEmpty = false := by
        rw [List.isEmpty_eq_false_iff, ← List.length_pos_iff]
        omega
      -- what is left behind the block is less by a block, which pays for the fuel
      let left : Intake := { filled with ready := filled.ready.drop blockSize }
      have less : left.extent + blockSize = filled.extent := by
        simp only [left, Intake.extent, List.length_drop]
        omega
      obtain ⟨f, fault, rows⟩ := ih left (sound.trans unsound) (by omega)
      refine ⟨f, ?_, ?_⟩
      · simp only [some_char]
        exact fault
      · simp only [some_char, Bool.false_eq_true, if_false, List.length_cons]
        change blockSize * ((ofIntake fuel left).rows.length + 1) < i.extent
        rw [Nat.mul_succ]
        omega

/-- **The blocks of a file end in a fault exactly where its bytes encode no
text.** -/
theorem fault_ofBytes_isSome (bytes : List UInt8) :
    (ofBytes bytes).fault.isSome = !(Utf8.decode bytes).isOk := by
  cases sound : (Utf8.decode bytes).isOk with
  | true =>
    cases fault : (ofBytes bytes).fault with
    | none => rfl
    | some f =>
      have unsound := isSound_of_fault fault
      have same : isSound { bytes } = (Utf8.decode bytes).isOk := rfl
      rw [same, sound] at unsound
      cases unsound
  | false =>
    obtain ⟨f, fault, -⟩ := exists_fault (bytes.length + 1) { bytes } sound
      (by simp [Intake.extent])
    rw [ofBytes, fault]
    rfl

/-- The blocks before the fault are full, and something is left behind them. -/
theorem length_rows_ofBytes {bytes : List UInt8} (h : (Utf8.decode bytes).isOk = false) :
    blockSize * (ofBytes bytes).rows.length < bytes.length := by
  obtain ⟨f, -, rows⟩ := exists_fault (bytes.length + 1) { bytes } h (by simp [Intake.extent])
  rw [ofBytes]
  simpa [Intake.extent] using rows

end Blocks

end Text

end Conformance
