import Conformance.Proofs.Options
import Conformance.Proofs.Portions
import Conformance.Settings.File

/-!
# Loading — what comes of a file

Loading is to give settings or to refuse, and a refusal is about the path, or
else about an option with a value that it cannot have, which it names. So it
goes for any reader of documents that keeps to what is known of one,
`Loader.Keeps`, wherever the path can be that of a file, the bytes encode a text
and the keys of the document can be looked at: `ofFile_promised_iff_readable`.
Bytes that encode none are a failure of another kind and no refusal at all. It
comes at once if the file has no more bytes than a portion. In a longer file the
text before them may be refused first. The reader that is used keeps to this
wherever every scalar stands for a value of its tag, `keeps_read`.
-/


namespace Conformance

namespace Yaml

/-! ## Readers of documents -/

/-- What is known of a reader that is given some blocks. -/
structure Loader.Keeps (load : Loader) (blocks : Text.Blocks) : Prop where
  /-- Of a text it gives a value, or else the text is malformed. -/
  settles : blocks.fault = none →
    (∃ document, load blocks = .ok document) ∨ ∃ text, load blocks = .error (.malformed text)
  /-- It asks for two blocks before all else, and fails with the bytes at fault if
  they are among these. -/
  begins : ∀ f, blocks.fault = some f → blocks.rows.length < 2 →
    load blocks = .error (.undecodable f)

variable {depth : Nat} {blocks : Text.Blocks} {f : Utf8.Fault}

/-- Bytes at fault are those that the blocks end in. -/
theorem fault_of_read (h : read depth blocks = .error (.undecodable f)) :
    blocks.fault = some f := by
  rw [read] at h
  cases made : ofSource depth (.ofBlocks blocks) with
  | ok value =>
    rw [made] at h
    cases h
  | error fault =>
    rw [made] at h
    have same : fault.inFile blocks = .undecodable f := Except.error.inj h
    cases fault with
    | malformed => cases same
    | unrepresentable misfit => cases same
    | brokenOff =>
      -- no step of reading knows the bytes, so their fault comes from the blocks
      rw [Fault.inFile] at same
      cases behind : blocks.fault with
      | none =>
        rw [behind] at same
        cases same
      | some g =>
        rw [behind] at same
        cases same
        rfl

/-- Two blocks arrive at once, so of a text that breaks off within them nothing
arrives. -/
theorem ofBlocks_of_early_fault (fault : blocks.fault.isSome = true)
    (early : blocks.rows.length < 2) :
    Source.ofBlocks blocks = { rest := [], behind := some .brokenOff } := by
  obtain ⟨f, fault⟩ := Option.isSome_iff_exists.mp fault
  have nothing : (blocks.fault.isSome && decide (blocks.rows.length < 2)) = true := by
    rw [fault]
    simpa using early
  rw [Source.ofBlocks, if_pos (by simpa using nothing)]
  rw [fault]
  rfl

/-- Reading a file fails for bytes at fault within its first two blocks. -/
theorem read_of_early_fault (fault : blocks.fault = some f) (early : blocks.rows.length < 2) :
    read depth blocks = .error (.undecodable f) := by
  have breaks : ofSource depth { rest := [], behind := some .brokenOff } = .error .brokenOff := rfl
  rw [read, ofBlocks_of_early_fault (by rw [fault]; rfl) early, breaks]
  simp only [Except.mapError, Fault.inFile, fault]
  rfl

/-- **The reader that is used keeps to what is known of readers** where it comes
upon no misfit. -/
theorem keeps_read (fitting : ∀ misfit, read depth blocks ≠ .error (.unrepresentable misfit)) :
    Loader.Keeps (read depth) blocks where
  settles sound := by
    cases found : read depth blocks with
    | ok document => exact .inl ⟨document, rfl⟩
    | error fault =>
      cases fault with
      | malformed text => exact .inr ⟨text, rfl⟩
      | undecodable f =>
        rw [fault_of_read found] at sound
        cases sound
      | unrepresentable misfit => exact absurd found (fitting misfit)
  begins _ fault early := read_of_early_fault fault early

end Yaml

namespace Settings

/-! ## What loading is to give -/

theorem eq_of_mem_mistyped {options : Value} {name type : String} {isTyped : Value → Bool}
    {complaint : String × String} (h : complaint ∈ mistyped options name type isTyped) :
    complaint.1 = name := by
  unfold mistyped at h
  split at h
  · cases h
  · split at h
    · cases h
    · rw [List.mem_singleton.mp h]

/-- Every complaint is about a field. -/
theorem exists_field_of_complaint {options : Value} {complaint : String × String}
    (h : complaint ∈ complaints options) : ∃ f : Field, complaint.1 = f.name := by
  simp only [complaints, List.mem_append] at h
  rcases h with path | bounds | level | empty | nameless
  · exact ⟨.rootPath, eq_of_mem_mistyped path⟩
  · exact ⟨.realNumberBounds, eq_of_mem_mistyped bounds⟩
  · exact ⟨.logLevel, eq_of_mem_mistyped level⟩
  · rw [emptyPath_eq] at empty
    split at empty
    · exact ⟨.rootPath, by rw [List.mem_singleton.mp empty]; rfl⟩
    · cases empty
  · rw [namelessLevel_eq] at nameless
    split at nameless
    · cases nameless
    · exact ⟨.logLevel, by rw [List.mem_singleton.mp nameless]; rfl⟩

/-- Whether options can be looked at by their keys: each key has a text, and none
is wrapped where all of them name options. -/
def KeysFit (entries : List (Value × Value)) : Prop :=
  (∀ entry ∈ entries, entry.1.isLegible = true) ∧
    (strangers entries = [] → ∀ entry ∈ entries, isWrapped entry.1 = false)

/-- What a file gives: the defaults if it holds no document, or what its options
say if there is nothing to complain about. -/
def Gives (load : Yaml.Loader) (state : FileState) (s : Settings) : Prop :=
  ∃ bytes, state = .content bytes ∧
    (load (.ofBytes bytes) = .ok .null ∧ s = {} ∨
      ∃ form entries, load (.ofBytes bytes) = .ok (.object form entries) ∧
        strangers entries = [] ∧ complaints (.object form entries) = [] ∧
        s = settingsOf (.object form entries))

/-- What loading is to come to: the settings that the file gives, or a refusal at a
place if it gives none. The place is the path in its plainest form, or else a
field, that of the first complaint about the options of the document. -/
def Promised (load : Yaml.Loader) (path : String) (state : FileState) :
    Except LoadFault Settings → Prop
  | .ok s => Gives load state s
  | .error (.refusal r) => (∀ s, ¬ Gives load state s) ∧ ∃ place reason,
      (Error.configuration r).report = ⟨.configuration, place, reason⟩ ∧
        (place = Text.plainPath path ∨ ∃ bytes form entries, state = .content bytes ∧
          load (.ofBytes bytes) = .ok (.object form entries) ∧
          (complaints (.object form entries)).head? = some (place, reason) ∧
          ∃ f : Field, place = f.name)
  | .error _ => False

/-- Whether the path can be that of a file, and what stands there, if it is a
file, encodes a text whose options can be looked at. -/
def Readable (load : Yaml.Loader) (path : String) (state : FileState) : Prop :=
  '\x00' ∉ path.toList ∧ ∀ bytes, state = .content bytes → (Utf8.decode bytes).isOk = true ∧
    ∀ form entries, load (.ofBytes bytes) = .ok (.object form entries) → KeysFit entries

variable {load : Yaml.Loader} {path : String} {state : FileState} {bytes : List UInt8}
variable {form : ObjectForm} {entries : List (Value × Value)}

/-! ## Options in a file -/

/-- Options whose keys fit are those of a mapping. -/
theorem ofOptions_of_keysFit (source : String) (fit : KeysFit entries) :
    ofOptions source (.object form entries) =
      (ofMapping source (.object form entries)).mapError .refusal :=
  ofOptions_eq_ofMapping fit.1 fun unknown => fit.2 (unknownNames_eq_nil_iff.mp unknown)

/-- Options whose keys do not fit are neither taken nor refused. -/
theorem ofOptions_of_not_keysFit (source : String) (unfit : ¬ KeysFit entries) :
    ofOptions source (.object form entries) = .error .overlongKey ∨
      ofOptions source (.object form entries) = .error .wrappedName := by
  by_cases legible : ∀ entry ∈ entries, entry.1.isLegible = true
  · -- the keys have texts, so all of them name options and one is wrapped
    obtain ⟨familiar, wrapped⟩ : strangers entries = [] ∧
        ¬ ∀ entry ∈ entries, isWrapped entry.1 = false :=
      Classical.not_imp.mp fun native => unfit ⟨legible, native⟩
    have written : entries.any (fun entry => !entry.1.isLegible) = false :=
      List.any_eq_false.mpr fun entry member => by simp [legible entry member]
    have some_wrapped : entries.any (fun entry => isWrapped entry.1) = true := by
      simpa using wrapped
    refine .inr ?_
    simp [ofOptions, entriesOf, written, unknownNames_eq_nil_iff.mpr familiar, some_wrapped]
  · obtain ⟨entry, member, overlong⟩ : ∃ entry ∈ entries, ¬ entry.1.isLegible = true := by
      simpa using legible
    exact .inl (ofOptions_of_overlong member (Bool.eq_false_iff.mpr overlong))

/-! ## What loading comes to -/

/-- A refusal for the path keeps to it where the file gives nothing. -/
theorem promised_of_path (nothing : ∀ s, ¬ Gives load state s) (fault : Fault) :
    Promised load path state (.error (.refusal ⟨Text.plainPath path, fault⟩)) :=
  ⟨nothing, _, _, rfl, .inl rfl⟩

/-- What a file gives is what its document does. -/
theorem gives_content_iff {document : Value} {s : Settings}
    (read : load (.ofBytes bytes) = .ok document) :
    Gives load (.content bytes) s ↔ document = .null ∧ s = {} ∨
      ∃ form entries, document = .object form entries ∧ strangers entries = [] ∧
        complaints document = [] ∧ s = settingsOf document := by
  unfold Gives
  constructor
  · rintro ⟨_, content, given⟩
    obtain rfl := FileState.content.inj content
    rcases given with ⟨empty, rfl⟩ | ⟨form, entries, mapping, familiar, sound, rfl⟩
    · obtain rfl := Except.ok.inj (read.symm.trans empty)
      exact .inl ⟨rfl, rfl⟩
    · obtain rfl := Except.ok.inj (read.symm.trans mapping)
      exact .inr ⟨form, entries, rfl, familiar, sound, rfl⟩
  · rintro (⟨rfl, rfl⟩ | ⟨form, entries, rfl, familiar, sound, rfl⟩)
    · exact ⟨bytes, rfl, .inl ⟨read, rfl⟩⟩
    · exact ⟨bytes, rfl, .inr ⟨form, entries, read, familiar, sound, rfl⟩⟩

/-- What comes of options keeps to it too: they are refused for the path, or for the
first complaint about one of them. -/
theorem promised_of_options (read : load (.ofBytes bytes) = .ok (.object form entries))
    (fit : KeysFit entries) :
    Promised load path (.content bytes)
      (ofDocument (Text.plainPath path) (.object form entries)) := by
  rw [ofDocument, ofOptions_of_keysFit _ fit]
  by_cases strange : strangers entries = []
  · rw [ofMapping_of_familiar _ strange]
    have settles := ofValues_settles (.object form entries)
    cases listed : complaints (.object form entries) with
    | nil =>
      rw [listed] at settles
      have given : (ofValues fun f => (Value.object form entries).get? f.name) =
        .ok (settingsOf (.object form entries)) := settles
      rw [given]
      exact (gives_content_iff read).mpr (.inr ⟨form, entries, rfl, strange, listed, rfl⟩)
    | cons complaint more =>
      obtain ⟨place, reason⟩ := complaint
      rw [listed] at settles
      obtain ⟨r, refused, rfl, rfl⟩ := settles
      rw [refused]
      obtain ⟨f, about⟩ := exists_field_of_complaint (listed ▸ List.mem_cons_self)
      refine ⟨fun s gives => ?_, _, _, rfl,
        .inr ⟨bytes, form, entries, rfl, read, by rw [listed]; rfl, f, about⟩⟩
      rcases (gives_content_iff read).mp gives with ⟨none, -⟩ | ⟨_, _, -, -, sound, -⟩
      · cases none
      · rw [listed] at sound
        cases sound
  · rw [ofMapping_of_strangers _ strange]
    refine promised_of_path (fun s gives => ?_) _
    rcases (gives_content_iff read).mp gives with ⟨none, -⟩ | ⟨_, _, same, familiar, -, -⟩
    · cases none
    · cases same
      exact strange familiar

/-- And so does what comes of any document whose options fit. -/
theorem promised_of_document {document : Value} (read : load (.ofBytes bytes) = .ok document)
    (fit : ∀ form entries, document = .object form entries → KeysFit entries) :
    Promised load path (.content bytes) (ofDocument (Text.plainPath path) document) := by
  cases document with
  | null => exact (gives_content_iff read).mpr (.inl ⟨rfl, rfl⟩)
  | object form entries => exact promised_of_options read (fit form entries rfl)
  | _ =>
    refine promised_of_path (fun s gives => ?_) _
    rcases (gives_content_iff read).mp gives with ⟨none, -⟩ | ⟨_, _, same, -, -, -⟩
    · cases none
    · cases same

/-- **What can be read is loaded or refused.** -/
theorem promised_of_readable (readable : Readable load path state)
    (keeps : ∀ bytes, state = .content bytes → load.Keeps (.ofBytes bytes)) :
    Promised load path state (ofFile load path state) := by
  obtain ⟨real, text⟩ := readable
  have bare {state : FileState} (noFile : ∀ bytes, state ≠ .content bytes) (s : Settings) :
      ¬ Gives load state s := by
    rintro ⟨bytes, content, -⟩
    exact noFile bytes content
  rw [ofFile, if_neg (by simpa using real)]
  cases state with
  | missing => exact promised_of_path (bare fun bytes => by rintro ⟨⟩) _
  | directory => exact promised_of_path (bare fun bytes => by rintro ⟨⟩) _
  | tooLong => exact promised_of_path (bare fun bytes => by rintro ⟨⟩) _
  | content bytes =>
    obtain ⟨decodes, fit⟩ := text bytes rfl
    -- the blocks of a text have no bytes at fault
    have whole : (Text.Blocks.ofBytes bytes).fault = none := by
      have behind := Text.Blocks.fault_ofBytes_isSome bytes
      rw [decodes] at behind
      simpa using behind
    dsimp only
    rcases (keeps bytes rfl).settles whole with ⟨document, read⟩ | ⟨reason, read⟩
    · rw [read]
      exact promised_of_document read fun form entries same => fit form entries (same ▸ read)
    · rw [read]
      refine promised_of_path ?_ _
      rintro s ⟨_, content, given⟩
      obtain rfl := FileState.content.inj content
      rcases given with ⟨empty, -⟩ | ⟨_, _, mapping, -⟩
      · rw [read] at empty
        cases empty
      · rw [read] at mapping
        cases mapping

/-- Bytes that encode no text are met at once in a file that is no longer than a
portion. -/
theorem exists_undecodable (real : '\x00' ∉ path.toList)
    (keeps : load.Keeps (.ofBytes bytes)) (short : bytes.length ≤ Text.Intake.leastPortion)
    (h : (Utf8.decode bytes).isOk = false) :
    ∃ f, ofFile load path (.content bytes) = .error (.undecodable f) := by
  have behind := Text.Blocks.fault_ofBytes_isSome bytes
  rw [h] at behind
  obtain ⟨f, fault⟩ := Option.isSome_iff_exists.mp behind
  -- two full blocks and a byte that is left would be more than a portion
  have early : (Text.Blocks.ofBytes bytes).rows.length < 2 := by
    have full := Text.Blocks.length_rows_ofBytes h
    rw [Text.Intake.leastPortion] at short
    rw [Text.Intake.blockSize] at full
    omega
  refine ⟨f, ?_⟩
  rw [ofFile, if_neg (by simpa using real)]
  simp only [keeps.begins f fault early]

/-- Nor is a file refused whose options have keys that do not fit. -/
theorem not_promised_of_not_keysFit (real : '\x00' ∉ path.toList)
    (read : load (.ofBytes bytes) = .ok (.object form entries)) (unfit : ¬ KeysFit entries) :
    ¬ Promised load path (.content bytes) (ofFile load path (.content bytes)) := by
  rw [ofFile, if_neg (by simpa using real)]
  dsimp only
  rw [read]
  dsimp only
  rw [ofDocument]
  rcases ofOptions_of_not_keysFit (Text.plainPath path) unfit with overlong | wrapped
  · rw [overlong]
    exact id
  · rw [wrapped]
    exact id

/-- **Loading gives settings or a refusal where there is a text to read.** Whatever
reads the document, as long as it keeps to what is known of readers: if the path can
be that of a file, and a file there encodes a text and its options have keys that
fit, what comes of it is what the file gives, or a refusal at the path or at the
option that is first complained about. Otherwise loading fails in another way, in
every file that encodes a text or is no longer than a portion. -/
theorem ofFile_promised_iff_readable (load : Yaml.Loader) (path : String) (state : FileState)
    (keeps : ∀ bytes, state = .content bytes → load.Keeps (.ofBytes bytes)) :
    (Readable load path state → Promised load path state (ofFile load path state)) ∧
      ((∀ bytes, state = .content bytes →
          (Utf8.decode bytes).isOk = true ∨ bytes.length ≤ Text.Intake.leastPortion) →
        (Promised load path state (ofFile load path state) ↔ Readable load path state)) := by
  have kept (readable : Readable load path state) :
      Promised load path state (ofFile load path state) := promised_of_readable readable keeps
  refine ⟨kept, fun met => ⟨fun promised => ?_, kept⟩⟩
  by_cases real : '\x00' ∈ path.toList
  · have stops : ofFile load path state = .error .nulInPath := by
      rw [ofFile, if_pos (by simpa using real)]
    rw [stops] at promised
    exact promised.elim
  · refine ⟨real, ?_⟩
    rintro bytes rfl
    constructor
    · by_contra undecodable
      have short := (met bytes rfl).resolve_left undecodable
      obtain ⟨f, fails⟩ :=
        exists_undecodable real (keeps bytes rfl) short (Bool.eq_false_iff.mpr undecodable)
      rw [fails] at promised
      exact promised.elim
    · intro form entries read
      by_contra unfit
      exact not_promised_of_not_keysFit real read unfit promised

/-- A document with one option, a level that there is not. -/
def loud : List UInt8 := "log_level: LOUD".toList.map fun c => UInt8.ofNat c.toNat

/-- Whether a mapping has been read whose keys have texts and are not wrapped. -/
def hasNativeKeys : Except Yaml.Unreadable Value → Bool
  | .ok (.object _ entries) => entries.all fun entry => entry.1.isLegible && !isWrapped entry.1
  | _ => false

/-- A document is a text, so its option is refused. A file of one byte that starts
no character is not, and what comes of it is neither settings nor a refusal. -/
theorem ofFile_promised_iff_readable_loud :
    let load := Yaml.read 9
    Promised load "conf/./c.yaml" (.content loud) (ofFile load "conf/./c.yaml" (.content loud)) ∧
      ¬ Promised load "c.yaml" (.content [0xff]) (ofFile load "c.yaml" (.content [0xff])) := by
  intro load
  have text : (Utf8.decode loud).isOk = true := by decide +kernel
  have noText : (Utf8.decode [0xff]).isOk = false := by decide +kernel
  have document : hasNativeKeys (load (.ofBytes loud)) = true := by decide +kernel
  have keepsLoud : load.Keeps (.ofBytes loud) := by
    refine Yaml.keeps_read fun misfit found => ?_
    have none : load (.ofBytes loud) = .error (.unrepresentable misfit) := found
    rw [none] at document
    cases document
  have keepsNoText : load.Keeps (.ofBytes [0xff]) := by
    refine Yaml.keeps_read fun misfit found => ?_
    have breaks : load (.ofBytes [0xff]) = .error (.undecodable ⟨.invalidStart, 0xff, 0, 1⟩) := rfl
    cases breaks.symm.trans found
  constructor
  · refine (ofFile_promised_iff_readable load "conf/./c.yaml" (.content loud) ?_).1 ⟨by decide, ?_⟩
    · rintro bytes content
      obtain rfl : loud = bytes := FileState.content.inj content
      exact keepsLoud
    · intro bytes content
      obtain rfl : loud = bytes := FileState.content.inj content
      refine ⟨text, fun form entries read => ?_⟩
      rw [read] at document
      have fits (entry) (member : entry ∈ entries) :
          entry.1.isLegible = true ∧ isWrapped entry.1 = false := by
        simpa using List.all_eq_true.mp document entry member
      exact ⟨fun entry member => (fits entry member).1, fun _ entry member => (fits entry member).2⟩
  · have exact_here := (ofFile_promised_iff_readable load "c.yaml" (.content [0xff]) ?_).2 ?_
    · intro promised
      have readable := ((exact_here.mp promised).2 [0xff] rfl).1
      rw [noText] at readable
      cases readable
    · intro bytes content
      obtain rfl : [0xff] = bytes := FileState.content.inj content
      exact keepsNoText
    · intro bytes content
      obtain rfl : [0xff] = bytes := FileState.content.inj content
      exact .inr (by decide)

/-- Neither a byte that starts no character nor a path with a NUL is refused, nor is
an option under an integer of a digit too many: the failure is of another kind. -/
theorem loading_fails_otherwise :
    ofFile (Yaml.read 9) "c.yaml" (.content [0xff]) =
        .error (.undecodable ⟨.invalidStart, 0xff, 0, 1⟩) ∧
      ofFile (Yaml.read 9) "c\x00.yaml" .missing = .error .nulInPath ∧
      ofFile (fun _ => .ok (.object .plain [(.integer (tenTo digitLimit), .null)])) "c.yaml"
        (.content []) = .error .overlongKey ∧
      ¬ ∀ (path : String) (state : FileState),
        Promised (Yaml.read 9) path state (ofFile (Yaml.read 9) path state) := by
  have bytes : ofFile (Yaml.read 9) "c.yaml" (.content [0xff]) =
      .error (.undecodable ⟨.invalidStart, 0xff, 0, 1⟩) := rfl
  refine ⟨bytes, rfl, by decide +kernel, fun always => ?_⟩
  have promised := always "c.yaml" (.content [0xff])
  rw [bytes] at promised
  exact promised

end Settings

end Conformance
