import Conformance.Settings
import Conformance.Value.Printed

/-!
# Mapping — settings from named options

A mapping gives settings by name. An option of any other name is refused
before any value is looked at, and all such options are named together, in
the order of their texts. Two kinds of keys are met before that by
`Settings.ofOptions`, which fails on them and refuses nothing: a key that has
no text, and a wrapped text, which equals the name it holds but cannot be
passed on as one.
-/


namespace Conformance

namespace Settings

/-- Whether a key names a field. -/
def names (key : Value) : Bool := Field.all.any fun f => key.hasText f.name

/-- The texts of the keys that name no field, sorted by code point. -/
def unknownNames (entries : List (Value × Value)) : List String :=
  ((entries.filter fun entry => !names entry.1).map fun entry => entry.1.printed).mergeSort
    fun s t => s ≤ t

/-- The entries of a mapping. -/
def entriesOf : Value → List (Value × Value)
  | .object _ entries => entries
  | _ => []

/-- Settings from a mapping, which `source` names in reports. -/
def ofMapping (source : String) (options : Value) : Except Refusal Settings :=
  match unknownNames (entriesOf options) with
  | [] => ofValues fun f => options.get? f.name
  | unknown => .error ⟨source, .unknownOptions unknown⟩

/-- Why options give no settings. -/
inductive OptionFault where
  | refusal (r : Refusal)
  | wrappedName
  /-- A key has no text, since an integer in it is too long. -/
  | overlongKey
deriving DecidableEq, Repr

/-- Whether a key is a wrapped text. -/
def isWrapped : Value → Bool
  | .text .wrapped _ => true
  | _ => false

/-- Settings from a mapping that may have any keys. -/
def ofOptions (source : String) (options : Value) : Except OptionFault Settings :=
  let entries := entriesOf options
  if entries.any fun entry => !entry.1.isLegible then .error .overlongKey
  else if (unknownNames entries).isEmpty && entries.any (fun entry => isWrapped entry.1) then
    .error .wrappedName
  else (ofMapping source options).mapError .refusal

/-- Without such keys the two agree. A wrapped text does no harm beside a name
that there is not. -/
theorem ofOptions_eq_ofMapping {source : String} {options : Value}
    (legible : ∀ entry ∈ entriesOf options, entry.1.isLegible = true)
    (bare : unknownNames (entriesOf options) = [] →
      ∀ entry ∈ entriesOf options, isWrapped entry.1 = false) :
    ofOptions source options = (ofMapping source options).mapError .refusal := by
  have written : (entriesOf options).any (fun entry => !entry.1.isLegible) = false :=
    List.any_eq_false.2 fun entry member => by simp [legible entry member]
  have native : ((unknownNames (entriesOf options)).isEmpty &&
      (entriesOf options).any fun entry => isWrapped entry.1) = false := by
    cases unknown : unknownNames (entriesOf options) with
    | nil => exact List.any_eq_false.2 fun entry member => by simp [bare unknown entry member]
    | cons name rest => rfl
  simp [ofOptions, written, native]

/-- A key without a text is met before all else. -/
theorem ofOptions_of_overlong {source : String} {options : Value} {entry : Value × Value}
    (member : entry ∈ entriesOf options) (overlong : entry.1.isLegible = false) :
    ofOptions source options = .error .overlongKey := by
  have unwritten : (entriesOf options).any (fun entry => !entry.1.isLegible) = true :=
    List.any_eq_true.2 ⟨entry, member, by simp [overlong]⟩
  simp [ofOptions, unwritten]

end Settings

end Conformance
