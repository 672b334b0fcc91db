import Conformance.Settings.Mapping
import Conformance.Yaml.Content

/-!
# File — settings from a file

A file holds settings as a mapping in YAML, or nothing for the defaults. It
is read under a path, and the path is reported in its plainest form. What
reads the document is a parameter; `Yaml.read` is the reader that is used. A
refusal names the option at fault, or else the path. Bytes that encode no
text are a failure of another kind, and so is a scalar that has the shape of
a value and stands for none, or a key that options fail on. A path with a NUL
is that of no file, whatever stands anywhere.
-/


namespace Conformance

namespace Text

/-- The parts of a path that lead anywhere. -/
def pathParts (path : String) : List String :=
  (path.splitOn "/").filter fun part => part != "" && part != "."

/-- A path in its plainest form, without empty parts or parts that lead
nowhere. -/
def plainPath (path : String) : String :=
  let start :=
    if path.startsWith "//" && !path.startsWith "///" then "//"
    else if path.startsWith "/" then "/"
    else ""
  let plainest := start ++ join "/" (pathParts path)
  if plainest = "" then "." else plainest

end Text

/-- What stands at a path. -/
inductive FileState where
  | missing
  | directory
  /-- The path or one of its names is longer than any can be. -/
  | tooLong
  | content (bytes : List UInt8)

namespace FileState

/-- The greatest number of bytes in the name of a file. -/
def nameLimit : Nat := 255

/-- The greatest number of bytes in a path. -/
def pathLimit : Nat := 4095

/-- What stands at a path in an empty directory: only the directory itself
and those around it are there. -/
def inEmpty (path : String) : FileState :=
  if pathLimit < (Text.plainPath path).utf8ByteSize then .tooLong
  else match (Text.pathParts path).dropWhile (· == "..") with
    | [] => .directory
    | name :: _ => if nameLimit < name.utf8ByteSize then .tooLong else .missing

end FileState

namespace Settings

/-- Why a file gives no settings. -/
inductive LoadFault where
  | refusal (r : Refusal)
  | wrappedName
  | overlongKey
  | nulInPath
  | undecodable (f : Utf8.Fault)
  | unrepresentable (misfit : Yaml.Misfit)
deriving DecidableEq, Repr

/-- What is wrong with the options in a file is wrong with the file. -/
def LoadFault.ofOptions : OptionFault → LoadFault
  | .refusal r => .refusal r
  | .wrappedName => .wrappedName
  | .overlongKey => .overlongKey

/-- Settings from the value of a document. -/
def ofDocument (path : String) (document : Value) : Except LoadFault Settings :=
  match document with
  | .null => .ok {}
  | .object form entries => (ofOptions path (.object form entries)).mapError .ofOptions
  | _ => .error (.refusal ⟨path, .notMapping⟩)

/-- Settings from what stands at a path, by a reader of documents. -/
def ofFile (load : Yaml.Loader) (path : String) (state : FileState) : Except LoadFault Settings :=
  if path.toList.contains '\x00' then .error .nulInPath else
  let path := Text.plainPath path
  match state with
  | .missing => .error (.refusal ⟨path, .missingFile path⟩)
  | .directory => .error (.refusal ⟨path, .directory path⟩)
  | .tooLong => .error (.refusal ⟨path, .tooLong path⟩)
  | .content bytes =>
    match load (.ofBytes bytes) with
    | .error (.malformed text) => .error (.refusal ⟨path, .malformed text⟩)
    | .error (.undecodable f) => .error (.undecodable f)
    | .error (.unrepresentable misfit) => .error (.unrepresentable misfit)
    | .ok document => ofDocument path document

end Settings

end Conformance
