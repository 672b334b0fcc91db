import Conformance.Calendar
import Conformance.Number.Quantity

/-!
# Values — decoded data and the kind of a value

A value is a piece of decoded data: a scalar, a sequence, a mapping, or
something no schema can speak of. Data arrives in several forms that stand
for the same thing (a text may be wrapped, a sequence may be a tuple), and
the form is kept because option errors name it. What has a class of its own
brings the name of the class along, and a thing that no other form is for
brings its texts too: `Exotic`. Refined classes of numbers, of mappings and of
plain rows are not among the values. `Value.kind` forgets the form, and sorts
every value into one of nine kinds. A check sees a value through its kind, its
length as a text and its exact number, and through nothing else.
-/


namespace Conformance

/-- The nine kinds of values. -/
inductive Kind where
  | string
  | integer
  | number
  | boolean
  | array
  | object
  | null
  | undefined
  | unknown
deriving DecidableEq, Repr

namespace Kind

/-- All kinds, in the order in which they are listed. -/
def all : List Kind :=
  [.string, .integer, .number, .boolean, .array, .object, .null, .undefined, .unknown]

/-- The name of a kind. -/
def name : Kind → String
  | .string => "string"
  | .integer => "integer"
  | .number => "number"
  | .boolean => "boolean"
  | .array => "array"
  | .object => "object"
  | .null => "null"
  | .undefined => "undefined"
  | .unknown => "unknown"

/-- Every kind but `undefined` is that of a value which is there. -/
def isDefined (kind : Kind) : Bool := kind != .undefined

end Kind

/-- The forms of a text: itself, a refinement that is a text in every way but
for the name of its class, or a wrapper that only behaves like one. -/
inductive TextForm where
  | plain
  | derived (typeName : String)
  | wrapped
deriving DecidableEq, Repr

/-- The forms of a sequence. -/
inductive ArrayForm where
  | list
  | tuple
  /-- A row whose class has a name for it and for each of its items. -/
  | named (typeName : String) (fields : List String)
  | deque
  | wrapped
  | packed
deriving DecidableEq, Repr

/-- The forms of a mapping. -/
inductive ObjectForm where
  | plain
  | ordered
  | wrapped
  | readOnly
  | chained
deriving DecidableEq, Repr

/-- A thing of a class that decides for itself how its things print: a member
of an enumeration, a class, a function, any object. -/
structure Exotic where
  typeName : String
  /-- Which thing of its class it is. -/
  identity : Nat := 0
  /-- The text it prints as. -/
  text : String
  /-- The text it prints as inside a row. -/
  element : String
deriving DecidableEq, Repr

/-- What no schema can speak of. -/
inductive Alien where
  | bytes (octets : List UInt8)
  | byteArray
  /-- A view of bytes that are kept elsewhere, and the text that says where. -/
  | byteView (octets : List UInt8) (place : String)
  | set
  | keysView
  | complex (real imaginary : Binary64)
  | day (day : Day)
  | moment (moment : Moment)
  | ellipsis
  | exotic (x : Exotic)
deriving DecidableEq, Repr

/-- A decoded value. -/
inductive Value where
  /-- The absent value, which is not `null`. -/
  | undefined
  | null
  | boolean (b : Bool)
  | integer (n : Int)
  | quantity (x : Quantity)
  | text (form : TextForm) (s : String)
  | array (form : ArrayForm) (items : List Value)
  /-- The integers from `start` to before `stop`, `step` apart. -/
  | range (start stop step : Int)
  | object (form : ObjectForm) (entries : List (Value × Value))
  /-- A set that cannot change. -/
  | frozenSet (items : List Value)
  | alien (a : Alien)
deriving Repr, Inhabited

namespace Value

/-- A text in its plain form. -/
def plain (s : String) : Value := .text .plain s

/-- The kind of a value. A boolean is never an integer, and a quantity stays
a number even where its value is whole. -/
def kind : Value → Kind
  | .undefined => .undefined
  | .null => .null
  | .boolean _ => .boolean
  | .integer _ => .integer
  | .quantity _ => .number
  | .text .. => .string
  | .array .. => .array
  | .range .. => .array
  | .object .. => .object
  | .frozenSet _ => .unknown
  | .alien _ => .unknown

/-- The number of characters of a text. -/
def length? : Value → Option Nat
  | .text _ s => some s.length
  | _ => none

/-- The integer a value is. -/
def integer? : Value → Option Int
  | .integer n => some n
  | _ => none

/-- The exact number of an integer or a quantity. -/
def number? : Value → Option Number
  | .integer n => some (.ofInt n)
  | .quantity x => some x.number
  | _ => none

/-- The integer a value is, if it is not negative. -/
def natural? : Value → Option Nat
  | .integer (.ofNat n) => some n
  | _ => none

/-- The boolean a value is. -/
def boolean? : Value → Option Bool
  | .boolean b => some b
  | _ => none

/-- The characters of a text, a wrapped one left out. -/
def native? : Value → Option String
  | .text .plain s => some s
  | .text (.derived _) s => some s
  | _ => none

/-! ## Questions about values -/

/-- Whether the value is an integer. -/
def isInteger (v : Value) : Bool := v.integer?.isSome

/-- Whether the value is an integer or a quantity. -/
def isReal (v : Value) : Bool := v.number?.isSome

/-- Whether the value is an integer and not negative. -/
def isNatural (v : Value) : Bool := v.natural?.isSome

/-- Whether the value is a quantity that is no number. -/
def isNaN (v : Value) : Bool := v.number?.any Number.isNaN

theorem isInteger_iff_kind {v : Value} : v.isInteger = true ↔ v.kind = .integer := by
  cases v <;> simp [isInteger, integer?, kind]

theorem isReal_iff_kind {v : Value} :
    v.isReal = true ↔ v.kind = .integer ∨ v.kind = .number := by
  cases v <;> simp [isReal, number?, kind]

theorem length?_isSome_iff_kind {v : Value} : v.length?.isSome = true ↔ v.kind = .string := by
  cases v <;> simp [length?, kind]

theorem natural?_eq_some_iff {v : Value} {n : Nat} :
    v.natural? = some n ↔ v = .integer (n : Int) := by
  constructor
  · intro h
    unfold natural? at h
    split at h
    · cases h; rfl
    · exact absurd h (by simp)
  · rintro rfl; rfl

/-! ## Names of forms -/

/-- The name of the class of a value. -/
def typeName : Value → String
  | .undefined => "_Undefined"
  | .null => "NoneType"
  | .boolean _ => "bool"
  | .integer _ => "int"
  | .quantity (.binary _) => "float"
  | .quantity (.decimal _) => "Decimal"
  | .quantity (.ratio _) => "Fraction"
  | .text .plain _ => "str"
  | .text (.derived typeName) _ => typeName
  | .text .wrapped _ => "UserString"
  | .array .list _ => "list"
  | .array .tuple _ => "tuple"
  | .array (.named typeName _) _ => typeName
  | .array .deque _ => "deque"
  | .array .wrapped _ => "UserList"
  | .array .packed _ => "array"
  | .range .. => "range"
  | .object .plain _ => "dict"
  | .object .ordered _ => "OrderedDict"
  | .object .wrapped _ => "UserDict"
  | .object .readOnly _ => "mappingproxy"
  | .object .chained _ => "ChainMap"
  | .frozenSet _ => "frozenset"
  | .alien (.bytes _) => "bytes"
  | .alien .byteArray => "bytearray"
  | .alien (.byteView ..) => "memoryview"
  | .alien .set => "set"
  | .alien .keysView => "dict_keys"
  | .alien (.complex ..) => "complex"
  | .alien (.day _) => "date"
  | .alien (.moment _) => "datetime"
  | .alien .ellipsis => "ellipsis"
  | .alien (.exotic x) => x.typeName

end Value

end Conformance
