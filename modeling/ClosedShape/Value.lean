import ClosedShape.Calendar
import ClosedShape.Double
import ClosedShape.Text
/-!
# Values

The loosely typed values that schemas check: what configuration files hold, and besides it what a
program can hand over directly, such as callbacks, read-only mappings and opaque objects.
-/

namespace ClosedShape

/-- How a mapping behaves apart from its entries. -/
inductive MappingFlavour where
  | plain
  | readOnly
  /-- A mapping that can be called as well. -/
  | callable
deriving DecidableEq, Repr, Inhabited

/-- A value.  `absent` stands for what was not provided at all and differs from `null`, which was
provided.  The keys of a mapping are distinct by `Value.equals` and keep their order, and none of
them is a container that can change or has one in it. -/
inductive Value where
  | absent
  | null
  | bool (truth : Bool)
  | int (number : Int)
  | float (number : Double)
  | text (content : Text)
  | list (items : List Value)
  | tuple (items : List Value)
  | set (items : List Value)
  | mapping (flavour : MappingFlavour) (entries : List (Value × Value))
  | bytes (content : List UInt8)
  | date (date : Date)
  | time (time : TimeOfDay)
  | moment (moment : Moment)
  /-- A callback, known by its name. -/
  | function (name : String)
  /-- An object of a type that schemas know nothing about.  It equals only itself. -/
  | opaqueObject (typeName : String) (identity : Nat)

namespace Value

instance : Inhabited Value := ⟨.null⟩

abbrev object (entries : List (Value × Value)) : Value := .mapping .plain entries

/-- The name of a value's type. -/
def typeName : Value → String
  | .absent => "Absent"
  | .null => "NoneType"
  | .bool _ => "bool"
  | .int _ => "int"
  | .float _ => "float"
  | .text _ => "str"
  | .list _ => "list"
  | .tuple _ => "tuple"
  | .set _ => "set"
  | .mapping .plain _ => "dict"
  | .mapping .readOnly _ => "mappingproxy"
  | .mapping .callable _ => "CallableMap"
  | .bytes _ => "bytes"
  | .date _ => "date"
  | .time _ => "time"
  | .moment _ => "datetime"
  | .function _ => "function"
  | .opaqueObject typeName _ => typeName

/-- The name of a value's type, after the name of the module that it belongs to. -/
def qualifiedTypeName : Value → String
  | .date _ => "datetime.date"
  | .time _ => "datetime.time"
  | .moment _ => "datetime.datetime"
  | value => value.typeName

def isAbsent : Value → Bool
  | .absent => true
  | _ => false

/-- Integers and doubles; a boolean is of its own kind. -/
def isNumber : Value → Bool
  | .int _ | .float _ => true
  | _ => false

def isArray : Value → Bool
  | .list _ | .tuple _ => true
  | _ => false

def isCallable : Value → Bool
  | .function _ | .mapping .callable _ => true
  | _ => false

/-- The items of a list or a tuple. -/
def arrayItems? : Value → Option (List Value)
  | .list items | .tuple items => some items
  | _ => none

/-- The entries of a mapping of any flavour. -/
def mappingEntries? : Value → Option (List (Value × Value))
  | .mapping _ entries => some entries
  | _ => none

/-- Whether a value counts as true where a truth is asked for: zeros, the empty, `null` and
`absent` do not. -/
def isTruthy : Value → Bool
  | .absent | .null => false
  | .bool truth => truth
  | .int number => number != 0
  | .float number => !number.isZero
  | .text content => !content.isEmpty
  | .list items | .tuple items | .set items => !items.isEmpty
  | .mapping _ entries => !entries.isEmpty
  | .bytes content => !content.isEmpty
  | _ => true

/-- The number of characters, items, entries or bytes. -/
def size? : Value → Option Nat
  | .text content => some content.length
  | .list items | .tuple items | .set items => some items.length
  | .mapping _ entries => some entries.length
  | .bytes content => some content.length
  | _ => none

/-- The value under a text key, `absent` where there is none. -/
def lookupText (entries : List (Value × Value)) (name : Text) : Value :=
  match entries with
  | [] => .absent
  | (.text key, value) :: rest => if key = name then value else lookupText rest name
  | _ :: rest => lookupText rest name

end Value

end ClosedShape
