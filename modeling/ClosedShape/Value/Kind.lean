import ClosedShape.Value
/-!
# Kinds

The runtime kind of a value, in the vocabulary of loosely typed configuration sources.
-/

namespace ClosedShape

/-- The kinds that schemas tell apart.  Everything else is named after its type. -/
inductive Kind where
  | absent
  | null
  | boolean
  | number
  | text
  | array
  | object
  | function
  | other (typeName : String)
deriving DecidableEq, Repr, Inhabited

/-- The name of a kind in messages. -/
def Kind.name : Kind → String
  | .absent => "absent"
  | .null => "null"
  | .boolean => "boolean"
  | .number => "number"
  | .text => "string"
  | .array => "array"
  | .object => "object"
  | .function => "function"
  | .other typeName => typeName

namespace Value

/-- A callable mapping is an object, not a function. -/
def kind : Value → Kind
  | .absent => .absent
  | .null => .null
  | .bool _ => .boolean
  | .int _ | .float _ => .number
  | .text _ => .text
  | .list _ | .tuple _ => .array
  | .mapping _ _ => .object
  | .function _ => .function
  | value => .other value.typeName

def kindName (value : Value) : String := value.kind.name

end Value

end ClosedShape
