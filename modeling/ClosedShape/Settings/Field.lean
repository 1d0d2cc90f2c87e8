import ClosedShape.Text.Utf8
import ClosedShape.Value.Number
/-!
# Settings fields

The values that the fields of settings take, and what the others misfit, by the rules of the library
`pydantic`, which this module stands for.
-/

namespace ClosedShape.Settings

/-- Why a value does not fit its field. -/
inductive FieldProblem where
  /-- A text or number that stands for no truth value. -/
  | boolParsing
  /-- A value that cannot stand for a truth value at all. -/
  | boolType
  | stringType
  /-- Bytes that are no text, or a text that has surrogates. -/
  | stringUnicode
deriving DecidableEq, Repr, Inhabited

def FieldProblem.name : FieldProblem → String
  | .boolParsing => "bool_parsing"
  | .boolType => "bool_type"
  | .stringType => "string_type"
  | .stringUnicode => "string_unicode"

/-- The words that stand for truth values, in lower case. -/
def truthWords : List (String × Bool) :=
  [("0", false), ("off", false), ("f", false), ("false", false), ("n", false), ("no", false),
    ("1", true), ("on", true), ("t", true), ("true", true), ("y", true), ("yes", true)]

def truthOfText (text : String) : Except FieldProblem Bool :=
  match truthWords.lookup (String.ofList (text.toList.map Char.toLower)) with
  | some truth => .ok truth
  | none => .error .boolParsing

def truthOfInt (number : Int) : Except FieldProblem Bool :=
  if number = 0 then .ok false else if number = 1 then .ok true else .error .boolParsing

/-- A truth value, or a text or a whole number that stands for one. -/
def readBool : Value → Except FieldProblem Bool
  | .bool truth => .ok truth
  | .text text =>
      match text.string? with
      | some string => truthOfText string
      | none => .error .stringUnicode
  | .bytes bytes =>
      match Text.decodeUtf8 bytes with
      | .ok text => truthOfText (String.ofList text)
      | .error _ => .error .boolParsing
  | .int number => truthOfInt number
  | .float number =>
      match number.toInt? with
      | some number => truthOfInt number
      | none => .error .boolType
  | _ => .error .boolType

/-- A text, or nothing.  No source of settings has texts with surrogates. -/
def readOptionalText : Value → Except FieldProblem (Option String)
  | .null => .ok none
  | .text text =>
      match text.string? with
      | some string => .ok (some string)
      | none => .error .stringUnicode
  | .bytes bytes =>
      match Text.decodeUtf8 bytes with
      | .ok text => .ok (some (String.ofList text))
      | .error _ => .error .stringUnicode
  | _ => .error .stringType

end ClosedShape.Settings
