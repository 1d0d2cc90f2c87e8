import ClosedShape.Double.Shortest
import ClosedShape.Fault
import ClosedShape.Value
/-!
# The text of a value

A value is shown as plain text at the top level of a message, and as source text inside containers
and where it must be told apart from others.
-/

namespace ClosedShape.Value

/-- The decimal text of an integer, up to the digit limit. -/
def integerText (number : Int) : Except Fault String :=
  if number.natAbs < integerLimit then .ok (toString number) else .error .integerTooLong

mutual

/-- The source text of a value: texts are quoted, containers show their items as source text. -/
def source : Value → Except Fault String
  | .absent => .ok "ABSENT"
  | .null => .ok "None"
  | .bool truth => .ok (if truth then "True" else "False")
  | .int number => integerText number
  | .float number => .ok number.text
  | .text content => .ok (Text.quoted content)
  | .list items => do
      let shown ← sourceItems items
      return "[" ++ ", ".intercalate shown ++ "]"
  | .tuple items => do
      let shown ← sourceItems items
      return "(" ++ ", ".intercalate shown ++ (if shown.length = 1 then ",)" else ")")
  | .set items => do
      let shown ← sourceItems items
      return if shown.isEmpty then "set()" else "\x7b" ++ ", ".intercalate shown ++ "\x7d"
  | .mapping flavour entries => do
      let shown ← sourceEntries entries
      let braced := "\x7b" ++ ", ".intercalate shown ++ "\x7d"
      return match flavour with
        | .plain => braced
        | .readOnly => "mappingproxy(" ++ braced ++ ")"
        | .callable => "CallableMap(" ++ braced ++ ")"
  | .bytes content => .ok (Text.quotedBytes content)
  | .date day => .ok day.source
  | .time clock => .ok clock.source
  | .moment instant => .ok instant.source
  | .function name => .ok ("<fn " ++ name ++ ">")
  | .opaqueObject typeName _ => .ok ("<" ++ typeName ++ ">")

def sourceItems : List Value → Except Fault (List String)
  | [] => .ok []
  | item :: items => do
      let shown ← source item
      let rest ← sourceItems items
      return shown :: rest

def sourceEntries : List (Value × Value) → Except Fault (List String)
  | [] => .ok []
  | (key, value) :: entries => do
      let shownKey ← source key
      let shownValue ← source value
      let rest ← sourceEntries entries
      return (shownKey ++ ": " ++ shownValue) :: rest

end

/-- The plain text of a value: a text is itself, and a read-only mapping shows as the mapping
behind it. -/
def display : Value → Except Fault Text
  | .text content => .ok content
  | .absent => .ok "Absent.ABSENT"
  | .date day => .ok day.text
  | .time clock => .ok clock.text
  | .moment instant => .ok (instant.textWith " ")
  | .mapping .readOnly entries => (source (.mapping .plain entries)).map Text.ofString
  | value => (source value).map Text.ofString

/-- A literal as messages show it: the names of the two empty kinds, source text for the rest. -/
def literalText : Value → Except Fault String
  | .null => .ok "null"
  | .absent => .ok "absent"
  | value => source value

end ClosedShape.Value
