import ClosedShape.Report
import ClosedShape.Text.Encoding
import ClosedShape.Text.Utf8
/-!
# Records of results

A result as one line of JSON for other programs, with its value as it is.  What JSON has no form
for becomes text or `null`; a value that is nothing but an object of a program has no record.
-/

namespace ClosedShape.Report

/-- The fault of a value without a form in records. -/
def formless (typeName : String) : Fault :=
  .foreign "PydanticSerializationError" s!"Unable to serialize unknown type: <class '{typeName}'>"

/-- A text, which cannot be recorded if it has surrogates. -/
def recordText (content : Text) : Except Fault Value :=
  match content.write with
  | .ok _ => .ok (.text content)
  | .error fault =>
      .error <| .foreign "PydanticSerializationError"
        ("Error serializing to JSON: " ++ fault.kind ++ ": " ++ fault.message)

/-- The text that bytes are recorded as. -/
def bytesText (bytes : List UInt8) : Except Fault Value :=
  match Text.decodeUtf8 bytes with
  | .ok text => .ok (.text (.ofChars text))
  | .error error =>
      .error <| .foreign "PydanticSerializationError"
        s!"invalid utf-8 sequence of {error.length} bytes from index {error.position}"

/-- The text of a moment.  Universal time has a letter of its own. -/
def momentText (moment : Moment) : String :=
  if moment.offset = some 0 then { moment with offset := none }.textWith "T" ++ "Z"
  else moment.textWith "T"

/-- A key as records show it. -/
def recordKey : Value → Except Fault Value
  | .null => .ok (.text "None")
  | .float number => .ok (.text number.text)
  | .text content => recordText content
  | key => .ok key

mutual

/-- The form of a value in a record. -/
def recordForm : Value → Except Fault Value
  | .float .nan | .float (.infinite _) => .ok .null
  | .text content => recordText content
  | .bytes content => bytesText content
  | .date day => .ok (.text day.text)
  | .time clock => .ok (.text clock.text)
  | .moment instant => .ok (.text (momentText instant))
  | .list items | .tuple items | .set items => return .list (← recordItems items)
  | .mapping .plain entries => return .object (← recordEntries entries)
  | .absent => .error (formless "shapectl.validator.absent.Absent")
  | .mapping .readOnly _ => .error (formless "mappingproxy")
  | .mapping .callable _ => .error (formless "CallableMap")
  | .function _ => .error (formless "function")
  | .opaqueObject typeName _ => .error (formless typeName)
  | value => .ok value

def recordItems : List Value → Except Fault (List Value)
  | [] => .ok []
  | item :: items => do
      let form ← recordForm item
      let forms ← recordItems items
      return form :: forms

def recordEntries : List (Value × Value) → Except Fault (List (Value × Value))
  | [] => .ok []
  | (key, value) :: entries => do
      let shownKey ← recordKey key
      let form ← recordForm value
      let forms ← recordEntries entries
      return (shownKey, form) :: forms

end

/-- The record of a result. -/
def record (result : CheckResult) : Except Fault String := do
  Json.write .record (← recordForm (payload result result.value))

end ClosedShape.Report
