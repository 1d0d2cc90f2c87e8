import ClosedShape.Calendar
import ClosedShape.Text.Quoted
/-!
# Faults

A fault is a failure of the checking itself, not a finding about the value that is checked: a
schema that cannot be built, a refinement that cannot be evaluated, foreign code that fails.
-/

namespace ClosedShape

/-- The longest integer, in decimal digits, that is written as text or read from it. -/
def digitLimit : Nat := 4300

/-- The least size of an integer with more digits than that. -/
@[irreducible]
def integerLimit : Nat := Nat.pow 10 digitLimit

/-- Why an operation could not be carried out. -/
inductive Fault where
  /-- An integer has too many digits to be written. -/
  | integerTooLong
  /-- A decimal text has too many digits to be read as an integer. -/
  | numeralTooLong (digits : Nat)
  | numeralMalformed (base : Nat) (numeral : Text)
  | decimalMalformed (numeral : Text)
  | numeralEmpty
  /-- A numeral has more parts than the two that it can have. -/
  | numeralInParts
  /-- An integer is beyond the range of doubles. -/
  | integerTooLarge
  /-- A number is not the code of a character. -/
  | codeOutOfRange (code : Nat)
  /-- Surrogates from a position on cannot be written; `shown` are their escapes. -/
  | notEncodable (position : Nat) (shown : List String)
  /-- Parts of a date or time that name no moment. -/
  | momentImpossible (reason : String)
  /-- A distance from universal time, in seconds, is a day or more. -/
  | offsetOutOfRange (seconds : Int)
  /-- A moment is after the last one of the calendar. -/
  | pastCalendar
  /-- A key stands twice where keys are taken to be distinct. -/
  | keyRepeated
  | notHashable (typeName : String)
  | noMember (owner member : String)
  | notOrdered (operator left right : String)
  | notMeasurable (typeName : String)
  | notCallable (typeName : String)
  | literalNotAdmitted (typeName : String)
  | elementNotSchema (typeName : String)
  | fieldsNotMapping (typeName : String)
  | fieldNameNotText (shown : String)
  | fieldNotSchema (shown : String)
  | frozenMember (member : String)
  | notAssignable (typeName : String)
  | notJsonKey (typeName : String)
  /-- Markup closes a style that is not open. -/
  | tagNotOpen (tag : Text) (position : Nat)
  | noTagToClose (position : Nat)
  /-- Looking up what is not there; `shown` is its source text. -/
  | notFound (shown : String)
  /-- Foreign code failed, with an error of its own kind. -/
  | foreign (kind : String) (message : Text)
  /-- Foreign code ended the whole run, with a status of its own and with what it says, if it says
  anything. -/
  | departure (status : Nat) (said : Option Text)
deriving DecidableEq, Repr, Inhabited

namespace Fault

/-- The fault that nothing has a name. -/
def missing (name : Text) : Fault := .notFound (Text.quoted name)

/-- The class of errors that a fault belongs to. -/
def kind : Fault → String
  | .integerTooLong | .numeralTooLong _ | .numeralMalformed _ _ => "ValueError"
  | .decimalMalformed _ | .numeralInParts | .momentImpossible _ => "ValueError"
  | .offsetOutOfRange _ => "ValueError"
  | .codeOutOfRange code => if code < Nat.pow 2 31 then "ValueError" else "OverflowError"
  | .notEncodable _ _ => "UnicodeEncodeError"
  | .integerTooLarge | .pastCalendar => "OverflowError"
  | .numeralEmpty => "IndexError"
  | .keyRepeated => "AssertionError"
  | .noMember _ _ => "AttributeError"
  | .frozenMember _ => "FrozenInstanceError"
  | .tagNotOpen _ _ | .noTagToClose _ => "MarkupError"
  | .notFound _ => "KeyError"
  | .foreign kind _ => kind
  | .departure _ _ => "SystemExit"
  | _ => "TypeError"

private def limitAdvice : String :=
  "use sys.set_int_max_str_digits() to increase the limit"

private def limitText : String :=
  s!"Exceeds the limit ({digitLimit} digits) for integer string conversion"

/-- The text of a fault.  A missing key is named in quotes, and of a numeral that is not an integer
only so much is shown. -/
def message : Fault → Text
  | .integerTooLong => limitText ++ "; " ++ limitAdvice
  | .numeralTooLong digits => limitText ++ s!": value has {digits} digits; " ++ limitAdvice
  | .numeralMalformed base numeral =>
      s!"invalid literal for int() with base {base}: " ++
        String.ofList ((Text.quoted numeral).toList.take 200)
  | .decimalMalformed numeral => "could not convert string to float: " ++ Text.quoted numeral
  | .numeralEmpty => "string index out of range"
  | .numeralInParts => "too many values to unpack (expected 2)"
  | .integerTooLarge => "int too large to convert to float"
  | .codeOutOfRange code =>
      if code < Nat.pow 2 31 then "chr() arg not in range(0x110000)"
      else "Python int too large to convert to C int"
  | .notEncodable position shown =>
      let place :=
        match shown with
        | [escape] => s!"character '{escape}' in position {position}"
        | _ => s!"characters in position {position}-{position + shown.length - 1}"
      s!"'utf-8' codec can't encode {place}: surrogates not allowed"
  | .momentImpossible reason => reason
  | .offsetOutOfRange seconds =>
      "offset must be a timedelta strictly between -timedelta(hours=24) and " ++
        "timedelta(hours=24), not " ++ Calendar.durationSource seconds ++ "."
  | .pastCalendar => "date value out of range"
  | .keyRepeated => ""
  | .notHashable typeName => s!"unhashable type: '{typeName}'"
  | .noMember owner member => s!"'{owner}' object has no attribute '{member}'"
  | .notOrdered operator left right =>
      s!"'{operator}' not supported between instances of '{left}' and '{right}'"
  | .notMeasurable typeName => s!"object of type '{typeName}' has no len()"
  | .notCallable typeName => s!"'{typeName}' object is not callable"
  | .literalNotAdmitted typeName =>
      s!"literal() accepts a string, number, None or ABSENT, got {typeName}"
  | .elementNotSchema typeName => s!"array() needs an element validator, got {typeName}"
  | .fieldsNotMapping typeName => s!"object() fields must be a mapping, got {typeName}"
  | .fieldNameNotText shown => s!"object() field names must be strings, got {shown}"
  | .fieldNotSchema shown => s!"object() field {shown} is not a validator"
  | .frozenMember member => s!"cannot assign to field '{member}'"
  | .notAssignable typeName => s!"'{typeName}' object does not support item assignment"
  | .notJsonKey typeName => s!"keys must be str, int, float, bool or None, not {typeName}"
  | .tagNotOpen tag position =>
      "closing tag '[" ++ tag ++ s!"]' at position {position} doesn't match any open tag"
  | .noTagToClose position => s!"closing tag '[/]' at position {position} has nothing to close"
  | .notFound shown => shown
  | .foreign "KeyError" message => Text.quoted message
  | .foreign _ message => message
  | .departure status said => said.getD (toString status)

end Fault

end ClosedShape
