import ClosedShape.Json.Printer
import ClosedShape.Log
/-!
# Log lines

Log records as lines for people or for programs, in the forms of the library `structlog`, which this
module stands for.
-/

namespace ClosedShape.LogRecord

/-- The widths of the columns for levels and texts. -/
def levelWidth : Nat := 9

def textWidth : Nat := 30

/-- Fills a text up with blanks. -/
def fill (width : Nat) (text : Text) : Text :=
  text ++ List.replicate (width - text.length) (.char ' ')

/-- A line in columns: time, level, text and logger. -/
def consoleLine (time : String) (record : LogRecord) : Text :=
  time ++ " [" ++ fill levelWidth record.level.name ++ "] " ++ fill textWidth record.text ++
    " [" ++ record.logger ++ "]"

/-- A line as a JSON object. -/
def jsonLine (time : String) (record : LogRecord) : String :=
  let field := fun (name content : Text) =>
    Json.quote true name ++ Json.Layout.spaced.keySeparator ++ Json.quote true content
  Json.Layout.spaced.wrap 0 "\x7b" "\x7d"
    [field "event" record.text, field "level" record.level.name,
      field "logger" record.logger, field "timestamp" time]

/-- The lines of a log, each ended.  Only records that are enabled where the library itself reports
`level` have one. -/
def lines (json : Bool) (time : String) (level : LogLevel) (records : List LogRecord) : Text :=
  let shown := records.filter fun record => LogLevel.isEnabled level record.logger record.level
  shown.flatMap fun record =>
    (if json then ↑(record.jsonLine time) else record.consoleLine time) ++ "\n"

end ClosedShape.LogRecord
