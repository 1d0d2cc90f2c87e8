import ClosedShape.Check.Result
import ClosedShape.Json.Printer
import ClosedShape.Markup
import ClosedShape.Text.Wrapping
import ClosedShape.Value.Prune
/-!
# Reports

Shows a check result to people, as lines for a console, or to programs, as JSON.  What was not
provided is left out of both.
-/

namespace ClosedShape

/-- What a report shows. -/
structure ReportSettings where
  jsonOutput : Bool := false
  quiet : Bool := false
  verbose : Bool := false
deriving DecidableEq, Repr, Inhabited

namespace Report

/-- The width of the console that reports are made for. -/
def consoleWidth : Nat := 120

/-- Prints one line of markup. -/
def printLine (markup : Text) : Except Fault Text :=
  return Text.consoleLines consoleWidth (← Markup.render markup)

/-- Prints lines of markup in order, up to the first that cannot be rendered. -/
def printLines (lines : List Text) : Except Fault Text := return (← lines.mapM printLine).flatten

private def dropFinalNewlines (text : Text) : Text :=
  (text.reverse.dropWhile (· == .char '\n')).reverse

/-- The value as it is reported: pruned, and `null` if there is nothing at all. -/
def shownValue (value : Value) : Value :=
  match value.prune with
  | .absent => .null
  | pruned => pruned

/-- One line for an entry: containers as compact JSON, everything else as plain text. -/
def entryLine (key value : Value) : Except Fault Text := do
  let shownKey ← key.display
  let shown ← match value with
    | .list _ | .mapping .plain _ => (Json.write .compact value).map Text.ofString
    | _ => value.display
  return "  " ++ shownKey ++ ": " ++ shown

/-- The lines of a narrowed value: one for every entry of a mapping, or one for the whole. -/
def valueLines : Value → Except Fault (List Text)
  | .mapping .plain entries => entries.mapM fun entry => entryLine entry.1 entry.2
  | value => return ["  " ++ (← Json.write .spaced value)]

/-- The markup of the first line of a report. -/
def headline (ok : Bool) (name : Text) : Text :=
  Text.ofString
      (if ok then "[shape.ok]OK[/]: [shape.name]" else "[shape.error]ERROR[/]: [shape.name]") ++
    Markup.escape name ++ "[/]"

/-- The markup of one error.  The code goes in as it is. -/
def errorLine (verbose : Bool) (error : CheckError) : Text :=
  let code : Text := if verbose then " [shape.code](" ++ error.code ++ ")[/]" else []
  let message := Markup.escape error.message ++ code
  if error.path.isEmpty then "  " ++ message
  else "  [shape.path]" ++ Markup.escape error.path ++ "[/]: " ++ message

/-- The markup of a result, line by line. -/
def lines (result : CheckResult) (settings : ReportSettings) : Except Fault (List Text) :=
  let value := shownValue result.value
  if result.ok then
    match value with
    | .null => .ok [headline true result.name]
    | _ =>
        if settings.quiet then .ok [headline true result.name]
        else return headline true result.name :: (← valueLines value).map Markup.escape
  else
    let expected : List Text :=
      if result.expected.isEmpty || settings.quiet then []
      else "[shape.hint]Expected:[/]" :: result.expected.map fun line => "  " ++ Markup.escape line
    .ok (headline false result.name :: result.errors.map (errorLine settings.verbose) ++ expected)

private def textList (texts : List Text) : Value := .list (texts.map Value.text)

/-- One problem as a value. -/
def errorValue (error : CheckError) : Value :=
  .object [(.text "code", .text error.code), (.text "message", .text error.message),
    (.text "path", .text error.path)]

/-- A result as a value, with its parts in a fixed order. -/
def payload (result : CheckResult) (value : Value) : Value :=
  .object [(.text "ok", .bool result.ok), (.text "name", .text result.name), (.text "value", value),
    (.text "errors", .list (result.errors.map errorValue)),
    (.text "expected", textList result.expected), (.text "warnings", textList result.warnings)]

/-- The report of a result. -/
def format (result : CheckResult) (settings : ReportSettings) : Except Fault Text :=
  if settings.jsonOutput then
    (Json.write .indented (payload result (shownValue result.value))).map Text.ofString
  else do
    let markup ← lines result settings
    return dropFinalNewlines (← printLines markup)

end Report

end ClosedShape
