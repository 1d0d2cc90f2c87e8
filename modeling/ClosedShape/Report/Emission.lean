import ClosedShape.Report
import ClosedShape.Text.Encoding
/-!
# Emitting reports

What a run writes for a result, and the status that it ends with.
-/

namespace ClosedShape

/-- What a run has written to its output and beside it, and its exit status. -/
structure Emission where
  status : Nat := 0
  output : String := ""
  errors : String := ""
deriving DecidableEq, Repr, Inhabited

namespace Report

/-- The lines for the warnings of a result.  In JSON they are part of the report. -/
def warningLines (result : CheckResult) (settings : ReportSettings) : Text :=
  if settings.jsonOutput then []
  else result.warnings.flatMap fun warning => "WARNING: " ++ warning ++ "\n"

/-- Emits the report of a result.  A failure is reported beside the output and ends the run with a
status of its own.  The output can refuse a report, which is a fault. -/
def emit (result : CheckResult) (settings : ReportSettings) : Except Fault Emission := do
  let line := (← format result settings) ++ "\n"
  if result.ok then
    return { output := ← line.write, errors := (warningLines result settings).writeEscaped }
  else return { status := 1, errors := line.writeEscaped }

end Report

end ClosedShape
