import ClosedShape.Violation
/-!
# Check results

The outcome of checking one named value, for whoever shows it or acts on it.
-/

namespace ClosedShape

/-- One problem found in a checked value. -/
structure CheckError where
  code : Text
  message : Text
  path : Text := []
deriving DecidableEq, Repr, Inhabited

namespace CheckError

def ofViolation (violation : Violation) : CheckError :=
  ⟨violation.code, violation.message, violation.trailText⟩

/-- The problem with its path, if it has one. -/
def describe (error : CheckError) : Text :=
  if error.path.isEmpty then error.message else error.path ++ ": " ++ error.message

end CheckError

/-- The value of a failed check is `null`.  `expected` holds lines of usage that are shown when a
check fails. -/
structure CheckResult where
  ok : Bool
  name : Text
  value : Value := .null
  errors : List CheckError := []
  expected : List Text := []
  warnings : List Text := []
deriving Inhabited

namespace CheckResult

def messages (result : CheckResult) : List Text := result.errors.map CheckError.describe

def success (name : Text) (value : Value) : CheckResult where
  ok := true
  name
  value

def failure (name : Text) (error : CheckError) : CheckResult where
  ok := false
  name
  errors := [error]

end CheckResult

end ClosedShape
