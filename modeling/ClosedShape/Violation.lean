import ClosedShape.Trail
import ClosedShape.Value.Text
/-!
# Violations

What a schema finds wrong with a value.  A violation inside a field or an item is wrapped once for
every level, so that the whole trail to it is known.
-/

namespace ClosedShape

/-- A finding about a checked value. -/
inductive Violation where
  /-- A finding of a foreign schema, with a trail of its own. -/
  | plain (message : Text) (trail : Trail)
  /-- A finding of a foreign schema whose kind and code are its own as well. -/
  | foreign (kind : String) (code message : Text) (trail : Trail)
  | typeMismatch (message : Text) (expected received : String)
  | literalMismatch (message : Text) (expected received : Value)
  | refinementFailure (message refinement : Text)
  /-- A key that a closed schema does not declare, with its text. -/
  | unexpectedKey (key : Value) (shown : Text)
  | inField (segment : Segment) (cause : Violation)

namespace Violation

instance : Inhabited Violation := ⟨.plain [] []⟩

/-- The message of the innermost finding. -/
def message : Violation → Text
  | .plain message _ | .foreign _ _ message _ => message
  | .typeMismatch message _ _ => message
  | .literalMismatch message _ _ => message
  | .refinementFailure message _ => message
  | .unexpectedKey _ shown => "Unexpected key found: " ++ shown
  | .inField _ cause => cause.message

/-- The way to the part that failed. -/
def trail : Violation → Trail
  | .plain _ trail | .foreign _ _ _ trail => trail
  | .inField segment cause => segment :: cause.trail
  | _ => []

/-- The finding without the levels around it. -/
def leaf : Violation → Violation
  | .inField _ cause => cause.leaf
  | violation => violation

/-- The name of the kind of a finding. -/
def kindName : Violation → String
  | .plain _ _ => "ValidationError"
  | .foreign kind _ _ _ => kind
  | .typeMismatch _ _ _ => "TypeMismatch"
  | .literalMismatch _ _ _ => "LiteralMismatch"
  | .refinementFailure _ _ => "RefinementFailure"
  | .unexpectedKey _ _ => "UnexpectedKey"
  | .inField _ _ => "FieldFailure"

/-- What a finding names besides its message. -/
def details : Violation → List (String × Value)
  | .typeMismatch _ expected received =>
      [("expected", .text expected), ("received", .text received)]
  | .literalMismatch _ expected received => [("expected", expected), ("received", received)]
  | .refinementFailure _ refinement => [("refinement", .text refinement)]
  | .unexpectedKey key _ => [("key", key)]
  | .plain _ _ | .foreign _ _ _ _ | .inField _ _ => []

/-- The code of a finding that is not wrapped. -/
def ownCode : Violation → Text
  | .typeMismatch _ _ _ => "TYPE_MISMATCH"
  | .literalMismatch _ _ _ => "LITERAL_MISMATCH"
  | .refinementFailure _ _ => "REFINEMENT_FAILURE"
  | .unexpectedKey _ _ => "UNEXPECTED_KEY"
  | .foreign _ code _ _ => code
  | .plain _ _ | .inField _ _ => "VALIDATION_ERROR"

def code (violation : Violation) : Text := violation.leaf.ownCode

def trailText (violation : Violation) : Text := violation.trail.render

/-- The trail, if there is one, and the message. -/
def text (violation : Violation) : Text :=
  if violation.trail.isEmpty then violation.message
  else violation.trailText ++ ": " ++ violation.message

/-- The finding that a key is not declared. -/
def ofUnexpectedKey (key : Value) : Except Fault Violation :=
  return .unexpectedKey key (← key.display)

end Violation

/-- Why a parse did not return: the value is wrong, or the checking itself failed. -/
inductive Failure where
  | invalid (violation : Violation)
  | faulty (fault : Fault)

instance : Inhabited Failure := ⟨.invalid default⟩

/-- Puts a violation inside a field; faults pass as they are. -/
def Failure.inField (segment : Segment) : Failure → Failure
  | .invalid violation => .invalid (.inField segment violation)
  | .faulty fault => .faulty fault

end ClosedShape
