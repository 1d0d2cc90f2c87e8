import ClosedShape.Value.Order
import ClosedShape.Violation
/-!
# Refinements

A refinement is a named predicate on values that have already passed the check of their type.
-/

namespace ClosedShape

/-- A predicate with the message for values that fail it.  Evaluating it may fail as well. -/
structure Refinement where
  name : Text
  message : Text
  check : Value → Except Fault Bool

namespace Refinement

/-- Returns the value itself if it passes. -/
def apply (refinement : Refinement) (value : Value) : Except Failure Value :=
  match refinement.check value with
  | .error fault => .error (.faulty fault)
  | .ok true => .ok value
  | .ok false => .error (.invalid (.refinementFailure refinement.message refinement.name))

/-- Applies refinements in order, up to the first that fails. -/
def applyAll : List Refinement → Value → Except Failure Value
  | [], value => .ok value
  | refinement :: rest, value =>
      match refinement.apply value with
      | .ok refined => applyAll rest refined
      | .error failure => .error failure

/-- Zero is not positive. -/
def positive : Refinement where
  name := "positive"
  message := "Must be greater than zero."
  check := fun value => value.compareWith .greater (.int 0)

def nonEmptyText : Refinement where
  name := "non_empty"
  message := "Must be a non-empty string."
  check := fun value => value.compareWith .different (.text [])

def nonEmptyArray : Refinement where
  name := "non_empty"
  message := "Must be a non-empty array."
  check := fun value =>
    match value.size? with
    | some size => .ok (0 < size)
    | none => .error (.notMeasurable value.qualifiedTypeName)

/-- The tests that refinements are usually made of. -/
inductive Test where
  | compare (comparison : Comparison) (bound : Value)
  | sizeAtLeast (bound : Value)
  | sizeAtMost (bound : Value)
  /-- The same answer for every value. -/
  | constant (answer : Value)
  /-- The truth of the value itself. -/
  | truth

/-- The test with a short name, for what it tests against. -/
def Test.ofName? (name : String) (argument : Value) : Option Test :=
  match name with
  | "gt" => some (.compare .greater argument)
  | "ge" => some (.compare .greaterOrEqual argument)
  | "lt" => some (.compare .less argument)
  | "le" => some (.compare .lessOrEqual argument)
  | "eq" => some (.compare .equal argument)
  | "ne" => some (.compare .different argument)
  | "min_len" => some (.sizeAtLeast argument)
  | "max_len" => some (.sizeAtMost argument)
  | "const" => some (.constant argument)
  | "self" => some .truth
  | _ => none

/-- Evaluates a test.  Sizes are compared as numbers. -/
def Test.evaluate : Test → Value → Except Fault Bool
  | .compare comparison bound, value => value.compareWith comparison bound
  | .sizeAtLeast bound, value => sizeCompare .greaterOrEqual bound value
  | .sizeAtMost bound, value => sizeCompare .lessOrEqual bound value
  | .constant answer, _ => .ok answer.isTruthy
  | .truth, value => .ok value.isTruthy
where
  sizeCompare (comparison : Comparison) (bound value : Value) : Except Fault Bool :=
    match value.size? with
    | some size => (Value.int size).compareWith comparison bound
    | none => .error (.notMeasurable value.qualifiedTypeName)

def ofTest (name message : Text) (test : Test) : Refinement := ⟨name, message, test.evaluate⟩

end Refinement

end ClosedShape
