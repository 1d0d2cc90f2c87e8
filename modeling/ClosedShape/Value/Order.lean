import ClosedShape.Fault
import ClosedShape.Value.Equality
/-!
# Order of values

Numbers are ordered by their exact number, texts by their codes, arrays by the
first difference.  Values of different types have no order.
-/

namespace ClosedShape

/-- The ways to compare two values. -/
inductive Comparison where
  | greater
  | greaterOrEqual
  | less
  | lessOrEqual
  | equal
  | different
deriving DecidableEq, Repr, Inhabited

namespace Comparison

def symbol : Comparison → String
  | .greater => ">"
  | .greaterOrEqual => ">="
  | .less => "<"
  | .lessOrEqual => "<="
  | .equal => "=="
  | .different => "!="

/-- The comparison that says the same with its sides exchanged. -/
def swapped : Comparison → Comparison
  | .greater => .less
  | .greaterOrEqual => .lessOrEqual
  | .less => .greater
  | .lessOrEqual => .greaterOrEqual
  | .equal => .equal
  | .different => .different

/-- Whether a comparison holds of two things in a given order. -/
def holds : Comparison → Ordering → Bool
  | .greater, order => order == .gt
  | .greaterOrEqual, order => order != .lt
  | .less, order => order == .lt
  | .lessOrEqual, order => order != .gt
  | .equal, order => order == .eq
  | .different, order => order != .eq

/-- Comparing numbers.  With `nan` only `different` holds. -/
def holdsOfNumbers : Comparison → Number → Number → Bool
  | .greater, left, right => right.less left
  | .greaterOrEqual, left, right => right.less left || left.equals right
  | .less, left, right => left.less right
  | .lessOrEqual, left, right => left.less right || left.equals right
  | .equal, left, right => left.equals right
  | .different, left, right => !left.equals right

def orderTexts (left right : Text) : Ordering :=
  compare (left.map CodePoint.code) (right.map CodePoint.code)

end Comparison

namespace Value

/-- Why two values have no order.  A read-only mapping leaves the answer to the mapping behind it,
which is asked first. -/
def unordered (comparison : Comparison) : Value → Value → Fault
  | .date _, .moment _ | .moment _, .date _ =>
      .foreign "TypeError" "can't compare datetime.datetime to datetime.date"
  | .mapping .readOnly _, .mapping .readOnly _ =>
      .notOrdered comparison.swapped.symbol "dict" "dict"
  | .mapping .readOnly _, right => .notOrdered comparison.symbol "dict" right.qualifiedTypeName
  | left, .mapping .readOnly _ =>
      .notOrdered comparison.swapped.symbol "dict" left.qualifiedTypeName
  | left, right =>
      .notOrdered comparison.symbol left.qualifiedTypeName right.qualifiedTypeName

mutual

/-- Orders two values as `comparison` asks. -/
def order (comparison : Comparison) : Value → Value → Except Fault Bool
  | .text left, .text right => .ok (comparison.holds (Comparison.orderTexts left right))
  | .list left, .list right => orderItems comparison left right
  | .tuple left, .tuple right => orderItems comparison left right
  | .bytes left, .bytes right =>
      .ok (comparison.holds (compare (left.map UInt8.toNat) (right.map UInt8.toNat)))
  | .date left, .date right => .ok (comparison.holds (compare left.dayNumber right.dayNumber))
  | .time left, .time right =>
      .ok (comparison.holds (compare left.microseconds right.microseconds))
  | .moment left, .moment right =>
      if left.offset.isSome = right.offset.isSome then
        .ok (comparison.holds (compare left.instant right.instant))
      else .error (.foreign "TypeError" "can't compare offset-naive and offset-aware datetimes")
  | left, right =>
      match left.number?, right.number? with
      | some leftNumber, some rightNumber =>
          .ok (comparison.holdsOfNumbers leftNumber rightNumber)
      | _, _ => .error (unordered comparison left right)

/-- The first pair of unequal items decides, or else the lengths. -/
def orderItems (comparison : Comparison) : List Value → List Value → Except Fault Bool
  | [], [] => .ok (comparison.holds .eq)
  | [], _ :: _ => .ok (comparison.holds .lt)
  | _ :: _, [] => .ok (comparison.holds .gt)
  | left :: lefts, right :: rights =>
      if left.equals right then orderItems comparison lefts rights
      else order comparison left right

end

/-- Compares two values.  Any two values can be told equal or different. -/
def compareWith (comparison : Comparison) (left right : Value) : Except Fault Bool :=
  match comparison with
  | .equal => .ok (left.equals right)
  | .different => .ok (!left.equals right)
  | _ => order comparison left right

end Value

end ClosedShape
