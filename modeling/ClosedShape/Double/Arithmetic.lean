import ClosedShape.Double
/-!
# Sums and products of doubles

The exact sum or product of two doubles, rounded to the nearest double.
-/

namespace ClosedShape.Double

/-- The double nearest to an integer. -/
def ofInt (number : Int) : Double := ofRatio (number < 0) number.natAbs 1

def isNegative : Double → Bool
  | .finite negative _ _ | .infinite negative => negative
  | .nan => false

/-- The product of two doubles.  Its sign is negative if just one of theirs is. -/
def multiply (left right : Double) : Double :=
  let negative := left.isNegative != right.isNegative
  match left, right with
  | .finite _ first low, .finite _ second high =>
      let exponent := low + high
      ofRatio negative (first * second * Nat.pow 2 exponent.toNat)
        (Nat.pow 2 (-exponent).toNat)
  | .nan, _ | _, .nan => .nan
  | left, right => if left.isZero || right.isZero then .nan else .infinite negative

/-- The sum of two doubles.  It is a negative zero only if both of them are. -/
def add (left right : Double) : Double :=
  match left, right with
  | .finite negative first low, .finite otherNegative second high =>
      let exponent := min low high
      let scaled := fun (negative : Bool) (mantissa : Nat) (own : Int) =>
        let size : Int := (mantissa * Nat.pow 2 (own - exponent).toNat : Nat)
        if negative then -size else size
      let sum := scaled negative first low + scaled otherNegative second high
      if sum = 0 then zero (negative && otherNegative)
      else
        ofRatio (sum < 0) (sum.natAbs * Nat.pow 2 exponent.toNat) (Nat.pow 2 (-exponent).toNat)
  | .nan, _ | _, .nan => .nan
  | .infinite negative, .infinite other => if negative = other then .infinite negative else .nan
  | .infinite negative, _ | _, .infinite negative => .infinite negative

end ClosedShape.Double
