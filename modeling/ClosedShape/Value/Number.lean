import ClosedShape.Value
/-!
# Numbers, exactly

Integers, doubles and booleans on one number line.  A number is compared as the dyadic rational it
is, at any magnitude, so an integer next to `2 ^ 53` differs from the double beside it.
-/

namespace ClosedShape

/-- A point of the extended number line, or no number at all. -/
inductive Number where
  | exact (value : Dyadic)
  | infinite (negative : Bool)
  | nan
deriving DecidableEq

namespace Number

/-- Nothing equals `nan`, itself included. -/
def equals : Number → Number → Bool
  | .exact left, .exact right => left = right
  | .infinite left, .infinite right => left = right
  | _, _ => false

/-- Strictly less; never so with `nan` on either side. -/
def less : Number → Number → Bool
  | .exact left, .exact right => left.blt right
  | .infinite left, .infinite right => left && !right
  | .infinite negative, .exact _ => negative
  | .exact _, .infinite negative => !negative
  | _, _ => false

end Number

namespace Double

def toNumber : Double → Number
  | .finite negative mantissa exponent =>
      let signed : Int := if negative then -(mantissa : Int) else mantissa
      .exact (Dyadic.ofIntWithPrec signed (-exponent))
  | .infinite negative => .infinite negative
  | .nan => .nan

end Double

namespace Value

/-- The number that a value is when it is compared; a boolean compares as zero or one. -/
def number? : Value → Option Number
  | .bool truth => some (.exact (Dyadic.ofInt truth.toInt))
  | .int number => some (.exact (Dyadic.ofInt number))
  | .float number => some number.toNumber
  | _ => none

end Value

end ClosedShape
