/-!
# Doubles

A binary floating-point number of double precision, kept as the exact number it stands for, and
the double nearest to a given fraction or decimal.
-/

namespace ClosedShape

/-- A finite double is `± mantissa * 2 ^ exponent`.  Of the ways to write one number `ofRatio`
takes the one with the largest mantissa below `2 ^ 53` whose exponent is at least `-1074`, so that
equal numbers of one sign are equal terms. -/
inductive Double where
  | finite (negative : Bool) (mantissa : Nat) (exponent : Int)
  | infinite (negative : Bool)
  | nan
deriving DecidableEq, Repr, Inhabited

namespace Double

/-- The exponent of the smallest positive double. -/
def leastExponent : Int := -1074

/-- The exponent of the largest finite doubles. -/
def greatestExponent : Int := 971

def zero (negative : Bool) : Double := .finite negative 0 leastExponent

/-- The integer nearest to a fraction; a half goes to the even neighbour. -/
def roundHalfEven (numerator denominator : Nat) : Nat :=
  let quotient := numerator / denominator
  let twice := 2 * (numerator % denominator)
  if twice < denominator then quotient
  else if denominator < twice then quotient + 1
  else quotient + quotient % 2

/-- The exponent of the largest power of two that is at most a positive fraction. -/
def floorLog2 (numerator denominator : Nat) : Int :=
  let guess : Int := (numerator.log2 : Int) - denominator.log2
  let scaled := numerator * Nat.pow 2 (-guess).toNat
  if scaled < denominator * Nat.pow 2 guess.toNat then guess - 1 else guess

/-- The double nearest to a fraction; a tie goes to the even mantissa, and what rounds beyond the
largest finite double is infinite. -/
def ofRatio (negative : Bool) (numerator denominator : Nat) : Double :=
  if numerator = 0 then zero negative
  else
    let exponent := max (floorLog2 numerator denominator - 52) leastExponent
    let mantissa :=
      roundHalfEven (numerator * Nat.pow 2 (-exponent).toNat)
        (denominator * Nat.pow 2 exponent.toNat)
    let (mantissa, exponent) :=
      if mantissa = Nat.pow 2 53 then (Nat.pow 2 52, exponent + 1) else (mantissa, exponent)
    if greatestExponent < exponent then .infinite negative else .finite negative mantissa exponent

/-- The double nearest to `± digits * 10 ^ exponent`.  Exponents far outside the range of doubles
are answered without computing the power. -/
def ofDecimal (negative : Bool) (digits : Nat) (exponent : Int) : Double :=
  if digits = 0 then zero negative
  else if 400 < exponent then .infinite negative
  else if exponent + (digits.log2 / 3 : Nat) < -400 then zero negative
  else ofRatio negative (digits * Nat.pow 10 exponent.toNat) (Nat.pow 10 (-exponent).toNat)

def negate : Double → Double
  | .finite negative mantissa exponent => .finite (!negative) mantissa exponent
  | .infinite negative => .infinite (!negative)
  | .nan => .nan

def isZero : Double → Bool
  | .finite _ mantissa _ => mantissa = 0
  | _ => false

/-- The integer a finite double is, if it is one. -/
def toInt? : Double → Option Int
  | .finite negative mantissa exponent =>
      let scale := Nat.pow 2 (-exponent).toNat
      if mantissa % scale = 0 then
        let magnitude : Int := (mantissa / scale * Nat.pow 2 exponent.toNat : Nat)
        some (if negative then -magnitude else magnitude)
      else none
  | _ => none

end Double

end ClosedShape
