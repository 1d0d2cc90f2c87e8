import ClosedShape.Double
/-!
# The shortest decimal of a double

The text of a double has the fewest significant digits that still read back as the same double,
and of those the digits nearest to its value.
-/

namespace ClosedShape.Double

/-- Compares the decimal `digits * 10 ^ place` with `quarters * 2 ^ (exponent - 2)`. -/
def compareDecimal (digits : Nat) (place : Int) (quarters : Nat) (exponent : Int) : Ordering :=
  compare
    (digits * Nat.pow 10 place.toNat * Nat.pow 2 (2 - exponent).toNat)
    (quarters * Nat.pow 2 (exponent - 2).toNat * Nat.pow 10 (-place).toNat)

/-- The decimal exponent of the leading digit of `mantissa * 2 ^ exponent`. -/
def leadingPlace (mantissa : Nat) (exponent : Int) : Int :=
  let guess := (((mantissa.log2 : Int) + exponent) * 30103).fdiv 100000 + 1
  if compareDecimal 1 guess (4 * mantissa) exponent != .gt then guess
  else if compareDecimal 1 (guess - 1) (4 * mantissa) exponent != .gt then guess - 1
  else guess - 2

/-- Whether the double nearest to `digits * 10 ^ place` is `mantissa * 2 ^ exponent`: the decimal
lies between the midpoints to the two neighbours, on a midpoint only if the mantissa is even. -/
def readsBack (digits : Nat) (place : Int) (mantissa : Nat) (exponent : Int) : Bool :=
  let below :=
    if mantissa = Nat.pow 2 52 ∧ leastExponent < exponent then 4 * mantissa - 1
    else 4 * mantissa - 2
  match compareDecimal digits place below exponent,
      compareDecimal digits place (4 * mantissa + 2) exponent with
  | .gt, .lt => true
  | .eq, _ | _, .eq => mantissa % 2 = 0
  | _, _ => false

/-- The two multiples of `10 ^ place` around a number, the nearer first and halfway the even one. -/
def decimalNeighbours (mantissa : Nat) (exponent place : Int) : Nat × Nat :=
  let numerator := mantissa * Nat.pow 2 exponent.toNat * Nat.pow 10 (-place).toNat
  let denominator := Nat.pow 2 (-exponent).toNat * Nat.pow 10 place.toNat
  let lower := numerator / denominator
  if roundHalfEven numerator denominator = lower then (lower, lower + 1) else (lower + 1, lower)

/-- Tries one significant digit more at each step.  Seventeen always suffice. -/
def shortestFrom (mantissa : Nat) (exponent place : Int) : Nat → Nat × Int
  | 0 => ((decimalNeighbours mantissa exponent place).1, place)
  | attempts + 1 =>
      let (nearer, farther) := decimalNeighbours mantissa exponent place
      if readsBack nearer place mantissa exponent then (nearer, place)
      else if readsBack farther place mantissa exponent then (farther, place)
      else shortestFrom mantissa exponent (place - 1) attempts

/-- The shortest decimal `digits * 10 ^ place` that reads back as a positive double. -/
def shortest (mantissa : Nat) (exponent : Int) : Nat × Int :=
  shortestFrom mantissa exponent (leadingPlace mantissa exponent) 17

/-- Where the digits of a double are written around a point, and where with an exponent. -/
structure Layout where
  /-- The least exponent of the leading digit that is still written positionally. -/
  positionalFrom : Int
  /-- The least exponent of the leading digit that is written with an exponent again. -/
  positionalBelow : Int
  /-- The fewest digits of a written exponent. -/
  exponentWidth : Nat
  /-- The sign of an exponent that is not negative. -/
  plus : String
deriving DecidableEq, Repr, Inhabited

/-- Positional from a ten-thousandth up to sixteen digits before the point, and exponents of at
least two digits. -/
def Layout.standard : Layout := ⟨-4, 16, 2, "+"⟩

/-- Positional from a hundred-thousandth on, and exponents without anything that says nothing. -/
def Layout.terse : Layout := ⟨-5, 16, 1, ""⟩

private def zeros (count : Nat) : String := String.ofList (List.replicate count '0')

private def padLeft (width : Nat) (text : String) : String := zeros (width - text.length) ++ text

/-- Writes `digits * 10 ^ place`.  A positional number always has a digit after its point. -/
def Layout.write (layout : Layout) (digits : Nat) (place : Int) : String :=
  let text := (toString digits).toList.reverse.dropWhile (· == '0') |>.reverse
  let leading := place + (toString digits).length - 1
  if leading < layout.positionalFrom ∨ layout.positionalBelow ≤ leading then
    let fraction := if text.length ≤ 1 then "" else "." ++ String.ofList (text.drop 1)
    let sign := if leading < 0 then "-" else layout.plus
    String.ofList (text.take 1) ++ fraction ++ "e" ++ sign ++
      padLeft layout.exponentWidth (toString leading.natAbs)
  else if leading < 0 then
    "0." ++ zeros (-leading - 1).toNat ++ String.ofList text
  else
    let whole := leading.toNat + 1
    let fraction := text.drop whole
    String.ofList (text.take whole) ++ zeros (whole - text.length) ++ "." ++
      (if fraction.isEmpty then "0" else String.ofList fraction)

/-- Writes a double, with its sign also on zero. -/
def write (layout : Layout) : Double → String
  | .nan => "nan"
  | .infinite negative => if negative then "-inf" else "inf"
  | .finite negative mantissa exponent =>
      let sign := if negative then "-" else ""
      if mantissa = 0 then sign ++ "0.0"
      else
        let (digits, place) := shortest mantissa exponent
        sign ++ layout.write digits place

/-- The text of a double. -/
def text (number : Double) : String := number.write .standard

end ClosedShape.Double
