import ClosedShape.Double
/-!
# Reading decimals

The double that a decimal text stands for: digits with an optional point and an optional exponent.
-/

namespace ClosedShape.Double

/-- The number that a run of decimal digits writes; other characters are skipped. -/
def digitsValue (digits : List Char) : Nat :=
  digits.foldl (fun value c => if c.isDigit then 10 * value + (c.toNat - '0'.toNat) else value) 0

/-- Splits off an optional sign. -/
def splitSign : List Char → Bool × List Char
  | '-' :: rest => (true, rest)
  | '+' :: rest => (false, rest)
  | text => (false, text)

/-- The value of a written exponent.  Past six digits every exponent is out of range. -/
def exponentValue (text : List Char) : Int :=
  let (negative, digits) := splitSign text
  let significant := digits.dropWhile (· == '0')
  let magnitude : Int := if 6 < significant.length then 1000000 else digitsValue significant
  if negative then -magnitude else magnitude

/-- The double nearest to a decimal `[sign] digits [. digits] [e [sign] digits]` with a digit before
its exponent; any other text is `none`. -/
def ofText? (text : List Char) : Option Double :=
  let (negative, unsigned) := splitSign text
  let whole := unsigned.takeWhile Char.isDigit
  let afterWhole := unsigned.dropWhile Char.isDigit
  let (fraction, afterFraction) :=
    match afterWhole with
    | '.' :: rest => (rest.takeWhile Char.isDigit, rest.dropWhile Char.isDigit)
    | rest => ([], rest)
  let mantissa := digitsValue (whole ++ fraction)
  if whole.isEmpty && fraction.isEmpty then none
  else
    match afterFraction with
    | [] => some (ofDecimal negative mantissa (-fraction.length))
    | mark :: exponent =>
        let digits := (splitSign exponent).2
        if (mark == 'e' || mark == 'E') && !digits.isEmpty && digits.all Char.isDigit then
          some (ofDecimal negative mantissa (exponentValue exponent - fraction.length))
        else none

end ClosedShape.Double
