import ClosedShape.Double.Decimal
import ClosedShape.Fault
import ClosedShape.Json.Reader
import ClosedShape.Text.Blank
import ClosedShape.Text.DecimalDigit
/-!
# Numerals

Reads integers and decimals as people write them: blanks may stand around them, digits may be of
any script, and a decimal may be a word for infinity or for no number.
-/

namespace ClosedShape.Text

/-- A character of a numeral, with digits and blanks of all scripts made plain.  What cannot be in
a numeral becomes a question mark. -/
def plainCharacter : CodePoint → Char
  | .char c =>
      if c.toNat < 0x7f then c
      else if isUnicodeBlank c then ' '
      else
        match decimalDigit? c with
        | some digit => Char.ofNat ('0'.toNat + digit)
        | none => '?'
  | .surrogate _ => '?'

/-- A numeral in plain characters, without the blanks around it. -/
def plainNumeral (numeral : Text) : List Char :=
  let plain := (numeral.map plainCharacter).dropWhile isPlainBlank
  (plain.reverse.dropWhile isPlainBlank).reverse

/-- The letter that can mark a numeral as one of a base, after a zero. -/
def baseLetter? : Nat → Option Char
  | 2 => some 'b'
  | 8 => some 'o'
  | 16 => some 'x'
  | _ => none

/-- Drops the mark of a base. -/
def dropBaseMark (base : Nat) (numeral : List Char) : List Char :=
  match numeral with
  | '0' :: letter :: digits => if baseLetter? base = some letter.toLower then digits else numeral
  | numeral => numeral

/-- The value of a digit of a base. -/
def digitOf? (base : Nat) (c : Char) : Option Nat := do
  let digit ← Json.hexDigit? c
  if digit < base then some digit else none

/-- Reads an integer of a base up to sixteen.  Only decimal digits are subject to the digit limit,
which is checked before what follows them. -/
def integerOfText (base : Nat) (numeral : Text) : Except Fault Int :=
  let (negative, unsigned) := Double.splitSign (plainNumeral numeral)
  let unsigned := dropBaseMark base unsigned
  let digits := unsigned.takeWhile fun c => (digitOf? base c).isSome
  if base = 10 && digitLimit < digits.length then .error (.numeralTooLong digits.length)
  else if digits.isEmpty || digits.length < unsigned.length then
    .error (.numeralMalformed base numeral)
  else
    let magnitude : Int :=
      ((digits.filterMap (digitOf? base)).foldl (fun value digit => base * value + digit) 0 : Nat)
    .ok (if negative then -magnitude else magnitude)

/-- The words for a number that is infinite and for one that is none, in lower case. -/
def numberWords : List (String × Double) :=
  [("inf", .infinite false), ("infinity", .infinite false), ("nan", .nan)]

/-- Reads a decimal, or a word for a number that has no digits. -/
def decimalOfText (numeral : Text) : Except Fault Double :=
  let plain := plainNumeral numeral
  let (negative, unsigned) := Double.splitSign plain
  match numberWords.lookup (String.ofList (unsigned.map Char.toLower)), Double.ofText? plain with
  | some number, _ => .ok (if negative then number.negate else number)
  | none, some number => .ok number
  | none, none => .error (.decimalMalformed numeral)

end ClosedShape.Text
