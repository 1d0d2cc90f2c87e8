import ClosedShape.Calendar.Reader
import ClosedShape.Toml.Text
/-!
# TOML numbers and dates

Integers in four bases, decimals, and dates and times.  Single underscores may stand between
digits.
-/

namespace ClosedShape.Toml

/-- Splits off digits of some class; an underscore counts only between two of them. -/
def spanDigits (isDigit : Char → Bool) : List Char → List Char × List Char
  | c :: rest =>
      if isDigit c then
        let (digits, rest) := spanDigits isDigit rest
        (c :: digits, rest)
      else if c = '_' && (rest.head?.map isDigit).getD false then spanDigits isDigit rest
      else ([], c :: rest)
  | [] => ([], [])

/-- Splits off digits that start right here. -/
def spanDigits? (isDigit : Char → Bool) (text : List Char) : Option (List Char × List Char) :=
  if (text.head?.map isDigit).getD false then some (spanDigits isDigit text) else none

private def digitsIn (base : Nat) (digits : List Char) : Nat :=
  digits.foldl (fun value c => base * value + (Json.hexDigit? c).getD 0) 0

/-- Reads an integer after its base mark. -/
def readBased? (text : List Char) : Option (Value × List Char) :=
  let based := fun (base : Nat) (isDigit : Char → Bool) (rest : List Char) =>
    (spanDigits? isDigit rest).map fun (digits, rest) =>
      (Value.int (digitsIn base digits), rest)
  match text with
  | '0' :: 'x' :: rest => based 16 (fun c => (Json.hexDigit? c).isSome) rest
  | '0' :: 'b' :: rest => based 2 (fun c => c = '0' || c = '1') rest
  | '0' :: 'o' :: rest => based 8 (fun c => '0' ≤ c && c ≤ '7') rest
  | _ => none

/-- Splits off the digits of a decimal before its point: a zero alone, or digits that start with
another. -/
def wholePart? (text : List Char) : Option (List Char × List Char) :=
  match text with
  | '0' :: rest => some (['0'], rest)
  | _ => spanDigits? Char.isDigit text

/-- Splits off a point with digits, if there is one. -/
def fractionPart (text : List Char) : List Char × List Char :=
  match text with
  | '.' :: rest =>
      match spanDigits? Char.isDigit rest with
      | some (digits, rest) => ('.' :: digits, rest)
      | none => ([], text)
  | _ => ([], text)

/-- Splits off an exponent, if there is one. -/
def exponentPart (text : List Char) : List Char × List Char :=
  match text with
  | mark :: rest =>
      if mark = 'e' || mark = 'E' then
        let (sign, unsigned) :=
          match rest with
          | '+' :: unsigned => (['+'], unsigned)
          | '-' :: unsigned => (['-'], unsigned)
          | unsigned => ([], unsigned)
        match spanDigits? Char.isDigit unsigned with
        | some (digits, rest) => (mark :: sign ++ digits, rest)
        | none => ([], text)
      else ([], text)
  | [] => ([], text)

/-- Reads a decimal number, if one starts here. -/
def readDecimal? (text : List Char) : Option (Except ReadError (Value × List Char)) :=
  let (sign, unsigned) :=
    match text with
    | '+' :: unsigned => (['+'], unsigned)
    | '-' :: unsigned => (['-'], unsigned)
    | unsigned => ([], unsigned)
  (wholePart? unsigned).map fun (whole, rest) =>
    let (fraction, rest) := fractionPart rest
    let (exponent, rest) := exponentPart rest
    if fraction.isEmpty && exponent.isEmpty then
      match Json.integerOfDigits (sign == ['-']) whole with
      | .ok number => .ok (.int number, rest)
      | .error fault => .error (.faulty fault)
    else
      match Double.ofText? (sign ++ whole ++ fraction ++ exponent) with
      | some number => .ok (.float number, rest)
      | none => malformed .valueExpected text

/-- Reads a date, or a date with a time.  The date must exist. -/
def readMoment? (text : List Char) : Option (Except ReadError (Value × List Char)) :=
  (Calendar.readDate text).map fun (day, rest) =>
    if !day.isValid then malformed .invalidDate text
    else
      match Calendar.readClock rest with
      | some (clock, offset, rest) => .ok (.moment ⟨day, clock, offset⟩, rest)
      | none => .ok (.date day, rest)

/-- The words that stand for doubles. -/
def doubleWords : List (List Char × Value) :=
  [("inf".toList, .float (.infinite false)), ("nan".toList, .float .nan),
    ("+inf".toList, .float (.infinite false)), ("-inf".toList, .float (.infinite true)),
    ("+nan".toList, .float .nan), ("-nan".toList, .float .nan)]

/-- Reads a date, a time or a number; what starts like a date is one. -/
def readNumeral (text : List Char) : Except ReadError (Value × List Char) :=
  match readMoment? text, Calendar.readTime text, readBased? text, readDecimal? text with
  | some reading, _, _, _ => reading
  | none, some (clock, rest), _, _ => .ok (.time clock, rest)
  | none, none, some reading, _ => .ok reading
  | none, none, none, some reading => reading
  | none, none, none, none =>
      let reading := doubleWords.findSome? fun word =>
        (Json.afterWord? word.1 text).map fun rest => (word.2, rest)
      match reading with
      | some reading => .ok reading
      | none => malformed .valueExpected text

end ClosedShape.Toml
