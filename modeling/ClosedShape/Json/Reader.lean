import ClosedShape.Double.Decimal
import ClosedShape.Fault
import ClosedShape.Value.Equality
/-!
# Reading JSON

Reads JSON with the three names for doubles that JSON lacks, and with integers up to the digit
limit.  A failure names its reason and how much of the text was left.
-/

namespace ClosedShape.Json

/-- What is wrong with a JSON text. -/
inductive Reason where
  | byteOrderMark
  | valueExpected
  | nameExpected
  | colonExpected
  | commaExpected
  | extraData
  | unterminatedString
  | controlCharacter
  | invalidEscape
  | invalidUnicodeEscape
deriving DecidableEq, Repr, Inhabited

def Reason.text : Reason → String
  | .byteOrderMark => "Unexpected UTF-8 BOM (decode using utf-8-sig)"
  | .valueExpected => "Expecting value"
  | .nameExpected => "Expecting property name enclosed in double quotes"
  | .colonExpected => "Expecting ':' delimiter"
  | .commaExpected => "Expecting ',' delimiter"
  | .extraData => "Extra data"
  | .unterminatedString => "Unterminated string starting at"
  | .controlCharacter => "Invalid control character at"
  | .invalidEscape => "Invalid \\escape"
  | .invalidUnicodeEscape => "Invalid \\uXXXX escape"

/-- Why a text cannot be read. -/
inductive ReadError where
  /-- The text is malformed where `remaining` characters are left. -/
  | malformed (reason : Reason) (remaining : Nat)
  | faulty (fault : Fault)
deriving Repr, Inhabited

private def malformedAt {α : Type} (reason : Reason) (rest : List Char) : Except ReadError α :=
  .error (.malformed reason rest.length)

def isSpace (c : Char) : Bool := c = ' ' || c = '\t' || c = '\n' || c = '\r'

def skipSpace (text : List Char) : List Char := text.dropWhile isSpace

/-- The value of a hexadecimal digit. -/
def hexDigit? (c : Char) : Option Nat :=
  if c.isDigit then some (c.toNat - '0'.toNat)
  else if 'a' ≤ c ∧ c ≤ 'f' then some (c.toNat - 'a'.toNat + 10)
  else if 'A' ≤ c ∧ c ≤ 'F' then some (c.toNat - 'A'.toNat + 10)
  else none

/-- Reads four hexadecimal digits that are not the end of the text. -/
def hexUnit? : List Char → Option (Nat × List Char)
  | a :: b :: c :: d :: e :: rest => do
      let a ← hexDigit? a
      let b ← hexDigit? b
      let c ← hexDigit? c
      let d ← hexDigit? d
      some (((16 * a + b) * 16 + c) * 16 + d, e :: rest)
  | _ => none

def isHighUnit (unit : Nat) : Bool := 0xd800 ≤ unit && unit < 0xdc00

def isLowUnit (unit : Nat) : Bool := 0xdc00 ≤ unit && unit < 0xe000

/-- Reads the code point after `\u`.  Two units may make one character; a half alone stays one. -/
def unicodeEscape (mark : List Char) (text : List Char) :
    Except ReadError (CodePoint × List Char) :=
  match hexUnit? text with
  | none => malformedAt .invalidUnicodeEscape mark
  | some (unit, rest) =>
      match isHighUnit unit, rest with
      | true, '\\' :: 'u' :: low =>
          if low.length < 5 then .ok (.ofCode unit, rest)
          else
            match hexUnit? low with
            | none => malformedAt .invalidUnicodeEscape ('u' :: low)
            | some (second, rest') =>
                if isLowUnit second then
                  .ok (.ofCode (0x10000 + (unit - 0xd800) * 0x400 + (second - 0xdc00)), rest')
                else .ok (.ofCode unit, rest)
      | _, _ => .ok (.ofCode unit, rest)

/-- The character that a short escape stands for. -/
def shortEscape? : Char → Option Char
  | '"' => some '"'
  | '\\' => some '\\'
  | '/' => some '/'
  | 'b' => some (Char.ofNat 0x08)
  | 'f' => some (Char.ofNat 0x0c)
  | 'n' => some '\n'
  | 'r' => some '\r'
  | 't' => some '\t'
  | _ => none

/-- Reads the rest of a string whose opening quote has `start` characters from it on. -/
def readString (start : Nat) : Nat → List Char → Except ReadError (Text × List Char)
  | 0, _ => .error (.malformed .unterminatedString start)
  | fuel + 1, text =>
      match text with
      | [] => .error (.malformed .unterminatedString start)
      | '"' :: rest => .ok ([], rest)
      | '\\' :: [] => .error (.malformed .unterminatedString start)
      | '\\' :: 'u' :: rest => do
          let (c, rest) ← unicodeEscape ('u' :: rest) rest
          let (others, rest) ← readString start fuel rest
          return (c :: others, rest)
      | '\\' :: c :: rest =>
          match shortEscape? c with
          | none => malformedAt .invalidEscape ('\\' :: c :: rest)
          | some escaped => do
              let (others, rest) ← readString start fuel rest
              return (.char escaped :: others, rest)
      | c :: rest =>
          if c.toNat < 0x20 then malformedAt .controlCharacter (c :: rest)
          else do
            let (others, rest) ← readString start fuel rest
            return (.char c :: others, rest)

/-- Reads a string from its opening quote on. -/
def readQuoted (text : List Char) : Except ReadError (Text × List Char) :=
  match text with
  | '"' :: rest => readString text.length (rest.length + 1) rest
  | _ => malformedAt .nameExpected text

/-- Splits off the integer part of a number: a zero alone, or digits that start with another. -/
def integerPart : List Char → Option (List Char × List Char)
  | '0' :: rest => some (['0'], rest)
  | c :: rest =>
      if c.isDigit then some (c :: rest.takeWhile Char.isDigit, rest.dropWhile Char.isDigit)
      else none
  | [] => none

/-- Splits off a point with digits. -/
def fractionPart : List Char → List Char × List Char
  | '.' :: c :: rest =>
      if c.isDigit then
        ('.' :: c :: rest.takeWhile Char.isDigit, rest.dropWhile Char.isDigit)
      else ([], '.' :: c :: rest)
  | text => ([], text)

/-- Splits off an exponent with digits. -/
def exponentPart (text : List Char) : List Char × List Char :=
  match text with
  | mark :: rest =>
      if mark = 'e' || mark = 'E' then
        let (sign, digits) :=
          match rest with
          | '+' :: digits => (['+'], digits)
          | '-' :: digits => (['-'], digits)
          | digits => ([], digits)
        let exponent := digits.takeWhile Char.isDigit
        if exponent.isEmpty then ([], text)
        else (mark :: sign ++ exponent, digits.dropWhile Char.isDigit)
      else ([], text)
  | [] => ([], text)

/-- The integer that digits write, up to the digit limit. -/
def integerOfDigits (negative : Bool) (digits : List Char) : Except Fault Int :=
  if digitLimit < digits.length then .error (.numeralTooLong digits.length)
  else
    let magnitude : Int := Double.digitsValue digits
    .ok (if negative then -magnitude else magnitude)

/-- Reads a number.  One without fraction and exponent is an integer. -/
def readNumber (text : List Char) : Except ReadError (Value × List Char) :=
  let (sign, unsigned) :=
    match text with
    | '-' :: rest => (['-'], rest)
    | _ => ([], text)
  match integerPart unsigned with
  | none => malformedAt .valueExpected text
  | some (whole, rest) =>
      let (fraction, rest) := fractionPart rest
      let (exponent, rest) := exponentPart rest
      if fraction.isEmpty && exponent.isEmpty then
        match integerOfDigits (!sign.isEmpty) whole with
        | .ok number => .ok (.int number, rest)
        | .error fault => .error (.faulty fault)
      else
        match Double.ofText? (sign ++ whole ++ fraction ++ exponent) with
        | some number => .ok (.float number, rest)
        | none => malformedAt .valueExpected text

/-- Splits off a word that a text starts with. -/
def afterWord? (word text : List Char) : Option (List Char) :=
  if word.isPrefixOf text then some (text.drop word.length) else none

/-- The words that stand for values. -/
def words : List (List Char × Value) :=
  [("null".toList, .null), ("true".toList, .bool true), ("false".toList, .bool false),
    ("NaN".toList, .float .nan), ("Infinity".toList, .float (.infinite false)),
    ("-Infinity".toList, .float (.infinite true))]

/-- Reads a word or a number. -/
def readAtom (text : List Char) : Except ReadError (Value × List Char) :=
  match words.findSome? fun word => (afterWord? word.1 text).map fun rest => (word.2, rest) with
  | some reading => .ok reading
  | none => readNumber text

mutual

/-- Reads a value that starts right here. -/
def readValue : Nat → List Char → Except ReadError (Value × List Char)
  | 0, text => malformedAt .valueExpected text
  | fuel + 1, text =>
      match text with
      | '"' :: _ => do
          let (content, rest) ← readQuoted text
          return (.text content, rest)
      | '[' :: rest =>
          match skipSpace rest with
          | ']' :: rest => .ok (.list [], rest)
          | rest => do
              let (items, rest) ← readItems fuel rest
              return (.list items, rest)
      | '\x7b' :: rest =>
          match skipSpace rest with
          | '\x7d' :: rest => .ok (.object [], rest)
          | rest => do
              let (entries, rest) ← readEntries fuel rest
              return (.object (Value.ofEntries entries), rest)
      | _ => readAtom text

/-- Reads the items of an array up to its closing bracket. -/
def readItems : Nat → List Char → Except ReadError (List Value × List Char)
  | 0, text => malformedAt .valueExpected text
  | fuel + 1, text => do
      let (item, rest) ← readValue fuel text
      match skipSpace rest with
      | ']' :: rest => return ([item], rest)
      | ',' :: rest =>
          let (items, rest) ← readItems fuel (skipSpace rest)
          return (item :: items, rest)
      | rest => malformedAt .commaExpected rest

/-- Reads the members of an object up to its closing brace. -/
def readEntries : Nat → List Char → Except ReadError (List (Value × Value) × List Char)
  | 0, text => malformedAt .nameExpected text
  | fuel + 1, text => do
      let (name, rest) ← readQuoted text
      match skipSpace rest with
      | ':' :: rest =>
          let (value, rest) ← readValue fuel (skipSpace rest)
          match skipSpace rest with
          | '\x7d' :: rest => return ([(.text name, value)], rest)
          | ',' :: rest =>
              let (entries, rest) ← readEntries fuel (skipSpace rest)
              return ((.text name, value) :: entries, rest)
          | rest => malformedAt .commaExpected rest
      | rest => malformedAt .colonExpected rest

end

/-- Reads a whole text. -/
def read (text : List Char) : Except ReadError Value := do
  if text.head? = some (Char.ofNat 0xfeff) then malformedAt .byteOrderMark text
  let (value, rest) ← readValue (2 * text.length + 2) (skipSpace text)
  match skipSpace rest with
  | [] => return value
  | rest => malformedAt .extraData rest

/-- The text of a failure: its reason and its place, as line, column and index. -/
def describe (text : List Char) (reason : Reason) (remaining : Nat) : String :=
  let index := text.length - remaining
  let before := text.take index
  let line := before.count '\n' + 1
  let column := (before.reverse.takeWhile (· != '\n')).length + 1
  reason.text ++ s!": line {line} column {column} (char {index})"

end ClosedShape.Json
