import ClosedShape.Double.Arithmetic
import ClosedShape.Text.LowerCase
import ClosedShape.Text.Numeral
import ClosedShape.Yaml.Version
/-!
# YAML numbers and truth values

What the text of a scalar stands for once its tag says that it is a number or a truth value.
-/

namespace ClosedShape.Yaml

/-- What a text says without its sign. -/
def unsigned (text : List Char) : List Char := (Double.splitSign text).2

/-- The parts of a numeral between colons. -/
def sixtieths {α : Type} [BEq α] (colon : α) (numeral : List α) : List (List α) :=
  numeral.splitOn colon

/-- Splits off the sign of a numeral. -/
def splitSign : Text → Bool × Text
  | .char '-' :: rest => (true, rest)
  | .char '+' :: rest => (false, rest)
  | text => (false, text)

/-- Reads an integer without its sign.  In the early version a leading zero means the base of eight,
and colons stand between digits of the base of sixty. -/
def magnitude (version : Version) (numeral : Text) : Except Fault Int :=
  match numeral with
  | .char '0' :: .char 'b' :: digits => Text.integerOfText 2 digits
  | .char '0' :: .char 'x' :: digits => Text.integerOfText 16 digits
  | .char '0' :: .char 'o' :: digits => Text.integerOfText 8 digits
  | numeral =>
      if version = .early then
        match numeral with
        | [] => .error .numeralEmpty
        | [.char '0'] => .ok 0
        | .char '0' :: _ => Text.integerOfText 8 numeral
        | numeral =>
            if numeral.contains (.char ':') then do
              let parts ← (sixtieths (.char ':') numeral).mapM (Text.integerOfText 10)
              return parts.foldl (fun value part => 60 * value + part) 0
            else Text.integerOfText 10 numeral
      else Text.integerOfText 10 numeral

/-- Reads an integer.  Underscores between its digits say nothing. -/
def integer (version : Version) (content : Text) : Except Fault Int := do
  match content.filter (· != .char '_') with
  | [] => throw .numeralEmpty
  | numeral =>
      let (negative, numeral) := splitSign numeral
      let size ← magnitude version numeral
      return if negative then -size else size

/-- The sum of parts of which each counts sixty times the one after it. -/
def sumOfSixtieths (parts : List Double) : Except Fault Double :=
  let addPart := fun (sum : Double) (part : Double × Nat) =>
    match Double.ofInt (Int.pow 60 part.2) with
    | .infinite _ => .error .integerTooLarge
    | unit => .ok (sum.add (part.1.multiply unit))
  parts.reverse.zipIdx.foldlM addPart (Double.zero false)

/-- Reads a decimal without its sign.  Only the usual version knows no base of sixty. -/
def decimalMagnitude (version : Version) (numeral : Text) : Except Fault Double :=
  if numeral = ".inf" then .ok (.infinite false)
  else if numeral = ".nan" then .ok .nan
  else if version = .usual then Text.decimalOfText numeral
  else if numeral.contains (.char ':') then do
    sumOfSixtieths (← (sixtieths (.char ':') numeral).mapM Text.decimalOfText)
  else if 1 < numeral.count (.char 'e') then .error .numeralInParts
  else Text.decimalOfText numeral

/-- Reads a decimal.  Underscores between its digits say nothing. -/
def decimal (version : Version) (content : Text) : Except Fault Double := do
  match Text.lowerPoints [] (content.filter (· != .char '_')) with
  | [] => throw .numeralEmpty
  | numeral =>
      let (negative, numeral) := splitSign numeral
      let size ← decimalMagnitude version numeral
      return if negative then size.negate else size

/-- The words for truth values, in lower case. -/
def truthWords : List (Text × Bool) :=
  [("yes", true), ("no", false), ("y", true), ("n", false), ("true", true), ("false", false),
    ("on", true), ("off", false)]

def truth (content : Text) : Except Fault Bool :=
  let word := Text.lowerPoints [] content
  match truthWords.lookup word with
  | some truth => .ok truth
  | none => .error (.missing word)

end ClosedShape.Yaml
