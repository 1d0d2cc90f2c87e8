import ClosedShape.Yaml.Numeral
import ClosedShape.Yaml.Timestamp
/-!
# YAML tags

A tag says what a node is read as.  The tag of a plain scalar follows from its text, by the rules of
the version that the document is written in.
-/

namespace ClosedShape.Yaml

inductive Tag where
  | null
  | bool
  | int
  | float
  | text
  | binary
  | timestamp
  | sequence
  | mapping
  | set
  | orderedMapping
  | pairs
  /-- The key that merges another mapping into its own. -/
  | merge
  /-- The key whose value stands for the whole mapping. -/
  | default
  | other (name : String)
deriving DecidableEq, Repr, Inhabited

namespace Tag

/-- What the names of all standard tags start with. -/
def standardNames : String := "tag:yaml.org,2002:"

/-- The standard tags, by the rest of their names. -/
def standard : List (String × Tag) :=
  [("null", .null), ("bool", .bool), ("int", .int), ("float", .float), ("str", .text),
    ("binary", .binary), ("timestamp", .timestamp), ("seq", .sequence), ("map", .mapping),
    ("set", .set), ("omap", .orderedMapping), ("pairs", .pairs), ("merge", .merge),
    ("value", .default)]

def ofName (name : String) : Tag :=
  match standard.find? fun tag => standardNames ++ tag.1 == name with
  | some (_, tag) => tag
  | none => .other name

end Tag

def isDigitOrLine (c : Char) : Bool := c.isDigit || c = '_'

/-- Whether a text is a run of some digits and underscores. -/
def isRun (test : Char → Bool) (text : List Char) : Bool :=
  !text.isEmpty && text.all fun c => test c || c = '_'

def isOctalDigit (c : Char) : Bool := '0' ≤ c && c ≤ '7'

/-- Whether a text is a run of digits and one or more parts of one digit or two after it, up to
fifty-nine, each after a colon. -/
def isSixtieths (text : List Char) : Bool :=
  match sixtieths ':' text with
  | first :: part :: parts =>
      (first.head?.map Char.isDigit).getD false && isRun Char.isDigit first &&
        (part :: parts).all fun
          | [digit] => digit.isDigit
          | [tens, digit] => '0' ≤ tens && tens ≤ '5' && digit.isDigit
          | _ => false
  | _ => false

/-- Whether a text without its sign is an integer in one of the bases of a version. -/
def isUnsignedInteger (version : Version) (text : List Char) : Bool :=
  match text with
  | '0' :: 'b' :: digits => isRun (fun c => c = '0' || c = '1') digits
  | '0' :: 'x' :: digits => isRun (fun c => (Json.hexDigit? c).isSome) digits
  | text =>
      if version = .early then
        isRun isOctalDigit text ||
          (text.head? != some '0' && text.head? != some '_' &&
            (isRun Char.isDigit text || isSixtieths text))
      else
        match text with
        | '0' :: 'o' :: digits => isRun isOctalDigit digits
        | digits => isRun Char.isDigit digits

/-- Whether a text is an exponent.  After a number that starts with its point, the exponent must
have a sign. -/
def isExponent (signed : Bool) : List Char → Bool
  | mark :: rest =>
      let digits := unsigned rest
      (mark = 'e' || mark = 'E') && !digits.isEmpty && digits.all Char.isDigit &&
        (!signed || digits.length < rest.length)
  | [] => false

/-- Whether a text is a decimal that starts with its point. -/
def isFraction (text : List Char) : Bool :=
  match text with
  | '.' :: rest =>
      let after := rest.dropWhile isDigitOrLine
      after.length < rest.length && (after.isEmpty || isExponent true after)
  | _ => false

/-- Whether a text that starts with a digit is a decimal with a point or an exponent. -/
def isPointed (text : List Char) : Bool :=
  let after := text.dropWhile isDigitOrLine
  (text.head?.map Char.isDigit).getD false &&
    match after with
    | '.' :: rest =>
        let after := rest.dropWhile isDigitOrLine
        after.isEmpty || isExponent false after
    | after => isExponent false after

/-- Whether a text is a number to the base of sixty with a point after it, and with digits after the
point or none. -/
def isPointedSixtieths (text : List Char) : Bool :=
  let fraction := text.reverse.takeWhile (· != '.')
  fraction.length < text.length && fraction.all isDigitOrLine &&
    isSixtieths (text.take (text.length - fraction.length - 1))

def isInfinity (text : List Char) : Bool :=
  [".inf", ".Inf", ".INF"].any fun word => word.toList == text

def isNan (text : List Char) : Bool :=
  [".nan", ".NaN", ".NAN"].any fun word => word.toList == text

/-- Whether a text is a decimal of a version.  In the early one a decimal that starts with its point
has no sign. -/
def isDecimal (version : Version) (text : List Char) : Bool :=
  isPointed (unsigned text) || isInfinity (unsigned text) || isNan text ||
    if version = .early then isFraction text || isPointedSixtieths (unsigned text)
    else isFraction (unsigned text)

/-- The words for truth values, as a version has them in plain scalars. -/
def plainTruthWords (version : Version) : List String :=
  ["true", "True", "TRUE", "false", "False", "FALSE"] ++
    if version = .early then
      ["y", "Y", "yes", "Yes", "YES", "n", "N", "no", "No", "NO", "on", "On", "ON", "off", "Off",
        "OFF"]
    else []

namespace Tag

/-- The tag of a text that is not empty and does not end in a line feed. -/
def ofLine (version : Version) (text : List Char) : Tag :=
  let startsLikeNumber := (text.head?.map fun c => c = '-' || c = '+' || c.isDigit).getD false
  let line := String.ofList text
  if (plainTruthWords version).contains line then .bool
  else if isDecimal version text then .float
  else if startsLikeNumber && isUnsignedInteger version (unsigned text) then .int
  else if line = "<<" then .merge
  else if ["~", "null", "Null", "NULL"].contains line then .null
  else if ((Timestamp.ofText? text).map Timestamp.isPlain).getD false then .timestamp
  else if line = "=" then .default
  else if ["!", "&", "*"].contains line then .other (standardNames ++ "yaml")
  else .text

/-- The tag of a plain scalar.  A line feed at its end says nothing.  Only two versions have rules
for this, and what is no row of characters is a text. -/
def ofPlain (version : Version) (content : Text) : Except Fault Tag :=
  if version != .early && version != .usual then .error (.notFound version.source)
  else
    match content.chars? with
    | none => .ok .text
    | some [] => .ok .null
    | some chars =>
        match chars.reverse with
        | '\n' :: rest => .ok (if rest.isEmpty then .text else ofLine version rest.reverse)
        | _ => .ok (ofLine version chars)

end Tag

end ClosedShape.Yaml
