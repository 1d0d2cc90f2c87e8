import ClosedShape.Json.Reader
/-!
# TOML texts

Blanks, comments, strings and keys of TOML.
-/

namespace ClosedShape.Toml

/-- What is wrong with a TOML document. -/
inductive Reason where
  | statementExpected
  | lineEndExpected
  | keyExpected
  | equalsExpected
  | bracketExpected
  | commaExpected
  | valueExpected
  | unterminatedString
  | illegalCharacter
  | invalidEscape
  | invalidDate
  | declaredTwice
  | overwritten
  | immutable
deriving DecidableEq, Repr, Inhabited

def Reason.text : Reason → String
  | .statementExpected => "Invalid statement"
  | .lineEndExpected => "Expected newline or end of document after a statement"
  | .keyExpected => "Invalid initial character for a key part"
  | .equalsExpected => "Expected '=' after a key in a key/value pair"
  | .bracketExpected => "Expected ']' at the end of a table declaration"
  | .commaExpected => "Unclosed array or inline table"
  | .valueExpected => "Invalid value"
  | .unterminatedString => "Unterminated string"
  | .illegalCharacter => "Illegal character"
  | .invalidEscape => "Unescaped '\\' in a string"
  | .invalidDate => "Invalid date or datetime"
  | .declaredTwice => "Cannot declare a table twice"
  | .overwritten => "Cannot overwrite a value"
  | .immutable => "Cannot mutate immutable namespace"

/-- Why a document cannot be read. -/
inductive ReadError where
  /-- The document is malformed where `remaining` characters are left. -/
  | malformed (reason : Reason) (remaining : Nat)
  | faulty (fault : Fault)
deriving Repr, Inhabited

def malformed {α : Type} (reason : Reason) (rest : List Char) : Except ReadError α :=
  .error (.malformed reason rest.length)

def isBlank (c : Char) : Bool := c = ' ' || c = '\t'

def skipBlanks (text : List Char) : List Char := text.dropWhile isBlank

/-- The control characters that may stand nowhere on a line. -/
def isIllegal (c : Char) : Bool := (c.toNat < 0x20 && c != '\t') || c.toNat = 0x7f

/-- Skips a comment up to the end of its line. -/
def skipComment (text : List Char) : Except ReadError (List Char) :=
  match text with
  | '#' :: rest =>
      let comment := rest.takeWhile (· != '\n')
      if comment.any isIllegal then malformed .illegalCharacter rest
      else .ok (rest.dropWhile (· != '\n'))
  | _ => .ok text

/-- Skips blanks, line ends and comments. -/
def skipLines : Nat → List Char → Except ReadError (List Char)
  | 0, text => .ok text
  | fuel + 1, text =>
      match text.dropWhile fun c => isBlank c || c = '\n' with
      | '#' :: rest => do skipLines fuel (← skipComment ('#' :: rest))
      | rest => .ok rest

/-- Reads `width` hexadecimal digits as a character. -/
def readHexChar (width : Nat) (text : List Char) : Except ReadError (Char × List Char) :=
  let digits := text.take width
  match digits.mapM Json.hexDigit? with
  | some values =>
      let code := values.foldl (fun code digit => 16 * code + digit) 0
      if values.length = width && (code < 0xd800 || (0xdfff < code && code < 0x110000)) then
        .ok (Char.ofNat code, text.drop width)
      else malformed .invalidEscape text
  | none => malformed .invalidEscape text

/-- The character that a short escape stands for. -/
def shortEscape? : Char → Option Char
  | 'b' => some (Char.ofNat 0x08)
  | 't' => some '\t'
  | 'n' => some '\n'
  | 'f' => some (Char.ofNat 0x0c)
  | 'r' => some '\r'
  | '"' => some '"'
  | '\\' => some '\\'
  | _ => none

/-- Reads an escape that writes a character. -/
def readEscape (text : List Char) : Except ReadError (Char × List Char) :=
  match text with
  | 'u' :: rest => readHexChar 4 rest
  | 'U' :: rest => readHexChar 8 rest
  | c :: rest =>
      match shortEscape? c with
      | some escaped => .ok (escaped, rest)
      | none => malformed .invalidEscape text
  | [] => malformed .invalidEscape text

/-- Skips what a backslash at the end of a line joins: the blanks up to the line end, then all
blanks and line ends after it. -/
def joinLines (text : List Char) : Except ReadError (List Char) :=
  match skipBlanks text with
  | '\n' :: rest => .ok (rest.dropWhile fun c => isBlank c || c = '\n')
  | [] => .ok []
  | rest => malformed .invalidEscape rest

/-- Reads the rest of a string in double quotes on one line. -/
def readBasic : Nat → List Char → Except ReadError (List Char × List Char)
  | 0, text => malformed .unterminatedString text
  | fuel + 1, text =>
      match text with
      | [] => malformed .unterminatedString text
      | '"' :: rest => .ok ([], rest)
      | '\\' :: rest => do
          let (c, rest) ← readEscape rest
          let (content, rest) ← readBasic fuel rest
          return (c :: content, rest)
      | c :: rest =>
          if isIllegal c then malformed .illegalCharacter text
          else do
            let (content, rest) ← readBasic fuel rest
            return (c :: content, rest)

/-- Reads the rest of a string in three double quotes, up to the first three that end it. -/
def readBasicLines : Nat → List Char → Except ReadError (List Char × List Char)
  | 0, text => malformed .unterminatedString text
  | fuel + 1, text =>
      match text with
      | [] => malformed .unterminatedString text
      | '"' :: '"' :: '"' :: rest => .ok ([], rest)
      | '\\' :: c :: rest =>
          if isBlank c || c = '\n' then do
            readBasicLines fuel (← joinLines (c :: rest))
          else do
            let (c, rest) ← readEscape (c :: rest)
            let (content, rest) ← readBasicLines fuel rest
            return (c :: content, rest)
      | '\\' :: [] => malformed .invalidEscape text
      | c :: rest =>
          if isIllegal c && c != '\n' then malformed .illegalCharacter text
          else do
            let (content, rest) ← readBasicLines fuel rest
            return (c :: content, rest)

/-- Reads the rest of a string in single quotes on one line. -/
def readLiteral : List Char → Except ReadError (List Char × List Char)
  | [] => malformed .unterminatedString []
  | '\x27' :: rest => .ok ([], rest)
  | c :: rest =>
      if isIllegal c then malformed .illegalCharacter (c :: rest)
      else do
        let (content, rest) ← readLiteral rest
        return (c :: content, rest)

/-- Reads the rest of a string in three single quotes, up to the first three that end it. -/
def readLiteralLines : List Char → Except ReadError (List Char × List Char)
  | '\x27' :: '\x27' :: '\x27' :: rest => .ok ([], rest)
  | [] => malformed .unterminatedString []
  | c :: rest =>
      if isIllegal c && c != '\n' then malformed .illegalCharacter (c :: rest)
      else do
        let (content, rest) ← readLiteralLines rest
        return (c :: content, rest)

/-- Up to two quotes right after the closing ones belong to the string. -/
def extraQuotes (quote : Char) (content rest : List Char) : List Char × List Char :=
  match rest with
  | first :: second :: after =>
      if first = quote && second = quote then (content ++ [quote, quote], after)
      else if first = quote then (content ++ [quote], second :: after)
      else (content, rest)
  | [first] => if first = quote then (content ++ [quote], []) else (content, rest)
  | [] => (content, rest)

/-- A line end right after the opening quotes is dropped. -/
def dropFirstNewline : List Char → List Char
  | '\n' :: rest => rest
  | text => text

/-- Reads a string from its opening quotes on, if one starts here. -/
def readString? (text : List Char) : Option (Except ReadError (String × List Char)) :=
  match text with
  | '"' :: '"' :: '"' :: rest => some do
      let (content, rest) ← readBasicLines (rest.length + 1) (dropFirstNewline rest)
      let (content, rest) := extraQuotes '"' content rest
      return (String.ofList content, rest)
  | '"' :: rest => some do
      let (content, rest) ← readBasic (rest.length + 1) rest
      return (String.ofList content, rest)
  | '\x27' :: '\x27' :: '\x27' :: rest => some do
      let (content, rest) ← readLiteralLines (dropFirstNewline rest)
      let (content, rest) := extraQuotes '\x27' content rest
      return (String.ofList content, rest)
  | '\x27' :: rest => some do
      let (content, rest) ← readLiteral rest
      return (String.ofList content, rest)
  | _ => none

def isBareKey (c : Char) : Bool := c.isAlphanum || c = '-' || c = '_'

/-- Reads one part of a key: bare, or a string on one line. -/
def readKeyPart (text : List Char) : Except ReadError (String × List Char) :=
  match text with
  | '"' :: rest => do
      let (content, rest) ← readBasic (rest.length + 1) rest
      return (String.ofList content, rest)
  | '\x27' :: rest => do
      let (content, rest) ← readLiteral rest
      return (String.ofList content, rest)
  | c :: _ =>
      if isBareKey c then
        .ok (String.ofList (text.takeWhile isBareKey), text.dropWhile isBareKey)
      else malformed .keyExpected text
  | [] => malformed .keyExpected text

/-- Reads the parts of a key between dots, and the blanks after it. -/
def readKey : Nat → List Char → Except ReadError (List String × List Char)
  | 0, text => malformed .keyExpected text
  | fuel + 1, text => do
      let (part, rest) ← readKeyPart text
      match skipBlanks rest with
      | '.' :: rest =>
          let (parts, rest) ← readKey fuel (skipBlanks rest)
          return (part :: parts, rest)
      | rest => return ([part], rest)

end ClosedShape.Toml
