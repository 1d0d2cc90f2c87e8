import ClosedShape.Toml.Number
import ClosedShape.Toml.Table
/-!
# Reading TOML

Reads TOML documents, version 1.0.
-/

namespace ClosedShape.Toml

mutual

/-- Reads a value that starts right here. -/
def readValue : Nat → List Char → Except ReadError (Value × List Char)
  | 0, text => malformed .valueExpected text
  | fuel + 1, text =>
      match readString? text with
      | some reading => do
          let (content, rest) ← reading
          return (.text content, rest)
      | none =>
          match text with
          | '[' :: rest => do
              match ← skipLines rest.length rest with
              | ']' :: rest => return (.list [], rest)
              | rest =>
                  let (items, rest) ← readItems fuel rest
                  return (.list items, rest)
          | '\x7b' :: rest =>
              match skipBlanks rest with
              | '\x7d' :: rest => .ok (.object [], rest)
              | rest => do
                  let (entries, rest) ← readInline fuel ([], []) rest
                  return (.object entries, rest)
          | _ =>
              match Json.afterWord? "true".toList text, Json.afterWord? "false".toList text with
              | some rest, _ => .ok (.bool true, rest)
              | none, some rest => .ok (.bool false, rest)
              | none, none => readNumeral text

/-- Reads the items of an array up to its closing bracket.  A comma may stand after the last. -/
def readItems : Nat → List Char → Except ReadError (List Value × List Char)
  | 0, text => malformed .valueExpected text
  | fuel + 1, text => do
      let (item, rest) ← readValue fuel text
      match ← skipLines rest.length rest with
      | ']' :: rest => return ([item], rest)
      | ',' :: rest =>
          match ← skipLines rest.length rest with
          | ']' :: rest => return ([item], rest)
          | rest =>
              let (items, rest) ← readItems fuel rest
              return (item :: items, rest)
      | rest => malformed .commaExpected rest

/-- Reads the entries of an inline table up to its closing brace, on one line. -/
def readInline : Nat → Entries × List (List String) → List Char →
    Except ReadError (Entries × List Char)
  | 0, _, text => malformed .keyExpected text
  | fuel + 1, table, text => do
      let (key, rest) ← readKey (text.length + 1) text
      match rest with
      | '=' :: rest =>
          let (value, rest) ← readValue fuel (skipBlanks rest)
          match addInline key value table with
          | .error reason => malformed reason rest
          | .ok table =>
              match skipBlanks rest with
              | '\x7d' :: rest => return (table.1, rest)
              | ',' :: rest => readInline fuel table (skipBlanks rest)
              | rest => malformed .commaExpected rest
      | _ => malformed .equalsExpected rest

end

/-- An outcome of building, as one of reading. -/
def orMalformed {α : Type} (rest : List Char) (outcome : Except Reason α) :
    Except ReadError α :=
  match outcome with
  | .ok result => .ok result
  | .error reason => malformed reason rest

/-- Reads one statement: a header, or a key with its value. -/
def readStatement (builder : Builder) (text : List Char) :
    Except ReadError (Builder × List Char) := do
  match text with
  | '[' :: '[' :: rest =>
      let (key, rest) ← readKey (rest.length + 1) (skipBlanks rest)
      let builder ← orMalformed rest (builder.openArray key)
      match rest with
      | ']' :: ']' :: rest => return (builder, rest)
      | _ => malformed .bracketExpected rest
  | '[' :: rest =>
      let (key, rest) ← readKey (rest.length + 1) (skipBlanks rest)
      let builder ← orMalformed rest (builder.openTable key)
      match rest with
      | ']' :: rest => return (builder, rest)
      | _ => malformed .bracketExpected rest
  | c :: _ =>
      if isBareKey c || c = '"' || c = '\x27' then
        let (key, rest) ← readKey (text.length + 1) text
        match rest with
        | '=' :: rest =>
            let (value, rest) ← readValue (2 * rest.length + 2) (skipBlanks rest)
            let builder ← orMalformed rest (builder.add key value)
            return (builder, rest)
        | _ => malformed .equalsExpected rest
      else malformed .statementExpected text
  | [] => malformed .statementExpected text

/-- Reads statements up to the end of the document, at most one a line. -/
def readStatements : Nat → Builder → List Char → Except ReadError Builder
  | 0, builder, _ => .ok builder
  | fuel + 1, builder, text => do
      match skipBlanks text with
      | [] => return builder
      | '\n' :: rest => readStatements fuel builder rest
      | rest =>
          let (builder, rest) ←
            if rest.head? = some '#' then pure (builder, rest)
            else readStatement builder rest
          match ← skipComment (skipBlanks rest) with
          | [] => return builder
          | '\n' :: rest => readStatements fuel builder rest
          | rest => malformed .lineEndExpected rest

/-- Reads a whole document. -/
def read (text : List Char) : Except ReadError Value :=
  return .object (← readStatements (text.length + 1) {} text).entries

/-- The text of a failure: its reason and its place. -/
def describe (text : List Char) (reason : Reason) (remaining : Nat) : String :=
  let before := text.take (text.length - remaining)
  let line := before.count '\n' + 1
  let column := (before.reverse.takeWhile (· != '\n')).length + 1
  reason.text ++
    (if remaining = 0 then " (at end of document)" else s!" (at line {line}, column {column})")

end ClosedShape.Toml
