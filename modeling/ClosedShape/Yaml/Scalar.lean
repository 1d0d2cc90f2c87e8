import ClosedShape.Json.Reader
import ClosedShape.Yaml.Cursor
/-!
# YAML scalars

The content of scalars in their five styles: plain, in single or double quotes, and literal or
folded blocks.
-/

namespace ClosedShape.Yaml

private def joinBreak (lineBreak : Char) (breaks : List Char) : List Char :=
  if lineBreak != '\n' then lineBreak :: breaks
  else if breaks.isEmpty then [' ']
  else breaks

/-! ## Quoted scalars -/

/-- Passes the empty lines inside a quoted scalar and the blanks before its next line. -/
def quotedBreaks : Nat → Cursor → Except Reason (List Char × Cursor)
  | 0, cursor => .ok ([], cursor)
  | fuel + 1, cursor =>
      if cursor.atDocumentMark '-' || cursor.atDocumentMark '.' then .error .documentMarkInScalar
      else
        match (cursor.skipWhile fun c => c = ' ' || c = '\t').passBreak with
        | (some lineBreak, cursor) => do
            let (breaks, cursor) ← quotedBreaks fuel cursor
            return (lineBreak :: breaks, cursor)
        | (none, cursor) => .ok ([], cursor)

/-- Passes the blanks between words of a quoted scalar.  A single line break folds to a blank. -/
def quotedSpaces (fuel : Nat) (cursor : Cursor) : Except Reason (List Char × Cursor) :=
  let (blanks, cursor) := cursor.span fun c => c = ' ' || c = '\t'
  match cursor.peek with
  | none => .error .unterminatedScalar
  | some _ =>
      match cursor.passBreak with
      | (some lineBreak, cursor) => do
          let (breaks, cursor) ← quotedBreaks fuel cursor
          return (joinBreak lineBreak breaks, cursor)
      | (none, cursor) => .ok (blanks, cursor)

/-- The character that a short escape stands for. -/
def shortEscape? : Char → Option Char
  | '0' => some (Char.ofNat 0)
  | 'a' => some (Char.ofNat 0x07)
  | 'b' => some (Char.ofNat 0x08)
  | 't' | '\t' => some '\t'
  | 'n' => some '\n'
  | 'v' => some (Char.ofNat 0x0b)
  | 'f' => some (Char.ofNat 0x0c)
  | 'r' => some '\r'
  | 'e' => some (Char.ofNat 0x1b)
  | ' ' => some ' '
  | '"' => some '"'
  | '/' => some '/'
  | '\\' => some '\\'
  | 'N' => some nextLine
  | '_' => some (Char.ofNat 0xa0)
  | 'L' => some lineSeparator
  | 'P' => some paragraphSeparator
  | _ => none

/-- The number of digits of an escape that gives a code. -/
def codeWidth? : Char → Option Nat
  | 'x' => some 2
  | 'u' => some 4
  | 'U' => some 8
  | _ => none

/-- Reads the digits of an escape from the character that says how many they are. -/
def escapedCode? (cursor : Cursor) : Option (Nat × Cursor) := do
  let width ← codeWidth? (← cursor.peek)
  let digits ← (cursor.next.rest.take width).mapM Json.hexDigit?
  if digits.length < width then none
  some (digits.foldl (fun code digit => 16 * code + digit) 0, cursor.skip (width + 1))

/-- Reads an escape that gives the second half of a pair. -/
def lowHalf? (cursor : Cursor) : Option (Nat × Cursor) := do
  if cursor.peek != some '\\' then none
  let (code, cursor) ← escapedCode? cursor.next
  if Json.isLowUnit code then some (code, cursor) else none

/-- Reads an escape that gives a code.  Two halves of a pair are one character. -/
def codeEscape (cursor : Cursor) : Except Reason (CodePoint × Cursor) :=
  match escapedCode? cursor with
  | none => .error .invalidEscape
  | some (code, cursor) =>
      if 0x10ffff < code then .error (.faulty (.codeOutOfRange code))
      else
        match Json.isHighUnit code, lowHalf? cursor with
        | true, some (low, cursor) =>
            .ok (.ofCode (0x10000 + (code - 0xd800) * 0x400 + (low - 0xdc00)), cursor)
        | _, _ => .ok (.ofCode code, cursor)

/-- Passes what follows a backslash in double quotes. -/
def doubleEscape (fuel : Nat) (cursor : Cursor) : Except Reason (Text × Cursor) :=
  match cursor.peek with
  | none => .error .invalidEscape
  | some c =>
      match shortEscape? c with
      | some escaped => .ok ([.char escaped], cursor.next)
      | none =>
          if isBreak c then do
            let (breaks, cursor) ← quotedBreaks fuel cursor.passBreak.2
            return (.ofChars breaks, cursor)
          else do
            let (escaped, cursor) ← codeEscape cursor
            return ([escaped], cursor)

/-- Reads the rest of a quoted scalar, its closing quote included. -/
def quotedRest (double : Bool) : Nat → Cursor → Except Reason (Text × Cursor)
  | 0, _ => .error .unterminatedScalar
  | fuel + 1, cursor =>
      match cursor.peek with
      | none => .error .unterminatedScalar
      | some c =>
          if !double && c = '\x27' then
            if cursor.peekAt 1 = some '\x27' then do
              let (content, cursor) ← quotedRest double fuel (cursor.skip 2)
              return (.char '\x27' :: content, cursor)
            else .ok ([], cursor.next)
          else if double && c = '"' then .ok ([], cursor.next)
          else if double && c = '\\' then do
            let (escaped, cursor) ← doubleEscape fuel cursor.next
            let (content, cursor) ← quotedRest double fuel cursor
            return (escaped ++ content, cursor)
          else if c = ' ' || c = '\t' || isBreak c then do
            let (blanks, cursor) ← quotedSpaces fuel cursor
            let (content, cursor) ← quotedRest double fuel cursor
            return (.ofChars blanks ++ content, cursor)
          else do
            let (content, cursor) ← quotedRest double fuel cursor.next
            return (.char c :: content, cursor)

/-- Reads a quoted scalar from its opening quote on. -/
def quotedScalar (double : Bool) (cursor : Cursor) : Except Reason (Text × Cursor) :=
  quotedRest double (cursor.rest.length + 1) cursor.next

/-! ## Plain scalars -/

def isFlowIndicator (c : Char) : Bool :=
  c = ',' || c = '[' || c = ']' || c = '\x7b' || c = '\x7d'

/-- What ends a plain scalar early. -/
structure PlainLimits where
  /-- Whether the scalar stands between brackets, where the marks of collections end it. -/
  inFlow : Bool
  /-- Whether a question mark is among those marks. -/
  endsAtQuestion : Bool
  /-- The column that every line must reach outside brackets. -/
  indent : Int

/-- The length of a word of a plain scalar.  A colon ends it only before the end of a word. -/
def plainLength (limits : PlainLimits) : List Char → Nat
  | [] => 0
  | c :: rest =>
      if c = ':' then
        if endsWord rest.head? then 0 else plainLength limits rest + 1
      else if endsWord (some c) ||
          (limits.inFlow && (isFlowIndicator c || (c = '?' && limits.endsAtQuestion))) then 0
      else plainLength limits rest + 1

/-- Passes empty lines inside a plain scalar; `none` at a document mark. -/
def plainBreaks : Nat → Cursor → Option (List Char) × Cursor
  | 0, cursor => (some [], cursor)
  | fuel + 1, cursor =>
      if cursor.peek = some ' ' then plainBreaks fuel cursor.next
      else
        match cursor.passBreak with
        | (some lineBreak, cursor) =>
            if cursor.atDocumentMark '-' || cursor.atDocumentMark '.' then (none, cursor)
            else
              match plainBreaks fuel cursor with
              | (some breaks, cursor) => (some (lineBreak :: breaks), cursor)
              | (none, cursor) => (none, cursor)
        | (none, cursor) => (some [], cursor)

/-- What is between two words of a plain scalar, the place after it, and whether a line was
ended. -/
def plainSpaces (fuel : Nat) (cursor : Cursor) : List Char × Cursor × Bool :=
  let (blanks, cursor) := cursor.span (· == ' ')
  match cursor.passBreak with
  | (some lineBreak, cursor) =>
      if cursor.atDocumentMark '-' || cursor.atDocumentMark '.' then ([], cursor, true)
      else
        match plainBreaks fuel cursor with
        | (some breaks, cursor) => (joinBreak lineBreak breaks, cursor, true)
        | (none, cursor) => ([], cursor, true)
  | (none, cursor) => (blanks, cursor, false)

/-- A plain scalar that has been read: its content, the place after it, and whether it ended at
the start of a line. -/
structure PlainScalar where
  content : List Char
  cursor : Cursor
  atLineStart : Bool

/-- Reads words of a plain scalar.  `spaces` stand before the next one. -/
def plainWords (limits : PlainLimits) : Nat → List Char → Bool → Cursor → PlainScalar
  | 0, _, atLineStart, cursor => ⟨[], cursor, atLineStart⟩
  | fuel + 1, spaces, atLineStart, cursor =>
      let length := if cursor.peek = some '#' then 0 else plainLength limits cursor.rest
      if length = 0 then ⟨[], cursor, atLineStart⟩
      else
        let word := cursor.rest.take length
        let (between, next, atLineStart) := plainSpaces fuel (cursor.skip length)
        if between.isEmpty || next.peek = some '#' ||
            (!limits.inFlow && decide ((next.column : Int) < limits.indent)) then
          ⟨spaces ++ word, next, atLineStart⟩
        else
          let others := plainWords limits fuel between atLineStart next
          ⟨spaces ++ word ++ others.content, others.cursor, others.atLineStart⟩

def plainScalar (limits : PlainLimits) (cursor : Cursor) : PlainScalar :=
  plainWords limits (cursor.rest.length + 1) [] false cursor

/-! ## Block scalars -/

/-- What happens to the line breaks at the end of a block scalar. -/
inductive Chomping where
  | clip
  | strip
  | keep
deriving DecidableEq, Repr, Inhabited

private def chomping? : Option Char → Option Chomping
  | some '+' => some .keep
  | some '-' => some .strip
  | _ => none

private def increment? (c : Option Char) : Option Nat :=
  match c with
  | some c => if c.isDigit then some (c.toNat - '0'.toNat) else none
  | none => none

/-- Reads the header of a block scalar: chomping and indentation, in either order. -/
def blockHeader (cursor : Cursor) : Except Reason (Chomping × Option Nat × Cursor) := do
  let (chomping, increment, cursor) :=
    match chomping? cursor.peek, increment? cursor.peek with
    | some chomping, _ =>
        match increment? cursor.next.peek with
        | some increment => (chomping, some increment, cursor.skip 2)
        | none => (chomping, none, cursor.next)
    | none, some increment =>
        match chomping? cursor.next.peek with
        | some chomping => (chomping, some increment, cursor.skip 2)
        | none => (.clip, some increment, cursor.next)
    | none, none => (.clip, none, cursor)
  if increment = some 0 || !endsHeader cursor.peek then throw .invalidBlockHeader
  let cursor := cursor.skipWhile (· == ' ')
  let cursor :=
    if cursor.peek = some '#' then cursor.skipWhile fun c => !endsLine (some c) else cursor
  if endsLine cursor.peek then return (chomping, increment, cursor.passBreak.2)
  else throw .invalidBlockHeader

/-- What stands before the first line of a block scalar that is not empty. -/
structure BlockStart where
  breaks : List Char
  /-- The column where the first of the empty lines ends. -/
  firstEnd : Option Nat
  /-- The widest indentation, that of the first line included. -/
  widest : Nat
  cursor : Cursor

/-- Passes the empty lines before the first line of a block scalar, and its indentation. -/
def blockStart : Nat → Cursor → BlockStart
  | 0, cursor => ⟨[], none, 0, cursor⟩
  | fuel + 1, cursor =>
      if cursor.peek = some ' ' then
        let start := blockStart fuel cursor.next
        { start with widest := max cursor.next.column start.widest }
      else
        match cursor.passBreak with
        | (some lineBreak, next) =>
            let start := blockStart fuel next
            { start with breaks := lineBreak :: start.breaks, firstEnd := some cursor.column }
        | (none, _) => ⟨[], none, 0, cursor⟩

/-- Whether blanks on the first empty line fall short of the widest indentation.  An empty line
without blanks says nothing. -/
def BlockStart.grows (start : BlockStart) : Bool :=
  match start.firstEnd with
  | some column => 0 < column && column < start.widest
  | none => false

/-- Passes blanks up to a column. -/
def skipToColumn (column : Nat) : Nat → Cursor → Cursor
  | 0, cursor => cursor
  | fuel + 1, cursor =>
      if cursor.column < column && cursor.peek = some ' ' then skipToColumn column fuel cursor.next
      else cursor

/-- Passes empty lines inside a block scalar, and the indentation of the line after them. -/
def blockBreaks (indent : Nat) : Nat → Cursor → List Char × Cursor
  | 0, cursor => ([], cursor)
  | fuel + 1, cursor =>
      let cursor := skipToColumn indent fuel cursor
      match cursor.passBreak with
      | (some lineBreak, cursor) =>
          let (breaks, cursor) := blockBreaks indent fuel cursor
          (lineBreak :: breaks, cursor)
      | (none, cursor) => ([], cursor)

private def startsBlank (cursor : Cursor) : Bool :=
  cursor.peek = some ' ' || cursor.peek = some '\t'

/-- Reads the lines of a block scalar from the first that is not empty.  `breaks` stand before the
line; `atTop` says that a document mark can end the scalar. -/
def blockLines (folded atTop : Bool) (chomping : Chomping) (indent : Nat) :
    Nat → List Char → Cursor → List Char × Cursor
  | 0, _, cursor => ([], cursor)
  | fuel + 1, breaks, cursor =>
      let wordStart := !startsBlank cursor
      let (line, cursor) := cursor.span fun c => !endsLine (some c)
      let (lineBreak, cursor) := cursor.passBreak
      let (after, cursor) := blockBreaks indent (fuel + 1) cursor
      let atMark := atTop && cursor.column = 0 &&
        (cursor.atDocumentMark '-' || cursor.atDocumentMark '.')
      if !atMark && cursor.column = indent && cursor.peek.isSome then
        let joined :=
          if folded && lineBreak = some '\n' && wordStart && !startsBlank cursor then
            if after.isEmpty then [' '] else []
          else lineBreak.toList
        let (content, cursor) := blockLines folded atTop chomping indent fuel after cursor
        (breaks ++ line ++ joined ++ content, cursor)
      else
        let ending := match chomping with
          | .strip => []
          | .clip => lineBreak.toList
          | .keep => lineBreak.toList ++ after
        (breaks ++ line ++ ending, cursor)

/-- Reads a block scalar from its indicator on, inside a collection indented to `indent`. -/
def blockScalar (folded : Bool) (indent : Int) (cursor : Cursor) :
    Except Reason (Text × Cursor) := do
  let (chomping, increment, cursor) ← blockHeader cursor.next
  let fuel := cursor.rest.length + 1
  let least := (indent + 1).toNat
  let (breaks, indent, cursor) ←
    match increment with
    | none => do
        let start := blockStart fuel cursor
        if start.grows then throw .growingIndentation
        pure (start.breaks, max least start.widest, start.cursor)
    | some increment => do
        let indent := max least 1 + increment - 1
        let (breaks, cursor) := blockBreaks indent fuel cursor
        pure (breaks, indent, cursor)
  if cursor.column = indent && cursor.peek.isSome then
    let (content, cursor) := blockLines folded (least = 0) chomping indent fuel breaks cursor
    return (.ofChars content, cursor)
  else
    return (.ofChars (if chomping = .keep then breaks else []), cursor)

end ClosedShape.Yaml
