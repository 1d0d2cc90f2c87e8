import ClosedShape.Yaml.Token
/-!
# YAML lexing

Splits a YAML text into tokens.  Where collections begin and end follows from the indentation, and
what turns out to be the key of a mapping is marked once the colon after it has been found.
-/

namespace ClosedShape.Yaml

inductive Bracket where
  | square
  | curly
deriving DecidableEq, Repr, Inhabited

/-- A token that is a key if a colon follows it on its line. -/
structure PendingKey where
  /-- How many brackets are open around the key. -/
  depth : Nat
  /-- How many tokens stand before the key. -/
  place : Nat
  /-- Whether nothing but a key can stand here. -/
  required : Bool
  index : Nat
  line : Nat
  column : Nat
deriving DecidableEq, Repr, Inhabited

structure Lexer where
  cursor : Cursor
  tokens : Array Token := #[]
  brackets : List Bracket := []
  /-- The column of the innermost open block collection. -/
  indent : Int := -1
  outerIndents : List Int := []
  /-- Whether a key without a mark can start here. -/
  allowsKey : Bool := true
  pending : List PendingKey := []
  /-- The version that the document says it is written in. -/
  version : Version := .usual
deriving Inhabited

namespace Lexer

/-- The farthest a colon can be from the start of its key. -/
def longestKey : Nat := 1024

def inFlow (lexer : Lexer) : Bool := !lexer.brackets.isEmpty

def depth (lexer : Lexer) : Nat := lexer.brackets.length

def push (token : Token) (lexer : Lexer) : Lexer :=
  { lexer with tokens := lexer.tokens.push token }

def insert (place : Nat) (token : Token) (lexer : Lexer) : Lexer :=
  { lexer with tokens := lexer.tokens.insertIdxIfInBounds place token }

/-- Appends a token and goes on after it. -/
def take (token : Token) (cursor : Cursor) (lexer : Lexer) : Lexer :=
  { lexer with cursor, tokens := lexer.tokens.push token }

def allowKey (allowed : Bool) (lexer : Lexer) : Lexer := { lexer with allowsKey := allowed }

/-! ## Keys -/

/-- Drops the keys whose colon can no longer come. -/
def dropStaleKeys (lexer : Lexer) : Except Reason Lexer :=
  let isStale := fun key : PendingKey =>
    key.line != lexer.cursor.line || longestKey < lexer.cursor.index - key.index
  if lexer.pending.any fun key => isStale key && key.required then .error .keyWithoutValue
  else .ok { lexer with pending := lexer.pending.filter fun key => !isStale key }

/-- Drops the key that is pending between the brackets around the cursor. -/
def dropKey (lexer : Lexer) : Except Reason Lexer :=
  let isHere := fun key : PendingKey => key.depth == lexer.depth
  if lexer.pending.any fun key => isHere key && key.required then .error .keyWithoutValue
  else .ok { lexer with pending := lexer.pending.filter fun key => !isHere key }

/-- Notes that the next token may be a key. -/
def noteKey (lexer : Lexer) : Except Reason Lexer :=
  if lexer.allowsKey then do
    let cursor := lexer.cursor
    let required := !lexer.inFlow && lexer.indent == cursor.column
    let key : PendingKey :=
      ⟨lexer.depth, lexer.tokens.size, required, cursor.index, cursor.line, cursor.column⟩
    let lexer ← lexer.dropKey
    return { lexer with pending := key :: lexer.pending }
  else .ok lexer

/-! ## Indentation -/

/-- Ends the block collections that are indented more than a column. -/
def unwind (column : Int) (lexer : Lexer) : Lexer :=
  if lexer.inFlow then lexer
  else
    let closed := (lexer.indent :: lexer.outerIndents).takeWhile (column < ·)
    let left := (lexer.indent :: lexer.outerIndents).drop closed.length
    { lexer with
      tokens := lexer.tokens ++ Array.replicate closed.length Token.blockEnd
      indent := left.head?.getD (-1)
      outerIndents := left.tail }

/-- Starts a block collection at a column, unless one that is indented as much is open. -/
def openBlock (place : Nat) (token : Token) (column : Nat) (lexer : Lexer) : Lexer :=
  if !lexer.inFlow && lexer.indent < column then
    { lexer.insert place token with
      indent := column
      outerIndents := lexer.indent :: lexer.outerIndents }
  else lexer

/-! ## Steps -/

/-- Passes blanks, comments and line breaks.  A new line can start with a key. -/
def skipToToken : Nat → Lexer → Lexer
  | 0, lexer => lexer
  | fuel + 1, lexer =>
      let cursor := lexer.cursor.skipWhile fun c => c = ' ' || (lexer.inFlow && c = '\t')
      let cursor :=
        if cursor.peek = some '#' then cursor.skipWhile fun c => !endsLine (some c) else cursor
      match cursor.passBreak with
      | (some _, cursor) =>
          skipToToken fuel { lexer with cursor, allowsKey := lexer.allowsKey || !lexer.inFlow }
      | (none, cursor) => { lexer with cursor }

/-- Ends all blocks before a mark of the whole stream. -/
def leaveDocument (lexer : Lexer) : Except Reason Lexer := do
  let lexer ← (lexer.unwind (-1)).dropKey
  return lexer.allowKey false

def takeDocumentMark (token : Token) (lexer : Lexer) : Except Reason Lexer := do
  let lexer ← lexer.leaveDocument
  return lexer.take token (lexer.cursor.skip 3)

def openBracket (bracket : Bracket) (token : Token) (lexer : Lexer) : Except Reason Lexer := do
  let lexer ← lexer.noteKey
  let lexer := { lexer with brackets := bracket :: lexer.brackets }
  return (lexer.allowKey true).take token lexer.cursor.next

def closeBracket (token : Token) (lexer : Lexer) : Except Reason Lexer := do
  let lexer ← lexer.dropKey
  let lexer := { lexer with brackets := lexer.brackets.tail }
  return (lexer.allowKey false).take token lexer.cursor.next

def takeFlowEntry (lexer : Lexer) : Except Reason Lexer := do
  let lexer ← lexer.dropKey
  return (lexer.allowKey true).take .flowEntry lexer.cursor.next

/-- Takes the mark of a block entry or of a key, which may start a block. -/
def takeMark (token start : Token) (refusal : Reason) (lexer : Lexer) : Except Reason Lexer := do
  if !lexer.inFlow && !lexer.allowsKey then throw refusal
  let lexer ← (lexer.openBlock lexer.tokens.size start lexer.cursor.column).dropKey
  return (lexer.allowKey (!lexer.inFlow || token = .blockEntry)).take token lexer.cursor.next

/-- Takes a colon, which makes a key of what is pending. -/
def takeValue (lexer : Lexer) : Except Reason Lexer :=
  match lexer.pending.find? fun key => key.depth == lexer.depth with
  | some key =>
      let pending := lexer.pending.filter fun other => other.depth != lexer.depth
      let lexer := { lexer with pending }.insert key.place .key
      let lexer := lexer.openBlock key.place .blockMappingStart key.column
      .ok ((lexer.allowKey false).take .value lexer.cursor.next)
  | none => lexer.takeMark .value .blockMappingStart .valueNotAllowed

/-- Takes a token that may be a key. -/
def takeContent (read : Cursor → Except Reason (Token × Cursor)) (lexer : Lexer) :
    Except Reason Lexer := do
  let lexer ← lexer.noteKey
  let (token, cursor) ← read lexer.cursor
  return (lexer.allowKey false).take token cursor

/-- Takes a plain scalar.  One that goes on to the end of its line leaves room for a key. -/
def takePlain (lexer : Lexer) : Except Reason Lexer := do
  let lexer ← lexer.noteKey
  let limits : PlainLimits := ⟨lexer.inFlow, lexer.version = .early, lexer.indent + 1⟩
  let scalar := plainScalar limits lexer.cursor
  let token := Token.scalar true (.ofChars scalar.content)
  return (lexer.allowKey scalar.atLineStart).take token scalar.cursor

def takeBlockScalar (folded : Bool) (lexer : Lexer) : Except Reason Lexer := do
  let lexer ← lexer.dropKey
  let (content, cursor) ← blockScalar folded lexer.indent lexer.cursor
  return (lexer.allowKey true).take (.scalar false content) cursor

/-- Whether a colon here is a mark.  Between square brackets a word must end at it.  Between curly
ones that is so only right after another colon, and only as long as `held` says that the tokens
before are kept back because one of them may turn out to be a key.  In the early version every colon
between brackets is a mark. -/
def isValueMark (held : Bool) (lexer : Lexer) : Bool :=
  let wordEnds := endsWord (lexer.cursor.peekAt 1)
  match lexer.brackets.head? with
  | none => wordEnds
  | some bracket =>
      lexer.version = .early || wordEnds ||
        (bracket = .curly && !(held && lexer.tokens.back? == some .value))

/-- Whether a plain scalar can start here. -/
def startsPlain (lexer : Lexer) : Bool :=
  match lexer.cursor.peek with
  | none => false
  | some c =>
      let following := lexer.cursor.peekAt 1
      if !" \t-?:,[]\x7b\x7d#&*!|>'\"%@`".toList.contains c && !isBreak c then true
      else if c = '-' then !endsWord following
      else if c = ':' && lexer.inFlow && lexer.version != .early then
        following != some ' ' && following != some '\t'
      else (c = '?' || c = ':') && !lexer.inFlow && !endsWord following

/-- Takes the token that starts with a character. -/
def takeToken (held : Bool) (c : Char) (lexer : Lexer) : Except Reason Lexer :=
  let cursor := lexer.cursor
  let wordEnds := endsWord (cursor.peekAt 1)
  let quoted := fun (double : Bool) (cursor : Cursor) => do
    let (content, cursor) ← quotedScalar double cursor
    return (Token.scalar false content, cursor)
  let named := fun (token : String → Token) (cursor : Cursor) => do
    let (name, cursor) ← anchorName cursor
    return (token name, cursor)
  if c = '%' && cursor.column = 0 then do
    let lexer ← lexer.leaveDocument
    let (token, cursor) ← directiveAt lexer.version lexer.cursor
    let version := match token with
      | .version version => version
      | _ => lexer.version
    return { lexer with version }.take token cursor
  else if cursor.column = 0 && cursor.atDocumentMark '-' then
    lexer.takeDocumentMark .documentStart
  else if cursor.column = 0 && cursor.atDocumentMark '.' then lexer.takeDocumentMark .documentEnd
  else if c = '[' then lexer.openBracket .square .flowSequenceStart
  else if c = '\x7b' then lexer.openBracket .curly .flowMappingStart
  else if c = ']' then lexer.closeBracket .flowSequenceEnd
  else if c = '\x7d' then lexer.closeBracket .flowMappingEnd
  else if c = ',' then lexer.takeFlowEntry
  else if c = '-' && wordEnds then lexer.takeMark .blockEntry .blockSequenceStart .entryNotAllowed
  else if c = '?' && (lexer.inFlow || wordEnds) then
    lexer.takeMark .key .blockMappingStart .keyNotAllowed
  else if c = ':' && lexer.isValueMark held then lexer.takeValue
  else if c = '*' then lexer.takeContent (named .alias)
  else if c = '&' then lexer.takeContent (named .anchor)
  else if c = '!' then lexer.takeContent (tagAt lexer.version)
  else if (c = '|' || c = '>') && !lexer.inFlow then lexer.takeBlockScalar (c = '>')
  else if c = '\x27' || c = '"' then lexer.takeContent (quoted (c = '"'))
  else if lexer.startsPlain then lexer.takePlain
  else .error .noTokenStart

/-- Takes the next token with what its indentation ends.  At the end of the text it is the end of
the stream. -/
def step (lexer : Lexer) : Except Reason Lexer := do
  let held := !(← lexer.dropStaleKeys).pending.isEmpty
  let lexer ← (lexer.skipToToken (lexer.cursor.rest.length + 1)).dropStaleKeys
  let lexer := lexer.unwind lexer.cursor.column
  match lexer.cursor.peek with
  | some c => lexer.takeToken held c
  | none => do
      let lexer ← lexer.leaveDocument
      return lexer.push .streamEnd

/-- How many tokens are settled: those before the first that may turn out to be a key. -/
def settled (lexer : Lexer) : Nat :=
  let pending := match lexer.dropStaleKeys with
    | .ok lexer => lexer.pending
    | .error _ => lexer.pending
  pending.foldl (fun count key => min count key.place) lexer.tokens.size

/-- Takes tokens up to the end of the stream, or as far as the text can be read: then the tokens
that are settled come with the reason. -/
def run : Nat → Lexer → List Token × Option Reason
  | 0, lexer => (lexer.tokens.toList, none)
  | fuel + 1, lexer =>
      match lexer.step with
      | .error reason => (lexer.tokens.toList.take lexer.settled, some reason)
      | .ok next =>
          if next.tokens.back? = some .streamEnd then (next.tokens.toList, none) else run fuel next

end Lexer

/-- The tokens of a text, and why there are no more of them.  A byte order mark before the text is
skipped. -/
def tokens (text : List Char) : List Token × Option Reason :=
  if text.all isPrintable then
    let cursor : Cursor := ⟨text, 0, 0, 0⟩
    let start := if cursor.peek = some byteOrderMark then cursor.next else cursor
    Lexer.run (text.length + 2) { cursor := start }
  else ([], some .specialCharacter)

end ClosedShape.Yaml
