import ClosedShape.Text.Utf8
import ClosedShape.Yaml.Scalar
import ClosedShape.Yaml.Version
/-!
# YAML tokens

The marks that a YAML text consists of, and how those among them that carry names are read:
anchors, aliases, tags and directives.
-/

namespace ClosedShape.Yaml

inductive Token where
  | version (version : Version)
  | tagHandle (handle expansion : String)
  /-- A directive without a meaning. -/
  | reserved
  | documentStart
  | documentEnd
  | streamEnd
  | blockSequenceStart
  | blockMappingStart
  /-- The end of a block collection, where the text is indented less. -/
  | blockEnd
  | flowSequenceStart
  | flowSequenceEnd
  | flowMappingStart
  | flowMappingEnd
  | blockEntry
  | flowEntry
  | key
  | value
  | alias (name : String)
  | anchor (name : String)
  /-- A tag as it is written.  A verbatim tag and a lone mark have no handle. -/
  | tag (handle : Option String) (suffix : String)
  | scalar (plain : Bool) (content : Text)
deriving DecidableEq, Repr, Inhabited

/-! ## Anchors and aliases -/

/-- Characters of anchor names. -/
def isAnchorChar (c : Char) : Bool :=
  !isFlowIndicator c &&
    ((0x21 ≤ c.toNat && c.toNat ≤ 0x7e) || (0xa0 ≤ c.toNat && c.toNat ≤ 0xd7ff) ||
      (0xe000 ≤ c.toNat && c.toNat ≤ 0xfffd && c != byteOrderMark) || 0x10000 ≤ c.toNat)

/-- Reads the name after the mark of an anchor or alias. -/
def anchorName (cursor : Cursor) : Except Reason (String × Cursor) :=
  let (name, cursor) := cursor.next.span isAnchorChar
  let ended := endsHeader cursor.peek || cursor.peek = some '\t' ||
    (cursor.peek.map isFlowIndicator).getD false
  if name.isEmpty || !ended then .error .invalidAnchor else .ok (String.ofList name, cursor)

/-! ## Tags -/

def isHandleChar (c : Char) : Bool := c.isAlphanum || c = '-' || c = '_'

/-- Characters of tags.  A percent sign starts an escape; only later versions have `#`. -/
def isTagChar (version : Version) (c : Char) : Bool :=
  c.isAlphanum || "-;/?:@&=+$,_.!~*'()[]%".toList.contains c || (c = '#' && version.isLater)

/-- Reads bytes that are written as a percent sign and two digits each. -/
def escapedBytes : List Char → Except Reason (List UInt8)
  | '%' :: first :: second :: rest =>
      match Json.hexDigit? first, Json.hexDigit? second with
      | some first, some second => return (16 * first + second).toUInt8 :: (← escapedBytes rest)
      | _, _ => .error .invalidTag
  | '%' :: _ => .error .invalidTag
  | _ => .ok []

/-- Checks that every run of escapes writes characters. -/
def checkEscapes : Nat → List Char → Except Reason Unit
  | 0, _ => .ok ()
  | fuel + 1, text =>
      match text.dropWhile (· != '%') with
      | [] => .ok ()
      | escapes => do
          let bytes ← escapedBytes escapes
          match Text.decodeUtf8 bytes with
          | .ok _ => checkEscapes fuel (escapes.drop (3 * bytes.length))
          | .error _ => throw .invalidTag

/-- Reads a part of a tag that must not be empty.  Escapes stay as they are written. -/
def tagPart (version : Version) (cursor : Cursor) : Except Reason (String × Cursor) := do
  let (part, cursor) := cursor.span (isTagChar version)
  checkEscapes part.length part
  if part.isEmpty then throw .invalidTag else return (String.ofList part, cursor)

/-- The characters that a tag with escapes stands for, a byte each. -/
def unescapeTag : List Char → List Char
  | '%' :: first :: second :: rest =>
      match Json.hexDigit? first, Json.hexDigit? second with
      | some first, some second => Char.ofNat (16 * first + second) :: unescapeTag rest
      | _, _ => '%' :: unescapeTag (first :: second :: rest)
  | c :: rest => c :: unescapeTag rest
  | [] => []

/-- Reads a handle: `!`, or a name between two such marks. -/
def handleAt (cursor : Cursor) : Except Reason (String × Cursor) :=
  if cursor.peek != some '!' then .error .invalidTag
  else if cursor.peekAt 1 = some ' ' then .ok ("!", cursor.next)
  else
    let (name, after) := cursor.next.span isHandleChar
    if after.peek = some '!' then .ok ("!" ++ String.ofList name ++ "!", after.next)
    else .error .invalidTag

/-- Whether another mark follows on the same word, so that the tag starts with a handle. -/
def hasHandle (cursor : Cursor) : Bool :=
  (cursor.next.rest.takeWhile fun c => c != ' ' && !isBreak c).contains '!'

/-- Reads a tag from its mark on.  A double mark is passed as one, and what follows it is read as
after a single one, except that a name without a handle belongs to the standard tags. -/
def tagAt (version : Version) (cursor : Cursor) : Except Reason (Token × Cursor) := do
  let double := cursor.peekAt 1 = some '!'
  let cursor := if double then cursor.next else cursor
  let (tag, cursor) ←
    if cursor.peekAt 1 = some '<' then do
      let (suffix, cursor) ← tagPart version (cursor.skip 2)
      if cursor.peek != some '>' then throw .invalidTag
      pure (Token.tag none suffix, cursor.next)
    else if endsWord (cursor.peekAt 1) then pure (Token.tag none "!", cursor.next)
    else do
      let (handle, cursor) ←
        if hasHandle cursor then handleAt cursor
        else pure (if double then "!!" else "!", cursor.next)
      let (suffix, cursor) ← tagPart version cursor
      pure (Token.tag (some handle) suffix, cursor)
  if endsHeader cursor.peek then return (tag, cursor) else throw .invalidTag

/-! ## Directives -/

def isDirectiveChar (c : Char) : Bool :=
  c.isAlphanum || c = '-' || c = '_' || c = ':' || c = '.'

/-- Reads one part of a version. -/
def versionPart (cursor : Cursor) : Except Reason (Nat × Cursor) :=
  let (digits, cursor) := cursor.span Char.isDigit
  if digits.isEmpty then .error .invalidDirective
  else if digitLimit < digits.length then .error (.faulty (.numeralTooLong digits.length))
  else .ok (Double.digitsValue digits, cursor)

/-- Reads the arguments of a directive. -/
def directiveBody (version : Version) (name : String) (cursor : Cursor) :
    Except Reason (Token × Cursor) := do
  let start := cursor.skipWhile (· == ' ')
  if name = "YAML" then
    let (major, cursor) ← versionPart start
    if cursor.peek != some '.' then throw .invalidDirective
    let (minor, cursor) ← versionPart cursor.next
    if endsHeader cursor.peek then return (.version ⟨major, minor⟩, cursor)
    else throw .invalidDirective
  else if name = "TAG" then
    let (handle, cursor) ← handleAt start
    if cursor.peek != some ' ' then throw .invalidDirective
    let (expansion, cursor) ← tagPart version (cursor.skipWhile (· == ' '))
    if endsHeader cursor.peek then return (.tagHandle handle expansion, cursor)
    else throw .invalidDirective
  else return (.reserved, cursor.skipWhile fun c => !endsLine (some c))

/-- Reads a directive from its mark on, to the end of its line. -/
def directiveAt (version : Version) (cursor : Cursor) : Except Reason (Token × Cursor) := do
  let (name, cursor) := cursor.next.span isDirectiveChar
  if name.isEmpty || !endsHeader cursor.peek then throw .invalidDirective
  let (token, cursor) ← directiveBody version (String.ofList name) cursor
  let cursor := cursor.skipWhile (· == ' ')
  let cursor :=
    if cursor.peek = some '#' then cursor.skipWhile fun c => !endsLine (some c) else cursor
  if endsLine cursor.peek then return (token, cursor.passBreak.2) else throw .invalidDirective

end ClosedShape.Yaml
