import ClosedShape.Yaml.Reason
/-!
# Places in a YAML text

A cursor is a place in a text.  Characters are counted along lines, because indentation matters.
-/

namespace ClosedShape.Yaml

/-- Characters that YAML texts may hold. -/
def isPrintable (c : Char) : Bool :=
  c = '\t' || c = '\n' || c = '\r' || (0x20 ≤ c.toNat && c.toNat ≤ 0x7e) || c.toNat = 0x85 ||
    (0xa0 ≤ c.toNat && c.toNat ≤ 0xfffd) || 0x10000 ≤ c.toNat

def nextLine : Char := Char.ofNat 0x85

def lineSeparator : Char := Char.ofNat 0x2028

def paragraphSeparator : Char := Char.ofNat 0x2029

def byteOrderMark : Char := Char.ofNat 0xfeff

/-- Characters that end what stands before them on a line. -/
def isBreak (c : Char) : Bool :=
  c = '\n' || c = '\r' || c = nextLine || c = lineSeparator || c = paragraphSeparator

/-- The end of what can stand on a line: a break, or the end of the text. -/
def endsLine : Option Char → Bool
  | none => true
  | some c => isBreak c

/-- The end of a word: a blank, a tab, a break, or the end of the text. -/
def endsWord : Option Char → Bool
  | some ' ' | some '\t' => true
  | c => endsLine c

/-- The end of a header: a blank, a break, or the end of the text. -/
def endsHeader : Option Char → Bool
  | some ' ' => true
  | c => endsLine c

/-- A place in a text: what is left of it, and how much is behind. -/
structure Cursor where
  rest : List Char
  index : Nat := 0
  line : Nat := 0
  column : Nat := 0
deriving Repr, Inhabited

namespace Cursor

def peek (cursor : Cursor) : Option Char := cursor.rest.head?

/-- The character some places on. -/
def peekAt (cursor : Cursor) (count : Nat) : Option Char := cursor.rest[count]?

/-- One character on.  Columns are counted from the last line feed or carriage return, since the
other breaks stay on their line.  A byte order mark takes no column. -/
def next (cursor : Cursor) : Cursor :=
  match cursor.rest with
  | [] => cursor
  | c :: rest =>
      if c = '\n' || c = '\r' then ⟨rest, cursor.index + 1, cursor.line + 1, 0⟩
      else
        ⟨rest, cursor.index + 1, cursor.line,
          if c = byteOrderMark then cursor.column else cursor.column + 1⟩

def skip : Nat → Cursor → Cursor
  | 0, cursor => cursor
  | count + 1, cursor => skip count cursor.next

/-- The characters from here on that satisfy a predicate, and the place after them. -/
def span (test : Char → Bool) (cursor : Cursor) : List Char × Cursor :=
  let taken := cursor.rest.takeWhile test
  (taken, cursor.skip taken.length)

def skipWhile (test : Char → Bool) (cursor : Cursor) : Cursor := (cursor.span test).2

def startsWith (cursor : Cursor) (text : List Char) : Bool := text.isPrefixOf cursor.rest

/-- Passes a break.  What it stands for is a line feed, except for the two separators, which stand
for themselves. -/
def passBreak (cursor : Cursor) : Option Char × Cursor :=
  match cursor.peek with
  | some c =>
      if c = lineSeparator || c = paragraphSeparator then (some c, cursor.next)
      else if isBreak c then (some '\n', cursor.next)
      else (none, cursor)
  | none => (none, cursor)

/-- Whether a mark of three characters for the start or end of a document is here. -/
def atDocumentMark (cursor : Cursor) (mark : Char) : Bool :=
  cursor.startsWith [mark, mark, mark] && endsWord (cursor.peekAt 3)

end Cursor

end ClosedShape.Yaml
