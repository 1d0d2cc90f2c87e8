import ClosedShape.Toml.Text
import ClosedShape.Value.Equality
/-!
# TOML tables

How statements build the tables of a document, and which statements are refused because an earlier
one has settled a table already.
-/

namespace ClosedShape.Toml

/-- The entries of a table that is being built. -/
abbrev Entries := List (Value × Value)

/-- The value under a name. -/
def find? (entries : Entries) (name : String) : Option Value :=
  Value.lookup entries (.text name)

def set (entries : Entries) (name : String) (value : Value) : Entries :=
  Value.insert entries (.text name) value

/-- Changes the table under a key.  Tables that are not there yet are made.  A key that leads to an
array of tables means its last one, where `intoArrays` says so. -/
def changeTable (intoArrays : Bool) (change : Entries → Except Reason Entries) :
    List String → Entries → Except Reason Entries
  | [], entries => change entries
  | name :: names, entries =>
      match find? entries name with
      | none => do
          let inner ← changeTable intoArrays change names []
          return set entries name (.object inner)
      | some (.mapping .plain inner) => do
          let inner ← changeTable intoArrays change names inner
          return set entries name (.object inner)
      | some (.list items) =>
          match intoArrays, items.getLast? with
          | true, some (.mapping .plain inner) => do
              let inner ← changeTable intoArrays change names inner
              return set entries name (.list (items.dropLast ++ [.object inner]))
          | _, _ => .error .overwritten
      | some _ => .error .overwritten

/-- Adds a value under a name that is not taken. -/
def addValue (name : String) (value : Value) (entries : Entries) : Except Reason Entries :=
  match find? entries name with
  | some _ => .error .overwritten
  | none => .ok (set entries name value)

/-- Adds an empty table at the end of an array of tables. -/
def addToArray (name : String) (entries : Entries) : Except Reason Entries :=
  match find? entries name with
  | none => .ok (set entries name (.list [.object []]))
  | some (.list items) => .ok (set entries name (.list (items ++ [.object []])))
  | some _ => .error .overwritten

def isContainer : Value → Bool
  | .list _ | .mapping _ _ => true
  | _ => false

/-- What is settled about the tables of a document. -/
structure Marks where
  /-- Tables that were opened, by a header or by a dotted key. -/
  declared : List (List String) := []
  /-- Values that cannot be changed any more, nor anything inside them. -/
  frozen : List (List String) := []
  /-- Tables that count as declared from the next header on. -/
  pending : List (List String) := []
deriving Inhabited

namespace Marks

def declare (key : List String) (marks : Marks) : Marks :=
  { marks with declared := key :: marks.declared }

def freeze (key : List String) (marks : Marks) : Marks :=
  { marks with frozen := key :: marks.frozen }

def isDeclared (marks : Marks) (key : List String) : Bool := marks.declared.contains key

/-- Whether a table, or one around it, is frozen. -/
def isFrozen (marks : Marks) (key : List String) : Bool :=
  marks.frozen.any fun frozen => frozen.isPrefixOf key

/-- A header settles the tables that dotted keys have opened before it. -/
def settle (marks : Marks) : Marks :=
  { marks with declared := marks.pending ++ marks.declared, pending := [] }

/-- Forgets a table and everything inside it. -/
def forget (key : List String) (marks : Marks) : Marks :=
  { marks with
    declared := marks.declared.filter fun other => !key.isPrefixOf other
    frozen := marks.frozen.filter fun other => !key.isPrefixOf other }

end Marks

/-- A document that is being built. -/
structure Builder where
  entries : Entries := []
  marks : Marks := {}
  /-- The table that values are added to. -/
  header : List String := []
deriving Inhabited

namespace Builder

/-- Opens a table by its header. -/
def openTable (key : List String) (builder : Builder) : Except Reason Builder := do
  let marks := builder.marks.settle
  if marks.isDeclared key || marks.isFrozen key then .error .declaredTwice
  else
    let entries ← changeTable true .ok key builder.entries
    return ⟨entries, marks.declare key, key⟩

/-- Opens the next table of an array by its header. -/
def openArray (key : List String) (builder : Builder) : Except Reason Builder := do
  let marks := builder.marks.settle
  if marks.isFrozen key then .error .immutable
  else
    let marks := (marks.forget key).declare key
    let entries ← changeTable true (addToArray (key.getLast?.getD "")) key.dropLast
      builder.entries
    return ⟨entries, marks, key⟩

/-- The tables that a dotted key passes through, the outermost first. -/
def passedTables (header key : List String) : List (List String) :=
  (List.range (key.length - 1)).map fun count => header ++ key.take (count + 1)

/-- Adds a value under a key, inside the table that is open. -/
def add (key : List String) (value : Value) (builder : Builder) : Except Reason Builder := do
  let passed := passedTables builder.header key
  let parent := builder.header ++ key.dropLast
  if passed.any builder.marks.isDeclared then .error .declaredTwice
  else if builder.marks.isFrozen parent then .error .immutable
  else
    let entries ← changeTable true (addValue (key.getLast?.getD "") value) parent builder.entries
    let marks := { builder.marks with pending := passed.reverse ++ builder.marks.pending }
    let marks := if isContainer value then marks.freeze (builder.header ++ key) else marks
    return { builder with entries, marks }

end Builder

/-- Adds a value to an inline table, all of whose containers are frozen. -/
def addInline (key : List String) (value : Value) (table : Entries × List (List String)) :
    Except Reason (Entries × List (List String)) := do
  if table.2.any fun frozen => frozen.isPrefixOf key then .error .immutable
  else
    let entries ← changeTable false (addValue (key.getLast?.getD "") value) key.dropLast table.1
    return (entries, if isContainer value then key :: table.2 else table.2)

end ClosedShape.Toml
