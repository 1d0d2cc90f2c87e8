import ClosedShape.Schema.Parse
import ClosedShape.Value.Equality
/-!
# Shared values

Lists and mappings that several names refer to.  A change made through one name shows through all
others, and a parse builds containers of its own wherever the schema narrows.
-/

namespace ClosedShape

/-- A value whose containers are kept in cells of a store. -/
inductive Stored where
  /-- A value that nothing else refers to a part of. -/
  | fixed (value : Value)
  | cell (address : Nat)

/-- A container with the places of what it contains.  A tuple cannot change. -/
inductive Cell where
  | list (items : List Stored)
  | tuple (items : List Stored)
  | mapping (flavour : MappingFlavour) (entries : List (Value × Stored))

instance : Inhabited Stored := ⟨.fixed .null⟩

/-- The containers that have been made so far, by address. -/
structure Store where
  cells : Array Cell := #[]
deriving Inhabited

namespace Store

/-- Makes a new container. -/
def add (cell : Cell) (store : Store) : Stored × Store :=
  (.cell store.cells.size, ⟨store.cells.push cell⟩)

/-- The value as it is now, with at most so many containers inside each other.  What lies deeper
reads as `null`. -/
def readTo (store : Store) : Nat → Stored → Value
  | _, .fixed value => value
  | 0, .cell _ => .null
  | depth + 1, .cell address =>
      match store.cells[address]? with
      | some (.list items) => .list (items.map (readTo store depth))
      | some (.tuple items) => .tuple (items.map (readTo store depth))
      | some (.mapping flavour entries) =>
          .mapping flavour (entries.map fun entry => (entry.1, readTo store depth entry.2))
      | none => .null

/-- The value as it is now.  Only what contains itself goes deeper than there are containers. -/
def read (store : Store) (stored : Stored) : Value := store.readTo store.cells.size stored

private def replace (store : Store) (address : Nat) (cell : Cell) : Store :=
  ⟨store.cells.setIfInBounds address cell⟩

/-- Adds an item at the end of a list. -/
def append? (store : Store) (target item : Stored) : Except Fault Store :=
  match target with
  | .cell address =>
      match store.cells[address]? with
      | some (.list items) => .ok (store.replace address (.list (items ++ [item])))
      | _ => .error (.noMember (store.read target).typeName "append")
  | .fixed value => .error (.noMember value.typeName "append")

/-- Sets an entry of a plain mapping.  A key that is there already keeps its place. -/
def put? (store : Store) (target : Stored) (key : Value) (stored : Stored) :
    Except Fault Store :=
  match target with
  | .cell address =>
      match store.cells[address]? with
      | some (.mapping .plain entries) =>
          .ok (store.replace address (.mapping .plain (Value.insert entries key stored)))
      | _ => .error (.notAssignable (store.read target).typeName)
  | .fixed value => .error (.notAssignable value.typeName)

/-- Whether two stored values are one and the same. -/
def isSame : Stored → Stored → Bool
  | .cell left, .cell right => left == right
  | .fixed left, .fixed right => left.equals right
  | _, _ => false

/-- The items of a list or a tuple. -/
def items? (store : Store) : Stored → Option (List Stored)
  | .cell address =>
      match store.cells[address]? with
      | some (.list items) | some (.tuple items) => some items
      | _ => none
  | .fixed value => value.arrayItems?.map (List.map .fixed)

/-- The entries of a mapping of any flavour. -/
def entries? (store : Store) : Stored → Option (List (Value × Stored))
  | .cell address =>
      match store.cells[address]? with
      | some (.mapping _ entries) => some entries
      | _ => none
  | .fixed value => value.mappingEntries?.map (List.map fun entry => (entry.1, .fixed entry.2))

/-- What is stored under a text key, `absent` where there is none. -/
def fieldOf (entries : List (Value × Stored)) (name : Text) : Stored :=
  (Value.lookup entries (.text name)).getD (.fixed .absent)

/-- Narrows items one after the other. -/
def narrowEach (narrow : Stored → Store → Stored × Store) :
    List Stored → Store → List Stored × Store
  | [], store => ([], store)
  | item :: items, store =>
      let (first, store) := narrow item store
      let (rest, store) := narrowEach narrow items store
      (first :: rest, store)

mutual

/-- The result of a parse that succeeds.  Arrays and objects get containers of their own, and what
other schemas return stays shared with the argument. -/
def narrow : Schema → Stored → Store → Stored × Store
  | .array _ element _, stored, store =>
      match store.items? stored with
      | some items =>
          let (narrowed, store) :=
            narrowEach (fun item store => narrow element item store) items store
          store.add (.list narrowed)
      | none => (stored, store)
  | .object _ fields, stored, store =>
      match store.entries? stored with
      | some entries =>
          let (narrowed, store) := narrowFields fields entries store
          store.add (.mapping .plain narrowed)
      | none => (stored, store)
  | _, stored, store => (stored, store)

def narrowFields : List (Text × Schema) → List (Value × Stored) → Store →
    List (Value × Stored) × Store
  | [], _, store => ([], store)
  | (name, schema) :: fields, entries, store =>
      let (first, store) := narrow schema (fieldOf entries name) store
      let (rest, store) := narrowFields fields entries store
      ((.text name, first) :: rest, store)

end

end Store

end ClosedShape
