import ClosedShape.Text.Base64
import ClosedShape.Value.Text
import ClosedShape.Yaml.Node
import ClosedShape.Yaml.Reason
/-!
# Assembling the values of YAML nodes

Collections are filled in the order in which they are met, the nearer to the root the earlier, so
that a collection can refer to itself and to others that are still empty.  Only keys are filled at
once, with all that is in them.
-/

namespace ClosedShape.Yaml

/-- What a node stands for: a value, or the collection that is built at a place. -/
inductive Item where
  | value (value : Value)
  | collection (place : Nat)
deriving Inhabited

/-- What is in a collection.  Keys are values, since they never change. -/
inductive Collection where
  | list (items : List Item)
  | pairs (entries : List (Item × Item))
  | mapping (entries : List (Value × Item))
  | orderedMapping (entries : List (Value × Item))
  | set (keys : List Value)
deriving Inhabited

/-- The name of a collection's type. -/
def Collection.typeName : Collection → String
  | .list _ | .pairs _ => "list"
  | .mapping _ => "dict"
  | .orderedMapping _ => "ordereddict"
  | .set _ => "set"

/-- How far the values of a graph have been built. -/
structure Assembly where
  graph : Graph
  version : Version
  /-- The entries that a mapping has taken over from others. -/
  merged : Array (List (Nat × Nat))
  items : Array (Option Item)
  collections : Array Collection
  /-- The nodes that are being built. -/
  entered : List Nat := []
  /-- The collections that are still to be filled. -/
  waiting : List Nat := []
deriving Inhabited

abbrev Assembler := StateT Assembly (Except Reason)

namespace Assembly

def ofGraph (graph : Graph) (version : Version) : Assembly where
  graph
  version
  merged := Array.replicate graph.size []
  items := Array.replicate graph.size none
  collections := Array.replicate graph.size (.list [])

/-- The value of an item as far as its collections are filled; `none` for one inside itself. -/
def value? (assembly : Assembly) : Nat → Item → Option Value
  | _, .value value => some value
  | 0, .collection _ => none
  | fuel + 1, .collection place => do
      match ← assembly.collections[place]? with
      | .list items => some (.list (← items.mapM (assembly.value? fuel)))
      | .pairs entries => do
          let pairs ← entries.mapM fun entry => do
            some (.tuple [← assembly.value? fuel entry.1, ← assembly.value? fuel entry.2])
          some (.list pairs)
      | .mapping entries | .orderedMapping entries => do
          let entries ← entries.mapM fun entry => do
            some (entry.1, ← assembly.value? fuel entry.2)
          some (.object entries)
      | .set keys => some (.set keys)

/-- Shows an item in a message, which can fail; one inside itself is not shown. -/
def checkShown (assembly : Assembly) (item : Item) : Except Fault Unit := do
  match assembly.value? (assembly.graph.size + 1) item with
  | some value => discard value.display
  | none => return

end Assembly

/-! ## Scalars -/

/-- The value of a scalar with a tag. -/
def scalarValue (version : Version) (tag : Tag) (content : Text) : Except Reason Value :=
  match tag with
  | .null => .ok .null
  | .bool => return .bool (← Reason.ofFault (truth content))
  | .int => return .int (← Reason.ofFault (integer version content))
  | .float => return .float (← Reason.ofFault (decimal version content))
  | .text => .ok (.text content)
  | .binary =>
      match content.chars? with
      | none => .error .invalidBinary
      | some chars =>
          match chars.all (·.toNat < 0x80), Text.decodeBase64 chars with
          | true, some bytes => .ok (.bytes bytes)
          | _, _ => .error .invalidBinary
  | .timestamp =>
      match content.chars?.bind Timestamp.ofContent? with
      | some timestamp => Reason.ofFault timestamp.value
      | none => .error .invalidTimestamp
  | .sequence | .mapping | .set | .orderedMapping | .pairs => .error .unfitTag
  | .merge | .default | .other _ => .error .unknownTag

namespace Assembler

def nodeAt (place : Nat) : Assembler Node := return (← get).graph[place]?.getD default

def changeNode (place : Nat) (change : Node → Node) : Assembler Unit :=
  modify fun assembly =>
    { assembly with graph := assembly.graph.modify place change }

/-- The text of a scalar, or of the scalar that stands for a mapping. -/
def scalarText : Nat → Nat → Assembler Text
  | 0, _ => throw .endless
  | fuel + 1, place => do
      match ← nodeAt place with
      | .scalar _ content => return content
      | .sequence _ _ => throw .unfitTag
      | .mapping _ entries => do
          let graph := (← get).graph
          let isDefault := fun entry : Nat × Nat =>
            (graph[entry.1]?.map Node.tag) = some .default
          match entries.find? isDefault with
          | some (_, value) => scalarText fuel value
          | none => throw .unfitTag

/-! ## Merging -/

/-- Makes the entries that a mapping merges its own, in front of those that it had.  `merged` are
those found so far.  Keys that stand for whole mappings become plain texts. -/
def flatten : Nat → Nat → List (Nat × Nat) → Assembler Unit
  | 0, _, _ => throw .endless
  | fuel + 1, place, merged => do
      let entries := (← nodeAt place).entries
      let graph := (← get).graph
      let hasTag := fun (tag : Tag) (entry : Nat × Nat) =>
        (graph[entry.1]?.map Node.tag) = some tag
      match entries.findIdx? (hasTag .merge) with
      | none => do
          for entry in entries do
            if hasTag .default entry then changeNode entry.1 (Node.retag .text)
          unless merged.isEmpty do
            changeNode place (Node.withEntries (merged ++ entries))
            modify fun assembly =>
              { assembly with merged := assembly.merged.setIfInBounds place merged }
      | some index => do
          unless merged.isEmpty do throw .duplicateKey
          changeNode place (Node.withEntries (entries.eraseIdx index))
          let entriesOf := fun (source : Nat) => do
            match ← nodeAt source with
            | .mapping _ _ => do
                flatten fuel source []
                return (← nodeAt source).entries
            | _ => throw Reason.invalidMerge
          let source := (entries[index]?.map Prod.snd).getD place
          match ← nodeAt source with
          | .sequence _ items => do
              let merged ← items.mapM entriesOf
              flatten fuel place merged.reverse.flatten
          | _ => do flatten fuel place (← entriesOf source)

/-! ## Keys -/

/-- An item as part of a key, or the name of its type if it cannot be one. -/
def keyPart (item : Item) : Assembler (Except String Value) := do
  match item with
  | .value value => return .ok value
  | .collection place => return .error (((← get).collections[place]?.getD default).typeName)

/-- An item as a key.  A list becomes a tuple of what is in it; if that cannot be looked up, the
name of its type is the result. -/
def keyOf (item : Item) : Assembler (Except String Value) := do
  match item with
  | .value value => return .ok value
  | .collection place =>
      match (← get).collections[place]?.getD default with
      | .list items => do
          let parts ← items.mapM keyPart
          return (parts.mapM id).map .tuple
      | .pairs entries => do
          let parts ← entries.mapM fun entry => do
            let first ← keyPart entry.1
            let second ← keyPart entry.2
            return do return Value.tuple [← first, ← second]
          return (parts.mapM id).map .tuple
      | _ => throw .unhashableKey

/-- Whether two keys are the same.  As a key, the double that equals nothing is the same as
itself. -/
def isSameKey (left right : Value) : Bool :=
  match left, right with
  | .float .nan, .float .nan => true
  | .tuple lefts, .tuple rights =>
      lefts.length == rights.length &&
        (lefts.zip rights).all fun
          | (.float .nan, .float .nan) => true
          | (left, right) => left.equals right
  | left, right => left.equals right

/-- Sets the item under a key.  A key that is there already keeps its place. -/
def putKey (entries : List (Value × Item)) (key : Value) (item : Item) : List (Value × Item) :=
  if entries.any fun entry => isSameKey entry.1 key then
    entries.map fun entry => if isSameKey entry.1 key then (entry.1, item) else entry
  else entries ++ [(key, item)]

/-- Refuses a key that is there already.  The refusal shows the key and both its items. -/
def refuseRepeated (entries : List (Value × Item)) (key : Value) (item : Item) :
    Assembler Unit := do
  match entries.find? fun entry => isSameKey entry.1 key with
  | none => return
  | some (_, original) => do
      let assembly ← get
      Reason.ofFault do
        discard key.display
        assembly.checkShown item
        assembly.checkShown original
      throw .duplicateKey

/-! ## Collections -/

variable (build : Bool → Nat → Assembler Item)

/-- Builds entries one after the other.  Keys are built with all that is in them. -/
def entriesAt (deep distinct : Bool) (entries : List (Nat × Nat)) :
    Assembler (List (Value × Item)) :=
  entries.foldlM
    (fun built entry => do
      let key ← keyOf (← build true entry.1)
      let item ← build deep entry.2
      match key with
      | .error typeName => throw (.faulty (.notHashable typeName))
      | .ok key => do
          if distinct then refuseRepeated built key item
          return putKey built key item)
    []

/-- The entries of a mapping: merged entries come first, and entries of its own win over them.
Only without merged entries must all keys be distinct. -/
def mappingAt (deep : Bool) (place : Nat) : Assembler (List (Value × Item)) := do
  let graph := (← get).graph
  flatten (graph.foldl (fun count node => count + node.entries.length) 2) place []
  let merged := (← get).merged[place]?.getD []
  let entries := (← nodeAt place).entries
  if merged.isEmpty then entriesAt build deep true entries
  else do
    let first ← entriesAt build deep false merged
    let second ← entriesAt build deep false entries
    return second.foldl (fun entries entry => putKey entries entry.1 entry.2) first

/-- The only entry of a mapping that stands for a pair. -/
def pairAt (place : Nat) : Assembler (Nat × Nat) := do
  match ← nodeAt place with
  | .mapping _ [entry] => return entry
  | _ => throw .unfitTag

/-- The entries of a mapping that is given as a sequence of pairs.  A list is no key here, not even
as a tuple. -/
def orderedEntriesAt (deep : Bool) (items : List Nat) : Assembler (List (Value × Item)) :=
  items.foldlM
    (fun built item => do
      let entry ← pairAt item
      match ← keyPart (← build deep entry.1) with
      | .error typeName => throw (.faulty (.notHashable typeName))
      | .ok key => do
          if built.any fun other => isSameKey other.1 key then throw (.faulty .keyRepeated)
          return built ++ [(key, ← build deep entry.2)])
    []

/-- What is in the collection at a place. -/
def collectionAt (deep : Bool) (place : Nat) : Assembler Collection := do
  let node ← nodeAt place
  match node.tag, node with
  | .sequence, .sequence _ items => return .list (← items.mapM (build deep))
  | .pairs, .sequence _ items => do
      let entries ← items.mapM fun item => do
        let entry ← pairAt item
        return (← build deep entry.1, ← build deep entry.2)
      return .pairs entries
  | .orderedMapping, .sequence _ items =>
      return .orderedMapping (← orderedEntriesAt build deep items)
  | .mapping, .mapping _ _ => return .mapping (← mappingAt build deep place)
  | .set, .mapping _ _ => return .set ((← mappingAt build deep place).map Prod.fst)
  | _, _ => throw .unfitTag

def fill (deep : Bool) (place : Nat) : Assembler Unit := do
  let collection ← collectionAt build deep place
  modify fun assembly =>
    { assembly with
      collections := assembly.collections.setIfInBounds place collection }

end Assembler

/-- The collection that a tag stands for, before anything is in it. -/
def Tag.emptyCollection? : Tag → Option Collection
  | .sequence => some (.list [])
  | .pairs => some (.pairs [])
  | .mapping => some (.mapping [])
  | .orderedMapping => some (.orderedMapping [])
  | .set => some (.set [])
  | _ => none

namespace Assembler

/-- What a node with the tag of a scalar stands for. -/
def scalarAt (place : Nat) : Assembler Item := do
  let assembly ← get
  let node ← nodeAt place
  match node.tag, node with
  | .merge, _ | .default, _ | .other _, _ => throw .unknownTag
  | .timestamp, .sequence _ _ | .timestamp, .mapping _ _ => throw .invalidTimestamp
  | tag, _ => do
      let content ← scalarText (assembly.graph.size + 1) place
      return .value (← scalarValue assembly.version tag content)

/-- What a node stands for.  Each node is built once, and while that goes on it stands for nothing.
A collection is filled at once if `deep` is set. -/
def build : Nat → Bool → Nat → Assembler Item
  | 0, _, _ => throw .endless
  | fuel + 1, deep, place => do
      let assembly ← get
      match assembly.items[place]?.join with
      | some item => return item
      | none =>
          if assembly.entered.contains place then return .value .null
          set { assembly with entered := place :: assembly.entered }
          let item ←
            match (← nodeAt place).tag.emptyCollection? with
            | none => scalarAt place
            | some collection => do
                modify fun assembly =>
                  { assembly with
                    collections := assembly.collections.setIfInBounds place collection
                    waiting :=
                      if deep then assembly.waiting else assembly.waiting ++ [place] }
                if deep then fill (build fuel) deep place
                pure (.collection place)
          modify fun assembly =>
            { assembly with
              items := assembly.items.setIfInBounds place (some item)
              entered := assembly.entered.erase place }
          return item

/-- Fills the collections that wait for it, and those that are met on the way. -/
def fillWaiting (depth : Nat) : Nat → Assembler Unit
  | 0 => return
  | fuel + 1 => do
      match (← get).waiting with
      | [] => return
      | place :: waiting => do
          modify fun assembly => { assembly with waiting }
          fill (build depth) false place
          fillWaiting depth fuel

/-- Builds the value of a whole graph. -/
def root (place : Nat) : Assembler Value := do
  let depth := (← get).graph.size + 1
  let item ← build depth false place
  fillWaiting depth depth
  match (← get).value? depth item with
  | some value => return value
  | none => throw .endless

end Assembler

/-- The value that a graph describes from a place on. -/
def Graph.value (graph : Graph) (version : Version) (place : Nat) : Except Reason Value :=
  (Assembler.root place).run' (.ofGraph graph version)

end ClosedShape.Yaml
