import ClosedShape.Yaml.Lexer
import ClosedShape.Yaml.Node
/-!
# Reading YAML nodes

Reads tokens as the nodes of a document.  A token is asked for only where what stands there matters,
so that a text that cannot be split further is refused no earlier than it has to be.
-/

namespace ClosedShape.Yaml

/-- The tokens that are left, with what those before them described and declared. -/
structure TokenStream where
  tokens : List Token
  /-- Why there are no more tokens. -/
  ending : Reason := .nodeExpected
  graph : Graph := #[]
  /-- Nodes by their anchors, the latest first. -/
  anchors : List (String × Nat) := []
  /-- Tag handles and what they stand for. -/
  handles : List (String × String) := []
  version : Version := .usual
deriving Inhabited

abbrev NodeReader := StateT TokenStream (Except Reason)

namespace NodeReader

def peek : NodeReader Token := do
  let stream ← get
  match stream.tokens with
  | token :: _ => return token
  | [] => throw stream.ending

def advance : NodeReader Unit :=
  modify fun stream => { stream with tokens := stream.tokens.tail }

def nextIs (choices : List Token) : NodeReader Bool := return choices.contains (← peek)

/-- Adds a node, which takes over the name of its anchor. -/
def add (anchor : Option String) (node : Node) : NodeReader Nat := do
  let stream ← get
  let place := stream.graph.size
  let anchors := match anchor with
    | some name => (name, place) :: stream.anchors
    | none => stream.anchors
  set { stream with graph := stream.graph.push node, anchors }
  return place

/-- Puts a node at a place where another one stood for it. -/
def complete (place : Nat) (node : Node) : NodeReader Unit :=
  modify fun stream =>
    { stream with graph := stream.graph.setIfInBounds place node }

/-! ## Tags -/

/-- What stands before the content of a node. -/
structure Properties where
  anchor : Option String := none
  /-- The full name of the tag. -/
  tag : Option String := none

/-- The full name of a tag. -/
def expandTag (handle : Option String) (suffix : String) : NodeReader String := do
  let suffix := String.ofList (unescapeTag suffix.toList)
  match handle with
  | none => return suffix
  | some handle =>
      match (← get).handles.lookup handle with
      | some expansion => return expansion ++ suffix
      | none => throw .undefinedTagHandle

/-- Reads an anchor and a tag, in either order. -/
def properties : NodeReader Properties := do
  match ← peek with
  | .anchor name => do
      advance
      match ← peek with
      | .tag handle suffix => do
          advance
          return { anchor := name, tag := ← expandTag handle suffix }
      | _ => return { anchor := name }
  | .tag handle suffix => do
      advance
      match ← peek with
      | .anchor name => do
          advance
          return { anchor := name, tag := ← expandTag handle suffix }
      | _ => return { tag := ← expandTag handle suffix }
  | _ => return {}

def plainTag (content : Text) : NodeReader Tag := do
  Reason.ofFault (Tag.ofPlain (← get).version content)

/-- The tag of a scalar.  Without a tag, or with a lone mark as tag, a plain scalar has the tag of
its text. -/
def scalarTag (plain : Bool) (content : Text) : Option String → NodeReader Tag
  | none => if plain then plainTag content else return .text
  | some "!" => plainTag content
  | some name => return .ofName name

/-- The tag of a collection. -/
def collectionTag (usual : Tag) : Option String → Tag
  | none | some "!" => usual
  | some name => .ofName name

/-! ## Nodes -/

/-- What is left out. -/
def empty : NodeReader Nat := do add none (.scalar (← plainTag []) [])

def scalarOf (properties : Properties) (plain : Bool) (content : Text) : NodeReader Nat := do
  add properties.anchor (.scalar (← scalarTag plain content properties.tag) content)

/-- A sequence whose items may refer to it. -/
def sequenceOf (properties : Properties) (items : NodeReader (List Nat)) : NodeReader Nat := do
  let tag := collectionTag .sequence properties.tag
  let place ← add properties.anchor (.sequence tag [])
  complete place (.sequence tag (← items))
  return place

/-- A mapping whose entries may refer to it. -/
def mappingOf (properties : Properties) (entries : NodeReader (List (Nat × Nat))) :
    NodeReader Nat := do
  let tag := collectionTag .mapping properties.tag
  let place ← add properties.anchor (.mapping tag [])
  complete place (.mapping tag (← entries))
  return place

mutual

/-- Reads a node.  In a block context it can be a block collection; where `indentless` is set, also
a sequence without an indentation of its own. -/
def node : Nat → Bool → Bool → NodeReader Nat
  | 0, _, _ => throw .nodeExpected
  | fuel + 1, block, indentless => do
      match ← peek with
      | .alias name => do
          advance
          match (← get).anchors.lookup name with
          | some place => return place
          | none => throw .undefinedAlias
      | _ => do content fuel block indentless (← properties)

/-- Reads the content of a node.  After an anchor or a tag it can be left out. -/
def content : Nat → Bool → Bool → Properties → NodeReader Nat
  | 0, _, _, _ => throw .nodeExpected
  | fuel + 1, block, indentless, properties => do
      match ← peek, block, indentless with
      | .blockEntry, _, true => sequenceOf properties (indentlessItems fuel)
      | .scalar plain content, _, _ => do
          advance
          scalarOf properties plain content
      | .flowSequenceStart, _, _ => do
          advance
          sequenceOf properties (flowItems fuel true)
      | .flowMappingStart, _, _ => do
          advance
          mappingOf properties (flowEntries fuel true)
      | .blockSequenceStart, true, _ => do
          advance
          sequenceOf properties (blockItems fuel)
      | .blockMappingStart, true, _ => do
          advance
          mappingOf properties (blockEntries fuel)
      | _, _, _ =>
          if properties.anchor.isSome || properties.tag.isSome then scalarOf properties true []
          else throw .nodeExpected

/-- Reads a node unless one of some tokens shows that it is left out. -/
def nodeUnless : Nat → List Token → Bool → Bool → NodeReader Nat
  | 0, _, _, _ => throw .nodeExpected
  | fuel + 1, ends, block, indentless => do
      if ← nextIs ends then empty else node fuel block indentless

/-- Reads the entries of a block sequence. -/
def blockItems : Nat → NodeReader (List Nat)
  | 0 => throw .nodeExpected
  | fuel + 1 => do
      match ← peek with
      | .blockEntry => do
          advance
          let item ← nodeUnless fuel [.blockEntry, .blockEnd] true false
          return item :: (← blockItems fuel)
      | .blockEnd => do
          advance
          return []
      | _ => throw .blockEndExpected

/-- Reads the entries of a sequence that is indented like the mapping around it. -/
def indentlessItems : Nat → NodeReader (List Nat)
  | 0 => throw .nodeExpected
  | fuel + 1 => do
      match ← peek with
      | .blockEntry => do
          advance
          let item ← nodeUnless fuel [.blockEntry, .key, .value, .blockEnd] true false
          return item :: (← indentlessItems fuel)
      | _ => return []

/-- Reads the value after a key, if there is one, in a context that some tokens end. -/
def entryValue : Nat → List Token → Bool → NodeReader Nat
  | 0, _, _ => throw .nodeExpected
  | fuel + 1, ends, block => do
      match ← peek with
      | .value => do
          advance
          nodeUnless fuel ends block block
      | _ => empty

/-- Reads the entries of a block mapping.  Only later versions let a key be left out. -/
def blockEntries : Nat → NodeReader (List (Nat × Nat))
  | 0 => throw .nodeExpected
  | fuel + 1 => do
      let ends := [Token.key, .value, .blockEnd]
      match ← peek, (← get).version.isLater with
      | .blockEnd, _ => do
          advance
          return []
      | .key, _ => do
          advance
          let key ← nodeUnless fuel ends true true
          let value ← entryValue fuel ends true
          return (key, value) :: (← blockEntries fuel)
      | .value, true => do
          let key ← empty
          let value ← entryValue fuel ends true
          return (key, value) :: (← blockEntries fuel)
      | _, _ => throw .blockEndExpected

/-- Reads the entry after a key mark between brackets. -/
def markedEntry : Nat → List Token → NodeReader (Nat × Nat)
  | 0, _ => throw .nodeExpected
  | fuel + 1, ends => do
      advance
      let key ← nodeUnless fuel (.value :: ends) false false
      let value ← entryValue fuel ends false
      return (key, value)

/-- Reads the items of a flow sequence.  A key makes an item a mapping of one entry. -/
def flowItems : Nat → Bool → NodeReader (List Nat)
  | 0, _ => throw .nodeExpected
  | fuel + 1, first => do
      let ends := [Token.flowEntry, .flowSequenceEnd]
      unless first || (← nextIs ends) do throw .separatorExpected
      if !first && (← nextIs [.flowEntry]) then advance
      if ← nextIs [.flowSequenceEnd] then
        advance
        return []
      let item ←
        if ← nextIs [.key] then mappingOf {} do return [← markedEntry fuel ends]
        else node fuel false false
      return item :: (← flowItems fuel false)

/-- Reads the entries of a flow mapping.  A key without a mark has no value, and only later versions
let a key be left out. -/
def flowEntries : Nat → Bool → NodeReader (List (Nat × Nat))
  | 0, _ => throw .nodeExpected
  | fuel + 1, first => do
      let ends := [Token.flowEntry, .flowMappingEnd]
      unless first || (← nextIs ends) do throw .separatorExpected
      if !first && (← nextIs [.flowEntry]) then advance
      if ← nextIs [.flowMappingEnd] then
        advance
        return []
      let entry ←
        match ← peek, (← get).version.isLater with
        | .key, _ => markedEntry fuel ends
        | .value, true => do
            let key ← empty
            let value ← entryValue fuel ends false
            pure (key, value)
        | _, _ => do
            let key ← node fuel false false
            let value ← empty
            pure (key, value)
      return entry :: (← flowEntries fuel false)

end

/-! ## Documents -/

/-- The handles that are always there. -/
def usualHandles : List (String × String) := [("!", "!"), ("!!", Tag.standardNames)]

/-- Reads the directives before a document.  Handles of its own come before the usual ones. -/
def directives : Nat → Bool → List (String × String) → NodeReader Unit
  | 0, _, _ => throw .invalidDirective
  | fuel + 1, versioned, handles => do
      match ← peek with
      | .version version => do
          advance
          if versioned || version.major != 1 then throw .invalidDirective
          modify fun stream => { stream with version }
          directives fuel true handles
      | .tagHandle handle expansion => do
          advance
          if handles.any fun other => other.1 == handle then throw .invalidDirective
          directives fuel versioned (handles ++ [(handle, expansion)])
      | .reserved => do
          advance
          directives fuel versioned handles
      | _ => modify fun stream => { stream with handles := handles ++ usualHandles }

/-- Whether the next token can only stand before a document or after one. -/
def atDocumentEdge : NodeReader Bool := do
  match ← peek with
  | .version _ | .tagHandle _ _ | .reserved | .documentStart | .documentEnd | .streamEnd =>
      return true
  | _ => return false

/-- Reads the root of the first document, with the mark and the directives that stand before it. -/
def document (fuel : Nat) : NodeReader Nat := do
  match ← peek with
  | .version _ | .tagHandle _ _ | .reserved | .documentStart => do
      directives fuel false []
      match ← peek with
      | .documentStart => do
          advance
          if ← atDocumentEdge then empty else node fuel true false
      | _ => throw .documentStartExpected
  | _ => do
      modify fun stream => { stream with handles := usualHandles }
      node fuel true false

/-- Passes marks of the end of a document: the early version takes any number of them. -/
def leaveDocument : Nat → NodeReader Unit
  | 0 => pure ()
  | fuel + 1 => do
      if ← nextIs [.documentEnd] then
        advance
        if (← get).version = .early then leaveDocument fuel

/-- Reads the root of a stream, if there is a document in it. -/
def root (fuel : Nat) : NodeReader (Option Nat) := do
  if ← nextIs [.streamEnd] then return none
  let root ← document fuel
  leaveDocument fuel
  if ← nextIs [.streamEnd] then return some root else throw .severalDocuments

end NodeReader

/-- The nodes that tokens describe, and the place of the root.  A stream without a document has no
root. -/
def readNodes (tokens : List Token) (ending : Option Reason) :
    Except Reason (TokenStream × Option Nat) := do
  let start : TokenStream := { tokens, ending := ending.getD .nodeExpected }
  let (root, stream) ← (NodeReader.root (4 * tokens.length + 4)).run start
  return (stream, root)

end ClosedShape.Yaml
