import ClosedShape.Yaml.Tag
/-!
# YAML nodes

What a YAML document describes: nodes that refer to one another.  A node that has an anchor can be
referred to from several places, also from inside itself.
-/

namespace ClosedShape.Yaml

/-- A node, with other nodes by their places in the graph. -/
inductive Node where
  | scalar (tag : Tag) (content : Text)
  | sequence (tag : Tag) (items : List Nat)
  | mapping (tag : Tag) (entries : List (Nat × Nat))
deriving DecidableEq, Repr, Inhabited

abbrev Graph := Array Node

namespace Node

def tag : Node → Tag
  | .scalar tag _ | .sequence tag _ | .mapping tag _ => tag

def retag (tag : Tag) : Node → Node
  | .scalar _ content => .scalar tag content
  | .sequence _ items => .sequence tag items
  | .mapping _ entries => .mapping tag entries

/-- The entries of a mapping; other nodes have none. -/
def entries : Node → List (Nat × Nat)
  | .mapping _ entries => entries
  | _ => []

def withEntries (entries : List (Nat × Nat)) : Node → Node
  | .mapping tag _ => .mapping tag entries
  | node => node

end Node

end ClosedShape.Yaml
