import ClosedShape.Value
/-!
# Pruning

Removes the entries and items that were not provided, for display.
-/

namespace ClosedShape.Value

mutual

/-- Drops `absent` from plain mappings and lists, at any depth that leads through these alone. -/
def prune : Value → Value
  | .list items => .list (pruneItems items)
  | .mapping .plain entries => .mapping .plain (pruneEntries entries)
  | value => value

def pruneItems : List Value → List Value
  | [] => []
  | item :: items => if item.isAbsent then pruneItems items else prune item :: pruneItems items

def pruneEntries : List (Value × Value) → List (Value × Value)
  | [] => []
  | (key, value) :: entries =>
      if value.isAbsent then pruneEntries entries else (key, prune value) :: pruneEntries entries

end

end ClosedShape.Value
