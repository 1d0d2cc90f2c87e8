import ClosedShape.Text
/-!
# Field trails

The way from a checked value down to one of its parts.
-/

namespace ClosedShape

/-- One step of a trail.  A truth value can stand in for an index. -/
inductive Segment where
  | name (field : Text)
  | index (position : Int)
  | flag (truth : Bool)
deriving DecidableEq, Repr, Inhabited

abbrev Trail := List Segment

namespace Trail

/-- Appends a step to a rendered trail: indices in brackets, names after a dot unless nothing has
been written yet. -/
def extend (rendered : Text) : Segment → Text
  | .index position => rendered ++ "[" ++ toString position ++ "]"
  | .flag truth => rendered ++ "[" ++ Text.ofString (if truth then "True" else "False") ++ "]"
  | .name field => if rendered.isEmpty then field else rendered ++ "." ++ field

/-- Renders a trail such as `apps[0].title`. -/
def render (trail : Trail) : Text := trail.foldl extend []

end Trail

end ClosedShape
