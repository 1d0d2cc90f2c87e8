/-!
# Similar texts

How much two texts have in common, to suggest what may have been meant.
-/

namespace ClosedShape.Text

/-- The length of what two texts start with in common. -/
def commonStart : List Char → List Char → Nat
  | left :: lefts, right :: rights => if left = right then commonStart lefts rights + 1 else 0
  | _, _ => 0

/-- A part that two texts have in common: where it is in each of them, and its length. -/
structure CommonPart where
  left : Nat := 0
  right : Nat := 0
  length : Nat := 0
deriving DecidableEq, Repr, Inhabited

/-- The longest common part.  Of several it is the first in the left text, and of those the first
in the right one. -/
def longestCommonPart (left right : List Char) : CommonPart :=
  (List.range left.length).foldl
    (fun best i =>
      (List.range right.length).foldl
        (fun best j =>
          let length := commonStart (left.drop i) (right.drop j)
          if best.length < length then ⟨i, j, length⟩ else best)
        best)
    {}

/-- The number of characters in the longest common part and, by the same rule, in what is before
it and in what is after it. -/
def commonLength : Nat → List Char → List Char → Nat
  | 0, _, _ => 0
  | fuel + 1, left, right =>
      let part := longestCommonPart left right
      if part.length = 0 then 0
      else
        commonLength fuel (left.take part.left) (right.take part.right) + part.length +
          commonLength fuel (left.drop (part.left + part.length))
            (right.drop (part.right + part.length))

/-- How similar a choice is to a text, as the share of common characters among all: twice `common`
of `total`. -/
structure Similarity where
  choice : String
  common : Nat
  total : Nat

def similarity (text choice : String) : Similarity :=
  ⟨choice, commonLength choice.length choice.toList text.toList, choice.length + text.length⟩

/-- Three fifths of all characters must be in common. -/
def Similarity.isClose (similarity : Similarity) : Bool :=
  3 * similarity.total ≤ 10 * similarity.common

/-- Whether a choice goes before another: the more similar one, then the later in the alphabet. -/
def Similarity.precedes (first second : Similarity) : Bool :=
  second.common * first.total < first.common * second.total ||
    (second.common * first.total == first.common * second.total &&
      decide (second.choice ≤ first.choice))

/-- The choices that are suggested for a text, at most three, in alphabetical order. -/
def suggestions (choices : List String) (text : String) : List String :=
  let close := (choices.map (similarity text)).filter Similarity.isClose
  let best := (close.mergeSort Similarity.precedes).take 3
  (best.map Similarity.choice).mergeSort fun first second => decide (first ≤ second)

end ClosedShape.Text
