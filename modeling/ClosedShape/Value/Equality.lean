import ClosedShape.Value.Number
/-!
# Equality of values

Values of different types are different, except that numbers and booleans compare by their exact
number and mappings by their entries.
-/

namespace ClosedShape.Value

mutual

/-- Whether two values are equal.  A tuple never equals a list, and mappings of any flavour are
equal if they have equal entries, in any order. -/
def equals : Value → Value → Bool
  | .absent, .absent => true
  | .null, .null => true
  | .text left, .text right => left == right
  | .list left, .list right => equalItems left right
  | .tuple left, .tuple right => equalItems left right
  | .set left, .set right => left.length == right.length && containsItems left right
  | .mapping _ left, .mapping _ right => left.length == right.length && containsEntries left right
  | .bytes left, .bytes right => left == right
  | .date left, .date right => left == right
  | .time left, .time right => left == right
  | .moment left, .moment right => left.isSame right
  | .function left, .function right => left == right
  | .opaqueObject _ left, .opaqueObject _ right => left == right
  | left, right =>
      match left.number?, right.number? with
      | some left, some right => left.equals right
      | _, _ => false

def equalItems : List Value → List Value → Bool
  | [], [] => true
  | left :: lefts, right :: rights => equals left right && equalItems lefts rights
  | _, _ => false

/-- Whether every item of the first list equals some item of the second. -/
def containsItems : List Value → List Value → Bool
  | [], _ => true
  | item :: items, others =>
      others.any (fun other => equals item other) && containsItems items others

/-- Whether every entry of the first list has an equal one in the second. -/
def containsEntries : List (Value × Value) → List (Value × Value) → Bool
  | [], _ => true
  | (key, value) :: entries, others =>
      others.any (fun other => equals key other.1 && equals value other.2) &&
        containsEntries entries others

end

variable {α : Type}

/-- What is under a key. -/
def lookup (entries : List (Value × α)) (key : Value) : Option α :=
  (entries.find? fun entry => entry.1.equals key).map Prod.snd

/-- Sets what is under a key.  A key that is there already keeps its place and its form. -/
def insert (entries : List (Value × α)) (key : Value) (content : α) : List (Value × α) :=
  match entries with
  | [] => [(key, content)]
  | (other, old) :: rest =>
      if other.equals key then (other, content) :: rest
      else (other, old) :: insert rest key content

/-- Entries given one after the other: of equal keys the first keeps its place and the last
content wins. -/
def ofEntries (entries : List (Value × α)) : List (Value × α) :=
  entries.foldl (fun built entry => insert built entry.1 entry.2) []

end ClosedShape.Value
