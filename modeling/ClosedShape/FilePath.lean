/-!
# File paths

Paths of names between slashes.  Doubled slashes and single dots say nothing and are dropped; two
dots are kept, because what they stand for depends on the files.
-/

namespace ClosedShape

/-- A path: what it starts from, which is nothing for a relative path, and its names. -/
structure FilePath where
  root : String
  names : List String
deriving DecidableEq, Repr, Inhabited

namespace FilePath

/-- Two leading slashes are a root of their own; any other number is one slash. -/
def ofString (text : String) : FilePath :=
  let slashes := (text.toList.takeWhile (· == '/')).length
  let root := if slashes = 0 then "" else if slashes = 2 then "//" else "/"
  ⟨root, (text.splitOn "/").filter fun name => !name.isEmpty && name != "."⟩

/-- The relative path without names is the current directory. -/
def toString (path : FilePath) : String :=
  let text := path.root ++ "/".intercalate path.names
  if text.isEmpty then "." else text

instance : ToString FilePath := ⟨toString⟩

def isAbsolute (path : FilePath) : Bool := !path.root.isEmpty

/-- The last name. -/
def name (path : FilePath) : String := path.names.getLast?.getD ""

/-- The last dot of the name and what follows it.  A name that starts or ends with its last dot
has no suffix. -/
def suffix (path : FilePath) : String :=
  let reversed := path.name.toList.reverse
  let ending := reversed.takeWhile (· != '.')
  let front := reversed.drop (ending.length + 1)
  if ending.isEmpty || front.isEmpty then "" else String.ofList ('.' :: ending.reverse)

/-- The path to an entry of a directory. -/
def child (path : FilePath) (name : String) : FilePath :=
  { path with names := path.names ++ [name] }

/-- The directory a path is in. -/
def parent (path : FilePath) : FilePath := { path with names := path.names.dropLast }

end FilePath

end ClosedShape
