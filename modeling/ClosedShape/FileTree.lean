import ClosedShape.FilePath
import ClosedShape.Text.Quoted
/-!
# File trees

The files that a run can see, as data.  Everything that reads files takes a tree, and where a
relative path starts is the directory of the tree itself.  A tree is all of the system, or a part of
it with a root of its own, outside of which nothing is known.
-/

namespace ClosedShape

/-- Why the system could not serve a file. -/
inductive SystemError where
  /-- An error with a number and a description, and the file it is about. -/
  | numbered (code : Int) (description : String) (file : Option String)
  /-- An error that only has a text, or none. -/
  | plain (text : String)
deriving DecidableEq, Repr, Inhabited

namespace SystemError

/-- The class of an error follows from its number. -/
def kind : SystemError → String
  | .plain _ => "OSError"
  | .numbered code _ _ =>
      if code = 1 || code = 13 then "PermissionError"
      else if code = 2 then "FileNotFoundError"
      else if code = 3 then "ProcessLookupError"
      else if code = 4 then "InterruptedError"
      else if code = 10 then "ChildProcessError"
      else if code = 11 || code = 114 || code = 115 then "BlockingIOError"
      else if code = 17 then "FileExistsError"
      else if code = 20 then "NotADirectoryError"
      else if code = 21 then "IsADirectoryError"
      else if code = 32 || code = 108 then "BrokenPipeError"
      else if code = 103 then "ConnectionAbortedError"
      else if code = 104 then "ConnectionResetError"
      else if code = 110 then "TimeoutError"
      else if code = 111 then "ConnectionRefusedError"
      else "OSError"

def text : SystemError → String
  | .plain text => text
  | .numbered code description file =>
      s!"[Errno {code}] {description}" ++
        (file.map fun file => ": " ++ Text.quoted file).getD ""

/-- The description alone, if there is one, or else the whole text. -/
def reason : SystemError → String
  | .numbered code description file =>
      if description.isEmpty then text (.numbered code description file) else description
  | .plain text => text

def notFound (path : FilePath) : SystemError :=
  .numbered 2 "No such file or directory" (some path.toString)

def nameTooLong (path : FilePath) : SystemError :=
  .numbered 36 "File name too long" (some path.toString)

def searchRefused (path : FilePath) : SystemError :=
  .numbered 13 "Permission denied" (some path.toString)

end SystemError

/-- An entry of a tree.  A file may refuse to be read, and a closed directory refuses to be
searched. -/
inductive FileNode where
  | directory
  | closed
  | file (content : List UInt8) (refusal : Option SystemError)
deriving DecidableEq, Repr, Inhabited

/-- Files and directories by the names that lead to them from a root.  `location` is the absolute
path of the directory where relative paths start. -/
structure FileTree where
  location : FilePath
  entries : List (List String × FileNode)
deriving Repr, Inhabited

namespace FileTree

/-- The entry under some names.  A directory is there if anything is below it. -/
def find? (tree : FileTree) (names : List String) : Option FileNode :=
  match tree.entries.find? fun entry => entry.1 == names with
  | some (_, node) => some node
  | none =>
      if names.isPrefixOf tree.location.names ||
          tree.entries.any (fun entry => names.isPrefixOf entry.1) then
        some .directory
      else none

/-- The longest name of a directory entry, in bytes. -/
def longestName : Nat := 255

/-- The longest path, in bytes. -/
def longestPath : Nat := 4095

/-- The tree is all of the system. -/
def isWhole (tree : FileTree) : Bool := tree.location.root == "/"

/-- Follows names down from a directory of the tree.  Two dots lead back up, and the root of the
system is above itself. -/
def walk (tree : FileTree) (path : FilePath) :
    List String → List String → Except SystemError (Option FileNode)
  | here, [] => .ok (tree.find? here)
  | here, name :: rest =>
      match tree.find? here with
      | some .directory =>
          if name = ".." then
            if here.isEmpty && !tree.isWhole then .ok none else walk tree path here.dropLast rest
          else if longestName < name.utf8ByteSize then .error (.nameTooLong path)
          else walk tree path (here ++ [name]) rest
      | some .closed => .error (.searchRefused path)
      | _ => .ok none

/-- The names that lead to a path from the root.  In the system one root is as good as another. -/
def namesOf (tree : FileTree) (path : FilePath) : Option (List String) :=
  if !path.isAbsolute then some (tree.location.names ++ path.names)
  else if tree.isWhole || path.root = tree.location.root then some path.names
  else none

/-- Looks up a path.  Nothing is at a path with a zero character, which no argument of a program can
hold. -/
def lookup (tree : FileTree) (path : FilePath) : Except SystemError (Option FileNode) :=
  if longestPath < path.toString.utf8ByteSize then .error (.nameTooLong path)
  else if path.toString.toList.contains (Char.ofNat 0) then .ok none
  else
    match tree.namesOf path with
    | some names => tree.walk path [] names
    | none => .ok none

/-- Whether a path leads to a file. -/
def isFile (tree : FileTree) (path : FilePath) : Except SystemError Bool :=
  return match ← tree.lookup path with
    | some (.file _ _) => true
    | _ => false

/-- The bytes of a file. -/
def read (tree : FileTree) (path : FilePath) : Except SystemError (List UInt8) := do
  match ← tree.lookup path with
  | some (.file _ (some refusal)) => throw refusal
  | some (.file content none) => return content
  | some .directory | some .closed => throw (.numbered 21 "Is a directory" (some path.toString))
  | none => throw (.notFound path)

/-- The absolute form of a path, with two dots leading up by name. -/
def resolve (tree : FileTree) (path : FilePath) : FilePath :=
  let start := if path.isAbsolute then ⟨path.root, []⟩ else tree.location
  path.names.foldl (fun here name => if name = ".." then here.parent else here.child name) start

end FileTree

end ClosedShape
