import ClosedShape.Settings.File
/-!
# Finding the settings file

The settings file is the nearest one above the directory where the search starts, unless the
environment names it.
-/

namespace ClosedShape

/-- Environment variables in the order in which they were set. -/
abbrev Environment := List (String × String)

namespace Environment

/-- The value of a variable: the one that was set last. -/
def find? (environment : Environment) (name : String) : Option String :=
  environment.reverse.lookup name

/-- The variables with one value each, in the order in which they were first set. -/
def distinct (environment : Environment) : Environment :=
  environment.foldl
    (fun known entry =>
      if known.any fun other => other.1 == entry.1 then
        known.map fun other => if other.1 == entry.1 then entry else other
      else known ++ [entry])
    []

/-- The value of a variable whose name may be in upper or lower case.  Of several the last
counts. -/
def findAnyCase? (environment : Environment) (name : String) : Option String :=
  (environment.distinct.reverse.find? fun entry =>
    Text.lowerCase entry.1 == Text.lowerCase name).map Prod.snd

end Environment

namespace Settings

/-- Why the search for a settings file fails. -/
inductive DiscoveryFailure where
  | faulty (fault : Fault)
  | system (error : SystemError)
deriving Inhabited

def discoveryLogger : String := "shapectl.config.discovery"

/-- The variable that names the settings file. -/
def fileVariable : String := "SHAPECTL_CONFIG"

def isFile (tree : FileTree) (path : FilePath) : Logged DiscoveryFailure Bool :=
  .ofExcept ((tree.isFile path).mapError .system)

/-- Whether there is a project file with settings for this tool.  One that cannot be read has
none. -/
def isOwnProject (tree : FileTree) (path : FilePath) : Logged DiscoveryFailure Bool := do
  if ← isFile tree path then
    match readToml tree path with
    | .ok entries => return declaresSettings entries
    | .error (.problem _) => do
        .report .debug discoveryLogger ("Skipping unreadable " ++ path.toString)
        return false
    | .error (.faulty fault) => .fail (.faulty fault)
  else return false

/-- Searches directories in order for a settings file. -/
def searchDirectories (tree : FileTree) : List FilePath → Logged DiscoveryFailure (Option FilePath)
  | [] => pure none
  | directory :: rest => do
      let own := directory.child ownFileName
      if ← isFile tree own then return some own
      let project := directory.child projectFileName
      if ← isOwnProject tree project then
        .report .debug discoveryLogger ("Using [tool.shapectl] from " ++ project.toString)
        return some project
      searchDirectories tree rest

/-- A directory and all directories above it, the nearest first. -/
def upward (directory : FilePath) : List FilePath :=
  (List.range (directory.names.length + 1)).map fun count =>
    { directory with names := directory.names.take (directory.names.length - count) }

/-- Finds the settings file for a directory.  A file that the environment names is the only one
that counts. -/
def findFile (tree : FileTree) (environment : Environment) (start : Option FilePath) :
    Logged DiscoveryFailure (Option FilePath) :=
  match (environment.find? fileVariable).filter fun name => !name.isEmpty with
  | some name => do
      let path := FilePath.ofString name
      return if ← isFile tree path then some path else none
  | none => searchDirectories tree (upward (tree.resolve (start.getD ⟨"", []⟩)))

end Settings

end ClosedShape
