import ClosedShape.Document
/-!
# Settings files

A settings file is a TOML document.  In a project file that other tools share, the settings are a
table of their own.
-/

namespace ClosedShape.Settings

def ownFileName : String := "shapectl.toml"

def projectFileName : String := "pyproject.toml"

/-- The table of a project file for tools, and the table in it for this one. -/
def toolTable : String := "tool"

def ownTable : String := "shapectl"

/-- The entries of a TOML file. -/
def readToml (tree : FileTree) (path : FilePath) :
    Except Document.DecodeFailure (List (Value × Value)) :=
  return (← Document.read tree path .toml).mappingEntries?.getD []

/-- The entries of a table.  What is no table has none. -/
def tableEntries (entries : List (Value × Value)) (name : String) : List (Value × Value) :=
  ((Value.lookupText entries name).mappingEntries?).getD []

/-- The settings that a file holds. -/
def readTable (tree : FileTree) (path : FilePath) :
    Except Document.DecodeFailure (List (Value × Value)) := do
  let entries ← readToml tree path
  if path.name = projectFileName then return tableEntries (tableEntries entries toolTable) ownTable
  else return entries

/-- Whether the entries of a project file have settings for this tool, of whatever kind. -/
def declaresSettings (entries : List (Value × Value)) : Bool :=
  !(Value.lookupText (tableEntries entries toolTable) ownTable).isAbsent

end ClosedShape.Settings
