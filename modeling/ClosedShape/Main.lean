import ClosedShape.CommandLine
import Std.Time.DateTime
/-!
# The program

Collects what a run can see, runs the command line on it and writes what it says.  A program with
schemas of its own calls `runWith` on them.
-/

namespace ClosedShape.Program

/-- The current time in universal time, to the microsecond. -/
def currentTime : IO String := do
  let stamp ← Std.Time.Timestamp.now
  let now := Std.Time.PlainDateTime.ofWallTime (stamp.toWallTime Std.Time.TimeZone.Offset.zero)
  let date : Date := ⟨now.date.year.toInt.toNat, now.date.month.val.toNat, now.date.day.val.toNat⟩
  let time : TimeOfDay :=
    ⟨now.time.hour.val.toNat, now.time.minute.val.toNat, now.time.second.val.toNat,
      now.time.nanosecond.val.toNat / 1000⟩
  return (Moment.mk date time none).textWith "T" ++ "Z"

/-- The variables that settings may come from. -/
def readEnvironment : IO Environment := do
  let names := Settings.fileVariable :: Settings.fieldNames.flatMap fun name =>
    let name := Settings.variablePrefix ++ name
    [name.toLower, name.toUpper]
  let mut environment := []
  for name in names do
    if let some value ← IO.getEnv name then
      environment := environment ++ [(name, value)]
  return environment

/-- What is at a path, if there is anything, or else that its directory is closed. -/
def readNode (path : FilePath) : IO (Option (FilePath × FileNode)) := do
  let system := (← IO.currentDir) / path.toString
  try
    let _ ← system.metadata
  catch
    | .permissionDenied _ _ _ => return some (path.parent, .closed)
    | _ => return none
  if ← system.isDir then return some (path, .directory)
  try
    return some (path, .file (← IO.FS.readBinFile system).toList none)
  catch
    | .permissionDenied _ _ _ =>
        return some (path, .file [] (some (.numbered 13 "Permission denied" (some path.toString))))
    | error => return some (path, .file [] (some (.plain error.toString)))

/-- Whether the system says that a file may not be read. -/
def isRefused (tree : FileTree) (path : FilePath) : Bool :=
  match tree.lookup path with
  | .ok (some (.file _ (some error))) => error.kind == "PermissionError"
  | _ => false

/-- The part of the file system that a run may look at. -/
def readFiles (arguments : List String) (environment : Environment) : IO FileTree := do
  let location := FilePath.ofString (← IO.currentDir).toString
  let tree : FileTree := ⟨location, []⟩
  let searched := (Settings.upward location).flatMap fun directory =>
    [directory.child Settings.ownFileName, directory.child Settings.projectFileName]
  let named := (environment.find? Settings.fileVariable).toList.map FilePath.ofString
  let mut entries := []
  for path in searched ++ named ++ CommandLine.namedPaths arguments do
    if let some (place, node) ← readNode path then
      entries := entries ++ [((tree.resolve place).names, node)]
  return { tree with entries }

/-- Runs a command line with the modules that its schemas may come from. -/
def runWith (modules : Modules) (arguments : List String) : IO UInt32 := do
  let environment ← readEnvironment
  let files ← readFiles arguments environment
  let world : CommandLine.World :=
    { files, environment, modules, readable := fun path => !isRefused files path
      time := ← currentTime }
  let outcome := CommandLine.run world arguments
  (← IO.getStdout).putStr outcome.emission.output
  (← IO.getStderr).putStr outcome.emission.errors
  if let some message := outcome.crash.bind CommandLine.Crash.message then
    (← IO.getStderr).putStrLn message.writeEscaped
  return outcome.emission.status.toUInt32

end ClosedShape.Program

def main (arguments : List String) : IO UInt32 :=
  ClosedShape.Program.runWith [] arguments
