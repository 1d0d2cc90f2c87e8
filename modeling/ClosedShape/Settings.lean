import ClosedShape.Settings.Discovery
import ClosedShape.Settings.Field
/-!
# Settings

Settings come from flags, from the environment and from a settings file, in this order: of every
field the first source that has it gives its value, and only that value must fit.
-/

namespace ClosedShape

structure Settings where
  /-- The settings file. -/
  configPath : Option FilePath := none
  schemaRef : Option String := none
  jsonOutput : Bool := false
  quiet : Bool := false
  verbose : Bool := false
  logJson : Bool := false
deriving DecidableEq, Repr, Inhabited

/-- Why there are no settings. -/
inductive SettingsFailure where
  /-- There is no file of the given name. -/
  | fileNotFound (name : String)
  | malformed (path : FilePath) (detail : Text)
  /-- Some fields have values that do not fit. -/
  | invalid (problems : List (String × Settings.FieldProblem))
  | system (error : SystemError)
  | faulty (fault : Fault)
deriving Inhabited

namespace Settings

/-- What the names of all variables for fields start with. -/
def variablePrefix : String := "SHAPECTL_"

/-- The names of the fields that every source can give. -/
def fieldNames : List String := ["schema_ref", "json_output", "quiet", "verbose", "log_json"]

/-- The entries of a settings file.  No file has no entries. -/
def fileEntries (tree : FileTree) : Option FilePath → Except SettingsFailure (List (Value × Value))
  | none => .ok []
  | some path =>
      match tree.isFile path with
      | .error error => .error (.system error)
      | .ok false => .ok []
      | .ok true =>
          match readTable tree path with
          | .ok entries => .ok entries
          | .error (.problem (.notUtf8 error)) => .error (.malformed path error.message)
          | .error (.problem (.malformed _ detail)) => .error (.malformed path detail)
          | .error (.problem (.unreadable error)) => .error (.system error)
          | .error (.problem problem) => .error (.malformed path problem.text)
          | .error (.faulty fault) => .error (.faulty fault)

/-- The sources of settings. -/
structure Sources where
  flags : List (String × Value)
  environment : Environment
  file : List (Value × Value)

/-- The value of a field in the first source that has one.  Which source comes first, and that the
names of variables are found in any case, is as in the library `pydantic-settings`. -/
def Sources.find? (sources : Sources) (name : String) : Option Value :=
  match sources.flags.lookup name, sources.environment.findAnyCase? (variablePrefix ++ name) with
  | some value, _ => some value
  | none, some text => some (.text text)
  | none, none => Value.lookup sources.file (.text name)

/-- Reads a field, which has a default. -/
def Sources.read {α : Type} (sources : Sources) (name : String)
    (read : Value → Except FieldProblem α) (default : α) :
    Except (List (String × FieldProblem)) α :=
  match (sources.find? name).map read with
  | none => .ok default
  | some (.ok value) => .ok value
  | some (.error problem) => .error [(name, problem)]

private def problemsOf {α : Type} :
    Except (List (String × FieldProblem)) α → List (String × FieldProblem)
  | .ok _ => []
  | .error problems => problems

/-- The settings that sources give.  All fields that do not fit are listed. -/
def ofSources (configPath : Option FilePath) (sources : Sources) :
    Except (List (String × FieldProblem)) Settings :=
  let schemaRef := sources.read "schema_ref" readOptionalText none
  let flag := fun name => sources.read name readBool false
  let jsonOutput := flag "json_output"
  let quiet := flag "quiet"
  let verbose := flag "verbose"
  let logJson := flag "log_json"
  match schemaRef, jsonOutput, quiet, verbose, logJson with
  | .ok schemaRef, .ok jsonOutput, .ok quiet, .ok verbose, .ok logJson =>
      .ok { configPath, schemaRef, jsonOutput, quiet, verbose, logJson }
  | _, _, _, _, _ =>
      .error (problemsOf schemaRef ++ problemsOf jsonOutput ++ problemsOf quiet ++
        problemsOf verbose ++ problemsOf logJson)

/-- The settings file: the given one, which must be there, or else the one that is found. -/
def chooseFile (tree : FileTree) (environment : Environment) (given : Option String)
    (start : Option FilePath) : Logged SettingsFailure (Option FilePath) :=
  match given.filter fun name => !name.isEmpty with
  | some name =>
      let path := FilePath.ofString name
      match tree.isFile path with
      | .ok true => return some path
      | .ok false => .fail (.fileNotFound name)
      | .error error => .fail (.system error)
  | none =>
      (findFile tree environment start).mapError fun
        | .faulty fault => .faulty fault
        | .system error => .system error

/-- Loads the settings of a run. -/
def load (tree : FileTree) (environment : Environment) (given : Option String)
    (start : Option FilePath) (flags : List (String × Value)) :
    Logged SettingsFailure Settings := do
  let path ← chooseFile tree environment given start
  let file ← .ofExcept (fileEntries tree path)
  .ofExcept ((ofSources path ⟨flags, environment, file⟩).mapError .invalid)

def logLevel (settings : Settings) : LogLevel := .ofFlags settings.verbose settings.quiet

end Settings

end ClosedShape
