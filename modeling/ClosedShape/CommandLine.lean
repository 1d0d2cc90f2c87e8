import ClosedShape.Check
import ClosedShape.CommandLine.Help
import ClosedShape.Log.Line
import ClosedShape.Report.Emission
import ClosedShape.SchemaReference
import ClosedShape.Settings
/-!
# The command line

A run of the command line as a function of what it can see: its arguments, the files, the
environment and the modules that schemas come from.  What it writes is encoded in UTF-8.
-/

namespace ClosedShape.CommandLine

/-- What a run can see. -/
structure World where
  files : FileTree
  environment : Environment
  modules : Modules
  /-- Whether the system says that a path may be read, if there is anything at it.  Reading can
  still fail. -/
  readable : FilePath → Bool
  /-- The time that log lines show. -/
  time : String

/-- What ends a run without a report. -/
inductive Crash where
  | invalidSettings (problems : List (String × Settings.FieldProblem))
  | system (error : SystemError)
  | faulty (fault : Fault)
deriving Inhabited

/-- Says what has ended a run, if that says anything. -/
def Crash.message : Crash → Option Text
  | .invalidSettings problems =>
      some <| "Invalid settings: " ++
        ", ".intercalate (problems.map fun problem => problem.1 ++ " " ++ problem.2.name)
  | .system error => some (error.kind ++ ": " ++ error.text)
  | .faulty (.departure _ said) => said
  | .faulty fault => some (fault.kind ++ ": " ++ fault.message)

/-- The status that a run ends with.  Only foreign code that leaves the run chooses it. -/
def Crash.status : Crash → Nat
  | .faulty (.departure status _) => status
  | _ => 1

/-- How a run ended. -/
structure Outcome where
  emission : Emission
  crash : Option Crash := none
deriving Inhabited

namespace Outcome

def printed (text : String) : Outcome := ⟨{ output := text }, none⟩

def refused (command : CommandSpec) (problem : UsageProblem) : Outcome :=
  ⟨{ status := 2, errors := command.usageError problem }, none⟩

def crashed (errors : String) (crash : Crash) : Outcome :=
  ⟨{ status := crash.status, errors }, some crash⟩

/-- Settings that cannot be loaded end a run.  Only what is wrong with the settings file itself is
explained. -/
def ofSettingsFailure : SettingsFailure → Outcome
  | .fileNotFound name => explained ("Config file not found: " ++ name)
  | .malformed path detail => explained (s!"Invalid TOML in {path.toString}: " ++ detail)
  | .invalid problems => crashed "" (.invalidSettings problems)
  | .system error => crashed "" (.system error)
  | .faulty fault => crashed "" (.faulty fault)
where
  explained (text : Text) : Outcome :=
    ⟨{ status := 1, errors := Text.writeEscaped ("Error: " ++ text ++ "\n") }, none⟩

end Outcome

/-! ## Checking a document -/

/-- The code of results for what could not be loaded. -/
def loadErrorCode : String := "LOAD_ERROR"

/-- Checks a loaded document, or one part of it, which may be absent. -/
def checkLoaded (name : Text) (schema : Schema) (document : Value) :
    Option String → Logged Fault CheckResult
  | none => Check.config name schema document []
  | some part =>
      match document with
      | .mapping .plain entries => Check.config name schema (Value.lookupText entries part) []
      | _ =>
          Check.documentFailure name "TYPE_MISMATCH"
            s!"Must be an object to select a section, got {document.kindName}."

/-- Loads a document and checks it, or one part of it, against the schema of a reference. -/
def checkDocument (world : World) (reference : String) (path : FilePath) (part : Option String) :
    Logged Crash CheckResult := do
  let name : Text := path.name ++ (part.map fun part => ":" ++ part).getD ""
  match ← (SchemaReference.resolve world.modules reference).attempt with
  | .error (.unresolved error) => Check.documentFailure name loadErrorCode error.message
  | .error (.faulty fault) => .fail (.faulty fault)
  | .ok schema =>
      match ← (Document.load world.files path).attempt with
      | .error (.document error) => Check.documentFailure name loadErrorCode error.message
      | .error (.system error) => .fail (.system error)
      | .error (.faulty fault) => .fail (.faulty fault)
      | .ok document => (checkLoaded name schema document part).mapError .faulty

def reportSettings (settings : Settings) : ReportSettings where
  jsonOutput := settings.jsonOutput
  quiet := settings.quiet
  verbose := settings.verbose

/-- Reports how a check ended, after the lines of its log. -/
def reportCheck (world : World) (settings : Settings) (check : Logged Crash CheckResult) :
    Outcome :=
  let log :=
    (LogRecord.lines settings.logJson world.time settings.logLevel check.records).writeEscaped
  match check.outcome with
  | .error crash => .crashed log crash
  | .ok result =>
      match Report.emit result (reportSettings settings) with
      | .error fault => .crashed log (.faulty fault)
      | .ok emission => ⟨{ emission with errors := log ++ emission.errors }, none⟩

/-- There is something at a path, and the system says that it may not be read. -/
def World.refuses (world : World) (path : FilePath) : Bool :=
  match world.files.lookup path with
  | .ok (some _) => !world.readable path
  | _ => false

/-- Runs the command that checks a document.  Whether the document may be read is looked at as soon
as it is known. -/
def runCheck (world : World) (settings : Settings) (arguments : List String) : Outcome :=
  match Arguments.parse checkCommand.options false arguments with
  | .error problem => .refused checkCommand problem
  | .ok arguments =>
      match arguments.first? ["help", "examples"], arguments.operands with
      | some "examples", _ => .printed examplesText
      | some _, _ => .printed checkCommand.helpPage
      | none, [] => .refused checkCommand (.operandMissing documentOperand)
      | none, document :: others =>
          let path := FilePath.ofString document
          if world.refuses path then
            .refused checkCommand (.operandUnreadable documentOperand document)
          else if !others.isEmpty then .refused checkCommand (.operandsUnexpected others)
          else
            let given := (arguments.value? "schema").filter fun reference => !reference.isEmpty
            match (given.or settings.schemaRef).filter fun reference => !reference.isEmpty with
            | none => .refused checkCommand .noSchema
            | some reference =>
                reportCheck world settings <|
                  checkDocument world reference path (arguments.value? "section")

/-! ## Runs -/

/-- The settings that flags before the command give.  A flag that is not set says nothing. -/
def flagSettings (arguments : Arguments) : List (String × Value) :=
  [("json", "json_output"), ("quiet", "quiet"), ("verbose", "verbose"), ("log-json", "log_json")]
    |>.filterMap fun flag =>
      if arguments.has flag.1 then some (flag.2, .bool true) else none

/-- Goes on with the settings of a run. -/
def withSettings (world : World) (arguments : Arguments) (next : Settings → Outcome) : Outcome :=
  let settings := Settings.load world.files world.environment (arguments.value? "config") none
    (flagSettings arguments)
  match settings.outcome with
  | .ok settings => next settings
  | .error failure => .ofSettingsFailure failure

/-- Splits arguments before the command, or ends the run where they say so. -/
def mainArguments (arguments : List String) : Except Outcome Arguments :=
  match Arguments.parse mainCommand.options true arguments with
  | .error problem => .error (.refused mainCommand problem)
  | .ok arguments =>
      match arguments.first? ["help", "version"] with
      | some "version" => .error (.printed versionText)
      | some _ => .error (.printed mainCommand.helpPage)
      | none => .ok arguments

/-- Ends a run that names no command.  What looks like an option is first taken as one. -/
def refuseCommand (name : String) (rest : List String) : Outcome :=
  match mainArguments (name :: rest) with
  | .error outcome => outcome
  | .ok _ => .refused mainCommand (.noSuchCommand name (Text.suggestions [checkName] name))

/-- Runs a command line. -/
def run (world : World) (arguments : List String) : Outcome :=
  match mainArguments arguments with
  | .error outcome => outcome
  | .ok arguments =>
      match arguments.operands with
      | [] => withSettings world arguments fun _ => .printed mainCommand.helpPage
      | name :: rest =>
          if name = checkName then
            withSettings world arguments fun settings => runCheck world settings rest
          else refuseCommand name rest

/-- The paths that a command line names: the settings file and the document. -/
def namedPaths (arguments : List String) : List FilePath :=
  let outer := (Arguments.parse mainCommand.options true arguments).toOption.getD {}
  let inner := (Arguments.parse checkCommand.options false outer.operands.tail).toOption.getD {}
  ((outer.value? "config").toList ++ inner.operands).map FilePath.ofString

end ClosedShape.CommandLine
