import ClosedShape.CommandLine.Arguments
/-!
# Help pages

The commands, what they understand, and the pages that say so.
-/

namespace ClosedShape.CommandLine

/-- A command as its help page shows it. -/
structure CommandSpec where
  /-- The words that call the command. -/
  path : String
  synopsis : String
  description : String
  options : List OptionSpec
  /-- The commands below it, with what they do. -/
  commands : List (String × String) := []
deriving Repr, Inhabited

def programName : String := "shapectl"

def programVersion : String := "0.3.0"

def documentOperand : String := "DOCUMENT"

def checkCommand : CommandSpec where
  path := "cli check"
  synopsis := "[OPTIONS] " ++ documentOperand
  description := "Check DOCUMENT (JSON, TOML or YAML) against a closed-shape schema."
  options :=
    [{ name := "schema", letter := some 's', takesValue := true
       help := "Schema reference as 'module:attribute'." },
     { name := "section", takesValue := true, help := "Check only this top-level section." },
     { name := "examples", help := "Show usage examples." },
     { name := "help", help := "Show this message and exit." }]

/-- The name of the command that checks a document. -/
def checkName : String := "check"

def mainCommand : CommandSpec where
  path := "cli"
  synopsis := "[OPTIONS] [COMMAND] [ARGS]..."
  description := programName ++ " — closed-shape config validation."
  options :=
    [{ name := "version", help := "Show the version and exit." },
     { name := "json", help := "Structured JSON output." },
     { name := "quiet", letter := some 'q', help := "Minimal output." },
     { name := "verbose", letter := some 'v', help := "Detailed output with debug info." },
     { name := "log-json", help := "Structured JSON log output to stderr." },
     { name := "config", letter := some 'c', takesValue := true
       help := "Override config file path." },
     { name := "help", help := "Show this message and exit." }]
  commands := [(checkName, checkCommand.description)]

namespace CommandSpec

def usageLine (command : CommandSpec) : String := s!"Usage: {command.path} {command.synopsis}\n"

/-- How an option is written. -/
def optionLabel (spec : OptionSpec) : String :=
  (spec.letter.map fun letter => String.ofList ['-', letter, ',', ' ']).getD "" ++ spec.long ++
    (if spec.takesValue then " TEXT" else "")

/-- Lines in two columns, the second two blanks after the longest entry of the first. -/
def table (rows : List (String × String)) : String :=
  let width := (rows.map fun row => row.1.length).foldl max 0
  String.join <| rows.map fun row =>
    "  " ++ row.1 ++ String.ofList (List.replicate (width + 2 - row.1.length) ' ') ++ row.2 ++ "\n"

/-- The help page of a command. -/
def helpPage (command : CommandSpec) : String :=
  let options := command.options.map fun spec => (optionLabel spec, spec.help)
  command.usageLine ++ "\n  " ++ command.description ++ "\n\nOptions:\n" ++ table options ++
    (if command.commands.isEmpty then "" else "\nCommands:\n" ++ table command.commands)

/-- What is written for wrong usage. -/
def usageError (command : CommandSpec) (problem : UsageProblem) : String :=
  (if problem.showsUsage then
    command.usageLine ++ s!"Try '{command.path} --help' for help.\n\n"
  else "") ++ "Error: " ++ problem.message ++ "\n"

end CommandSpec

/-- What is written for the version. -/
def versionText : String := s!"{programName}, version {programVersion}\n"

/-- Examples of checking documents. -/
def examplesText : String :=
  s!"Examples for '{checkCommand.path}':\n\n" ++
    "  shapectl check panel.toml --schema myapp.schemas:Panel\n" ++
    "  shapectl check panel.yaml --schema myapp.schemas:Clock --section clock\n" ++
    "  shapectl --json check widgets.json --schema myapp.schemas:Widgets\n" ++
    "  shapectl check panel.toml            # schema_ref from shapectl.toml\n"

end ClosedShape.CommandLine
