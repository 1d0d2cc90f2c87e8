import ClosedShape.Text.Quoted
import ClosedShape.Text.Similarity
/-!
# Command line arguments

Splits arguments into options and operands, and says what is wrong with them in the words of the
library `click`, which this module stands for.  An argument is a text of characters: what a system
hands over that is no text, or holds a zero character, is left out.
-/

namespace ClosedShape.CommandLine

/-- An option: its name after two dashes, and its letter after one. -/
structure OptionSpec where
  name : String
  letter : Option Char := none
  takesValue : Bool := false
  help : String
deriving DecidableEq, Repr, Inhabited

def OptionSpec.long (spec : OptionSpec) : String := "--" ++ spec.name

/-- How a command is used wrongly. -/
inductive UsageProblem where
  | noSuchOption (option : String) (suggestions : List String)
  | valueRefused (option : String)
  | valueMissing (option : String)
  | noSuchCommand (command : String) (suggestions : List String)
  | operandMissing (operand : String)
  | operandUnreadable (operand path : String)
  | operandsUnexpected (operands : List String)
  | noSchema
deriving DecidableEq, Repr, Inhabited

namespace UsageProblem

/-- Says what may have been meant. -/
def suggestionText (suggestions : List String) : String :=
  match suggestions with
  | [] => ""
  | [suggestion] => s!" Did you mean {Text.quoted suggestion}?"
  | _ =>
      let shown :=
        ", ".intercalate (suggestions.map fun suggestion : String => Text.quoted suggestion)
      s!" (Did you mean one of: {shown}?)"

def message : UsageProblem → String
  | .noSuchOption option suggestions =>
      s!"No such option {Text.quoted option}." ++ suggestionText suggestions
  | .valueRefused option => s!"Option {Text.quoted option} does not take a value."
  | .valueMissing option => s!"Option {Text.quoted option} requires an argument."
  | .noSuchCommand command suggestions =>
      s!"No such command {Text.quoted command}." ++ suggestionText suggestions
  | .operandMissing operand => s!"Missing argument '{operand}'."
  | .operandUnreadable operand path =>
      s!"Invalid value for '{operand}': Path {Text.quoted path} is not readable."
  | .operandsUnexpected operands =>
      let plural := if operands.length = 1 then "" else "s"
      let shown := " ".intercalate operands
      s!"Got unexpected extra argument{plural} ({shown})"
  | .noSchema => "No schema given. Pass --schema or set schema_ref in shapectl.toml."

/-- Whether the usage of the command is shown as well. -/
def showsUsage : UsageProblem → Bool
  | .valueRefused _ | .valueMissing _ => false
  | _ => true

end UsageProblem

/-- Arguments that have been split: the options by name, in order, and the operands. -/
structure Arguments where
  options : List (String × Option String) := []
  operands : List String := []
deriving DecidableEq, Repr, Inhabited

namespace Arguments

def has (arguments : Arguments) (name : String) : Bool :=
  arguments.options.any fun option => option.1 == name

/-- The value of an option: the one that was given last. -/
def value? (arguments : Arguments) (name : String) : Option String :=
  (arguments.options.reverse.lookup name).join

/-- The first option among some names. -/
def first? (arguments : Arguments) (names : List String) : Option String :=
  (arguments.options.find? fun option => names.contains option.1).map Prod.fst

def addOptions (options : List (String × Option String)) (arguments : Arguments) : Arguments :=
  { arguments with options := options ++ arguments.options }

def addOperand (operand : String) (arguments : Arguments) : Arguments :=
  { arguments with operands := operand :: arguments.operands }

/-- Reads letters after one dash.  A letter that takes a value takes the rest of them, and if there
is no rest, it is left over as the option that still needs its value. -/
def readLetters (specs : List OptionSpec) :
    List Char → Except UsageProblem (List (String × Option String) × Option (String × String))
  | [] => .ok ([], none)
  | letter :: rest =>
      let shown := String.ofList ['-', letter]
      match specs.find? fun spec => spec.letter == some letter with
      | none => .error (.noSuchOption shown [])
      | some spec =>
          if spec.takesValue then
            if rest.isEmpty then .ok ([], some (spec.name, shown))
            else .ok ([(spec.name, some (String.ofList rest))], none)
          else do
            let (options, open?) ← readLetters specs rest
            return ((spec.name, none) :: options, open?)

/-- Splits an argument at its first equals sign. -/
def splitValue (argument : String) : String × Option String :=
  let name := argument.toList.takeWhile (· != '=')
  match argument.toList.drop name.length with
  | _ :: value => (String.ofList name, some (String.ofList value))
  | [] => (argument, none)

/-- Reads one argument that starts with a dash: the options in it, and the option that still needs
its value, with the name it was given by. -/
def readOption (specs : List OptionSpec) (argument : String) :
    Except UsageProblem (List (String × Option String) × Option (String × String)) :=
  let (name, value) := splitValue argument
  match specs.find? fun spec => spec.long == name with
  | some spec =>
      match spec.takesValue, value with
      | true, some value => .ok ([(spec.name, some value)], none)
      | true, none => .ok ([], some (spec.name, name))
      | false, some _ => .error (.valueRefused name)
      | false, none => .ok ([(spec.name, none)], none)
  | none =>
      match argument.toList with
      | '-' :: '-' :: _ =>
          .error (.noSuchOption name (Text.suggestions (specs.map OptionSpec.long) name))
      | letters => readLetters specs letters.tail

/-- Whether an argument is an option.  A single dash is an operand. -/
def isOption (argument : String) : Bool :=
  match argument.toList with
  | '-' :: _ :: _ => true
  | _ => false

/-- Splits arguments.  After two dashes everything is an operand, and where options must come first
so is everything after an operand. -/
def parse (specs : List OptionSpec) (optionsFirst : Bool) :
    List String → Except UsageProblem Arguments
  | [] => .ok {}
  | argument :: rest =>
      if argument = "--" then .ok { operands := rest }
      else if isOption argument then
        match readOption specs argument with
        | .error problem => .error problem
        | .ok (options, none) => (parse specs optionsFirst rest).map (addOptions options)
        | .ok (options, some (name, shown)) =>
            match rest with
            | [] => .error (.valueMissing shown)
            | value :: rest =>
                (parse specs optionsFirst rest).map (addOptions (options ++ [(name, some value)]))
      else if optionsFirst then .ok { operands := argument :: rest }
      else (parse specs optionsFirst rest).map (addOperand argument)

end Arguments

end ClosedShape.CommandLine
