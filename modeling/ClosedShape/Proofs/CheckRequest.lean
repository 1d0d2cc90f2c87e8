import ClosedShape.CommandLine
import Mathlib.Data.String.Basic

/-!
# Command lines that ask for a check

A command line asks for the check of a document if its own flags and those of the command are
understood, none of them asks for a page instead, and a schema is named by an option or by the
settings.  Flags for the output and for the log may stand before the command in any number.
-/

namespace ClosedShape

section Names

variable {separator : Char} {after : List Char} {text name : String}

theorem splitOnAux_of_not_mem (before : List Char) (absent : separator ∉ after) :
    String.splitOnAux (String.ofList (before ++ after)) (String.singleton separator) 0
      ⟨String.utf8Len before⟩ 0 [] = [String.ofList (before ++ after)] := by
  induction after generalizing before with
  | nil =>
      have whole := String.extract_of_valid [] before []
      rw [String.splitOnAux]
      simpa using whole
  | cons c after ih =>
      obtain ⟨differs, others⟩ := List.ne_and_not_mem_of_not_mem_cons absent
      have later := ih (before ++ [c]) others
      have sought : String.Pos.Raw.get (String.singleton separator) 0 = separator := by
        simpa using String.get_of_valid [] [separator]
      have place : String.utf8Len (before ++ [c]) = String.utf8Len before + c.utf8Size := by simp
      have back : String.Pos.Raw.unoffsetBy ⟨String.utf8Len before⟩ 0 =
          ⟨String.utf8Len before⟩ := by simp
      have more : ¬ String.Pos.Raw.atEnd (String.ofList (before ++ c :: after))
          ⟨String.utf8Len before⟩ = true := by
        rw [String.atEnd_of_valid]
        exact List.cons_ne_nil _ _
      rw [List.append_assoc, List.singleton_append, place] at later
      rw [String.splitOnAux, if_neg more, String.get_of_valid, sought, back, String.next_of_valid,
        List.headD_cons, if_neg (by simpa using differs.symm)]
      exact later

theorem splitOn_of_not_mem (absent : separator ∉ text.toList) :
    text.splitOn (String.singleton separator) = [text] := by
  have whole := splitOnAux_of_not_mem [] absent
  rw [List.nil_append, String.ofList_toList] at whole
  rw [String.splitOn, if_neg (by simp)]
  exact whole

/-- A text without slashes is a path of one name. -/
theorem FilePath.ofString_of_name (noSlash : '/' ∉ name.toList) (notEmpty : name ≠ "")
    (noDot : name ≠ ".") : FilePath.ofString name = ⟨"", [name]⟩ := by
  have names : name.splitOn "/" = [name] := splitOn_of_not_mem noSlash
  have noRoot : name.toList.takeWhile (· == '/') = [] := by
    cases chars : name.toList with
    | nil => rfl
    | cons c others =>
        rw [chars] at noSlash
        have differs := (List.ne_and_not_mem_of_not_mem_cons noSlash).1
        rw [List.takeWhile_cons, if_neg (by simpa using differs.symm)]
  rw [FilePath.ofString, names, noRoot]
  simp [notEmpty, noDot]

end Names

namespace CommandLine

/-- What is to be checked: a document or a part of it, against the schema of a reference. -/
structure CheckTarget where
  reference : String
  path : FilePath
  part : Option String

/-- The name that the result of a check has. -/
def CheckTarget.name (target : CheckTarget) : Text :=
  target.path.name ++ (target.part.map fun part => ":" ++ part).getD ""

/-- A command line asks for a check, and its flags, the environment and the settings file together
give the settings. -/
def Requests (world : World) (arguments : List String) (settings : Settings)
    (target : CheckTarget) : Prop :=
  ∃ outer rest inner document,
    mainArguments arguments = .ok outer ∧ outer.operands = checkName :: rest ∧
    (Settings.load world.files world.environment (outer.value? "config") none
      (flagSettings outer)).outcome = .ok settings ∧
    Arguments.parse checkCommand.options false rest = .ok inner ∧
    inner.first? ["help", "examples"] = none ∧ inner.operands = [document] ∧
    ((((inner.value? "schema").filter fun reference => !reference.isEmpty).or
      settings.schemaRef).filter fun reference => !reference.isEmpty) = some target.reference ∧
    target.path = FilePath.ofString document ∧ target.part = inner.value? "section"

variable {world : World} {arguments : List String} {settings : Settings} {target : CheckTarget}

/-- A document that may not be read is refused before anything else is looked at. -/
theorem run_of_requests (requests : Requests world arguments settings target) :
    ∃ document, run world arguments =
      if world.refuses target.path then
        .refused checkCommand (.operandUnreadable documentOperand document)
      else
        reportCheck world settings
          (checkDocument world target.reference target.path target.part) := by
  obtain ⟨outer, rest, inner, document, split, operands, loaded, parsed, noPage, operand, given,
    path, part⟩ := requests
  refine ⟨document, ?_⟩
  rw [run, split]
  dsimp only
  rw [operands]
  dsimp only
  rw [if_pos rfl, withSettings, loaded]
  dsimp only
  rw [runCheck, parsed]
  dsimp only
  rw [noPage, operand]
  dsimp only
  rw [given, path, part]
  rfl

/-- The flags for the output and for the log. -/
inductive OutputFlag where
  | json
  | quiet
  | verbose
  | logJson
deriving DecidableEq, Repr

namespace OutputFlag

/-- The option that a flag sets. -/
def option : OutputFlag → String
  | .json => "json"
  | .quiet => "quiet"
  | .verbose => "verbose"
  | .logJson => "log-json"

/-- How a flag is given. -/
def argument : OutputFlag → String
  | .json => "--json"
  | .quiet => "-q"
  | .verbose => "-v"
  | .logJson => "--log-json"

theorem parse_argument (flag : OutputFlag) (rest : List String) :
    Arguments.parse mainCommand.options true (flag.argument :: rest) =
      (Arguments.parse mainCommand.options true rest).map
        (Arguments.addOptions [(flag.option, none)]) := by
  cases flag <;> rfl

theorem parse_arguments (flags : List OutputFlag) (rest : List String) :
    Arguments.parse mainCommand.options true (flags.map argument ++ checkName :: rest) =
      .ok ⟨flags.map fun flag => (flag.option, none), checkName :: rest⟩ := by
  induction flags with
  | nil => rfl
  | cons flag flags ih =>
      rw [List.map_cons, List.cons_append, parse_argument, ih]
      rfl

theorem mainArguments_eq (flags : List OutputFlag) (rest : List String) :
    mainArguments (flags.map argument ++ checkName :: rest) =
      .ok ⟨flags.map fun flag => (flag.option, none), checkName :: rest⟩ := by
  have noPage : Arguments.first? ⟨flags.map fun flag => (flag.option, none), checkName :: rest⟩
      ["help", "version"] = none := by
    rw [Arguments.first?, Option.map_eq_none_iff, List.find?_eq_none]
    intro option member
    obtain ⟨flag, _, rfl⟩ := List.mem_map.mp member
    cases flag <;> decide
  rw [mainArguments, parse_arguments]
  dsimp only
  rw [noPage]

theorem value?_config (flags : List OutputFlag) (operands : List String) :
    Arguments.value? ⟨flags.map fun flag => (flag.option, none), operands⟩ "config" = none := by
  have absent : (flags.map fun flag => (flag.option, (none : Option String))).reverse.lookup
      "config" = none := by
    rw [List.lookup_eq_none_iff]
    intro option member
    obtain ⟨flag, _, rfl⟩ := List.mem_map.mp (List.mem_reverse.mp member)
    cases flag <;> decide
  rw [Arguments.value?, absent]
  rfl

end OutputFlag

/-- The arguments that name a part of the document. -/
def sectionArguments : Option String → List String
  | none => []
  | some part => ["--section", part]

theorem parse_checkArguments {document : String} (operand : Arguments.isOption document = false)
    (reference : String) (part : Option String) :
    ∃ inner, Arguments.parse checkCommand.options false
        (document :: "--schema" :: reference :: sectionArguments part) = .ok inner ∧
      inner.first? ["help", "examples"] = none ∧ inner.operands = [document] ∧
      inner.value? "schema" = some reference ∧ inner.value? "section" = part := by
  have noDashes : document ≠ "--" := by
    rintro rfl
    cases operand
  have split : Arguments.parse checkCommand.options false
      (document :: "--schema" :: reference :: sectionArguments part) =
        (Arguments.parse checkCommand.options false
          ("--schema" :: reference :: sectionArguments part)).map
            (Arguments.addOperand document) := by
    rw [Arguments.parse, if_neg noDashes, operand]
    rfl
  rw [split]
  cases part with
  | none => exact ⟨_, rfl, rfl, rfl, rfl, rfl⟩
  | some part => exact ⟨_, rfl, rfl, rfl, rfl, rfl⟩

/-- Any flags for the output and for the log can stand before the command. -/
theorem requests_of_flags (flags : List OutputFlag) {document reference : String}
    (part : Option String) (operand : Arguments.isOption document = false)
    (named : reference.isEmpty = false)
    (loaded : (Settings.load world.files world.environment none none
      (flagSettings ⟨flags.map fun flag => (flag.option, none), []⟩)).outcome = .ok settings) :
    Requests world (flags.map OutputFlag.argument ++
        checkName :: document :: "--schema" :: reference :: sectionArguments part)
      settings ⟨reference, FilePath.ofString document, part⟩ := by
  obtain ⟨inner, parsed, noPage, operands, schema, selected⟩ :=
    parse_checkArguments operand reference part
  refine ⟨_, _, inner, document, OutputFlag.mainArguments_eq flags _, rfl, ?_, parsed, noPage,
    operands, ?_, rfl, selected.symm⟩
  · rw [OutputFlag.value?_config]
    exact loaded
  · rw [schema, Option.filter_some, if_pos (by rw [named]; rfl), Option.some_or, Option.filter_some,
      if_pos (by rw [named]; rfl)]

end CommandLine

end ClosedShape
