import ClosedShape.CommandLine
import ClosedShape.Proofs.EnvironmentNames
import ClosedShape.Proofs.SettingsLoading

/-!
# Priority of sources

Every field of the settings is decided by the first source that has it: the flag, the variable,
whose name may be in upper or lower case, the settings file, and else the default.  Two runs that
read the same settings file and in which the same values win end alike, whatever the sources that
lose have.
-/

namespace ClosedShape

/-- The flags of the command line, and the fields that they set. -/
def CommandLine.flagFields : List (String × String) :=
  [("json", "json_output"), ("quiet", "quiet"), ("verbose", "verbose"), ("log-json", "log_json")]

/-- What a flag sets, if it is given. -/
def CommandLine.setting? (arguments : Arguments) (flag : String × String) :
    Option (String × Value) :=
  if arguments.has flag.1 then some (flag.2, .bool true) else none

/-- The command line sets exactly the fields whose flags are given. -/
theorem CommandLine.lookup_flagSettings_eq_some_iff {arguments : Arguments} {field : String}
    {value : Value} :
    (flagSettings arguments).lookup field = some value ↔
      value = .bool true ∧ ∃ flag, (flag, field) ∈ flagFields ∧ arguments.has flag = true := by
  change (flagFields.filterMap (setting? arguments)).lookup field = some value ↔ _
  induction flagFields with
  | nil => simp
  | cons entry rest ih =>
      obtain ⟨flag, set⟩ := entry
      by_cases given : arguments.has flag = true
      · have sets : setting? arguments (flag, set) = some (set, .bool true) := if_pos given
        rw [List.filterMap_cons_some sets, Check.lookup_cons_eq_ite]
        by_cases same : field = set
        · simp only [same, if_true, Option.some.injEq, eq_comm (a := Value.bool true)]
          exact ⟨fun equal => ⟨equal, flag, List.mem_cons_self, given⟩, And.left⟩
        · rw [if_neg same, ih]
          simp [same]
      · have unset : setting? arguments (flag, set) = none := if_neg given
        rw [List.filterMap_cons_none unset, ih]
        refine and_congr_right fun _ => exists_congr fun other => ?_
        by_cases same : other = flag
        · simp [same, given]
        · simp [same]

namespace Settings

/-- The variable of a field, in upper case. -/
def variableName (field : String) : String :=
  variablePrefix ++ String.ofList (field.toList.map Char.toUpper)

/-- A value is the one that wins in the sources: that of the first source that has the field. -/
inductive Sources.Wins (sources : Sources) (field : String) : Option Value → Prop
  | flag {value : Value} (set : sources.flags.lookup field = some value) :
      Wins sources field (some value)
  | variable {text : String} (unset : sources.flags.lookup field = none)
      (last : sources.environment.LastSets (variableName field) text) :
      Wins sources field (some (.text text))
  | file {value : Value} (unset : sources.flags.lookup field = none)
      (absent : sources.environment.named (variableName field) = [])
      (entry : Value.lookup sources.file (.text field) = some value) :
      Wins sources field (some value)
  | default (unset : sources.flags.lookup field = none)
      (absent : sources.environment.named (variableName field) = [])
      (missing : Value.lookup sources.file (.text field) = none) :
      Wins sources field none

/-- Two sources of settings have the same for a field down to what wins in the first.  Below it they
may differ, and of other fields and names nothing is said. -/
inductive Sources.SameDownToWinner (sources other : Sources) (field : String) : Prop
  | flag {value : Value} (set : sources.flags.lookup field = some value)
      (same : other.flags.lookup field = some value)
  | variable (sameFlag : other.flags.lookup field = sources.flags.lookup field)
      (present : sources.environment.named (variableName field) ≠ [])
      (same : other.environment.named (variableName field) =
        sources.environment.named (variableName field))
  | file (sameFlag : other.flags.lookup field = sources.flags.lookup field)
      (sameVariable : other.environment.named (variableName field) =
        sources.environment.named (variableName field))
      (same : Value.lookup other.file (.text field) = Value.lookup sources.file (.text field))

/-- What a winning value reads as.  Where none wins, it is the default. -/
def reading {α : Type} (read : Value → Except FieldProblem α) (default : α) :
    Option Value → Except FieldProblem α
  | none => .ok default
  | some value => read value

/-- Settings that name their file and have in every field what its winning value reads as. -/
structure IsReadingOf (winner : String → Option Value) (path : Option FilePath)
    (settings : Settings) : Prop where
  configPath : settings.configPath = path
  schemaRef : reading readOptionalText none (winner "schema_ref") = .ok settings.schemaRef
  jsonOutput : reading readBool false (winner "json_output") = .ok settings.jsonOutput
  quiet : reading readBool false (winner "quiet") = .ok settings.quiet
  verbose : reading readBool false (winner "verbose") = .ok settings.verbose
  logJson : reading readBool false (winner "log_json") = .ok settings.logJson

/-- Why the winning value of a field does not fit it. -/
def misfit? (winner : String → Option Value) (field : String) : Option FieldProblem :=
  if field = "schema_ref" then problemOf? (reading readOptionalText none (winner field))
  else problemOf? (reading readBool false (winner field))
where
  problemOf? {α : Type} : Except FieldProblem α → Option FieldProblem
    | .ok _ => none
    | .error problem => some problem

/-- The fields whose winning values do not fit. -/
def misfits (winner : String → Option Value) : List (String × FieldProblem) :=
  fieldNames.filterMap fun field => (misfit? winner field).map fun problem => (field, problem)

/-- What settings are loaded from. -/
structure Invocation where
  tree : FileTree
  environment : Environment
  given : Option String
  start : Option FilePath
  flags : List (String × Value)

namespace Invocation

def outcome (invocation : Invocation) : Except SettingsFailure Settings :=
  (load invocation.tree invocation.environment invocation.given invocation.start
    invocation.flags).outcome

/-- An invocation chooses a settings file, or none, and reads its entries. -/
def Reads (invocation : Invocation) (path : Option FilePath) (file : List (Value × Value)) :
    Prop :=
  (chooseFile invocation.tree invocation.environment invocation.given invocation.start).outcome =
      .ok path ∧
    fileEntries invocation.tree path = .ok file

def sources (invocation : Invocation) (file : List (Value × Value)) : Sources :=
  ⟨invocation.flags, invocation.environment, file⟩

end Invocation

variable {sources other : Sources} {field : String} {value : Option Value}
  {winner : String → Option Value} {path : Option FilePath}

/-! ## Winning values -/

theorem lowerCase_variableName :
    ∀ field ∈ fieldNames, Environment.SameName (variableName field) (variablePrefix ++ field) := by
  decide

/-- A field is looked up in the variable of its name. -/
theorem findAnyCase?_variableName (environment : Environment) (known : field ∈ fieldNames) :
    environment.findAnyCase? (variablePrefix ++ field) =
      environment.findAnyCase? (variableName field) := by
  have same : Text.lowerCase (variableName field) = Text.lowerCase (variablePrefix ++ field) :=
    lowerCase_variableName field known
  rw [Environment.findAnyCase?, Environment.findAnyCase?, same]

/-- What wins is what is found. -/
theorem Sources.wins_iff (known : field ∈ fieldNames) :
    sources.Wins field value ↔ sources.find? field = value := by
  rw [Sources.find?, findAnyCase?_variableName _ known]
  constructor
  · rintro (set | ⟨unset, last⟩ | ⟨unset, absent, entry⟩ | ⟨unset, absent, missing⟩)
    · rw [set]
    · rw [unset, Environment.findAnyCase?_eq_some_iff.mpr last]
    · rw [unset, Environment.findAnyCase?_eq_none_iff.mpr absent, entry]
    · rw [unset, Environment.findAnyCase?_eq_none_iff.mpr absent, missing]
  · rintro rfl
    cases set : sources.flags.lookup field with
    | some value => exact .flag set
    | none =>
        cases last : sources.environment.findAnyCase? (variableName field) with
        | some text => exact .variable set (Environment.findAnyCase?_eq_some_iff.mp last)
        | none =>
            have absent := Environment.findAnyCase?_eq_none_iff.mp last
            cases entry : Value.lookup sources.file (.text field) with
            | some value => exact .file set absent entry
            | none => exact .default set absent entry

/-- Where all variables of a field are spelled in upper case, the one of this name wins. -/
theorem Sources.Wins.of_upperCase {text : String} (unset : sources.flags.lookup field = none)
    (spelled : ∀ entry ∈ sources.environment,
      Environment.SameName entry.1 (variableName field) → entry.1 = variableName field)
    (found : sources.environment.find? (variableName field) = some text) :
    sources.Wins field (some (.text text)) := by
  refine .variable unset (Environment.findAnyCase?_eq_some_iff.mp ?_)
  rw [Environment.findAnyCase?_of_spelled spelled, found]

theorem Sources.SameDownToWinner.find?_eq (same : sources.SameDownToWinner other field)
    (known : field ∈ fieldNames) : other.find? field = sources.find? field := by
  rw [Sources.find?, Sources.find?, findAnyCase?_variableName _ known,
    findAnyCase?_variableName _ known]
  rcases same with ⟨set, same⟩ | ⟨sameFlag, present, same⟩ | ⟨sameFlag, sameVariable, same⟩
  · rw [set, same]
  · rw [sameFlag, Environment.findAnyCase?_congr same]
    obtain ⟨text, last⟩ := Option.ne_none_iff_exists'.mp
      (mt Environment.findAnyCase?_eq_none_iff.mp present)
    rw [last]
    cases sources.flags.lookup field <;> rfl
  · rw [sameFlag, Environment.findAnyCase?_congr sameVariable, same]

/-! ## Settings of winning values -/

theorem Sources.read_eq {α : Type} (read : Value → Except FieldProblem α) (default : α)
    (finds : sources.find? field = winner field) :
    sources.read field read default =
      (reading read default (winner field)).mapError fun problem => [(field, problem)] := by
  rw [Sources.read, finds]
  cases winner field with
  | none => rfl
  | some value =>
      rw [Option.map_some, reading]
      cases read value <;> rfl

theorem IsReadingOf.misfits_eq_nil {settings : Settings}
    (made : IsReadingOf winner path settings) : misfits winner = [] := by
  simp [misfits, fieldNames, misfit?, made.schemaRef, made.jsonOutput, made.quiet, made.verbose,
    made.logJson, misfit?.problemOf?]

/-- Sources give the settings that the winning values read as, or the fields that these misfit. -/
theorem ofSources_cases (path : Option FilePath)
    (finds : ∀ field ∈ fieldNames, sources.find? field = winner field) :
    (∃ settings, IsReadingOf winner path settings ∧ ofSources path sources = .ok settings) ∨
      (misfits winner ≠ [] ∧ ofSources path sources = .error (misfits winner)) := by
  have schemaRef := Sources.read_eq readOptionalText none (finds "schema_ref" (by decide))
  have flag (field : String) (known : field ∈ fieldNames) :=
    Sources.read_eq readBool false (finds field known)
  have jsonOutput := flag "json_output" (by decide)
  have quiet := flag "quiet" (by decide)
  have verbose := flag "verbose" (by decide)
  have logJson := flag "log_json" (by decide)
  unfold ofSources
  dsimp only
  rw [schemaRef, jsonOutput, quiet, verbose, logJson]
  cases first : reading readOptionalText none (winner "schema_ref") <;>
    cases second : reading readBool false (winner "json_output") <;>
    cases third : reading readBool false (winner "quiet") <;>
    cases fourth : reading readBool false (winner "verbose") <;>
    cases fifth : reading readBool false (winner "log_json")
  case ok.ok.ok.ok.ok => exact .inl ⟨_, ⟨rfl, first, second, third, fourth, fifth⟩, rfl⟩
  all_goals
    refine .inr ⟨?_, congrArg Except.error (Eq.symm ?_)⟩
    · simp [misfits, fieldNames, misfit?, misfit?.problemOf?, first, second, third, fourth, fifth]
    · simp only [misfits, fieldNames, misfit?, misfit?.problemOf?, first, second, third, fourth,
        fifth, List.filterMap_cons, List.filterMap_nil, reduceIte, Option.map_none,
        Option.map_some, String.reduceEq]
      rfl

theorem IsReadingOf.unique {settings others : Settings}
    (made : IsReadingOf winner path settings) (alsoMade : IsReadingOf winner path others) :
    settings = others := by
  have configPath := made.configPath.trans alsoMade.configPath.symm
  have schemaRef := Except.ok.inj (made.schemaRef.symm.trans alsoMade.schemaRef)
  have jsonOutput := Except.ok.inj (made.jsonOutput.symm.trans alsoMade.jsonOutput)
  have quiet := Except.ok.inj (made.quiet.symm.trans alsoMade.quiet)
  have verbose := Except.ok.inj (made.verbose.symm.trans alsoMade.verbose)
  have logJson := Except.ok.inj (made.logJson.symm.trans alsoMade.logJson)
  cases settings
  cases others
  simp_all

theorem ofSources_eq_ok_iff {settings : Settings}
    (finds : ∀ field ∈ fieldNames, sources.find? field = winner field) :
    ofSources path sources = .ok settings ↔ IsReadingOf winner path settings := by
  rcases ofSources_cases path finds with ⟨others, made, given⟩ | ⟨misfitting, given⟩
  · rw [given, Except.ok.injEq]
    exact ⟨fun same => same ▸ made, made.unique⟩
  · rw [given]
    exact ⟨nofun, fun made => absurd made.misfits_eq_nil misfitting⟩

theorem ofSources_eq_error_iff {problems : List (String × FieldProblem)}
    (finds : ∀ field ∈ fieldNames, sources.find? field = winner field) :
    ofSources path sources = .error problems ↔ problems = misfits winner ∧ misfits winner ≠ [] := by
  rcases ofSources_cases path finds with ⟨others, made, given⟩ | ⟨misfitting, given⟩
  · rw [given]
    exact ⟨nofun, fun misfit => absurd made.misfits_eq_nil misfit.2⟩
  · rw [given, Except.error.injEq]
    exact ⟨fun same => ⟨same.symm, misfitting⟩, fun misfit => misfit.1.symm⟩

/-- Sources that give the same fields give the same settings. -/
theorem ofSources_congr
    (same : ∀ field ∈ fieldNames, other.find? field = sources.find? field) :
    ofSources path other = ofSources path sources := by
  rcases ofSources_cases path same with ⟨settings, made, given⟩ | ⟨misfitting, given⟩
  · rw [given, (ofSources_eq_ok_iff fun _ _ => rfl).mpr made]
  · rw [given, (ofSources_eq_error_iff fun _ _ => rfl).mpr ⟨rfl, misfitting⟩]

namespace Invocation

variable {invocation : Invocation} {own : FilePath} {file : List (Value × Value)}

theorem Reads.outcome_eq (reads : invocation.Reads path file) :
    invocation.outcome =
      (ofSources path (invocation.sources file)).mapError SettingsFailure.invalid := by
  rw [outcome, outcome_load, reads.1]
  dsimp only [Except.bind]
  rw [reads.2]
  rfl

/-- Which file is read is up to no variable but the one that names it, and to no flag. -/
theorem Reads.of_sameFileVariable (reads : invocation.Reads path file) {environment : Environment}
    (same : environment.find? fileVariable = invocation.environment.find? fileVariable)
    (flags : List (String × Value)) :
    Reads { invocation with environment, flags } path file := by
  refine ⟨?_, reads.2⟩
  rw [← reads.1]
  dsimp only [chooseFile, findFile]
  rw [same]

theorem fileEntries_of_readToml {tree : FileTree} {path : FilePath} {entries : List (Value × Value)}
    (isFile : tree.isFile path = .ok true) (own : path.name ≠ projectFileName)
    (read : readToml tree path = .ok entries) : fileEntries tree (some path) = .ok entries := by
  rw [fileEntries, isFile]
  dsimp only
  rw [readTable, read]
  dsimp only [bind, Except.bind]
  rw [if_neg own]
  rfl

/-- A file of its own in the directory where the search starts is read. -/
theorem Reads.of_ownFile {text : String} (plain : Json.PlainLines text.toList)
    (unnamed : namedFile? invocation.environment invocation.given = none)
    (starts : (searchStart invocation.tree invocation.start).child ownFileName = own)
    (isFile : invocation.tree.isFile own = .ok true)
    (content : invocation.tree.read own = .ok text.toUTF8.data.toList)
    (parsed : Toml.read text.toList = .ok (.object file)) : invocation.Reads (some own) file := by
  subst starts
  refine ⟨outcome_chooseFile_of_own unnamed isFile, fileEntries_of_readToml isFile ?_
    (readToml_of_text plain content parsed)⟩
  rw [FilePath.name_child]
  exact ownFileName_ne_projectFileName

end Invocation

open Invocation in
/-- Of an invocation that reads a settings file, every field is decided by the source that wins: it
ends with the settings that the winning values read as, or with the fields that these misfit.  So
does every other invocation that reads the same file and in which the same values win, whatever the
sources that lose have, and other names.  The order of the sources is that of `Sources.find?`, and
what fits a field is what its reader reads. -/
theorem outcome_is_decided_by_winners {invocation : Invocation} {path : Option FilePath}
    {file : List (Value × Value)} (reads : invocation.Reads path file) :
    (∀ field ∈ fieldNames, ∃! value, (invocation.sources file).Wins field value) ∧
    (∀ arguments, invocation.flags = CommandLine.flagSettings arguments →
      ∀ field value, invocation.flags.lookup field = some value ↔ value = .bool true ∧
        ∃ flag, (flag, field) ∈ CommandLine.flagFields ∧ arguments.has flag = true) ∧
    (∀ environment flags,
      environment.find? fileVariable = invocation.environment.find? fileVariable →
      Reads { invocation with environment, flags } path file) ∧
    ∀ winner, (∀ field ∈ fieldNames, (invocation.sources file).Wins field (winner field)) →
      (∀ settings, invocation.outcome = .ok settings ↔ IsReadingOf winner path settings) ∧
      (∀ failure, invocation.outcome = .error failure ↔
        failure = .invalid (misfits winner) ∧ misfits winner ≠ []) ∧
      ∀ (other : Invocation) (otherFile : List (Value × Value)), other.Reads path otherFile →
        (∀ field ∈ fieldNames, (other.sources otherFile).Wins field (winner field) ∨
          (invocation.sources file).SameDownToWinner (other.sources otherFile) field) →
        other.outcome = invocation.outcome := by
  refine ⟨fun field known => ⟨(invocation.sources file).find? field,
    (Sources.wins_iff known).mpr rfl, fun value wins => ((Sources.wins_iff known).mp wins).symm⟩,
    ?_, fun environment flags same => reads.of_sameFileVariable same flags,
    fun winner wins => ?_⟩
  · rintro arguments flags field value
    rw [flags]
    exact CommandLine.lookup_flagSettings_eq_some_iff
  have finds : ∀ field ∈ fieldNames, (invocation.sources file).find? field = winner field :=
    fun field known => (Sources.wins_iff known).mp (wins field known)
  refine ⟨fun settings => ?_, fun failure => ?_, fun other otherFile otherReads same => ?_⟩
  · rw [← ofSources_eq_ok_iff finds, reads.outcome_eq]
    cases ofSources path (invocation.sources file) <;> simp [Except.mapError]
  · have misfit := @ofSources_eq_error_iff _ _ path (misfits winner) finds
    rw [reads.outcome_eq]
    constructor
    · intro failed
      cases given : ofSources path (invocation.sources file) with
      | ok settings =>
          rw [given] at failed
          cases failed
      | error problems =>
          rw [given] at failed
          cases failed
          obtain ⟨rfl, misfitting⟩ := (ofSources_eq_error_iff finds).mp given
          exact ⟨rfl, misfitting⟩
    · rintro ⟨rfl, misfitting⟩
      rw [misfit.mpr ⟨rfl, misfitting⟩]
      rfl
  · rw [otherReads.outcome_eq, reads.outcome_eq]
    refine congrArg _ (ofSources_congr fun field known => ?_)
    rcases same field known with alsoWins | kept
    · exact ((Sources.wins_iff known).mp alsoWins).trans (finds field known).symm
    · exact kept.find?_eq known

/-- Values that lose may be of any kind, and other names may stand beside the fields. -/
theorem losing_values_change_nothing :
    let tree (text : String) : FileTree :=
      ⟨⟨"/", []⟩, [(["shapectl.toml"], .file text.toUTF8.data.toList none)]⟩
    let run : Invocation := ⟨tree "schema_ref = 'a:B'\nquiet = 'maybe'\n",
      [("SHAPECTL_QUIET", "true"), ("SHAPECTL_VERBOSE", "no")], none, none,
      [("verbose", .bool true)]⟩
    let other : Invocation := ⟨tree "schema_ref = 'a:B'\nverbose = 7\nother = 1\n",
      [("SHAPECTL_OTHER", "1"), ("SHAPECTL_QUIET", "true"), ("SHAPECTL_VERBOSE", "?")],
      none, none, [("verbose", .bool true)]⟩
    other.outcome = run.outcome ∧ run.outcome = .ok
      { configPath := some ⟨"/", ["shapectl.toml"]⟩, schemaRef := some "a:B", quiet := true,
        verbose := true } := by
  intro tree run other
  let file := [(Value.text "schema_ref", Value.text "a:B"), (.text "quiet", .text "maybe")]
  have reads : run.Reads (some ⟨"/", ["shapectl.toml"]⟩) file := by
    have parsed : Toml.read "schema_ref = 'a:B'\nquiet = 'maybe'\n".toList =
        .ok (.object file) := by
      cbv
    exact .of_ownFile (Json.plainLines_of_all (by decide)) rfl rfl (by decide) rfl parsed
  let otherFile := [(Value.text "schema_ref", Value.text "a:B"), (.text "verbose", .int 7),
    (.text "other", .int 1)]
  have otherReads : other.Reads (some ⟨"/", ["shapectl.toml"]⟩) otherFile := by
    have parsed : Toml.read "schema_ref = 'a:B'\nverbose = 7\nother = 1\n".toList =
        .ok (.object otherFile) := by
      cbv
    exact .of_ownFile (Json.plainLines_of_all (by decide)) rfl rfl (by decide) rfl parsed
  let winner (field : String) : Option Value :=
    [("schema_ref", Value.text "a:B"), ("quiet", .text "true"),
      ("verbose", .bool true)].lookup field
  have wins : ∀ field ∈ fieldNames, (run.sources file).Wins field (winner field) := by
    simp only [fieldNames, List.forall_mem_cons, List.not_mem_nil, false_imp_iff, implies_true,
      and_true]
    exact ⟨.file rfl rfl (by simp [Invocation.sources, file, Value.lookup, Value.equals]),
      .default rfl rfl (by simp [Invocation.sources, file, Value.lookup, Value.equals]),
      .of_upperCase rfl (by decide) rfl, .flag rfl,
      .default rfl rfl (by simp [Invocation.sources, file, Value.lookup, Value.equals])⟩
  have alsoWins : ∀ field ∈ fieldNames, (other.sources otherFile).Wins field (winner field) := by
    simp only [fieldNames, List.forall_mem_cons, List.not_mem_nil, false_imp_iff, implies_true,
      and_true]
    exact ⟨.file rfl rfl (by simp [Invocation.sources, otherFile, Value.lookup, Value.equals]),
      .default rfl rfl (by simp [Invocation.sources, otherFile, Value.lookup, Value.equals]),
      .of_upperCase rfl (by decide) rfl, .flag rfl,
      .default rfl rfl (by simp [Invocation.sources, otherFile, Value.lookup, Value.equals])⟩
  obtain ⟨_, _, _, decided⟩ := outcome_is_decided_by_winners reads
  obtain ⟨settled, _, alike⟩ := decided winner wins
  exact ⟨alike other otherFile otherReads fun field known => .inl (alsoWins field known),
    (settled _).mpr ⟨rfl, rfl, rfl, rfl, rfl, rfl⟩⟩

/-- A variable in lower case decides before the settings file. -/
theorem lower_case_variable_decides :
    let tree : FileTree := ⟨⟨"/", []⟩,
      [(["shapectl.toml"], .file "schema_ref = 'toml:Schema'\n".toUTF8.data.toList none)]⟩
    let run : Invocation := ⟨tree, [("shapectl_schema_ref", "lower:case")], none, none, []⟩
    let file := [(Value.text "schema_ref", Value.text "toml:Schema")]
    run.Reads (some ⟨"/", ["shapectl.toml"]⟩) file ∧
      run.flags.lookup "schema_ref" = none ∧
      run.environment.find? (variableName "schema_ref") = none ∧
      Value.lookup file (.text "schema_ref") = some (.text "toml:Schema") ∧
      ¬ ∃ settings, run.outcome = .ok settings ∧ settings.schemaRef = some "toml:Schema" := by
  intro tree run file
  have reads : run.Reads (some ⟨"/", ["shapectl.toml"]⟩) file := by
    have parsed : Toml.read "schema_ref = 'toml:Schema'\n".toList = .ok (.object file) := by
      cbv
    exact .of_ownFile (Json.plainLines_of_all (by decide)) rfl rfl (by decide) rfl parsed
  refine ⟨reads, rfl, by decide, by simp [file, Value.lookup, Value.equals], ?_⟩
  rintro ⟨settings, loaded, decided⟩
  rw [reads.outcome_eq] at loaded
  cases made : ofSources (some ⟨"/", ["shapectl.toml"]⟩) (run.sources file) with
  | error problems =>
      rw [made] at loaded
      cases loaded
  | ok others =>
      rw [made] at loaded
      obtain rfl := Except.ok.inj loaded
      have found : (run.sources file).find? "schema_ref" = some (.text "lower:case") := rfl
      have schemaRef := ((ofSources_eq_ok_iff fun _ _ => rfl).mp made).schemaRef
      rw [found, decided] at schemaRef
      exact absurd schemaRef (by decide)

end Settings

end ClosedShape
