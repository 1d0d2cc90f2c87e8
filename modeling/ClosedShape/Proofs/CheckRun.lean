import ClosedShape.Proofs.CheckRequest
import ClosedShape.Proofs.DocumentLoading
import ClosedShape.Proofs.ReferenceResolution
import ClosedShape.Proofs.ReportText

/-!
# What a run of the check comes to

The check of a document has a verdict: the narrowed value, or an error.  The verdict depends on the
modules, the files and on what is to be checked, and on nothing else.  A run that reports it takes
the exit status from it and which of the two streams the report goes to; the flags only decide what
the report and the log look like.

Four things keep a run from its verdict, and the run ends by them otherwise: a document that may
not be read, code of a module that fails or leaves while the schema is looked for, a path that the
system refuses to look up, and an accepted value whose report has a surrogate, which the output
refuses.
-/

namespace ClosedShape

theorem Logged.outcome_attempt {ε δ α : Type} (operation : Logged ε α) :
    (operation.attempt : Logged δ (Except ε α)).outcome = .ok operation.outcome :=
  rfl

/-- A directory with neither settings file is passed over. -/
theorem Settings.searchDirectories_of_missing {tree : FileTree} {directory : FilePath}
    {rest : List FilePath} (own : tree.isFile (directory.child ownFileName) = .ok false)
    (project : tree.isFile (directory.child projectFileName) = .ok false) :
    searchDirectories tree (directory :: rest) = searchDirectories tree rest := by
  have noProject : isOwnProject tree (directory.child projectFileName) = pure false := by
    rw [isOwnProject, isFile, project]
    rfl
  rw [searchDirectories, isFile, own]
  dsimp only
  rw [noProject]
  rfl

namespace CommandLine

/-- What of a document is checked: all of it, or what it has under a name, which may be nothing. -/
inductive Selects (document : Value) : Option String → Value → Prop
  | whole : Selects document none document
  | part {entries : List (Value × Value)} (object : document = .object entries) (name : String) :
      Selects document (some name) (Value.lookupText entries name)

/-- What a check comes to.  The schema is looked for before the document, and nothing is selected
from what is no object. -/
inductive Verdict (modules : Modules) (files : FileTree) (target : CheckTarget) :
    Except CheckError Value → Prop
  | unresolved {error : SchemaReferenceError}
      (refuses : SchemaReference.Refuses modules target.reference error) :
      Verdict modules files target (.error ⟨"LOAD_ERROR", error.message, []⟩)
  | unloaded {schema : Schema} {error : DocumentError}
      (names : SchemaReference.Names modules target.reference schema)
      (missing : (Document.load files target.path).outcome = .error (.document error)) :
      Verdict modules files target (.error ⟨"LOAD_ERROR", error.message, []⟩)
  | unselected {schema : Schema} {document : Value} {name : String}
      (names : SchemaReference.Names modules target.reference schema)
      (loaded : (Document.load files target.path).outcome = .ok document)
      (asked : target.part = some name) (noObject : ∀ entries, document ≠ .object entries) :
      Verdict modules files target (.error ⟨"TYPE_MISMATCH",
        s!"Must be an object to select a section, got {document.kindName}.", []⟩)
  | rejected {schema : Schema} {document value : Value} {violation : Violation}
      (names : SchemaReference.Names modules target.reference schema)
      (loaded : (Document.load files target.path).outcome = .ok document)
      (selects : Selects document target.part value)
      (fails : schema.parse value = .error (.invalid violation)) :
      Verdict modules files target (.error (.ofViolation violation))
  | accepted {schema : Schema} {document value narrowed : Value}
      (names : SchemaReference.Names modules target.reference schema)
      (loaded : (Document.load files target.path).outcome = .ok document)
      (selects : Selects document target.part value)
      (parsed : schema.parse value = .ok narrowed) : Verdict modules files target (.ok narrowed)

/-- The result of a check with a verdict. -/
def verdictResult (name : Text) : Except CheckError Value → CheckResult
  | .ok narrowed => .success name narrowed
  | .error error => .failure name error

/-- A run ends as its verdict says: the formatted result goes to the output and the status is zero,
or it goes beside the output, after the log, and the status is one. -/
def Reports (world : World) (settings : Settings) (name : Text)
    (verdict : Except CheckError Value) (outcome : Outcome) : Prop :=
  ∃ text records,
    Report.format (verdictResult name verdict) (reportSettings settings) = .ok text ∧
    let log :=
      (LogRecord.lines settings.logJson world.time settings.logLevel records).writeEscaped
    outcome.crash = none ∧
      match verdict with
      | .ok _ =>
          ∃ output, Text.ofString output = text ++ "\n" ∧
            outcome.emission = { status := 0, output, errors := log }
      | .error _ =>
          let errors := log ++ Text.writeEscaped (text ++ "\n")
          outcome.emission = { status := 1, output := "", errors }

/-- A run ends by something else than its verdict, with a status and perhaps with what no part of
the program has handled. -/
inductive Derails (world : World) (settings : Settings) (target : CheckTarget) :
    Nat → Option Crash → Prop
  /-- There is something at the path of the document, and it may not be read. -/
  | refused {node : FileNode} (found : world.files.lookup target.path = .ok (some node))
      (closed : world.readable target.path = false) : Derails world settings target 2 none
  /-- Code of a module fails, or it leaves the run with a status of its own. -/
  | disturbed {fault : Fault} (unrefused : world.refuses target.path = false)
      (disturbs : SchemaReference.Disturbs world.modules target.reference fault) :
      Derails world settings target (Crash.faulty fault).status (some (.faulty fault))
  /-- The system does not say whether the document is there. -/
  | unsearchable {schema : Schema} {format : DocumentFormat} {error : SystemError}
      (unrefused : world.refuses target.path = false)
      (names : SchemaReference.Names world.modules target.reference schema)
      (suffix : DocumentFormat.ofSuffix? (Text.lowerCase target.path.suffix) = some format)
      (fails : world.files.isFile target.path = .error error) :
      Derails world settings target 1 (some (.system error))
  /-- The output refuses the report for people, which shows a surrogate of an accepted value. -/
  | unwritable {narrowed : Value} {text : Text} {half : Fin 0x800}
      (unrefused : world.refuses target.path = false)
      (accepted : Verdict world.modules world.files target (.ok narrowed))
      (people : settings.jsonOutput = false)
      (formatted : Report.format (.success target.name narrowed) (reportSettings settings) =
        .ok text)
      (shows : .surrogate half ∈ text) :
      Derails world settings target 1 (some (.faulty (Text.writingFault (text ++ "\n"))))

/-- The schema is one that the library builds and whose refinements answer, the reader of the
document does not fail by itself, and no integer in either is too long to be written. -/
structure Checkable (custom : Refinement → Prop) (world : World) (target : CheckTarget) : Prop where
  schema : ∀ schema, SchemaReference.Names world.modules target.reference schema →
    schema.Buildable custom ∧ schema.LiteralsShort ∧ schema.ChecksAnswer
  document : ∀ fault, (Document.load world.files target.path).outcome ≠ .error (.faulty fault)
  short : ∀ value, (Document.load world.files target.path).outcome = .ok value →
    ¬ value.HoldsLongInteger

variable {world : World} {arguments : List String} {settings : Settings} {target : CheckTarget}
  {verdict : Except CheckError Value} {custom : Refinement → Prop} {status : Nat}
  {crash : Option Crash}

theorem World.refuses_iff {path : FilePath} :
    world.refuses path = true ↔
      ∃ node, world.files.lookup path = .ok (some node) ∧ world.readable path = false := by
  unfold World.refuses
  rcases world.files.lookup path with error | _ | node
  all_goals simp

/-- How the check of a document ends, by what becomes of the reference and of the document. -/
theorem outcome_checkDocument :
    (checkDocument world target.reference target.path target.part).outcome =
      match SchemaReference.find world.modules target.reference with
      | .error (.unresolved error) =>
          .ok (.failure target.name ⟨loadErrorCode, error.message, []⟩)
      | .error (.faulty fault) => .error (.faulty fault)
      | .ok schema =>
          match (Document.load world.files target.path).outcome with
          | .error (.document error) =>
              .ok (.failure target.name ⟨loadErrorCode, error.message, []⟩)
          | .error (.system error) => .error (.system error)
          | .error (.faulty fault) => .error (.faulty fault)
          | .ok document =>
              (checkLoaded target.name schema document target.part).outcome.mapError .faulty := by
  unfold checkDocument
  rw [Logged.outcome_bind, Logged.outcome_attempt, SchemaReference.outcome_resolve]
  dsimp only [Except.bind]
  cases SchemaReference.find world.modules target.reference with
  | error failure => cases failure <;> rfl
  | ok schema =>
      dsimp only
      rw [Logged.outcome_bind, Logged.outcome_attempt]
      dsimp only [Except.bind]
      rcases (Document.load world.files target.path).outcome with (_ | _ | _) | document
      all_goals rfl

theorem outcome_checkLoaded_of_selects {name : Text} {schema : Schema} {document value : Value}
    {part : Option String} (selects : Selects document part value) :
    (checkLoaded name schema document part).outcome =
      (Check.config name schema value []).outcome := by
  cases selects with
  | whole => rfl
  | part object name =>
      subst object
      rfl

theorem outcome_checkLoaded_of_noObject {name : Text} {part : String} {schema : Schema}
    {document : Value} (noObject : ∀ entries, document ≠ .object entries) :
    (checkLoaded name schema document (some part)).outcome = .ok (.failure name ⟨"TYPE_MISMATCH",
      s!"Must be an object to select a section, got {document.kindName}.", []⟩) := by
  cases document with
  | mapping flavour entries =>
      cases flavour with
      | plain => exact absurd rfl (noObject entries)
      | _ => rfl
  | _ => rfl

/-- How a check ends that has a verdict. -/
theorem outcome_checkDocument_of_verdict
    (decided : Verdict world.modules world.files target verdict) :
    (checkDocument world target.reference target.path target.part).outcome =
      .ok (verdictResult target.name verdict) := by
  rw [outcome_checkDocument]
  cases decided with
  | unresolved refuses =>
      rw [SchemaReference.find_of_refuses refuses]
      rfl
  | unloaded names missing =>
      rw [SchemaReference.find_of_names names]
      dsimp only
      rw [missing]
      rfl
  | unselected names loaded asked noObject =>
      rw [SchemaReference.find_of_names names]
      dsimp only
      rw [loaded, asked]
      dsimp only
      rw [outcome_checkLoaded_of_noObject noObject]
      rfl
  | rejected names loaded selects fails =>
      rw [SchemaReference.find_of_names names]
      dsimp only
      rw [loaded]
      dsimp only
      rw [outcome_checkLoaded_of_selects selects, Check.outcome_config, fails]
      rfl
  | accepted names loaded selects parsed =>
      rw [SchemaReference.find_of_names names]
      dsimp only
      rw [loaded]
      dsimp only
      rw [outcome_checkLoaded_of_selects selects, Check.outcome_config, parsed]
      rfl

/-- A check has one verdict only. -/
theorem Verdict.unique {other : Except CheckError Value}
    (decided : Verdict world.modules world.files target verdict)
    (decidedOther : Verdict world.modules world.files target other) : other = verdict := by
  have same : verdictResult target.name other = verdictResult target.name verdict := by
    apply Except.ok.inj
    rw [← outcome_checkDocument_of_verdict decided, outcome_checkDocument_of_verdict decidedOther]
  rcases other with error | narrowed <;> rcases verdict with error' | narrowed'
  · have errors := congrArg CheckResult.errors same
    simpa [verdictResult, CheckResult.failure] using errors
  · have ok := congrArg CheckResult.ok same
    cases ok
  · have ok := congrArg CheckResult.ok same
    cases ok
  · have value := congrArg CheckResult.value same
    exact congrArg Except.ok value

theorem exists_selects (document : Value) (part : Option String) :
    (∃ value, Selects document part value) ∨
      ∃ name, part = some name ∧ ∀ entries, document ≠ .object entries := by
  cases part with
  | none => exact .inl ⟨document, .whole⟩
  | some name =>
      cases document with
      | mapping flavour entries =>
          cases flavour with
          | plain => exact .inl ⟨_, .part rfl name⟩
          | _ => exact .inr ⟨name, rfl, by simp⟩
      | _ => exact .inr ⟨name, rfl, by simp⟩

theorem Selects.not_holdsLongInteger {document value : Value} {part : Option String}
    (selects : Selects document part value) (short : ¬ document.HoldsLongInteger) :
    ¬ value.HoldsLongInteger := by
  cases selects with
  | whole => exact short
  | @part entries object name =>
      subst object
      exact Value.not_holdsLongInteger_lookupText short rfl name

/-- A check has a verdict, or the schema or the document cannot even be looked for. -/
theorem Checkable.exists_verdict_or (checkable : Checkable custom world target) :
    (∃ verdict, Verdict world.modules world.files target verdict) ∨
      (∃ fault, SchemaReference.Disturbs world.modules target.reference fault) ∨
      ∃ schema error, SchemaReference.Names world.modules target.reference schema ∧
        (Document.load world.files target.path).outcome = .error (.system error) := by
  rcases SchemaReference.names_or_refuses_or_disturbs world.modules target.reference with
    ⟨schema, names⟩ | ⟨error, refuses⟩ | disturbs
  · obtain ⟨buildable, literals, answers⟩ := checkable.schema schema names
    rcases loaded : (Document.load world.files target.path).outcome with
      (error | fault | error) | document
    · exact .inl ⟨_, .unloaded names loaded⟩
    · exact absurd loaded (checkable.document fault)
    · exact .inr (.inr ⟨schema, error, names, rfl⟩)
    · rcases exists_selects document target.part with ⟨value, selects⟩ | ⟨name, asked, noObject⟩
      · have short := selects.not_holdsLongInteger (checkable.short document loaded)
        have sound : ∀ fault, schema.parse value ≠ .error (.faulty fault) :=
          buildable.regular.parse_ne_faulty literals
            (Value.keysShort_of_not_holdsLongInteger short)
            fun _ part content fault follows =>
              answers part content fault (Schema.partOf_of_follow? follows)
        rcases parsed : schema.parse value with (violation | fault) | narrowed
        · exact .inl ⟨_, .rejected names loaded selects parsed⟩
        · exact absurd parsed (sound fault)
        · exact .inl ⟨_, .accepted names loaded selects parsed⟩
      · exact .inl ⟨_, .unselected names loaded asked noObject⟩
  · exact .inl ⟨_, .unresolved refuses⟩
  · exact .inr (.inl disturbs)

/-- The codes of the library's own findings are not markup. -/
theorem plain_ownCode {violation : Violation} (own : violation.IsOwn) :
    Markup.Plain violation.ownCode := by
  rcases own with ofValue | ⟨key, shown, rfl⟩
  · cases violation
    case typeMismatch | literalMismatch | refinementFailure =>
      simp only [Violation.ownCode]
      decide
    all_goals exact ofValue.elim
  · simp only [Violation.ownCode]
    decide

/-- The result of a check has a report. -/
theorem Checkable.exists_format (checkable : Checkable custom world target)
    (decided : Verdict world.modules world.files target verdict) (settings : ReportSettings) :
    ∃ text, Report.format (verdictResult target.name verdict) settings = .ok text := by
  have ofError (error : CheckError) (plain : Markup.Plain error.code) :
      ∃ text, Report.format (.failure target.name error) settings = .ok text := by
    apply Report.exists_format
    · exact Value.showable_null
    · simpa [CheckResult.failure] using plain
  have notLoaded : Markup.Plain (.ofString "LOAD_ERROR") := by decide
  have notObject : Markup.Plain (.ofString "TYPE_MISMATCH") := by decide
  cases decided with
  | unresolved | unloaded => exact ofError _ notLoaded
  | unselected => exact ofError _ notObject
  | @rejected _ _ _ violation names loaded selects fails =>
      have regular := (checkable.schema _ names).1.regular
      obtain ⟨_, _, _, partRegular, _, here⟩ := regular.exists_failsHere_of_violation fails
      have plain : Markup.Plain violation.code := plain_ownCode (here.isOwn partRegular)
      exact ofError (.ofViolation violation) plain
  | accepted names loaded selects parsed =>
      apply Report.exists_format
      · have buildable := (checkable.schema _ names).1
        have short := selects.not_holdsLongInteger (checkable.short _ loaded)
        exact buildable.regular.showable_of_parse short parsed
      · exact List.forall_mem_nil _

/-! ## How a run ends -/

/-- What is written for an accepted value.  A result of a check carries no warnings. -/
theorem emit_success {name text : Text} {narrowed : Value} {settings : ReportSettings}
    (formatted : Report.format (.success name narrowed) settings = .ok text) :
    Report.emit (.success name narrowed) settings =
      (Text.write (text ++ "\n")).map fun output => { output } := by
  have noWarnings : Report.warningLines (.success name narrowed) settings = [] := by
    unfold Report.warningLines
    split <;> rfl
  rw [Report.emit, formatted]
  dsimp only [bind, Except.bind]
  rw [noWarnings]
  cases Text.write (text ++ "\n") <;> rfl

theorem emit_failure {name text : Text} {error : CheckError} {settings : ReportSettings}
    (formatted : Report.format (.failure name error) settings = .ok text) :
    Report.emit (.failure name error) settings =
      .ok { status := 1, errors := Text.writeEscaped (text ++ "\n") } := by
  rw [Report.emit, formatted]
  rfl

/-- A report for programs has no surrogates. -/
theorem exists_ofString_of_json {result : CheckResult} {text : Text}
    (json : settings.jsonOutput = true)
    (formatted : Report.format result (reportSettings settings) = .ok text) :
    ∃ string, text = .ofString string := by
  rw [Report.format, reportSettings, json, if_pos rfl] at formatted
  revert formatted
  cases Json.write .indented (Report.payload result (Report.shownValue result.value)) with
  | error fault =>
      intro formatted
      cases formatted
  | ok string =>
      intro formatted
      exact ⟨string, (Except.ok.inj formatted).symm⟩

/-- A run of which nothing else is known but its verdict. -/
theorem run_of_verdict (requests : Requests world arguments settings target)
    (unrefused : world.refuses target.path = false)
    (decided : Verdict world.modules world.files target verdict) :
    run world arguments = reportCheck world settings
      ⟨(checkDocument world target.reference target.path target.part).records,
        .ok (verdictResult target.name verdict)⟩ := by
  obtain ⟨document, ran⟩ := run_of_requests requests
  rw [ran, unrefused, if_neg (by decide), ← outcome_checkDocument_of_verdict decided]

/-- A run that has a verdict reports it, unless the output refuses the report. -/
theorem Checkable.reports_or_derails (checkable : Checkable custom world target)
    (requests : Requests world arguments settings target)
    (unrefused : world.refuses target.path = false)
    (decided : Verdict world.modules world.files target verdict) :
    Reports world settings target.name verdict (run world arguments) ∨
      ∃ status crash, Derails world settings target status crash := by
  obtain ⟨text, formatted⟩ := checkable.exists_format decided (reportSettings settings)
  have ran := run_of_verdict requests unrefused decided
  rw [reportCheck] at ran
  dsimp only at ran
  let records := (checkDocument world target.reference target.path target.part).records
  cases verdict with
  | error error =>
      dsimp only [verdictResult] at formatted ran
      rw [emit_failure formatted] at ran
      refine .inl ⟨text, records, formatted, ?_⟩
      rw [ran]
      exact ⟨rfl, rfl⟩
  | ok narrowed =>
      dsimp only [verdictResult] at formatted ran
      rw [emit_success formatted] at ran
      by_cases plain : ∀ half, .surrogate half ∉ text
      case pos =>
          obtain ⟨chars, rfl⟩ := Text.exists_ofChars_iff.mpr plain
          have ended : Text.ofString (String.ofList chars ++ "\n") = .ofChars chars ++ "\n" := by
            rw [Text.ofString_append, Text.ofString, String.toList_ofList]
          rw [← ended, Text.write_ofString] at ran
          refine .inl ⟨_, records, formatted, ?_⟩
          rw [ran]
          exact ⟨rfl, _, ended, by simp [records, Except.map]⟩
      case neg =>
          obtain ⟨half, shows⟩ := not_forall_not.mp plain
          have people : settings.jsonOutput = false := by
            rw [← Bool.not_eq_true]
            intro json
            obtain ⟨string, rfl⟩ := exists_ofString_of_json json formatted
            exact plain (Text.exists_ofChars_iff.mp ⟨_, rfl⟩)
          exact .inr ⟨_, _, .unwritable unrefused decided people formatted shows⟩

/-- How a run ends that does not come to report its verdict.  It writes nothing to the output. -/
theorem Derails.run_eq (requests : Requests world arguments settings target)
    (derails : Derails world settings target status crash) :
    ∃ errors, run world arguments = ⟨{ status, output := "", errors }, crash⟩ := by
  obtain ⟨document, ran⟩ := run_of_requests requests
  rw [ran]
  cases derails with
  | refused found closed =>
      rw [if_pos (World.refuses_iff.mpr ⟨_, found, closed⟩)]
      exact ⟨_, rfl⟩
  | disturbed unrefused disturbs =>
      rw [unrefused, if_neg (by decide), reportCheck, outcome_checkDocument,
        SchemaReference.find_of_disturbs disturbs]
      exact ⟨_, rfl⟩
  | unsearchable unrefused names suffix fails =>
      rw [unrefused, if_neg (by decide), reportCheck, outcome_checkDocument,
        SchemaReference.find_of_names names]
      dsimp only
      rw [Document.outcome_load, suffix]
      dsimp only
      rw [fails]
      exact ⟨_, rfl⟩
  | unwritable unrefused accepted people formatted shows =>
      rw [unrefused, if_neg (by decide), reportCheck, outcome_checkDocument_of_verdict accepted]
      dsimp only [verdictResult]
      rw [emit_success formatted, Text.write_of_surrogate (List.mem_append_left _ shows)]
      exact ⟨_, rfl⟩

theorem Reports.status_eq {name : Text} {outcome : Outcome}
    (reports : Reports world settings name verdict outcome) :
    outcome.emission.status = if verdict.isOk then 0 else 1 := by
  obtain ⟨text, records, _, _, ended⟩ := reports
  cases verdict with
  | ok narrowed =>
      obtain ⟨output, _, emission⟩ := ended
      rw [emission]
      rfl
  | error error =>
      dsimp only at ended
      rw [ended]
      rfl

/-- A run cannot both report a verdict and end by something else. -/
theorem Derails.not_reports (derails : Derails world settings target status crash)
    (requests : Requests world arguments settings target) {name : Text} :
    ¬ Reports world settings name verdict (run world arguments) := by
  intro reports
  obtain ⟨errors, ran⟩ := derails.run_eq requests
  have exited := reports.status_eq
  obtain ⟨_, _, _, noCrash, _⟩ := reports
  rw [ran] at noCrash exited
  cases derails with
  | refused => cases verdict <;> simp [Except.isOk, Except.toBool] at exited
  | disturbed | unsearchable | unwritable => cases noCrash

/-- A run reports a verdict exactly if nothing derails it. -/
theorem Checkable.reports_iff (checkable : Checkable custom world target)
    (requests : Requests world arguments settings target) :
    (∃ verdict, Verdict world.modules world.files target verdict ∧
        Reports world settings target.name verdict (run world arguments)) ↔
      ∀ status crash, ¬ Derails world settings target status crash := by
  constructor
  · rintro ⟨verdict, _, reports⟩ status crash derails
    exact derails.not_reports requests reports
  · intro undisturbed
    have unrefused : world.refuses target.path = false := by
      rw [← Bool.not_eq_true, World.refuses_iff]
      rintro ⟨node, found, closed⟩
      exact undisturbed _ _ (.refused found closed)
    rcases checkable.exists_verdict_or with
      ⟨verdict, decided⟩ | ⟨fault, disturbs⟩ | ⟨schema, error, names, missing⟩
    · rcases checkable.reports_or_derails requests unrefused decided with reports | derails
      · exact ⟨verdict, decided, reports⟩
      · obtain ⟨status, crash, derails⟩ := derails
        exact absurd derails (undisturbed status crash)
    · exact absurd (.disturbed unrefused disturbs) (undisturbed _ _)
    · obtain ⟨format, suffix, fails⟩ := Document.exists_isFile_eq_error missing
      exact absurd (.unsearchable unrefused names suffix fails) (undisturbed _ _)

/-- Two runs that see the same modules and files can be derailed in the same ways, but for a report
for people that the output refuses. -/
theorem Derails.of_same {other : World} {otherSettings : Settings}
    (modules : other.modules = world.modules) (files : other.files = world.files)
    (readable : other.readable = world.readable)
    (derails : Derails other otherSettings target status crash) :
    Derails world settings target status crash ∨
      (otherSettings.jsonOutput = false ∧
        ∃ narrowed, Verdict world.modules world.files target (.ok narrowed)) := by
  have sameRefuses : other.refuses target.path = world.refuses target.path := by
    rw [World.refuses, World.refuses, files, readable]
  cases derails with
  | refused found closed => exact .inl (.refused (files ▸ found) (readable ▸ closed))
  | disturbed unrefused disturbs =>
      exact .inl (.disturbed (sameRefuses ▸ unrefused) (modules ▸ disturbs))
  | unsearchable unrefused names suffix fails =>
      exact .inl (.unsearchable (sameRefuses ▸ unrefused) (modules ▸ names) suffix (files ▸ fails))
  | unwritable _ accepted people _ _ =>
      rw [modules, files] at accepted
      exact .inr ⟨people, _, accepted⟩

theorem Checkable.of_same {other : World} (checkable : Checkable custom world target)
    (modules : other.modules = world.modules) (files : other.files = world.files) :
    Checkable custom other target := by
  obtain ⟨schema, document, short⟩ := checkable
  exact ⟨by rwa [modules], by rwa [files], by rwa [files]⟩

theorem Checkable.reports_of_same {other : World} {otherArguments : List String}
    {otherSettings : Settings} (checkable : Checkable custom world target)
    (modules : other.modules = world.modules) (files : other.files = world.files)
    (requests : Requests other otherArguments otherSettings target)
    (undisturbed : ∀ status crash, ¬ Derails other otherSettings target status crash)
    (decided : Verdict world.modules world.files target verdict) :
    Reports other otherSettings target.name verdict (run other otherArguments) := by
  obtain ⟨_, decidedThere, reports⟩ :=
    ((checkable.of_same modules files).reports_iff requests).mpr undisturbed
  rw [modules, files] at decidedThere
  rwa [decided.unique decidedThere] at reports

section OneDocument

variable {node : FileNode} {modules : Modules} {readable : FilePath → Bool}

/-- Files of nothing but a document at the root. -/
abbrev rootDocument (node : FileNode) : FileTree := ⟨⟨"/", []⟩, [(["a.json"], node)]⟩

theorem chooseFile_rootDocument :
    (Settings.chooseFile (rootDocument node) [] none none).outcome = .ok none := by
  have missing : ∀ name ∈ [Settings.ownFileName, Settings.projectFileName],
      (rootDocument node).isFile (FilePath.child ⟨"/", []⟩ name) = .ok false := by
    intro name member
    obtain rfl | rfl : name = _ ∨ name = _ := by simpa using member
    all_goals
      unfold FileTree.isFile FileTree.lookup
      rw [if_neg (by decide), if_neg (by decide)]
      simp [FileTree.namesOf, FilePath.isAbsolute, FilePath.child, FileTree.walk,
        FileTree.find?, FileTree.longestName, Settings.ownFileName, Settings.projectFileName]
      rfl
  change ((Settings.searchDirectories (rootDocument node) [⟨"/", []⟩]).mapError _).outcome = _
  rw [Settings.searchDirectories_of_missing (missing _ (by simp)) (missing _ (by simp))]
  rfl

theorem lookup_rootDocument :
    (rootDocument node).lookup ⟨"", ["a.json"]⟩ = .ok (some node) := by
  have short : "a.json".utf8ByteSize ≤ 255 := by decide
  unfold FileTree.lookup
  rw [if_neg (by decide), if_neg (by decide)]
  simp [FileTree.namesOf, FilePath.isAbsolute, FileTree.walk, FileTree.find?,
    FileTree.longestName, short]

theorem requests_rootDocument (flags : List OutputFlag) {reference : String} (part : Option String)
    (named : reference.isEmpty = false)
    (loaded : (Settings.load (rootDocument node) [] none none
      (flagSettings ⟨flags.map fun flag => (flag.option, none), []⟩)).outcome = .ok settings) :
    Requests ⟨rootDocument node, [], modules, readable, "now"⟩
      (flags.map OutputFlag.argument ++
        checkName :: "a.json" :: "--schema" :: reference :: sectionArguments part)
      settings ⟨reference, ⟨"", ["a.json"]⟩, part⟩ := by
  have path : FilePath.ofString "a.json" = ⟨"", ["a.json"]⟩ :=
    FilePath.ofString_of_name (by decide) (by decide) (by decide)
  rw [← path]
  exact requests_of_flags flags part (by decide) named loaded

theorem load_rootDocument {text : String} {value : Value} (plain : Json.PlainLines text.toList)
    (read : Json.read text.toList = .ok value) :
    (Document.load (rootDocument (.file text.toUTF8.data.toList none)) ⟨"", ["a.json"]⟩).outcome =
      .ok value := by
  refine load_of_decode (by decide) ?_ (by rw [decode_of_plainLines plain, Document.parse, read])
  rw [FileTree.read, lookup_rootDocument]
  rfl

end OneDocument

end CommandLine

end ClosedShape
