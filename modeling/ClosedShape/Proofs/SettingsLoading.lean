import ClosedShape.Proofs.SettingsSearch
import ClosedShape.Settings

/-!
# Loading settings

Loading settings gives them or an error that tells the user what is wrong with the settings file or
with a field, but for four things: the path of a named file is too long, the search is obstructed,
the settings file refuses to be read, or reading it ends in a fault.  Project files that belong to
other tools and cannot be read never make it fail.
-/

namespace ClosedShape

/-- The user is told what is wrong with the settings. -/
def SettingsFailure.IsUserError : SettingsFailure → Prop
  | .fileNotFound _ | .malformed _ _ | .invalid _ => True
  | .system _ | .faulty _ => False

namespace Settings

open FilePath

/-- A failed search as a reason why there are no settings. -/
def DiscoveryFailure.settingsFailure : DiscoveryFailure → SettingsFailure
  | .faulty fault => .faulty fault
  | .system error => .system error

/-- The settings file that is named by an option, or else by the environment. -/
def namedFile? (environment : Environment) (given : Option String) : Option FilePath :=
  ((given.filter fun name => !name.isEmpty).or
    ((environment.find? fileVariable).filter fun name => !name.isEmpty)).map FilePath.ofString

/-- What keeps settings from being loaded without the user being told what is wrong with them. -/
inductive Disturbs (tree : FileTree) (environment : Environment) (given : Option String)
    (start : Option FilePath) : SettingsFailure → Prop
  /-- The path of the named file cannot be looked up. -/
  | named {path : FilePath} {error : SystemError} (named : namedFile? environment given = some path)
      (refused : tree.isFile path = .error error) :
      Disturbs tree environment given start (.system error)
  /-- The search for a file is obstructed. -/
  | search {directory : FilePath} {failure : DiscoveryFailure}
      (unnamed : namedFile? environment given = none)
      (first : EndsFirst tree (searchStart tree start) directory (.error failure)) :
      Disturbs tree environment given start failure.settingsFailure
  /-- The settings file refuses to be read. -/
  | unreadable {path : FilePath} {error : SystemError}
      (chosen : (chooseFile tree environment given start).outcome = .ok (some path))
      (refused : tree.read path = .error error) :
      Disturbs tree environment given start (.system error)
  /-- Reading the settings file ends in a fault. -/
  | fault {path : FilePath} {text : List Char} {fault : Fault}
      (chosen : (chooseFile tree environment given start).outcome = .ok (some path))
      (content : tree.text? path = some text)
      (failed : Document.parse .toml text = .error (.faulty fault)) :
      Disturbs tree environment given start (.faulty fault)

variable {tree other : FileTree} {environment : Environment} {given : Option String}
  {start : Option FilePath} {flags : List (String × Value)} {path : FilePath}
  {failure : SettingsFailure} {ended : Except DiscoveryFailure (Option FilePath)}

theorem DiscoveryFailure.not_isUserError (failure : DiscoveryFailure) :
    ¬ failure.settingsFailure.IsUserError := by
  cases failure <;> exact id

/-! ## Choosing the file -/

/-- A named file is the only one that counts. -/
theorem chooseFile_cases_of_named (tree : FileTree) (start : Option FilePath)
    (named : namedFile? environment given = some path) :
    (tree.isFile path = .ok true ∧
        (chooseFile tree environment given start).outcome = .ok (some path)) ∨
      (tree.isFile path = .ok false ∧
        ((chooseFile tree environment given start).outcome = .ok none ∨
          ∃ name, (chooseFile tree environment given start).outcome =
            .error (.fileNotFound name))) ∨
      ∃ error, tree.isFile path = .error error ∧
        (chooseFile tree environment given start).outcome = .error (.system error) := by
  rw [namedFile?, Option.map_eq_some_iff] at named
  obtain ⟨name, source, rfl⟩ := named
  cases option : given.filter fun name => !name.isEmpty with
  | some optionName =>
      rw [option, Option.some_or] at source
      obtain rfl := Option.some.inj source
      rw [chooseFile, option]
      dsimp only
      rcases tree.isFile (.ofString optionName) with error | _ | _
      · exact .inr (.inr ⟨error, rfl, rfl⟩)
      · exact .inr (.inl ⟨rfl, .inr ⟨optionName, rfl⟩⟩)
      · exact .inl ⟨rfl, rfl⟩
  | none =>
      rw [option, Option.none_or] at source
      rw [chooseFile, option]
      dsimp only
      rw [findFile, source]
      dsimp only
      rw [Logged.mapError, Logged.outcome_bind, isFile, Logged.outcome_ofExcept]
      rcases tree.isFile (.ofString name) with error | _ | _
      · exact .inr (.inr ⟨error, rfl, rfl⟩)
      · exact .inr (.inl ⟨rfl, .inl rfl⟩)
      · exact .inl ⟨rfl, rfl⟩

/-- Without a named file the search decides. -/
theorem outcome_chooseFile_of_unnamed (unnamed : namedFile? environment given = none) :
    (chooseFile tree environment given start).outcome =
      (searchDirectories tree (upward (searchStart tree start))).outcome.mapError
        DiscoveryFailure.settingsFailure := by
  rw [namedFile?, Option.map_eq_none_iff, Option.or_eq_none_iff] at unnamed
  rw [chooseFile, unnamed.1]
  dsimp only
  rw [findFile, unnamed.2]
  rfl

/-- The search ends as the first directory says that ends it, or with nothing. -/
theorem search_cases (tree : FileTree) (start : FilePath) :
    (∃ directory ended, EndsFirst tree start directory ended ∧
        (searchDirectories tree (upward start)).outcome = ended) ∨
      (searchDirectories tree (upward start)).outcome = .ok none := by
  rcases exists_endsFirst tree start with ⟨directory, ended, first⟩ | never
  · exact .inl ⟨directory, ended, first, first.outcome_eq⟩
  · exact .inr (outcome_eq_ok_none never)

/-- The file of the directory where the search starts is chosen before any other. -/
theorem outcome_chooseFile_of_own (unnamed : namedFile? environment given = none)
    (isFile : tree.isFile ((searchStart tree start).child ownFileName) = .ok true) :
    (chooseFile tree environment given start).outcome =
      .ok (some ((searchStart tree start).child ownFileName)) := by
  have first : EndsFirst tree (searchStart tree start) (searchStart tree start) _ :=
    ⟨⟨rfl, List.prefix_rfl⟩, .of_carries (.own isFile),
      fun near isNear => absurd isNear (not_isNearer_self _ near)⟩
  rw [outcome_chooseFile_of_unnamed unnamed, first.outcome_eq]
  rfl

/-- What ends a search with a file has found one of the two names. -/
theorem Ends.isFile {directory file : FilePath} (ends : Ends tree directory (.ok (some file))) :
    tree.isFile file = .ok true ∧
      ∃ name ∈ [ownFileName, projectFileName], file = directory.child name := by
  rcases ends with ⟨_, carries, same⟩ | obstructs
  · obtain rfl := Option.some.inj (Except.ok.inj same)
    cases carries with
    | own isFile => exact ⟨isFile, _, by simp, rfl⟩
    | project _ isFile _ => exact ⟨isFile, _, by simp, rfl⟩
  · cases obstructs with
    | noTable _ isFile => exact ⟨isFile, _, by simp, rfl⟩

theorem isFile_of_chosen
    (chosen : (chooseFile tree environment given start).outcome = .ok (some path)) :
    tree.isFile path = .ok true := by
  cases named : namedFile? environment given with
  | some other =>
      rcases chooseFile_cases_of_named tree start named with
        ⟨isFile, outcome⟩ | ⟨_, outcome | ⟨_, outcome⟩⟩ | ⟨_, _, outcome⟩
      · obtain rfl := Option.some.inj (Except.ok.inj (outcome.symm.trans chosen))
        exact isFile
      all_goals cases outcome.symm.trans chosen
  | none =>
      rw [outcome_chooseFile_of_unnamed named] at chosen
      rcases search_cases tree (searchStart tree start) with ⟨_, ended, first, outcome⟩ | outcome
      · rw [outcome] at chosen
        cases ended with
        | error failure => cases chosen
        | ok file =>
            obtain rfl := Except.ok.inj chosen
            exact first.2.1.isFile.1
      · rw [outcome] at chosen
        cases chosen

/-- A choice that fails without telling the user is disturbed. -/
theorem disturbs_of_chooseFile
    (failed : (chooseFile tree environment given start).outcome = .error failure)
    (hidden : ¬ failure.IsUserError) : Disturbs tree environment given start failure := by
  cases named : namedFile? environment given with
  | some path =>
      rcases chooseFile_cases_of_named tree start named with
        ⟨_, outcome⟩ | ⟨_, outcome | ⟨_, outcome⟩⟩ | ⟨_, refused, outcome⟩
      all_goals cases outcome.symm.trans failed
      · exact absurd trivial hidden
      · exact .named named refused
  | none =>
      rw [outcome_chooseFile_of_unnamed named] at failed
      rcases search_cases tree (searchStart tree start) with ⟨_, ended, first, outcome⟩ | outcome
      · rw [outcome] at failed
        cases ended with
        | ok file => cases failed
        | error reason =>
            cases failed
            exact .search named first
      · rw [outcome] at failed
        cases failed

/-! ## Reading the file -/

theorem readTable_eq_error_iff {failure : Document.DecodeFailure} :
    readTable tree path = .error failure ↔ Document.read tree path .toml = .error failure := by
  rw [← readToml_eq_error_iff, readTable]
  cases readToml tree path with
  | error failure => rfl
  | ok entries =>
      dsimp only [bind, Except.bind]
      split <;> simp [pure, Except.pure]

theorem read_of_unreadable {error : SystemError}
    (unreadable : Document.read tree path .toml = .error (.problem (.unreadable error))) :
    tree.read path = .error error := by
  unfold Document.read at unreadable
  split at unreadable
  · unfold Document.decode at unreadable
    split at unreadable
    · unfold Document.parse at unreadable
      dsimp only at unreadable
      split at unreadable <;> cases unreadable
    · cases unreadable
  · cases unreadable
    assumption

theorem fileEntries_of_unreadable {error : SystemError} (isFile : tree.isFile path = .ok true)
    (refused : tree.read path = .error error) :
    fileEntries tree (some path) = .error (.system error) := by
  have unreadable : Document.read tree path .toml = .error (.problem (.unreadable error)) := by
    rw [Document.read, refused]
  rw [fileEntries, isFile]
  dsimp only
  rw [readTable_eq_error_iff.mpr unreadable]

theorem fileEntries_of_fault {text : List Char} {fault : Fault}
    (isFile : tree.isFile path = .ok true) (content : tree.text? path = some text)
    (failed : Document.parse .toml text = .error (.faulty fault)) :
    fileEntries tree (some path) = .error (.faulty fault) := by
  have ended := readTable_eq_error_iff.mpr (Document.read_eq_faulty_iff.mpr ⟨text, content, failed⟩)
  rw [fileEntries, isFile]
  dsimp only
  rw [ended]

/-- A settings file that cannot be read is malformed, refuses to be read or ends in a fault. -/
theorem fileEntries_eq_error (isFile : tree.isFile path = .ok true)
    (failed : fileEntries tree (some path) = .error failure) :
    (∃ detail, failure = .malformed path detail) ∨
      (∃ error, tree.read path = .error error ∧ failure = .system error) ∨
      ∃ text fault, tree.text? path = some text ∧
        Document.parse .toml text = .error (.faulty fault) ∧ failure = .faulty fault := by
  rw [fileEntries, isFile] at failed
  dsimp only at failed
  cases read : readTable tree path with
  | ok entries =>
      rw [read] at failed
      cases failed
  | error reason =>
      rw [read] at failed
      rw [readTable_eq_error_iff] at read
      cases reason with
      | faulty fault =>
          cases failed
          obtain ⟨text, content, ended⟩ := Document.read_eq_faulty_iff.mp read
          exact .inr (.inr ⟨text, fault, content, ended, rfl⟩)
      | problem problem =>
          cases problem with
          | unreadable error =>
              cases failed
              exact .inr (.inl ⟨error, read_of_unreadable read, rfl⟩)
          | _ =>
              cases failed
              exact .inl ⟨_, rfl⟩

/-! ## Loading -/

theorem outcome_load :
    (load tree environment given start flags).outcome =
      (chooseFile tree environment given start).outcome.bind fun path =>
        (fileEntries tree path).bind fun file =>
          (ofSources path ⟨flags, environment, file⟩).mapError .invalid := by
  rw [load, Logged.outcome_bind]
  congr 1
  funext path
  rw [Logged.outcome_bind]
  rfl

/-- A chosen file that cannot be read disturbs loading unless it is malformed. -/
theorem disturbs_of_fileEntries {file : Option FilePath}
    (chosen : (chooseFile tree environment given start).outcome = .ok file)
    (failed : fileEntries tree file = .error failure) (hidden : ¬ failure.IsUserError) :
    Disturbs tree environment given start failure := by
  cases file with
  | none => cases failed
  | some path =>
      rcases fileEntries_eq_error (isFile_of_chosen chosen) failed with
        ⟨detail, rfl⟩ | ⟨error, refused, rfl⟩ | ⟨text, fault, content, ended, rfl⟩
      · exact absurd trivial hidden
      · exact .unreadable chosen refused
      · exact .fault chosen content ended

/-- Where settings are not loaded and the user is not told why, something disturbs it. -/
theorem disturbs_of_load
    (failed : (load tree environment given start flags).outcome = .error failure)
    (hidden : ¬ failure.IsUserError) : Disturbs tree environment given start failure := by
  rw [outcome_load] at failed
  cases chosen : (chooseFile tree environment given start).outcome with
  | error reason =>
      rw [chosen] at failed
      cases failed
      exact disturbs_of_chooseFile chosen hidden
  | ok path =>
      rw [chosen] at failed
      dsimp only [Except.bind] at failed
      cases read : fileEntries tree path with
      | error reason =>
          rw [read] at failed
          cases failed
          exact disturbs_of_fileEntries chosen read hidden
      | ok file =>
          rw [read] at failed
          dsimp only at failed
          cases made : ofSources path ⟨flags, environment, file⟩ with
          | ok settings =>
              rw [made] at failed
              cases failed
          | error problems =>
              rw [made] at failed
              cases failed
              exact absurd trivial hidden

theorem Disturbs.outcome_load (disturbs : Disturbs tree environment given start failure)
    (flags : List (String × Value)) :
    (load tree environment given start flags).outcome = .error failure := by
  rw [Settings.outcome_load]
  cases disturbs with
  | named named refused =>
      rcases chooseFile_cases_of_named tree start named with
        ⟨isFile, _⟩ | ⟨isFile, _⟩ | ⟨error, isFile, outcome⟩
      all_goals cases isFile.symm.trans refused
      rw [outcome]
      rfl
  | search unnamed first =>
      rw [outcome_chooseFile_of_unnamed unnamed, first.outcome_eq]
      rfl
  | unreadable chosen refused =>
      rw [chosen]
      dsimp only [Except.bind]
      rw [fileEntries_of_unreadable (isFile_of_chosen chosen) refused]
  | fault chosen content failed =>
      rw [chosen]
      dsimp only [Except.bind]
      rw [fileEntries_of_fault (isFile_of_chosen chosen) content failed]

theorem Disturbs.not_isUserError (disturbs : Disturbs tree environment given start failure) :
    ¬ failure.IsUserError := by
  cases disturbs with
  | search => exact DiscoveryFailure.not_isUserError _
  | _ => exact id

theorem lookup_of_refused {error : SystemError} (isFile : tree.isFile path = .ok true)
    (refused : tree.read path = .error error) :
    ∃ content, tree.lookup path = .ok (some (.file content (some error))) := by
  unfold FileTree.isFile at isFile
  unfold FileTree.read at refused
  cases found : tree.lookup path with
  | error problem =>
      rw [found] at isFile
      cases isFile
  | ok node =>
      rw [found] at isFile refused
      rcases node with _ | (_ | _ | ⟨content, _ | refusal⟩)
      · cases isFile
      · cases isFile
      · cases isFile
      · cases refused
      · cases refused
        exact ⟨content, rfl⟩

theorem EndsFirst.obstructs {here directory : FilePath} {reason : DiscoveryFailure}
    (first : EndsFirst tree here directory (.error reason)) :
    Obstructs tree directory (.error reason) := by
  obtain ⟨_, ⟨_, _, same⟩ | obstructs, _⟩ := first
  · cases same
  · exact obstructs

/-- The system disturbs only by a path that it refuses to look up or a file that refuses to be
read. -/
theorem Disturbs.system_reason {error : SystemError}
    (disturbs : Disturbs tree environment given start (.system error)) :
    (∃ path, tree.RefusesLookup path error) ∨
      ∃ path content, (chooseFile tree environment given start).outcome = .ok (some path) ∧
        tree.lookup path = .ok (some (.file content (some error))) := by
  generalize named : SettingsFailure.system error = failure at disturbs
  cases disturbs with
  | named _ refused =>
      cases named
      exact .inl ⟨_, FileTree.isFile_eq_error refused⟩
  | @search directory reason _ first =>
      cases reason with
      | faulty fault => cases named
      | system other =>
          cases named
          obtain ⟨name, tooLong⟩ := Obstructs.reason.1 error first.obstructs
          exact .inl ⟨_, tooLong⟩
  | unreadable chosen refused =>
      cases named
      obtain ⟨content, found⟩ := lookup_of_refused (isFile_of_chosen chosen) refused
      exact .inr ⟨_, content, chosen, found⟩
  | fault => cases named

/-- A fault disturbs only where an integer has too many digits. -/
theorem Disturbs.fault_reason {fault : Fault}
    (disturbs : Disturbs tree environment given start (.faulty fault)) :
    ∃ path text, tree.text? path = some text ∧ LongNumeral text fault := by
  generalize named : SettingsFailure.faulty fault = failure at disturbs
  cases disturbs with
  | named => cases named
  | @search directory reason _ first =>
      cases reason with
      | system error => cases named
      | faulty other =>
          cases named
          obtain ⟨text, long⟩ := Obstructs.reason.2 fault first.obstructs
          exact ⟨_, text, long⟩
  | unreadable => cases named
  | fault chosen content failed =>
      cases named
      exact ⟨_, _, content, Document.readerFault_of_parse_eq_faulty failed⟩

/-! ## Project files of other tools -/

/-- A directory has no settings file of its own, and a project file that cannot be read. -/
def HasBrokenProject (tree : FileTree) (directory : FilePath) : Prop :=
  tree.isFile (directory.child ownFileName) = .ok false ∧
    tree.isFile (directory.child projectFileName) = .ok true ∧
    ∃ problem, readToml tree (directory.child projectFileName) = .error (.problem problem)

/-- A directory has neither settings file. -/
def HasNoSettingsFile (tree : FileTree) (directory : FilePath) : Prop :=
  ∀ name ∈ [ownFileName, projectFileName], tree.isFile (directory.child name) = .ok false

/-- Two trees differ in a directory at most in a project file that cannot be read in the one and is
not there in the other. -/
def SameButBroken (tree other : FileTree) (directory : FilePath) : Prop :=
  SameSettingsFiles tree other directory ∨
    (HasBrokenProject tree directory ∧ HasNoSettingsFile other directory)

theorem HasBrokenProject.offer_eq {directory : FilePath}
    (broken : HasBrokenProject tree directory) : offer tree directory = .ok none := by
  obtain ⟨noOwn, isFile, _, failed⟩ := broken
  exact offer_of_broken noOwn isFile failed

theorem HasNoSettingsFile.offer_eq {directory : FilePath}
    (noFile : HasNoSettingsFile tree directory) : offer tree directory = .ok none := by
  rw [offer, noFile ownFileName (by simp)]
  dsimp only
  rw [noFile projectFileName (by simp)]

theorem SameButBroken.offer_eq {directory : FilePath} (same : SameButBroken tree other directory) :
    offer other directory = offer tree directory := by
  rcases same with same | ⟨broken, noFile⟩
  · exact same.offer_eq
  · rw [broken.offer_eq, noFile.offer_eq]

theorem fileEntries_congr (isFile : other.isFile path = tree.isFile path)
    (content : other.read path = tree.read path) :
    fileEntries other (some path) = fileEntries tree (some path) := by
  have table : readTable other path = readTable tree path := by
    rw [readTable, readTable, readToml, readToml, Document.read, Document.read, content]
  rw [fileEntries, fileEntries, isFile, table]

theorem fileEntries_of_sameButBroken (unnamed : namedFile? environment given = none)
    (same : ∀ directory, directory.IsAtOrAbove (searchStart tree start) →
      SameButBroken tree other directory) {file : Option FilePath}
    (chosen : (chooseFile tree environment given start).outcome = .ok file) :
    fileEntries other file = fileEntries tree file := by
  cases file with
  | none => rfl
  | some path =>
      rw [outcome_chooseFile_of_unnamed unnamed] at chosen
      rcases search_cases tree (searchStart tree start) with
        ⟨directory, ended, ⟨above, ends, _⟩, outcome⟩ | outcome
      · rw [outcome] at chosen
        cases ended with
        | error reason => cases chosen
        | ok file =>
            obtain rfl := Except.ok.inj chosen
            obtain ⟨_, name, member, rfl⟩ := ends.isFile
            rcases same directory above with sameFiles | ⟨broken, _⟩
            · obtain ⟨isFile, content⟩ := sameFiles name member
              exact fileEntries_congr isFile content
            · exact absurd ends (offer_eq_ok_none_iff.mp broken.offer_eq _)
      · rw [outcome] at chosen
        cases chosen

/-- Project files that cannot be read might as well not be there. -/
theorem outcome_load_of_sameButBroken (located : other.location = tree.location)
    (unnamed : namedFile? environment given = none)
    (same : ∀ directory, directory.IsAtOrAbove (searchStart tree start) →
      SameButBroken tree other directory) :
    (load other environment given start flags).outcome =
      (load tree environment given start flags).outcome := by
  have searched : (searchDirectories other (upward (searchStart tree start))).outcome =
      (searchDirectories tree (upward (searchStart tree start))).outcome :=
    outcome_upward_congr fun directory above _ => (same directory above).offer_eq
  have chosen : (chooseFile other environment given start).outcome =
      (chooseFile tree environment given start).outcome := by
    rw [outcome_chooseFile_of_unnamed unnamed, outcome_chooseFile_of_unnamed unnamed,
      searchStart_congr located, searched]
  rw [outcome_load, outcome_load, chosen]
  cases isChosen : (chooseFile tree environment given start).outcome with
  | error failure => rfl
  | ok path =>
      dsimp only [Except.bind]
      rw [fileEntries_of_sameButBroken unnamed same isChosen]

/-- Loading settings gives them or an error for the user exactly if nothing disturbs it, and what
disturbs it is how it fails: a path that the system refuses to look up, a settings file that refuses
to be read, or an integer of too many digits in a file that is read.  A project file that the search
meets and that cannot be read changes nothing.  Which values misfit their fields is up to the
readers of fields, and is an error for the user in any case. -/
theorem load_fails_only_by_user_error_iff (tree : FileTree) (environment : Environment)
    (given : Option String) (start : Option FilePath) (flags : List (String × Value)) :
    let outcome := (load tree environment given start flags).outcome
    (((∃ settings, outcome = .ok settings) ∨
        ∃ failure, outcome = .error failure ∧ failure.IsUserError) ↔
      ∀ failure, ¬ Disturbs tree environment given start failure) ∧
    (∀ failure, Disturbs tree environment given start failure → outcome = .error failure) ∧
    (∀ error, Disturbs tree environment given start (.system error) →
      (∃ path, tree.RefusesLookup path error) ∨
        ∃ path content, (chooseFile tree environment given start).outcome = .ok (some path) ∧
          tree.lookup path = .ok (some (.file content (some error)))) ∧
    (∀ fault, Disturbs tree environment given start (.faulty fault) →
      ∃ path text, tree.text? path = some text ∧ LongNumeral text fault) ∧
    ∀ other : FileTree, other.location = tree.location → namedFile? environment given = none →
      (∀ directory, directory.IsAtOrAbove (searchStart tree start) →
        SameButBroken tree other directory) →
      (load other environment given start flags).outcome = outcome := by
  intro outcome
  refine ⟨?_, fun failure disturbs => disturbs.outcome_load flags,
    fun error disturbs => disturbs.system_reason, fun fault disturbs => disturbs.fault_reason,
    fun other => outcome_load_of_sameButBroken⟩
  constructor
  · rintro answered failure disturbs
    have failed := disturbs.outcome_load flags
    rcases answered with ⟨settings, loaded⟩ | ⟨reason, refused, told⟩
    · cases loaded.symm.trans failed
    · cases refused.symm.trans failed
      exact disturbs.not_isUserError told
  · intro undisturbed
    cases ended : outcome with
    | ok settings => exact .inl ⟨settings, rfl⟩
    | error failure =>
        refine .inr ⟨failure, rfl, ?_⟩
        by_contra hidden
        exact undisturbed failure (disturbs_of_load ended hidden)

/-- A settings file that refuses to be read is no error for the user. -/
theorem load_of_refused_file_fails_otherwise :
    let refusal : SystemError := .numbered 13 "Permission denied" none
    let tree : FileTree := ⟨⟨"/", []⟩, [(["shapectl.toml"], .file [] (some refusal))]⟩
    let outcome := (load tree [] none none []).outcome
    outcome = .error (.system refusal) ∧
      ¬ ((∃ settings, outcome = .ok settings) ∨
        ∃ failure, outcome = .error failure ∧ failure.IsUserError) := by
  intro refusal tree outcome
  have chosen : (chooseFile tree [] none none).outcome = .ok (some ⟨"/", ["shapectl.toml"]⟩) :=
    outcome_chooseFile_of_own rfl (by decide)
  have failed : outcome = .error (.system refusal) :=
    (Disturbs.unreadable chosen rfl).outcome_load []
  refine ⟨failed, ?_⟩
  rw [failed]
  rintro (⟨settings, loaded⟩ | ⟨failure, refused, told⟩)
  · cases loaded
  · cases refused
    exact told

end Settings

end ClosedShape
