import ClosedShape.Proofs.CheckOutcome
import ClosedShape.Proofs.SettingsOffer
import Mathlib

/-!
# The search for settings

The search goes up from a directory and ends at the first one that offers anything.  That is the
nearest directory that carries settings, unless one that does not comes first and is in the way.
-/

namespace ClosedShape.Settings

open FilePath

variable {tree other : FileTree} {start directory near file : FilePath}
  {directories rest : List FilePath} {ended : Except DiscoveryFailure (Option FilePath)}

theorem outcome_isOwnProject (tree : FileTree) (path : FilePath) :
    (isOwnProject tree path).outcome =
      match tree.isFile path with
      | .error error => .error (.system error)
      | .ok false => .ok false
      | .ok true =>
          match readToml tree path with
          | .ok entries => .ok (declaresSettings entries)
          | .error (.problem _) => .ok false
          | .error (.faulty fault) => .error (.faulty fault) := by
  rw [isOwnProject, Logged.outcome_bind, isFile, Logged.outcome_ofExcept]
  rcases tree.isFile path with error | _ | _
  · rfl
  · rfl
  · rcases readToml tree path with (problem | fault) | entries
    all_goals rfl

theorem outcome_searchDirectories_cons :
    (searchDirectories tree (directory :: rest)).outcome =
      match offer tree directory with
      | .ok none => (searchDirectories tree rest).outcome
      | ended => ended := by
  rw [searchDirectories, Logged.outcome_bind, isFile, Logged.outcome_ofExcept, offer]
  rcases tree.isFile (directory.child ownFileName) with error | _ | _
  · rfl
  · change (isOwnProject tree (directory.child projectFileName) >>= _).outcome = _
    rw [Logged.outcome_bind, outcome_isOwnProject]
    rcases tree.isFile (directory.child projectFileName) with error | _ | _
    · rfl
    · rfl
    · rcases readToml tree (directory.child projectFileName) with (problem | fault) | entries
      · rfl
      · rfl
      · dsimp only [Except.bind]
        cases declaresSettings entries <;> rfl
  · rfl

/-- The search ends at the first directory that offers anything. -/
theorem outcome_searchDirectories_of_split {before after : List FilePath}
    (passed : ∀ near ∈ before, offer tree near = .ok none)
    (offers : offer tree directory = ended) (ends : ended ≠ .ok none) :
    (searchDirectories tree (before ++ directory :: after)).outcome = ended := by
  induction before with
  | nil =>
      rw [List.nil_append, outcome_searchDirectories_cons, offers]
      split
      · exact absurd rfl ends
      · rfl
  | cons near before ih =>
      obtain ⟨first, others⟩ := List.forall_mem_cons.mp passed
      rw [List.cons_append, outcome_searchDirectories_cons, first]
      exact ih others

theorem outcome_searchDirectories_of_forall
    (passed : ∀ directory ∈ directories, offer tree directory = .ok none) :
    (searchDirectories tree directories).outcome = .ok none := by
  induction directories with
  | nil => rfl
  | cons directory rest ih =>
      obtain ⟨first, others⟩ := List.forall_mem_cons.mp passed
      rw [outcome_searchDirectories_cons, first]
      exact ih others

theorem exists_first_offer (tree : FileTree) (directories : List FilePath) :
    (∀ directory ∈ directories, offer tree directory = .ok none) ∨
      ∃ before directory after, directories = before ++ directory :: after ∧
        (∀ near ∈ before, offer tree near = .ok none) ∧ offer tree directory ≠ .ok none := by
  induction directories with
  | nil => exact .inl nofun
  | cons directory rest ih =>
      by_cases passed : offer tree directory = .ok none
      · rcases ih with none | ⟨before, found, after, rfl, earlier, offers⟩
        · exact .inl (List.forall_mem_cons.mpr ⟨passed, none⟩)
        · exact .inr ⟨directory :: before, found, after, rfl,
            List.forall_mem_cons.mpr ⟨passed, earlier⟩, offers⟩
      · exact .inr ⟨[], directory, rest, rfl, nofun, passed⟩

/-- The outcome of the search depends on a directory only if no nearer one offers anything. -/
theorem outcome_searchDirectories_congr
    (same : ∀ before directory after, directories = before ++ directory :: after →
      (∀ near ∈ before, offer tree near = .ok none) →
        offer other directory = offer tree directory) :
    (searchDirectories other directories).outcome =
      (searchDirectories tree directories).outcome := by
  induction directories with
  | nil => rfl
  | cons directory rest ih =>
      rw [outcome_searchDirectories_cons, outcome_searchDirectories_cons,
        same [] directory rest rfl nofun]
      cases offers : offer tree directory with
      | error failure => rfl
      | ok file =>
          cases file with
          | some file => rfl
          | none =>
              refine ih fun before far after split passed => ?_
              refine same (directory :: before) far after (by rw [split]; rfl) ?_
              exact List.forall_mem_cons.mpr ⟨offers, passed⟩

/-! ## Upwards -/

/-- The directory ends the search from a start in some way, and no nearer one ends it. -/
def EndsFirst (tree : FileTree) (start directory : FilePath)
    (ended : Except DiscoveryFailure (Option FilePath)) : Prop :=
  directory.IsAtOrAbove start ∧ Ends tree directory ended ∧
    ∀ near, IsNearer start near directory → ∀ other, ¬ Ends tree near other

theorem EndsFirst.outcome_eq (first : EndsFirst tree start directory ended) :
    (searchDirectories tree (upward start)).outcome = ended := by
  obtain ⟨above, ends, nearer⟩ := first
  obtain ⟨offers, something⟩ := ends_iff.mp ends
  obtain ⟨before, after, split⟩ := List.append_of_mem (mem_upward_iff.mpr above)
  rw [split]
  refine outcome_searchDirectories_of_split (fun near member => ?_) offers something
  exact offer_eq_ok_none_iff.mpr (nearer near ((mem_before_iff split).mp member))

/-- Going up from a start, some directory is the first to end the search, or none ends it. -/
theorem exists_endsFirst (tree : FileTree) (start : FilePath) :
    (∃ directory ended, EndsFirst tree start directory ended) ∨
      ∀ directory, directory.IsAtOrAbove start → ∀ ended, ¬ Ends tree directory ended := by
  rcases exists_first_offer tree (upward start) with
    none | ⟨before, directory, after, split, earlier, offers⟩
  · refine .inr fun directory above => offer_eq_ok_none_iff.mp ?_
    exact none directory (mem_upward_iff.mpr above)
  · refine .inl ⟨directory, _, isAtOrAbove_of_split split, ends_iff.mpr ⟨rfl, offers⟩, ?_⟩
    intro near isNear
    exact offer_eq_ok_none_iff.mp (earlier near ((mem_before_iff split).mpr isNear))

/-- Nothing but what is at or above the start, up to the first directory that ends the search, has
an influence on it. -/
theorem outcome_upward_congr
    (same : ∀ directory, directory.IsAtOrAbove start →
      (∀ near, IsNearer start near directory → ∀ ended, ¬ Ends tree near ended) →
        offer other directory = offer tree directory) :
    (searchDirectories other (upward start)).outcome =
      (searchDirectories tree (upward start)).outcome := by
  refine outcome_searchDirectories_congr fun before directory after split passed => ?_
  refine same directory (isAtOrAbove_of_split split) fun near isNear => ?_
  exact offer_eq_ok_none_iff.mp (passed near ((mem_before_iff split).mpr isNear))

theorem outcome_eq_ok_none
    (never : ∀ directory, directory.IsAtOrAbove start → ∀ ended, ¬ Ends tree directory ended) :
    (searchDirectories tree (upward start)).outcome = .ok none :=
  outcome_searchDirectories_of_forall fun directory member =>
    offer_eq_ok_none_iff.mpr (never directory (mem_upward_iff.mp member))

/-! ## The nearest settings -/

/-- The answer that follows from the settings alone: the file of the nearest directory that carries
any, or none if no directory at or above the start does. -/
def IsNearestCarried (tree : FileTree) (start : FilePath) : Option FilePath → Prop
  | some file =>
      ∃ directory, directory.IsAtOrAbove start ∧ Carries tree directory file ∧
        ∀ near, IsNearer start near directory → ∀ other, ¬ Carries tree near other
  | none => ∀ directory, directory.IsAtOrAbove start → ∀ file, ¬ Carries tree directory file

/-- The search gives the nearest settings exactly if every directory that obstructs it has a nearer
one with settings. -/
theorem search_isNearestCarried_iff :
    (∃ answer, (searchDirectories tree (upward start)).outcome = .ok answer ∧
        IsNearestCarried tree start answer) ↔
      ∀ directory ended, directory.IsAtOrAbove start → Obstructs tree directory ended →
        ∃ near file, IsNearer start near directory ∧ Carries tree near file := by
  rcases exists_endsFirst tree start with ⟨first, ended, isFirst⟩ | never
  · rw [isFirst.outcome_eq]
    obtain ⟨above, ends, nearer⟩ := isFirst
    constructor
    · rintro ⟨answer, rfl, nearest⟩ directory other otherAbove obstructs
      rcases ends with ⟨file, carries, same⟩ | firstObstructs
      · have differ : first ≠ directory := by
          rintro rfl
          exact carries.not_obstructs obstructs
        rcases isNearer_or_isNearer above otherAbove differ with near | far
        · exact ⟨first, file, near, carries⟩
        · exact absurd (.inr obstructs) (nearer directory far other)
      · cases answer with
        | none => exact absurd rfl firstObstructs.ne_ok_none
        | some file =>
            obtain ⟨carrier, _, carries, _⟩ := nearest
            exact absurd carries firstObstructs.not_carries
    · intro unobstructed
      rcases ends with ⟨file, carries, rfl⟩ | obstructs
      · refine ⟨some file, rfl, first, above, carries, fun near isNear other otherCarries => ?_⟩
        exact nearer near isNear _ (.of_carries otherCarries)
      · obtain ⟨near, file, isNear, carries⟩ := unobstructed first ended above obstructs
        exact absurd (.of_carries carries) (nearer near isNear _)
  · rw [outcome_eq_ok_none never]
    constructor
    · rintro _ directory ended above obstructs
      exact absurd (.inr obstructs) (never directory above ended)
    · rintro _
      refine ⟨none, rfl, fun directory above file carries => ?_⟩
      exact never directory above _ (.of_carries carries)

/-- The directory where the search for settings starts. -/
def searchStart (tree : FileTree) (start : Option FilePath) : FilePath :=
  tree.resolve (start.getD ⟨"", []⟩)

/-- Trees that lie in one place have the same start of a search. -/
theorem searchStart_congr (located : other.location = tree.location) (start : Option FilePath) :
    searchStart other start = searchStart tree start := by
  rw [searchStart, searchStart, FileTree.resolve, FileTree.resolve, located]

theorem findFile_of_unnamed {environment : Environment} (tree : FileTree)
    (unnamed : environment.find? fileVariable = none ∨ environment.find? fileVariable = some "")
    (start : Option FilePath) :
    findFile tree environment start =
      searchDirectories tree (upward (searchStart tree start)) := by
  have noName : (environment.find? fileVariable).filter (fun name => !name.isEmpty) = none := by
    rcases unnamed with unset | empty
    · rw [unset]
      rfl
    · rw [empty]
      rfl
  rw [findFile, noName]
  rfl

/-- Unless the environment names a file, the search gives the nearest settings exactly if whatever
is in its way has settings nearer to the start; and what is first in its way decides how it ends.
Directories behind the first one that ends the search have no influence, the table of a project file
is read as it is, and there are two reasons why the search can fail: the system refuses to look up
a settings file, or a project file holds an integer of too many digits. -/
theorem search_finds_nearest_settings_iff {environment : Environment} (tree : FileTree)
    (unnamed : environment.find? fileVariable = none ∨ environment.find? fileVariable = some "")
    (start : Option FilePath) :
    let here := searchStart tree start
    let outcome := (findFile tree environment start).outcome
    ((∃ answer, outcome = .ok answer ∧ IsNearestCarried tree here answer) ↔
        ∀ directory ended, directory.IsAtOrAbove here → Obstructs tree directory ended →
          ∃ near file, IsNearer here near directory ∧ Carries tree near file) ∧
      (∀ directory ended, EndsFirst tree here directory ended → outcome = ended) ∧
      (∀ other : FileTree, other.location = tree.location →
        (∀ directory, directory.IsAtOrAbove here →
          (∀ near, IsNearer here near directory → ∀ ended, ¬ Ends tree near ended) →
            SameSettingsFiles tree other directory) →
        (findFile other environment start).outcome = outcome) ∧
      ∀ directory,
        (∀ table, HasTable tree (directory.child projectFileName) table →
          readTable tree (directory.child projectFileName) = .ok table) ∧
        (∀ error, Obstructs tree directory (.error (.system error)) →
          ∃ name, tree.RefusesLookup (directory.child name) error) ∧
        ∀ fault, Obstructs tree directory (.error (.faulty fault)) →
          ∃ text, tree.text? (directory.child projectFileName) = some text ∧
            LongNumeral text fault := by
  intro here outcome
  have searched : outcome = (searchDirectories tree (upward here)).outcome :=
    congrArg Logged.outcome (findFile_of_unnamed tree unnamed start)
  refine ⟨?_, fun directory ended first => ?_, fun other located same => ?_, fun directory => ?_⟩
  · rw [searched]
    exact search_isNearestCarried_iff
  · rw [searched]
    exact first.outcome_eq
  · rw [findFile_of_unnamed other unnamed, searchStart_congr located, searched]
    exact outcome_upward_congr fun directory above first => (same directory above first).offer_eq
  · exact ⟨fun table hasTable => hasTable.readTable (name_child _ _), Obstructs.reason⟩

theorem search_finds_table_above_broken_project :
    let project := fun text : String => FileNode.file text.toUTF8.data.toList none
    let tree : FileTree := ⟨⟨"/", ["work"]⟩,
      [(["work", "a", "b", "pyproject.toml"], project "[tool.shapectl"),
        (["work", "a", "pyproject.toml"], project "[tool.shapectl]\nquiet = true"),
        (["work", "shapectl.toml"], project "")]⟩
    let environment : Environment := [("SHAPECTL_CONFIG", "a.toml"), ("SHAPECTL_CONFIG", "")]
    let outcome := (findFile tree environment (some ⟨"", ["a", "b"]⟩)).outcome
    environment.find? fileVariable = some "" ∧
      outcome = .ok (some ⟨"/", ["work", "a", "pyproject.toml"]⟩) ∧
      ∃ answer, outcome = .ok answer ∧ IsNearestCarried tree ⟨"/", ["work", "a", "b"]⟩ answer := by
  intro project tree environment outcome
  have empty : environment.find? fileVariable = some "" := by decide
  have passed : offer tree ⟨"/", ["work", "a", "b"]⟩ = .ok none := by
    have content : tree.read ⟨"/", ["work", "a", "b", "pyproject.toml"]⟩ =
        .ok "[tool.shapectl".toUTF8.data.toList := rfl
    have refused : Toml.read "[tool.shapectl".toList = .error (.malformed .bracketExpected 0) := by
      cbv
    have read := readToml_of_plainLines (Json.plainLines_of_all (by decide)) content
    rw [Document.parse, refused] at read
    exact offer_of_broken (by decide) (by decide) read
  have carries : Carries tree ⟨"/", ["work", "a"]⟩ ⟨"/", ["work", "a", "pyproject.toml"]⟩ := by
    have content : tree.read ⟨"/", ["work", "a", "pyproject.toml"]⟩ =
        .ok "[tool.shapectl]\nquiet = true".toUTF8.data.toList := rfl
    have parsed : Toml.read "[tool.shapectl]\nquiet = true".toList = .ok (.object [(.text "tool",
        .object [(.text "shapectl", .object [(.text "quiet", .bool true)])])]) := by
      cbv
    have read := readToml_of_text (Json.plainLines_of_all (by decide)) content parsed
    exact .project (by decide) (by decide) ⟨_, _, read, rfl, rfl⟩
  have above : IsAtOrAbove ⟨"/", ["work", "a"]⟩ ⟨"/", ["work", "a", "b"]⟩ := ⟨rfl, by decide⟩
  have split : upward ⟨"/", ["work", "a", "b"]⟩ =
      [⟨"/", ["work", "a", "b"]⟩] ++ ⟨"/", ["work", "a"]⟩ :: [⟨"/", ["work"]⟩, ⟨"/", []⟩] := rfl
  have nothingNearer (near : FilePath) (isNear : IsNearer ⟨"/", ["work", "a", "b"]⟩ near
      ⟨"/", ["work", "a"]⟩) : ∀ ended, ¬ Ends tree near ended := by
    obtain rfl := List.mem_singleton.mp ((mem_before_iff split).mpr isNear)
    exact offer_eq_ok_none_iff.mp passed
  obtain ⟨nearest, ends, _⟩ := search_finds_nearest_settings_iff tree (.inr empty)
    (some ⟨"", ["a", "b"]⟩)
  refine ⟨empty, ends _ _ ⟨above, .of_carries carries, nothingNearer⟩, nearest.mpr ?_⟩
  intro directory ended otherAbove obstructs
  have differ : ⟨"/", ["work", "a"]⟩ ≠ directory := by
    rintro rfl
    exact carries.not_obstructs obstructs
  rcases isNearer_or_isNearer above otherAbove differ with near | far
  · exact ⟨_, _, near, carries⟩
  · exact absurd (.inr obstructs) (nothingNearer directory far ended)

/-- A project file where a number stands in place of the settings ends the search, although it
carries none and the directory above does. -/
theorem search_ends_at_project_without_table :
    let tree : FileTree := ⟨⟨"/", ["work"]⟩,
      [(["work", "proj", "pyproject.toml"],
          .file "[tool]\nshapectl = 5\n".toUTF8.data.toList none),
        (["work", "shapectl.toml"], .file [] none)]⟩
    let here : FilePath := ⟨"/", ["work", "proj"]⟩
    let outcome := (findFile tree [] (some ⟨"", ["proj"]⟩)).outcome
    outcome = .ok (some ⟨"/", ["work", "proj", "pyproject.toml"]⟩) ∧
      IsNearestCarried tree here (some ⟨"/", ["work", "shapectl.toml"]⟩) ∧
      ¬ ∃ answer, outcome = .ok answer ∧ IsNearestCarried tree here answer := by
  intro tree here outcome
  have obstructs : Obstructs tree here (.ok (some ⟨"/", ["work", "proj", "pyproject.toml"]⟩)) := by
    have content : tree.read ⟨"/", ["work", "proj", "pyproject.toml"]⟩ =
        .ok "[tool]\nshapectl = 5\n".toUTF8.data.toList := rfl
    have parsed : Toml.read "[tool]\nshapectl = 5\n".toList =
        .ok (.object [(.text "tool", .object [(.text "shapectl", .int 5)])]) := by
      cbv
    have read := readToml_of_text (Json.plainLines_of_all (by decide)) content parsed
    exact .noTable (by decide) (by decide) read rfl (by rintro ⟨⟩) rfl
  have searched : outcome = (searchDirectories tree (upward here)).outcome :=
    congrArg Logged.outcome (findFile_of_unnamed tree (.inl rfl) _)
  have first : EndsFirst tree here here _ :=
    ⟨⟨rfl, List.prefix_rfl⟩, .inr obstructs,
      fun near isNear => absurd isNear (not_isNearer_self here near)⟩
  refine ⟨searched.trans first.outcome_eq, ?_, ?_⟩
  · refine ⟨⟨"/", ["work"]⟩, ⟨rfl, by decide⟩, .own (by decide), ?_⟩
    intro near isNear other carries
    have split : upward here = [here] ++ ⟨"/", ["work"]⟩ :: [⟨"/", []⟩] := rfl
    obtain rfl := List.mem_singleton.mp ((mem_before_iff split).mpr isNear)
    exact carries.not_obstructs obstructs
  · rw [searched, search_isNearestCarried_iff]
    intro unobstructed
    obtain ⟨near, file, isNear, _⟩ := unobstructed here _ ⟨rfl, List.prefix_rfl⟩ obstructs
    exact not_isNearer_self here near isNear

end ClosedShape.Settings
