import ClosedShape.Proofs.DocumentLoading
import ClosedShape.Settings.Discovery

/-!
# What directories offer to the search for settings

Going up from a directory passes the directories at or above it, the nearer ones first.  A directory
carries settings in a file of their own, or else in a project file with a table for them.  It may
also be in the way of the search although it carries none: because a file cannot be looked up there
or its reading ends in a fault, or because something that is no table stands where the table would
be.
-/

namespace ClosedShape

namespace FilePath

variable {start directory near far : FilePath} {before after : List FilePath}

/-- A directory is the given one or one above it. -/
def IsAtOrAbove (directory start : FilePath) : Prop :=
  directory.root = start.root ∧ directory.names <+: start.names

/-- Of two directories at or above a start, one is nearer to it than the other. -/
def IsNearer (start near far : FilePath) : Prop :=
  near.IsAtOrAbove start ∧ far.IsAtOrAbove near ∧ near ≠ far

theorem IsAtOrAbove.antisymm (up : near.IsAtOrAbove far) (down : far.IsAtOrAbove near) :
    near = far := by
  obtain ⟨nearRoot, nearNames⟩ := near
  obtain ⟨farRoot, farNames⟩ := far
  obtain ⟨roots, upward⟩ := up
  obtain ⟨_, downward⟩ := down
  congr
  exact upward.eq_of_length (upward.length_le.antisymm downward.length_le)

theorem child_injective {name other : String} (same : near.child name = far.child other) :
    near = far ∧ name = other := by
  obtain ⟨nearRoot, nearNames⟩ := near
  obtain ⟨farRoot, farNames⟩ := far
  obtain ⟨rfl, names⟩ := FilePath.mk.inj same
  obtain ⟨rfl, last⟩ := List.append_inj' names rfl
  exact ⟨rfl, List.cons.inj last |>.1⟩

theorem name_child (directory : FilePath) (name : String) : (directory.child name).name = name := by
  simp [FilePath.name, child]

end FilePath

namespace Settings

open FilePath

variable {start directory near far : FilePath} {before after : List FilePath}

/-- Of two directories at or above a start, one is nearer unless they are the same. -/
theorem isNearer_or_isNearer {left right : FilePath} (leftAbove : left.IsAtOrAbove start)
    (rightAbove : right.IsAtOrAbove start) (differ : left ≠ right) :
    IsNearer start left right ∨ IsNearer start right left := by
  rcases List.prefix_or_prefix_of_prefix leftAbove.2 rightAbove.2 with up | down
  · exact .inr ⟨rightAbove, ⟨leftAbove.1.trans rightAbove.1.symm, up⟩, differ.symm⟩
  · exact .inl ⟨leftAbove, ⟨rightAbove.1.trans leftAbove.1.symm, down⟩, differ⟩

theorem not_isNearer_self (start near : FilePath) : ¬ IsNearer start near start := by
  rintro ⟨up, down, differs⟩
  exact differs (up.antisymm down)

/-- Going up from a directory passes exactly the directories at or above it. -/
theorem mem_upward_iff : directory ∈ upward start ↔ directory.IsAtOrAbove start := by
  obtain ⟨root, names⟩ := directory
  simp only [upward, List.mem_map, List.mem_range, FilePath.mk.injEq, IsAtOrAbove]
  constructor
  · rintro ⟨count, _, rfl, rfl⟩
    exact ⟨rfl, List.take_prefix _ _⟩
  · rintro ⟨rfl, within⟩
    refine ⟨start.names.length - names.length, by omega, rfl, ?_⟩
    have short := within.length_le
    rw [Nat.sub_sub_self short]
    exact (List.prefix_iff_eq_take.mp within).symm

/-- Going up passes nearer directories first. -/
theorem pairwise_upward (start : FilePath) :
    (upward start).Pairwise fun near far => far.IsAtOrAbove near ∧ near ≠ far := by
  rw [upward, List.pairwise_map]
  refine List.pairwise_lt_range.imp_of_mem fun {first second} _ inside later => ?_
  have bound : second < start.names.length + 1 := List.mem_range.mp inside
  refine ⟨⟨rfl, ?_⟩, fun same => ?_⟩
  · exact List.take_prefix_take_left (by omega)
  · have lengths := congrArg (fun path => path.names.length) same
    simp only [List.length_take] at lengths
    omega

theorem isAtOrAbove_of_split (split : upward start = before ++ directory :: after) :
    directory.IsAtOrAbove start := by
  apply mem_upward_iff.mp
  rw [split]
  exact List.mem_append_right _ List.mem_cons_self

/-- Exactly the nearer directories are passed before one. -/
theorem mem_before_iff (split : upward start = before ++ directory :: after) :
    near ∈ before ↔ IsNearer start near directory := by
  have ordered := pairwise_upward start
  rw [split, List.pairwise_append] at ordered
  obtain ⟨_, later, across⟩ := ordered
  constructor
  · intro member
    have above : near ∈ upward start := by
      rw [split]
      exact List.mem_append_left _ member
    obtain ⟨up, differs⟩ := across near member directory List.mem_cons_self
    exact ⟨mem_upward_iff.mp above, up, differs⟩
  · rintro ⟨above, up, differs⟩
    have somewhere : near ∈ before ++ directory :: after := by
      rw [← split]
      exact mem_upward_iff.mpr above
    rcases List.mem_append.mp somewhere with first | rest
    · exact first
    · rcases List.mem_cons.mp rest with rfl | beyond
      · exact absurd rfl differs
      · have down := (List.rel_of_pairwise_cons later beyond).1
        exact absurd (down.antisymm up) differs

/-! ## What a directory offers -/

/-- The settings in a project file: a table for this tool among those for tools. -/
def HasTable (tree : FileTree) (file : FilePath) (table : List (Value × Value)) : Prop :=
  ∃ entries tools, readToml tree file = .ok entries ∧
    (Value.lookupText entries toolTable).mappingEntries? = some tools ∧
    (Value.lookupText tools ownTable).mappingEntries? = some table

/-- A directory carries settings in a file of their own, or else in a project file that can be read
and has a table for them. -/
inductive Carries (tree : FileTree) (directory : FilePath) : FilePath → Prop
  | own (isFile : tree.isFile (directory.child ownFileName) = .ok true) :
      Carries tree directory (directory.child ownFileName)
  | project {table : List (Value × Value)}
      (noOwn : tree.isFile (directory.child ownFileName) = .ok false)
      (isFile : tree.isFile (directory.child projectFileName) = .ok true)
      (hasTable : HasTable tree (directory.child projectFileName) table) :
      Carries tree directory (directory.child projectFileName)

/-- A directory ends the search in some way although it carries no settings: one of the two names
cannot be looked up there, reading its project file ends in a fault, or something that is no table
stands there in place of the settings. -/
inductive Obstructs (tree : FileTree) (directory : FilePath) :
    Except DiscoveryFailure (Option FilePath) → Prop
  | ownRefused {error : SystemError}
      (refused : tree.isFile (directory.child ownFileName) = .error error) :
      Obstructs tree directory (.error (.system error))
  | projectRefused {error : SystemError}
      (noOwn : tree.isFile (directory.child ownFileName) = .ok false)
      (refused : tree.isFile (directory.child projectFileName) = .error error) :
      Obstructs tree directory (.error (.system error))
  | fault {fault : Fault} (noOwn : tree.isFile (directory.child ownFileName) = .ok false)
      (isFile : tree.isFile (directory.child projectFileName) = .ok true)
      (failed : readToml tree (directory.child projectFileName) = .error (.faulty fault)) :
      Obstructs tree directory (.error (.faulty fault))
  | noTable {entries tools : List (Value × Value)}
      (noOwn : tree.isFile (directory.child ownFileName) = .ok false)
      (isFile : tree.isFile (directory.child projectFileName) = .ok true)
      (read : readToml tree (directory.child projectFileName) = .ok entries)
      (found : (Value.lookupText entries toolTable).mappingEntries? = some tools)
      (present : Value.lookupText tools ownTable ≠ .absent)
      (noTable : (Value.lookupText tools ownTable).mappingEntries? = none) :
      Obstructs tree directory (.ok (some (directory.child projectFileName)))

/-- What a directory has for the search. -/
def offer (tree : FileTree) (directory : FilePath) : Except DiscoveryFailure (Option FilePath) :=
  match tree.isFile (directory.child ownFileName) with
  | .error error => .error (.system error)
  | .ok true => .ok (some (directory.child ownFileName))
  | .ok false =>
      match tree.isFile (directory.child projectFileName) with
      | .error error => .error (.system error)
      | .ok false => .ok none
      | .ok true =>
          match readToml tree (directory.child projectFileName) with
          | .ok entries =>
              if declaresSettings entries then .ok (some (directory.child projectFileName))
              else .ok none
          | .error (.problem _) => .ok none
          | .error (.faulty fault) => .error (.faulty fault)

variable {tree other : FileTree} {file : FilePath} {table : List (Value × Value)}
  {ended : Except DiscoveryFailure (Option FilePath)}

theorem declaresSettings_eq_true_iff {entries : List (Value × Value)} :
    declaresSettings entries = true ↔
      ∃ tools, (Value.lookupText entries toolTable).mappingEntries? = some tools ∧
        Value.lookupText tools ownTable ≠ .absent := by
  rw [declaresSettings, tableEntries]
  cases (Value.lookupText entries toolTable).mappingEntries? with
  | none => simp [Value.lookupText, Value.isAbsent]
  | some tools => cases found : Value.lookupText tools ownTable <;> simp [Value.isAbsent, found]

theorem HasTable.declaresSettings {entries : List (Value × Value)}
    (hasTable : HasTable tree file table) (read : readToml tree file = .ok entries) :
    declaresSettings entries = true := by
  obtain ⟨_, tools, readToo, found, isTable⟩ := hasTable
  obtain rfl := Except.ok.inj (read.symm.trans readToo)
  refine declaresSettings_eq_true_iff.mpr ⟨tools, found, fun absent => ?_⟩
  rw [absent] at isTable
  cases isTable

/-- The settings that are read from a project file are its table. -/
theorem HasTable.readTable (hasTable : HasTable tree file table)
    (named : file.name = projectFileName) : readTable tree file = .ok table := by
  obtain ⟨entries, tools, read, found, isTable⟩ := hasTable
  rw [Settings.readTable, read]
  dsimp only [bind, Except.bind]
  rw [if_pos named, tableEntries, tableEntries, found, Option.getD_some, isTable]
  rfl

theorem Carries.offer_eq (carries : Carries tree directory file) :
    offer tree directory = .ok (some file) := by
  cases carries with
  | own isFile => rw [offer, isFile]
  | project noOwn isFile hasTable =>
      obtain ⟨entries, _, read, _⟩ := id hasTable
      rw [offer, noOwn]
      dsimp only
      rw [isFile, read]
      dsimp only
      rw [if_pos (hasTable.declaresSettings read)]

theorem Obstructs.offer_eq (obstructs : Obstructs tree directory ended) :
    offer tree directory = ended := by
  cases obstructs with
  | ownRefused refused => rw [offer, refused]
  | projectRefused noOwn refused =>
      rw [offer, noOwn]
      dsimp only
      rw [refused]
  | fault noOwn isFile failed =>
      rw [offer, noOwn]
      dsimp only
      rw [isFile, failed]
  | noTable noOwn isFile read found present _ =>
      rw [offer, noOwn]
      dsimp only
      rw [isFile, read]
      dsimp only
      rw [if_pos (declaresSettings_eq_true_iff.mpr ⟨_, found, present⟩)]

theorem Obstructs.ne_ok_none (obstructs : Obstructs tree directory ended) : ended ≠ .ok none := by
  cases obstructs <;> nofun

theorem Carries.not_obstructs (carries : Carries tree directory file) :
    ¬ Obstructs tree directory ended := by
  intro obstructs
  cases carries with
  | own isFile => cases obstructs <;> simp_all
  | project noOwn isFile hasTable =>
      obtain ⟨entries, tools, read, found, isTable⟩ := hasTable
      cases obstructs <;> simp_all

/-- A directory offers nothing, or it carries settings, or it obstructs the search. -/
theorem offer_cases (offers : offer tree directory = ended) :
    ended = .ok none ∨ (∃ file, Carries tree directory file ∧ ended = .ok (some file)) ∨
      Obstructs tree directory ended := by
  unfold offer at offers
  split at offers <;> rename_i own
  · subst offers
    exact .inr (.inr (.ownRefused own))
  · exact .inr (.inl ⟨_, .own own, offers.symm⟩)
  · split at offers <;> rename_i project
    · subst offers
      exact .inr (.inr (.projectRefused own project))
    · exact .inl offers.symm
    · split at offers
      · rename_i entries read
        split at offers
        · rename_i declares
          obtain ⟨tools, found, present⟩ := declaresSettings_eq_true_iff.mp declares
          cases isTable : (Value.lookupText tools ownTable).mappingEntries? with
          | none =>
              subst offers
              exact .inr (.inr (.noTable own project read found present isTable))
          | some table =>
              have hasTable : HasTable tree _ table := ⟨entries, tools, read, found, isTable⟩
              exact .inr (.inl ⟨_, .project own project hasTable, offers.symm⟩)
        · exact .inl offers.symm
      · exact .inl offers.symm
      · rename_i failed
        subst offers
        exact .inr (.inr (.fault own project failed))

/-- A project file that cannot be read as a document is passed over. -/
theorem offer_of_broken {problem : DocumentProblem}
    (noOwn : tree.isFile (directory.child ownFileName) = .ok false)
    (isFile : tree.isFile (directory.child projectFileName) = .ok true)
    (broken : readToml tree (directory.child projectFileName) = .error (.problem problem)) :
    offer tree directory = .ok none := by
  rw [offer, noOwn]
  dsimp only
  rw [isFile, broken]

theorem readToml_eq_error_iff {failure : Document.DecodeFailure} :
    readToml tree file = .error failure ↔ Document.read tree file .toml = .error failure := by
  unfold readToml
  cases Document.read tree file .toml <;> simp [bind, Except.bind, pure, Except.pure]

theorem readToml_of_plainLines {text : String} (plain : Json.PlainLines text.toList)
    (content : tree.read file = .ok text.toUTF8.data.toList) :
    readToml tree file =
      (Document.parse .toml text.toList).map fun value => value.mappingEntries?.getD [] := by
  rw [readToml, Document.read, content]
  dsimp only
  rw [decode_of_plainLines plain]
  cases Document.parse .toml text.toList <;> rfl

theorem readToml_of_text {text : String} {entries : List (Value × Value)}
    (plain : Json.PlainLines text.toList) (content : tree.read file = .ok text.toUTF8.data.toList)
    (parsed : Toml.read text.toList = .ok (.object entries)) :
    readToml tree file = .ok entries := by
  rw [readToml_of_plainLines plain content, Document.parse, parsed]
  rfl

theorem ownFileName_ne_projectFileName : ownFileName ≠ projectFileName := by decide

/-- What a directory is obstructed by is no file that another one carries. -/
theorem Obstructs.not_carries {directory carrier : FilePath}
    (obstructs : Obstructs tree directory (.ok (some file))) : ¬ Carries tree carrier file := by
  intro carries
  cases id obstructs with
  | noTable =>
      generalize named : directory.child projectFileName = path at carries
      cases id carries with
      | own => exact ownFileName_ne_projectFileName (child_injective named).2.symm
      | project =>
          obtain ⟨rfl, _⟩ := child_injective named
          rw [← named] at carries
          exact carries.not_obstructs obstructs

/-- Why a name cannot be looked up, and why a project file cannot be read to its end. -/
theorem Obstructs.reason {directory : FilePath} :
    (∀ error, Obstructs tree directory (.error (.system error)) →
        ∃ name, tree.RefusesLookup (directory.child name) error) ∧
      ∀ fault, Obstructs tree directory (.error (.faulty fault)) →
        ∃ text, tree.text? (directory.child projectFileName) = some text ∧
          LongNumeral text fault := by
  constructor
  · intro error obstructs
    cases obstructs with
    | ownRefused refused => exact ⟨_, FileTree.isFile_eq_error refused⟩
    | projectRefused _ refused => exact ⟨_, FileTree.isFile_eq_error refused⟩
  · intro fault obstructs
    cases obstructs with
    | fault _ _ failed =>
        obtain ⟨text, content, parsed⟩ :=
          Document.read_eq_faulty_iff.mp (readToml_eq_error_iff.mp failed)
        exact ⟨text, content, Document.readerFault_of_parse_eq_faulty parsed⟩

/-! ## How a directory ends the search -/

/-- A directory ends the search in some way. -/
def Ends (tree : FileTree) (directory : FilePath)
    (ended : Except DiscoveryFailure (Option FilePath)) : Prop :=
  (∃ file, Carries tree directory file ∧ ended = .ok (some file)) ∨ Obstructs tree directory ended

theorem ends_iff : Ends tree directory ended ↔ offer tree directory = ended ∧ ended ≠ .ok none := by
  constructor
  · rintro (⟨file, carries, rfl⟩ | obstructs)
    · exact ⟨carries.offer_eq, nofun⟩
    · exact ⟨obstructs.offer_eq, obstructs.ne_ok_none⟩
  · rintro ⟨offers, something⟩
    exact (offer_cases offers).resolve_left something

theorem offer_eq_ok_none_iff :
    offer tree directory = .ok none ↔ ∀ ended, ¬ Ends tree directory ended := by
  constructor
  · intro nothing ended ends
    obtain ⟨offers, something⟩ := ends_iff.mp ends
    exact something (offers.symm.trans nothing)
  · intro never
    by_contra something
    exact never _ (ends_iff.mpr ⟨rfl, something⟩)

theorem Ends.of_carries (carries : Carries tree directory file) :
    Ends tree directory (.ok (some file)) :=
  .inl ⟨file, carries, rfl⟩

/-- Two trees have the same settings files in a directory. -/
def SameSettingsFiles (tree other : FileTree) (directory : FilePath) : Prop :=
  ∀ name ∈ [ownFileName, projectFileName],
    other.isFile (directory.child name) = tree.isFile (directory.child name) ∧
      other.read (directory.child name) = tree.read (directory.child name)

theorem SameSettingsFiles.offer_eq (same : SameSettingsFiles tree other directory) :
    offer other directory = offer tree directory := by
  obtain ⟨own, _⟩ := same ownFileName (by simp)
  obtain ⟨project, content⟩ := same projectFileName (by simp)
  have read : readToml other (directory.child projectFileName) =
      readToml tree (directory.child projectFileName) := by
    rw [readToml, readToml, Document.read, Document.read, content]
  rw [offer, offer, own, project, read]

end Settings

end ClosedShape
