import ClosedShape.Proofs.LongTomlNumeral
import ClosedShape.Proofs.ReportRoundTrip
import ClosedShape.Proofs.YamlNodeFault

/-!
# Loading documents

Loading a document gives its value or an error that names the file, whatever the file is like, but
for two things that nothing turns into such an error: a file name that the system refuses to look
up, because it is too long or leads through a closed directory, and a fault of the reader that
decodes the text.
-/

namespace ClosedShape

namespace FileTree

variable {tree : FileTree} {path : FilePath} {here names : List String} {error : SystemError}
  {bytes : List UInt8}

/-- The text of a file that can be read and decoded. -/
def text? (tree : FileTree) (path : FilePath) : Option (List Char) :=
  match tree.read path with
  | .ok bytes =>
      match Text.decodeUtf8 bytes with
      | .ok chars => some (Text.unifyNewlines chars)
      | .error _ => none
  | .error _ => none

/-- The path is longer than paths can be, or one of its names is longer than names can be. -/
def TooLong (tree : FileTree) (path : FilePath) : Prop :=
  longestPath < path.toString.utf8ByteSize ∨
    ∃ names, tree.namesOf path = some names ∧ ∃ name ∈ names, longestName < name.utf8ByteSize

/-- Where names lead from a directory, with two dots leading back up. -/
def place (here names : List String) : List String :=
  names.foldl (fun here name => if name = ".." then here.dropLast else here ++ [name]) here

/-- The path leads through a closed directory. -/
def LeadsThroughClosed (tree : FileTree) (path : FilePath) : Prop :=
  ∃ before name after, tree.namesOf path = some (before ++ name :: after) ∧
    tree.find? (place [] before) = some .closed

/-- The system refuses to look up a path. -/
inductive RefusesLookup (tree : FileTree) (path : FilePath) : SystemError → Prop
  | tooLong (long : tree.TooLong path) : RefusesLookup tree path (.nameTooLong path)
  | closed (through : tree.LeadsThroughClosed path) : RefusesLookup tree path (.searchRefused path)

theorem walk_eq_error (failed : tree.walk path here names = .error error) :
    (error = .nameTooLong path ∧ ∃ name ∈ names, longestName < name.utf8ByteSize) ∨
      (error = .searchRefused path ∧ ∃ before name after, names = before ++ name :: after ∧
        tree.find? (place here before) = some .closed) := by
  induction names generalizing here with
  | nil => cases failed
  | cons name rest ih =>
      have later {next : List String} (step : place here [name] = next)
          (failed : tree.walk path next rest = .error error) :
          (error = .nameTooLong path ∧
              ∃ other ∈ name :: rest, longestName < other.utf8ByteSize) ∨
            (error = .searchRefused path ∧ ∃ before other after,
              name :: rest = before ++ other :: after ∧
                tree.find? (place here before) = some .closed) := by
        subst step
        rcases ih failed with
          ⟨named, other, member, long⟩ | ⟨named, before, other, after, rfl, closed⟩
        · exact .inl ⟨named, other, List.mem_cons_of_mem _ member, long⟩
        · exact .inr ⟨named, name :: before, other, after, rfl, closed⟩
      unfold walk at failed
      split at failed
      · split at failed
        case isTrue up =>
            split at failed
            · cases failed
            · exact later (by simp [place, up]) failed
        case isFalse down =>
            split at failed
            case isTrue long =>
                cases failed
                exact .inl ⟨rfl, name, List.mem_cons_self, long⟩
            case isFalse => exact later (by simp [place, down]) failed
      case h_2 closed =>
          cases failed
          exact .inr ⟨rfl, [], name, rest, rfl, closed⟩
      · cases failed

theorem lookup_eq_error (failed : tree.lookup path = .error error) :
    tree.RefusesLookup path error := by
  unfold lookup at failed
  split at failed
  case isTrue long =>
      cases failed
      exact .tooLong (.inl long)
  case isFalse =>
      split at failed
      · cases failed
      · split at failed
        case h_1 names found =>
            rcases walk_eq_error failed with ⟨rfl, long⟩ | ⟨rfl, before, name, after, split, closed⟩
            · exact .tooLong (.inr ⟨names, found, long⟩)
            · exact .closed ⟨before, name, after, split ▸ found, closed⟩
        case h_2 => cases failed

/-- Whether a path leads to a file can be said of every path that the system looks up. -/
theorem isFile_eq_error (failed : tree.isFile path = .error error) :
    tree.RefusesLookup path error := by
  unfold isFile at failed
  cases found : tree.lookup path with
  | error other =>
      rw [found] at failed
      cases failed
      exact lookup_eq_error found
  | ok node =>
      rw [found] at failed
      cases failed

end FileTree

namespace Document

variable {tree : FileTree} {path : FilePath} {format : DocumentFormat} {text : List Char}
  {fault : Fault}

theorem outcome_load :
    (load tree path).outcome =
      match DocumentFormat.ofSuffix? (Text.lowerCase path.suffix) with
      | none =>
          let suffix := Text.lowerCase path.suffix
          .error (.document ⟨path, .unsupported (if suffix.isEmpty then path.name else suffix)⟩)
      | some format =>
          match tree.isFile path with
          | .error error => .error (.system error)
          | .ok false => .error (.document ⟨path, .notFound⟩)
          | .ok true =>
              match read tree path format with
              | .ok value => .ok value
              | .error (.problem problem) => .error (.document ⟨path, problem⟩)
              | .error (.faulty fault) => .error (.faulty fault) := by
  unfold load
  dsimp only
  cases DocumentFormat.ofSuffix? (Text.lowerCase path.suffix) with
  | none => rfl
  | some format =>
      rcases tree.isFile path with error | _ | _
      · rfl
      · rfl
      · rw [Logged.outcome_bind, Logged.outcome_report]
        dsimp only [Except.bind]
        rcases read tree path format with (problem | fault) | value
        all_goals rfl

/-- Loading ends in an error of the system only where the file is looked up. -/
theorem exists_isFile_eq_error {error : SystemError}
    (failed : (load tree path).outcome = .error (.system error)) :
    ∃ format, DocumentFormat.ofSuffix? (Text.lowerCase path.suffix) = some format ∧
      tree.isFile path = .error error := by
  rw [outcome_load] at failed
  split at failed
  case h_1 => cases failed
  case h_2 format suffix =>
      split at failed
      case h_1 error' fails =>
          cases failed
          exact ⟨format, suffix, fails⟩
      case h_2 => cases failed
      case h_3 => split at failed <;> cases failed

/-- A file is read up to a fault if its text is. -/
theorem read_eq_faulty_iff :
    read tree path format = .error (.faulty fault) ↔
      ∃ text, tree.text? path = some text ∧ parse format text = .error (.faulty fault) := by
  unfold read FileTree.text?
  cases tree.read path with
  | error error => simp
  | ok bytes =>
      dsimp only
      rw [decode]
      cases Text.decodeUtf8 bytes <;> simp

/-- What keeps the reader of a format from saying what is wrong with a text. -/
def ReaderFault (text : List Char) (fault : Fault) : DocumentFormat → Prop
  | .json | .toml => LongNumeral text fault
  | .yaml | .yml => Yaml.Unforeseen fault

theorem readerFault_of_parse_eq_faulty (failed : parse format text = .error (.faulty fault)) :
    ReaderFault text fault format := by
  unfold parse at failed
  cases format with
  | json =>
      dsimp only at failed
      split at failed
      · cases failed
      · cases failed
      · rename_i ended
        cases failed
        exact Json.longNumeral_of_read_eq_faulty ended
  | toml =>
      dsimp only at failed
      split at failed
      · cases failed
      · cases failed
      · rename_i ended
        cases failed
        exact Toml.longNumeral_of_read_eq_faulty ended
  | yaml | yml =>
      dsimp only at failed
      split at failed
      · cases failed
      · rename_i ended
        cases failed
        exact Yaml.unforeseen_of_read_eq_faulty ended
      · cases failed

theorem ReaderFault.kind_mem (found : ReaderFault text fault format) :
    fault.kind ∈ Yaml.unforeseenKinds := by
  cases format with
  | json | toml =>
      obtain ⟨_, _, _, _, rfl⟩ := found
      exact List.mem_cons_self
  | yaml | yml => exact Yaml.Unforeseen.kind_mem found

theorem parse_of_long_digits {first : Char} {others : List Char}
    (digits : ∀ c ∈ first :: others, c.isDigit) (notZero : first ≠ '0')
    (long : digitLimit < others.length + 1) :
    parse .json (first :: others) = .error (.faulty (.numeralTooLong (others.length + 1))) := by
  rw [parse, Json.read_of_long_digits digits notZero long]

theorem forall_parse_ne_faulty_iff :
    (∀ text, tree.text? path = some text → ∀ fault, parse format text ≠ .error (.faulty fault)) ↔
      ∀ fault, read tree path format ≠ .error (.faulty fault) := by
  constructor
  · intro noFault fault failed
    obtain ⟨text, content, ended⟩ := read_eq_faulty_iff.mp failed
    exact noFault text content fault ended
  · intro noFault text content fault ended
    exact noFault fault (read_eq_faulty_iff.mpr ⟨text, content, ended⟩)

theorem text?_of_isFile_ne (noFile : tree.isFile path ≠ .ok true) : tree.text? path = none := by
  unfold FileTree.text?
  cases content : tree.read path with
  | error error => rfl
  | ok bytes => exact absurd (isFile_of_read content) noFile

/-- Loading gives a value or an error that names the path, for every path and whatever the files are
like, unless the system refuses to look up the path or the reader of the format ends in a fault.
The system refuses a path that is too long or leads through a closed directory.  The readers of JSON
and of TOML end so only at an integer of too many digits, and that of YAML, which stands for another
library, only where its rules do not foresee a number, a moment, a word or a key. -/
theorem load_fails_only_by_document_error_iff (tree : FileTree) (path : FilePath) :
    (((∃ value, (load tree path).outcome = .ok value) ∨
        ∃ problem, (load tree path).outcome = .error (.document ⟨path, problem⟩)) ↔
      ∀ format, DocumentFormat.ofSuffix? (Text.lowerCase path.suffix) = some format →
        (∃ found, tree.isFile path = .ok found) ∧
        ∀ text, tree.text? path = some text → ∀ fault, parse format text ≠ .error (.faulty fault)) ∧
    (∀ error, tree.isFile path = .error error → tree.RefusesLookup path error) ∧
    ∀ format text fault, parse format text = .error (.faulty fault) →
      ReaderFault text fault format ∧ fault.kind ∈ Yaml.unforeseenKinds := by
  have readerFault {format : DocumentFormat} {text : List Char} {fault : Fault}
      (failed : parse format text = .error (.faulty fault)) :
      ReaderFault text fault format ∧ fault.kind ∈ Yaml.unforeseenKinds :=
    ⟨readerFault_of_parse_eq_faulty failed, (readerFault_of_parse_eq_faulty failed).kind_mem⟩
  refine ⟨?_, fun _ => FileTree.isFile_eq_error, fun _ _ _ => readerFault⟩
  rw [outcome_load]
  cases DocumentFormat.ofSuffix? (Text.lowerCase path.suffix) with
  | none => simp
  | some format =>
      simp only [Option.some.injEq, forall_eq']
      rcases found : tree.isFile path with error | _ | _
      · simp
      · simp [text?_of_isFile_ne, found]
      · rw [forall_parse_ne_faulty_iff]
        rcases read tree path format with (problem | fault) | value
        all_goals simp

theorem load_of_long_digits {first : Char} {others : List Char}
    (digits : ∀ c ∈ first :: others, c.isDigit) (notZero : first ≠ '0')
    (long : digitLimit < others.length + 1) (suffix : Text.lowerCase path.suffix = ".json")
    (content : tree.read path = .ok (String.ofList (first :: others)).toUTF8.data.toList) :
    (load tree path).outcome = .error (.faulty (.numeralTooLong (others.length + 1))) := by
  have plain : Json.PlainLines (String.ofList (first :: others)).toList := by
    rw [String.toList_ofList]
    exact Json.plainLines_of_isDigit digits
  have text : tree.text? path = some (first :: others) := by
    unfold FileTree.text?
    rw [content]
    dsimp only
    rw [Text.decodeUtf8, toUTF8_of_plainLines plain, decodeUtf8From_of_plainLines plain]
    dsimp only
    rw [unifyNewlines_of_plainLines plain, String.toList_ofList]
  have format : DocumentFormat.ofSuffix? ".json" = some .json := by decide
  have read : read tree path .json = .error (.faulty (.numeralTooLong (others.length + 1))) :=
    read_eq_faulty_iff.mpr ⟨_, text, parse_of_long_digits digits notZero long⟩
  rw [outcome_load, suffix, format]
  simp only [isFile_of_read content, read]

/-- A file of nothing but an integer of 4301 digits is not refused by an error about it. -/
theorem load_of_long_integer_fails_otherwise :
    let ones := String.ofList (List.replicate 4301 '1')
    let tree : FileTree := ⟨⟨"/", []⟩, [(["big.json"], .file ones.toUTF8.data.toList none)]⟩
    let path : FilePath := ⟨"", ["big.json"]⟩
    ¬ ((∃ value, (load tree path).outcome = .ok value) ∨
        ∃ problem, (load tree path).outcome = .error (.document ⟨path, problem⟩)) := by
  intro ones tree path
  have written : ones = String.ofList ('1' :: List.replicate 4300 '1') := rfl
  have digits : ∀ c ∈ '1' :: List.replicate 4300 '1', c.isDigit := by
    intro c member
    rw [← List.replicate_succ] at member
    rw [List.eq_of_mem_replicate member]
    rfl
  have long : digitLimit < (List.replicate 4300 '1').length + 1 := by
    rw [List.length_replicate]
    exact Nat.lt_succ_self _
  have found : tree.lookup path = .ok (some (.file ones.toUTF8.data.toList none)) := by
    have short : "big.json".utf8ByteSize ≤ 255 := by decide
    unfold FileTree.lookup
    rw [if_neg (by decide), if_neg (by decide)]
    simp [tree, path, FileTree.namesOf, FilePath.isAbsolute, FileTree.walk, FileTree.find?,
      FileTree.longestName, short]
  have content : tree.read path =
      .ok (String.ofList ('1' :: List.replicate 4300 '1')).toUTF8.data.toList := by
    rw [FileTree.read, found, ← written]
    rfl
  have suffix : Text.lowerCase path.suffix = ".json" := by decide
  have outcome := load_of_long_digits digits (by decide) long suffix content
  rw [outcome]
  rintro (⟨value, loaded⟩ | ⟨problem, refused⟩)
  · cases loaded
  · cases refused

end Document

end ClosedShape
