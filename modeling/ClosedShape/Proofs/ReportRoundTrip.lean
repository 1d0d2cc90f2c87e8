import ClosedShape.Document
import ClosedShape.Proofs.CheckOutcome
import ClosedShape.Proofs.JsonRoundTrip
import ClosedShape.Proofs.NarrowedResult
import ClosedShape.Proofs.SchemaConformance
import ClosedShape.Report
import Mathlib

/-!
# Reports in JSON can be loaded again

A result is reported as an object of its own fields, with its value pruned.  The text of the report
is one that the loader for JSON reads back as this object.  Pruning drops the entries for optional
fields that nothing was given for, and no parse needs them: the schema adds the same entries when it
parses the pruned value.
-/

namespace ClosedShape

section Loading

variable {chars : List Char} {text : String}

theorem toUTF8_of_plainLines (plain : Json.PlainLines text.toList) :
    text.toUTF8.data.toList = text.toList.map fun c => UInt8.ofNat c.toNat := by
  have bytes : text.toUTF8.data.toList = text.toList.flatMap String.utf8EncodeChar := by
    rw [String.toUTF8, ← String.utf8Encode_toList, List.utf8Encode, List.toList_data_toByteArray]
  rw [bytes, List.map_eq_flatMap]
  refine List.flatMap_congr fun c member => ?_
  have small : c.val.toNat ≤ 127 := Nat.lt_succ_iff.mp (plain c member).1
  rw [String.utf8EncodeChar, if_pos small]
  rfl

theorem decodeUtf8From_of_plainLines (plain : Json.PlainLines chars) (position : Nat) :
    Text.decodeUtf8From position none (chars.map fun c => UInt8.ofNat c.toNat) = .ok chars := by
  induction chars generalizing position with
  | nil => rfl
  | cons c chars ih =>
      obtain ⟨⟨small, _⟩, others⟩ := Json.plainLines_cons.mp plain
      have code : (UInt8.ofNat c.toNat).toNat = c.toNat := by
        rw [UInt8.toNat_ofNat']
        omega
      have single : Text.utf8Shape (UInt8.ofNat c.toNat) = some (0, 0x80, 0xbf) := by
        rw [Text.utf8Shape, if_pos]
        rw [UInt8.lt_iff_toNat_lt, code]
        exact small
      rw [List.map_cons, Text.decodeUtf8From]
      simp only [single, ih others, code, Char.ofNat_toNat]
      rfl

theorem unifyNewlines_of_plainLines (plain : Json.PlainLines chars) :
    Text.unifyNewlines chars = chars := by
  induction chars with
  | nil => rfl
  | cons c chars ih =>
      obtain ⟨⟨_, noReturn⟩, others⟩ := Json.plainLines_cons.mp plain
      rw [Text.unifyNewlines, ih others]
      all_goals simp [noReturn]

theorem decode_of_plainLines {format : DocumentFormat} (plain : Json.PlainLines text.toList) :
    Document.decode format text.toUTF8.data.toList = Document.parse format text.toList := by
  rw [Document.decode, Text.decodeUtf8, toUTF8_of_plainLines plain,
    decodeUtf8From_of_plainLines plain]
  dsimp only
  rw [unifyNewlines_of_plainLines plain]

theorem decode_of_spells {value : Value} (spells : Json.Spells value text.toList) :
    Document.decode .json text.toUTF8.data.toList = .ok value := by
  rw [decode_of_plainLines spells.plain, Document.parse, spells.read_eq]

theorem isFile_of_read {tree : FileTree} {path : FilePath} {bytes : List UInt8}
    (content : tree.read path = .ok bytes) : tree.isFile path = .ok true := by
  unfold FileTree.read at content
  unfold FileTree.isFile
  cases found : tree.lookup path with
  | error problem =>
      rw [found] at content
      cases content
  | ok node =>
      rw [found] at content
      rcases node with _ | (_ | _ | ⟨bytes, _ | refusal⟩)
      · cases content
      · cases content
      · cases content
      · rfl
      · cases content

theorem load_of_decode {tree : FileTree} {path : FilePath} {bytes : List UInt8} {value : Value}
    (suffix : Text.lowerCase path.suffix = ".json") (content : tree.read path = .ok bytes)
    (decoded : Document.decode .json bytes = .ok value) :
    (Document.load tree path).outcome = .ok value := by
  have format : DocumentFormat.ofSuffix? ".json" = some .json := by decide
  have read : Document.read tree path .json = .ok value := by
    rw [Document.read, content]
    exact decoded
  unfold Document.load
  simp only [suffix, format, isFile_of_read content, read, Logged.outcome_bind,
    Logged.outcome_report, Logged.outcome_pure, Except.bind]

end Loading

section Pruning

namespace Value

variable {value : Value} {entries : List (Value × Value)} {name : Text}

theorem IsJson.isDocument (isJson : value.IsJson) : value.IsDocument := by
  induction isJson with
  | null | bool | int | text => exact .scalar nofun rfl rfl
  | list _ ih => exact .list ih
  | object named distinct _ ih => exact .object (pairwise_equals_of_nodup named distinct) ih

theorem IsJson.child {inner : Value} (isJson : value.IsJson) (child : inner.Child value) :
    inner.IsJson := by
  cases isJson with
  | null | bool | int | text =>
      cases child with
      | item array => cases array
      | content object => cases object
  | list contents =>
      cases child with
      | item array member =>
          cases array
          exact contents _ member
      | content object => cases object
  | object _ _ contents =>
      cases child with
      | item array => cases array
      | content object member =>
          cases object
          exact contents _ member

theorem IsJson.keysShort (isJson : value.IsJson) : value.KeysShort := by
  induction isJson with
  | null | bool | int | text => exact keysShort_of_flat rfl rfl
  | list _ ih =>
      refine keysShort_iff.mpr ⟨nofun, fun inner child => ?_⟩
      cases child with
      | item array member =>
          cases array
          exact ih inner member
      | content object => cases object
  | object named _ _ ih =>
      refine keysShort_iff.mpr ⟨?_, fun inner child => ?_⟩
      · rintro _ ⟨⟩ entry member
        obtain ⟨name, isText⟩ := named entry member
        simp [isText]
      · cases child with
        | item array => cases array
        | content object member =>
            cases object
            exact ih _ member

theorem IsDocument.child {inner : Value} (document : value.IsDocument) (child : inner.Child value) :
    inner.IsDocument := by
  cases document with
  | list contents =>
      cases child with
      | item array member =>
          cases array
          exact contents _ member
      | content object => cases object
  | object _ contents =>
      cases child with
      | item array => cases array
      | content object member =>
          cases object
          exact contents _ member
  | scalar _ noArray noObject =>
      cases child with
      | item array => cases noArray.symm.trans array
      | content object => cases noObject.symm.trans object

theorem lookupText_pruneEntries_of_not_mem (fresh : .text name ∉ entries.map Prod.fst) :
    lookupText (pruneEntries entries) name = .absent := by
  by_contra provided
  have member := mem_of_lookupText_ne_absent provided
  rw [pruneEntries_eq_map] at member
  obtain ⟨entry, kept, same⟩ := List.mem_map.mp member
  have key : entry.1 = .text name := congrArg Prod.fst same
  exact fresh (key ▸ List.mem_map_of_mem (List.mem_filter.mp kept).1)

/-- Under distinct keys a name leads to the pruned form of what it led to before. -/
theorem lookupText_pruneEntries (distinct : (entries.map Prod.fst).Nodup) :
    lookupText (pruneEntries entries) name = (lookupText entries name).prune := by
  induction entries with
  | nil => rfl
  | cons entry entries ih =>
      obtain ⟨key, content⟩ := entry
      obtain ⟨fresh, others⟩ := List.nodup_cons.mp distinct
      have later := ih others
      by_cases found : key = .text name
      · subst found
        rw [pruneEntries]
        cases absent : content.isAbsent with
        | true =>
            rw [if_pos rfl, lookupText_pruneEntries_of_not_mem fresh, lookupText, if_pos rfl]
            cases content <;> cases absent
            rfl
        | false => rw [if_neg Bool.false_ne_true, lookupText, if_pos rfl, lookupText, if_pos rfl]
      · have skip (more : List (Value × Value)) (other : Value) :
            lookupText ((key, other) :: more) name = lookupText more name := by
          cases key with
          | text written =>
              have differs : written ≠ name := by
                rintro rfl
                exact found rfl
              rw [lookupText, if_neg differs]
          | _ => rfl
        rw [skip, ← later, pruneEntries]
        split
        · rfl
        · exact skip _ _

theorem isJson_prune_list {items : List Value} (each : ∀ item ∈ items, item.prune.IsJson) :
    (Value.list items).prune.IsJson := by
  rw [prune, pruneItems_eq_map]
  refine .list fun item member => ?_
  obtain ⟨kept, keptMember, rfl⟩ := List.mem_map.mp member
  exact each kept (List.mem_filter.mp keptMember).1

theorem isJson_prune_object (named : ∀ entry ∈ entries, ∃ name, entry.1 = .text name)
    (distinct : (entries.map Prod.fst).Nodup)
    (each : ∀ entry ∈ entries, entry.2 ≠ .absent → entry.2.prune.IsJson) :
    (Value.object entries).prune.IsJson := by
  have kept (entry : Value × Value) (member : entry ∈ pruneEntries entries) :
      ∃ other ∈ entries, other.2 ≠ .absent ∧ entry = (other.1, other.2.prune) := by
    rw [pruneEntries_eq_map] at member
    obtain ⟨other, keptMember, rfl⟩ := List.mem_map.mp member
    obtain ⟨otherMember, provided⟩ := List.mem_filter.mp keptMember
    refine ⟨other, otherMember, ?_, rfl⟩
    simpa [isAbsent_eq_false_iff] using provided
  refine .object (fun entry member => ?_) ?_ fun entry member => ?_
  · obtain ⟨other, otherMember, _, rfl⟩ := kept entry member
    exact named other otherMember
  · rw [pruneEntries_eq_map, List.map_map]
    exact (List.filter_sublist.map Prod.fst).nodup distinct
  · obtain ⟨other, otherMember, provided, rfl⟩ := kept entry member
    exact each other otherMember provided

end Value

namespace Schema

variable {custom : Refinement → Prop} {schema : Schema} {value result : Value}

/-- Pruning takes nothing from a list of items that were provided. -/
theorem parse_prune_list {presence : Presence} {element : Schema} {refinements : List Refinement}
    {items : List Value}
    (each : ∀ item ∈ items, item ≠ .absent ∧ element.parse item.prune = .ok item)
    (satisfied : ∀ refinement ∈ refinements, refinement.Holds (.list items)) :
    (Schema.array presence element refinements).parse (Value.list items).prune =
      .ok (.list items) := by
  have pruned : (Value.list items).prune = .list (items.map Value.prune) := by
    rw [Value.prune, Value.pruneItems_eq_map, List.filter_eq_self.mpr]
    intro item member
    rw [Value.isAbsent_eq_false_iff.mpr (each item member).1]
    rfl
  rw [pruned, parse_array_eq_ok_iff]
  refine .inr ⟨not_omitted_of_arrayItems? rfl, _, items, rfl, ?_, satisfied, rfl⟩
  rw [List.forall₂_map_left_iff, List.forall₂_same]
  exact fun item member => (each item member).2

/-- The entries that pruning takes from an object are the ones that its fields bring back. -/
theorem parse_prune_object {presence : Presence} {fields : List (Text × Schema)}
    {entries : List (Value × Value)} (distinct : (fields.map Prod.fst).Nodup)
    (each : List.Forall₂ (fun field entry => entry.1 = .text field.1 ∧
      field.2.parse entry.2.prune = .ok entry.2) fields entries) :
    (Schema.object presence fields).parse (Value.object entries).prune =
      .ok (.object entries) := by
  rw [parse_object_eq_ok_iff]
  refine .inr ⟨not_omitted_of_mappingEntries? rfl, _, entries, rfl, ?_, ?_, rfl⟩
  · intro entry member
    rw [Value.pruneEntries_eq_map] at member
    obtain ⟨kept, keptMember, rfl⟩ := List.mem_map.mp member
    obtain ⟨field, fieldMember, isField, _⟩ :=
      exists_related_of_mem each (List.mem_filter.mp keptMember).1
    exact ⟨field, fieldMember, isField⟩
  · refine forall₂_imp_of_mem each ?_
    rintro field _ ⟨_, part⟩ member ⟨rfl, parsed⟩
    rw [Value.lookupText_pruneEntries (nodup_keys_of_forall₂ distinct each),
      lookupText_of_forall₂ distinct each member]
    exact ⟨rfl, parsed⟩

/-- A parse brings back what pruning dropped from its result.  Optional fields may have been given
nothing at all. -/
theorem Regular.parse_prune (regular : schema.Regular custom)
    (document : value ≠ .absent → value.IsDocument) (parsed : schema.parse value = .ok result) :
    schema.parse result.prune = .ok result := by
  induction schema using wellFounded_child.induction generalizing value result with
  | _ schema ih =>
    by_cases omitted : value = .absent
    · subst omitted
      obtain rfl := (regular.eq_absent_iff_of_parse parsed).mpr rfl
      exact parsed
    cases schema with
    | array presence element refinements =>
        obtain ⟨absent, _⟩ | ⟨_, items, narrowed, array, parts, satisfied, rfl⟩ :=
          parse_array_eq_ok_iff.mp parsed
        · exact absurd absent.2 omitted
        · refine parse_prune_list (fun part member => ?_) satisfied
          obtain ⟨item, itemMember, itemParsed⟩ := exists_related_of_mem parts member
          have itemDocument := (document omitted).child (.item array itemMember)
          have elementRegular := regular.child .element
          refine ⟨?_, ih element .element elementRegular (fun _ => itemDocument) itemParsed⟩
          exact mt (elementRegular.eq_absent_iff_of_parse itemParsed).mp itemDocument.ne_absent
    | object presence fields =>
        obtain ⟨absent, _⟩ | ⟨_, entries, narrowed, object, _, parts, rfl⟩ :=
          parse_object_eq_ok_iff.mp parsed
        · exact absurd absent.2 omitted
        · refine parse_prune_object (regular.fieldsDistinct presence fields .refl) ?_
          refine forall₂_imp_of_mem parts fun field fieldMember entry _ both => ⟨both.1, ?_⟩
          have child : field.2.Child (.object presence fields) := .field fieldMember
          refine ih field.2 child (regular.child child) (fun provided => ?_) both.2
          have entryMember := Value.mem_of_lookupText_ne_absent provided
          exact (document omitted).child (.content object entryMember)
    | _ =>
        obtain ⟨rfl, unchanged⟩ := regular.eq_of_parse_scalar trivial parsed
        rw [unchanged]
        exact parsed

theorem Regular.isJson_prune_of_parse (regular : schema.Regular custom) (isJson : value.IsJson)
    (parsed : schema.parse value = .ok result) : result.prune.IsJson := by
  induction schema using wellFounded_child.induction generalizing value result with
  | _ schema ih =>
    cases schema with
    | array presence element refinements =>
        obtain ⟨absent, _⟩ | ⟨_, items, narrowed, array, parts, _, rfl⟩ :=
          parse_array_eq_ok_iff.mp parsed
        · exact absurd absent.2 isJson.isDocument.ne_absent
        · refine Value.isJson_prune_list fun part member => ?_
          obtain ⟨item, itemMember, itemParsed⟩ := exists_related_of_mem parts member
          exact ih element .element (regular.child .element) (isJson.child (.item array itemMember))
            itemParsed
    | object presence fields =>
        obtain ⟨absent, _⟩ | ⟨_, entries, narrowed, object, _, parts, rfl⟩ :=
          parse_object_eq_ok_iff.mp parsed
        · exact absurd absent.2 isJson.isDocument.ne_absent
        · have distinct := regular.fieldsDistinct presence fields .refl
          refine Value.isJson_prune_object (named_of_forall₂ parts)
            (nodup_keys_of_forall₂ distinct parts) fun entry member given => ?_
          obtain ⟨field, fieldMember, _, fieldParsed⟩ := exists_related_of_mem parts member
          have child : field.2.Child (.object presence fields) := .field fieldMember
          have found := mt ((regular.child child).eq_absent_iff_of_parse fieldParsed).mpr given
          have entryMember := Value.mem_of_lookupText_ne_absent found
          exact ih field.2 child (regular.child child) (isJson.child (.content object entryMember))
            fieldParsed
    | _ =>
        obtain ⟨rfl, unchanged⟩ := regular.eq_of_parse_scalar trivial parsed
        rw [unchanged]
        exact isJson

end Schema

end Pruning

section Reports

/-- An error as programs read it: its own fields in order. -/
def CheckError.document (error : CheckError) : Value :=
  .object [(.text "code", .text error.code), (.text "message", .text error.message),
    (.text "path", .text error.path)]

/-- A result as programs read it: its own fields in order, with its value pruned. -/
def CheckResult.document (result : CheckResult) : Value :=
  .object [(.text "ok", .bool result.ok), (.text "name", .text result.name),
    (.text "value", result.value.prune),
    (.text "errors", .list (result.errors.map CheckError.document)),
    (.text "expected", .list (result.expected.map Value.text)),
    (.text "warnings", .list (result.warnings.map Value.text))]

variable {result : CheckResult}

theorem CheckError.isJson_document (error : CheckError) : error.document.IsJson := by
  refine .object (by simp) (by simp) ?_
  simp only [List.forall_mem_cons, List.not_mem_nil, false_implies, implies_true, and_true]
  exact ⟨.text, .text, .text⟩

theorem CheckResult.isJson_document (isJson : result.value.prune.IsJson) :
    result.document.IsJson := by
  have texts (contents : List Text) : (Value.list (contents.map Value.text)).IsJson :=
    .list (List.forall_mem_map.mpr fun _ _ => .text)
  have errors : (Value.list (result.errors.map CheckError.document)).IsJson :=
    .list (List.forall_mem_map.mpr fun error _ => error.isJson_document)
  refine .object (by simp) (by simp) ?_
  simp only [List.forall_mem_cons, List.not_mem_nil, false_implies, implies_true, and_true]
  exact ⟨.bool, .text, isJson, errors, texts _, texts _⟩

theorem payload_prune : Report.payload result result.value.prune = result.document := rfl

theorem format_json_eq (settings : ReportSettings) (isJson : result.value.prune.IsJson) :
    Report.format result { settings with jsonOutput := true } =
      (Json.write .indented result.document).map Text.ofString := by
  have shown : Report.shownValue result.value = result.value.prune := by
    unfold Report.shownValue
    split
    next absent => exact absurd absent isJson.isDocument.ne_absent
    next => rfl
  rw [Report.format, if_pos rfl, shown, payload_prune]

variable {custom : Refinement → Prop} {schema : Schema} {value : Value}

/-- A report in JSON can be loaded again.  It gives the fields of the result with the halves of
characters joined that stand together, so it gives them as they are exactly if none do in any of
their texts; and what was left out of the value is brought back by the schema. -/
theorem json_report_reads_back_iff (buildable : schema.Buildable custom)
    (literals : schema.LiteralsShort) (answers : schema.ChecksAnswer) (isJson : value.IsJson)
    (name : Text) (expected : List Text) (settings : ReportSettings) :
    ∃ result text read, (Check.config name schema value expected).outcome = .ok result ∧
      Report.format result { settings with jsonOutput := true } = .ok (Text.ofString text) ∧
      Document.decode .json text.toUTF8.data.toList = .ok read ∧
      (∀ tree path, Text.lowerCase path.suffix = ".json" →
        tree.read path = .ok text.toUTF8.data.toList →
          (Document.load tree path).outcome = .ok read) ∧
      read = result.document.joinHalves ∧
      (read = result.document ↔ result.document.HalvesApart) ∧
      (result.ok = true → schema.parse result.value.prune = .ok result.value) := by
  have regular := buildable.regular
  have sound : ∀ fault, schema.parse value ≠ .error (.faulty fault) :=
    regular.parse_ne_faulty literals isJson.keysShort fun _ part content fault follows =>
      answers part content fault (Schema.partOf_of_follow? follows)
  obtain ⟨result, checked⟩ := Check.exists_outcome_config_eq_ok_iff.mpr sound
  obtain ⟨shown, restored⟩ : result.value.prune.IsJson ∧
      (result.ok = true → schema.parse result.value.prune = .ok result.value) := by
    cases ended : schema.parse value with
    | ok narrowed =>
        rw [Check.result_of_parse_ok checked ended]
        exact ⟨regular.isJson_prune_of_parse isJson ended,
          fun _ => regular.parse_prune (fun _ => isJson.isDocument) ended⟩
    | error failure =>
        cases failure with
        | faulty fault => exact absurd ended (sound fault)
        | invalid violation =>
            rw [Check.result_of_violation checked ended]
            exact ⟨.null, nofun⟩
  have document := CheckResult.isJson_document shown
  obtain ⟨text, written, spells⟩ := Json.exists_writeAt Json.indented_standard document 0
  have decoded := decode_of_spells spells
  refine ⟨result, text, result.document.joinHalves, checked, ?_, decoded,
    fun tree path suffix content => ?_, rfl, document.joinHalves_eq_iff, restored⟩
  · rw [format_json_eq settings shown, Json.write, written]
    rfl
  · exact load_of_decode suffix content decoded

theorem json_report_reads_back_beside_omitted_field :
    let schema : Schema := .object .required [("title", .text .required [.nonEmptyText]),
      ("size", .number .optional [.positive]), ("tags", .array .optional (.text .required []) [])]
    let lone : Text := [.surrogate 0, .char 'u', .surrogate 0x400, .surrogate 0]
    let tags : Value := .list [.text "a\"\\\n\x7f", .text "😀é", .text lone]
    let value : Value := .object [(.text "tags", tags), (.text "title", .text "[0]")]
    let narrowed : Value :=
      .object [(.text "title", .text "[0]"), (.text "size", .absent), (.text "tags", tags)]
    let result : CheckResult := .success "card" narrowed
    ∃ text, (Check.config "card" schema value []).outcome = .ok result ∧
      Report.format result { jsonOutput := true } = .ok (Text.ofString text) ∧
      Document.decode .json text.toUTF8.data.toList = .ok result.document ∧
      (Document.load ⟨⟨"/", []⟩, [(["card.JSON"], .file text.toUTF8.data.toList none)]⟩
        ⟨"", ["card.JSON"]⟩).outcome = .ok result.document ∧
      schema.parse narrowed.prune = .ok narrowed := by
  intro schema lone tags value narrowed result
  have regular : schema.Regular (fun _ => False) := by
    refine .object (by decide) fun field member => ?_
    obtain rfl | rfl | rfl : field = _ ∨ field = _ ∨ field = _ := by simpa using member
    · exact .text (by simp)
    · exact .number (by simp)
    · exact .array (.text (by simp)) (by simp)
  have literals : schema.LiteralsShort := by
    subst schema
    refine Schema.literalsShort_iff.mpr ⟨by rintro _ _ ⟨⟩, fun child isChild => ?_⟩
    cases isChild with
    | @field _ _ field member =>
        obtain rfl | rfl | rfl : field = _ ∨ field = _ ∨ field = _ := by simpa using member
        · exact Schema.literalsShort_iff.mpr ⟨by rintro _ _ ⟨⟩, nofun⟩
        · exact Schema.literalsShort_iff.mpr ⟨by rintro _ _ ⟨⟩, nofun⟩
        · refine Schema.literalsShort_iff.mpr ⟨by rintro _ _ ⟨⟩, fun child isChild => ?_⟩
          cases isChild
          exact Schema.literalsShort_iff.mpr ⟨by rintro _ _ ⟨⟩, nofun⟩
  have answers : schema.ChecksAnswer := by
    refine fun part content fault nested => Schema.not_checkFaults ?_ (regular.partOf nested)
    exact nofun
  have isJson : value.IsJson := by
    refine .object (by simp) (by simp) ?_
    simp only [List.forall_mem_cons, List.not_mem_nil, false_implies, implies_true, and_true]
    refine ⟨.list ?_, .text⟩
    simp only [List.forall_mem_cons, List.not_mem_nil, false_implies, implies_true, and_true]
    exact ⟨.text, .text, .text⟩
  have parsed : schema.parse value = .ok narrowed := by cbv
  obtain ⟨shown, text, read, checked, written, decoded, loads, _, same, restored⟩ :=
    json_report_reads_back_iff regular.buildable literals answers isJson "card" [] {}
  obtain rfl := Check.result_of_parse_ok checked parsed
  have pruned : result.value.prune.IsJson := regular.isJson_prune_of_parse isJson parsed
  have apart := (CheckResult.isJson_document pruned).joinHalves_eq_iff.mp (by cbv)
  obtain rfl := same.mpr apart
  have loaded := loads ⟨⟨"/", []⟩, [(["card.JSON"], .file text.toUTF8.data.toList none)]⟩
    ⟨"", ["card.JSON"]⟩ (by decide) (by rfl)
  exact ⟨text, checked, written, decoded, loaded, restored rfl⟩

/-- Two halves of a character come back as the character, which is shorter, and the schema may
refuse what it has accepted. -/
theorem json_report_joins_halves :
    let long : Refinement := .ofTest "long" "Must be long." (.sizeAtLeast (.int 2))
    let schema : Schema := .text .required [long]
    let halves : Value := .text [.surrogate 0x3d, .surrogate 0x600]
    let result : CheckResult := .success "icon" halves
    ∃ text read, (Check.config "icon" schema halves []).outcome = .ok result ∧
      Report.format result { jsonOutput := true } = .ok (Text.ofString text) ∧
      Document.decode .json text.toUTF8.data.toList = .ok read ∧ read ≠ result.document ∧
      read = (CheckResult.success "icon" (.text "😀")).document ∧
      schema.parse (.text "😀") =
        .error (.invalid (.refinementFailure "Must be long." "long")) := by
  intro long schema halves result
  have isJson : halves.prune.IsJson := .text
  have pruned : result.value.prune.IsJson := isJson
  obtain ⟨text, written, spells⟩ :=
    Json.exists_writeAt Json.indented_standard (CheckResult.isJson_document pruned) 0
  have refused : schema.parse (.text "😀") =
      .error (.invalid (.refinementFailure "Must be long." "long")) := by cbv
  have joined : result.document.joinHalves =
      (CheckResult.success "icon" (.text "😀")).document := by cbv
  refine ⟨text, result.document.joinHalves, ?_, ?_, decode_of_spells spells, ?_, joined, refused⟩
  · rfl
  · rw [format_json_eq {} pruned, Json.write, written]
    rfl
  · rw [joined]
    simp [result, halves, CheckResult.document, CheckResult.success, Value.prune, Text.ofString]

end Reports

end ClosedShape
