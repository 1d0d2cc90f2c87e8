import ClosedShape.Proofs.MarkupRendering
import ClosedShape.Proofs.Reordering
import ClosedShape.Report.Emission

/-!
# The text of a report

Every result of a check has a report, in both forms and with any settings, as long as no integer in
it is too long to be written.  A result holds lists, and mappings from texts, that the schema has
built, and in them values that it took over as they were; each of these can be shown.
-/

namespace ClosedShape

theorem exists_mapM_eq_ok {α β ε : Type} {items : List α} {make : α → Except ε β}
    (each : ∀ item ∈ items, ∃ result, make item = .ok result) :
    ∃ results, items.mapM make = .ok results := by
  induction items with
  | nil => exact ⟨[], rfl⟩
  | cons item items ih =>
      obtain ⟨⟨result, made⟩, others⟩ := List.forall_mem_cons.mp each
      obtain ⟨results, rest⟩ := ih others
      rw [List.mapM_cons, made]
      dsimp only [bind, Except.bind]
      rw [rest]
      exact ⟨_, rfl⟩

namespace Value

variable {value item : Value} {items : List Value} {entries : List (Value × Value)}

section ShortInside

theorem not_holdsLongInteger_of_child {inner : Value} (short : ¬ value.HoldsLongInteger)
    (child : inner.Child value) : ¬ inner.HoldsLongInteger := by
  intro holds
  apply short
  cases child with
  | item array member =>
      cases value with
      | list => cases array; exact .listItem member holds
      | tuple => cases array; exact .tupleItem member holds
      | _ => cases array
  | content object member =>
      cases value with
      | mapping => cases object; exact .content member holds
      | _ => cases object

theorem not_holdsLongInteger_of_inside {inner : Value} (short : ¬ value.HoldsLongInteger)
    (inside : inner.Inside value) : ¬ inner.HoldsLongInteger := by
  induction inside using Relation.ReflTransGen.head_induction_on with
  | refl => exact short
  | head child _ ih => exact not_holdsLongInteger_of_child ih child

theorem not_holdsLongInteger_absent : ¬ HoldsLongInteger .absent := by
  rintro ⟨⟩

/-- What an object has under a name is short like the object, also where that is nothing. -/
theorem not_holdsLongInteger_lookupText (short : ¬ value.HoldsLongInteger)
    (object : value.mappingEntries? = some entries) (name : Text) :
    ¬ (lookupText entries name).HoldsLongInteger := by
  by_cases omitted : lookupText entries name = .absent
  · rw [omitted]
    exact not_holdsLongInteger_absent
  · exact not_holdsLongInteger_of_child short
      (.content object (mem_of_lookupText_ne_absent omitted))

theorem keysShort_of_not_holdsLongInteger (short : ¬ value.HoldsLongInteger) : value.KeysShort := by
  intro container entries inside object entry member holds
  apply not_holdsLongInteger_of_inside short inside
  cases container with
  | mapping => cases object; exact .key member holds
  | _ => cases object

end ShortInside

/-- The values that a report shows: lists, mappings from texts, and other values that have a
text. -/
inductive Showable : Value → Prop
  | list {items : List Value} (each : ∀ item ∈ items, Showable item) : Showable (.list items)
  | object {entries : List (Value × Value)}
      (named : ∀ entry ∈ entries, ∃ name, entry.1 = .text name)
      (each : ∀ entry ∈ entries, Showable entry.2) : Showable (.object entries)
  | scalar {value : Value} (noArray : value.arrayItems? = none)
      (noObject : ∀ entries, value ≠ .object entries) (short : ¬ value.HoldsLongInteger) :
      Showable value

theorem showable_text (content : Text) : Showable (.text content) :=
  .scalar rfl (by simp) (not_holdsLongInteger_text content)

theorem showable_null : Showable .null :=
  .scalar rfl (by simp) not_holdsLongInteger_null

theorem showable_absent : Showable .absent :=
  .scalar rfl (by simp) not_holdsLongInteger_absent

theorem showable_of_isCallable (callable : value.isCallable = true)
    (short : ¬ value.HoldsLongInteger) : Showable value := by
  cases value with
  | mapping flavour entries =>
      cases flavour with
      | callable => exact .scalar rfl (by simp) short
      | _ => cases callable
  | function => exact .scalar rfl (by simp) short
  | _ => cases callable

/-- Pruning makes a value showable once it is so without what was not provided. -/
theorem showable_prune (showable : Showable value) : Showable value.prune := by
  induction showable with
  | @list items _ ih =>
      rw [prune, pruneItems_eq_map]
      refine .list fun item member => ?_
      obtain ⟨kept, keptMember, rfl⟩ := List.mem_map.mp member
      exact ih kept (List.mem_filter.mp keptMember).1
  | @object entries named _ ih =>
      have kept {entry : Value × Value} (member : entry ∈ pruneEntries entries) :
          ∃ other ∈ entries, entry = (other.1, other.2.prune) := by
        rw [pruneEntries_eq_map] at member
        obtain ⟨other, otherMember, rfl⟩ := List.mem_map.mp member
        exact ⟨other, (List.mem_filter.mp otherMember).1, rfl⟩
      rw [prune]
      refine .object (fun entry member => ?_) fun entry member => ?_
      · obtain ⟨other, otherMember, rfl⟩ := kept member
        exact named other otherMember
      · obtain ⟨other, otherMember, rfl⟩ := kept member
        exact ih other otherMember
  | @scalar value noArray noObject short =>
      have unchanged : value.prune = value := by
        cases value with
        | list => cases noArray
        | mapping flavour entries =>
            cases flavour with
            | plain => exact absurd rfl (noObject entries)
            | _ => rfl
        | _ => rfl
      rw [unchanged]
      exact .scalar noArray noObject short

theorem exists_integerText {number : Int} (short : ¬ (Value.int number).HoldsLongInteger) :
    ∃ text, integerText number = .ok text := by
  rw [holdsLongInteger_int_iff] at short
  exact (integerText_tooLongIff number).exists_ok_iff.mpr short

theorem exists_display (short : ¬ value.HoldsLongInteger) : ∃ text, value.display = .ok text :=
  (display_tooLongIff value).exists_ok_iff.mpr short

end Value

namespace Json

variable {layout : Layout} {value : Value} {items : List Value} {entries : List (Value × Value)}

theorem exists_writeItems_eq_ok {depth : Nat}
    (each : ∀ item ∈ items, ∃ text, writeAt layout depth item = .ok text) :
    ∃ texts, writeItems layout depth items = .ok texts := by
  induction items with
  | nil => exact ⟨[], by rw [writeItems]⟩
  | cons item items ih =>
      obtain ⟨⟨text, written⟩, others⟩ := List.forall_mem_cons.mp each
      obtain ⟨texts, rest⟩ := ih others
      rw [writeItems, written]
      dsimp only [bind, Except.bind]
      rw [rest]
      exact ⟨_, rfl⟩

theorem exists_writeEntries_eq_ok {depth : Nat}
    (named : ∀ entry ∈ entries, ∃ name, entry.1 = .text name)
    (each : ∀ entry ∈ entries, ∃ text, writeAt layout depth entry.2 = .ok text) :
    ∃ texts, writeEntries layout depth entries = .ok texts := by
  induction entries with
  | nil => exact ⟨[], by rw [writeEntries]⟩
  | cons entry entries ih =>
      obtain ⟨key, content⟩ := entry
      obtain ⟨⟨name, isText⟩, othersNamed⟩ := List.forall_mem_cons.mp named
      obtain ⟨⟨text, written⟩, others⟩ := List.forall_mem_cons.mp each
      obtain ⟨texts, rest⟩ := ih othersNamed others
      obtain rfl : key = .text name := isText
      rw [writeEntries, keyText, written]
      dsimp only [bind, Except.bind]
      rw [rest]
      exact ⟨_, rfl⟩

/-- Whatever a report shows can be written as JSON, in any layout. -/
theorem exists_writeAt_of_showable (layout : Layout) (showable : value.Showable) (depth : Nat) :
    ∃ text, writeAt layout depth value = .ok text := by
  induction showable generalizing depth with
  | list _ ih =>
      obtain ⟨texts, written⟩ :=
        exists_writeItems_eq_ok fun item member => ih item member (depth + 1)
      rw [writeAt, written]
      exact ⟨_, rfl⟩
  | object named _ ih =>
      obtain ⟨texts, written⟩ := exists_writeEntries_eq_ok named
        fun entry member => ih entry member (depth + 1)
      rw [writeAt, written]
      exact ⟨_, rfl⟩
  | @scalar value noArray noObject short =>
      have shown : writeAt layout depth value = (do return quote layout.ascii (← value.display)) →
          ∃ text, writeAt layout depth value = .ok text := by
        intro asText
        obtain ⟨text, displayed⟩ := Value.exists_display short
        rw [asText, displayed]
        exact ⟨_, rfl⟩
      cases value with
      | list | tuple => cases noArray
      | mapping flavour entries =>
          cases flavour with
          | plain => exact absurd rfl (noObject entries)
          | _ => exact shown rfl
      | int number =>
          rw [writeAt]
          exact Value.exists_integerText short
      | null | bool | float | text => exact ⟨_, by rw [writeAt]⟩
      | _ => exact shown rfl

end Json

namespace Schema

variable {custom : Refinement → Prop} {schema : Schema} {value result : Value}

/-- What a schema accepts is showable: it builds the lists and mappings of the result itself. -/
theorem Regular.showable_of_parse (regular : schema.Regular custom)
    (short : ¬ value.HoldsLongInteger) (parsed : schema.parse value = .ok result) :
    result.Showable := by
  induction schema using wellFounded_child.induction generalizing value result with
  | _ schema ih =>
    cases schema with
    | array presence element refinements =>
        obtain ⟨_, rfl⟩ | ⟨_, items, narrowed, array, parts, _, rfl⟩ :=
          parse_array_eq_ok_iff.mp parsed
        · exact Value.showable_absent
        · refine .list fun part member => ?_
          obtain ⟨item, itemMember, itemParsed⟩ := exists_related_of_mem parts member
          have itemShort := Value.not_holdsLongInteger_of_child short (.item array itemMember)
          exact ih element .element (regular.child .element) itemShort itemParsed
    | object presence fields =>
        obtain ⟨_, rfl⟩ | ⟨_, entries, narrowed, object, _, parts, rfl⟩ :=
          parse_object_eq_ok_iff.mp parsed
        · exact Value.showable_absent
        · refine .object (named_of_forall₂ parts) fun entry member => ?_
          obtain ⟨field, fieldMember, _, fieldParsed⟩ := exists_related_of_mem parts member
          have child : field.2.Child (.object presence fields) := .field fieldMember
          have fieldShort := Value.not_holdsLongInteger_lookupText short object field.1
          exact ih field.2 child (regular.child child) fieldShort fieldParsed
    | function presence =>
        obtain ⟨rfl, _⟩ := regular.eq_of_parse_scalar trivial parsed
        rw [parse, run, outcome_guardPresence_eq_ok_iff, outcome_parseFunction_eq_ok_iff] at parsed
        rcases parsed with ⟨⟨_, rfl⟩, _⟩ | ⟨_, callable, _⟩
        · exact Value.showable_absent
        · exact Value.showable_of_isCallable callable short
    | _ =>
        obtain ⟨rfl, _⟩ := regular.eq_of_parse_scalar trivial parsed
        rcases regular.flat_of_parse_scalar trivial parsed with ⟨noArray, noObject⟩ | ⟨_, same⟩
        · refine .scalar noArray (fun entries object => ?_) short
          rw [object] at noObject
          cases noObject
        · cases same

end Schema

namespace Report

open Markup

variable {result : CheckResult} {settings : ReportSettings} {error : CheckError} {value : Value}

/-- What is shown for a value. -/
theorem showable_shownValue (showable : value.Showable) : (shownValue value).Showable := by
  unfold shownValue
  split
  · exact Value.showable_null
  · exact Value.showable_prune showable

theorem exists_entryLine {key : Value} (isText : ∃ name, key = .text name)
    (showable : value.Showable) : ∃ line, entryLine key value = .ok line := by
  obtain ⟨name, rfl⟩ := isText
  obtain ⟨json, written⟩ := Json.exists_writeAt_of_showable .compact showable 0
  rw [entryLine, Value.display]
  dsimp only [bind, Except.bind]
  split
  · rw [Json.write, written]
    exact ⟨_, rfl⟩
  · rw [Json.write, written]
    exact ⟨_, rfl⟩
  · rename_i noList noObject
    cases showable with
    | list => exact absurd rfl (noList _)
    | object => exact absurd rfl (noObject _)
    | scalar _ _ short =>
        obtain ⟨text, displayed⟩ := Value.exists_display short
        rw [displayed]
        exact ⟨_, rfl⟩

theorem exists_valueLines (showable : value.Showable) : ∃ lines, valueLines value = .ok lines := by
  unfold valueLines
  split
  · rename_i entries
    cases showable with
    | object named each =>
        exact exists_mapM_eq_ok fun entry member =>
          exists_entryLine (named entry member) (each entry member)
    | scalar _ noObject => exact absurd rfl (noObject entries)
  · obtain ⟨text, written⟩ := Json.exists_writeAt_of_showable .spaced showable 0
    rw [Json.write, written]
    exact ⟨_, rfl⟩

theorem exists_render_headline (ok : Bool) (name : Text) :
    ∃ shown, render (headline ok name) = .ok shown := by
  apply exists_render
  have closed : RendersAfresh 1 (escape name ++ Text.ofString "[/]") :=
    rendersAfresh_escape rfl (renders_close (renders_nil 0).afresh) name
  have named : RendersAfresh 0 (.char '[' :: (.char 's' :: Text.ofString "hape.name" ++
      .char ']' :: (escape name ++ Text.ofString "[/]"))) :=
    rendersAfresh_open rfl (by decide) (by decide) closed
  have colon := rendersAfresh_append (show Plain ": " by decide) named
  cases ok with
  | true =>
      have styled := rendersAfresh_styled 's' "hape.ok" "OK" rfl (by decide) (by decide)
        (by decide) colon
      simpa [headline, Text.ofString] using styled
  | false =>
      have styled := rendersAfresh_styled 's' "hape.error" "ERROR" rfl (by decide) (by decide)
        (by decide) colon
      simpa [headline, Text.ofString] using styled

/-- The code of an error as it is shown, in a style of its own. -/
def styledCode (code : Text) : Text := " [shape.code](" ++ code ++ ")[/]"

/-- The code of an error closes no tag that is open before it. -/
theorem renders_styledCode {code : Text} (plain : Plain code) :
    Renders 0 (styledCode code) ∧ closesTag (styledCode code) = false := by
  have word : Plain (Text.ofString "(" ++ code ++ Text.ofString ")") :=
    plain_append.mpr ⟨plain_append.mpr ⟨by decide, plain⟩, by decide⟩
  have styled := rendersAfresh_styled 's' "hape.code" _ rfl (by decide) (by decide) word
    (renders_nil 0).afresh
  have shown : styledCode code = .char ' ' :: .char '[' ::
      (.char 's' :: Text.ofString "hape.code" ++ .char ']' ::
        (Text.ofString "(" ++ code ++ Text.ofString ")" ++ Text.ofString "[/]")) := by
    simp [styledCode, Text.ofString]
  rw [shown]
  exact ⟨renders_cons (by decide) (fun blank => absurd blank (by decide)) styled, rfl⟩

theorem exists_render_errorLine (verbose : Bool) (plain : Plain error.code) :
    ∃ shown, render (errorLine verbose error) = .ok shown := by
  have message : RendersAfresh 0
      (escape error.message ++ if verbose then styledCode error.code else []) := by
    cases verbose with
    | false => exact rendersAfresh_escape rfl (renders_nil 0) error.message
    | true =>
        obtain ⟨renders, noTag⟩ := renders_styledCode plain
        exact rendersAfresh_escape noTag renders error.message
  apply exists_render
  rw [errorLine]
  split
  · exact rendersAfresh_append (by decide) message
  · have placed : RendersAfresh 1 (escape error.path ++ .char '[' :: .char '/' :: .char ']' ::
        (Text.ofString ": " ++ _)) :=
      rendersAfresh_escape rfl (renders_close (rendersAfresh_append (by decide) message)) error.path
    have styled : RendersAfresh 0 (Text.ofString "  " ++ .char '[' :: (.char 's' ::
        Text.ofString "hape.path" ++ .char ']' :: (escape error.path ++
          .char '[' :: .char '/' :: .char ']' :: (Text.ofString ": " ++ _)))) :=
      rendersAfresh_append (by decide) (rendersAfresh_open rfl (by decide) (by decide) placed)
    simpa [styledCode, Text.ofString] using styled

theorem exists_render_hint : ∃ shown, render "[shape.hint]Expected:[/]" = .ok shown := by
  apply exists_render
  have styled := rendersAfresh_styled 's' "hape.hint" "Expected:" rfl (by decide) (by decide)
    (by decide) (renders_nil 0).afresh
  simpa [Text.ofString] using styled

theorem exists_render_indented (text : Text) :
    ∃ shown, render ("  " ++ escape text) = .ok shown := by
  apply exists_render
  have whole := rendersAfresh_escape rfl (renders_nil 0) text
  rw [List.append_nil] at whole
  exact rendersAfresh_append (by decide) whole

/-- Every line that a result is shown by can be rendered. -/
theorem exists_lines (settings : ReportSettings) (showable : result.value.Showable)
    (plain : ∀ error ∈ result.errors, Plain error.code) :
    ∃ markup, lines result settings = .ok markup ∧
      ∀ line ∈ markup, ∃ shown, render line = .ok shown := by
  have headlines (ok : Bool) : ∀ line ∈ [headline ok result.name],
      ∃ shown, render line = .ok shown := by
    simpa using exists_render_headline ok result.name
  unfold lines
  dsimp only
  split
  · split
    · exact ⟨_, rfl, headlines true⟩
    · split
      · exact ⟨_, rfl, headlines true⟩
      · obtain ⟨shown, made⟩ := exists_valueLines (showable_shownValue showable)
        rw [made]
        refine ⟨_, rfl, List.forall_mem_cons.mpr ⟨exists_render_headline true result.name, ?_⟩⟩
        intro line member
        obtain ⟨text, _, rfl⟩ := List.mem_map.mp member
        exact exists_render_escape text
  · refine ⟨_, rfl, ?_⟩
    simp only [List.cons_append, List.forall_mem_cons, List.forall_mem_append]
    refine ⟨exists_render_headline false result.name, ?_, ?_⟩
    · intro line member
      obtain ⟨error, errorMember, rfl⟩ := List.mem_map.mp member
      exact exists_render_errorLine settings.verbose (plain error errorMember)
    · split
      · exact List.forall_mem_nil _
      · refine List.forall_mem_cons.mpr ⟨exists_render_hint, ?_⟩
        intro line member
        obtain ⟨text, _, rfl⟩ := List.mem_map.mp member
        exact exists_render_indented text

theorem showable_payload (showable : value.Showable) : (payload result value).Showable := by
  have texts (contents : List Text) : (Value.list (contents.map Value.text)).Showable :=
    .list (List.forall_mem_map.mpr fun _ _ => Value.showable_text _)
  have errors : (Value.list (result.errors.map errorValue)).Showable := by
    refine .list (List.forall_mem_map.mpr fun error _ => .object (by simp) ?_)
    simp only [List.forall_mem_cons, List.not_mem_nil, false_implies, implies_true, and_true]
    exact ⟨Value.showable_text _, Value.showable_text _, Value.showable_text _⟩
  have ok : (Value.bool result.ok).Showable := .scalar rfl (by simp) (by rintro ⟨⟩)
  refine .object (by simp) ?_
  simp only [List.forall_mem_cons, List.not_mem_nil, false_implies, implies_true, and_true]
  exact ⟨ok, Value.showable_text _, showable, errors, texts _, texts _⟩

/-- A result has a report, in both forms and whatever the settings are, if its value is showable
and its codes mean nothing to markup. -/
theorem exists_format (showable : result.value.Showable)
    (plain : ∀ error ∈ result.errors, Plain error.code) :
    ∃ text, format result settings = .ok text := by
  unfold format
  split
  · obtain ⟨text, written⟩ :=
      Json.exists_writeAt_of_showable .indented (showable_payload (showable_shownValue showable)) 0
    rw [Json.write, written]
    exact ⟨_, rfl⟩
  · obtain ⟨markup, made, each⟩ := exists_lines settings showable plain
    have printed : ∀ line ∈ markup, ∃ text, printLine line = .ok text := by
      intro line member
      obtain ⟨shown, rendered⟩ := each line member
      rw [printLine, rendered]
      exact ⟨_, rfl⟩
    obtain ⟨texts, made'⟩ := exists_mapM_eq_ok printed
    rw [made]
    dsimp only [bind, Except.bind]
    rw [printLines, made']
    exact ⟨_, rfl⟩

end Report

end ClosedShape
