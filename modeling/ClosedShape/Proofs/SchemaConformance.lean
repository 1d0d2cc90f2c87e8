import ClosedShape.Proofs.ParseFault

/-!
# Conformance

A schema describes values apart from any order of checks: which values conform to it, and what a
conforming value looks like when it is narrowed.  Both are defined here by recursion on the schema,
and parsing with a buildable schema decides the one and returns the other.
-/

namespace ClosedShape

namespace Schema

mutual

/-- The value that a conforming value is narrowed to: arrays become lists, objects become plain
mappings of the declared fields in their order, and every other value stays as it is. -/
def narrowed : Schema → Value → Value
  | .array _ element _, value =>
      match value.arrayItems? with
      | some items => .list (items.map fun item => narrowed element item)
      | none => value
  | .object _ fields, value =>
      match value.mappingEntries? with
      | some entries => .object (narrowedFields fields entries)
      | none => value
  | _, value => value

def narrowedFields : List (Text × Schema) → List (Value × Value) → List (Value × Value)
  | [], _ => []
  | (name, schema) :: fields, entries =>
      (.text name, narrowed schema (Value.lookupText entries name)) ::
        narrowedFields fields entries

end

/-- Whether a value may be left out, or else is as a schema wants it. -/
def OmittedOr (presence : Presence) (value : Value) (conforms : Prop) : Prop :=
  Omitted presence value ∨ conforms

mutual

/-- The values that a schema describes.  Refinements of an array are about the list of its narrowed
items, and a field that the mapping leaves out is `absent`. -/
def Conforms : Schema → Value → Prop
  | .number presence refinements, value =>
      OmittedOr presence value
        (value.isNumber = true ∧ ∀ refinement ∈ refinements, refinement.Holds value)
  | .text presence refinements, value =>
      OmittedOr presence value
        ((∃ content, value = .text content) ∧
          ∀ refinement ∈ refinements, refinement.Holds value)
  | .boolean presence, value => OmittedOr presence value (∃ truth, value = .bool truth)
  | .function presence, value => OmittedOr presence value (value.isCallable = true)
  | .literal presence expected, value =>
      OmittedOr presence value (value.kind = expected.kind ∧ value.equals expected = true)
  | .array presence element refinements, value =>
      OmittedOr presence value
        (∃ items, value.arrayItems? = some items ∧ (∀ item ∈ items, Conforms element item) ∧
          ∀ refinement ∈ refinements,
            refinement.Holds (.list (items.map fun item => narrowed element item)))
  | .object presence fields, value =>
      OmittedOr presence value
        (∃ entries, value.mappingEntries? = some entries ∧
          (∀ entry ∈ entries, ∃ field ∈ fields, entry.1 = .text field.1) ∧
            FieldsConform fields entries)
  | .foreign _ _, _ => False

/-- Every field describes what the entries have under its name. -/
def FieldsConform : List (Text × Schema) → List (Value × Value) → Prop
  | [], _ => True
  | (name, schema) :: fields, entries =>
      Conforms schema (Value.lookupText entries name) ∧ FieldsConform fields entries

end

theorem fieldsConform_iff {fields : List (Text × Schema)} {entries : List (Value × Value)} :
    FieldsConform fields entries ↔
      ∀ field ∈ fields, Conforms field.2 (Value.lookupText entries field.1) := by
  induction fields with
  | nil => simp [FieldsConform]
  | cons field fields ih => simp [FieldsConform, ih]

theorem narrowedFields_eq_map {fields : List (Text × Schema)}
    {entries : List (Value × Value)} :
    narrowedFields fields entries = fields.map fun field =>
      (.text field.1, narrowed field.2 (Value.lookupText entries field.1)) := by
  induction fields with
  | nil => rfl
  | cons field fields ih => simp [narrowedFields, ih]

@[simp]
theorem narrowed_absent (schema : Schema) : narrowed schema .absent = .absent := by
  cases schema <;> simp [narrowed, Value.arrayItems?, Value.mappingEntries?]

section Parsing

variable {custom : Refinement → Prop} {schema : Schema} {presence : Presence}
  {value result : Value}

/-- Leaving a value out is the same alternative for parsing and for conformance. -/
theorem omitted_or_parsed_iff {parsed conforms : Prop} {expected : Value}
    (leftOut : value = .absent → expected = .absent)
    (decides : parsed ↔ conforms ∧ result = expected) :
    Omitted presence value ∧ result = .absent ∨ ¬ Omitted presence value ∧ parsed ↔
      OmittedOr presence value conforms ∧ result = expected := by
  rw [decides]
  by_cases omitted : Omitted presence value
  · simp [OmittedOr, omitted, leftOut omitted.2]
  · simp [OmittedOr, omitted]

/-- Only numbers and booleans are compared as numbers. -/
theorem kind_of_number?_eq_some {number : Number} (compared : value.number? = some number) :
    value.kind = .number ∨ value.kind = .boolean := by
  cases value <;> simp_all [Value.number?, Value.kind]

/-- An object of an unknown type may carry the name of any kind, but it equals only itself. -/
theorem kind_eq_of_equals {expected : Value} (equal : value.equals expected = true)
    (sameName : value.kindName = expected.kindName) : value.kind = expected.kind := by
  unfold Value.equals at equal
  split at equal
  case h_13 => exact congrArg Kind.other sameName
  case h_14 =>
      split at equal
      case h_1 left right =>
          unfold Value.kindName at sameName
          rcases kind_of_number?_eq_some left with leftKind | leftKind <;>
            rcases kind_of_number?_eq_some right with rightKind | rightKind <;>
              rw [leftKind, rightKind] at sameName ⊢ <;> simp [Kind.name] at sameName
      case h_2 => cases equal
  all_goals rfl

theorem kind_and_equals_iff {expected : Value} :
    value.kindName = expected.kindName ∧ value.equals expected = true ↔
      value.kind = expected.kind ∧ value.equals expected = true := by
  constructor
  · rintro ⟨sameName, equal⟩
    exact ⟨kind_eq_of_equals equal sameName, equal⟩
  · rintro ⟨sameKind, equal⟩
    exact ⟨congrArg Kind.name sameKind, equal⟩

theorem forall₂_iff_eq_map {α β : Type} {items : List α} {results : List β}
    {gives : α → β → Prop} {holds : α → Prop} {make : α → β}
    (decides : ∀ item ∈ items, ∀ result, gives item result ↔ holds item ∧ result = make item) :
    List.Forall₂ gives items results ↔
      (∀ item ∈ items, holds item) ∧ results = items.map make := by
  induction items generalizing results with
  | nil => simp
  | cons item items ih =>
      cases results with
      | nil => simp
      | cons result results =>
          rw [List.forall₂_cons, decides item (by simp),
            ih fun other member => decides other (by simp [member])]
          simp only [List.forall_mem_cons, List.map_cons, List.cons.injEq]
          tauto

/-- Parsing returns the narrowed value of each value that conforms, and of no other. -/
theorem Regular.parse_eq_ok_iff (regular : schema.Regular custom)
    (literals : schema.LiteralsShort) :
    schema.parse value = .ok result ↔
      Conforms schema value ∧ result = narrowed schema value := by
  induction regular generalizing value result with
  | number =>
      rw [parse, run, outcome_guardPresence_eq_ok_iff]
      exact omitted_or_parsed_iff id outcome_parseNumber_eq_ok_iff
  | text =>
      rw [parse, run, outcome_guardPresence_eq_ok_iff]
      exact omitted_or_parsed_iff id outcome_parseText_eq_ok_iff
  | boolean =>
      rw [parse, run, outcome_guardPresence_eq_ok_iff]
      exact omitted_or_parsed_iff id outcome_parseBoolean_eq_ok_iff
  | function =>
      rw [parse, run, outcome_guardPresence_eq_ok_iff]
      exact omitted_or_parsed_iff id outcome_parseFunction_eq_ok_iff
  | @literal presence expected =>
      have shown : ∃ text, expected.literalText = .ok text :=
        (expected.literalText_tooLongIff.exists_ok_iff).mpr (literals _ _ .refl)
      rw [parse, run, outcome_guardPresence_eq_ok_iff]
      refine omitted_or_parsed_iff id ?_
      rw [outcome_parseLiteral_eq_ok_iff, and_iff_right shown, kind_and_equals_iff]
      rfl
  | @array presence element refinements _ _ ih =>
      have elementLiterals : element.LiteralsShort :=
        (literalsShort_iff.mp literals).2 element .element
      have decides (items : List Value) (item : Value) (_ : item ∈ items) (part : Value) :
          element.parse item = .ok part ↔ Conforms element item ∧ part = narrowed element item :=
        ih elementLiterals
      rw [parse_array_eq_ok_iff]
      refine omitted_or_parsed_iff (by rintro rfl; exact narrowed_absent _) ?_
      cases array : value.arrayItems? with
      | none => simp
      | some items => simp [narrowed, array, and_assoc, forall₂_iff_eq_map (decides items)]
  | @object presence fields _ _ ih =>
      have fieldLiterals (field : Text × Schema) (member : field ∈ fields) :
          field.2.LiteralsShort :=
        (literalsShort_iff.mp literals).2 field.2 (.field member)
      have decides (entries : List (Value × Value)) (field : Text × Schema)
          (member : field ∈ fields) (entry : Value × Value) :
          (entry.1 = .text field.1 ∧
              field.2.parse (Value.lookupText entries field.1) = .ok entry.2) ↔
            Conforms field.2 (Value.lookupText entries field.1) ∧
              entry = (.text field.1, narrowed field.2 (Value.lookupText entries field.1)) := by
        rw [ih field member (fieldLiterals field member), Prod.ext_iff, and_left_comm]
      rw [parse_object_eq_ok_iff]
      refine omitted_or_parsed_iff (by rintro rfl; exact narrowed_absent _) ?_
      cases object : value.mappingEntries? with
      | none => simp
      | some entries =>
          simp only [Option.some.injEq, exists_and_left, exists_eq_left',
            forall₂_iff_eq_map (decides entries), ← fieldsConform_iff, ← narrowedFields_eq_map]
          simp [narrowed, object, and_assoc, Declares]

/-- Every check that a parse comes to run answers, whatever the value is. -/
def ChecksAnswer (schema : Schema) : Prop :=
  ∀ part content fault, PartOf part schema → ¬ CheckFaults part content fault

/-- A parse returns exactly if the value conforms, and then the narrowed value; it finds something
wrong with every other value. -/
theorem parse_decides_conformance (buildable : schema.Buildable custom)
    (literals : schema.LiteralsShort) (answers : schema.ChecksAnswer) (keys : value.KeysShort) :
    (∀ result, schema.parse value = .ok result ↔
      Conforms schema value ∧ result = narrowed schema value) ∧
    ((∃ violation, schema.parse value = .error (.invalid violation)) ↔
      ¬ Conforms schema value) := by
  have regular := buildable.regular
  have returns (result : Value) : schema.parse value = .ok result ↔
      Conforms schema value ∧ result = narrowed schema value :=
    regular.parse_eq_ok_iff literals
  have neverFaulty (fault : Fault) : schema.parse value ≠ .error (.faulty fault) := by
    rw [Ne, parse_faulty_iff regular]
    rintro (⟨_, reaches⟩ | ⟨_, part, content, follows, _, faults⟩)
    · exact not_reachesLongInteger literals keys reaches
    · exact answers part content fault (partOf_of_follow? follows) faults
  refine ⟨returns, ?_⟩
  cases ended : schema.parse value with
  | ok result =>
      have conforms := ((returns result).mp ended).1
      simpa using conforms
  | error failure =>
      cases failure with
      | faulty fault => exact absurd ended (neverFaulty fault)
      | invalid violation =>
          have rejected : ¬ Conforms schema value := fun conforms => by
            have succeeded := (returns _).mpr ⟨conforms, rfl⟩
            cases ended.symm.trans succeeded
          simpa using rejected

/-- Read-only mappings and tuples conform as well, and a field that is left out is `absent`. -/
theorem parse_of_read_only_mapping :
    let other := Refinement.ofTest "other" "Must not be zero." (.compare .different (.int 0))
    let schema : Schema := .object .required [("kind", .literal .required (.text "clock")),
      ("size", .number .optional [.positive, other]),
      ("tags", .array .required (.text .required [.nonEmptyText]) [.nonEmptyArray])]
    let value : Value := .mapping .readOnly
      [(.text "tags", .tuple [.text "a"]), (.text "kind", .text "clock")]
    schema.parse value = .ok (.object [(.text "kind", .text "clock"), (.text "size", .absent),
      (.text "tags", .list [.text "a"])]) := by
  intro other schema value
  have regular : schema.Regular (· = other) := by
    refine .object (by decide) fun field member => ?_
    obtain rfl | rfl | rfl : field = _ ∨ field = _ ∨ field = _ := by simpa using member
    · exact .literal (by decide)
    · exact .number (by simp)
    · exact .array (.text (by simp)) (by simp)
  have literals : schema.LiteralsShort := by
    subst schema
    refine literalsShort_iff.mpr ⟨by rintro _ _ ⟨⟩, fun child isChild => ?_⟩
    cases isChild with
    | @field _ _ field member =>
        obtain rfl | rfl | rfl : field = _ ∨ field = _ ∨ field = _ := by simpa using member
        · exact literalsShort_iff.mpr ⟨by rintro _ _ ⟨⟩ ⟨⟩, nofun⟩
        · exact literalsShort_iff.mpr ⟨by rintro _ _ ⟨⟩, nofun⟩
        · refine literalsShort_iff.mpr ⟨by rintro _ _ ⟨⟩, fun child isChild => ?_⟩
          cases isChild
          exact literalsShort_iff.mpr ⟨by rintro _ _ ⟨⟩, nofun⟩
  have answers : schema.ChecksAnswer := by
    refine fun part content fault nested => not_checkFaults ?_ (regular.partOf nested)
    rintro _ rfl given
    exact ⟨_, rfl⟩
  have keys : value.KeysShort := by
    have text (content : Text) : (Value.text content).KeysShort :=
      Value.keysShort_of_flat rfl rfl
    refine Value.keysShort_iff.mpr ⟨?_, fun inner child => ?_⟩
    · rintro _ ⟨⟩ entry member
      obtain rfl | rfl : entry = _ ∨ entry = _ := by simpa using member
      · simp
      · simp
    · cases child with
      | item array => cases array
      | @content _ _ entry object member =>
          cases object
          obtain rfl | rfl : entry = _ ∨ entry = _ := by simpa using member
          · refine Value.keysShort_iff.mpr ⟨by rintro _ ⟨⟩, fun inner child => ?_⟩
            cases child with
            | item array member =>
                cases array
                obtain rfl := List.mem_singleton.mp member
                exact text "a"
            | content object => cases object
          · exact text "clock"
  have conforms : Conforms schema value := by
    have equal : (Value.text "clock").equals (.text "clock") = true := by
      simp [Value.equals]
    have someText : Refinement.nonEmptyText.check (.text "a") = .ok true := by
      simp [Refinement.nonEmptyText, Value.compareWith, Value.equals]
    have someItem : Refinement.nonEmptyArray.check (.list [.text "a"]) = .ok true := rfl
    simp [schema, value, Conforms, FieldsConform, OmittedOr, Omitted, narrowed,
      Value.mappingEntries?, Value.arrayItems?, Value.lookupText, Refinement.Holds, equal,
      someText, someItem]
    rintro _ _ (⟨rfl, _⟩ | ⟨rfl, _⟩) <;> simp
  refine ((parse_decides_conformance regular.buildable literals answers keys).1 _).mpr
    ⟨conforms, ?_⟩
  simp [schema, value, narrowed, narrowedFields, Value.mappingEntries?, Value.arrayItems?,
    Value.lookupText]

end Parsing

end Schema

end ClosedShape
