import ClosedShape.Proofs.FirstFailure

/-!
# The two kinds of a type mismatch

A type mismatch names the kind that a schema expects and the kind of the value that it was given.
These are always two kinds.  But objects of unknown types are named after their types, and nothing
keeps a type from having the name of a kind.  This file says exactly when a mismatch therefore
names one kind twice.
-/

namespace ClosedShape

/-- A kind that schemas tell apart from all others. -/
def Kind.IsKnown : Kind → Prop
  | .other _ => False
  | _ => True

theorem Value.kindName_eq_name_iff {value : Value} {kind : Kind} (known : kind.IsKnown) :
    value.kindName = kind.name ↔
      value.kind = kind ∨ ∃ identity, value = .opaqueObject kind.name identity := by
  cases kind with
  | other => exact known.elim
  | _ =>
      cases value <;>
        simp [Value.kindName, Value.kind, Kind.name, Value.typeName]

namespace Schema

variable {custom : Refinement → Prop} {part : Schema} {content : Value}
  {message : Text} {expected received : String}

theorem applyAll_ne_mismatch {refinements : List Refinement} :
    Refinement.applyAll refinements content ≠
      .error (.invalid (.typeMismatch message expected received)) := by
  intro fails
  obtain ⟨_, refinement, _, _, _, fails⟩ := Refinement.applyAll_eq_error_iff.mp fails
  rcases Refinement.apply_eq_error_iff.mp fails with ⟨_, _, equal⟩ | ⟨_, equal⟩ <;> cases equal

/-- The kinds of a mismatch differ, so that only an object can have the name of both. -/
theorem opaque_of_sameName (kind : Kind) (known : kind.IsKnown) (other : content.kind ≠ kind)
    (sameName : kind.name = content.kindName) :
    ∃ identity, content = .opaqueObject kind.name identity := by
  rcases (Value.kindName_eq_name_iff known).mp sameName.symm with sameKind | isObject
  · exact absurd sameKind other
  · exact isObject

/-- A mismatch that a schema finds by itself receives the kind of the value. -/
theorem Regular.mismatch_of_parse (regular : part.Regular custom)
    (fails : part.parse content =
      .error (.invalid (.typeMismatch message expected received))) :
    received = content.kindName ∧
      (expected = received → ∃ identity, content = .opaqueObject expected identity) := by
  cases regular with
  | number =>
      simp only [parse, run, outcome_guardPresence_eq_error_iff,
        outcome_parseNumber_eq_error_iff] at fails
      obtain ⟨_, ⟨noNumber, equal⟩ | ⟨_, fails⟩⟩ := fails
      · cases equal
        have other : content.kind ≠ .number := by
          cases content <;> simp_all [Value.kind, Value.isNumber]
        exact ⟨rfl, opaque_of_sameName .number trivial other⟩
      · exact absurd fails applyAll_ne_mismatch
  | text =>
      simp only [parse, run, outcome_guardPresence_eq_error_iff,
        outcome_parseText_eq_error_iff] at fails
      obtain ⟨_, ⟨noText, equal⟩ | ⟨_, fails⟩⟩ := fails
      · cases equal
        have other : content.kind ≠ .text := by
          cases content <;> simp_all [Value.kind]
        exact ⟨rfl, opaque_of_sameName .text trivial other⟩
      · exact absurd fails applyAll_ne_mismatch
  | boolean =>
      simp only [parse, run, outcome_guardPresence_eq_error_iff,
        outcome_parseBoolean_eq_error_iff] at fails
      obtain ⟨_, noBoolean, equal⟩ := fails
      cases equal
      have other : content.kind ≠ .boolean := by
        cases content <;> simp_all [Value.kind]
      exact ⟨rfl, opaque_of_sameName .boolean trivial other⟩
  | function =>
      simp only [parse, run, outcome_guardPresence_eq_error_iff,
        outcome_parseFunction_eq_error_iff] at fails
      obtain ⟨_, notCallable, equal⟩ := fails
      cases equal
      have other : content.kind ≠ .function := by
        cases content <;> simp_all [Value.kind, Value.isCallable]
      exact ⟨rfl, opaque_of_sameName .function trivial other⟩
  | literal =>
      simp only [parse, run, outcome_guardPresence_eq_error_iff,
        outcome_parseLiteral_eq_error_iff] at fails
      -- A literal compares the names themselves, so they differ for whatever value.
      obtain ⟨_, ⟨_, _, equal⟩ | ⟨_, _, ⟨otherName, equal⟩ | ⟨_, _, equal⟩⟩⟩ := fails <;>
        cases equal
      exact ⟨rfl, fun sameName => absurd sameName.symm otherName⟩
  | array =>
      obtain ⟨_, ⟨noItems, equal⟩ | ⟨_, _, inside | ⟨_, _, fails⟩⟩⟩ :=
        parse_array_eq_error_iff.mp fails
      · cases equal
        have other : content.kind ≠ .array := by
          cases content <;> simp_all [Value.kind, Value.arrayItems?]
        exact ⟨rfl, opaque_of_sameName .array trivial other⟩
      · obtain ⟨_, _, _, _, _, inner, _, equal⟩ := inside
        cases inner <;> cases equal
      · exact absurd fails applyAll_ne_mismatch
  | object =>
      obtain ⟨_, ⟨noEntries, equal⟩ | ⟨_, _, ⟨key, _, equal⟩ | ⟨_, inside⟩⟩⟩ :=
        parse_object_eq_error_iff.mp fails
      · cases equal
        have other : content.kind ≠ .object := by
          cases content <;> simp_all [Value.kind, Value.mappingEntries?]
        exact ⟨rfl, opaque_of_sameName .object trivial other⟩
      · unfold undeclaredFailure at equal
        split at equal <;> cases equal
      · obtain ⟨_, _, _, _, _, inner, _, equal⟩ := inside
        cases inner <;> cases equal

/-- A type mismatch names two different kinds, unless its trail leads to an object of an unknown
type that has the name of the kind that is expected there. -/
theorem mismatch_names_one_kind_iff {schema : Schema} (buildable : schema.Buildable custom)
    {value : Value} {violation : Violation}
    (failed : schema.parse value = .error (.invalid violation))
    (mismatch : violation.leaf = .typeMismatch message expected received) :
    expected = received ↔ ∃ part identity,
      follow? violation.trail schema value = some (part, .opaqueObject expected identity) := by
  obtain ⟨part, content, follows, regular, _, here⟩ :=
    buildable.regular.exists_failsHere_of_violation failed
  have fails := (parse_eq_error_iff_fails regular.fieldsDistinct).mpr (.inl here)
  rw [mismatch] at fails
  obtain ⟨receivedKind, isObject⟩ := regular.mismatch_of_parse fails
  constructor
  · intro sameName
    obtain ⟨identity, rfl⟩ := isObject sameName
    exact ⟨part, identity, follows⟩
  · rintro ⟨otherPart, identity, followsToo⟩
    have sameEnd := follows.symm.trans followsToo
    cases sameEnd
    exact receivedKind.symm

/-- The second of two objects has the name of a kind, but not the one that is expected. -/
theorem mismatch_names_one_kind_inside_array :
    let schema : Schema := .array .required (.function .optional) []
    let value (typeName : String) : Value :=
      .tuple [.function "render", .opaqueObject typeName 0]
    let violation (typeName : String) : Violation :=
      .inField (.index 1) (.typeMismatch "Must be a function." "function" typeName)
    (∀ typeName, schema.parse (value typeName) = .error (.invalid (violation typeName))) ∧
      (∃ part identity, follow? [.index 1] schema (value "function") =
        some (part, .opaqueObject "function" identity)) ∧
      ¬ ∃ part identity, follow? [.index 1] schema (value "number") =
        some (part, .opaqueObject "function" identity) := by
  intro schema value violation
  have buildable : schema.Buildable fun _ => False :=
    Regular.buildable (.array .function (by simp))
  have failed (typeName : String) :
      schema.parse (value typeName) = .error (.invalid (violation typeName)) := rfl
  refine ⟨failed, ?_, ?_⟩
  · exact (mismatch_names_one_kind_iff buildable (failed "function") rfl).mp rfl
  · have differ : "function" ≠ "number" := by decide
    exact mt (mismatch_names_one_kind_iff buildable (failed "number") rfl).mpr differ

/-- An object whose type is called `array` is no array, and still the mismatch says that an array
was expected and an array received. -/
theorem mismatch_expects_and_receives_array :
    ∃ schema, array? (.ofSchema (.number .required [])) = .ok schema ∧
      schema.parse (.opaqueObject "array" 0) =
        .error (.invalid (.typeMismatch "Must be an array." "array" "array")) :=
  ⟨_, rfl, rfl⟩

end Schema

end ClosedShape
