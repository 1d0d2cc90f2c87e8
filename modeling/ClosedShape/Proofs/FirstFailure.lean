import ClosedShape.Proofs.BuildableSchema

/-!
# The first failure

A failed parse has one origin: a part of the schema that fails for its part of the value by itself,
without a failure further inside.  The trail of a violation is the way to that origin, and whatever
is checked before a step of the way has passed.  The failure of the whole is the one at the origin,
wrapped once for every step.
-/

namespace ClosedShape

namespace Violation

/-- A violation wrapped in each step of a trail, the first step outermost. -/
def inFields (trail : Trail) (violation : Violation) : Violation :=
  trail.foldr .inField violation

variable (trail : Trail) (violation : Violation)

@[simp]
theorem trail_inFields : (violation.inFields trail).trail = trail ++ violation.trail := by
  induction trail with
  | nil => rfl
  | cons segment trail ih => exact congrArg (segment :: ·) ih

@[simp]
theorem leaf_inFields : (violation.inFields trail).leaf = violation.leaf := by
  induction trail with
  | nil => rfl
  | cons segment trail ih => exact ih

@[simp]
theorem message_inFields : (violation.inFields trail).message = violation.message := by
  induction trail with
  | nil => rfl
  | cons segment trail ih => exact ih

/-- A finding about a value as a whole: its kind, its literal or a refinement of it. -/
def IsOfValue : Violation → Prop
  | .typeMismatch _ _ _ | .literalMismatch _ _ _ | .refinementFailure _ _ => True
  | _ => False

/-- A finding that a schema of the library makes by itself. -/
def IsOwn (violation : Violation) : Prop :=
  violation.IsOfValue ∨ ∃ key shown, violation = .unexpectedKey key shown

variable {violation}

theorem IsOwn.trail_eq_nil (own : violation.IsOwn) : violation.trail = [] := by
  obtain ofValue | ⟨_, _, rfl⟩ := own
  · cases violation <;> first | rfl | exact ofValue.elim
  · rfl

theorem IsOwn.leaf_eq_self (own : violation.IsOwn) : violation.leaf = violation := by
  obtain ofValue | ⟨_, _, rfl⟩ := own
  · cases violation <;> first | rfl | exact ofValue.elim
  · rfl

end Violation

namespace Failure

/-- A failure wrapped in each step of a trail.  Faults are not wrapped. -/
def inFields (trail : Trail) (failure : Failure) : Failure := trail.foldr inField failure

@[simp]
theorem inFields_invalid (trail : Trail) (violation : Violation) :
    (Failure.invalid violation).inFields trail = .invalid (violation.inFields trail) := by
  induction trail with
  | nil => rfl
  | cons segment trail ih => exact congrArg (inField segment) ih

@[simp]
theorem inFields_faulty (trail : Trail) (fault : Fault) :
    (Failure.faulty fault).inFields trail = .faulty fault := by
  induction trail with
  | nil => rfl
  | cons segment trail ih => exact congrArg (inField segment) ih

end Failure

namespace Schema

/-- The part of a schema and of a value that one step leads to: a name to the field of that name
and what the mapping has under it, an index to the element and the item in that place. -/
def descend? : Schema → Value → Segment → Option (Schema × Value)
  | .object _ fields, value, .name name =>
      match value.mappingEntries?, fields.lookup name with
      | some entries, some part => some (part, Value.lookupText entries name)
      | _, _ => none
  | .array _ element _, value, .index (.ofNat place) =>
      match value.arrayItems? with
      | some items => items[place]?.map fun item => (element, item)
      | none => none
  | _, _, _ => none

/-- Follows a trail down a schema and a value together. -/
def follow? : Trail → Schema → Value → Option (Schema × Value)
  | [], schema, value => some (schema, value)
  | segment :: trail, schema, value =>
      match schema.descend? value segment with
      | some (part, content) => follow? trail part content
      | none => none

/-- What is checked before a step has passed: every key is declared and every earlier field
parses, or every earlier item does. -/
def EarlierPass : Schema → Value → Segment → Prop
  | .object _ fields, value, .name name =>
      ∃ entries, value.mappingEntries? = some entries ∧
        (∀ entry ∈ entries, Declares fields entry.1) ∧
          ∀ field ∈ fields.takeWhile fun field => field.1 != name, ∃ result,
            field.2.parse (Value.lookupText entries field.1) = .ok result
  | .array _ element _, value, .index (.ofNat place) =>
      ∃ items, value.arrayItems? = some items ∧
        ∀ item ∈ items.take place, ∃ result, element.parse item = .ok result
  | _, _, _ => False

/-- What is checked before each step of a trail has passed. -/
def ClearTo : Trail → Schema → Value → Prop
  | [], _, _ => True
  | segment :: trail, schema, value =>
      EarlierPass schema value segment ∧
        ∃ part content, schema.descend? value segment = some (part, content) ∧
          ClearTo trail part content

/-- A schema without parts of its own. -/
def IsScalar : Schema → Prop
  | .array _ _ _ | .object _ _ => False
  | _ => True

/-- A schema fails for a value by itself: all its parts that are parsed succeed. -/
inductive FailsHere : Schema → Value → Failure → Prop
  | scalar {schema : Schema} {value : Value} {failure : Failure} (scalar : schema.IsScalar)
      (fails : schema.parse value = .error failure) : FailsHere schema value failure
  | notArray {presence : Presence} {element : Schema} {refinements : List Refinement}
      {value : Value} (provided : ¬ Omitted presence value) (other : value.arrayItems? = none) :
      FailsHere (.array presence element refinements) value
        (.invalid (typeMismatch "Must be an array." "array" value))
  | unsatisfied {presence : Presence} {element : Schema} {refinements : List Refinement}
      {value : Value} {items narrowed : List Value} {failure : Failure}
      (array : value.arrayItems? = some items)
      (parsed : List.Forall₂ (fun item part => element.parse item = .ok part) items narrowed)
      (fails : Refinement.applyAll refinements (.list narrowed) = .error failure) :
      FailsHere (.array presence element refinements) value failure
  | notObject {presence : Presence} {fields : List (Text × Schema)} {value : Value}
      (provided : ¬ Omitted presence value) (other : value.mappingEntries? = none) :
      FailsHere (.object presence fields) value
        (.invalid (typeMismatch "Must be an object." "object" value))
  | undeclared {presence : Presence} {fields : List (Text × Schema)} {value : Value}
      {entries : List (Value × Value)} {key : Value}
      (object : value.mappingEntries? = some entries)
      (first : FirstUndeclared fields entries key) :
      FailsHere (.object presence fields) value (undeclaredFailure key)

section Descent

variable {presence : Presence} {value : Value} {segment : Segment} {part : Schema}
  {content : Value}

theorem descend?_array_eq_some_iff {element : Schema} {refinements : List Refinement} :
    (Schema.array presence element refinements).descend? value segment = some (part, content) ↔
      ∃ (place : Nat) (items : List Value), segment = .index place ∧
        value.arrayItems? = some items ∧ items[place]? = some content ∧ part = element := by
  constructor
  · intro descends
    unfold descend? at descends
    split at descends
    · contradiction
    · rename_i place equal
      cases equal
      split at descends
      · rename_i items array
        obtain ⟨item, found, equal⟩ := Option.map_eq_some_iff.mp descends
        cases equal
        exact ⟨place, items, rfl, array, found, rfl⟩
      · cases descends
    · cases descends
  · rintro ⟨place, items, rfl, array, found, rfl⟩
    simp [descend?, array, found]

theorem descend?_object_eq_some_iff {fields : List (Text × Schema)} :
    (Schema.object presence fields).descend? value segment = some (part, content) ↔
      ∃ name entries, segment = .name name ∧ value.mappingEntries? = some entries ∧
        fields.lookup name = some part ∧ content = Value.lookupText entries name := by
  constructor
  · intro descends
    unfold descend? at descends
    split at descends
    · rename_i name equal
      cases equal
      split at descends
      · rename_i entries schema object named
        cases descends
        exact ⟨name, entries, rfl, object, named, rfl⟩
      · cases descends
    · contradiction
    · cases descends
  · rintro ⟨name, entries, rfl, object, named, rfl⟩
    simp [descend?, object, named]

theorem child_of_descend? {schema : Schema}
    (descends : schema.descend? value segment = some (part, content)) : part.Child schema := by
  cases schema with
  | array presence element refinements =>
      obtain ⟨_, _, _, _, _, rfl⟩ := descend?_array_eq_some_iff.mp descends
      exact .element
  | object presence fields =>
      obtain ⟨name, _, _, _, named, _⟩ := descend?_object_eq_some_iff.mp descends
      obtain ⟨before, after, rfl, _⟩ := List.lookup_eq_some_iff.mp named
      have member : (name, part) ∈ before ++ (name, part) :: after := by simp
      exact .field member
  | _ => cases descends

theorem partOf_of_follow? {trail : Trail} {schema : Schema}
    (follows : follow? trail schema value = some (part, content)) : part.PartOf schema := by
  induction trail generalizing schema value with
  | nil =>
      cases follows
      exact .refl
  | cons segment trail ih =>
      unfold follow? at follows
      split at follows
      · exact (ih follows).tail (child_of_descend? ‹_›)
      · cases follows

end Descent

theorem not_omitted_of_arrayItems? {presence : Presence} {value : Value} {items : List Value}
    (array : value.arrayItems? = some items) : ¬ Omitted presence value := by
  rintro ⟨_, rfl⟩
  cases array

theorem not_omitted_of_mappingEntries? {presence : Presence} {value : Value}
    {entries : List (Value × Value)} (object : value.mappingEntries? = some entries) :
    ¬ Omitted presence value := by
  rintro ⟨_, rfl⟩
  cases object

/-- A schema fails for a value because a part of it fails for a part of the value, where nothing
that is checked earlier fails. -/
def FailsInside (schema : Schema) (value : Value) (failure : Failure) : Prop :=
  ∃ segment part content inner, schema.descend? value segment = some (part, content) ∧
    EarlierPass schema value segment ∧ part.parse content = .error inner ∧
      failure = inner.inField segment

section Steps

variable {presence : Presence} {value : Value} {failure : Failure}

theorem exists_clearStep_array_iff {element : Schema} {refinements : List Refinement}
    (holds : Segment → Schema → Value → Prop) :
    (∃ segment part content,
      (Schema.array presence element refinements).descend? value segment = some (part, content) ∧
        EarlierPass (.array presence element refinements) value segment ∧
          holds segment part content) ↔
      ∃ items, value.arrayItems? = some items ∧
        ∃ before item after, items = before ++ item :: after ∧
          (∀ earlier ∈ before, ∃ part, element.parse earlier = .ok part) ∧
            holds (.index before.length) element item := by
  constructor
  · rintro ⟨segment, part, content, descends, clear, held⟩
    obtain ⟨place, items, rfl, array, found, rfl⟩ := descend?_array_eq_some_iff.mp descends
    obtain ⟨_, sameArray, earlier⟩ := clear
    cases array.symm.trans sameArray
    obtain ⟨inside, rfl⟩ := List.getElem?_eq_some_iff.mp found
    refine ⟨items, array, items.take place, items[place], items.drop (place + 1), ?_, earlier, ?_⟩
    · simp
    · rwa [List.length_take_of_le (Nat.le_of_lt inside)]
  · rintro ⟨items, array, before, item, after, rfl, earlier, held⟩
    refine ⟨.index before.length, element, item, ?_, ⟨_, array, ?_⟩, held⟩
    · exact descend?_array_eq_some_iff.mpr ⟨before.length, _, rfl, array, by simp, rfl⟩
    · simpa using earlier

/-- Distinct names make the first field of a name the only one. -/
theorem exists_clearStep_object_iff {fields : List (Text × Schema)}
    (distinct : (fields.map Prod.fst).Nodup) (holds : Segment → Schema → Value → Prop) :
    (∃ segment part content,
      (Schema.object presence fields).descend? value segment = some (part, content) ∧
        EarlierPass (.object presence fields) value segment ∧ holds segment part content) ↔
      ∃ entries, value.mappingEntries? = some entries ∧
        (∀ entry ∈ entries, Declares fields entry.1) ∧
          ∃ before field after, fields = before ++ field :: after ∧
            (∀ earlier ∈ before, ∃ part,
              earlier.2.parse (Value.lookupText entries earlier.1) = .ok part) ∧
              holds (.name field.1) field.2 (Value.lookupText entries field.1) := by
  have earlierFields (field : Text × Schema) {before after : List (Text × Schema)}
      (different : ∀ other ∈ before, (field.1 != other.1) = true) :
      (before ++ field :: after).takeWhile (fun other => other.1 != field.1) = before := by
    rw [List.takeWhile_append_of_pos fun other member => by
      simpa [bne_comm] using different other member]
    simp
  constructor
  · rintro ⟨segment, part, content, descends, clear, held⟩
    obtain ⟨name, entries, rfl, object, named, rfl⟩ := descend?_object_eq_some_iff.mp descends
    obtain ⟨_, sameObject, declared, earlier⟩ := clear
    cases object.symm.trans sameObject
    obtain ⟨before, after, rfl, different⟩ := List.lookup_eq_some_iff.mp named
    rw [earlierFields (name, part) different] at earlier
    exact ⟨entries, object, declared, before, (name, part), after, rfl, earlier, held⟩
  · rintro ⟨entries, object, declared, before, field, after, rfl, earlier, held⟩
    have different : ∀ other ∈ before, (field.1 != other.1) = true := by
      intro other member
      have apart := (List.nodup_append.mp (by simpa using distinct)).2.2
      simpa using (apart other.1 (List.mem_map_of_mem member) field.1 (by simp)).symm
    refine ⟨.name field.1, field.2, _, ?_, ⟨entries, object, declared, ?_⟩, held⟩
    · exact descend?_object_eq_some_iff.mpr ⟨field.1, entries, rfl, object,
        List.lookup_eq_some_iff.mpr ⟨before, after, rfl, different⟩, rfl⟩
    · rwa [earlierFields field different]

theorem failsInside_array_iff {element : Schema} {refinements : List Refinement} :
    FailsInside (.array presence element refinements) value failure ↔
      ∃ items, value.arrayItems? = some items ∧
        ∃ before item after, items = before ++ item :: after ∧
          (∀ earlier ∈ before, ∃ part, element.parse earlier = .ok part) ∧
            ∃ inner, element.parse item = .error inner ∧
              failure = inner.inField (.index before.length) := by
  simp only [FailsInside, exists_and_left]
  exact exists_clearStep_array_iff fun segment part content =>
    ∃ inner, part.parse content = .error inner ∧ failure = inner.inField segment

theorem failsInside_object_iff {fields : List (Text × Schema)}
    (distinct : (fields.map Prod.fst).Nodup) :
    FailsInside (.object presence fields) value failure ↔
      ∃ entries, value.mappingEntries? = some entries ∧
        (∀ entry ∈ entries, Declares fields entry.1) ∧
          ∃ before field after, fields = before ++ field :: after ∧
            (∀ earlier ∈ before, ∃ part,
              earlier.2.parse (Value.lookupText entries earlier.1) = .ok part) ∧
              ∃ inner, field.2.parse (Value.lookupText entries field.1) = .error inner ∧
                failure = inner.inField (.name field.1) := by
  simp only [FailsInside, exists_and_left]
  exact exists_clearStep_object_iff distinct fun segment part content =>
    ∃ inner, part.parse content = .error inner ∧ failure = inner.inField segment

/-- One step towards the origin of a failure. -/
theorem parse_eq_error_iff_fails {schema : Schema} (distinct : schema.FieldsDistinct) :
    schema.parse value = .error failure ↔
      FailsHere schema value failure ∨ FailsInside schema value failure := by
  cases schema with
  | array presence element refinements =>
      rw [parse_array_eq_error_iff, failsInside_array_iff]
      constructor
      · rintro ⟨provided, ⟨other, rfl⟩ | ⟨items, array, inside | ⟨narrowed, parsed, fails⟩⟩⟩
        · exact .inl (.notArray provided other)
        · exact .inr ⟨items, array, inside⟩
        · exact .inl (.unsatisfied array parsed fails)
      · rintro (here | ⟨items, array, inside⟩)
        · cases here with
          | scalar scalar => exact scalar.elim
          | notArray provided other => exact ⟨provided, .inl ⟨other, rfl⟩⟩
          | unsatisfied array parsed fails =>
              exact ⟨not_omitted_of_arrayItems? array,
                .inr ⟨_, array, .inr ⟨_, parsed, fails⟩⟩⟩
        · exact ⟨not_omitted_of_arrayItems? array, .inr ⟨items, array, .inl inside⟩⟩
  | object presence fields =>
      rw [parse_object_eq_error_iff, failsInside_object_iff (distinct _ _ .refl)]
      constructor
      · rintro ⟨provided, ⟨other, rfl⟩ | ⟨entries, object, ⟨key, first, rfl⟩ | inside⟩⟩
        · exact .inl (.notObject provided other)
        · exact .inl (.undeclared object first)
        · exact .inr ⟨entries, object, inside⟩
      · rintro (here | ⟨entries, object, inside⟩)
        · cases here with
          | scalar scalar => exact scalar.elim
          | notObject provided other => exact ⟨provided, .inl ⟨other, rfl⟩⟩
          | undeclared object first =>
              exact ⟨not_omitted_of_mappingEntries? object,
                .inr ⟨_, object, .inl ⟨_, first, rfl⟩⟩⟩
        · exact ⟨not_omitted_of_mappingEntries? object, .inr ⟨entries, object, .inr inside⟩⟩
  | _ =>
      constructor
      · exact fun fails => .inl (.scalar trivial fails)
      · rintro (here | ⟨_, _, _, _, descends, _⟩)
        · cases here
          assumption
        · cases descends

end Steps

/-- The whole way to the origin of a failure. -/
theorem parse_eq_error_iff_origin {schema : Schema} (distinct : schema.FieldsDistinct)
    {value : Value} {failure : Failure} :
    schema.parse value = .error failure ↔
      ∃ trail part content origin, follow? trail schema value = some (part, content) ∧
        ClearTo trail schema value ∧ FailsHere part content origin ∧
          failure = origin.inFields trail := by
  induction schema using wellFounded_child.induction generalizing value failure with
  | _ schema ih =>
    rw [parse_eq_error_iff_fails distinct]
    constructor
    · rintro (here | ⟨segment, part, content, inner, descends, clear, fails, rfl⟩)
      · exact ⟨[], schema, value, failure, rfl, trivial, here, rfl⟩
      · have child := child_of_descend? descends
        obtain ⟨trail, last, rest, origin, follows, clearRest, here, rfl⟩ :=
          (ih part child (distinct.partOf (.single child))).mp fails
        exact ⟨segment :: trail, last, rest, origin, by simpa [follow?, descends] using follows,
          ⟨clear, part, content, descends, clearRest⟩, here, rfl⟩
    · rintro ⟨_ | ⟨segment, trail⟩, last, rest, origin, follows, clear, here, rfl⟩
      · cases follows
        exact .inl here
      · obtain ⟨clear, part, content, descends, clearRest⟩ := clear
        have child := child_of_descend? descends
        have followsRest : follow? trail part content = some (last, rest) := by
          simpa [follow?, descends] using follows
        exact .inr ⟨segment, part, content, origin.inFields trail, descends, clear,
          (ih part child (distinct.partOf (.single child))).mpr
            ⟨trail, last, rest, origin, followsRest, clearRest, here, rfl⟩, rfl⟩

section Leaves

theorem isOfValue_of_applyAll {refinements : List Refinement} {value : Value}
    {violation : Violation}
    (fails : Refinement.applyAll refinements value = .error (.invalid violation)) :
    violation.IsOfValue := by
  obtain ⟨_, refinement, _, _, _, fails⟩ := Refinement.applyAll_eq_error_iff.mp fails
  obtain ⟨_, _, equal⟩ | ⟨_, equal⟩ := Refinement.apply_eq_error_iff.mp fails <;> cases equal
  trivial

theorem isOfValue_of_isScalar {custom : Refinement → Prop} {schema : Schema}
    (regular : schema.Regular custom) (scalar : schema.IsScalar) {value : Value}
    {violation : Violation} (fails : schema.parse value = .error (.invalid violation)) :
    violation.IsOfValue := by
  cases regular with
  | number =>
      simp only [parse, run, outcome_guardPresence_eq_error_iff,
        outcome_parseNumber_eq_error_iff] at fails
      obtain ⟨_, ⟨_, equal⟩ | ⟨_, fails⟩⟩ := fails
      · cases equal
        trivial
      · exact isOfValue_of_applyAll fails
  | text =>
      simp only [parse, run, outcome_guardPresence_eq_error_iff,
        outcome_parseText_eq_error_iff] at fails
      obtain ⟨_, ⟨_, equal⟩ | ⟨_, fails⟩⟩ := fails
      · cases equal
        trivial
      · exact isOfValue_of_applyAll fails
  | boolean =>
      simp only [parse, run, outcome_guardPresence_eq_error_iff,
        outcome_parseBoolean_eq_error_iff] at fails
      obtain ⟨_, _, equal⟩ := fails
      cases equal
      trivial
  | function =>
      simp only [parse, run, outcome_guardPresence_eq_error_iff,
        outcome_parseFunction_eq_error_iff] at fails
      obtain ⟨_, _, equal⟩ := fails
      cases equal
      trivial
  | literal =>
      simp only [parse, run, outcome_guardPresence_eq_error_iff,
        outcome_parseLiteral_eq_error_iff] at fails
      obtain ⟨_, ⟨_, _, equal⟩ | ⟨_, _, ⟨_, equal⟩ | ⟨_, _, equal⟩⟩⟩ := fails <;> cases equal <;>
        trivial
  | array => exact scalar.elim
  | object => exact scalar.elim

/-- What a buildable schema finds by itself is about the whole value, or it is the first key of a
mapping that is not declared. -/
theorem FailsHere.violation {custom : Refinement → Prop} {part : Schema} {content : Value}
    {failure : Failure} {violation : Violation} (here : FailsHere part content failure)
    (regular : part.Regular custom) (invalid : failure = .invalid violation) :
    violation.IsOfValue ∨
      ∃ presence fields entries key shown, part = .object presence fields ∧
        content.mappingEntries? = some entries ∧ FirstUndeclared fields entries key ∧
          violation = .unexpectedKey key shown := by
  cases here with
  | scalar scalar fails =>
      subst invalid
      exact .inl (isOfValue_of_isScalar regular scalar fails)
  | notArray | notObject =>
      cases invalid
      exact .inl trivial
  | unsatisfied _ _ fails =>
      subst invalid
      exact .inl (isOfValue_of_applyAll fails)
  | @undeclared presence fields _ entries key object first =>
      unfold undeclaredFailure at invalid
      split at invalid <;> cases invalid
      exact .inr ⟨presence, fields, entries, key, _, rfl, object, first, rfl⟩

theorem FailsHere.isOwn {custom : Refinement → Prop} {part : Schema} {content : Value}
    {violation : Violation} (here : FailsHere part content (.invalid violation))
    (regular : part.Regular custom) : violation.IsOwn := by
  obtain ofValue | ⟨_, _, _, key, shown, _, _, _, equal⟩ := here.violation regular rfl
  · exact .inl ofValue
  · exact .inr ⟨key, shown, equal⟩

end Leaves

/-- The trail of a violation can be followed, it is clear, and it ends at the part that fails by
itself with the innermost finding. -/
theorem Regular.exists_failsHere_of_violation {custom : Refinement → Prop} {schema : Schema}
    (regular : schema.Regular custom) {value : Value} {violation : Violation}
    (failed : schema.parse value = .error (.invalid violation)) :
    ∃ part content, follow? violation.trail schema value = some (part, content) ∧
      part.Regular custom ∧ ClearTo violation.trail schema value ∧
        FailsHere part content (.invalid violation.leaf) := by
  obtain ⟨trail, part, content, origin, follows, clear, here, wrapped⟩ :=
    (parse_eq_error_iff_origin regular.fieldsDistinct).mp failed
  have partRegular : part.Regular custom := regular.partOf (partOf_of_follow? follows)
  cases origin with
  | faulty fault => simp at wrapped
  | invalid leaf =>
      obtain rfl : violation = leaf.inFields trail := by simpa using wrapped
      have own : leaf.IsOwn := here.isOwn partRegular
      have innermost : (leaf.inFields trail).leaf = leaf := by
        rw [Violation.leaf_inFields, own.leaf_eq_self]
      have way : (leaf.inFields trail).trail = trail := by
        rw [Violation.trail_inFields, own.trail_eq_nil, List.append_nil]
      rw [innermost, way]
      exact ⟨part, content, follows, partRegular, clear, here⟩

/-- The trail of a violation can be followed, it leads to the part that fails by itself with the
innermost finding, and everything that is checked before that part has passed. -/
theorem violation_trail_leads_to_first_failure {custom : Refinement → Prop} {schema : Schema}
    (buildable : schema.Buildable custom) {value : Value} {violation : Violation}
    (failed : schema.parse value = .error (.invalid violation)) :
    ∃ part content, follow? violation.trail schema value = some (part, content) ∧
      part.parse content = .error (.invalid violation.leaf) ∧
      violation.leaf.trail = [] ∧
      (∀ segment cause, violation.leaf ≠ .inField segment cause) ∧
      ClearTo violation.trail schema value ∧
      ∀ key shown, violation.leaf = .unexpectedKey key shown →
        ∃ presence fields entries, part = .object presence fields ∧
          content.mappingEntries? = some entries ∧ FirstUndeclared fields entries key := by
  obtain ⟨part, content, follows, regular, clear, here⟩ :=
    buildable.regular.exists_failsHere_of_violation failed
  have own : violation.leaf.IsOwn := here.isOwn regular
  refine ⟨part, content, follows, ?_, own.trail_eq_nil, ?_, clear, ?_⟩
  · exact (parse_eq_error_iff_fails regular.fieldsDistinct).mpr (.inl here)
  · intro segment cause wrapped
    rw [wrapped] at own
    obtain ofValue | ⟨_, _, equal⟩ := own
    · exact ofValue
    · cases equal
  · intro key shown unexpected
    have found := here.violation regular rfl
    rw [unexpected] at found
    obtain ofValue | ⟨presence, fields, entries, _, _, object, mapping, first, equal⟩ := found
    · exact ofValue.elim
    · cases equal
      exact ⟨presence, fields, entries, object, mapping, first⟩

theorem trail_of_nested_violation_leads_to_first_failure :
    let schema : Schema := .object .required [("title", .text .required []),
      ("apps", .array .required (.object .required
        [("bundleId", .text .required [.nonEmptyText])]) [])]
    let value : Value := .object [(.text "apps", .list [.object [(.text "bundleId", .text "a")],
      .object [(.text "bundleId", .text "")]]), (.text "title", .text "x")]
    let leaf : Violation := .refinementFailure "Must be a non-empty string." "non_empty"
    let violation : Violation :=
      .inField (.name "apps") (.inField (.index 1) (.inField (.name "bundleId") leaf))
    schema.Buildable (fun _ => False) ∧ schema.parse value = .error (.invalid violation) ∧
      ∃ part content, follow? violation.trail schema value = some (part, content) ∧
        part.parse content = .error (.invalid leaf) ∧ ClearTo violation.trail schema value := by
  intro schema value leaf violation
  have buildable : schema.Buildable fun _ => False := by
    refine Regular.buildable (.object (by decide) ?_)
    simp only [List.forall_mem_cons, List.not_mem_nil, false_implies, implies_true, and_true]
    exact ⟨.text (by simp), .array (.object (by decide) (by simpa using .text (by simp)))
      (by simp)⟩
  have failed : schema.parse value = .error (.invalid violation) := by cbv
  obtain ⟨part, content, follows, fails, _, _, clear, _⟩ :=
    violation_trail_leads_to_first_failure buildable failed
  exact ⟨buildable, failed, part, content, follows, fails, clear⟩

end Schema

end ClosedShape
