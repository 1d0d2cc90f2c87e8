import ClosedShape.Proofs.CheckOutcome
import ClosedShape.Proofs.FirstFailure
import ClosedShape.Proofs.ValueText

/-!
# When parsing ends in a fault

A parse is meant to find something wrong with the value or to return it, but two things besides
foreign code can keep it from either: a refinement that does not answer, and an integer too long to
be written into a message.  With the refinements of the library only the second is left, and this
file says exactly when it happens.
-/

namespace ClosedShape

namespace Value

/-- One value is an item of another, or what the other has under a key. -/
inductive Child : Value → Value → Prop
  | item {value item : Value} {items : List Value} (array : value.arrayItems? = some items)
      (member : item ∈ items) : Child item value
  | content {value : Value} {entries : List (Value × Value)} {entry : Value × Value}
      (object : value.mappingEntries? = some entries) (member : entry ∈ entries) :
      Child entry.2 value

/-- One value is somewhere inside another, or is the other itself. -/
abbrev Inside : Value → Value → Prop := Relation.ReflTransGen Child

/-- Something holds of the entries of every mapping inside a value. -/
def Everywhere (holds : List (Value × Value) → Prop) (value : Value) : Prop :=
  ∀ (container : Value) (entries : List (Value × Value)), container.Inside value →
    container.mappingEntries? = some entries → holds entries

section Everywhere

variable {holds : List (Value × Value) → Prop} {value : Value}

theorem everywhere_iff :
    value.Everywhere holds ↔ (∀ entries, value.mappingEntries? = some entries → holds entries) ∧
      ∀ inner : Value, inner.Child value → inner.Everywhere holds := by
  constructor
  · intro everywhere
    exact ⟨fun entries => everywhere value entries .refl,
      fun inner child container entries inside => everywhere container entries (inside.tail child)⟩
  · rintro ⟨here, deeper⟩ container entries inside object
    rcases inside.cases_tail with rfl | ⟨inner, inside, child⟩
    · exact here entries object
    · exact deeper inner child container entries inside object

theorem Everywhere.child {inner : Value} (everywhere : value.Everywhere holds)
    (isChild : inner.Child value) : inner.Everywhere holds :=
  (everywhere_iff.mp everywhere).2 inner isChild

theorem everywhere_of_flat (noItems : value.arrayItems? = none)
    (noEntries : value.mappingEntries? = none) : value.Everywhere holds := by
  rw [everywhere_iff]
  refine ⟨by simp [noEntries], fun inner child => ?_⟩
  cases child with
  | item array => cases noItems.symm.trans array
  | content object => cases noEntries.symm.trans object

/-- What is under a key is inside the mapping, or it is nothing at all. -/
theorem Everywhere.lookupText {entries : List (Value × Value)}
    (everywhere : value.Everywhere holds) (object : value.mappingEntries? = some entries)
    (name : Text) : (Value.lookupText entries name).Everywhere holds := by
  by_cases omitted : Value.lookupText entries name = .absent
  · rw [omitted]
    exact everywhere_of_flat rfl rfl
  · exact everywhere.child (.content object (mem_of_lookupText_ne_absent omitted))

end Everywhere

/-- No key holds a long integer, in any mapping inside the value. -/
def KeysShort (value : Value) : Prop :=
  ∀ (container : Value) (entries : List (Value × Value)), container.Inside value →
    container.mappingEntries? = some entries → ∀ entry ∈ entries, ¬ entry.1.HoldsLongInteger

theorem keysShort_iff {value : Value} :
    value.KeysShort ↔
      (∀ entries, value.mappingEntries? = some entries →
        ∀ entry ∈ entries, ¬ entry.1.HoldsLongInteger) ∧
      ∀ inner : Value, inner.Child value → inner.KeysShort :=
  everywhere_iff

theorem keysShort_of_flat {value : Value} (noItems : value.arrayItems? = none)
    (noEntries : value.mappingEntries? = none) : value.KeysShort :=
  everywhere_of_flat noItems noEntries

end Value

namespace Schema

/-- A long integer has to be shown: by the literal that the value is compared with, or by the first
key of the value that is not declared. -/
inductive ShowsLongInteger : Schema → Value → Prop
  | literal {presence : Presence} {expected value : Value} (provided : ¬ Omitted presence value)
      (long : expected.HoldsLongInteger) : ShowsLongInteger (.literal presence expected) value
  | undeclared {presence : Presence} {fields : List (Text × Schema)} {value key : Value}
      {entries : List (Value × Value)} (object : value.mappingEntries? = some entries)
      (first : FirstUndeclared fields entries key) (long : key.HoldsLongInteger) :
      ShowsLongInteger (.object presence fields) value

/-- A check of a refinement that is run on a value, or on the list of its narrowed items, does not
answer. -/
inductive CheckFaults : Schema → Value → Fault → Prop
  | number {presence : Presence} {refinements : List Refinement} {value : Value} {fault : Fault}
      (number : value.isNumber = true)
      (fails : Refinement.applyAll refinements value = .error (.faulty fault)) :
      CheckFaults (.number presence refinements) value fault
  | text {presence : Presence} {refinements : List Refinement} {content : Text} {fault : Fault}
      (fails : Refinement.applyAll refinements (.text content) = .error (.faulty fault)) :
      CheckFaults (.text presence refinements) (.text content) fault
  | array {presence : Presence} {element : Schema} {refinements : List Refinement} {value : Value}
      {items narrowed : List Value} {fault : Fault} (array : value.arrayItems? = some items)
      (parsed : List.Forall₂ (fun item part => element.parse item = .ok part) items narrowed)
      (fails : Refinement.applyAll refinements (.list narrowed) = .error (.faulty fault)) :
      CheckFaults (.array presence element refinements) value fault

section Origins

variable {custom : Refinement → Prop} {part : Schema} {content : Value} {fault : Fault}

theorem undeclaredFailure_eq_faulty_iff {key : Value} :
    undeclaredFailure key = .faulty fault ↔ fault = .integerTooLong ∧ key.HoldsLongInteger := by
  rw [← key.display_tooLongIff fault]
  unfold undeclaredFailure
  split <;> simp_all

theorem parse_number_faulty_iff {presence : Presence} {refinements : List Refinement} :
    (Schema.number presence refinements).parse content = .error (.faulty fault) ↔
      content.isNumber = true ∧
        Refinement.applyAll refinements content = .error (.faulty fault) := by
  simp only [parse, run, outcome_guardPresence_eq_error_iff, outcome_parseNumber_eq_error_iff]
  constructor
  · rintro ⟨_, ⟨_, ⟨⟩⟩ | number⟩
    exact number
  · intro number
    refine ⟨?_, .inr number⟩
    rintro ⟨_, rfl⟩
    cases number.1

theorem parse_text_faulty_iff {presence : Presence} {refinements : List Refinement} :
    (Schema.text presence refinements).parse content = .error (.faulty fault) ↔
      (∃ characters, content = .text characters) ∧
        Refinement.applyAll refinements content = .error (.faulty fault) := by
  simp only [parse, run, outcome_guardPresence_eq_error_iff, outcome_parseText_eq_error_iff]
  constructor
  · rintro ⟨_, ⟨_, ⟨⟩⟩ | text⟩
    exact text
  · rintro ⟨⟨characters, rfl⟩, fails⟩
    exact ⟨by simp [Omitted], .inr ⟨⟨characters, rfl⟩, fails⟩⟩

theorem parse_boolean_ne_faulty {presence : Presence} :
    (Schema.boolean presence).parse content ≠ .error (.faulty fault) := by
  simp only [Ne, parse, run, outcome_guardPresence_eq_error_iff, outcome_parseBoolean_eq_error_iff]
  rintro ⟨_, _, ⟨⟩⟩

theorem parse_function_ne_faulty {presence : Presence} :
    (Schema.function presence).parse content ≠ .error (.faulty fault) := by
  simp only [Ne, parse, run, outcome_guardPresence_eq_error_iff,
    outcome_parseFunction_eq_error_iff]
  rintro ⟨_, _, ⟨⟩⟩

theorem parse_literal_faulty_iff {presence : Presence} {expected : Value} :
    (Schema.literal presence expected).parse content = .error (.faulty fault) ↔
      fault = .integerTooLong ∧ ¬ Omitted presence content ∧ expected.HoldsLongInteger := by
  simp only [parse, run, outcome_guardPresence_eq_error_iff, outcome_parseLiteral_eq_error_iff,
    expected.literalText_tooLongIff _]
  constructor
  · rintro ⟨provided, ⟨_, ⟨rfl, long⟩, ⟨⟩⟩ | ⟨_, _, ⟨_, ⟨⟩⟩ | ⟨_, _, ⟨⟩⟩⟩⟩
    exact ⟨rfl, provided, long⟩
  · rintro ⟨rfl, provided, long⟩
    exact ⟨provided, .inl ⟨_, ⟨rfl, long⟩, rfl⟩⟩

theorem parse_scalar_faulty_iff (regular : part.Regular custom) (scalar : part.IsScalar) :
    part.parse content = .error (.faulty fault) ↔
      fault = .integerTooLong ∧ ShowsLongInteger part content ∨
        CheckFaults part content fault := by
  cases regular with
  | number =>
      rw [parse_number_faulty_iff]
      constructor
      · rintro ⟨number, fails⟩
        exact .inr (.number number fails)
      · rintro (⟨_, shows⟩ | faults)
        · cases shows
        · cases faults with
          | number number fails => exact ⟨number, fails⟩
  | text =>
      rw [parse_text_faulty_iff]
      constructor
      · rintro ⟨⟨characters, rfl⟩, fails⟩
        exact .inr (.text fails)
      · rintro (⟨_, shows⟩ | faults)
        · cases shows
        · cases faults with
          | text fails => exact ⟨⟨_, rfl⟩, fails⟩
  | boolean =>
      refine iff_of_false parse_boolean_ne_faulty ?_
      rintro (⟨_, shows⟩ | faults)
      · cases shows
      · cases faults
  | function =>
      refine iff_of_false parse_function_ne_faulty ?_
      rintro (⟨_, shows⟩ | faults)
      · cases shows
      · cases faults
  | literal =>
      rw [parse_literal_faulty_iff]
      constructor
      · rintro ⟨rfl, provided, long⟩
        exact .inl ⟨rfl, .literal provided long⟩
      · rintro (⟨rfl, shows⟩ | faults)
        · cases shows with
          | literal provided long => exact ⟨rfl, provided, long⟩
        · cases faults
  | array => exact scalar.elim
  | object => exact scalar.elim

/-- Where a fault of a buildable schema comes from. -/
theorem failsHere_faulty_iff (regular : part.Regular custom) :
    FailsHere part content (.faulty fault) ↔
      fault = .integerTooLong ∧ ShowsLongInteger part content ∨
        CheckFaults part content fault := by
  constructor
  · intro here
    generalize given : Failure.faulty fault = failure at here
    cases here with
    | scalar scalar fails => exact (parse_scalar_faulty_iff regular scalar).mp (given ▸ fails)
    | notArray | notObject => cases given
    | unsatisfied array parsed fails => exact .inr (.array array parsed (given ▸ fails))
    | undeclared object first =>
        obtain ⟨rfl, long⟩ := undeclaredFailure_eq_faulty_iff.mp given.symm
        exact .inl ⟨rfl, .undeclared object first long⟩
  · rintro (⟨rfl, shows⟩ | faults)
    · cases shows with
      | literal provided long =>
          exact .scalar trivial ((parse_scalar_faulty_iff regular trivial).mpr
            (.inl ⟨rfl, .literal provided long⟩))
      | undeclared object first long =>
          rw [← undeclaredFailure_eq_faulty_iff.mpr ⟨rfl, long⟩]
          exact .undeclared object first
    · cases faults with
      | number number fails =>
          exact .scalar trivial ((parse_scalar_faulty_iff regular trivial).mpr
            (.inr (.number number fails)))
      | text fails =>
          exact .scalar trivial ((parse_scalar_faulty_iff regular trivial).mpr (.inr (.text fails)))
      | array array parsed fails => exact .unsatisfied array parsed fails

/-- The way to the first failure ends where a long integer has to be shown. -/
def ReachesLongInteger (schema : Schema) (value : Value) : Prop :=
  ∃ trail part content, follow? trail schema value = some (part, content) ∧
    ClearTo trail schema value ∧ ShowsLongInteger part content

theorem parse_faulty_iff {schema : Schema} {value : Value} (regular : schema.Regular custom) :
    schema.parse value = .error (.faulty fault) ↔
      fault = .integerTooLong ∧ ReachesLongInteger schema value ∨
        ∃ trail part content, follow? trail schema value = some (part, content) ∧
          ClearTo trail schema value ∧ CheckFaults part content fault := by
  rw [parse_eq_error_iff_origin regular.fieldsDistinct]
  constructor
  · rintro ⟨trail, part, content, origin, follows, clear, here, wrapped⟩
    cases origin with
    | invalid violation => simp at wrapped
    | faulty inner =>
        obtain rfl : fault = inner := by simpa using wrapped
        obtain ⟨rfl, shows⟩ | faults :=
          (failsHere_faulty_iff (regular.partOf (partOf_of_follow? follows))).mp here
        · exact .inl ⟨rfl, trail, part, content, follows, clear, shows⟩
        · exact .inr ⟨trail, part, content, follows, clear, faults⟩
  · rintro (⟨rfl, trail, part, content, follows, clear, shows⟩ |
      ⟨trail, part, content, follows, clear, faults⟩)
    · exact ⟨trail, part, content, .faulty .integerTooLong, follows, clear,
        (failsHere_faulty_iff (regular.partOf (partOf_of_follow? follows))).mpr
          (.inl ⟨rfl, shows⟩), by simp⟩
    · exact ⟨trail, part, content, .faulty fault, follows, clear,
        (failsHere_faulty_iff (regular.partOf (partOf_of_follow? follows))).mpr (.inr faults),
        by simp⟩

end Origins

section OwnRefinements

variable {value : Value} {fault : Fault}

/-- Refinements that all answer end in no fault. -/
theorem applyAll_ne_faulty {own : Refinement} {custom : Refinement → Prop}
    {refinements : List Refinement} (ownAnswers : ∃ truth, own.check value = .ok truth)
    (customAnswer : ∀ refinement, custom refinement → ∃ truth, refinement.check value = .ok truth)
    (admitted : ∀ refinement ∈ refinements, refinement = own ∨ custom refinement) :
    Refinement.applyAll refinements value ≠ .error (.faulty fault) := by
  intro fails
  obtain ⟨before, refinement, after, rfl, _, fails⟩ := Refinement.applyAll_eq_error_iff.mp fails
  have answers : ∃ truth, refinement.check value = .ok truth := by
    rcases admitted refinement (by simp) with rfl | added
    · exact ownAnswers
    · exact customAnswer refinement added
  obtain ⟨truth, answered⟩ := answers
  rcases Refinement.apply_eq_error_iff.mp fails with ⟨_, noAnswer, _⟩ | ⟨_, equal⟩
  · cases answered.symm.trans noAnswer
  · cases equal

theorem positive_answers (number : value.isNumber = true) :
    ∃ truth, Refinement.positive.check value = .ok truth := by
  cases value <;> cases number <;>
    simp [Refinement.positive, Value.compareWith, Value.order, Value.number?]

theorem nonEmptyText_answers : ∃ truth, Refinement.nonEmptyText.check value = .ok truth :=
  ⟨_, rfl⟩

theorem nonEmptyArray_answers {items : List Value} :
    ∃ truth, Refinement.nonEmptyArray.check (.list items) = .ok truth :=
  ⟨_, rfl⟩

/-- The refinements of the library answer wherever they are run. -/
theorem not_checkFaults {custom : Refinement → Prop}
    (customAnswer : ∀ refinement, custom refinement → ∀ given,
      ∃ truth, refinement.check given = .ok truth)
    {part : Schema} (regular : part.Regular custom) : ¬ CheckFaults part value fault := by
  have added (given : Value) (refinement : Refinement) (custom : custom refinement) :
      ∃ truth, refinement.check given = .ok truth :=
    customAnswer refinement custom given
  intro faults
  cases faults with
  | number number fails =>
      cases regular with
      | number admitted =>
          exact applyAll_ne_faulty (positive_answers number) (added _) admitted fails
  | text fails =>
      cases regular with
      | text admitted => exact applyAll_ne_faulty nonEmptyText_answers (added _) admitted fails
  | array _ _ fails =>
      cases regular with
      | array _ admitted =>
          exact applyAll_ne_faulty nonEmptyArray_answers (added _) admitted fails

end OwnRefinements

section ShortIntegers

/-- No literal holds a long integer, at any depth of the schema. -/
def LiteralsShort (schema : Schema) : Prop :=
  ∀ presence expected, PartOf (.literal presence expected) schema → ¬ expected.HoldsLongInteger

theorem literalsShort_iff {schema : Schema} :
    schema.LiteralsShort ↔
      (∀ presence expected, schema = .literal presence expected → ¬ expected.HoldsLongInteger) ∧
      ∀ child : Schema, child.Child schema → child.LiteralsShort := by
  constructor
  · intro short
    refine ⟨?_, fun child isChild presence expected nested =>
      short presence expected (nested.tail isChild)⟩
    rintro presence expected rfl
    exact short presence expected .refl
  · rintro ⟨here, deeper⟩ presence expected nested
    rcases nested.cases_tail with rfl | ⟨child, nested, isChild⟩
    · exact here presence expected rfl
    · exact deeper child isChild presence expected nested

section Following

variable {holds : List (Value × Value) → Prop} {schema part : Schema} {value content : Value}

theorem everywhere_of_descend? {segment : Segment} (everywhere : value.Everywhere holds)
    (descends : schema.descend? value segment = some (part, content)) :
    content.Everywhere holds := by
  cases schema with
  | array presence element refinements =>
      obtain ⟨place, items, _, array, found, _⟩ := descend?_array_eq_some_iff.mp descends
      exact everywhere.child (.item array (List.mem_of_getElem? found))
  | object presence fields =>
      obtain ⟨name, entries, _, object, _, rfl⟩ := descend?_object_eq_some_iff.mp descends
      exact everywhere.lookupText object name
  | _ => cases descends

theorem everywhere_of_follow? {trail : Trail} (everywhere : value.Everywhere holds)
    (follows : follow? trail schema value = some (part, content)) : content.Everywhere holds := by
  induction trail generalizing schema value with
  | nil =>
      cases follows
      exact everywhere
  | cons segment trail ih =>
      unfold follow? at follows
      split at follows
      · exact ih (everywhere_of_descend? everywhere ‹_›) follows
      · cases follows

end Following

theorem not_reachesLongInteger {schema : Schema} {value : Value} (literals : schema.LiteralsShort)
    (keys : value.KeysShort) : ¬ ReachesLongInteger schema value := by
  rintro ⟨trail, part, content, follows, _, shows⟩
  cases shows with
  | literal _ long => exact literals _ _ (partOf_of_follow? follows) long
  | undeclared object first long =>
      obtain ⟨entry, member, rfl⟩ := first.mem
      exact everywhere_of_follow? keys follows _ _ .refl object entry member long

end ShortIntegers

/-- A parse ends in no fault where no integer is too long and every check that it runs answers. -/
theorem Regular.parse_ne_faulty {custom : Refinement → Prop} {schema : Schema} {value : Value}
    (regular : schema.Regular custom) (literals : schema.LiteralsShort) (keys : value.KeysShort)
    (answer : ∀ trail part content fault, follow? trail schema value = some (part, content) →
      ¬ CheckFaults part content fault) (fault : Fault) :
    schema.parse value ≠ .error (.faulty fault) := by
  rw [Ne, parse_faulty_iff regular]
  rintro (⟨_, reaches⟩ | ⟨trail, part, content, follows, _, faults⟩)
  · exact not_reachesLongInteger literals keys reaches
  · exact answer trail part content fault follows faults

/-- With the refinements of the library alone a parse ends in a fault exactly if the way to its
first failure leads to a long integer that has to be shown; otherwise a check gives a result. -/
theorem parse_faulty_iff_reachesLongInteger {schema : Schema}
    (buildable : schema.Buildable fun _ => False) (value : Value) :
    (∀ fault, schema.parse value = .error (.faulty fault) ↔
      fault = .integerTooLong ∧ ReachesLongInteger schema value) ∧
    ∀ name expected, (∃ result, (Check.config name schema value expected).outcome = .ok result) ↔
      ¬ ReachesLongInteger schema value := by
  have regular := buildable.regular
  have faulty (fault : Fault) : schema.parse value = .error (.faulty fault) ↔
      fault = .integerTooLong ∧ ReachesLongInteger schema value := by
    rw [parse_faulty_iff regular]
    refine or_iff_left ?_
    rintro ⟨trail, part, content, follows, _, faults⟩
    exact not_checkFaults nofun (regular.partOf (partOf_of_follow? follows)) faults
  refine ⟨faulty, fun name expected => ?_⟩
  rw [Check.exists_outcome_config_eq_ok_iff]
  constructor
  · exact fun sound reaches => sound _ ((faulty _).mpr ⟨rfl, reaches⟩)
  · exact fun never fault fails => never ((faulty fault).mp fails).2

/-- The key is shown although the value before it is fine and nothing asks for its number. -/
theorem fault_of_long_key_inside_array :
    let schema : Schema := .array .required (.object .required [("size", .number .optional [])]) []
    let value : Value := .list [.object [], .object [(.text "size", .int 1),
      (.int integerLimit, .null)]]
    schema.Buildable (fun _ => False) ∧
      schema.parse value = .error (.faulty .integerTooLong) := by
  intro schema value
  have buildable : schema.Buildable fun _ => False := by
    refine Regular.buildable (.array (.object (by decide) ?_) (by simp))
    simpa using .number (by simp)
  have reaches : ReachesLongInteger schema value := by
    have long : (Value.int integerLimit).HoldsLongInteger := by simp
    have undeclared : FirstUndeclared [("size", .number .optional [])]
        [(.text "size", .int 1), (.int integerLimit, .null)] (.int integerLimit) :=
      ⟨[(.text "size", .int 1)], .null, [], rfl, by simp [Declares], by simp [Declares]⟩
    refine ⟨[.index 1], _, _, rfl, ⟨⟨_, rfl, ?_⟩, _, _, rfl, trivial⟩,
      .undeclared rfl undeclared long⟩
    intro item member
    obtain rfl : item = .object [] := by simpa using member
    exact ⟨_, rfl⟩
  exact ⟨buildable, ((parse_faulty_iff_reachesLongInteger buildable value).1 _).mpr ⟨rfl, reaches⟩⟩

/-- A literal is shown before anything is compared with it, so one that is too long does not even
accept itself, and the fault leaves the check as well. -/
theorem fault_of_long_literal :
    ∃ schema, literal? (.int integerLimit) = .ok schema ∧
      schema.parse (.int integerLimit) = .error (.faulty .integerTooLong) ∧
        (Check.config "size" schema (.int integerLimit) []).outcome =
          .error .integerTooLong := by
  have shown : (Value.int integerLimit).literalText = .error .integerTooLong :=
    ((Value.literalText_tooLongIff _) _).mpr ⟨rfl, by simp⟩
  have fails : (Schema.literal .required (.int integerLimit)).parse (.int integerLimit) =
      .error (.faulty .integerTooLong) := by
    have provided : ¬ Omitted .required (.int integerLimit) := by simp [Omitted]
    rw [parse, run, outcome_guardPresence_eq_error_iff, outcome_parseLiteral_eq_error_iff]
    exact ⟨provided, .inl ⟨_, shown, rfl⟩⟩
  refine ⟨_, rfl, fails, ?_⟩
  rw [Check.outcome_config, fails]

end Schema

end ClosedShape
