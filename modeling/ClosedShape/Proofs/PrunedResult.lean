import ClosedShape.Proofs.NarrowedResult

/-!
# What is left of a result for display

Pruning enters lists and plain mappings only, and still nothing of `absent` is left in the result of
a parse: every tuple has become a list there and every mapping a plain one.  Callbacks are the
exception, since a mapping that can be called is a callback too and is returned as it was given.
-/

namespace ClosedShape

namespace Value

/-- A value that holds others. -/
def IsContainer : Value → Prop
  | .list _ | .tuple _ | .set _ | .mapping _ _ => True
  | _ => False

/-- A value whose containers are lists and plain mappings with texts as keys, at any depth. -/
inductive IsNarrowed : Value → Prop
  | leaf {value : Value} (single : ¬ value.IsContainer) : IsNarrowed value
  | list {items : List Value} (contents : ∀ item ∈ items, IsNarrowed item) :
      IsNarrowed (.list items)
  | object {entries : List (Value × Value)}
      (named : ∀ entry ∈ entries, ∃ name, entry.1 = .text name)
      (contents : ∀ entry ∈ entries, IsNarrowed entry.2) : IsNarrowed (.object entries)

/-- A value is `absent` or holds it somewhere inside. -/
inductive HoldsAbsent : Value → Prop
  | here : HoldsAbsent .absent
  | listItem {items : List Value} {item : Value} (member : item ∈ items)
      (holds : HoldsAbsent item) : HoldsAbsent (.list items)
  | tupleItem {items : List Value} {item : Value} (member : item ∈ items)
      (holds : HoldsAbsent item) : HoldsAbsent (.tuple items)
  | setItem {items : List Value} {item : Value} (member : item ∈ items)
      (holds : HoldsAbsent item) : HoldsAbsent (.set items)
  | key {flavour : MappingFlavour} {entries : List (Value × Value)} {entry : Value × Value}
      (member : entry ∈ entries) (holds : HoldsAbsent entry.1) :
      HoldsAbsent (.mapping flavour entries)
  | content {flavour : MappingFlavour} {entries : List (Value × Value)} {entry : Value × Value}
      (member : entry ∈ entries) (holds : HoldsAbsent entry.2) :
      HoldsAbsent (.mapping flavour entries)

variable {value : Value}

theorem prune_eq_absent_iff : value.prune = .absent ↔ value = .absent := by
  cases value with
  | mapping flavour => cases flavour <;> simp [prune]
  | _ => simp [prune]

theorem prune_of_not_isContainer (single : ¬ value.IsContainer) : value.prune = value := by
  cases value <;> first | rfl | exact absurd trivial single

theorem not_holdsAbsent_of_not_isContainer (single : ¬ value.IsContainer)
    (provided : value ≠ .absent) : ¬ value.HoldsAbsent := by
  rintro (_ | _ | _ | _ | _ | _)
  · exact provided rfl
  all_goals exact single trivial

/-- Pruning reaches every `absent` in a value whose containers it can enter. -/
theorem IsNarrowed.not_holdsAbsent_prune (narrowed : value.IsNarrowed)
    (provided : value ≠ .absent) : ¬ value.prune.HoldsAbsent := by
  induction narrowed with
  | leaf single =>
      rw [prune_of_not_isContainer single]
      exact not_holdsAbsent_of_not_isContainer single provided
  | list contents ih =>
      rw [prune, pruneItems_eq_map]
      rintro (_ | ⟨member, holds⟩)
      obtain ⟨item, kept, rfl⟩ := List.mem_map.mp member
      obtain ⟨itemMember, given⟩ := List.mem_filter.mp kept
      have itemProvided : item ≠ .absent := by
        simpa [isAbsent_eq_false_iff] using given
      exact ih item itemMember itemProvided holds
  | object named contents ih =>
      rw [prune, pruneEntries_eq_map]
      rintro (_ | _ | _ | _ | ⟨member, holds⟩ | ⟨member, holds⟩)
      · obtain ⟨entry, kept, rfl⟩ := List.mem_map.mp member
        obtain ⟨name, isText⟩ := named entry (List.mem_filter.mp kept).1
        rw [isText] at holds
        cases holds
      · obtain ⟨entry, kept, rfl⟩ := List.mem_map.mp member
        obtain ⟨entryMember, given⟩ := List.mem_filter.mp kept
        have contentProvided : entry.2 ≠ .absent := by
          simpa [isAbsent_eq_false_iff] using given
        exact ih entry entryMember contentProvided holds

end Value

namespace Schema

variable {custom : Refinement → Prop} {schema : Schema} {value result : Value}

/-- No part of a schema asks for a callback. -/
def WithoutFunctions (schema : Schema) : Prop :=
  ∀ presence, ¬ PartOf (.function presence) schema

theorem WithoutFunctions.child {part : Schema} (without : schema.WithoutFunctions)
    (child : part.Child schema) : part.WithoutFunctions :=
  fun presence nested => without presence (nested.tail child)

theorem WithoutFunctions.of_isScalar (scalar : schema.IsScalar)
    (other : ∀ presence, schema ≠ .function presence) : schema.WithoutFunctions := by
  intro presence nested
  rcases nested.cases_tail with equal | ⟨part, _, child⟩
  · exact other presence equal
  · cases child <;> exact scalar

theorem WithoutFunctions.array {presence : Presence} {element : Schema}
    {refinements : List Refinement} (without : element.WithoutFunctions) :
    (Schema.array presence element refinements).WithoutFunctions := by
  intro inner nested
  cases nested with
  | tail deeper child =>
      cases child
      exact without inner deeper

theorem WithoutFunctions.object {presence : Presence} {fields : List (Text × Schema)}
    (without : ∀ field ∈ fields, field.2.WithoutFunctions) :
    (Schema.object presence fields).WithoutFunctions := by
  intro inner nested
  cases nested with
  | tail deeper child =>
      cases child with
      | field member => exact without _ member inner deeper

theorem not_isContainer_of_admitted (admitted : literalKinds.contains value.kindName = true) :
    ¬ value.IsContainer := by
  intro container
  cases value <;> first
    | exact container
    | simp [literalKinds, Value.kindName, Value.kind, Kind.name, Value.typeName] at admitted

/-- The only containers that a schema without parts can return are callbacks. -/
theorem Regular.not_isContainer_of_parse_scalar (regular : schema.Regular custom)
    (scalar : schema.IsScalar) (without : schema.WithoutFunctions)
    (parsed : schema.parse value = .ok result) : ¬ result.IsContainer := by
  cases regular with
  | number =>
      refine of_guardPresence_eq_ok parsed id fun checked => ?_
      obtain ⟨⟨number, _⟩, rfl⟩ := outcome_parseNumber_eq_ok_iff.mp checked
      cases result <;> cases number <;> exact id
  | text =>
      refine of_guardPresence_eq_ok parsed id fun checked => ?_
      obtain ⟨⟨⟨content, rfl⟩, _⟩, rfl⟩ := outcome_parseText_eq_ok_iff.mp checked
      exact id
  | boolean =>
      refine of_guardPresence_eq_ok parsed id fun checked => ?_
      obtain ⟨⟨truth, rfl⟩, rfl⟩ := outcome_parseBoolean_eq_ok_iff.mp checked
      exact id
  | function => exact absurd .refl (without _)
  | literal admitted =>
      refine of_guardPresence_eq_ok parsed id fun checked => ?_
      obtain ⟨_, ⟨sameKind, _⟩, rfl⟩ := outcome_parseLiteral_eq_ok_iff.mp checked
      exact not_isContainer_of_admitted (sameKind ▸ admitted)
  | array => exact scalar.elim
  | object => exact scalar.elim

/-- Without callbacks, parsing rebuilds every container of a value. -/
theorem Regular.isNarrowed_of_parse (regular : schema.Regular custom)
    (without : schema.WithoutFunctions) (parsed : schema.parse value = .ok result) :
    result.IsNarrowed := by
  induction schema using wellFounded_child.induction generalizing value result with
  | _ schema ih =>
    cases schema with
    | array presence element refinements =>
        obtain ⟨_, rfl⟩ | ⟨_, items, narrowed, _, parts, _, rfl⟩ :=
          parse_array_eq_ok_iff.mp parsed
        · exact .leaf id
        · refine .list fun part member => ?_
          obtain ⟨item, _, itemParsed⟩ := exists_related_of_mem parts member
          have child : element.Child (.array presence element refinements) := .element
          exact ih element child (regular.child child) (without.child child) itemParsed
    | object presence fields =>
        obtain ⟨_, rfl⟩ | ⟨_, entries, narrowed, _, _, parts, rfl⟩ :=
          parse_object_eq_ok_iff.mp parsed
        · exact .leaf id
        · refine .object (named_of_forall₂ parts) fun entry member => ?_
          obtain ⟨field, fieldMember, _, fieldParsed⟩ := exists_related_of_mem parts member
          have child : field.2.Child (.object presence fields) := .field fieldMember
          exact ih field.2 child (regular.child child) (without.child child) fieldParsed
    | _ => exact .leaf (regular.not_isContainer_of_parse_scalar trivial without parsed)

/-- Whatever was parsed, the result is made of lists, plain mappings and single values, and pruning
leaves nothing of `absent` in it, unless the result is `absent` itself. -/
theorem result_keeps_no_absent (buildable : schema.Buildable custom)
    (without : schema.WithoutFunctions) (parsed : schema.parse value = .ok result) :
    result.IsNarrowed ∧ (result.prune = .absent ↔ result = .absent) ∧
      (result ≠ .absent → ¬ result.prune.HoldsAbsent) := by
  have narrowed := buildable.regular.isNarrowed_of_parse without parsed
  exact ⟨narrowed, Value.prune_eq_absent_iff, narrowed.not_holdsAbsent_prune⟩

/-- Tuples, read-only and callable mappings, and `absent` in every place where it can stand. -/
theorem result_keeps_no_absent_of_foreign_containers :
    let app : Schema := .object .required [("size", .number .optional [.positive])]
    let schema : Schema := .object .required [("apps", .array .required app []),
      ("note", .text .optional []), ("tags", .array .required (.text .optional []) [])]
    let value : Value := .mapping .callable [(.text "tags", .tuple [.text "a", .absent]),
      (.text "note", .absent), (.text "apps", .list [.mapping .readOnly []])]
    let result : Value := .object [
      (.text "apps", .list [.object [(.text "size", .absent)]]), (.text "note", .absent),
      (.text "tags", .list [.text "a", .absent])]
    schema.parse value = .ok result ∧ result.IsNarrowed ∧ ¬ result.prune.HoldsAbsent ∧
      result.prune = .object [(.text "apps", .list [.object []]),
        (.text "tags", .list [.text "a"])] := by
  intro app schema value result
  have buildable : schema.Buildable fun _ => False := by
    refine Regular.buildable (.object (by decide) fun field member => ?_)
    obtain rfl | rfl | rfl : field = _ ∨ field = _ ∨ field = _ := by simpa using member
    · refine .array (.object (by decide) fun field member => ?_) (by simp)
      obtain rfl := List.mem_singleton.mp member
      exact .number (by simp)
    · exact .text (by simp)
    · exact .array (.text (by simp)) (by simp)
  have without : schema.WithoutFunctions := by
    refine .object fun field member => ?_
    obtain rfl | rfl | rfl : field = _ ∨ field = _ ∨ field = _ := by simpa using member
    · refine .array (.object fun field member => ?_)
      obtain rfl := List.mem_singleton.mp member
      exact .of_isScalar trivial (by simp)
    · exact .of_isScalar trivial (by simp)
    · exact .array (.of_isScalar trivial (by simp))
  have parsed : schema.parse value = .ok result := by cbv
  obtain ⟨narrowed, _, pruned⟩ := result_keeps_no_absent buildable without parsed
  exact ⟨parsed, narrowed, pruned (by simp [result]), by cbv⟩

end Schema

end ClosedShape
