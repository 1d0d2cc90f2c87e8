import ClosedShape.Proofs.ParseOutcome
import ClosedShape.Schema.Construction
import ClosedShape.Value.Keyed
import Mathlib.Data.List.Induction
import Mathlib.Logic.Relation

/-!
# The schemas that can be built

A schema is buildable if the constructors and the calls that schemas answer lead to it.  This file
describes the buildable schemas by their structure: nothing in them is foreign, literals are of the
admitted kinds, field names are distinct, and refinements stand only where they were made for.
-/

namespace ClosedShape

namespace Schema

/-- The schemas that the constructors give and that calls make of them.  `custom` holds of the
refinements that may be added besides the library's own. -/
inductive Buildable (custom : Refinement → Prop) : Schema → Prop
  | number : Buildable custom (.number .required [])
  | text : Buildable custom (.text .required [])
  | boolean : Buildable custom (.boolean .required)
  | function : Buildable custom (.function .required)
  | literal {expected : Value} {schema : Schema} (built : literal? expected = .ok schema) :
      Buildable custom schema
  | array {element schema : Schema} (elementBuildable : Buildable custom element)
      (built : array? (.ofSchema element) = .ok schema) : Buildable custom schema
  | object {fields : List (Value × Entity)} {schema : Schema}
      (distinct : Value.KeysApart fields)
      (fieldsBuildable : ∀ field ∈ fields, ∀ part,
        field.2.schema? = some part → Buildable custom part)
      (built : object? fields = .ok schema) : Buildable custom schema
  | objectOfValue {value : Value} {schema : Schema} (built : objectOfValue? value = .ok schema) :
      Buildable custom schema
  | call {schema result : Schema} {link : Entity.Link} (schemaBuildable : Buildable custom schema)
      (permitted : ∀ refinement, link = .refine refinement → custom refinement)
      (called : link.applyTo schema = some result) : Buildable custom result

/-- The structure of buildable schemas. -/
inductive Regular (custom : Refinement → Prop) : Schema → Prop
  | number {presence : Presence} {refinements : List Refinement}
      (admitted : ∀ refinement ∈ refinements, refinement = .positive ∨ custom refinement) :
      Regular custom (.number presence refinements)
  | text {presence : Presence} {refinements : List Refinement}
      (admitted : ∀ refinement ∈ refinements, refinement = .nonEmptyText ∨ custom refinement) :
      Regular custom (.text presence refinements)
  | boolean {presence : Presence} : Regular custom (.boolean presence)
  | function {presence : Presence} : Regular custom (.function presence)
  | literal {presence : Presence} {expected : Value}
      (admitted : literalKinds.contains expected.kindName = true) :
      Regular custom (.literal presence expected)
  | array {presence : Presence} {element : Schema} {refinements : List Refinement}
      (elementRegular : Regular custom element)
      (admitted : ∀ refinement ∈ refinements, refinement = .nonEmptyArray ∨ custom refinement) :
      Regular custom (.array presence element refinements)
  | object {presence : Presence} {fields : List (Text × Schema)}
      (distinct : (fields.map Prod.fst).Nodup)
      (fieldsRegular : ∀ field ∈ fields, Regular custom field.2) :
      Regular custom (.object presence fields)

variable {custom : Refinement → Prop}

/-- Building the fields goes on only from a text key with a schema. -/
theorem objectFields?_cons_eq_ok_iff {entry : Value × Entity} {rest : List (Value × Entity)}
    {fields : List (Text × Schema)} :
    objectFields? (entry :: rest) = .ok fields ↔
      ∃ name schema others, entry = (.text name, .ofSchema schema) ∧
        objectFields? rest = .ok others ∧ fields = (name, schema) :: others := by
  obtain ⟨key, entity⟩ := entry
  cases key with
  | text name =>
      cases entity with
      | ofSchema schema =>
          cases built : objectFields? rest <;>
            simp [objectFields?, Entity.schema?, built, bind, Except.bind, pure, Except.pure,
              @eq_comm _ _ fields]
      | _ => simp [objectFields?, Entity.schema?]
  | _ =>
      simp only [objectFields?, Prod.mk.injEq, reduceCtorEq, false_and, exists_false, iff_false]
      exact fun succeeded => by
        cases shown : Value.source _ <;> rw [shown] at succeeded <;> cases succeeded

theorem objectFields?_eq_ok_iff {given : List (Value × Entity)}
    {fields : List (Text × Schema)} :
    objectFields? given = .ok fields ↔
      given = fields.map fun field => (.text field.1, .ofSchema field.2) := by
  induction given generalizing fields with
  | nil => cases fields <;> simp [objectFields?]
  | cons entry rest ih =>
      rw [objectFields?_cons_eq_ok_iff]
      constructor
      · rintro ⟨name, schema, others, rfl, built, rfl⟩
        rw [ih.mp built, List.map_cons]
      · intro equal
        cases fields with
        | nil => cases equal
        | cons field others =>
            cases equal
            exact ⟨field.1, field.2, others, rfl, ih.mpr rfl, rfl⟩

theorem object?_eq_ok_iff {given : List (Value × Entity)} {schema : Schema} :
    object? given = .ok schema ↔
      ∃ fields : List (Text × Schema), schema = .object .required fields ∧
        given = fields.map fun field => (.text field.1, .ofSchema field.2) := by
  simp only [← objectFields?_eq_ok_iff]
  cases built : objectFields? given <;>
    simp [object?, built, bind, Except.bind, pure, Except.pure, eq_comm]

/-- A plain value holds no schemas, so the only object schema to be had from one has no fields. -/
theorem objectOfValue?_eq_ok {value : Value} {schema : Schema}
    (built : objectOfValue? value = .ok schema) : schema = .object .required [] := by
  unfold objectOfValue? at built
  split at built
  · cases built
    rfl
  · obtain ⟨fields, rfl, equal⟩ := object?_eq_ok_iff.mp built
    cases fields with
    | nil => rfl
    | cons field fields =>
        simp [List.map_eq_cons_iff] at equal
  · cases built

/-- A call adds only what the kind of schema admits. -/
theorem Regular.applyTo {schema result : Schema} {link : Entity.Link}
    (regular : schema.Regular custom)
    (permitted : ∀ refinement, link = .refine refinement → custom refinement)
    (called : link.applyTo schema = some result) : result.Regular custom := by
  have extended {own : Refinement} {refinements : List Refinement} {added : Refinement}
      (admitted : ∀ refinement ∈ refinements, refinement = own ∨ custom refinement)
      (addedAdmitted : added = own ∨ custom added) :
      ∀ refinement ∈ refinements ++ [added], refinement = own ∨ custom refinement := by
    simpa [or_imp, forall_and] using ⟨admitted, addedAdmitted⟩
  unfold Entity.Link.applyTo at called
  split at called
  · cases regular <;> cases called
    · exact .number ‹_›
    · exact .text ‹_›
    · exact .boolean
    · exact .function
    · exact .literal ‹_›
    · exact .array ‹_› ‹_›
    · exact .object ‹_› ‹_›
  · cases regular <;> cases called
    exact .number (extended ‹_› (.inl rfl))
  · cases regular <;> cases called
    · exact .text (extended ‹_› (.inl rfl))
    · exact .array ‹_› (extended ‹_› (.inl rfl))
  · cases called
  · cases regular <;> cases called
    · exact .number (extended ‹_› (.inr (permitted _ rfl)))
    · exact .text (extended ‹_› (.inr (permitted _ rfl)))
    · exact .array ‹_› (extended ‹_› (.inr (permitted _ rfl)))

theorem pairwise_keys_iff_nodup {fields : List (Text × Schema)} :
    ((fields.map fun field => ((.text field.1, .ofSchema field.2) : Value × Entity)).Pairwise
        fun first second => first.1.equals second.1 = false) ↔
      (fields.map Prod.fst).Nodup := by
  simp [List.pairwise_map, List.Nodup, Value.equals]

theorem Buildable.regular {schema : Schema} (buildable : schema.Buildable custom) :
    schema.Regular custom := by
  induction buildable with
  | number => exact .number (by simp)
  | text => exact .text (by simp)
  | boolean => exact .boolean
  | function => exact .function
  | literal built =>
      unfold literal? at built
      split at built <;> cases built
      exact .literal ‹_›
  | array _ built ih =>
      cases built
      exact .array ih (by simp)
  | object distinct _ built ih =>
      obtain ⟨fields, rfl, rfl⟩ := object?_eq_ok_iff.mp built
      refine .object (pairwise_keys_iff_nodup.mp distinct) fun field member => ?_
      exact ih _ (List.mem_map_of_mem member) field.2 rfl
  | objectOfValue built =>
      cases objectOfValue?_eq_ok built
      exact .object (by simp) (by simp)
  | call _ permitted called ih => exact ih.applyTo permitted called

/-- Refinements are built up one call at a time. -/
theorem Buildable.ofRefinements (refined : List Refinement → Schema) {own : Refinement}
    (start : (refined []).Buildable custom)
    (extend : ∀ refinements refinement, refinement = own ∨ custom refinement →
      ∃ link : Entity.Link, (∀ other, link = .refine other → custom other) ∧
        link.applyTo (refined refinements) = some (refined (refinements ++ [refinement])))
    {refinements : List Refinement}
    (admitted : ∀ refinement ∈ refinements, refinement = own ∨ custom refinement) :
    (refined refinements).Buildable custom := by
  induction refinements using List.reverseRecOn with
  | nil => exact start
  | append_singleton refinements refinement ih =>
      obtain ⟨link, permitted, called⟩ := extend refinements refinement (admitted _ (by simp))
      exact .call (ih fun other member => admitted other (by simp [member])) permitted called

theorem Buildable.ofPresence (variant : Presence → Schema)
    (required : (variant .required).Buildable custom)
    (relaxed : (variant .required).optional? = some (variant .optional)) (presence : Presence) :
    (variant presence).Buildable custom := by
  cases presence with
  | required => exact required
  | optional =>
      have called : (Entity.Link.member "optional").applyTo (variant .required) =
          some (variant .optional) := relaxed
      exact .call required (by simp) called

theorem Regular.buildable {schema : Schema} (regular : schema.Regular custom) :
    schema.Buildable custom := by
  induction regular with
  | @number presence refinements admitted =>
      refine .ofPresence (fun presence => .number presence refinements) ?_ rfl presence
      refine .ofRefinements (.number .required) .number ?_ admitted
      rintro refinements refinement (rfl | permitted)
      · exact ⟨.member "positive", by simp, rfl⟩
      · exact ⟨.refine refinement, by simpa using permitted, rfl⟩
  | @text presence refinements admitted =>
      refine .ofPresence (fun presence => .text presence refinements) ?_ rfl presence
      refine .ofRefinements (.text .required) .text ?_ admitted
      rintro refinements refinement (rfl | permitted)
      · exact ⟨.member "non_empty", by simp, rfl⟩
      · exact ⟨.refine refinement, by simpa using permitted, rfl⟩
  | boolean => exact .ofPresence .boolean .boolean rfl _
  | function => exact .ofPresence .function .function rfl _
  | @literal presence expected admitted =>
      refine .ofPresence (fun presence => .literal presence expected) ?_ rfl presence
      exact .literal (if_pos admitted)
  | @array presence element refinements _ admitted ih =>
      refine .ofPresence (fun presence => .array presence element refinements) ?_ rfl
        presence
      refine .ofRefinements (.array .required element) (.array ih rfl) ?_ admitted
      rintro refinements refinement (rfl | permitted)
      · exact ⟨.member "non_empty", by simp, rfl⟩
      · exact ⟨.refine refinement, by simpa using permitted, rfl⟩
  | @object presence fields distinct _ ih =>
      refine .ofPresence (fun presence => .object presence fields) ?_ rfl presence
      refine .object (pairwise_keys_iff_nodup.mpr distinct) ?_
        (object?_eq_ok_iff.mpr ⟨fields, rfl, rfl⟩)
      intro entry member part named
      obtain ⟨field, fieldMember, rfl⟩ := List.mem_map.mp member
      cases named
      exact ih field fieldMember

/-- The buildable schemas are exactly the regular ones. -/
theorem buildable_iff_regular {schema : Schema} :
    schema.Buildable custom ↔ schema.Regular custom :=
  ⟨Buildable.regular, Regular.buildable⟩

section Parts

/-- One schema is the element or a field of another. -/
inductive Child : Schema → Schema → Prop
  | element {presence : Presence} {element : Schema} {refinements : List Refinement} :
      Child element (.array presence element refinements)
  | field {presence : Presence} {fields : List (Text × Schema)} {field : Text × Schema}
      (member : field ∈ fields) : Child field.2 (.object presence fields)

/-- One schema is nested in another at some depth, or is the other itself. -/
abbrev PartOf : Schema → Schema → Prop := Relation.ReflTransGen Child

theorem wellFounded_child : WellFounded Child := by
  refine Subrelation.wf (r := InvImage (· < ·) sizeOf) (fun {part schema} child => ?_)
    (InvImage.wf sizeOf Nat.lt_wfRel.wf)
  change sizeOf part < sizeOf schema
  cases child with
  | element => simp +arith
  | @field presence fields field member =>
      have inFields := List.sizeOf_lt_of_mem member
      have inField : sizeOf field = 1 + sizeOf field.1 + sizeOf field.2 := rfl
      simp only [Schema.object.sizeOf_spec]
      omega

theorem Regular.child {part schema : Schema} (regular : schema.Regular custom)
    (child : part.Child schema) : part.Regular custom := by
  cases child with
  | element => cases regular; assumption
  | field member =>
      cases regular with
      | object _ fieldsRegular => exact fieldsRegular _ member

theorem Regular.partOf {part schema : Schema} (regular : schema.Regular custom)
    (nested : part.PartOf schema) : part.Regular custom := by
  induction nested using Relation.ReflTransGen.head_induction_on with
  | refl => exact regular
  | head child _ ih => exact ih.child child

/-- The field names of every object are distinct, at every depth. -/
def FieldsDistinct (schema : Schema) : Prop :=
  ∀ presence fields, PartOf (.object presence fields) schema → (fields.map Prod.fst).Nodup

theorem FieldsDistinct.partOf {part schema : Schema} (distinct : schema.FieldsDistinct)
    (nested : part.PartOf schema) : part.FieldsDistinct :=
  fun presence fields deeper => distinct presence fields (deeper.trans nested)

/-- A schema whose objects name each of their fields once, at every depth. -/
structure WellNamed where
  schema : Schema
  distinct : schema.FieldsDistinct

theorem FieldsDistinct.foreign {label : String} {respond : Value → Except Failure Value} :
    (Schema.foreign label respond).FieldsDistinct := by
  intro presence fields nested
  cases nested with
  | tail _ child => cases child

theorem FieldsDistinct.array {presence : Presence} {element : Schema}
    {refinements : List Refinement} (elementDistinct : element.FieldsDistinct) :
    (Schema.array presence element refinements).FieldsDistinct := by
  intro _ fields nested
  cases nested with
  | tail deeper child =>
      cases child
      exact elementDistinct _ fields deeper

theorem FieldsDistinct.object {presence : Presence} {fields : List (Text × Schema)}
    (distinct : (fields.map Prod.fst).Nodup)
    (fieldsDistinct : ∀ field ∈ fields, field.2.FieldsDistinct) :
    (Schema.object presence fields).FieldsDistinct := by
  intro _ inner nested
  cases nested with
  | refl => exact distinct
  | tail deeper child =>
      cases child with
      | field member => exact fieldsDistinct _ member _ inner deeper

theorem Regular.fieldsDistinct {schema : Schema} (regular : schema.Regular custom) :
    schema.FieldsDistinct := by
  intro presence fields nested
  cases regular.partOf nested
  assumption

end Parts

end Schema

end ClosedShape
