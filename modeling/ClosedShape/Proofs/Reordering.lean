import ClosedShape.Proofs.NarrowedResult
import ClosedShape.Proofs.SchemaConformance
import Mathlib.Data.List.Perm.Basic

/-!
# The order of fields and keys

The fields of an object schema are checked in their order, and so are the keys of a mapping, but
neither order has a say in what is accepted.  Reordering the fields anywhere in a schema and the
entries anywhere in a value leaves the outcome as it was: the same result up to the order of its
entries, or some violation, though perhaps another one.
-/

namespace ClosedShape

section Entries

variable {κ α : Type} {related backward : α → α → Prop} {left middle right : List (κ × α)}

/-- The same keys with related contents, in any order. -/
def EntriesAlike (related : α → α → Prop) (left right : List (κ × α)) : Prop :=
  ∃ middle, List.Forall₂ (fun one other => one.1 = other.1 ∧ related one.2 other.2) left middle ∧
    middle.Perm right

theorem forall₂_entries_iff :
    List.Forall₂ (fun one other => one.1 = other.1 ∧ related one.2 other.2) left middle ↔
      left.map Prod.fst = middle.map Prod.fst ∧
        List.Forall₂ related (left.map Prod.snd) (middle.map Prod.snd) := by
  induction left generalizing middle with
  | nil => cases middle <;> simp
  | cons entry left ih =>
      cases middle with
      | nil => simp
      | cons other middle =>
          simp only [List.forall₂_cons, List.map_cons, List.cons.injEq, ih]
          tauto

theorem entriesAlike_refl (reflexive : ∀ content, related content content) :
    EntriesAlike related left left :=
  ⟨left, List.forall₂_same.mpr fun _ _ => ⟨rfl, reflexive _⟩, .refl left⟩

theorem EntriesAlike.imp (alike : EntriesAlike related left right)
    (imply : ∀ entry ∈ left, ∀ content, related entry.2 content → backward entry.2 content) :
    EntriesAlike backward left right := by
  obtain ⟨middle, matched, reordered⟩ := alike
  refine ⟨middle, forall₂_imp_of_mem matched ?_, reordered⟩
  intro entry member other _ both
  exact ⟨both.1, imply entry member other.2 both.2⟩

theorem EntriesAlike.flip (alike : EntriesAlike related left right)
    (turns : ∀ entry ∈ left, ∀ content, related entry.2 content → backward content entry.2) :
    EntriesAlike backward right left := by
  obtain ⟨middle, matched, reordered⟩ := alike
  have turned : List.Forall₂ (fun one other => one.1 = other.1 ∧ backward one.2 other.2)
      middle left := by
    refine List.Forall₂.flip (forall₂_imp_of_mem matched ?_)
    intro entry member other _ both
    exact ⟨both.1.symm, turns entry member other.2 both.2⟩
  exact List.perm_comp_forall₂ reordered.symm turned

theorem EntriesAlike.exists_left (alike : EntriesAlike related left right) {other : κ × α}
    (member : other ∈ right) : ∃ entry ∈ left, entry.1 = other.1 ∧ related entry.2 other.2 := by
  obtain ⟨middle, matched, reordered⟩ := alike
  exact exists_related_of_mem matched (reordered.mem_iff.mpr member)

theorem EntriesAlike.nodup (alike : EntriesAlike related left right)
    (distinct : (left.map Prod.fst).Nodup) : (right.map Prod.fst).Nodup := by
  obtain ⟨middle, matched, reordered⟩ := alike
  rw [(forall₂_entries_iff.mp matched).1] at distinct
  exact (reordered.map Prod.fst).nodup_iff.mp distinct

/-- Results that can be carried over from each item to the one beside it can be carried over for
all items together. -/
theorem exists_forall₂_of_forall₂ {ι ι' ρ : Type} {gives : ι → ρ → Prop} {beside : ι → ι' → Prop}
    {otherGives : ι' → ρ → Prop} {agree : ρ → ρ → Prop} {items : List ι} {others : List ι'}
    {results : List ρ} (each : List.Forall₂ gives items results)
    (matched : List.Forall₂ beside items others)
    (carries : ∀ item ∈ items, ∀ other ∈ others, ∀ result, gives item result →
      beside item other → ∃ another, otherGives other another ∧ agree result another) :
    ∃ otherResults, List.Forall₂ otherGives others otherResults ∧
      List.Forall₂ agree results otherResults := by
  induction each generalizing others with
  | nil =>
      cases matched
      exact ⟨[], .nil, .nil⟩
  | cons first _ ih =>
      cases matched with
      | cons firstBeside restBeside =>
          obtain ⟨another, given, agreed⟩ := carries _ (by simp) _ (by simp) _ first firstBeside
          obtain ⟨rest, restGiven, restAgreed⟩ := ih restBeside fun item member other otherMember =>
            carries item (by simp [member]) other (by simp [otherMember])
          exact ⟨another :: rest, .cons given restGiven, .cons agreed restAgreed⟩

end Entries

namespace Value

theorem wellFounded_child : WellFounded Child := by
  refine Subrelation.wf (r := InvImage (· < ·) sizeOf) (fun {inner value} child => ?_)
    (InvImage.wf sizeOf Nat.lt_wfRel.wf)
  change sizeOf inner < sizeOf value
  cases child with
  | @item value item items array member =>
      have inItems := List.sizeOf_lt_of_mem member
      cases value <;> cases array <;> simp <;> omega
  | @content value entries entry object member =>
      have inEntries := List.sizeOf_lt_of_mem member
      have inEntry : sizeOf entry = 1 + sizeOf entry.1 + sizeOf entry.2 := rfl
      cases value <;> cases object
      simp
      omega

variable {value other : Value}

namespace SameUpToOrder

theorem ofEntries {flavour : MappingFlavour} {left right : List (Value × Value)}
    (alike : EntriesAlike SameUpToOrder left right) :
    (Value.mapping flavour left).SameUpToOrder (.mapping flavour right) := by
  obtain ⟨middle, matched, reordered⟩ := alike
  obtain ⟨keys, contents⟩ := forall₂_entries_iff.mp matched
  exact .mapping keys contents reordered

theorem symm (same : value.SameUpToOrder other) : other.SameUpToOrder value := by
  induction value using wellFounded_child.induction generalizing other with
  | _ value ih =>
    cases same with
    | same => exact .same
    | list items =>
        refine .list (List.Forall₂.flip (forall₂_imp_of_mem items ?_))
        exact fun item member _ _ sameItem => ih item (.item rfl member) sameItem
    | tuple items =>
        refine .tuple (List.Forall₂.flip (forall₂_imp_of_mem items ?_))
        exact fun item member _ _ sameItem => ih item (.item rfl member) sameItem
    | mapping keys contents reordered =>
        have alike : EntriesAlike SameUpToOrder _ _ :=
          ⟨_, forall₂_entries_iff.mpr ⟨keys, contents⟩, reordered⟩
        refine .ofEntries (alike.flip fun entry member content sameContent => ?_)
        exact ih entry.2 (.content rfl member) sameContent

theorem items {items : List Value} (same : value.SameUpToOrder other)
    (array : value.arrayItems? = some items) :
    ∃ others, other.arrayItems? = some others ∧ List.Forall₂ SameUpToOrder items others := by
  cases same with
  | same => exact ⟨items, array, List.forall₂_same.mpr fun _ _ => .same⟩
  | list parts | tuple parts =>
      cases array
      exact ⟨_, rfl, parts⟩
  | mapping => cases array

theorem entries {entries : List (Value × Value)} (same : value.SameUpToOrder other)
    (object : value.mappingEntries? = some entries) :
    ∃ others, other.mappingEntries? = some others ∧ EntriesAlike SameUpToOrder entries others := by
  cases same with
  | same => exact ⟨entries, object, entriesAlike_refl fun _ => .same⟩
  | list | tuple => cases object
  | mapping keys contents reordered =>
      cases object
      exact ⟨_, rfl, _, forall₂_entries_iff.mpr ⟨keys, contents⟩, reordered⟩

theorem eq_of_flat (same : value.SameUpToOrder other) (noItems : value.arrayItems? = none)
    (noEntries : value.mappingEntries? = none) : other = value := by
  cases same with
  | same => rfl
  | list | tuple => cases noItems
  | mapping => cases noEntries

theorem isCallable_eq (same : value.SameUpToOrder other) :
    value.isCallable = other.isCallable := by
  cases same with
  | same | list | tuple => rfl
  | @mapping flavour => cases flavour <;> rfl

theorem exists_child {inner : Value} (same : value.SameUpToOrder other)
    (isChild : inner.Child other) :
    ∃ part : Value, part.Child value ∧ part.SameUpToOrder inner := by
  cases isChild with
  | item array member =>
      obtain ⟨items, sameArray, parts⟩ := same.symm.items array
      obtain ⟨part, partMember, samePart⟩ := exists_related_of_mem parts.flip member
      exact ⟨part, .item sameArray partMember, symm samePart⟩
  | content object member =>
      obtain ⟨entries, sameObject, alike⟩ := same.symm.entries object
      obtain ⟨entry, entryMember, _, sameContent⟩ :=
        (alike.flip fun _ _ _ turned => symm turned).exists_left member
      exact ⟨entry.2, .content sameObject entryMember, sameContent⟩

end SameUpToOrder

section Lookup

variable {left right : List (Value × Value)} {name : Text}

theorem lookupText_sameUpToOrder
    (matched : List.Forall₂ (fun one other => one.1 = other.1 ∧ one.2.SameUpToOrder other.2)
      left right) : (lookupText left name).SameUpToOrder (lookupText right name) := by
  induction matched with
  | nil => exact .same
  | @cons one other _ _ both _ ih =>
      obtain ⟨key, content⟩ := one
      obtain ⟨_, otherContent⟩ := other
      obtain ⟨rfl, same⟩ := both
      cases key with
      | text found =>
          rw [lookupText, lookupText]
          by_cases isName : found = name
          · rwa [if_pos isName, if_pos isName]
          · rwa [if_neg isName, if_neg isName]
      | _ => exact ih

theorem lookupText_perm (distinct : (left.map Prod.fst).Nodup) (reordered : left.Perm right) :
    lookupText left name = lookupText right name := by
  have distinctRight : (right.map Prod.fst).Nodup := (reordered.map Prod.fst).nodup_iff.mp distinct
  by_cases given : lookupText left name = .absent
  · by_contra differs
    have member := mem_of_lookupText_ne_absent fun missing => differs (given.trans missing.symm)
    exact differs (lookupText_of_mem distinct (reordered.mem_iff.mpr member))
  · have member := mem_of_lookupText_ne_absent given
    exact (lookupText_of_mem distinctRight (reordered.mem_iff.mp member)).symm

theorem lookupText_of_alike (alike : EntriesAlike SameUpToOrder left right)
    (distinct : (left.map Prod.fst).Nodup) :
    (lookupText left name).SameUpToOrder (lookupText right name) := by
  obtain ⟨middle, matched, reordered⟩ := alike
  have distinctMiddle : (middle.map Prod.fst).Nodup := by
    rwa [← (forall₂_entries_iff.mp matched).1]
  rw [← lookupText_perm distinctMiddle reordered]
  exact lookupText_sameUpToOrder matched

end Lookup

section Keys

variable {holds : List (Value × Value) → Prop}

theorem everywhere_array_iff {items : List Value} (array : value.arrayItems? = some items) :
    value.Everywhere holds ↔ ∀ item ∈ items, item.Everywhere holds := by
  have noEntries : value.mappingEntries? = none := by cases value <;> cases array <;> rfl
  rw [everywhere_iff, and_iff_right (by simp [noEntries])]
  constructor
  · exact fun deeper item member => deeper item (.item array member)
  · rintro deeper inner (⟨sameArray, member⟩ | ⟨object, _⟩)
    · cases array.symm.trans sameArray
      exact deeper inner member
    · cases noEntries.symm.trans object

theorem everywhere_mapping_iff {flavour : MappingFlavour} {entries : List (Value × Value)} :
    (Value.mapping flavour entries).Everywhere holds ↔
      holds entries ∧ ∀ entry ∈ entries, entry.2.Everywhere holds := by
  rw [everywhere_iff]
  refine and_congr (by simp [mappingEntries?]) ?_
  constructor
  · exact fun deeper entry member => deeper entry.2 (.content rfl member)
  · rintro deeper inner (⟨array, _⟩ | ⟨object, member⟩)
    · cases array
    · cases object
      exact deeper _ member

/-- Every mapping inside the value has different keys, as mappings have. -/
abbrev KeysDistinct : Value → Prop :=
  Everywhere KeysApart

/-- A value as it can be, with different keys in every mapping inside it. -/
structure Keyed where
  value : Value
  distinct : value.KeysDistinct

theorem KeysShort.of_same (short : value.KeysShort) (same : value.SameUpToOrder other) :
    other.KeysShort := by
  induction value using wellFounded_child.induction generalizing other with
  | _ value ih =>
    obtain ⟨here, deeper⟩ := keysShort_iff.mp short
    refine keysShort_iff.mpr ⟨fun others object entry member => ?_, fun inner child => ?_⟩
    · obtain ⟨entries, sameObject, alike⟩ := same.symm.entries object
      obtain ⟨own, ownMember, sameKey, _⟩ :=
        (alike.flip fun _ _ _ turned => turned.symm).exists_left member
      rw [← sameKey]
      exact here entries sameObject own ownMember
    · obtain ⟨part, partChild, samePart⟩ := same.exists_child child
      exact ih part partChild (deeper part partChild) samePart

end Keys

end Value

namespace Refinement

/-- The answer for a value does not depend on the order of the entries in it. -/
def IgnoresOrder (refinement : Refinement) : Prop :=
  ∀ first second : Value.Keyed, first.value.SameUpToOrder second.value →
    refinement.check first.value = refinement.check second.value

theorem ignoresOrder_of_size {refinement : Refinement} (answer : Nat → Except Fault Bool)
    (measures : ∀ value : Value, refinement.check value =
      match value.size? with
      | some size => answer size
      | none => .error (.notMeasurable value.qualifiedTypeName)) : refinement.IgnoresOrder := by
  rintro ⟨value, _⟩ ⟨other, _⟩ same
  rw [measures, measures]
  cases same with
  | same => rfl
  | list items | tuple items => simp only [Value.size?, items.length_eq]
  | mapping keys _ reordered =>
      have lengths := congrArg List.length keys
      rw [List.length_map, List.length_map, reordered.length_eq] at lengths
      simp only [Value.size?, lengths]

theorem nonEmptyArray_ignoresOrder : nonEmptyArray.IgnoresOrder :=
  ignoresOrder_of_size (fun size => .ok (0 < size)) fun _ => rfl

theorem applyAll_eq_error_of_check_eq {refinements : List Refinement} {value other : Value}
    {failure : Failure}
    (agree : ∀ refinement ∈ refinements, refinement.check value = refinement.check other)
    (fails : applyAll refinements value = .error failure) :
    applyAll refinements other = .error failure := by
  rw [applyAll_eq_error_iff] at *
  obtain ⟨before, refinement, after, rfl, held, failed⟩ := fails
  refine ⟨before, refinement, after, rfl, fun earlier member => ?_, ?_⟩
  · rw [Holds, ← agree earlier (by simp [member])]
    exact held earlier member
  · rw [apply_eq_error_iff] at *
    rwa [← agree refinement (by simp)]

end Refinement

namespace Schema

variable {custom : Refinement → Prop} {schema other : Schema} {value otherValue result : Value}
  {presence : Presence} {element otherElement : Schema} {refinements : List Refinement}
  {fields others : List (Text × Schema)}

/-- One schema is another with the fields of its objects in a different order, at any depth. -/
inductive Reordered : Schema → Schema → Prop
  | same {schema : Schema} : Reordered schema schema
  | array {presence : Presence} {element other : Schema} {refinements : List Refinement}
      (elements : Reordered element other) :
      Reordered (.array presence element refinements) (.array presence other refinements)
  | object {presence : Presence} {left middle right : List (Text × Schema)}
      (names : left.map Prod.fst = middle.map Prod.fst)
      (parts : List.Forall₂ Reordered (left.map Prod.snd) (middle.map Prod.snd))
      (reordered : middle.Perm right) : Reordered (.object presence left) (.object presence right)

namespace Reordered

theorem exists_element (reordered : (Schema.array presence element refinements).Reordered other) :
    ∃ otherElement, other = .array presence otherElement refinements ∧
      element.Reordered otherElement := by
  cases reordered with
  | same => exact ⟨element, rfl, .same⟩
  | array elements => exact ⟨_, rfl, elements⟩

theorem exists_fields (reordered : (Schema.object presence fields).Reordered other) :
    ∃ others, other = .object presence others ∧ EntriesAlike Reordered fields others := by
  cases reordered with
  | same => exact ⟨fields, rfl, entriesAlike_refl fun _ => .same⟩
  | object names parts reordered =>
      exact ⟨_, rfl, _, forall₂_entries_iff.mpr ⟨names, parts⟩, reordered⟩

theorem eq_of_isScalar (reordered : schema.Reordered other) (scalar : schema.IsScalar) :
    other = schema := by
  cases reordered with
  | same => rfl
  | array | object => exact scalar.elim

theorem symm (reordered : schema.Reordered other) : other.Reordered schema := by
  induction schema using wellFounded_child.induction generalizing other with
  | _ schema ih =>
    cases schema with
    | array presence element refinements =>
        obtain ⟨otherElement, rfl, elements⟩ := reordered.exists_element
        exact .array (ih element .element elements)
    | object presence fields =>
        obtain ⟨others, rfl, alike⟩ := reordered.exists_fields
        have turned : EntriesAlike Reordered others fields :=
          alike.flip fun field member _ part => ih field.2 (.field member) part
        obtain ⟨middle, matched, permuted⟩ := turned
        obtain ⟨names, parts⟩ := forall₂_entries_iff.mp matched
        exact .object names parts permuted
    | _ =>
        rw [reordered.eq_of_isScalar trivial]
        exact .same

theorem exists_child {part : Schema} (reordered : schema.Reordered other)
    (isChild : part.Child other) : ∃ own : Schema, own.Child schema ∧ own.Reordered part := by
  cases isChild with
  | element =>
      obtain ⟨element, rfl, elements⟩ := reordered.symm.exists_element
      exact ⟨element, .element, elements.symm⟩
  | field member =>
      obtain ⟨fields, rfl, alike⟩ := reordered.symm.exists_fields
      obtain ⟨field, fieldMember, _, part⟩ :=
        (alike.flip fun _ _ _ part => symm part).exists_left member
      exact ⟨field.2, .field fieldMember, part⟩

theorem exists_partOf {part : Schema} (reordered : schema.Reordered other)
    (nested : part.PartOf other) : ∃ own : Schema, own.PartOf schema ∧ own.Reordered part := by
  induction nested using Relation.ReflTransGen.head_induction_on with
  | refl => exact ⟨schema, .refl, reordered⟩
  | head child _ ih =>
      obtain ⟨own, ownNested, ownReordered⟩ := ih
      obtain ⟨inner, innerChild, innerReordered⟩ := ownReordered.exists_child child
      exact ⟨inner, .head innerChild ownNested, innerReordered⟩

theorem regular (reordered : schema.Reordered other) (regular : schema.Regular custom) :
    other.Regular custom := by
  induction schema using wellFounded_child.induction generalizing other with
  | _ schema ih =>
    cases schema with
    | array presence element refinements =>
        obtain ⟨otherElement, rfl, elements⟩ := reordered.exists_element
        cases regular with
        | array elementRegular admitted =>
            exact .array (ih element .element elements elementRegular) admitted
    | object presence fields =>
        obtain ⟨others, rfl, alike⟩ := reordered.exists_fields
        cases regular with
        | object distinct fieldsRegular =>
            refine .object (alike.nodup distinct) fun field member => ?_
            obtain ⟨own, ownMember, _, part⟩ := alike.exists_left member
            exact ih own.2 (.field ownMember) part (fieldsRegular own ownMember)
    | _ =>
        rw [reordered.eq_of_isScalar trivial]
        exact regular

theorem literalsShort (reordered : schema.Reordered other) (literals : schema.LiteralsShort) :
    other.LiteralsShort := by
  intro presence expected nested
  obtain ⟨own, ownNested, part⟩ := reordered.exists_partOf nested
  rw [part.symm.eq_of_isScalar trivial] at ownNested
  exact literals presence expected ownNested

end Reordered

theorem keysDistinct_list {items narrowed : List Value}
    (parts : List.Forall₂ (fun item part => element.parse item = .ok part) items narrowed)
    (keeps : ∀ item ∈ items, ∀ part, element.parse item = .ok part → part.KeysDistinct) :
    (Value.list narrowed).KeysDistinct := by
  refine (Value.everywhere_array_iff rfl).mpr fun part member => ?_
  obtain ⟨item, itemMember, itemParsed⟩ := exists_related_of_mem parts member
  exact keeps item itemMember part itemParsed

/-- The mappings of a result are those that were built, whose keys are the names of fields, and
those that stand in the value. -/
theorem Regular.keysDistinct_of_parse (regular : schema.Regular custom)
    (distinct : value.KeysDistinct) (parsed : schema.parse value = .ok result) :
    result.KeysDistinct := by
  induction schema using wellFounded_child.induction generalizing value result with
  | _ schema ih =>
    cases schema with
    | array presence element refinements =>
        obtain ⟨_, rfl⟩ | ⟨_, items, narrowed, array, parts, _, rfl⟩ :=
          parse_array_eq_ok_iff.mp parsed
        · exact Value.everywhere_of_flat rfl rfl
        · refine keysDistinct_list parts fun item member part itemParsed => ?_
          exact ih element .element (regular.child .element) (distinct.child (.item array member))
            itemParsed
    | object presence fields =>
        obtain ⟨_, rfl⟩ | ⟨_, entries, narrowed, object, _, parts, rfl⟩ :=
          parse_object_eq_ok_iff.mp parsed
        · exact Value.everywhere_of_flat rfl rfl
        · refine Value.everywhere_mapping_iff.mpr ⟨?_, fun entry member => ?_⟩
          · have names := regular.fieldsDistinct presence fields .refl
            exact Value.pairwise_equals_of_nodup (named_of_forall₂ parts)
              (nodup_keys_of_forall₂ names parts)
          · obtain ⟨field, fieldMember, _, fieldParsed⟩ := exists_related_of_mem parts member
            have child : field.2.Child (.object presence fields) := .field fieldMember
            exact ih field.2 child (regular.child child) (distinct.lookupText object field.1)
              fieldParsed
    | _ =>
        obtain ⟨rfl, _⟩ := regular.eq_of_parse_scalar trivial parsed
        exact distinct

/-- Whatever one schema accepts, the other accepts in every order of its entries. -/
def FollowsInAnyOrder (schema other : Schema) : Prop :=
  ∀ (first second : Value.Keyed) (result : Value), first.value.SameUpToOrder second.value →
    schema.parse first.value = .ok result →
      ∃ otherResult, other.parse second.value = .ok otherResult ∧ result.SameUpToOrder otherResult

section Following

/-- Schemas without parts accept values without an order, except for callable mappings. -/
theorem Regular.flat_of_parse_scalar (regular : schema.Regular custom) (scalar : schema.IsScalar)
    (parsed : schema.parse value = .ok result) :
    value.arrayItems? = none ∧ value.mappingEntries? = none ∨
      ∃ presence, schema = .function presence := by
  obtain ⟨rfl, _⟩ := regular.eq_of_parse_scalar scalar parsed
  cases regular with
  | number =>
      refine .inl (of_guardPresence_eq_ok parsed ⟨rfl, rfl⟩ fun checked => ?_)
      obtain ⟨⟨number, _⟩, _⟩ := outcome_parseNumber_eq_ok_iff.mp checked
      cases result <;> cases number <;> exact ⟨rfl, rfl⟩
  | text =>
      refine .inl (of_guardPresence_eq_ok parsed ⟨rfl, rfl⟩ fun checked => ?_)
      obtain ⟨⟨⟨content, rfl⟩, _⟩, _⟩ := outcome_parseText_eq_ok_iff.mp checked
      exact ⟨rfl, rfl⟩
  | boolean =>
      refine .inl (of_guardPresence_eq_ok parsed ⟨rfl, rfl⟩ fun checked => ?_)
      obtain ⟨⟨truth, rfl⟩, _⟩ := outcome_parseBoolean_eq_ok_iff.mp checked
      exact ⟨rfl, rfl⟩
  | function => exact .inr ⟨_, rfl⟩
  | literal admitted =>
      refine .inl (of_guardPresence_eq_ok parsed ⟨rfl, rfl⟩ fun checked => ?_)
      obtain ⟨_, ⟨sameKind, _⟩, _⟩ := outcome_parseLiteral_eq_ok_iff.mp checked
      rw [← sameKind] at admitted
      cases result with
      | list | tuple =>
          change literalKinds.contains Kind.array.name = true at admitted
          exact absurd admitted (by decide)
      | mapping =>
          change literalKinds.contains Kind.object.name = true at admitted
          exact absurd admitted (by decide)
      | _ => exact ⟨rfl, rfl⟩
  | array => exact scalar.elim
  | object => exact scalar.elim

theorem Regular.follows_scalar (regular : schema.Regular custom) (scalar : schema.IsScalar) :
    schema.FollowsInAnyOrder schema := by
  rintro ⟨value, _⟩ ⟨otherValue, _⟩ result same parsed
  dsimp only at same parsed ⊢
  have unchanged := (regular.eq_of_parse_scalar scalar parsed).1
  rcases regular.flat_of_parse_scalar scalar parsed with ⟨noItems, noEntries⟩ | ⟨presence, rfl⟩
  · rw [same.eq_of_flat noItems noEntries]
    exact ⟨result, parsed, .same⟩
  · subst unchanged
    refine ⟨otherValue, ?_, same⟩
    rw [parse, run, outcome_guardPresence_eq_ok_iff, outcome_parseFunction_eq_ok_iff] at *
    rcases parsed with ⟨omitted, rfl⟩ | ⟨_, callable, _⟩
    · rw [same.eq_of_flat rfl rfl]
      exact .inl ⟨omitted, rfl⟩
    · rw [same.isCallable_eq] at callable
      refine .inr ⟨?_, callable, rfl⟩
      rintro ⟨_, rfl⟩
      cases callable

/-- The narrowed items are the same up to order, and no refinement tells the two lists apart. -/
theorem FollowsInAnyOrder.items (follows : element.FollowsInAnyOrder otherElement)
    (regular : element.Regular custom) (otherRegular : otherElement.Regular custom)
    {items others narrowed : List Value} (distinct : ∀ item ∈ items, item.KeysDistinct)
    (otherDistinct : ∀ item ∈ others, item.KeysDistinct)
    (sameItems : List.Forall₂ Value.SameUpToOrder items others)
    (parts : List.Forall₂ (fun item part => element.parse item = .ok part) items narrowed) :
    ∃ otherNarrowed,
      List.Forall₂ (fun item part => otherElement.parse item = .ok part) others otherNarrowed ∧
        List.Forall₂ Value.SameUpToOrder narrowed otherNarrowed ∧
          ∀ refinement : Refinement, refinement.IgnoresOrder →
            refinement.check (.list narrowed) = refinement.check (.list otherNarrowed) := by
  have carries : ∀ item ∈ items, ∀ other ∈ others, ∀ part, element.parse item = .ok part →
      item.SameUpToOrder other →
        ∃ otherPart, otherElement.parse other = .ok otherPart ∧ part.SameUpToOrder otherPart :=
    fun item member other otherMember part itemParsed sameItem =>
      follows ⟨item, distinct item member⟩ ⟨other, otherDistinct other otherMember⟩ part sameItem
        itemParsed
  obtain ⟨otherNarrowed, otherParts, sameParts⟩ :=
    exists_forall₂_of_forall₂ parts sameItems carries
  have narrowedDistinct : (Value.list narrowed).KeysDistinct :=
    keysDistinct_list parts fun item member _ =>
      regular.keysDistinct_of_parse (distinct item member)
  have otherNarrowedDistinct : (Value.list otherNarrowed).KeysDistinct :=
    keysDistinct_list otherParts fun item member _ =>
      otherRegular.keysDistinct_of_parse (otherDistinct item member)
  refine ⟨otherNarrowed, otherParts, sameParts, fun refinement ignores => ?_⟩
  exact ignores ⟨_, narrowedDistinct⟩ ⟨_, otherNarrowedDistinct⟩ (.list sameParts)

theorem FollowsInAnyOrder.array (follows : element.FollowsInAnyOrder otherElement)
    (regular : element.Regular custom) (otherRegular : otherElement.Regular custom)
    (ignore : ∀ refinement ∈ refinements, refinement.IgnoresOrder) :
    (Schema.array presence element refinements).FollowsInAnyOrder
      (.array presence otherElement refinements) := by
  rintro ⟨value, distinct⟩ ⟨otherValue, otherDistinct⟩ result same parsed
  dsimp only at same parsed ⊢
  obtain ⟨omitted, rfl⟩ | ⟨_, items, narrowed, array, parts, satisfied, rfl⟩ :=
    parse_array_eq_ok_iff.mp parsed
  · obtain ⟨isOptional, rfl⟩ := omitted
    rw [same.eq_of_flat rfl rfl]
    exact ⟨.absent, parse_array_eq_ok_iff.mpr (.inl ⟨⟨isOptional, rfl⟩, rfl⟩), .same⟩
  · obtain ⟨others, otherArray, sameItems⟩ := same.items array
    obtain ⟨otherNarrowed, otherParts, sameParts, agree⟩ :=
      follows.items regular otherRegular (fun _ member => distinct.child (.item array member))
        (fun _ member => otherDistinct.child (.item otherArray member)) sameItems parts
    have otherSatisfied : ∀ refinement ∈ refinements, refinement.Holds (.list otherNarrowed) := by
      intro refinement member
      rw [Refinement.Holds, ← agree refinement (ignore refinement member)]
      exact satisfied refinement member
    refine ⟨.list otherNarrowed, parse_array_eq_ok_iff.mpr (.inr ?_), .list sameParts⟩
    exact ⟨not_omitted_of_arrayItems? otherArray, others, otherNarrowed, otherArray, otherParts,
      otherSatisfied, rfl⟩

theorem declares_of_alike {related : Schema → Schema → Prop} {key : Value}
    (alike : EntriesAlike related fields others) (declared : Declares fields key) :
    Declares others key := by
  obtain ⟨middle, matched, permuted⟩ := alike
  obtain ⟨field, member, rfl⟩ := declared
  obtain ⟨target, targetMember, both⟩ := exists_related_of_mem matched.flip member
  exact ⟨target, permuted.mem_iff.mp targetMember, congrArg Value.text both.1⟩

theorem FollowsInAnyOrder.object (alike : EntriesAlike FollowsInAnyOrder fields others) :
    (Schema.object presence fields).FollowsInAnyOrder (.object presence others) := by
  rintro ⟨value, distinct⟩ ⟨otherValue, otherDistinct⟩ result same parsed
  dsimp only at same parsed ⊢
  obtain ⟨omitted, rfl⟩ | ⟨_, entries, narrowed, object, declared, parts, rfl⟩ :=
    parse_object_eq_ok_iff.mp parsed
  · obtain ⟨isOptional, rfl⟩ := omitted
    rw [same.eq_of_flat rfl rfl]
    exact ⟨.absent, parse_object_eq_ok_iff.mpr (.inl ⟨⟨isOptional, rfl⟩, rfl⟩), .same⟩
  · obtain ⟨otherEntries, otherObject, entriesAlike⟩ := same.entries object
    have distinctKeys := nodup_keys_of_declared (distinct value entries .refl object) declared
    have otherDeclared : ∀ entry ∈ otherEntries, Declares others entry.1 := by
      intro entry member
      obtain ⟨own, ownMember, sameKey, _⟩ := entriesAlike.exists_left member
      exact declares_of_alike alike (sameKey ▸ declared own ownMember)
    obtain ⟨middle, matched, permuted⟩ := alike
    -- Each field is checked on the same content in both runs, up to order.
    have carries : ∀ field ∈ fields, ∀ target ∈ middle, ∀ entry : Value × Value,
        (entry.1 = .text field.1 ∧
          field.2.parse (Value.lookupText entries field.1) = .ok entry.2) →
        (field.1 = target.1 ∧ field.2.FollowsInAnyOrder target.2) →
        ∃ otherEntry : Value × Value, (otherEntry.1 = .text target.1 ∧
          target.2.parse (Value.lookupText otherEntries target.1) = .ok otherEntry.2) ∧
            entry.1 = otherEntry.1 ∧ entry.2.SameUpToOrder otherEntry.2 := by
      rintro ⟨name, field⟩ _ ⟨_, target⟩ _ ⟨_, part⟩ ⟨rfl, fieldParsed⟩ ⟨rfl, follows⟩
      obtain ⟨otherPart, otherParsed, samePart⟩ := follows
        ⟨_, distinct.lookupText object name⟩ ⟨_, otherDistinct.lookupText otherObject name⟩ part
        (Value.lookupText_of_alike entriesAlike distinctKeys) fieldParsed
      exact ⟨(.text name, otherPart), ⟨rfl, otherParsed⟩, rfl, samePart⟩
    obtain ⟨narrowedMiddle, partsMiddle, sameParts⟩ :=
      exists_forall₂_of_forall₂ parts matched carries
    obtain ⟨otherNarrowed, otherParts, reorderedParts⟩ :=
      List.perm_comp_forall₂ permuted.symm partsMiddle
    refine ⟨.object otherNarrowed, parse_object_eq_ok_iff.mpr (.inr ?_),
      .ofEntries ⟨narrowedMiddle, sameParts, reorderedParts.symm⟩⟩
    exact ⟨not_omitted_of_mappingEntries? otherObject, otherEntries, otherNarrowed, otherObject,
      otherDeclared, otherParts, rfl⟩

theorem Regular.refinements_ignoreOrder
    (regular : (Schema.array presence element refinements).Regular custom)
    (ignores : ∀ refinement, custom refinement → refinement.IgnoresOrder) :
    ∀ refinement ∈ refinements, refinement.IgnoresOrder := by
  cases regular with
  | array _ admitted =>
      intro refinement member
      rcases admitted refinement member with rfl | added
      · exact Refinement.nonEmptyArray_ignoresOrder
      · exact ignores refinement added

theorem Reordered.follows (reordered : schema.Reordered other) (regular : schema.Regular custom)
    (ignores : ∀ refinement, custom refinement → refinement.IgnoresOrder) :
    schema.FollowsInAnyOrder other := by
  induction schema using wellFounded_child.induction generalizing other with
  | _ schema ih =>
    cases schema with
    | array presence element refinements =>
        obtain ⟨otherElement, rfl, elements⟩ := reordered.exists_element
        have elementRegular := regular.child .element
        exact (ih element .element elements elementRegular).array elementRegular
          (elements.regular elementRegular) (regular.refinements_ignoreOrder ignores)
    | object presence fields =>
        obtain ⟨others, rfl, alike⟩ := reordered.exists_fields
        refine .object (alike.imp fun field member _ part => ?_)
        have child : field.2.Child (.object presence fields) := .field member
        exact ih field.2 child part (regular.child child)
    | _ =>
        rw [reordered.eq_of_isScalar trivial]
        exact regular.follows_scalar trivial

end Following

/-- Reordering makes no check run on a value for which it does not answer. -/
theorem Reordered.not_checkFaults (reordered : schema.Reordered other)
    (regular : schema.Regular custom)
    (ignores : ∀ refinement, custom refinement → refinement.IgnoresOrder)
    (answers : schema.ChecksAnswer) {part : Schema} {content : Value} {fault : Fault}
    (nested : part.PartOf other) (distinct : content.KeysDistinct) :
    ¬ CheckFaults part content fault := by
  obtain ⟨own, ownNested, ownReordered⟩ := reordered.exists_partOf nested
  have ownRegular := regular.partOf ownNested
  intro faults
  refine answers own content fault ownNested ?_
  cases faults with
  | number number fails =>
      rw [ownReordered.symm.eq_of_isScalar trivial]
      exact .number number fails
  | text fails =>
      rw [ownReordered.symm.eq_of_isScalar trivial]
      exact .text fails
  | @array _ element refinements _ items narrowed _ array parts fails =>
      obtain ⟨ownElement, rfl, elements⟩ := ownReordered.symm.exists_element
      have ownElementRegular := ownRegular.child .element
      have elementRegular := elements.symm.regular ownElementRegular
      have follows := elements.follows elementRegular ignores
      have itemsDistinct (item : Value) (member : item ∈ items) : item.KeysDistinct :=
        distinct.child (.item array member)
      obtain ⟨ownNarrowed, ownParts, _, agree⟩ := follows.items elementRegular ownElementRegular
        itemsDistinct itemsDistinct (List.forall₂_same.mpr fun _ _ => .same) parts
      have ignore := ownRegular.refinements_ignoreOrder ignores
      refine .array array ownParts (Refinement.applyAll_eq_error_of_check_eq ?_ fails)
      exact fun refinement member => agree refinement (ignore refinement member)

theorem exists_violation_iff {outcome : Except Failure Value}
    (sound : ∀ fault, outcome ≠ .error (.faulty fault)) :
    (∃ violation, outcome = .error (.invalid violation)) ↔ ¬ ∃ result, outcome = .ok result := by
  cases outcome with
  | ok result => simp
  | error failure =>
      cases failure with
      | invalid violation => simp
      | faulty fault => exact absurd rfl (sound fault)

/-- Neither order has a say: reordering the fields of a schema and the entries of a value keeps a
result up to order, and as long as every check answers it keeps failing with a violation too. -/
theorem reordering_keeps_outcome (buildable : schema.Buildable custom)
    (ignores : ∀ refinement, custom refinement → refinement.IgnoresOrder)
    (reordered : schema.Reordered other) {first second : Value.Keyed}
    (same : first.value.SameUpToOrder second.value) :
    (∀ result, schema.parse first.value = .ok result →
      ∃ otherResult, other.parse second.value = .ok otherResult ∧
        result.SameUpToOrder otherResult) ∧
    (∀ otherResult, other.parse second.value = .ok otherResult →
      ∃ result, schema.parse first.value = .ok result ∧ result.SameUpToOrder otherResult) ∧
    (schema.ChecksAnswer → schema.LiteralsShort → first.value.KeysShort →
      ((∃ violation, schema.parse first.value = .error (.invalid violation)) ↔
        ∃ violation, other.parse second.value = .error (.invalid violation))) := by
  have regular := buildable.regular
  have otherRegular := reordered.regular regular
  have forward (result : Value) (parsed : schema.parse first.value = .ok result) :
      ∃ otherResult, other.parse second.value = .ok otherResult ∧
        result.SameUpToOrder otherResult :=
    reordered.follows regular ignores first second result same parsed
  have backward (otherResult : Value) (parsed : other.parse second.value = .ok otherResult) :
      ∃ result, schema.parse first.value = .ok result ∧ result.SameUpToOrder otherResult := by
    obtain ⟨result, ownParsed, turned⟩ := reordered.symm.follows otherRegular ignores second first
      otherResult same.symm parsed
    exact ⟨result, ownParsed, turned.symm⟩
  refine ⟨forward, backward, fun answers literals keys => ?_⟩
  have sound : ∀ fault, schema.parse first.value ≠ .error (.faulty fault) := by
    refine regular.parse_ne_faulty literals keys fun _ part content fault follows => ?_
    exact answers part content fault (partOf_of_follow? follows)
  have otherSound : ∀ fault, other.parse second.value ≠ .error (.faulty fault) := by
    refine otherRegular.parse_ne_faulty (reordered.literalsShort literals) (keys.of_same same) ?_
    intro _ part content fault follows
    exact reordered.not_checkFaults regular ignores answers (partOf_of_follow? follows)
      (everywhere_of_follow? second.distinct follows)
  rw [exists_violation_iff sound, exists_violation_iff otherSound]
  refine not_congr ⟨?_, ?_⟩
  · rintro ⟨result, parsed⟩
    obtain ⟨otherResult, otherParsed, _⟩ := forward result parsed
    exact ⟨otherResult, otherParsed⟩
  · rintro ⟨otherResult, otherParsed⟩
    obtain ⟨result, parsed, _⟩ := backward otherResult otherParsed
    exact ⟨result, parsed⟩

theorem reordering_keeps_nested_result :
    let few : Refinement := ⟨"few", "Must be few.", fun value =>
      match value.size? with
      | some size => .ok (size < 3)
      | none => .error (.notMeasurable value.qualifiedTypeName)⟩
    let size : Schema := .number .optional [.positive]
    let apps (fields : List (Text × Schema)) : Schema :=
      .array .required (.object .required fields) [.nonEmptyArray, few]
    let schema : Schema := .object .required [("kind", .literal .required .null),
      ("apps", apps [("size", size), ("run", .function .required)])]
    let other : Schema := .object .required
      [("apps", apps [("run", .function .required), ("size", size)]),
        ("kind", .literal .required .null)]
    let call (entries : List (Value × Value)) : Value := .mapping .callable entries
    let value : Value := .mapping .readOnly [(.text "kind", .null), (.text "apps",
      .tuple [.object [(.text "run", call [(.int 1, .null), (.int 2, .null)]),
        (.text "size", .int 7)]])]
    let otherValue : Value := .mapping .readOnly [(.text "apps",
      .tuple [.object [(.text "size", .int 7),
        (.text "run", call [(.int 2, .null), (.int 1, .null)])]]), (.text "kind", .null)]
    ∃ result otherResult, schema.parse value = .ok result ∧
      other.parse otherValue = .ok otherResult ∧ result.SameUpToOrder otherResult := by
  intro few size apps schema other call value otherValue
  have buildable : schema.Buildable (· = few) := by
    refine Regular.buildable (.object (by decide) fun field member => ?_)
    obtain rfl | rfl : field = _ ∨ field = _ := by simpa using member
    · exact .literal (by decide)
    · refine .array (.object (by decide) fun field member => ?_) (by simp)
      obtain rfl | rfl : field = _ ∨ field = _ := by simpa using member
      · exact .number (by simp)
      · exact .function
  have ignores : ∀ refinement, refinement = few → refinement.IgnoresOrder := by
    rintro _ rfl
    exact Refinement.ignoresOrder_of_size (fun size => .ok (size < 3)) fun _ => rfl
  have appReordered : (Schema.object .required [("size", size),
      ("run", .function .required)]).Reordered (.object .required
        [("run", .function .required), ("size", size)]) := by
    refine .object (by rfl) ?_ (.swap _ _ _)
    exact .cons .same (.cons .same .nil)
  have reordered : schema.Reordered other := by
    refine .object (by rfl) ?_ (.swap _ _ _)
    exact .cons .same (.cons (.array appReordered) .nil)
  have sameCall : (call [(.int 1, .null), (.int 2, .null)]).SameUpToOrder
      (call [(.int 2, .null), (.int 1, .null)]) := by
    refine .mapping (by rfl) ?_ (.swap _ _ _)
    exact .cons .same (.cons .same .nil)
  have sameApp : (Value.object [(.text "run", call [(.int 1, .null), (.int 2, .null)]),
      (.text "size", .int 7)]).SameUpToOrder (.object [(.text "size", .int 7),
        (.text "run", call [(.int 2, .null), (.int 1, .null)])]) := by
    refine .mapping (by rfl) ?_ (.swap _ _ _)
    exact .cons sameCall (.cons .same .nil)
  have same : value.SameUpToOrder otherValue := by
    refine .mapping (by rfl) ?_ (.swap _ _ _)
    exact .cons .same (.cons (.tuple (.cons sameApp .nil)) .nil)
  have null : Value.null.KeysDistinct := Value.everywhere_of_flat rfl rfl
  have number : (Value.int 7).KeysDistinct := Value.everywhere_of_flat rfl rfl
  have texts (first second : Text) :
      (Value.text first).equals (.text second) = (first == second) := by simp [Value.equals]
  have numbers : (Value.int 1).equals (.int 2) = false ∧ (Value.int 2).equals (.int 1) = false := by
    constructor <;> cbv
  have distinct : value.KeysDistinct := by
    simp [value, call, Value.everywhere_mapping_iff, @Value.everywhere_array_iff (.tuple _) _ _ rfl,
      texts, numbers, null, number]
  have otherDistinct : otherValue.KeysDistinct := by
    simp [otherValue, call, Value.everywhere_mapping_iff,
      @Value.everywhere_array_iff (.tuple _) _ _ rfl, texts, numbers, null, number]
  have parsed : schema.parse value = .ok (.object [(.text "kind", .null), (.text "apps",
      .list [.object [(.text "size", .int 7),
        (.text "run", call [(.int 1, .null), (.int 2, .null)])]])]) := by cbv
  obtain ⟨otherResult, otherParsed, sameResult⟩ :=
    (@reordering_keeps_outcome _ _ _ buildable ignores reordered ⟨value, distinct⟩
      ⟨otherValue, otherDistinct⟩ same).1 _ parsed
  exact ⟨_, otherResult, parsed, otherParsed, sameResult⟩

end Schema

end ClosedShape
