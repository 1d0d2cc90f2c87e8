import ClosedShape.Proofs.FirstFailure
import ClosedShape.Value.Prune
import Mathlib.Data.List.Nodup

/-!
# What parsing returns

A parse rebuilds the arrays and objects of a value and leaves everything else as it is.  What it
returned is accepted by the same schema and comes back unchanged, and without the fields that were
left out it is the value that was parsed, up to the order of its entries.
-/

namespace ClosedShape

namespace Value

/-- A value as documents hold it: nothing in it is `absent`, and its containers are lists and plain
mappings with distinct keys. -/
inductive IsDocument : Value → Prop
  | list {items : List Value} (contents : ∀ item ∈ items, IsDocument item) :
      IsDocument (.list items)
  | object {entries : List (Value × Value)}
      (distinct : KeysApart entries)
      (contents : ∀ entry ∈ entries, IsDocument entry.2) : IsDocument (.object entries)
  | scalar {value : Value} (provided : value ≠ .absent) (noArray : value.arrayItems? = none)
      (noObject : value.mappingEntries? = none) : IsDocument value

theorem IsDocument.ne_absent {value : Value} (document : value.IsDocument) : value ≠ .absent := by
  cases document with
  | list | object => simp
  | scalar provided => exact provided

/-- Two values that are the same up to the order in which mappings have their entries, at any
depth. -/
inductive SameUpToOrder : Value → Value → Prop
  | same {value : Value} : SameUpToOrder value value
  | list {left right : List Value} (items : List.Forall₂ SameUpToOrder left right) :
      SameUpToOrder (.list left) (.list right)
  | tuple {left right : List Value} (items : List.Forall₂ SameUpToOrder left right) :
      SameUpToOrder (.tuple left) (.tuple right)
  | mapping {flavour : MappingFlavour} {left middle right : List (Value × Value)}
      (keys : left.map Prod.fst = middle.map Prod.fst)
      (contents : List.Forall₂ SameUpToOrder (left.map Prod.snd) (middle.map Prod.snd))
      (reordered : middle.Perm right) :
      SameUpToOrder (.mapping flavour left) (.mapping flavour right)

theorem pairwise_equals_of_nodup {α : Type} {entries : List (Value × α)}
    (named : ∀ entry ∈ entries, ∃ name, entry.1 = .text name)
    (distinct : (entries.map Prod.fst).Nodup) :
    KeysApart entries := by
  refine (List.pairwise_map.mp distinct).imp_of_mem fun member otherMember differ => ?_
  obtain ⟨name, isText⟩ := named _ member
  obtain ⟨other, otherIsText⟩ := named _ otherMember
  rw [isText, otherIsText] at differ ⊢
  simpa [equals] using differ

theorem isAbsent_eq_false_iff {value : Value} : value.isAbsent = false ↔ value ≠ .absent := by
  cases value <;> simp [isAbsent]

theorem pruneItems_eq_map {items : List Value} :
    pruneItems items = (items.filter fun item => !item.isAbsent).map prune := by
  induction items with
  | nil => rfl
  | cons item items ih => cases left : item.isAbsent <;> simp [pruneItems, left, ih]

theorem pruneEntries_eq_map {entries : List (Value × Value)} :
    pruneEntries entries = (entries.filter fun entry => !entry.2.isAbsent).map
      fun entry => (entry.1, entry.2.prune) := by
  induction entries with
  | nil => rfl
  | cons entry entries ih => cases left : entry.2.isAbsent <;> simp [pruneEntries, left, ih]

end Value

namespace Schema

variable {custom : Refinement → Prop} {schema : Schema} {presence : Presence}
  {value result : Value}

section Scalars

/-- A value that an optional schema accepts was left out, or has passed the check. -/
@[elab_as_elim]
theorem of_guardPresence_eq_ok {motive : Value → Value → Prop} {check : Run Value}
    (parsed : (guardPresence presence value check).outcome = .ok result)
    (leftOut : motive .absent .absent) (passed : check.outcome = .ok result → motive value result) :
    motive value result := by
  rcases outcome_guardPresence_eq_ok_iff.mp parsed with ⟨omitted, isAbsent⟩ | ⟨_, checked⟩
  · rwa [isAbsent, omitted.2]
  · exact passed checked

/-- A schema of this library that has no parts returns the values that it accepts as they are. -/
theorem eq_of_parse_scalar (parsed : schema.parse value = .ok result) (scalar : schema.IsScalar)
    (own : schema.isForeign = false) : result = value := by
  cases schema with
  | number =>
      refine of_guardPresence_eq_ok parsed rfl fun checked => ?_
      exact (outcome_parseNumber_eq_ok_iff.mp checked).2
  | text =>
      refine of_guardPresence_eq_ok parsed rfl fun checked => ?_
      exact (outcome_parseText_eq_ok_iff.mp checked).2
  | boolean =>
      refine of_guardPresence_eq_ok parsed rfl fun checked => ?_
      exact (outcome_parseBoolean_eq_ok_iff.mp checked).2
  | function =>
      refine of_guardPresence_eq_ok parsed rfl fun checked => ?_
      exact (outcome_parseFunction_eq_ok_iff.mp checked).2
  | literal =>
      refine of_guardPresence_eq_ok parsed rfl fun checked => ?_
      exact (outcome_parseLiteral_eq_ok_iff.mp checked).2.2
  | array => exact scalar.elim
  | object => exact scalar.elim
  | foreign => cases own

/-- A schema without parts returns the values that it accepts as they are, and there is nothing to
prune in them. -/
theorem Regular.eq_of_parse_scalar (regular : schema.Regular custom) (scalar : schema.IsScalar)
    (parsed : schema.parse value = .ok result) : result = value ∧ value.prune = value := by
  cases regular with
  | number =>
      refine of_guardPresence_eq_ok parsed ⟨rfl, rfl⟩ fun checked => ?_
      obtain ⟨⟨number, _⟩, rfl⟩ := outcome_parseNumber_eq_ok_iff.mp checked
      cases result <;> cases number <;> exact ⟨rfl, rfl⟩
  | text =>
      refine of_guardPresence_eq_ok parsed ⟨rfl, rfl⟩ fun checked => ?_
      obtain ⟨⟨⟨content, rfl⟩, _⟩, rfl⟩ := outcome_parseText_eq_ok_iff.mp checked
      exact ⟨rfl, rfl⟩
  | boolean =>
      refine of_guardPresence_eq_ok parsed ⟨rfl, rfl⟩ fun checked => ?_
      obtain ⟨⟨truth, rfl⟩, rfl⟩ := outcome_parseBoolean_eq_ok_iff.mp checked
      exact ⟨rfl, rfl⟩
  | function =>
      refine of_guardPresence_eq_ok parsed ⟨rfl, rfl⟩ fun checked => ?_
      obtain ⟨callable, rfl⟩ := outcome_parseFunction_eq_ok_iff.mp checked
      refine ⟨rfl, ?_⟩
      unfold Value.isCallable at callable
      split at callable
      · rfl
      · rfl
      · cases callable
  | literal admitted =>
      refine of_guardPresence_eq_ok parsed ⟨rfl, rfl⟩ fun checked => ?_
      obtain ⟨_, ⟨sameKind, _⟩, rfl⟩ := outcome_parseLiteral_eq_ok_iff.mp checked
      rw [← sameKind] at admitted
      refine ⟨rfl, ?_⟩
      cases result with
      | list =>
          change literalKinds.contains Kind.array.name = true at admitted
          exact absurd admitted (by decide)
      | mapping =>
          change literalKinds.contains Kind.object.name = true at admitted
          exact absurd admitted (by decide)
      | _ => rfl
  | array => exact scalar.elim
  | object => exact scalar.elim

/-- Only what was left out is returned as `absent`. -/
theorem Regular.eq_absent_iff_of_parse (regular : schema.Regular custom)
    (parsed : schema.parse value = .ok result) : result = .absent ↔ value = .absent := by
  cases schema with
  | array =>
      obtain ⟨omitted, rfl⟩ | ⟨_, items, narrowed, array, _, _, rfl⟩ :=
        parse_array_eq_ok_iff.mp parsed
      · simp [omitted.2]
      · refine iff_of_false (by simp) ?_
        rintro rfl
        cases array
  | object =>
      obtain ⟨omitted, rfl⟩ | ⟨_, entries, narrowed, object, _, _, rfl⟩ :=
        parse_object_eq_ok_iff.mp parsed
      · simp [omitted.2]
      · refine iff_of_false (by simp) ?_
        rintro rfl
        cases object
  | _ => rw [(regular.eq_of_parse_scalar trivial parsed).1]

end Scalars

section Idempotence

section Rebuilt

variable {fields : List (Text × Schema)} {narrowed : List (Value × Value)}
  {holds : Text × Schema → Value × Value → Prop}

theorem nodup_keys_of_forall₂ (distinct : (fields.map Prod.fst).Nodup)
    (each : List.Forall₂ (fun field entry => entry.1 = .text field.1 ∧ holds field entry) fields
      narrowed) : (narrowed.map Prod.fst).Nodup := by
  have keys : (fields.map Prod.fst).map Value.text = narrowed.map Prod.fst := by
    rw [List.map_map]
    exact map_eq_map_of_forall₂ each fun _ _ both => both.1.symm
  rw [← keys]
  exact List.Nodup.map (fun _ _ => Value.text.inj) distinct

theorem named_of_forall₂
    (each : List.Forall₂ (fun field entry => entry.1 = .text field.1 ∧ holds field entry) fields
      narrowed) : ∀ entry ∈ narrowed, ∃ name, entry.1 = .text name := by
  intro entry member
  obtain ⟨field, _, isField, _⟩ := exists_related_of_mem each member
  exact ⟨field.1, isField⟩

/-- Distinct names make every entry of a rebuilt mapping the one that is found under its name. -/
theorem lookupText_of_forall₂ (distinct : (fields.map Prod.fst).Nodup)
    (each : List.Forall₂ (fun field entry => entry.1 = .text field.1 ∧ holds field entry) fields
      narrowed) {name : Text} {content : Value} (member : (.text name, content) ∈ narrowed) :
    Value.lookupText narrowed name = content :=
  Value.lookupText_of_mem (nodup_keys_of_forall₂ distinct each) member

end Rebuilt

/-- What was returned is returned again with the same containers in the same order, and what was
left out is still `absent`. -/
theorem parse_idempotent (buildable : schema.Buildable custom)
    (parsed : schema.parse value = .ok result) : schema.parse result = .ok result := by
  rw [buildable_iff_regular] at buildable
  induction schema using wellFounded_child.induction generalizing value result with
  | _ schema ih =>
    cases schema with
    | array presence element refinements =>
        rw [parse_array_eq_ok_iff] at parsed ⊢
        obtain ⟨omitted, rfl⟩ | ⟨_, items, narrowed, _, parts, satisfied, rfl⟩ := parsed
        · exact .inl ⟨⟨omitted.1, rfl⟩, rfl⟩
        · refine .inr ⟨not_omitted_of_arrayItems? rfl, narrowed, narrowed, rfl, ?_, satisfied, rfl⟩
          refine List.forall₂_same.mpr fun part member => ?_
          obtain ⟨item, _, itemParsed⟩ := exists_related_of_mem parts member
          exact ih element .element (buildable.child .element) itemParsed
    | object presence fields =>
        rw [parse_object_eq_ok_iff] at parsed ⊢
        obtain ⟨omitted, rfl⟩ | ⟨_, entries, narrowed, _, _, parts, rfl⟩ := parsed
        · exact .inl ⟨⟨omitted.1, rfl⟩, rfl⟩
        · refine .inr ⟨not_omitted_of_mappingEntries? rfl, narrowed, narrowed, rfl, ?_, ?_, rfl⟩
          · intro entry member
            obtain ⟨field, fieldMember, isField, _⟩ := exists_related_of_mem parts member
            exact ⟨field, fieldMember, isField⟩
          · have distinct := buildable.fieldsDistinct presence fields .refl
            refine forall₂_imp_of_mem parts ?_
            rintro field fieldMember ⟨_, content⟩ member ⟨rfl, fieldParsed⟩
            rw [lookupText_of_forall₂ distinct parts member]
            have child : field.2.Child (.object presence fields) := .field fieldMember
            exact ⟨rfl, ih field.2 child (buildable.child child) fieldParsed⟩
    | _ =>
        obtain ⟨rfl, _⟩ := buildable.eq_of_parse_scalar trivial parsed
        exact parsed

theorem parse_idempotent_beside_omitted_item :
    let filled := Refinement.ofTest "filled" "Must not be empty." .truth
    let schema : Schema := .object .required [("kind", .literal .required .null),
      ("size", .number .optional [.positive]),
      ("tags", .array .optional (.text .optional [.nonEmptyText]) [.nonEmptyArray, filled])]
    let value : Value := .mapping .readOnly
      [(.text "tags", .tuple [.text "a", .absent]), (.text "kind", .null)]
    let result : Value := .object [(.text "kind", .null), (.text "size", .absent),
      (.text "tags", .list [.text "a", .absent])]
    schema.parse value = .ok result ∧ schema.parse result = .ok result := by
  intro filled schema value result
  have buildable : schema.Buildable (· = filled) := by
    refine Regular.buildable (.object (by decide) fun field member => ?_)
    obtain rfl | rfl | rfl : field = _ ∨ field = _ ∨ field = _ := by simpa using member
    · exact .literal (by decide)
    · exact .number (by simp)
    · exact .array (.text (by simp)) (by simp)
  have parsed : schema.parse value = .ok result := by cbv
  exact ⟨parsed, parse_idempotent buildable parsed⟩

end Idempotence

section Pruning

variable {fields : List (Text × Schema)} {entries : List (Value × Value)}

/-- Keys that fields are named by are texts, so they differ where they are not equal. -/
theorem nodup_keys_of_declared
    (distinct : Value.KeysApart entries)
    (declared : ∀ entry ∈ entries, Declares fields entry.1) : (entries.map Prod.fst).Nodup := by
  rw [List.Nodup, List.pairwise_map]
  refine distinct.imp_of_mem fun {first second} member _ differ same => ?_
  obtain ⟨field, _, isText⟩ := declared first member
  rw [← same, isText] at differ
  simp [Value.equals] at differ

/-- What a mapping has under the names of fields, in the order of the fields and without what was
left out. -/
def providedEntries (fields : List (Text × Schema)) (entries : List (Value × Value)) :
    List (Value × Value) :=
  (fields.map fun field => (.text field.1, Value.lookupText entries field.1)).filter
    fun entry => !entry.2.isAbsent

/-- If every key is declared, these are all the entries of the mapping. -/
theorem providedEntries_perm (distinctNames : (fields.map Prod.fst).Nodup)
    (distinctKeys : (entries.map Prod.fst).Nodup)
    (declared : ∀ entry ∈ entries, Declares fields entry.1)
    (provided : ∀ entry ∈ entries, entry.2 ≠ .absent) :
    (providedEntries fields entries).Perm entries := by
  have distinct : (providedEntries fields entries).Nodup := by
    refine List.Nodup.filter _ (List.Nodup.of_map Prod.fst ?_)
    have names : ((fields.map Prod.fst).map Value.text).Nodup :=
      List.Nodup.map (fun _ _ => Value.text.inj) distinctNames
    rw [List.map_map] at names ⊢
    exact names
  refine (List.perm_ext_iff_of_nodup distinct (List.Nodup.of_map _ distinctKeys)).mpr ?_
  rintro ⟨key, content⟩
  simp only [providedEntries, List.mem_filter, List.mem_map, Bool.not_eq_true',
    Value.isAbsent_eq_false_iff]
  constructor
  · rintro ⟨⟨field, _, equal⟩, given⟩
    cases equal
    exact Value.mem_of_lookupText_ne_absent given
  · intro member
    obtain ⟨field, fieldMember, rfl⟩ := declared _ member
    refine ⟨⟨field, fieldMember, ?_⟩, provided _ member⟩
    rw [Value.lookupText_of_mem distinctKeys member]

theorem prune_list_sameUpToOrder {items narrowed : List Value}
    (parts : List.Forall₂ (fun part item => part ≠ .absent ∧ part.prune.SameUpToOrder item)
      narrowed items) : (Value.list narrowed).prune.SameUpToOrder (.list items) := by
  have provided : ∀ part ∈ narrowed, (!part.isAbsent) = true := by
    intro part member
    obtain ⟨_, _, given, _⟩ := exists_related_of_mem parts.flip member
    simpa [Value.isAbsent_eq_false_iff] using given
  rw [Value.prune, Value.pruneItems_eq_map, List.filter_eq_self.mpr provided]
  exact .list (List.forall₂_map_left_iff.mpr (parts.imp fun _ _ both => both.2))

/-- A field whose entry is left out is the only one that pruning removes. -/
theorem prune_object_sameUpToOrder {narrowed : List (Value × Value)}
    (parts : List.Forall₂ (fun field entry => entry.1 = .text field.1 ∧
      (entry.2 = .absent ↔ Value.lookupText entries field.1 = .absent) ∧
        (Value.lookupText entries field.1 ≠ .absent →
          entry.2.prune.SameUpToOrder (Value.lookupText entries field.1))) fields narrowed)
    (reordered : (providedEntries fields entries).Perm entries) :
    (Value.object narrowed).prune.SameUpToOrder (.object entries) := by
  have kept : List.Forall₂ (fun target entry => entry.1 = target.1 ∧
      (entry.2 = .absent ↔ target.2 = .absent) ∧
        (target.2 ≠ .absent → entry.2.prune.SameUpToOrder target.2))
      (providedEntries fields entries) (narrowed.filter fun entry => !entry.2.isAbsent) := by
    refine List.rel_filter (fun target entry both => ?_) (List.forall₂_map_left_iff.mpr parts)
    simp only [Bool.not_eq_true', Value.isAbsent_eq_false_iff]
    exact not_congr both.2.1.symm
  rw [Value.prune, Value.pruneEntries_eq_map]
  refine .mapping ?_ ?_ reordered
  · rw [List.map_map]
    exact (map_eq_map_of_forall₂ kept fun _ _ both => both.1.symm).symm
  · rw [List.map_map, List.forall₂_map_left_iff, List.forall₂_map_right_iff]
    refine List.Forall₂.flip (forall₂_imp_of_mem kept ?_)
    rintro target member entry _ ⟨_, _, same⟩
    apply same
    simpa [Value.isAbsent_eq_false_iff] using (List.mem_filter.mp member).2

/-- Nothing is lost and nothing invented: without what was left out, the result has the keys, the
items and the scalars of the parsed value. -/
theorem prune_parse_sameUpToOrder (buildable : schema.Buildable custom)
    (document : value.IsDocument) (parsed : schema.parse value = .ok result) :
    result.prune.SameUpToOrder value := by
  rw [buildable_iff_regular] at buildable
  induction schema using wellFounded_child.induction generalizing value result with
  | _ schema ih =>
    cases schema with
    | array presence element refinements =>
        obtain ⟨omitted, _⟩ | ⟨_, items, narrowed, array, parts, _, rfl⟩ :=
          parse_array_eq_ok_iff.mp parsed
        · exact absurd omitted.2 document.ne_absent
        · have regular := buildable.child .element
          cases document with
          | list contents =>
              cases array
              refine prune_list_sameUpToOrder (List.Forall₂.flip ?_)
              refine forall₂_imp_of_mem parts fun item member part _ itemParsed => ?_
              have given := (contents item member).ne_absent
              exact ⟨mt (regular.eq_absent_iff_of_parse itemParsed).mp given,
                ih element .element regular (contents item member) itemParsed⟩
          | object => cases array
          | scalar _ noArray => cases noArray.symm.trans array
    | object presence fields =>
        obtain ⟨omitted, _⟩ | ⟨_, entries, narrowed, object, declared, parts, rfl⟩ :=
          parse_object_eq_ok_iff.mp parsed
        · exact absurd omitted.2 document.ne_absent
        · cases document with
          | list => cases object
          | object distinct contents =>
              cases object
              have distinctNames := buildable.fieldsDistinct presence fields .refl
              have distinctKeys := nodup_keys_of_declared distinct declared
              refine prune_object_sameUpToOrder ?_ (providedEntries_perm distinctNames distinctKeys
                declared fun entry member => (contents entry member).ne_absent)
              refine forall₂_imp_of_mem parts ?_
              rintro field fieldMember entry _ ⟨isField, fieldParsed⟩
              have child : field.2.Child (.object presence fields) := .field fieldMember
              have regular := buildable.child child
              refine ⟨isField, regular.eq_absent_iff_of_parse fieldParsed, fun given => ?_⟩
              have member := Value.mem_of_lookupText_ne_absent given
              exact ih field.2 child regular (contents _ member) fieldParsed
          | scalar _ _ noObject => cases noObject.symm.trans object
    | _ =>
        obtain ⟨rfl, pruned⟩ := buildable.eq_of_parse_scalar trivial parsed
        rw [pruned]
        exact .same

theorem prune_parse_sameUpToOrder_of_nested_objects :
    let schema : Schema := .object .required [("kind", .literal .required .null),
      ("note", .text .optional []), ("apps", .array .required (.object .required
        [("size", .number .optional [.positive]), ("run", .function .required)]) [])]
    let value : Value := .object [
      (.text "apps", .list [.object [(.text "run", .function "go"), (.text "size", .int 1)],
        .object [(.text "run", .function "stop")]]), (.text "kind", .null)]
    let pruned : Value := .object [(.text "kind", .null),
      (.text "apps", .list [.object [(.text "size", .int 1), (.text "run", .function "go")],
        .object [(.text "run", .function "stop")]])]
    value.IsDocument ∧ ∃ result, schema.parse value = .ok result ∧ result.prune = pruned ∧
      result.prune.SameUpToOrder value := by
  intro schema value pruned
  have buildable : schema.Buildable fun _ => False := by
    refine Regular.buildable (.object (by decide) fun field member => ?_)
    obtain rfl | rfl | rfl : field = _ ∨ field = _ ∨ field = _ := by simpa using member
    · exact .literal (by decide)
    · exact .text (by simp)
    · refine .array (.object (by decide) fun field member => ?_) (by simp)
      obtain rfl | rfl : field = _ ∨ field = _ := by simpa using member
      · exact .number (by simp)
      · exact .function
  have function (name : String) : (Value.function name).IsDocument := .scalar (by simp) rfl rfl
  have number : (Value.int 1).IsDocument := .scalar (by simp) rfl rfl
  have document : value.IsDocument := by
    refine .object (by simp [Value.equals]) ?_
    simp only [List.forall_mem_cons, List.not_mem_nil, false_implies, implies_true, and_true]
    refine ⟨.list ?_, .scalar (by simp) rfl rfl⟩
    simp only [List.forall_mem_cons, List.not_mem_nil, false_implies, implies_true, and_true]
    refine ⟨.object (by simp [Value.equals]) ?_, .object (by simp) ?_⟩
    · simpa using ⟨function "go", number⟩
    · simpa using function "stop"
  have parsed : schema.parse value = .ok (.object [(.text "kind", .null),
      (.text "note", .absent),
      (.text "apps", .list [.object [(.text "size", .int 1), (.text "run", .function "go")],
        .object [(.text "size", .absent), (.text "run", .function "stop")]])]) := by cbv
  exact ⟨document, _, parsed, by cbv, prune_parse_sameUpToOrder buildable document parsed⟩

end Pruning

end Schema

end ClosedShape
