import ClosedShape.Proofs.Reordering

/-!
# Loosening and tightening

Making a schema optional only loosens it, and refining it only tightens it.  Both hold for changes
to any of the schemas nested in another, because an object and an array pass on what their parts
accept: with looser parts they accept more, and give the same results for what they accepted before.
-/

namespace ClosedShape.Schema

variable {custom : Refinement → Prop} {schema other : Schema} {presence : Presence}
  {value result : Value} {change related : Schema → Schema → Prop}

/-- Schemas nested in one schema have been changed, at any depth and any number of times. -/
inductive Altered (change : Schema → Schema → Prop) : Schema → Schema → Prop
  | root {schema other : Schema} (changed : Relation.ReflTransGen change schema other) :
      Altered change schema other
  | array {presence : Presence} {element altered other : Schema} {refinements : List Refinement}
      (elements : Altered change element altered)
      (changed : Relation.ReflTransGen change (.array presence altered refinements) other) :
      Altered change (.array presence element refinements) other
  | object {presence : Presence} {fields altered : List (Text × Schema)} {other : Schema}
      (names : fields.map Prod.fst = altered.map Prod.fst)
      (parts : List.Forall₂ (Altered change) (fields.map Prod.snd) (altered.map Prod.snd))
      (changed : Relation.ReflTransGen change (.object presence altered) other) :
      Altered change (.object presence fields) other

/-- Some of the nested schemas have become optional. -/
abbrev Loosened : Schema → Schema → Prop :=
  Altered fun schema other => schema.optional? = some other

/-- Some of the nested schemas have been given more refinements, the library's own or custom
ones. -/
abbrev Tightened : Schema → Schema → Prop :=
  Altered fun schema other =>
    ∃ link : Entity.Link, link ≠ .member "optional" ∧ link.applyTo schema = some other

/-- The first schema accepts only what the second accepts, with the same result. -/
def Within (schema other : Schema) : Prop :=
  ∀ value result, schema.parse value = .ok result → other.parse value = .ok result

section Nesting

/-- A preorder on schemas that relates arrays and objects whose parts it relates. -/
structure Congruence (related : Schema → Schema → Prop) : Prop where
  refl (schema : Schema) : related schema schema
  trans {first second third : Schema} (before : related first second)
    (after : related second third) : related first third
  array {presence : Presence} {element altered : Schema} {refinements : List Refinement}
    (elements : related element altered) :
    related (.array presence element refinements) (.array presence altered refinements)
  object {presence : Presence} {fields altered : List (Text × Schema)}
    (parts : List.Forall₂ (fun field target => field.1 = target.1 ∧ related field.2 target.2)
      fields altered) : related (.object presence fields) (.object presence altered)

theorem Congruence.swap (congruence : Congruence related) :
    Congruence fun schema other => related other schema where
  refl := congruence.refl
  trans before after := congruence.trans after before
  array := congruence.array
  object parts := congruence.object (parts.flip.imp fun _ _ both => ⟨both.1.symm, both.2⟩)

theorem Congruence.of_reflTransGen (congruence : Congruence related)
    (step : ∀ schema other, change schema other → related schema other)
    (changed : Relation.ReflTransGen change schema other) : related schema other := by
  induction changed with
  | refl => exact congruence.refl schema
  | tail _ last ih => exact congruence.trans ih (step _ _ last)

/-- What one change does to a schema, many changes do wherever they are made. -/
theorem Congruence.of_altered (congruence : Congruence related)
    (step : ∀ schema other, change schema other → related schema other)
    (altered : Altered change schema other) : related schema other := by
  induction schema using wellFounded_child.induction generalizing other with
  | _ schema ih =>
    cases altered with
    | root changed => exact congruence.of_reflTransGen step changed
    | array elements changed =>
        refine congruence.trans ?_ (congruence.of_reflTransGen step changed)
        exact congruence.array (ih _ .element elements)
    | object names parts changed =>
        refine congruence.trans ?_ (congruence.of_reflTransGen step changed)
        have matched := forall₂_entries_iff.mpr ⟨names, parts⟩
        refine congruence.object (forall₂_imp_of_mem matched fun field member _ _ both => ?_)
        exact ⟨both.1, ih field.2 (.field member) both.2⟩

theorem Within.array {element altered : Schema} {refinements : List Refinement}
    (elements : element.Within altered) :
    (Schema.array presence element refinements).Within (.array presence altered refinements) := by
  intro value result parsed
  rw [parse_array_eq_ok_iff] at parsed ⊢
  rcases parsed with omitted | ⟨provided, items, narrowed, array, parts, satisfied, equal⟩
  · exact .inl omitted
  · have alteredParts := parts.imp fun item part itemParsed => elements item part itemParsed
    exact .inr ⟨provided, items, narrowed, array, alteredParts, satisfied, equal⟩

theorem Within.object {fields others : List (Text × Schema)}
    (matched : List.Forall₂ (fun field target => field.1 = target.1 ∧ field.2.Within target.2)
      fields others) : (Schema.object presence fields).Within (.object presence others) := by
  intro value result parsed
  rw [parse_object_eq_ok_iff] at parsed ⊢
  rcases parsed with omitted | ⟨provided, entries, narrowed, object, declared, parts, equal⟩
  · exact .inl omitted
  · have stillDeclared : ∀ entry ∈ entries, Declares others entry.1 := fun entry member =>
      declares_of_alike ⟨others, matched, .refl others⟩ (declared entry member)
    have carries : ∀ field ∈ fields, ∀ target ∈ others, ∀ entry : Value × Value,
        (entry.1 = .text field.1 ∧
          field.2.parse (Value.lookupText entries field.1) = .ok entry.2) →
        (field.1 = target.1 ∧ field.2.Within target.2) →
        ∃ another : Value × Value, (another.1 = .text target.1 ∧
          target.2.parse (Value.lookupText entries target.1) = .ok another.2) ∧
            entry = another := by
      rintro ⟨name, field⟩ _ ⟨_, target⟩ _ ⟨_, part⟩ ⟨rfl, fieldParsed⟩ ⟨rfl, within⟩
      exact ⟨_, ⟨rfl, within _ _ fieldParsed⟩, rfl⟩
    obtain ⟨others, otherParts, same⟩ := exists_forall₂_of_forall₂ parts matched carries
    rw [List.forall₂_eq_eq_eq] at same
    subst same
    exact .inr ⟨provided, entries, narrowed, object, stillDeclared, otherParts, equal⟩

theorem within_congruence : Congruence Within where
  refl _ _ _ parsed := parsed
  trans before after value result parsed := after value result (before value result parsed)
  array := Within.array
  object := Within.object

end Nesting

section Optional

theorem Regular.exists_optional? (regular : schema.Regular custom) :
    ∃ relaxed, schema.optional? = some relaxed := by
  cases regular <;> exact ⟨_, rfl⟩

theorem parse_optional?_of_provided (relaxed : schema.optional? = some other)
    (provided : value ≠ .absent) : other.parse value = schema.parse value := by
  have notOmitted (presence : Presence) : ¬ Omitted presence value := fun omitted =>
    provided omitted.2
  cases schema <;> cases relaxed <;>
    simp only [parse, run, guardPresence_of_not_omitted (notOmitted _)]

/-- The schema with other refinements in place of its own. -/
def withRefinements (refinements : List Refinement) : Schema → Schema
  | .number presence _ => .number presence refinements
  | .text presence _ => .text presence refinements
  | .array presence element _ => .array presence element refinements
  | schema => schema

theorem parse_optional?_absent (relaxed : schema.optional? = some other) :
    other.parse .absent = .ok .absent := by
  cases schema <;> cases relaxed <;> rfl

/-- Whatever the refinements are, they have no say in this, so none of them is asked. -/
theorem parse_withRefinements_absent (relaxed : schema.optional? = some other)
    (refinements : List Refinement) :
    (other.withRefinements refinements).parse .absent = .ok .absent := by
  cases schema <;> cases relaxed <;> rfl

/-- A schema that is not optional can accept `absent` too, as a literal, and returns it then. -/
theorem eq_absent_of_parse_absent (relaxed : schema.optional? = some other)
    (parsed : schema.parse .absent = .ok result) : result = .absent := by
  cases schema with
  | array =>
      rcases parse_array_eq_ok_iff.mp parsed with ⟨_, isAbsent⟩ | ⟨_, _, _, noArray, _⟩
      · exact isAbsent
      · cases noArray
  | object =>
      rcases parse_object_eq_ok_iff.mp parsed with ⟨_, isAbsent⟩ | ⟨_, _, _, noObject, _⟩
      · exact isAbsent
      · cases noObject
  | foreign => cases relaxed
  | _ => exact eq_of_parse_scalar parsed trivial rfl

theorem within_optional? (relaxed : schema.optional? = some other) : schema.Within other := by
  intro value result parsed
  by_cases absent : value = .absent
  · subst absent
    rw [eq_absent_of_parse_absent relaxed parsed]
    exact parse_optional?_absent relaxed
  · rw [parse_optional?_of_provided relaxed absent]
    exact parsed

end Optional

section Refining

/-- Calls other than the one for an optional schema add a refinement. -/
theorem exists_refine?_of_applyTo {link : Entity.Link} (noOptional : link ≠ .member "optional")
    (called : link.applyTo schema = some other) :
    ∃ refinement, schema.refine? refinement = some other := by
  unfold Entity.Link.applyTo at called
  split at called
  · exact absurd rfl noOptional
  · cases schema <;> cases called
    exact ⟨.positive, rfl⟩
  · cases schema <;> cases called
    · exact ⟨.nonEmptyText, rfl⟩
    · exact ⟨.nonEmptyArray, rfl⟩
  · cases called
  · exact ⟨_, called⟩

/-- A schema with one more refinement asks the same as before, and the refinement after it. -/
theorem within_of_refine? {refinement : Refinement}
    (refined : schema.refine? refinement = some other) : other.Within schema := by
  intro value result parsed
  have earlier {refinements : List Refinement} {content : Value}
      (satisfied : ∀ one ∈ refinements ++ [refinement], one.Holds content) :
      ∀ one ∈ refinements, one.Holds content := fun one member =>
    satisfied one (List.mem_append_left _ member)
  cases schema with
  | number =>
      cases refined
      simp only [parse, run, outcome_guardPresence_eq_ok_iff, outcome_parseNumber_eq_ok_iff]
        at parsed ⊢
      rcases parsed with omitted | ⟨provided, ⟨number, satisfied⟩, same⟩
      · exact .inl omitted
      · exact .inr ⟨provided, ⟨number, earlier satisfied⟩, same⟩
  | text =>
      cases refined
      simp only [parse, run, outcome_guardPresence_eq_ok_iff, outcome_parseText_eq_ok_iff]
        at parsed ⊢
      rcases parsed with omitted | ⟨provided, ⟨text, satisfied⟩, same⟩
      · exact .inl omitted
      · exact .inr ⟨provided, ⟨text, earlier satisfied⟩, same⟩
  | array =>
      cases refined
      rw [parse_array_eq_ok_iff] at parsed ⊢
      rcases parsed with omitted | ⟨provided, items, narrowed, array, parts, satisfied, same⟩
      · exact .inl omitted
      · exact .inr ⟨provided, items, narrowed, array, parts, earlier satisfied, same⟩
  | _ => cases refined

end Refining

/-- Optional parts accept more and refined parts accept less, and what is accepted gives the same
result either way.  Of its own value, an optional schema differs only on `absent`, which it answers
itself. -/
theorem optional_loosens_and_refining_tightens (buildable : schema.Buildable custom) :
    (∀ other value result, schema.Loosened other → schema.parse value = .ok result →
      other.parse value = .ok result) ∧
    (∀ other value result, schema.Tightened other → other.parse value = .ok result →
      schema.parse value = .ok result) ∧
    ∃ relaxed, schema.optional? = some relaxed ∧
      (∀ value, value ≠ .absent → relaxed.parse value = schema.parse value) ∧
      relaxed.parse .absent = .ok .absent ∧
      ∀ refinements, (relaxed.withRefinements refinements).parse .absent = .ok .absent := by
  have loosens (other : Schema) (loosened : schema.Loosened other) : schema.Within other :=
    within_congruence.of_altered (fun _ _ => within_optional?) loosened
  have tightens (other : Schema) (tightened : schema.Tightened other) : other.Within schema := by
    refine within_congruence.swap.of_altered ?_ tightened
    rintro schema other ⟨link, noOptional, called⟩
    obtain ⟨refinement, refined⟩ := exists_refine?_of_applyTo noOptional called
    exact within_of_refine? refined
  obtain ⟨relaxed, isOptional⟩ := buildable.regular.exists_optional?
  refine ⟨fun other value result loosened => loosens other loosened value result,
    fun other value result tightened => tightens other tightened value result,
    relaxed, isOptional, fun value provided => parse_optional?_of_provided isOptional provided,
    parse_optional?_absent isOptional, parse_withRefinements_absent isOptional⟩

theorem optional_loosens_and_refining_tightens_nested_parts :
    let few : Refinement := ⟨"few", "Must be few.", fun value =>
      match value.size? with
      | some size => .ok (size < 3)
      | none => .error (.notMeasurable value.qualifiedTypeName)⟩
    let service (port : Schema) (tags : Schema) : Schema :=
      .array .required (.object .required [("port", port), ("tags", tags)]) []
    let schema := service (.number .required []) (.array .optional (.text .required []) [])
    let loosened := service (.number .optional []) (.array .optional (.text .optional []) [])
    let tightened := service (.number .required [.positive])
      (.array .optional (.text .required []) [.nonEmptyArray, few])
    let value : Value := .tuple [
      .object [(.text "tags", .list [.text "a"]), (.text "port", .int 80)],
      .object [(.text "port", .int 81)]]
    let result : Value := .list [
      .object [(.text "port", .int 80), (.text "tags", .list [.text "a"])],
      .object [(.text "port", .int 81), (.text "tags", .absent)]]
    tightened.parse value = .ok result ∧ schema.parse value = .ok result ∧
      loosened.parse value = .ok result ∧
      ∃ relaxed, schema.optional? = some relaxed ∧ relaxed.parse .absent = .ok .absent ∧
        relaxed.parse .null = schema.parse .null := by
  intro few service schema loosened tightened value result
  have buildable : schema.Buildable (· = few) := by
    refine Regular.buildable (.array (.object (by decide) fun field member => ?_) (by simp))
    obtain rfl | rfl : field = _ ∨ field = _ := by simpa using member
    · exact .number (by simp)
    · exact .array (.text (by simp)) (by simp)
  have toLoosened : schema.Loosened loosened := by
    refine .array (.object (by rfl) ?_ .refl) .refl
    exact .cons (.root (.single rfl)) (.cons (.array (.root (.single rfl)) .refl) .nil)
  have toTightened : schema.Tightened tightened := by
    refine .array (.object (by rfl) ?_ .refl) .refl
    refine .cons (.root (.single ⟨.member "positive", by simp, rfl⟩)) (.cons (.root ?_) .nil)
    exact .tail (.single ⟨.member "non_empty", by simp, rfl⟩) ⟨.refine few, by simp, rfl⟩
  have parsed : tightened.parse value = .ok result := by cbv
  obtain ⟨loosens, tightens, relaxed, isOptional, provided, absent, _⟩ :=
    optional_loosens_and_refining_tightens buildable
  have accepted := tightens tightened value result toTightened parsed
  exact ⟨parsed, accepted, loosens loosened value result toLoosened accepted, relaxed, isOptional,
    absent, provided .null (by simp)⟩

end ClosedShape.Schema
