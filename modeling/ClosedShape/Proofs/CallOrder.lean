import ClosedShape.Proofs.Walk

/-!
# The order of calls

The calls to foreign schemas are steps of the walk, so they are made in the order of the schema, in
every place at most once, and only where all that is checked before has passed.
-/

namespace ClosedShape

namespace Schema

variable {presence : Presence} {value : Value} {steps : List Step}

section Made

variable {trail : Trail} {call : Call} {failure? : Option Failure}

theorem mem_untilFailure_walkItems {walk : Value → List Step} {items : List Value}
    {position : Nat} {step : Step} :
    step ∈ untilFailure (walkItems walk position items) ↔
      ∃ before item after, items = before ++ item :: after ∧
        (∀ earlier ∈ before, AllPass (walk earlier)) ∧
          ∃ inner ∈ untilFailure (walk item),
            inner.under (.index (position + before.length : Nat)) = step := by
  induction items generalizing position with
  | nil => simp [walkItems, untilFailure]
  | cons first items ih =>
      rw [walkItems, mem_untilFailure_append, untilFailure_map_under, List.mem_map,
        allPass_map_under, ih, exists_split_cons_iff]
      simp only [List.not_mem_nil, false_implies, implies_true, true_and, List.forall_mem_cons,
        List.length_nil, List.length_cons, Nat.add_zero, Nat.add_assoc, Nat.add_comm 1,
        exists_and_left, and_assoc, and_left_comm]

theorem mem_untilFailure_walkFields {fields : List (Text × Schema)}
    {entries : List (Value × Value)} {step : Step} :
    step ∈ untilFailure (walkFields fields entries) ↔
      ∃ before field after, fields = before ++ field :: after ∧
        (∀ earlier ∈ before, AllPass (earlier.2.walk (Value.lookupText entries earlier.1))) ∧
          ∃ inner ∈ untilFailure (field.2.walk (Value.lookupText entries field.1)),
            inner.under (.name field.1) = step := by
  induction fields with
  | nil => simp [walkFields, untilFailure]
  | cons first fields ih =>
      rw [walkFields, mem_untilFailure_append, untilFailure_map_under, List.mem_map,
        allPass_map_under, ih, exists_split_cons_iff]
      simp only [List.not_mem_nil, false_implies, implies_true, true_and, List.forall_mem_cons,
        exists_and_right, exists_and_left, and_assoc, and_left_comm]

/-- A call is made inside a part of the schema, where nothing that is checked earlier fails. -/
def CallsInside (schema : Schema) (value : Value) (trail : Trail) (call : Call)
    (failure? : Option Failure) : Prop :=
  ∃ segment part content, schema.descend? value segment = some (part, content) ∧
    EarlierPass schema value segment ∧ ∃ rest, trail = segment :: rest ∧
      ⟨rest, some call, failure?⟩ ∈ untilFailure (part.walk content)

theorem exists_under_eq_iff {segment : Segment} :
    (∃ inner ∈ steps, inner.under segment = ⟨trail, some call, failure?⟩) ↔
      ∃ rest, trail = segment :: rest ∧ ⟨rest, some call, failure?⟩ ∈ steps := by
  constructor
  · rintro ⟨⟨rest, _, _⟩, member, equal⟩
    cases equal
    exact ⟨rest, rfl, member⟩
  · rintro ⟨rest, rfl, member⟩
    exact ⟨_, member, rfl⟩

theorem mem_untilFailure_walk_array_iff {element : Schema} {refinements : List Refinement} :
    ⟨trail, some call, failure?⟩ ∈
        untilFailure ((Schema.array presence element refinements).walk value) ↔
      CallsInside (.array presence element refinements) value trail call failure? := by
  rw [CallsInside, exists_clearStep_array_iff]
  by_cases omitted : Omitted presence value
  · obtain ⟨rfl, rfl⟩ := omitted
    simp [walk, unlessOmitted, untilFailure, Value.arrayItems?]
  · rw [walk, unlessOmitted_of_not_omitted omitted]
    cases array : value.arrayItems? with
    | none => simp [untilFailure, Step.fail]
    | some items =>
        simp only [mem_untilFailure_append, mem_untilFailure_walkItems, exists_under_eq_iff,
          allPass_walk_iff, Nat.zero_add, Option.some.injEq, exists_eq_left',
          untilFailure_singleton, List.mem_singleton, Step.check, Step.mk.injEq, reduceCtorEq,
          false_and, and_false, or_false]

theorem mem_untilFailure_walk_object_iff {fields : List (Text × Schema)}
    (distinct : (fields.map Prod.fst).Nodup) :
    ⟨trail, some call, failure?⟩ ∈ untilFailure ((Schema.object presence fields).walk value) ↔
      CallsInside (.object presence fields) value trail call failure? := by
  rw [CallsInside, exists_clearStep_object_iff distinct]
  by_cases omitted : Omitted presence value
  · obtain ⟨rfl, rfl⟩ := omitted
    simp [walk, unlessOmitted, untilFailure, Value.mappingEntries?]
  · rw [walk, unlessOmitted_of_not_omitted omitted]
    cases object : value.mappingEntries? with
    | none => simp [untilFailure, Step.fail]
    | some entries =>
        have opening : failureOf (rejectUndeclared fields entries).outcome = none ↔
            ∀ entry ∈ entries, Declares fields entry.1 := by
          rw [failureOf_eq_none_iff]
          simp only [outcome_rejectUndeclared_eq_ok_iff, exists_const]
        simp only [mem_untilFailure_cons, mem_untilFailure_walkFields, exists_under_eq_iff,
          allPass_walk_iff, Step.check, opening, Option.some.injEq, exists_eq_left', Step.mk.injEq,
          reduceCtorEq, false_and, and_false, false_or]

/-- One step towards a call. -/
theorem mem_untilFailure_walk_iff_callsInside {schema : Schema} (distinct : schema.FieldsDistinct) :
    ⟨trail, some call, failure?⟩ ∈ untilFailure (schema.walk value) ↔
      (∃ label respond, schema = .foreign label respond ∧ trail = [] ∧ call = ⟨label, value⟩ ∧
        failure? = failureOf (respond value)) ∨ CallsInside schema value trail call failure? := by
  cases schema with
  | array => simp [mem_untilFailure_walk_array_iff]
  | object => simp [mem_untilFailure_walk_object_iff (distinct _ _ .refl)]
  | foreign => simp [walk, CallsInside, descend?]
  | _ => simp [walk, CallsInside, descend?, Step.check]

/-- A call is made in a place exactly if the way leads from there to a foreign schema and all that
is checked before has passed. -/
theorem mem_untilFailure_walk_iff {schema : Schema} (distinct : schema.FieldsDistinct)
    {label : String} {argument : Value} :
    ⟨trail, some ⟨label, argument⟩, failure?⟩ ∈ untilFailure (schema.walk value) ↔
      ∃ respond, follow? trail schema value = some (.foreign label respond, argument) ∧
        ClearTo trail schema value ∧ failure? = failureOf (respond argument) := by
  induction trail generalizing schema value with
  | nil =>
      rw [mem_untilFailure_walk_iff_callsInside distinct]
      constructor
      · rintro (⟨_, respond, rfl, _, equal, ends⟩ | ⟨_, _, _, _, _, _, equal, _⟩)
        · cases equal
          exact ⟨respond, rfl, trivial, ends⟩
        · cases equal
      · rintro ⟨respond, follows, _, ends⟩
        cases follows
        exact .inl ⟨label, respond, rfl, rfl, rfl, ends⟩
  | cons segment trail ih =>
      rw [mem_untilFailure_walk_iff_callsInside distinct]
      constructor
      · rintro (⟨_, _, _, equal, _⟩ | ⟨_, part, content, descends, clear, _, equal, made⟩)
        · cases equal
        · cases equal
          have child := child_of_descend? descends
          obtain ⟨respond, follows, clearRest, ends⟩ :=
            (ih (distinct.partOf (.single child))).mp made
          refine ⟨respond, ?_, ⟨clear, part, content, descends, clearRest⟩, ends⟩
          simpa only [follow?, descends] using follows
      · rintro ⟨respond, follows, ⟨clear, part, content, descends, clearRest⟩, ends⟩
        have child := child_of_descend? descends
        simp only [follow?, descends] at follows
        have made := (ih (distinct.partOf (.single child))).mpr ⟨respond, follows, clearRest, ends⟩
        exact .inr ⟨segment, part, content, descends, clear, trail, rfl, made⟩

end Made

section Order

/-- One place comes before another in the order of a schema: items by their places, fields as they
are declared. -/
inductive Precedes : Schema → Trail → Trail → Prop
  | items {presence : Presence} {element : Schema} {refinements : List Refinement}
      {first second : Int} {trail other : Trail} (earlier : first < second) :
      Precedes (.array presence element refinements) (.index first :: trail)
        (.index second :: other)
  | fields {presence : Presence} {fields : List (Text × Schema)} {first second : Text}
      {trail other : Trail} (earlier : [first, second].Sublist (fields.map Prod.fst)) :
      Precedes (.object presence fields) (.name first :: trail) (.name second :: other)
  | inItem {presence : Presence} {element : Schema} {refinements : List Refinement} {place : Int}
      {trail other : Trail} (inner : Precedes element trail other) :
      Precedes (.array presence element refinements) (.index place :: trail)
        (.index place :: other)
  | inField {presence : Presence} {fields : List (Text × Schema)} {field : Text × Schema}
      {trail other : Trail} (member : field ∈ fields) (inner : Precedes field.2 trail other) :
      Precedes (.object presence fields) (.name field.1 :: trail) (.name field.1 :: other)

theorem Precedes.ne {schema : Schema} {first second : Trail}
    (precedes : Precedes schema first second) (distinct : schema.FieldsDistinct) :
    first ≠ second := by
  induction precedes with
  | items earlier =>
      intro equal
      cases equal
      exact Int.lt_irrefl _ earlier
  | fields earlier =>
      intro equal
      cases equal
      have apart := (distinct _ _ .refl).sublist earlier
      simp at apart
  | inItem _ ih =>
      have different := ih (distinct.partOf (.single .element))
      simpa using different
  | inField member _ ih =>
      have different := ih (distinct.partOf (.single (.field member)))
      simpa using different

theorem Precedes.cons {fields : List (Text × Schema)} {first second : Trail}
    (precedes : Precedes (.object presence fields) first second) (field : Text × Schema) :
    Precedes (.object presence (field :: fields)) first second := by
  cases precedes with
  | fields earlier => exact .fields (earlier.cons field.1)
  | inField member inner => exact .inField (List.mem_cons_of_mem field member) inner

theorem place_of_mem_callsAt_walkItems {walk : Value → List Step} {items : List Value}
    {position : Nat} {made : Trail × Call}
    (member : made ∈ callsAt (walkItems walk position items)) :
    ∃ (place : Int) (rest : Trail), made.1 = .index place :: rest ∧ (position : Int) ≤ place := by
  induction items generalizing position with
  | nil => cases member
  | cons item items ih =>
      rw [walkItems, callsAt_append, callsAt_map_under, List.mem_append] at member
      obtain here | later := member
      · obtain ⟨inner, _, rfl⟩ := List.mem_map.mp here
        exact ⟨position, inner.1, rfl, Int.le_refl _⟩
      · obtain ⟨place, rest, starts, bound⟩ := ih later
        exact ⟨place, rest, starts, by omega⟩

theorem field_of_mem_callsAt_walkFields {fields : List (Text × Schema)}
    {entries : List (Value × Value)} {made : Trail × Call}
    (member : made ∈ callsAt (walkFields fields entries)) :
    ∃ field ∈ fields, ∃ rest, made.1 = .name field.1 :: rest := by
  induction fields with
  | nil => cases member
  | cons field fields ih =>
      rw [walkFields, callsAt_append, callsAt_map_under, List.mem_append] at member
      obtain here | later := member
      · obtain ⟨inner, _, rfl⟩ := List.mem_map.mp here
        exact ⟨field, List.mem_cons_self, inner.1, rfl⟩
      · obtain ⟨other, otherMember, rest, starts⟩ := ih later
        exact ⟨other, List.mem_cons_of_mem field otherMember, rest, starts⟩

theorem pairwise_precedes_walkItems {element : Schema} {refinements : List Refinement}
    {walk : Value → List Step} {items : List Value} {position : Nat}
    (each : ∀ item ∈ items,
      (callsAt (walk item)).Pairwise fun first second => Precedes element first.1 second.1) :
    (callsAt (walkItems walk position items)).Pairwise fun first second =>
      Precedes (.array presence element refinements) first.1 second.1 := by
  induction items generalizing position with
  | nil => exact .nil
  | cons item items ih =>
      obtain ⟨here, others⟩ := List.forall_mem_cons.mp each
      rw [walkItems, callsAt_append, callsAt_map_under, List.pairwise_append, List.pairwise_map]
      refine ⟨here.imp .inItem, ih others, ?_⟩
      intro first firstMember second secondMember
      obtain ⟨inner, _, rfl⟩ := List.mem_map.mp firstMember
      obtain ⟨place, rest, starts, bound⟩ := place_of_mem_callsAt_walkItems secondMember
      rw [starts]
      exact .items (by omega)

theorem pairwise_precedes_walkFields {fields : List (Text × Schema)}
    {entries : List (Value × Value)}
    (each : ∀ field ∈ fields, ∀ value, (callsAt (field.2.walk value)).Pairwise
      fun first second => Precedes field.2 first.1 second.1) :
    (callsAt (walkFields fields entries)).Pairwise fun first second =>
      Precedes (.object presence fields) first.1 second.1 := by
  induction fields with
  | nil => exact .nil
  | cons field fields ih =>
      obtain ⟨here, others⟩ := List.forall_mem_cons.mp each
      rw [walkFields, callsAt_append, callsAt_map_under, List.pairwise_append, List.pairwise_map]
      refine ⟨(here _).imp (.inField List.mem_cons_self), (ih others).imp (·.cons field), ?_⟩
      intro first firstMember second secondMember
      obtain ⟨inner, _, rfl⟩ := List.mem_map.mp firstMember
      obtain ⟨other, otherMember, rest, starts⟩ := field_of_mem_callsAt_walkFields secondMember
      have later : other.1 ∈ fields.map Prod.fst := List.mem_map_of_mem otherMember
      rw [starts]
      exact .fields ((List.singleton_sublist.mpr later).cons_cons field.1)

theorem callsAt_unlessOmitted_sublist :
    (callsAt (unlessOmitted presence value steps)).Sublist (callsAt steps) := by
  by_cases omitted : Omitted presence value
  · rw [unlessOmitted_of_omitted omitted]
    exact List.nil_sublist _
  · rw [unlessOmitted_of_not_omitted omitted]

/-- The walk goes through the places in order. -/
theorem pairwise_precedes_walk (schema : Schema) (value : Value) :
    (callsAt (schema.walk value)).Pairwise fun first second =>
      Precedes schema first.1 second.1 := by
  induction schema using wellFounded_child.induction generalizing value with
  | _ schema ih =>
    cases schema with
    | array presence element refinements =>
        unfold walk
        refine List.Pairwise.sublist callsAt_unlessOmitted_sublist ?_
        cases value.arrayItems? with
        | none => exact .nil
        | some items =>
            rw [callsAt_append, callsAt_check, List.append_nil]
            exact pairwise_precedes_walkItems fun item _ => ih element .element item
    | object presence fields =>
        unfold walk
        refine List.Pairwise.sublist callsAt_unlessOmitted_sublist ?_
        cases value.mappingEntries? with
        | none => exact .nil
        | some entries =>
            exact pairwise_precedes_walkFields fun field member => ih field.2 (.field member)
    | foreign label respond => exact List.pairwise_singleton _ _
    | _ => exact .nil

end Order

theorem ClearTo.of_append {above below : Trail} {schema part : Schema} {inner : Value}
    (clear : ClearTo (above ++ below) schema value)
    (follows : follow? above schema value = some (part, inner)) : ClearTo below part inner := by
  induction above generalizing schema value with
  | nil =>
      cases follows
      exact clear
  | cons segment above ih =>
      obtain ⟨_, next, content, descends, clearRest⟩ := clear
      simp only [follow?, descends] at follows
      exact ih clearRest follows

theorem EarlierPass.ne_absent {schema : Schema} {segment : Segment}
    (clear : EarlierPass schema value segment) : value ≠ .absent := by
  -- The absent value is neither a mapping nor an array, so no step leads into it.
  rintro rfl
  unfold EarlierPass at clear
  split at clear
  · obtain ⟨_, object, _⟩ := clear
    cases object
  · obtain ⟨_, array, _⟩ := clear
    cases array
  · exact clear

theorem EarlierPass.declared {fields : List (Text × Schema)} {segment : Segment}
    (clear : EarlierPass (.object presence fields) value segment) :
    ∃ entries, value.mappingEntries? = some entries ∧
      ∀ entry ∈ entries, Declares fields entry.1 := by
  cases segment with
  | name name =>
      obtain ⟨entries, object, declared, _⟩ := clear
      exact ⟨entries, object, declared⟩
  | _ => exact clear.elim

section Reached

variable {schema : Schema} {result : Value}

/-- Where a parse returns, everything has passed. -/
theorem earlierPass_of_parse_ok (parsed : schema.parse value = .ok result) {segment : Segment}
    {part : Schema} {content : Value}
    (descends : schema.descend? value segment = some (part, content)) :
    EarlierPass schema value segment ∧ ∃ narrowed, part.parse content = .ok narrowed := by
  cases schema with
  | array presence element refinements =>
      obtain ⟨place, items, rfl, array, found, rfl⟩ := descend?_array_eq_some_iff.mp descends
      obtain ⟨omitted, _⟩ | ⟨_, _, narrowed, sameArray, parts, _⟩ :=
        parse_array_eq_ok_iff.mp parsed
      · exact absurd omitted (not_omitted_of_arrayItems? array)
      · cases array.symm.trans sameArray
        have each : ∀ item ∈ items, ∃ narrowed, part.parse item = .ok narrowed := by
          intro item member
          obtain ⟨narrowed, _, parsed⟩ := exists_related_of_mem parts.flip member
          exact ⟨narrowed, parsed⟩
        exact ⟨⟨items, array, fun item member => each item (List.mem_of_mem_take member)⟩,
          each content (List.mem_of_getElem? found)⟩
  | object presence fields =>
      obtain ⟨name, entries, rfl, object, named, rfl⟩ := descend?_object_eq_some_iff.mp descends
      obtain ⟨omitted, _⟩ | ⟨_, _, narrowed, sameObject, declared, parts, _⟩ :=
        parse_object_eq_ok_iff.mp parsed
      · exact absurd omitted (not_omitted_of_mappingEntries? object)
      · cases object.symm.trans sameObject
        have each := fields_parse_of_forall₂ parts
        obtain ⟨before, after, split, _⟩ := List.lookup_eq_some_iff.mp named
        have member : (name, part) ∈ fields := by simp [split]
        exact ⟨⟨entries, object, declared,
          fun field taken => each field ((List.takeWhile_sublist _).mem taken)⟩, each _ member⟩
  | _ => cases descends

theorem clearTo_of_parse_ok (parsed : schema.parse value = .ok result) {trail : Trail}
    {part : Schema} {content : Value}
    (follows : follow? trail schema value = some (part, content)) :
    ClearTo trail schema value := by
  induction trail generalizing schema value result with
  | nil => trivial
  | cons segment trail ih =>
      unfold follow? at follows
      split at follows
      · rename_i next inner descends
        obtain ⟨clear, narrowed, parsedInner⟩ := earlierPass_of_parse_ok parsed descends
        exact ⟨clear, next, inner, descends, ih parsedInner follows⟩
      · cases follows

end Reached

section CallsMade

/-- The calls that are made, with the places where they are made, are in the order of the schema. -/
theorem pairwise_precedes_callsMade (schema : Schema) (value : Value) :
    (callsMade (schema.walk value)).Pairwise fun first second =>
      Precedes schema first.1 second.1 :=
  (pairwise_precedes_walk schema value).sublist (untilFailure_sublist.filterMap _)

variable {named : WellNamed}

theorem nodup_callsMade (named : WellNamed) (value : Value) :
    ((callsMade (named.schema.walk value)).map Prod.fst).Nodup :=
  List.pairwise_map.mpr ((pairwise_precedes_callsMade named.schema value).imp
    fun precedes => precedes.ne named.distinct)

/-- A call is made in exactly those places that lead to a foreign schema and are clear before. -/
theorem mem_callsMade_iff {trail : Trail} {label : String} {argument : Value} :
    (trail, ⟨label, argument⟩) ∈ callsMade (named.schema.walk value) ↔
      (∃ respond,
        follow? trail named.schema value = some (.foreign label respond, argument)) ∧
        ClearTo trail named.schema value := by
  simp only [callsMade, mem_callsAt_iff, mem_untilFailure_walk_iff named.distinct]
  constructor
  · rintro ⟨_, respond, follows, clear, _⟩
    exact ⟨⟨respond, follows⟩, clear⟩
  · rintro ⟨⟨respond, follows⟩, clear⟩
    exact ⟨_, respond, follows, clear, rfl⟩

/-- No call is made inside what was left out, or inside an object with an undeclared key. -/
theorem entered_of_mem_callsMade {above below : Trail} {segment : Segment} {call : Call}
    {part : Schema} {inner : Value}
    (made : (above ++ segment :: below, call) ∈ callsMade (named.schema.walk value))
    (follows : follow? above named.schema value = some (part, inner)) :
    inner ≠ .absent ∧ ∀ presence fields, part = .object presence fields →
      ∃ entries, inner.mappingEntries? = some entries ∧
        ∀ entry ∈ entries, Declares fields entry.1 := by
  have clear := (mem_callsMade_iff.mp made).2.of_append follows
  refine ⟨clear.1.ne_absent, ?_⟩
  rintro presence fields rfl
  exact clear.1.declared

/-- Where the parse returns, every call of the walk is made. -/
theorem callsMade_of_parse_ok {result : Value} (parsed : named.schema.parse value = .ok result) :
    AllPass (named.schema.walk value) ∧
      callsMade (named.schema.walk value) = callsAt (named.schema.walk value) ∧
        ∀ trail label respond argument,
          follow? trail named.schema value = some (.foreign label respond, argument) →
            (trail, ⟨label, argument⟩) ∈ callsMade (named.schema.walk value) := by
  have pass : AllPass (named.schema.walk value) := allPass_walk_iff.mpr ⟨result, parsed⟩
  refine ⟨pass, congrArg callsAt (untilFailure_of_allPass pass), ?_⟩
  intro trail label respond argument follows
  exact mem_callsMade_iff.mpr ⟨⟨respond, follows⟩, clearTo_of_parse_ok parsed follows⟩

theorem callsMade_of_split {schema : Schema} {before after : List Step} {step : Step}
    {own : Failure} (split : schema.walk value = before ++ step :: after) (pass : AllPass before)
    (fails : step.failure? = some own) :
    callsMade (schema.walk value) = callsAt (before ++ [step]) := by
  rw [callsMade, split, untilFailure_append_cons pass fails]

/-- Where the parse fails, the calls are those up to the first step that fails, and the failure is
that of the step, a violation behind the trail of its place. -/
theorem callsMade_of_parse_error {schema : Schema} {failure : Failure}
    (failed : schema.parse value = .error failure) :
    ∃ before step after own, schema.walk value = before ++ step :: after ∧ AllPass before ∧
      step.failure? = some own ∧ callsMade (schema.walk value) = callsAt (before ++ [step]) ∧
        match own with
        | .invalid violation =>
            failure = .invalid (violation.inFields step.trail) ∧
              (violation.inFields step.trail).trail = step.trail ++ violation.trail
        | .faulty fault => failure = .faulty fault := by
  obtain ⟨before, step, after, own, split, pass, fails, rfl⟩ := exists_step_of_parse_eq_error failed
  refine ⟨before, step, after, own, split, pass, fails, callsMade_of_split split pass fails, ?_⟩
  cases own with
  | invalid violation => exact ⟨Failure.inFields_invalid _ _, violation.trail_inFields _⟩
  | faulty fault => exact Failure.inFields_faulty _ _

/-- A foreign schema that fails is the last that is called, and its failure is that of the parse. -/
theorem getLast?_callsMade {trail : Trail} {label : String}
    {respond : Value → Except Failure Value} {argument : Value} {own : Failure}
    (follows : follow? trail named.schema value = some (.foreign label respond, argument))
    (clear : ClearTo trail named.schema value) (answered : respond argument = .error own) :
    (callsMade (named.schema.walk value)).getLast? = some (trail, ⟨label, argument⟩) ∧
      named.schema.parse value = .error (own.inFields trail) := by
  have member :
      ⟨trail, some ⟨label, argument⟩, some own⟩ ∈ untilFailure (named.schema.walk value) :=
    (mem_untilFailure_walk_iff named.distinct).mpr
      ⟨respond, follows, clear, (failureOf_eq_some_iff.mpr answered).symm⟩
  obtain ⟨before, after, split, pass⟩ := exists_split_of_mem_untilFailure member
  have cut : callsMade (named.schema.walk value) =
      callsAt before ++ [(trail, ⟨label, argument⟩)] := by
    rw [callsMade_of_split split pass rfl, callsAt_append]
    rfl
  exact ⟨by rw [cut, List.getLast?_concat], parse_eq_error_of_walk split pass rfl⟩

end CallsMade

/-- Foreign schemas are called in the order of the schema, at most once in every place, and not
after the first failure.  The walk up to the first step that fails makes the calls; they are in the
places that lead to a foreign schema and are clear before, and where the parse returns that is
every place.  What fails first is what the caller gets: a violation behind the trail of its place, a
fault as it is. -/
theorem calls_follow_walk_until_failure (named : WellNamed) (value : Value) :
    let schema := named.schema
    let made := callsMade (schema.walk value)
    (schema.run value).calls = made.map Prod.snd ∧
      (made.Pairwise fun first second => Precedes schema first.1 second.1) ∧
      (made.map Prod.fst).Nodup ∧
      (∀ trail label argument, (trail, ⟨label, argument⟩) ∈ made ↔
        (∃ respond, follow? trail schema value = some (.foreign label respond, argument)) ∧
          ClearTo trail schema value) ∧
      (∀ above segment below call part inner, (above ++ segment :: below, call) ∈ made →
        follow? above schema value = some (part, inner) →
          inner ≠ .absent ∧ ∀ presence fields, part = .object presence fields →
            ∃ entries, inner.mappingEntries? = some entries ∧
              ∀ entry ∈ entries, Declares fields entry.1) ∧
      (∀ result, schema.parse value = .ok result →
        AllPass (schema.walk value) ∧ made = callsAt (schema.walk value) ∧
          ∀ trail label respond argument,
            follow? trail schema value = some (.foreign label respond, argument) →
              (trail, ⟨label, argument⟩) ∈ made) ∧
      (∀ failure, schema.parse value = .error failure →
        ∃ before step after own, schema.walk value = before ++ step :: after ∧ AllPass before ∧
          step.failure? = some own ∧ made = callsAt (before ++ [step]) ∧
            match own with
            | .invalid violation =>
                failure = .invalid (violation.inFields step.trail) ∧
                  (violation.inFields step.trail).trail = step.trail ++ violation.trail
            | .faulty fault => failure = .faulty fault) ∧
      ∀ trail label respond argument own,
        follow? trail schema value = some (.foreign label respond, argument) →
          ClearTo trail schema value → respond argument = .error own →
            made.getLast? = some (trail, ⟨label, argument⟩) ∧
              schema.parse value = .error (own.inFields trail) := by
  intro schema made
  exact ⟨(carriesOut_run schema value).calls, pairwise_precedes_callsMade schema value,
    nodup_callsMade named value, fun _ _ _ => mem_callsMade_iff,
    fun above segment below call part inner => entered_of_mem_callsMade,
    fun result => callsMade_of_parse_ok, fun failure => callsMade_of_parse_error,
    fun trail label respond argument own => getLast?_callsMade⟩

theorem calls_end_with_second_item :
    let answer : Value → Except Failure Value := fun value =>
      match value with
      | .text _ => .error (.invalid (.plain "No text." [.name "part"]))
      | _ => .ok value
    let schema : Schema := .object .required [("a", .foreign "first" .ok),
      ("b", .array .optional (.foreign "second" answer) []), ("c", .foreign "third" .ok)]
    let value : Value := .object
      [(.text "b", .list [.int 1, .text "x", .int 2]), (.text "a", .null)]
    schema.FieldsDistinct ∧
      (schema.run value).calls =
        [⟨"first", .null⟩, ⟨"second", .int 1⟩, ⟨"second", .text "x"⟩] ∧
      schema.parse value = .error (.invalid
        (.inField (.name "b") (.inField (.index 1) (.plain "No text." [.name "part"])))) := by
  intro answer schema value
  have distinct : schema.FieldsDistinct := by
    refine .object (by decide) ?_
    simp only [List.forall_mem_cons, List.not_mem_nil, false_implies, implies_true, and_true]
    exact ⟨.foreign, .array .foreign, .foreign⟩
  obtain ⟨calls, _, _, places, _, _, _, failing⟩ :=
    calls_follow_walk_until_failure ⟨schema, distinct⟩ value
  have made : callsMade (schema.walk value) = [([.name "a"], ⟨"first", .null⟩),
      ([.name "b", .index 0], ⟨"second", .int 1⟩),
      ([.name "b", .index 1], ⟨"second", .text "x"⟩)] := by cbv
  have clear : ClearTo [.name "b", .index 1] schema value :=
    ((places _ "second" (.text "x")).mp (by simp [made])).2
  obtain ⟨_, failed⟩ := failing [.name "b", .index 1] "second" answer (.text "x") _ rfl clear rfl
  exact ⟨distinct, by rw [calls, made]; rfl, failed⟩

end Schema

end ClosedShape
