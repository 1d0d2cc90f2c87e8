import ClosedShape.Proofs.FirstFailure

/-!
# Checking as a walk

Checking a value is a walk down the schema and the value together: the fields of an object in the
order of declaration, the items of an array in the order of their places.  The walk is described
here as a list of steps, as if none of them failed.  A run carries it out up to the first step that
fails, and what it ends with is the failure of that step.
-/

namespace ClosedShape

/-- The failure that an outcome is, if it is one. -/
def failureOf {α : Type} : Except Failure α → Option Failure
  | .ok _ => none
  | .error failure => some failure

section FailureOf

variable {α : Type} {outcome : Except Failure α}

theorem failureOf_eq_none_iff : failureOf outcome = none ↔ ∃ result, outcome = .ok result := by
  cases outcome <;> simp [failureOf]

theorem failureOf_eq_some_iff {failure : Failure} :
    failureOf outcome = some failure ↔ outcome = .error failure := by
  cases outcome <;> simp [failureOf]

theorem failureOf_mapError (wrap : Failure → Failure) :
    failureOf (outcome.mapError wrap) = (failureOf outcome).map wrap := by
  cases outcome <;> rfl

end FailureOf

/-- One step of a walk: a check of the library's own at the end of a trail, or the call of a foreign
schema there. -/
structure Step where
  trail : Trail
  call? : Option Call
  failure? : Option Failure

namespace Step

/-- A check at the start of the walk. -/
def check {α : Type} (outcome : Except Failure α) : Step := ⟨[], none, failureOf outcome⟩

/-- A check at the start of the walk that finds a violation. -/
def fail (violation : Violation) : Step := ⟨[], none, some (.invalid violation)⟩

/-- A step as it is seen from one level further out. -/
def under (segment : Segment) (step : Step) : Step := { step with trail := segment :: step.trail }

/-- What a failing step makes of the whole walk: violations are wrapped once for every level. -/
def outer? (step : Step) : Option Failure := step.failure?.map (Failure.inFields step.trail)

/-- The call that a step makes, with its place. -/
def callAt? (step : Step) : Option (Trail × Call) := step.call?.map fun call => (step.trail, call)

variable {segment : Segment} {step : Step}

theorem outer?_under : (step.under segment).outer? = step.outer?.map (Failure.inField segment) := by
  simp only [outer?, under, Option.map_map]
  rfl

theorem callAt?_under :
    (step.under segment).callAt? = step.callAt?.map (Prod.map (segment :: ·) id) := by
  simp [callAt?, under, Function.comp_def]

end Step

/-- No step of a walk fails. -/
def AllPass (steps : List Step) : Prop := ∀ step ∈ steps, step.failure? = none

/-- The steps up to the first that fails, and that one. -/
def untilFailure : List Step → List Step
  | [] => []
  | step :: steps =>
      match step.failure? with
      | some _ => [step]
      | none => step :: untilFailure steps

/-- The calls among the steps, each with its place. -/
def callsAt (steps : List Step) : List (Trail × Call) := steps.filterMap Step.callAt?

/-- The calls that are made on a walk, each with its place. -/
def callsMade (steps : List Step) : List (Trail × Call) := callsAt (untilFailure steps)

section Steps

variable {steps first second : List Step} {segment : Segment}

@[simp]
theorem allPass_nil : AllPass [] := by
  simp [AllPass]

@[simp]
theorem allPass_cons {step : Step} :
    AllPass (step :: steps) ↔ step.failure? = none ∧ AllPass steps := by
  simp [AllPass]

@[simp]
theorem allPass_map_under : AllPass (steps.map (Step.under segment)) ↔ AllPass steps := by
  simp [AllPass, Step.under]

theorem allPass_iff_findSome? : AllPass steps ↔ steps.findSome? Step.outer? = none := by
  simp [AllPass, Step.outer?]

@[simp]
theorem untilFailure_singleton {step : Step} : untilFailure [step] = [step] := by
  unfold untilFailure
  split <;> rfl

theorem untilFailure_append_of_allPass (pass : AllPass first) :
    untilFailure (first ++ second) = first ++ untilFailure second := by
  induction first with
  | nil => rfl
  | cons step first ih =>
      obtain ⟨passes, pass⟩ := allPass_cons.mp pass
      simp only [List.cons_append, untilFailure, passes, ih pass]

theorem untilFailure_of_allPass (pass : AllPass steps) : untilFailure steps = steps := by
  have whole := @untilFailure_append_of_allPass steps [] pass
  simpa [untilFailure] using whole

theorem untilFailure_append_of_not_allPass (fail : ¬ AllPass first) :
    untilFailure (first ++ second) = untilFailure first := by
  induction first with
  | nil => exact absurd allPass_nil fail
  | cons step first ih =>
      cases failed : step.failure? with
      | some failure => simp only [List.cons_append, untilFailure, failed]
      | none =>
          have later : ¬ AllPass first := fun pass => fail (allPass_cons.mpr ⟨failed, pass⟩)
          simp only [List.cons_append, untilFailure, failed, ih later]

theorem untilFailure_map_under :
    untilFailure (steps.map (Step.under segment)) =
      (untilFailure steps).map (Step.under segment) := by
  induction steps with
  | nil => rfl
  | cons step steps ih =>
      have same : (step.under segment).failure? = step.failure? := rfl
      cases failed : step.failure? <;> simp only [List.map_cons, untilFailure, same, failed, ih]
      rfl

theorem mem_untilFailure_cons {step head : Step} :
    step ∈ untilFailure (head :: steps) ↔
      step = head ∨ head.failure? = none ∧ step ∈ untilFailure steps := by
  cases failed : head.failure? <;> simp [untilFailure, failed]

theorem untilFailure_append_cons {step : Step} {own : Failure} (pass : AllPass first)
    (fails : step.failure? = some own) :
    untilFailure (first ++ step :: second) = first ++ [step] := by
  rw [untilFailure_append_of_allPass pass]
  simp only [untilFailure, fails]

theorem exists_split_of_mem_untilFailure {step : Step} (member : step ∈ untilFailure steps) :
    ∃ before after, steps = before ++ step :: after ∧ AllPass before := by
  induction steps with
  | nil => cases member
  | cons head steps ih =>
      obtain rfl | ⟨passes, later⟩ := mem_untilFailure_cons.mp member
      · exact ⟨[], steps, rfl, allPass_nil⟩
      · obtain ⟨before, after, rfl, pass⟩ := ih later
        exact ⟨head :: before, after, rfl, allPass_cons.mpr ⟨passes, pass⟩⟩

theorem untilFailure_sublist : (untilFailure steps).Sublist steps := by
  induction steps with
  | nil => exact .slnil
  | cons step steps ih =>
      unfold untilFailure
      split
      · exact (List.nil_sublist steps).cons_cons step
      · exact ih.cons_cons step

@[simp]
theorem callsAt_append : callsAt (first ++ second) = callsAt first ++ callsAt second :=
  List.filterMap_append

theorem mem_callsAt_iff {trail : Trail} {call : Call} :
    (trail, call) ∈ callsAt steps ↔ ∃ failure?, ⟨trail, some call, failure?⟩ ∈ steps := by
  rw [callsAt, List.mem_filterMap]
  constructor
  · rintro ⟨⟨_, _, failure?⟩, member, equal⟩
    obtain ⟨_, rfl, pair⟩ := Option.map_eq_some_iff.mp equal
    cases pair
    exact ⟨failure?, member⟩
  · rintro ⟨failure?, member⟩
    exact ⟨_, member, rfl⟩

@[simp]
theorem callsAt_check {α : Type} {outcome : Except Failure α} :
    callsAt [.check outcome] = [] :=
  rfl

theorem callsAt_map_under :
    callsAt (steps.map (Step.under segment)) =
      (callsAt steps).map (Prod.map (segment :: ·) id) := by
  simp only [callsAt, List.filterMap_map, List.map_filterMap, Function.comp_def,
    Step.callAt?_under]

theorem mem_untilFailure_append {step : Step} :
    step ∈ untilFailure (first ++ second) ↔
      step ∈ untilFailure first ∨ AllPass first ∧ step ∈ untilFailure second := by
  by_cases pass : AllPass first
  · simp [untilFailure_append_of_allPass pass, untilFailure_of_allPass pass, pass]
  · simp [untilFailure_append_of_not_allPass pass, pass]

end Steps

/-- A run carries out a walk: it makes the calls up to the first step that fails, and ends with the
failure of that step. -/
structure CarriesOut {α : Type} (run : Run α) (steps : List Step) : Prop where
  calls : run.calls = (callsMade steps).map Prod.snd
  failure : failureOf run.outcome = steps.findSome? Step.outer?

namespace CarriesOut

variable {α β : Type} {run : Run α} {steps rest : List Step}

theorem allPass_iff (carried : CarriesOut run steps) :
    AllPass steps ↔ ∃ result, run.outcome = .ok result := by
  rw [allPass_iff_findSome?, ← carried.failure, failureOf_eq_none_iff]

protected theorem pure (result : α) : CarriesOut (pure result) [] := ⟨rfl, rfl⟩

theorem check {outcome : Except Failure α} (calls : run.calls = []) (ends : run.outcome = outcome) :
    CarriesOut run [.check outcome] := by
  subst ends
  constructor
  · rw [calls]
    cases ended : run.outcome <;> rfl
  · cases ended : run.outcome <;> rfl

protected theorem bind {next : α → Run β} (carried : CarriesOut run steps)
    (carriedNext : ∀ result, run.outcome = .ok result → CarriesOut (next result) rest) :
    CarriesOut (run >>= next) (steps ++ rest) := by
  have pass := carried.allPass_iff
  change CarriesOut (Run.bind run next) (steps ++ rest)
  cases ended : run.outcome with
  | ok result =>
      have pass : AllPass steps := pass.mpr ⟨result, ended⟩
      have followed := carriedNext result ended
      constructor
      · simp only [Run.bind, ended, carried.calls, followed.calls, callsMade,
          untilFailure_append_of_allPass pass, untilFailure_of_allPass pass, callsAt_append,
          List.map_append]
      · simp only [Run.bind, ended, followed.failure, List.findSome?_append,
          allPass_iff_findSome?.mp pass, Option.none_or]
  | error failure =>
      have fail : ¬ AllPass steps := by simp [pass, ended]
      have failed : steps.findSome? Step.outer? = some failure := by
        rw [← carried.failure, failureOf_eq_some_iff, ended]
      constructor
      · simp only [Run.bind, ended, carried.calls, callsMade,
          untilFailure_append_of_not_allPass fail]
      · simp only [Run.bind, ended, failureOf, List.findSome?_append, failed, Option.some_or]

theorem returning (carried : CarriesOut run steps) (build : α → β) :
    CarriesOut (run >>= fun result => pure (build result)) steps := by
  rw [← List.append_nil steps]
  exact carried.bind fun result _ => .pure (build result)

theorem inField (carried : CarriesOut run steps) (segment : Segment) :
    CarriesOut (run.inField segment) (steps.map (Step.under segment)) := by
  constructor
  · simp only [Run.inField, carried.calls, callsMade, untilFailure_map_under, callsAt_map_under,
      List.map_map, Function.comp_def, Prod.map_snd, id]
  · simp only [Run.inField, failureOf_mapError, carried.failure, List.findSome?_map,
      Function.comp_def, Step.outer?_under, List.map_findSome?]

end CarriesOut

namespace Schema

/-- An optional schema makes no step for an omitted value. -/
def unlessOmitted : Presence → Value → List Step → List Step
  | .optional, .absent, _ => []
  | _, _, steps => steps

/-- The walk over the items of an array from a given position on. -/
def walkItems (walk : Value → List Step) (position : Nat) : List Value → List Step
  | [] => []
  | item :: items =>
      (walk item).map (Step.under (.index position)) ++ walkItems walk (position + 1) items

mutual

/-- The steps of checking a value against a schema, as if none of them failed.  The refinements of
an array are a step after its items, on the items that are narrowed; the keys of an object are a
step before its fields. -/
def walk : Schema → Value → List Step
  | .array presence element refinements, value =>
      unlessOmitted presence value <|
        match value.arrayItems? with
        | none => [.fail (typeMismatch "Must be an array." "array" value)]
        | some items =>
            walkItems (fun item => walk element item) 0 items ++
              [.check (Refinement.applyAll refinements
                (.list (items.filterMap fun item => (element.parse item).toOption)))]
  | .object presence fields, value =>
      unlessOmitted presence value <|
        match value.mappingEntries? with
        | none => [.fail (typeMismatch "Must be an object." "object" value)]
        | some entries =>
            .check (rejectUndeclared fields entries).outcome :: walkFields fields entries
  | .foreign label respond, value => [⟨[], some ⟨label, value⟩, failureOf (respond value)⟩]
  | schema, value => [.check (schema.parse value)]

/-- The walk over the declared fields in order. -/
def walkFields : List (Text × Schema) → List (Value × Value) → List Step
  | [], _ => []
  | (name, schema) :: fields, entries =>
      (walk schema (Value.lookupText entries name)).map (Step.under (.name name)) ++
        walkFields fields entries

end

variable {presence : Presence} {value : Value} {steps : List Step}

theorem unlessOmitted_of_omitted (omitted : Omitted presence value) :
    unlessOmitted presence value steps = [] := by
  obtain ⟨rfl, rfl⟩ := omitted
  rfl

theorem unlessOmitted_of_not_omitted (provided : ¬ Omitted presence value) :
    unlessOmitted presence value steps = steps := by
  cases presence <;> cases value <;> first | rfl | exact absurd ⟨rfl, rfl⟩ provided

section Carrying

theorem carriesOut_guardPresence {check : Run Value} (carried : CarriesOut check steps) :
    CarriesOut (guardPresence presence value check) (unlessOmitted presence value steps) := by
  by_cases omitted : Omitted presence value
  · rw [guardPresence_of_omitted omitted, unlessOmitted_of_omitted omitted]
    exact .pure _
  · rwa [guardPresence_of_not_omitted omitted, unlessOmitted_of_not_omitted omitted]

theorem carriesOut_violate {violation : Violation} :
    CarriesOut (.violate violation : Run Value) [.fail violation] :=
  ⟨rfl, rfl⟩

theorem carriesOut_parseItems {parse : Value → Run Value} {walk : Value → List Step}
    {items : List Value} {position : Nat}
    (each : ∀ item ∈ items, CarriesOut (parse item) (walk item)) :
    CarriesOut (parseItems parse position items) (walkItems walk position items) := by
  induction items generalizing position with
  | nil => exact .pure _
  | cons item items ih =>
      obtain ⟨first, others⟩ := List.forall_mem_cons.mp each
      exact (first.inField _).bind fun _ _ => (ih others).returning _

theorem carriesOut_runFields {fields : List (Text × Schema)} {entries : List (Value × Value)}
    (each : ∀ field ∈ fields, ∀ value, CarriesOut (field.2.run value) (field.2.walk value)) :
    CarriesOut (runFields fields entries) (walkFields fields entries) := by
  induction fields with
  | nil => exact .pure _
  | cons field fields ih =>
      obtain ⟨first, others⟩ := List.forall_mem_cons.mp each
      exact ((first _).inField _).bind fun _ _ => (ih others).returning _

theorem calls_guardPresence {check : Run Value} (silent : check.calls = []) :
    (guardPresence presence value check).calls = [] := by
  by_cases omitted : Omitted presence value
  · rw [guardPresence_of_omitted omitted]
    rfl
  · rw [guardPresence_of_not_omitted omitted, silent]

theorem calls_rejectUndeclared {fields : List (Text × Schema)}
    {entries : List (Value × Value)} : (rejectUndeclared fields entries).calls = [] := by
  unfold rejectUndeclared
  split
  · rfl
  · split <;> rfl

theorem calls_run_of_isScalar {schema : Schema} (scalar : schema.IsScalar)
    (library : schema.isForeign = false) : (schema.run value).calls = [] := by
  cases schema with
  | number presence refinements =>
      refine calls_guardPresence ?_
      unfold parseNumber
      split <;> rfl
  | text presence refinements =>
      refine calls_guardPresence ?_
      unfold parseText
      split <;> rfl
  | boolean presence =>
      refine calls_guardPresence ?_
      unfold parseBoolean
      split <;> rfl
  | function presence =>
      refine calls_guardPresence ?_
      unfold parseFunction
      split <;> rfl
  | literal presence expected =>
      refine calls_guardPresence ?_
      unfold parseLiteral
      split
      · rfl
      · dsimp only
        split
        · rfl
        · split <;> rfl
  | array => exact scalar.elim
  | object => exact scalar.elim
  | foreign => cases library

theorem filterMap_toOption_of_forall₂ {element : Schema} {items narrowed : List Value}
    (parsed : List.Forall₂ (fun item part => element.parse item = .ok part) items narrowed) :
    items.filterMap (fun item => (element.parse item).toOption) = narrowed := by
  induction parsed with
  | nil => rfl
  | cons first _ ih => rw [List.filterMap_cons_some (by rw [first]; rfl), ih]

/-- Checking a value carries out the walk. -/
theorem carriesOut_run (schema : Schema) (value : Value) :
    CarriesOut (schema.run value) (schema.walk value) := by
  induction schema using wellFounded_child.induction generalizing value with
  | _ schema ih =>
    cases schema with
    | array presence element refinements =>
        unfold run walk
        apply carriesOut_guardPresence
        cases value.arrayItems? with
        | none => exact carriesOut_violate
        | some items =>
            have each : ∀ item ∈ items, CarriesOut (element.run item) (element.walk item) :=
              fun item _ => ih element .element item
            refine (carriesOut_parseItems each).bind fun narrowed ended => ?_
            -- The refinements are reached only with every item narrowed.
            have parsed := outcome_parseItems_eq_ok_iff.mp ended
            rw [filterMap_toOption_of_forall₂ parsed]
            exact .check rfl rfl
    | object presence fields =>
        unfold run walk
        apply carriesOut_guardPresence
        cases value.mappingEntries? with
        | none => exact carriesOut_violate
        | some entries =>
            have each : ∀ field ∈ fields, ∀ value,
                CarriesOut (field.2.run value) (field.2.walk value) :=
              fun field member => ih field.2 (.field member)
            have opening : CarriesOut (rejectUndeclared fields entries)
                [.check (rejectUndeclared fields entries).outcome] :=
              .check calls_rejectUndeclared rfl
            exact opening.bind fun _ _ => (carriesOut_runFields each).returning Value.object
    | foreign label respond =>
        constructor
        · rw [callsMade, walk, untilFailure_singleton]
          rfl
        · cases answered : respond value <;>
            simp [run, walk, answered, failureOf, Step.outer?, Failure.inFields]
    | _ => exact .check (calls_run_of_isScalar trivial rfl) rfl

end Carrying

/-- A parse returns exactly if no step of the walk fails. -/
theorem allPass_walk_iff {schema : Schema} :
    AllPass (schema.walk value) ↔ ∃ result, schema.parse value = .ok result :=
  (carriesOut_run schema value).allPass_iff

section Failing

variable {schema : Schema} {before after : List Step} {step : Step} {own : Failure}

theorem parse_eq_error_of_walk (split : schema.walk value = before ++ step :: after)
    (pass : AllPass before) (fails : step.failure? = some own) :
    schema.parse value = .error (own.inFields step.trail) := by
  have outer : step.outer? = some (own.inFields step.trail) := by
    rw [Step.outer?, fails, Option.map_some]
  have first : (schema.walk value).findSome? Step.outer? = some (own.inFields step.trail) := by
    rw [split, List.findSome?_append, allPass_iff_findSome?.mp pass, Option.none_or,
      List.findSome?_cons_of_isSome (by rw [outer]; rfl), outer]
  exact failureOf_eq_some_iff.mp ((carriesOut_run schema value).failure.trans first)

theorem exists_step_of_parse_eq_error {failure : Failure}
    (failed : schema.parse value = .error failure) :
    ∃ before step after own, schema.walk value = before ++ step :: after ∧ AllPass before ∧
      step.failure? = some own ∧ failure = own.inFields step.trail := by
  have first := (carriesOut_run schema value).failure
  rw [show failureOf (schema.run value).outcome = some failure from
    failureOf_eq_some_iff.mpr failed] at first
  obtain ⟨before, step, after, split, outer, pass⟩ := List.findSome?_eq_some_iff.mp first.symm
  obtain ⟨own, fails, rfl⟩ := Option.map_eq_some_iff.mp outer
  have pass : AllPass before := fun earlier member => by
    simpa [Step.outer?] using pass earlier member
  exact ⟨before, step, after, own, split, pass, fails, rfl⟩

end Failing

end Schema

end ClosedShape
