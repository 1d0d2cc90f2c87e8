import ClosedShape.Proofs.ParseFault

/-!
# Chains of refinements

Schemas for numbers, texts and arrays are built by chains of calls, each of which adds a refinement
or makes the schema optional.  What such a chain builds depends only on the refinements, in their
order, and on whether any call made the schema optional; where in the chain that was does not
matter.
-/

namespace ClosedShape

namespace Run

variable {α β γ : Type}

theorem bind_assoc (run : Run α) (next : α → Run β) (last : β → Run γ) :
    run >>= next >>= last = run >>= fun result => next result >>= last := by
  obtain ⟨calls, outcome⟩ := run
  cases outcome with
  | error failure => rfl
  | ok result =>
      change Run.bind (Run.bind _ next) last = Run.bind _ _
      simp only [Run.bind]
      cases ended : (next result).outcome with
      | error failure => simp [Bind.bind, Run.bind, ended]
      | ok middle => simp [Bind.bind, Run.bind, ended, List.append_assoc]

/-- What a run goes on with counts only for the result that it has. -/
theorem bind_congr_of_outcome {run : Run α} {next other : α → Run β}
    (same : ∀ result, run.outcome = .ok result → next result = other result) :
    run >>= next = run >>= other := by
  change Run.bind run next = Run.bind run other
  unfold Run.bind
  cases ended : run.outcome with
  | error failure => rfl
  | ok result => simp only [same result ended]

end Run

namespace Refinement

theorem applyAll_append {before after : List Refinement} {value : Value} :
    applyAll (before ++ after) value = (applyAll before value).bind (applyAll after) := by
  induction before with
  | nil => rfl
  | cons refinement before ih =>
      cases applied : refinement.apply value with
      | error failure => simp [applyAll, applied, Except.bind]
      | ok refined =>
          obtain ⟨_, rfl⟩ := apply_eq_ok_iff.mp applied
          simp [applyAll, applied, ih]

/-- After a refinement that is not satisfied, it does not matter what comes. -/
theorem applyAll_of_not_holds {before after others : List Refinement} {refinement : Refinement}
    {value : Value} (notHolds : ¬ refinement.Holds value) :
    applyAll (before ++ refinement :: others) value =
      applyAll (before ++ refinement :: after) value := by
  rw [applyAll_append, applyAll_append]
  cases ended : applyAll before value with
  | error failure => rfl
  | ok result =>
      obtain ⟨_, rfl⟩ := applyAll_eq_ok_iff.mp ended
      cases applied : refinement.apply result with
      | ok refined => exact absurd (apply_eq_ok_iff.mp applied).1 notHolds
      | error failure => simp [Except.bind, applyAll, applied]

end Refinement

/-- What a chain of refinements starts from: a schema without refinements, but of a kind that can
carry them. -/
inductive Refinable where
  | number
  | text
  | array (element : Schema)

namespace Refinable

variable {base : Refinable} {presence : Presence} {refinements : List Refinement} {value : Value}
  {link : Entity.Link} {links : List Entity.Link} {result : Entity}

def schema (base : Refinable) (presence : Presence) (refinements : List Refinement) : Schema :=
  match base with
  | .number => .number presence refinements
  | .text => .text presence refinements
  | .array element => .array presence element refinements

def className : Refinable → String
  | .number => "NumberValidator"
  | .text => "StringValidator"
  | .array _ => "ArrayValidator"

/-- The refinement of the library that a call adds by its name. -/
def own? : Refinable → String → Option Refinement
  | .number, "positive" => some .positive
  | .text, "non_empty" => some .nonEmptyText
  | .array _, "non_empty" => some .nonEmptyArray
  | _, _ => none

/-- The refinement that a call adds. -/
def added? (base : Refinable) : Entity.Link → Option Refinement
  | .member name => base.own? name
  | .refine refinement => some refinement

/-- What the check before all refinements comes to.  It gives the value as it is, but an array is
given as the list of what its items parse to, and the first item that fails fails the array. -/
inductive Checks : Refinable → Value → Except Failure Value → Prop
  | number {value : Value} (isNumber : value.isNumber = true) : Checks .number value (.ok value)
  | noNumber {value : Value} (other : value.isNumber = false) :
      Checks .number value
        (.error (.invalid (Schema.typeMismatch "Must be a number." "number" value)))
  | text (content : Text) : Checks .text (.text content) (.ok (.text content))
  | noText {value : Value} (other : ∀ content, value ≠ .text content) :
      Checks .text value
        (.error (.invalid (Schema.typeMismatch "Must be a string." "string" value)))
  | array {element : Schema} {value : Value} {items parts : List Value}
      (isArray : value.arrayItems? = some items)
      (parsed : List.Forall₂ (fun item part => element.parse item = .ok part) items parts) :
      Checks (.array element) value (.ok (.list parts))
  | badItem {element : Schema} {value item : Value} {before after : List Value} {failure : Failure}
      (isArray : value.arrayItems? = some (before ++ item :: after))
      (parsed : ∀ earlier ∈ before, ∃ part, element.parse earlier = .ok part)
      (fails : element.parse item = .error failure) :
      Checks (.array element) value (.error (failure.inField (.index before.length)))
  | noArray {element : Schema} {value : Value} (other : value.arrayItems? = none) :
      Checks (.array element) value
        (.error (.invalid (Schema.typeMismatch "Must be an array." "array" value)))

/-- What a schema with some refinements answers.  Nothing is checked of a value that may be left out
and is.  The refinements are about the checked value, and the first that it does not satisfy says
what is wrong with it, or fails itself. -/
inductive Answers (base : Refinable) (presence : Presence) (refinements : List Refinement) :
    Value → Except Failure Value → Prop
  | omitted {value : Value} (omitted : Schema.Omitted presence value) :
      Answers base presence refinements value (.ok .absent)
  | unchecked {value : Value} {failure : Failure} (provided : ¬ Schema.Omitted presence value)
      (fails : base.Checks value (.error failure)) :
      Answers base presence refinements value (.error failure)
  | rejected {value narrowed : Value} {before after : List Refinement} {refinement : Refinement}
      (provided : ¬ Schema.Omitted presence value) (checked : base.Checks value (.ok narrowed))
      (split : refinements = before ++ refinement :: after)
      (passed : ∀ earlier ∈ before, earlier.Holds narrowed)
      (rejects : refinement.check narrowed = .ok false) :
      Answers base presence refinements value
        (.error (.invalid (.refinementFailure refinement.message refinement.name)))
  | failed {value narrowed : Value} {before after : List Refinement} {refinement : Refinement}
      {fault : Fault} (provided : ¬ Schema.Omitted presence value)
      (checked : base.Checks value (.ok narrowed))
      (split : refinements = before ++ refinement :: after)
      (passed : ∀ earlier ∈ before, earlier.Holds narrowed)
      (fails : refinement.check narrowed = .error fault) :
      Answers base presence refinements value (.error (.faulty fault))
  | passed {value narrowed : Value} (provided : ¬ Schema.Omitted presence value)
      (checked : base.Checks value (.ok narrowed))
      (passed : ∀ refinement ∈ refinements, refinement.Holds narrowed) :
      Answers base presence refinements value (.ok narrowed)

/-- The part of a run before all refinements. -/
def check (base : Refinable) (value : Value) : Run Value :=
  match base with
  | .number =>
      if value.isNumber then pure value
      else .violate (Schema.typeMismatch "Must be a number." "number" value)
  | .text =>
      match value with
      | .text _ => pure value
      | _ => .violate (Schema.typeMismatch "Must be a string." "string" value)
  | .array element =>
      match value.arrayItems? with
      | none => .violate (Schema.typeMismatch "Must be an array." "array" value)
      | some items => do
          let narrowed ← Schema.parseItems (fun item => element.run item) 0 items
          return .list narrowed

end Refinable

/-- The call that makes a schema optional. -/
def Entity.Link.isOptional : Entity.Link → Bool
  | .member "optional" => true
  | _ => false

/-- A schema is optional from the first such call on. -/
def Presence.after (presence : Presence) (links : List Entity.Link) : Presence :=
  if links.any Entity.Link.isOptional then .optional else presence

namespace Refinable

variable {base : Refinable} {presence : Presence} {refinements : List Refinement} {value : Value}
  {link : Entity.Link} {links : List Entity.Link} {result : Entity}

@[simp]
theorem refinements?_schema :
    (base.schema presence refinements).refinements? = some refinements := by
  cases base <;> rfl

theorem className_schema :
    (base.schema presence refinements).className =
      match presence with
      | .required => base.className
      | .optional => "Optional" ++ base.className := by
  cases base <;> cases presence <;> rfl

/-- The refinements are applied to what the check before them narrows the value to. -/
theorem run_schema :
    (base.schema presence refinements).run value =
      Schema.guardPresence presence value
        (base.check value >>= fun narrowed =>
          .ofOutcome (Refinement.applyAll refinements narrowed)) := by
  cases base with
  | number =>
      simp only [schema, Schema.run, Schema.parseNumber, check]
      split <;> rfl
  | text => cases value <;> rfl
  | array element =>
      simp only [schema, Schema.run, check]
      cases value.arrayItems? with
      | none => rfl
      | some items => rw [Run.bind_assoc]; rfl

/-- The part of a run before all refinements does what the check comes to. -/
theorem outcome_check_iff {outcome : Except Failure Value} :
    (base.check value).outcome = outcome ↔ base.Checks value outcome := by
  constructor
  · rintro rfl
    cases base with
    | number =>
        cases isNumber : value.isNumber with
        | true =>
            simp only [check, isNumber]
            exact .number isNumber
        | false =>
            simp only [check, isNumber]
            exact .noNumber isNumber
    | text =>
        cases value
        case text content => exact .text content
        all_goals exact .noText nofun
    | array element =>
        unfold check
        dsimp only
        cases items : value.arrayItems? with
        | none => exact .noArray items
        | some given =>
            dsimp only
            cases ended : (Schema.parseItems (fun item => element.run item) 0 given).outcome with
            | ok parts =>
                rw [Run.outcome_bind_eq_ok_iff.mpr ⟨parts, ended, rfl⟩]
                exact .array items (Schema.outcome_parseItems_eq_ok_iff.mp ended)
            | error failure =>
                rw [Run.outcome_bind_eq_error_iff.mpr (.inl ended)]
                obtain ⟨before, item, after, rfl, parsed, inner, fails, rfl⟩ :=
                  Schema.outcome_parseItems_eq_error_iff.mp ended
                rw [Nat.zero_add]
                exact .badItem items parsed fails
  · intro checks
    cases checks with
    | number isNumber => simp [check, isNumber]
    | noNumber other => simp [check, other]
    | text content => rfl
    | noText other =>
        cases value
        case text content => exact absurd rfl (other content)
        all_goals rfl
    | array isArray parsed =>
        simp only [check, isArray]
        exact Run.outcome_bind_eq_ok_iff.mpr
          ⟨_, Schema.outcome_parseItems_eq_ok_iff.mpr parsed, rfl⟩
    | badItem isArray parsed fails =>
        simp only [check, isArray]
        refine Run.outcome_bind_eq_error_iff.mpr (.inl ?_)
        exact Schema.outcome_parseItems_eq_error_iff.mpr
          ⟨_, _, _, rfl, parsed, _, fails, by rw [Nat.zero_add]⟩
    | noArray other => simp [check, other]

theorem parse_schema_eq_ok_iff {narrowed : Value} :
    (base.schema presence refinements).parse value = .ok narrowed ↔
      Schema.Omitted presence value ∧ narrowed = .absent ∨
        ¬ Schema.Omitted presence value ∧ base.Checks value (.ok narrowed) ∧
          ∀ refinement ∈ refinements, refinement.Holds narrowed := by
  rw [Schema.parse, run_schema, Schema.outcome_guardPresence_eq_ok_iff, Run.outcome_bind_eq_ok_iff]
  simp only [outcome_check_iff, Run.outcome_ofOutcome, Refinement.applyAll_eq_ok_iff]
  refine or_congr_right (and_congr_right fun _ => ?_)
  constructor
  · rintro ⟨checked, checks, passed, rfl⟩
    exact ⟨checks, passed⟩
  · rintro ⟨checks, passed⟩
    exact ⟨narrowed, checks, passed, rfl⟩

theorem parse_schema_eq_error_iff {failure : Failure} :
    (base.schema presence refinements).parse value = .error failure ↔
      ¬ Schema.Omitted presence value ∧
        (base.Checks value (.error failure) ∨
          ∃ narrowed, base.Checks value (.ok narrowed) ∧
            ∃ before refinement after, refinements = before ++ refinement :: after ∧
              (∀ earlier ∈ before, earlier.Holds narrowed) ∧
                refinement.apply narrowed = .error failure) := by
  rw [Schema.parse, run_schema, Schema.outcome_guardPresence_eq_error_iff,
    Run.outcome_bind_eq_error_iff]
  simp only [outcome_check_iff, Run.outcome_ofOutcome, Refinement.applyAll_eq_error_iff]

/-- A schema with refinements parses every value to the one answer that there is. -/
theorem parse_schema_iff {outcome : Except Failure Value} :
    (base.schema presence refinements).parse value = outcome ↔
      base.Answers presence refinements value outcome := by
  constructor
  · intro parsed
    cases outcome with
    | ok narrowed =>
        rcases parse_schema_eq_ok_iff.mp parsed with ⟨omitted, rfl⟩ | ⟨provided, checked, passed⟩
        · exact .omitted omitted
        · exact .passed provided checked passed
    | error failure =>
        obtain ⟨provided, fails | ⟨narrowed, checked, before, refinement, after, split, passed,
          applied⟩⟩ := parse_schema_eq_error_iff.mp parsed
        · exact .unchecked provided fails
        · rcases Refinement.apply_eq_error_iff.mp applied with ⟨fault, fails, rfl⟩ | ⟨rejects, rfl⟩
          · exact .failed provided checked split passed fails
          · exact .rejected provided checked split passed rejects
  · intro answers
    cases answers with
    | omitted omitted => exact parse_schema_eq_ok_iff.mpr (.inl ⟨omitted, rfl⟩)
    | unchecked provided fails => exact parse_schema_eq_error_iff.mpr ⟨provided, .inl fails⟩
    | rejected provided checked split passed rejects =>
        exact parse_schema_eq_error_iff.mpr ⟨provided, .inr ⟨_, checked, _, _, _, split, passed,
          Refinement.apply_eq_error_iff.mpr (.inr ⟨rejects, rfl⟩)⟩⟩
    | failed provided checked split passed fails =>
        exact parse_schema_eq_error_iff.mpr ⟨provided, .inr ⟨_, checked, _, _, _, split, passed,
          Refinement.apply_eq_error_iff.mpr (.inl ⟨_, fails, rfl⟩)⟩⟩
    | passed provided checked passed =>
        exact parse_schema_eq_ok_iff.mpr (.inr ⟨provided, checked, passed⟩)

/-- Where a refinement is not satisfied, those after it are not asked, not even to fail. -/
theorem run_schema_of_not_holds {before after others : List Refinement} {refinement : Refinement}
    (notHolds : ∀ narrowed, base.Checks value (.ok narrowed) → ¬ refinement.Holds narrowed) :
    (base.schema presence (before ++ refinement :: others)).run value =
      (base.schema presence (before ++ refinement :: after)).run value := by
  rw [run_schema, run_schema]
  congr 1
  apply Run.bind_congr_of_outcome
  intro narrowed checked
  rw [Refinement.applyAll_of_not_holds (notHolds narrowed (outcome_check_iff.mp checked))]

section Calls

/-- One call adds its refinement at the end, or makes the schema optional. -/
theorem call_schema_eq_ok
    (called : Entity.call (.ofSchema (base.schema presence refinements)) link = .ok result) :
    result = .ofSchema
      (base.schema (presence.after [link]) (refinements ++ (base.added? link).toList)) := by
  unfold Entity.call at called
  split at called
  · rename_i other applied
    cases called
    simp only [Entity.schema?, Option.bind_some] at applied
    unfold Entity.Link.applyTo at applied
    split at applied
    · cases base <;> cases applied <;>
        simp [schema, Presence.after, Entity.Link.isOptional, added?, own?]
    · cases base <;> cases applied
      simp [schema, Presence.after, Entity.Link.isOptional, added?, own?]
    · cases base <;> cases applied <;>
        simp [schema, Presence.after, Entity.Link.isOptional, added?, own?]
    · cases applied
    · cases base <;> cases applied <;>
        simp [schema, Presence.after, Entity.Link.isOptional, added?]
  · cases called

/-- A chain keeps what it starts from, and adds what its calls add. -/
theorem foldlM_call_schema_eq_ok
    (built : links.foldlM Entity.call (.ofSchema (base.schema presence refinements)) =
      .ok result) :
    result = .ofSchema
      (base.schema (presence.after links) (refinements ++ links.filterMap base.added?)) := by
  induction links generalizing presence refinements with
  | nil =>
      cases built
      simp [Presence.after]
  | cons link links ih =>
      rw [List.foldlM_cons] at built
      cases called : Entity.call (.ofSchema (base.schema presence refinements)) link with
      | error fault =>
          rw [called] at built
          cases built
      | ok next =>
          rw [called] at built
          obtain rfl := call_schema_eq_ok called
          rw [ih built]
          have presences :
              (presence.after [link]).after links = presence.after (link :: links) := by
            by_cases optional : link.isOptional = true <;>
              by_cases later : links.any Entity.Link.isOptional = true <;>
                simp [Presence.after, optional, later]
          have added : (refinements ++ (base.added? link).toList) ++ links.filterMap base.added? =
              refinements ++ (link :: links).filterMap base.added? := by
            cases named : base.added? link <;> simp [named]
          rw [presences, added]

end Calls

/-- Whatever chain of calls builds a schema, the refinements in their order and whether a call made
it optional say all about it: its class, what it consists of and what it answers to a value.  The
refinements after one that is not satisfied have no part in that, whatever they are. -/
theorem chain_determined_by_refinements
    (built : links.foldlM Entity.call (.ofSchema (base.schema .required [])) = .ok result) :
    let presence := Presence.required.after links
    let refinements := links.filterMap base.added?
    let refined := base.schema presence refinements
    result = .ofSchema refined ∧
      refined.className = (if links.any Entity.Link.isOptional then "Optional" ++ base.className
        else base.className) ∧
      refined.refinements? = some refinements ∧
      (∀ value outcome, refined.parse value = outcome ↔
        base.Answers presence refinements value outcome) ∧
      (∀ before refinement after, refinements = before ++ refinement :: after →
        ∀ value, (∀ narrowed, base.Checks value (.ok narrowed) → ¬ refinement.Holds narrowed) →
          ∀ others, (base.schema presence (before ++ refinement :: others)).run value =
            refined.run value) ∧
      ∀ (otherLinks : List Entity.Link) (other : Entity),
        otherLinks.foldlM Entity.call (.ofSchema (base.schema .required [])) = .ok other →
          otherLinks.filterMap base.added? = refinements →
            otherLinks.any Entity.Link.isOptional = links.any Entity.Link.isOptional →
              other = result := by
  intro presence refinements refined
  have determined : result = .ofSchema refined := foldlM_call_schema_eq_ok built
  refine ⟨determined, ?_, refinements?_schema, fun value outcome => parse_schema_iff, ?_, ?_⟩
  · simp only [refined, className_schema, presence, Presence.after]
    cases links.any Entity.Link.isOptional <;> rfl
  · intro before refinement after split value notHolds others
    simp only [refined, split]
    exact run_schema_of_not_holds notHolds
  · intro otherLinks other otherBuilt sameRefinements sameOptional
    rw [determined, foldlM_call_schema_eq_ok otherBuilt, List.nil_append, sameRefinements]
    simp only [refined, presence, Presence.after, sameOptional]

/-- A refinement that measures its value fails on what has no size, and on a list it answers. -/
theorem chain_determined_by_refinements_in_two_places :
    let few : Refinement := .ofTest "few" "Must be few." (.sizeAtMost (.int 2))
    let never : Refinement := ⟨"never", "Must not be.", fun _ => .ok false⟩
    let base : Refinable := .array (.text .optional [])
    let links : List Entity.Link :=
      [.member "non_empty", .refine few, .member "optional", .refine never]
    let otherLinks : List Entity.Link :=
      [.member "optional", .member "non_empty", .refine few, .refine never, .member "optional"]
    let refined := base.schema .optional [.nonEmptyArray, few, never]
    let value : Value := .tuple [.text "a", .absent, .text "c"]
    few.check (.int 1) = .error (.notMeasurable "int") ∧
      links.foldlM Entity.call (.ofSchema (base.schema .required [])) = .ok (.ofSchema refined) ∧
      (∀ other, otherLinks.foldlM Entity.call (.ofSchema (base.schema .required [])) =
        .ok other → other = .ofSchema refined) ∧
      refined.className = "OptionalArrayValidator" ∧
      refined.parse value = .error (.invalid (.refinementFailure "Must be few." "few")) ∧
      ∀ others, (base.schema .optional ([.nonEmptyArray] ++ few :: others)).run value =
        refined.run value := by
  intro few never base links otherLinks refined value
  have built : links.foldlM Entity.call (.ofSchema (base.schema .required [])) =
      .ok (.ofSchema refined) := rfl
  obtain ⟨_, className, _, parses, later, same⟩ := chain_determined_by_refinements built
  have checked : base.Checks value (.ok (.list [.text "a", .absent, .text "c"])) :=
    .array rfl (.cons rfl (.cons rfl (.cons rfl .nil)))
  have rejects : few.check (.list [.text "a", .absent, .text "c"]) = .ok false := rfl
  have notHolds : ∀ narrowed, base.Checks value (.ok narrowed) → ¬ few.Holds narrowed := by
    intro narrowed checks holds
    cases (outcome_check_iff.mpr checks).symm.trans (outcome_check_iff.mpr checked)
    cases rejects.symm.trans holds
  have provided : ¬ Schema.Omitted .optional value := by simp [Schema.Omitted, value]
  have nonEmpty : ∀ earlier ∈ [Refinement.nonEmptyArray],
      earlier.Holds (.list [.text "a", .absent, .text "c"]) := by
    intro earlier member
    obtain rfl := List.mem_singleton.mp member
    rfl
  refine ⟨rfl, built, ?_, className, ?_, later [.nonEmptyArray] few [never] rfl value notHolds⟩
  · exact fun other otherBuilt => same otherLinks other otherBuilt rfl rfl
  · exact (parses value _).mpr (.rejected provided checked rfl nonEmpty rejects)

end Refinable

end ClosedShape
