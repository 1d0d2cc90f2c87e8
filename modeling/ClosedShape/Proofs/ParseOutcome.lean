import ClosedShape.Proofs.RunOutcome

/-!
# What each kind of schema answers

For every kind of schema this file says when a parse returns and what, and when it fails and how.
An optional schema answers an omitted value before anything else, so the checks themselves are
described for values that are not omitted.
-/

namespace ClosedShape.Schema

variable {presence : Presence} {refinements : List Refinement} {value result : Value}
  {failure : Failure}

section Checks

theorem outcome_parseNumber_eq_ok_iff :
    (parseNumber refinements value).outcome = .ok result ↔
      (value.isNumber = true ∧ ∀ refinement ∈ refinements, refinement.Holds value) ∧
        result = value := by
  cases number : value.isNumber <;>
    simp [parseNumber, number, Refinement.applyAll_eq_ok_iff]

theorem outcome_parseNumber_eq_error_iff :
    (parseNumber refinements value).outcome = .error failure ↔
      value.isNumber = false ∧
          failure = .invalid (typeMismatch "Must be a number." "number" value) ∨
        value.isNumber = true ∧ Refinement.applyAll refinements value = .error failure := by
  cases number : value.isNumber <;> simp [parseNumber, number, eq_comm]

theorem outcome_parseText_eq_ok_iff :
    (parseText refinements value).outcome = .ok result ↔
      ((∃ content, value = .text content) ∧
        ∀ refinement ∈ refinements, refinement.Holds value) ∧ result = value := by
  cases value <;> simp [parseText, Refinement.applyAll_eq_ok_iff]

theorem outcome_parseText_eq_error_iff :
    (parseText refinements value).outcome = .error failure ↔
      (¬ ∃ content, value = .text content) ∧
          failure = .invalid (typeMismatch "Must be a string." "string" value) ∨
        (∃ content, value = .text content) ∧
          Refinement.applyAll refinements value = .error failure := by
  cases value <;> simp [parseText, eq_comm]

theorem outcome_parseBoolean_eq_ok_iff :
    (parseBoolean value).outcome = .ok result ↔
      (∃ truth, value = .bool truth) ∧ result = value := by
  cases value <;> simp [parseBoolean, eq_comm]

theorem outcome_parseBoolean_eq_error_iff :
    (parseBoolean value).outcome = .error failure ↔
      (¬ ∃ truth, value = .bool truth) ∧
        failure = .invalid (typeMismatch "Must be a boolean." "boolean" value) := by
  cases value <;> simp [parseBoolean, eq_comm]

theorem outcome_parseFunction_eq_ok_iff :
    (parseFunction value).outcome = .ok result ↔ value.isCallable = true ∧ result = value := by
  cases callable : value.isCallable <;> simp [parseFunction, callable, eq_comm]

theorem outcome_parseFunction_eq_error_iff :
    (parseFunction value).outcome = .error failure ↔
      value.isCallable = false ∧
        failure = .invalid (typeMismatch "Must be a function." "function" value) := by
  cases callable : value.isCallable <;> simp [parseFunction, callable, eq_comm]

variable {expected : Value}

theorem outcome_parseLiteral_eq_ok_iff :
    (parseLiteral expected value).outcome = .ok result ↔
      (∃ shown, expected.literalText = .ok shown) ∧
        (value.kindName = expected.kindName ∧ value.equals expected = true) ∧
          result = value := by
  unfold parseLiteral
  cases expected.literalText with
  | error fault => simp
  | ok shown =>
      by_cases kind : value.kindName = expected.kindName <;>
        cases equal : value.equals expected <;> simp [kind, eq_comm]

/-- The literal is shown before anything is compared, so its own text can be what fails. -/
theorem outcome_parseLiteral_eq_error_iff :
    (parseLiteral expected value).outcome = .error failure ↔
      (∃ fault, expected.literalText = .error fault ∧ failure = .faulty fault) ∨
        ∃ shown, expected.literalText = .ok shown ∧
          (value.kindName ≠ expected.kindName ∧
              failure = .invalid
                (typeMismatch ("Must be " ++ shown ++ ".") expected.kindName value) ∨
            value.kindName = expected.kindName ∧ value.equals expected = false ∧
              failure = .invalid
                (.literalMismatch ("Must be " ++ shown ++ ".") expected value)) := by
  unfold parseLiteral
  cases expected.literalText with
  | error fault => simp [@eq_comm _ failure]
  | ok shown =>
      by_cases kind : value.kindName = expected.kindName <;>
        cases equal : value.equals expected <;> simp [kind, eq_comm]

end Checks

section Arrays

variable {element : Schema}

theorem parse_array_eq_ok_iff :
    (Schema.array presence element refinements).parse value = .ok result ↔
      Omitted presence value ∧ result = .absent ∨
        ¬ Omitted presence value ∧ ∃ items narrowed, value.arrayItems? = some items ∧
          List.Forall₂ (fun item part => element.parse item = .ok part) items narrowed ∧
            (∀ refinement ∈ refinements, refinement.Holds (.list narrowed)) ∧
              result = .list narrowed := by
  simp only [parse, run, outcome_guardPresence_eq_ok_iff]
  refine or_congr_right (and_congr_right fun _ => ?_)
  cases value.arrayItems? with
  | none => simp
  | some items =>
      simp only [Run.outcome_bind_eq_ok_iff, outcome_parseItems_eq_ok_iff, Run.outcome_ofOutcome,
        Refinement.applyAll_eq_ok_iff, Option.some.injEq, exists_and_left, exists_eq_left']

theorem parse_array_eq_error_iff :
    (Schema.array presence element refinements).parse value = .error failure ↔
      ¬ Omitted presence value ∧
        (value.arrayItems? = none ∧
            failure = .invalid (typeMismatch "Must be an array." "array" value) ∨
          ∃ items, value.arrayItems? = some items ∧
            ((∃ before item after, items = before ++ item :: after ∧
                (∀ earlier ∈ before, ∃ part, element.parse earlier = .ok part) ∧
                  ∃ inner, element.parse item = .error inner ∧
                    failure = inner.inField (.index before.length)) ∨
              ∃ narrowed,
                List.Forall₂ (fun item part => element.parse item = .ok part) items narrowed ∧
                  Refinement.applyAll refinements (.list narrowed) = .error failure)) := by
  simp only [parse, run, outcome_guardPresence_eq_error_iff]
  refine and_congr_right fun _ => ?_
  cases value.arrayItems? with
  | none => simp [eq_comm]
  | some items =>
      simp only [Run.outcome_bind_eq_error_iff, outcome_parseItems_eq_ok_iff,
        outcome_parseItems_eq_error_iff, Run.outcome_ofOutcome, Nat.zero_add, Option.some.injEq,
        exists_eq_left', reduceCtorEq, false_and, false_or]

end Arrays

section Objects

variable {fields : List (Text × Schema)}

theorem parse_object_eq_ok_iff :
    (Schema.object presence fields).parse value = .ok result ↔
      Omitted presence value ∧ result = .absent ∨
        ¬ Omitted presence value ∧ ∃ entries narrowed, value.mappingEntries? = some entries ∧
          (∀ entry ∈ entries, Declares fields entry.1) ∧
            List.Forall₂ (fun field entry => entry.1 = .text field.1 ∧
              field.2.parse (Value.lookupText entries field.1) = .ok entry.2) fields narrowed ∧
                result = .object narrowed := by
  simp only [parse, run, outcome_guardPresence_eq_ok_iff]
  refine or_congr_right (and_congr_right fun _ => ?_)
  cases value.mappingEntries? with
  | none => simp
  | some entries =>
      simp only [Run.outcome_bind_eq_ok_iff, outcome_rejectUndeclared_eq_ok_iff,
        outcome_runFields_eq_ok_iff, Run.outcome_pure, Except.ok.injEq, Option.some.injEq,
        exists_const, exists_and_left, exists_eq_left', parse, @eq_comm _ _ result]

theorem parse_object_eq_error_iff :
    (Schema.object presence fields).parse value = .error failure ↔
      ¬ Omitted presence value ∧
        (value.mappingEntries? = none ∧
            failure = .invalid (typeMismatch "Must be an object." "object" value) ∨
          ∃ entries, value.mappingEntries? = some entries ∧
            ((∃ key, FirstUndeclared fields entries key ∧ failure = undeclaredFailure key) ∨
              (∀ entry ∈ entries, Declares fields entry.1) ∧
                ∃ before field after, fields = before ++ field :: after ∧
                  (∀ earlier ∈ before, ∃ part,
                    earlier.2.parse (Value.lookupText entries earlier.1) = .ok part) ∧
                    ∃ inner, field.2.parse (Value.lookupText entries field.1) = .error inner ∧
                      failure = inner.inField (.name field.1))) := by
  simp only [parse, run, outcome_guardPresence_eq_error_iff]
  refine and_congr_right fun _ => ?_
  cases value.mappingEntries? with
  | none => simp [eq_comm]
  | some entries =>
      simp only [Run.outcome_bind_eq_error_iff, outcome_rejectUndeclared_eq_ok_iff,
        outcome_rejectUndeclared_eq_error_iff, outcome_runFields_eq_error_iff, Run.outcome_pure,
        reduceCtorEq, and_false, exists_false, or_false, exists_const, Option.some.injEq,
        exists_eq_left', false_and, false_or, parse]

end Objects

end ClosedShape.Schema
