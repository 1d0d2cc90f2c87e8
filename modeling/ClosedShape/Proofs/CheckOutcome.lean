import ClosedShape.Check

/-!
# How checks end

A check reports while it works, and what it reports has no influence on its outcome.
-/

namespace ClosedShape

namespace Logged

variable {ε α β : Type}

@[simp]
theorem outcome_pure (result : α) : (pure result : Logged ε α).outcome = .ok result :=
  rfl

@[simp]
theorem outcome_ofExcept (outcome : Except ε α) : (ofExcept outcome).outcome = outcome :=
  rfl

@[simp]
theorem outcome_report (level : LogLevel) (logger : String) (text : Text) :
    (report level logger text : Logged ε Unit).outcome = .ok () :=
  rfl

theorem outcome_bind (first : Logged ε α) (next : α → Logged ε β) :
    (first >>= next).outcome = first.outcome.bind fun result => (next result).outcome := by
  change (Logged.bind first next).outcome = _
  cases ended : first.outcome <;> simp [Logged.bind, ended, Except.bind]

end Logged

namespace Check

variable {name : Text} {schema : Schema} {value : Value} {expected : List Text}

/-- The result of checking a value, or the fault that keeps it from being checked. -/
theorem outcome_config :
    (config name schema value expected).outcome =
      match schema.parse value with
      | .ok narrowed => .ok (.success name narrowed)
      | .error (.invalid violation) =>
          .ok { CheckResult.failure name (.ofViolation violation) with expected }
      | .error (.faulty fault) => .error fault := by
  unfold config
  cases schema.parse value with
  | ok narrowed => rfl
  | error failure => cases failure <;> rfl

theorem result_of_parse_ok {result : CheckResult} {narrowed : Value}
    (checked : (config name schema value expected).outcome = .ok result)
    (parsed : schema.parse value = .ok narrowed) : result = .success name narrowed := by
  rw [outcome_config, parsed] at checked
  exact (Except.ok.inj checked).symm

theorem result_of_violation {result : CheckResult} {violation : Violation}
    (checked : (config name schema value expected).outcome = .ok result)
    (failed : schema.parse value = .error (.invalid violation)) :
    result = { CheckResult.failure name (.ofViolation violation) with expected } := by
  rw [outcome_config, failed] at checked
  exact (Except.ok.inj checked).symm

/-- A check gives a result unless the parse ends in a fault. -/
theorem exists_outcome_config_eq_ok_iff :
    (∃ result, (config name schema value expected).outcome = .ok result) ↔
      ∀ fault, schema.parse value ≠ .error (.faulty fault) := by
  rw [outcome_config]
  split <;> simp_all

end Check

end ClosedShape
