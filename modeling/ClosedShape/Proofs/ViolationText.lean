import ClosedShape.Proofs.CheckOutcome
import ClosedShape.Proofs.FirstFailure
import ClosedShape.Proofs.TrailText

/-!
# The two texts of a violation

A failed check reports its violation twice: the log holds the text of the violation, and the result
describes the error.  Both put the trail before the message, the one if there is a trail and the
other if the rendered trail is not empty.  So they agree except on a trail that goes through fields
without a name alone, which is a trail and leaves no text.

What is reported about a finding deep inside is the finding's own, behind the steps to it.
-/

namespace ClosedShape

namespace Violation

variable {violation : Violation}

theorem text_of_trail_eq_nil (atRoot : violation.trail = []) :
    violation.text = violation.message := by
  simp [text, atRoot]

theorem text_of_trail_ne_nil (inside : violation.trail ≠ []) :
    violation.text = violation.trailText ++ ": " ++ violation.message := by
  simp [text, inside]

theorem leaf_eq_self (unwrapped : ∀ segment cause, violation ≠ .inField segment cause) :
    violation.leaf = violation := by
  cases violation with
  | inField segment cause => exact absurd rfl (unwrapped segment cause)
  | _ => rfl

theorem code_inFields (trail : Trail) : (violation.inFields trail).code = violation.code := by
  rw [code, code, leaf_inFields]

end Violation

namespace CheckError

variable {violation : Violation}

theorem describe_of_trailText_eq_nil (hidden : violation.trailText = []) :
    (ofViolation violation).describe = violation.message := by
  simp [describe, ofViolation, hidden]

theorem describe_of_trailText_ne_nil (shown : violation.trailText ≠ []) :
    (ofViolation violation).describe = violation.trailText ++ ": " ++ violation.message := by
  simp [describe, ofViolation, shown]

/-- The description of an error is the text of its violation, unless the trail has segments and none
of them leaves a text. -/
theorem describe_eq_text_iff :
    (ofViolation violation).describe = violation.text ↔
      violation.trail = [] ∨ ∃ segment ∈ violation.trail, segment ≠ .name [] := by
  have leavesText : violation.trailText ≠ [] ↔ ∃ segment ∈ violation.trail, segment ≠ .name [] := by
    rw [Ne, Violation.trailText, Trail.render_eq_nil_iff]
    push Not
    rfl
  rw [← leavesText]
  by_cases atRoot : violation.trail = []
  · have hidden : violation.trailText = [] := by
      rw [Violation.trailText, atRoot]
      rfl
    rw [describe_of_trailText_eq_nil hidden, Violation.text_of_trail_eq_nil atRoot]
    exact iff_of_true rfl (.inl atRoot)
  · rw [Violation.text_of_trail_ne_nil atRoot]
    by_cases shown : violation.trailText = []
    · have longer : violation.message ≠ violation.trailText ++ ": " ++ violation.message := by
        intro equal
        have lengths := congrArg List.length equal
        simp [shown, Text.ofString] at lengths
        omega
      rw [describe_of_trailText_eq_nil shown]
      exact iff_of_false longer (by simp [atRoot, shown])
    · rw [describe_of_trailText_ne_nil shown]
      exact iff_of_true rfl (.inr shown)

end CheckError

namespace Check

variable {custom : Refinement → Prop} {schema : Schema} {value : Value} {violation : Violation}
  {name : Text} {expected : List Text}

/-- What a check that finds a violation reports and returns. -/
theorem config_of_violation (failed : schema.parse value = .error (.invalid violation)) :
    config name schema value expected =
      ⟨[⟨.info, logger, "Invalid config for " ++ name ++ ": " ++ violation.text⟩],
        .ok { CheckResult.failure name (.ofViolation violation) with expected }⟩ := by
  unfold config
  rw [failed]
  rfl

/-- The message of a failed check is what the check has logged about the value, except where the
trail leads through fields without a name alone. -/
theorem shown_message_is_logged_iff (failed : schema.parse value = .error (.invalid violation)) :
    ∃ result, config name schema value expected =
        ⟨[⟨.info, logger, "Invalid config for " ++ name ++ ": " ++ violation.text⟩], .ok result⟩ ∧
      result.messages = [(CheckError.ofViolation violation).describe] ∧
        ((CheckError.ofViolation violation).describe = violation.text ↔
          violation.trail = [] ∨ ∃ segment ∈ violation.trail, segment ≠ .name []) :=
  ⟨_, config_of_violation failed, rfl, CheckError.describe_eq_text_iff⟩

/-- Inside a field without a name, another name in the trail is enough for both texts to agree. -/
theorem shown_message_is_logged_below_nameless_field :
    let inner : Schema := .object .required [("size", .number .required []),
      ("", .number .optional [.positive])]
    let schema : Schema := .object .required [("", inner)]
    let value (size other : Value) : Value :=
      .object [(.text "", .object [(.text "size", size), (.text "", other)])]
    let violation (field : Text) : Violation :=
      .inField (.name "") (.inField (.name field)
        (.typeMismatch "Must be a number." "number" "string"))
    schema.parse (value (.text "x") .absent) = .error (.invalid (violation "size")) ∧
      (CheckError.ofViolation (violation "size")).describe = (violation "size").text ∧
      schema.parse (value (.int 1) (.text "x")) = .error (.invalid (violation "")) ∧
      (CheckError.ofViolation (violation "")).describe ≠ (violation "").text := by
  intro inner schema value violation
  have sizeFailed :
      schema.parse (value (.text "x") .absent) = .error (.invalid (violation "size")) := by cbv
  have otherFailed :
      schema.parse (value (.int 1) (.text "x")) = .error (.invalid (violation "")) := by cbv
  obtain ⟨_, _, _, agree⟩ := @shown_message_is_logged_iff _ _ _ "panel" [] sizeFailed
  obtain ⟨_, _, _, differ⟩ := @shown_message_is_logged_iff _ _ _ "panel" [] otherFailed
  refine ⟨sizeFailed, agree.mpr (.inr ⟨.name "size", ?_, by decide⟩), otherFailed,
    mt differ.mp ?_⟩
  · simp [violation, Violation.trail]
  · simp [violation, Violation.trail]

/-- The field without a name is in the logged text, as the empty name before the colon, and not in
the message of the result. -/
theorem nameless_field_shown_only_in_log :
    ∃ schema violation,
      Schema.object? [(.text "", .ofSchema (.number .required []))] = .ok schema ∧
        schema.parse (.object [(.text "", .text "x")]) = .error (.invalid violation) ∧
        violation.text = ": Must be a number." ∧
        (CheckError.ofViolation violation).describe = "Must be a number." :=
  ⟨_, .inField (.name "") (.typeMismatch "Must be a number." "number" "string"), rfl, by cbv,
    rfl, rfl⟩

/-- A schema whose own fields all have names shows what it logs, whatever the fields further inside
are called. -/
theorem describe_eq_text_of_named_fields (buildable : schema.Buildable custom)
    (named : ∀ presence fields, schema = .object presence fields → [] ∉ fields.map Prod.fst)
    (failed : schema.parse value = .error (.invalid violation)) :
    (CheckError.ofViolation violation).describe = violation.text := by
  obtain ⟨_, _, follows, _⟩ := buildable.regular.exists_failsHere_of_violation failed
  refine CheckError.describe_eq_text_iff.mpr ?_
  cases trail : violation.trail with
  | nil => exact .inl rfl
  | cons segment rest =>
      refine .inr ⟨segment, List.mem_cons_self, ?_⟩
      rintro rfl
      rw [trail, Schema.follow?] at follows
      split at follows
      case h_1 part content descends =>
          cases schema with
          | object presence fields =>
              obtain ⟨name, _, isName, _, found, _⟩ :=
                Schema.descend?_object_eq_some_iff.mp descends
              obtain ⟨before, after, rfl, _⟩ := List.lookup_eq_some_iff.mp found
              cases isName
              exact named presence _ rfl (by simp)
          | _ => cases descends
      case h_2 => cases follows

end Check

end ClosedShape
