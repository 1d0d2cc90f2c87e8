import ClosedShape.Schema.Parse
import Mathlib.Data.List.Forall2

/-!
# How runs end

A run that is put together from others ends with a result exactly if every part does, and otherwise
with the failure of the first part that has one.  For each check that parsing consists of this file
says once when it succeeds and when it fails; later proofs use these statements and leave the
checks closed.
-/

namespace ClosedShape

/-- A list is split at its first element, or else at one of the others. -/
theorem exists_split_cons_iff {α : Type} {first : α} {rest : List α}
    {holds : List α → α → Prop} :
    (∃ before item after, first :: rest = before ++ item :: after ∧ holds before item) ↔
      holds [] first ∨
        ∃ before item after, rest = before ++ item :: after ∧ holds (first :: before) item := by
  constructor
  · rintro ⟨_ | ⟨head, before⟩, item, after, equal, held⟩
    · cases equal
      exact .inl held
    · cases equal
      exact .inr ⟨before, item, after, rfl, held⟩
  · rintro (held | ⟨before, item, after, rfl, held⟩)
    · exact ⟨[], first, rest, rfl, held⟩
    · exact ⟨first :: before, item, after, rfl, held⟩

section Related

variable {α β γ : Type} {related other : α → β → Prop} {items : List α} {results : List β}

theorem map_eq_map_of_forall₂ {left : α → γ} {right : β → γ}
    (all : List.Forall₂ related items results)
    (agree : ∀ item result, related item result → left item = right result) :
    items.map left = results.map right := by
  induction all with
  | nil => rfl
  | cons first _ ih => rw [List.map_cons, List.map_cons, agree _ _ first, ih]

theorem exists_related_of_mem (all : List.Forall₂ related items results) {result : β}
    (member : result ∈ results) : ∃ item ∈ items, related item result := by
  induction all with
  | nil => cases member
  | cons first _ ih =>
      rcases List.mem_cons.mp member with rfl | later
      · exact ⟨_, List.mem_cons_self, first⟩
      · obtain ⟨item, itemMember, holds⟩ := ih later
        exact ⟨item, List.mem_cons_of_mem _ itemMember, holds⟩

theorem forall₂_imp_of_mem (all : List.Forall₂ related items results)
    (imply : ∀ item ∈ items, ∀ result ∈ results, related item result → other item result) :
    List.Forall₂ other items results := by
  induction all with
  | nil => exact .nil
  | cons first _ ih =>
      refine .cons (imply _ (by simp) _ (by simp) first) (ih ?_)
      exact fun item itemMember result member =>
        imply item (by simp [itemMember]) result (by simp [member])

theorem exists_split_of_forall₂ {before after : List α} {item : α}
    (all : List.Forall₂ related (before ++ item :: after) results) :
    ∃ earlier result later, results = earlier ++ result :: later ∧
      List.Forall₂ related before earlier ∧ related item result := by
  induction before generalizing results with
  | nil =>
      obtain ⟨result, later, holds, _, rfl⟩ := List.forall₂_cons_left_iff.mp all
      exact ⟨[], result, later, rfl, .nil, holds⟩
  | cons first before ih =>
      obtain ⟨head, rest, holds, restHold, rfl⟩ := List.forall₂_cons_left_iff.mp all
      obtain ⟨earlier, result, later, rfl, earlierHold, itemHolds⟩ := ih restHold
      exact ⟨head :: earlier, result, later, rfl, .cons holds earlierHold, itemHolds⟩

theorem eq_map_of_forall₂ {another : α → γ → Prop} {make : γ → β} {others : List γ}
    (all : List.Forall₂ related items results) (allOthers : List.Forall₂ another items others)
    (agree : ∀ item result third, related item result → another item third → result = make third) :
    results = others.map make := by
  induction all generalizing others with
  | nil =>
      cases allOthers
      rfl
  | cons holds _ ih =>
      cases allOthers with
      | cons otherHolds rest => rw [List.map_cons, agree _ _ _ holds otherHolds, ih rest]

end Related

namespace Value

variable {entries : List (Value × Value)} {name : Text}

theorem mem_of_lookupText_ne_absent (given : lookupText entries name ≠ .absent) :
    (.text name, lookupText entries name) ∈ entries := by
  fun_induction lookupText entries name with
  | case1 => exact absurd rfl given
  | case2 value rest => exact List.mem_cons_self
  | case3 key value rest different ih => exact List.mem_cons_of_mem _ (ih given)
  | case4 first rest noText ih => exact List.mem_cons_of_mem _ (ih given)

theorem lookupText_of_mem {value : Value} (distinct : (entries.map Prod.fst).Nodup)
    (member : (.text name, value) ∈ entries) : lookupText entries name = value := by
  fun_induction lookupText entries name with
  | case1 => cases member
  | case2 first rest =>
      rcases List.mem_cons.mp member with same | later
      · exact (congrArg Prod.snd same).symm
      · exact absurd (List.mem_map_of_mem later) (List.nodup_cons.mp distinct).1
  | case3 key first rest different ih =>
      rcases List.mem_cons.mp member with same | later
      · exact absurd (Value.text.inj (congrArg Prod.fst same)).symm different
      · exact ih (List.nodup_cons.mp distinct).2 later
  | case4 first rest noText ih =>
      rcases List.mem_cons.mp member with same | later
      · exact absurd same.symm (noText name value)
      · exact ih (List.nodup_cons.mp distinct).2 later

end Value

namespace Run

variable {α β : Type}

@[simp]
theorem outcome_pure (result : α) : (pure result : Run α).outcome = .ok result :=
  rfl

@[simp]
theorem outcome_ofOutcome (outcome : Except Failure α) : (ofOutcome outcome).outcome = outcome :=
  rfl

@[simp]
theorem outcome_violate (violation : Violation) :
    (violate violation : Run α).outcome = .error (.invalid violation) :=
  rfl

theorem outcome_bind_eq_ok_iff {run : Run α} {next : α → Run β} {result : β} :
    (run >>= next).outcome = .ok result ↔
      ∃ middle, run.outcome = .ok middle ∧ (next middle).outcome = .ok result := by
  change (Run.bind run next).outcome = .ok result ↔ _
  cases ended : run.outcome <;> simp [Run.bind, ended]

theorem outcome_bind_eq_error_iff {run : Run α} {next : α → Run β} {failure : Failure} :
    (run >>= next).outcome = .error failure ↔
      run.outcome = .error failure ∨
        ∃ middle, run.outcome = .ok middle ∧ (next middle).outcome = .error failure := by
  change (Run.bind run next).outcome = .error failure ↔ _
  cases ended : run.outcome <;> simp [Run.bind, ended]

theorem outcome_inField_eq_ok_iff {segment : Segment} {run : Run α} {result : α} :
    (run.inField segment).outcome = .ok result ↔ run.outcome = .ok result := by
  cases ended : run.outcome <;> simp [Run.inField, ended, Except.mapError]

theorem outcome_inField_eq_error_iff {segment : Segment} {run : Run α} {failure : Failure} :
    (run.inField segment).outcome = .error failure ↔
      ∃ inner, run.outcome = .error inner ∧ failure = inner.inField segment := by
  cases ended : run.outcome <;> simp [Run.inField, ended, Except.mapError, eq_comm]

end Run

namespace Refinement

/-- A value satisfies a refinement if the check answers yes. -/
def Holds (refinement : Refinement) (value : Value) : Prop := refinement.check value = .ok true

theorem apply_eq_ok_iff {refinement : Refinement} {value result : Value} :
    refinement.apply value = .ok result ↔ refinement.Holds value ∧ result = value := by
  cases answered : refinement.check value with
  | error fault => simp [apply, Holds, answered]
  | ok truth => cases truth <;> simp [apply, Holds, answered, eq_comm]

theorem apply_eq_error_iff {refinement : Refinement} {value : Value} {failure : Failure} :
    refinement.apply value = .error failure ↔
      (∃ fault, refinement.check value = .error fault ∧ failure = .faulty fault) ∨
        refinement.check value = .ok false ∧
          failure = .invalid (.refinementFailure refinement.message refinement.name) := by
  cases answered : refinement.check value with
  | error fault => simp [apply, answered, eq_comm]
  | ok truth => cases truth <;> simp [apply, answered, eq_comm]

theorem applyAll_eq_ok_iff {refinements : List Refinement} {value result : Value} :
    applyAll refinements value = .ok result ↔
      (∀ refinement ∈ refinements, refinement.Holds value) ∧ result = value := by
  induction refinements with
  | nil => simp [applyAll, eq_comm]
  | cons refinement rest ih =>
      simp only [List.forall_mem_cons, and_assoc, ← ih]
      cases applied : refinement.apply value with
      | ok refined =>
          obtain ⟨holds, rfl⟩ := apply_eq_ok_iff.mp applied
          simp [applyAll, applied, holds]
      | error failure =>
          have notHolds : ¬ refinement.Holds value := fun holds => by
            simp [apply_eq_ok_iff.mpr ⟨holds, rfl⟩] at applied
          simp [applyAll, applied, notHolds]

/-- The first refinement that is not satisfied decides how applying all of them fails. -/
theorem applyAll_eq_error_iff {refinements : List Refinement} {value : Value}
    {failure : Failure} :
    applyAll refinements value = .error failure ↔
      ∃ before refinement after, refinements = before ++ refinement :: after ∧
        (∀ earlier ∈ before, earlier.Holds value) ∧
          refinement.apply value = .error failure := by
  induction refinements with
  | nil => simp [applyAll]
  | cons first rest ih =>
      rw [exists_split_cons_iff]
      cases applied : first.apply value with
      | ok refined =>
          obtain ⟨holds, rfl⟩ := apply_eq_ok_iff.mp applied
          simp [applyAll, applied, ih, holds]
      | error ownFailure =>
          have notHolds : ¬ first.Holds value := fun holds => by
            simp [apply_eq_ok_iff.mpr ⟨holds, rfl⟩] at applied
          simp [applyAll, applied, notHolds]

end Refinement

namespace Schema

/-- An optional value that was not provided.  Nothing is checked then. -/
def Omitted (presence : Presence) (value : Value) : Prop := presence = .optional ∧ value = .absent

theorem guardPresence_of_omitted {presence : Presence} {value : Value} {check : Run Value}
    (omitted : Omitted presence value) : guardPresence presence value check = pure .absent := by
  obtain ⟨rfl, rfl⟩ := omitted
  rfl

theorem guardPresence_of_not_omitted {presence : Presence} {value : Value} {check : Run Value}
    (provided : ¬ Omitted presence value) : guardPresence presence value check = check := by
  cases presence <;> cases value <;> first | rfl | exact absurd ⟨rfl, rfl⟩ provided

theorem outcome_guardPresence_eq_ok_iff {presence : Presence} {value result : Value}
    {check : Run Value} :
    (guardPresence presence value check).outcome = .ok result ↔
      Omitted presence value ∧ result = .absent ∨
        ¬ Omitted presence value ∧ check.outcome = .ok result := by
  by_cases omitted : Omitted presence value
  · simp [guardPresence_of_omitted omitted, omitted, eq_comm]
  · simp [guardPresence_of_not_omitted omitted, omitted]

theorem outcome_guardPresence_eq_error_iff {presence : Presence} {value : Value}
    {check : Run Value} {failure : Failure} :
    (guardPresence presence value check).outcome = .error failure ↔
      ¬ Omitted presence value ∧ check.outcome = .error failure := by
  by_cases omitted : Omitted presence value
  · simp [guardPresence_of_omitted omitted, omitted]
  · simp [guardPresence_of_not_omitted omitted, omitted]

section Items

variable {parse : Value → Run Value} {position : Nat}

theorem outcome_parseItems_eq_ok_iff {items narrowed : List Value} :
    (parseItems parse position items).outcome = .ok narrowed ↔
      List.Forall₂ (fun item result => (parse item).outcome = .ok result) items narrowed := by
  induction items generalizing position narrowed with
  | nil => simp [parseItems, eq_comm]
  | cons item items ih =>
      simp only [parseItems, Run.outcome_bind_eq_ok_iff, Run.outcome_inField_eq_ok_iff, ih,
        Run.outcome_pure, Except.ok.injEq, List.forall₂_cons_left_iff]
      constructor
      · rintro ⟨first, firstParsed, others, othersParsed, rfl⟩
        exact ⟨first, others, firstParsed, othersParsed, rfl⟩
      · rintro ⟨first, others, firstParsed, othersParsed, rfl⟩
        exact ⟨first, firstParsed, others, othersParsed, rfl⟩

/-- The first item that fails is wrapped in its place, and the items before it have succeeded. -/
theorem outcome_parseItems_eq_error_iff {items : List Value} {failure : Failure} :
    (parseItems parse position items).outcome = .error failure ↔
      ∃ before item after, items = before ++ item :: after ∧
        (∀ earlier ∈ before, ∃ result, (parse earlier).outcome = .ok result) ∧
          ∃ inner, (parse item).outcome = .error inner ∧
            failure = inner.inField (.index (position + before.length : Nat)) := by
  induction items generalizing position with
  | nil => simp [parseItems]
  | cons first items ih =>
      simp only [parseItems, Run.outcome_bind_eq_error_iff, Run.outcome_inField_eq_error_iff,
        Run.outcome_inField_eq_ok_iff, ih, Run.outcome_pure, reduceCtorEq, and_false, exists_false,
        or_false]
      rw [exists_split_cons_iff]
      simp only [List.not_mem_nil, false_implies, implies_true, true_and, List.forall_mem_cons,
        List.length_nil, List.length_cons, Nat.add_zero, Nat.add_assoc, Nat.add_comm 1,
        exists_and_right, exists_and_left, and_assoc, and_left_comm]

end Items

/-- A key that one of the fields is named by. -/
def Declares (fields : List (Text × Schema)) (key : Value) : Prop :=
  ∃ field ∈ fields, key = .text field.1

theorem declares_eq_true_iff {fields : List (Text × Schema)} {key : Value} :
    declares fields key = true ↔ Declares fields key := by
  cases key <;> simp [declares, Declares]

/-- The first key, in the order of the entries, that no field is named by. -/
def FirstUndeclared (fields : List (Text × Schema)) (entries : List (Value × Value))
    (key : Value) : Prop :=
  ∃ before value after, entries = before ++ (key, value) :: after ∧
    (∀ earlier ∈ before, Declares fields earlier.1) ∧ ¬ Declares fields key

theorem FirstUndeclared.mem {fields : List (Text × Schema)} {entries : List (Value × Value)}
    {key : Value} (first : FirstUndeclared fields entries key) :
    ∃ entry ∈ entries, entry.1 = key := by
  obtain ⟨before, value, after, rfl, _⟩ := first
  exact ⟨(key, value), by simp, rfl⟩

/-- How an undeclared key is answered: with a violation that shows the key, or with the fault of
showing it. -/
def undeclaredFailure (key : Value) : Failure :=
  match key.display with
  | .ok shown => .invalid (.unexpectedKey key shown)
  | .error fault => .faulty fault

section UndeclaredKeys

variable {fields : List (Text × Schema)} {entries : List (Value × Value)}

theorem firstUndeclared_iff_find? {key : Value} :
    FirstUndeclared fields entries key ↔
      ∃ value, (entries.find? fun entry => !declares fields entry.1) = some (key, value) := by
  simp only [List.find?_eq_some_iff_append, Bool.not_eq_true', ← Bool.not_eq_true,
    declares_eq_true_iff, not_not]
  constructor
  · rintro ⟨before, value, after, equal, declared, undeclared⟩
    exact ⟨value, undeclared, before, after, equal, declared⟩
  · rintro ⟨value, undeclared, before, after, equal, declared⟩
    exact ⟨before, value, after, equal, declared, undeclared⟩

theorem forall_declares_iff_find? :
    (∀ entry ∈ entries, Declares fields entry.1) ↔
      (entries.find? fun entry => !declares fields entry.1) = none := by
  simp only [List.find?_eq_none, Bool.not_eq_true', Bool.not_eq_false, declares_eq_true_iff]

theorem outcome_rejectUndeclared :
    (rejectUndeclared fields entries).outcome =
      match entries.find? fun entry => !declares fields entry.1 with
      | none => .ok ()
      | some entry => .error (undeclaredFailure entry.1) := by
  unfold rejectUndeclared undeclaredFailure Violation.ofUnexpectedKey
  cases entries.find? fun entry => !declares fields entry.1 with
  | none => rfl
  | some entry =>
      obtain ⟨key, value⟩ := entry
      cases shown : key.display <;> simp [shown, bind, Except.bind, pure, Except.pure]

theorem outcome_rejectUndeclared_eq_ok_iff {result : Unit} :
    (rejectUndeclared fields entries).outcome = .ok result ↔
      ∀ entry ∈ entries, Declares fields entry.1 := by
  rw [outcome_rejectUndeclared, forall_declares_iff_find?]
  cases entries.find? fun entry => !declares fields entry.1 <;> simp

theorem outcome_rejectUndeclared_eq_error_iff {failure : Failure} :
    (rejectUndeclared fields entries).outcome = .error failure ↔
      ∃ key, FirstUndeclared fields entries key ∧ failure = undeclaredFailure key := by
  simp only [outcome_rejectUndeclared, firstUndeclared_iff_find?]
  cases entries.find? fun entry => !declares fields entry.1 with
  | none => simp
  | some entry =>
      obtain ⟨key, value⟩ := entry
      simp [eq_comm]

end UndeclaredKeys

section Fields

variable {fields : List (Text × Schema)} {entries : List (Value × Value)}

theorem outcome_runFields_eq_ok_iff {narrowed : List (Value × Value)} :
    (runFields fields entries).outcome = .ok narrowed ↔
      List.Forall₂ (fun field entry => entry.1 = .text field.1 ∧
        field.2.parse (Value.lookupText entries field.1) = .ok entry.2) fields narrowed := by
  induction fields generalizing narrowed with
  | nil => simp [runFields, eq_comm]
  | cons field fields ih =>
      simp only [runFields, Run.outcome_bind_eq_ok_iff, Run.outcome_inField_eq_ok_iff, ih,
        Run.outcome_pure, Except.ok.injEq, List.forall₂_cons_left_iff]
      constructor
      · rintro ⟨first, firstParsed, others, othersParsed, rfl⟩
        exact ⟨(.text field.1, first), others, ⟨rfl, firstParsed⟩, othersParsed, rfl⟩
      · rintro ⟨⟨name, first⟩, others, ⟨rfl, firstParsed⟩, othersParsed, rfl⟩
        exact ⟨first, firstParsed, others, othersParsed, rfl⟩

theorem fields_parse_of_forall₂ {narrowed : List (Value × Value)}
    (parsed : List.Forall₂ (fun field entry => entry.1 = .text field.1 ∧
      field.2.parse (Value.lookupText entries field.1) = .ok entry.2) fields narrowed) :
    ∀ field ∈ fields, ∃ part,
      field.2.parse (Value.lookupText entries field.1) = .ok part := by
  intro field member
  obtain ⟨entry, _, _, fieldParsed⟩ := exists_related_of_mem parsed.flip member
  exact ⟨entry.2, fieldParsed⟩

/-- The first field that fails is wrapped in its name, and the fields before it have succeeded. -/
theorem outcome_runFields_eq_error_iff {failure : Failure} :
    (runFields fields entries).outcome = .error failure ↔
      ∃ before field after, fields = before ++ field :: after ∧
        (∀ earlier ∈ before, ∃ result,
          earlier.2.parse (Value.lookupText entries earlier.1) = .ok result) ∧
          ∃ inner, field.2.parse (Value.lookupText entries field.1) = .error inner ∧
            failure = inner.inField (.name field.1) := by
  induction fields with
  | nil => simp [runFields]
  | cons first fields ih =>
      simp only [runFields, Run.outcome_bind_eq_error_iff, Run.outcome_inField_eq_error_iff,
        Run.outcome_inField_eq_ok_iff, ih, Run.outcome_pure, reduceCtorEq, and_false, exists_false,
        or_false]
      rw [exists_split_cons_iff]
      simp only [List.not_mem_nil, false_implies, implies_true, true_and, List.forall_mem_cons,
        exists_and_right, exists_and_left, and_assoc, and_left_comm, parse]

end Fields

end Schema

end ClosedShape
