import ClosedShape.Proofs.ParseOutcome
import ClosedShape.Proofs.SectionLabels

/-!
# Checking section by section

A document can be checked section by section, which finds something wrong in every section that
has it, or as one closed object of these sections, which stops at the first failure.  Both say the
same about the document: they accept the same values and narrow them alike, and a failure of the
whole is found among the results of the sections.
-/

namespace ClosedShape

namespace Check

variable {document : Value} {schemas : List (Text × Schema)} {entries : List (Value × Value)}

/-- No key of the document holds a long integer, and no section is checked with a fault. -/
structure Checkable (document : Value) (schemas : List (Text × Schema)) : Prop where
  short : ∀ entries, document.mappingEntries? = some entries →
    ∀ entry ∈ entries, ¬ entry.1.HoldsLongInteger
  sound : ∀ entries, document.mappingEntries? = some entries → ∀ field ∈ schemas, ∀ fault,
    field.2.parse (Value.lookupText entries field.1) ≠ .error (.faulty fault)

theorem exists_results (checkable : Checkable document schemas)
    (object : document.mappingEntries? = some entries) :
    ∃ declared undeclared, DeclaredResults schemas entries declared ∧
      UndeclaredResults schemas entries undeclared ∧
        (sections document schemas).outcome = .ok (insertAll declared undeclared) := by
  obtain ⟨declared, declaredResults, declaredOutcome⟩ :=
    exists_declaredResults (checkable.sound entries object)
  obtain ⟨undeclared, undeclaredResults, undeclaredOutcome⟩ :=
    @exists_undeclaredResults schemas entries declared (checkable.short entries object)
  refine ⟨declared, undeclared, declaredResults, undeclaredResults, ?_⟩
  simp only [sections, object, Logged.outcome_bind, declaredOutcome, Except.bind,
    undeclaredOutcome]

theorem exists_declaredResults_eq_sections (checkable : Checkable document schemas)
    (object : document.mappingEntries? = some entries)
    (allDeclared : ∀ entry ∈ entries, Schema.Declares schemas entry.1) :
    ∃ declared, DeclaredResults schemas entries declared ∧
      (sections document schemas).outcome = .ok declared := by
  obtain ⟨declared, undeclared, declaredResults, undeclaredResults, outcome⟩ :=
    exists_results checkable object
  have noKeys : undeclaredKeys schemas entries = [] := by
    simpa [undeclaredKeys, Schema.declares_eq_true_iff] using allDeclared
  rw [UndeclaredResults, noKeys, List.forall₂_nil_left_iff] at undeclaredResults
  rw [undeclaredResults] at outcome
  exact ⟨declared, declaredResults, outcome⟩

theorem names_of_declaredResults {declared : Sections}
    (declaredResults : DeclaredResults schemas entries declared) :
    declared.map Prod.fst = schemas.map Prod.fst :=
  (map_eq_map_of_forall₂ declaredResults fun _ _ holds => holds.1.symm).symm

theorem ok_of_fields_parse {declared : Sections} {fields : List (Text × Schema)}
    (declaredResults : DeclaredResults fields entries declared)
    (parse : ∀ field ∈ fields, ∃ narrowed,
      field.2.parse (Value.lookupText entries field.1) = .ok narrowed) :
    ∀ result ∈ declared, result.2.ok = true := by
  rintro ⟨name, result⟩ member
  obtain ⟨field, fieldMember, _, checked⟩ := exists_related_of_mem declaredResults member
  obtain ⟨narrowed, parsed⟩ := parse field fieldMember
  have success : result = .success field.1 narrowed := result_of_parse_ok checked parsed
  rw [success]
  rfl

/-- How the results of the sections go with what the closed object of these sections answers. -/
inductive Agrees (schemas : List (Text × Schema)) : Except Failure Value → Sections → Prop
  /-- Every section is checked well, and the narrowed value has their values in order. -/
  | accepted {results : Sections} (names : results.map Prod.fst = schemas.map Prod.fst)
      (succeeded : ∀ result ∈ results, result.2.ok = true) :
      Agrees schemas (.ok (.object (results.map fun result => (.text result.1, result.2.value))))
        results
  /-- The first section that fails is the field that failed, for the same reason. -/
  | inSection {before after : Sections} {name : Text} {result : CheckResult} {cause : Violation}
      (names : (before ++ (name, result) :: after).map Prod.fst = schemas.map Prod.fst)
      (succeeded : ∀ earlier ∈ before, earlier.2.ok = true) (failed : result.ok = false)
      (error : result.errors = [⟨cause.code, cause.message, cause.trailText⟩]) :
      Agrees schemas (.error (.invalid (.inField (.name name) cause)))
        (before ++ (name, result) :: after)
  | unexpectedKey {results : Sections} {key : Value} {shown : Text}
      (failed : ∃ result ∈ results, result.2.ok = false ∧
        result.2.errors.map CheckError.code = [.ofString "UNEXPECTED_KEY"]) :
      Agrees schemas (.error (.invalid (.unexpectedKey key shown))) results
  | notMapping {result : CheckResult} {message : Text} {expected received : String}
      (failed : result.ok = false) :
      Agrees schemas (.error (.invalid (.typeMismatch message expected received)))
        [("<document>", result)]

theorem Agrees.all_ok_iff {outcome : Except Failure Value} {results : Sections}
    (agrees : Agrees schemas outcome results) :
    (∀ result ∈ results, result.2.ok = true) ↔ ∃ narrowed, outcome = .ok narrowed := by
  cases agrees with
  | accepted _ succeeded => exact iff_of_true succeeded ⟨_, rfl⟩
  | inSection _ _ failed =>
      refine iff_of_false (fun allOk => ?_) (by simp)
      have isOk := allOk _ (List.mem_append_right _ List.mem_cons_self)
      exact Bool.false_ne_true (failed.symm.trans isOk)
  | unexpectedKey failed =>
      refine iff_of_false (fun allOk => ?_) (by simp)
      obtain ⟨result, member, notOk, _⟩ := failed
      exact Bool.false_ne_true (notOk.symm.trans (allOk result member))
  | notMapping failed =>
      refine iff_of_false (fun allOk => ?_) (by simp)
      exact Bool.false_ne_true (failed.symm.trans (allOk _ List.mem_cons_self))

theorem agrees_of_fields_parse (checkable : Checkable document schemas)
    (object : document.mappingEntries? = some entries)
    (allDeclared : ∀ entry ∈ entries, Schema.Declares schemas entry.1)
    {narrowed : List (Value × Value)}
    (parsed : List.Forall₂ (fun field entry => entry.1 = .text field.1 ∧
      field.2.parse (Value.lookupText entries field.1) = .ok entry.2) schemas narrowed) :
    ∃ results, (sections document schemas).outcome = .ok results ∧
      Agrees schemas (.ok (.object narrowed)) results := by
  obtain ⟨declared, declaredResults, outcome⟩ :=
    exists_declaredResults_eq_sections checkable object allDeclared
  have fieldsParse := Schema.fields_parse_of_forall₂ parsed
  have values : narrowed = declared.map fun result => (.text result.1, result.2.value) := by
    refine eq_map_of_forall₂ parsed declaredResults ?_
    rintro field ⟨key, part⟩ ⟨name, result⟩ ⟨rfl, fieldParsed⟩ ⟨rfl, checked⟩
    have success : result = .success field.1 part := result_of_parse_ok checked fieldParsed
    rw [success]
    rfl
  rw [values]
  exact ⟨declared, outcome, .accepted (names_of_declaredResults declaredResults)
    (ok_of_fields_parse declaredResults fieldsParse)⟩

theorem agrees_of_field_fails (checkable : Checkable document schemas)
    (object : document.mappingEntries? = some entries)
    (allDeclared : ∀ entry ∈ entries, Schema.Declares schemas entry.1)
    {fieldsBefore fieldsAfter : List (Text × Schema)} {field : Text × Schema}
    (split : schemas = fieldsBefore ++ field :: fieldsAfter)
    (earlierParse : ∀ earlier ∈ fieldsBefore, ∃ part,
      earlier.2.parse (Value.lookupText entries earlier.1) = .ok part) {cause : Violation}
    (fieldFailed : field.2.parse (Value.lookupText entries field.1) = .error (.invalid cause)) :
    ∃ results, (sections document schemas).outcome = .ok results ∧
      Agrees schemas (.error (.invalid (.inField (.name field.1) cause))) results := by
  obtain ⟨declared, declaredResults, outcome⟩ :=
    exists_declaredResults_eq_sections checkable object allDeclared
  have names := names_of_declaredResults declaredResults
  rw [DeclaredResults, split] at declaredResults
  obtain ⟨before, ⟨name, result⟩, after, rfl, beforeResults, rfl, checked⟩ :=
    exists_split_of_forall₂ declaredResults
  have failure : result = .failure field.1 (.ofViolation cause) :=
    result_of_violation checked fieldFailed
  refine ⟨_, outcome, .inSection names (ok_of_fields_parse beforeResults earlierParse) ?_ ?_⟩
  · rw [failure]
    rfl
  · rw [failure]
    rfl

/-- The last key that is not declared keeps its result, whatever the labels are. -/
theorem exists_unexpectedKey_of_insertAll {declared undeclared : Sections}
    (undeclaredResults : UndeclaredResults schemas entries undeclared)
    (someKey : undeclaredKeys schemas entries ≠ []) :
    ∃ result ∈ insertAll declared undeclared, result.2.ok = false ∧
      result.2.errors.map CheckError.code = [.ofString "UNEXPECTED_KEY"] := by
  rcases List.eq_nil_or_concat undeclared with rfl | ⟨earlier, last, equal⟩
  · exact absurd (List.forall₂_nil_right_iff.mp undeclaredResults) someKey
  · obtain rfl : undeclared = earlier ++ [last] := equal.trans List.concat_eq_append
    have found : (insertAll declared (earlier ++ [last])).lookup last.1 = some last.2 := by
      rw [lookup_insertAll, List.reverse_concat, List.cons_append, lookup_cons_eq_ite, if_pos rfl]
    obtain ⟨before, after, split, _⟩ := List.lookup_eq_some_iff.mp found
    have member : last ∈ insertAll declared (earlier ++ [last]) := by simp [split]
    obtain ⟨key, _, _, shown, _, result⟩ :=
      exists_related_of_mem undeclaredResults (List.mem_append_right earlier List.mem_cons_self)
    refine ⟨last, member, ?_, ?_⟩
    · rw [result]
      rfl
    · rw [result]
      rfl

theorem agrees_of_undeclared (checkable : Checkable document schemas)
    (object : document.mappingEntries? = some entries) {key : Value}
    (first : Schema.FirstUndeclared schemas entries key) :
    ∃ results, (sections document schemas).outcome = .ok results ∧
      Agrees schemas (.error (Schema.undeclaredFailure key)) results := by
  obtain ⟨declared, undeclared, _, undeclaredResults, outcome⟩ := exists_results checkable object
  obtain ⟨before, value, after, split, _, notDeclared⟩ := first
  have member : (key, value) ∈ entries := by simp [split]
  have someKey : undeclaredKeys schemas entries ≠ [] := by
    refine List.ne_nil_of_mem (List.mem_filter.mpr ⟨List.mem_map_of_mem member, ?_⟩)
    simpa [← Schema.declares_eq_true_iff] using notDeclared
  obtain ⟨shown, displayed⟩ : ∃ shown, key.display = .ok shown :=
    (Value.display_tooLongIff key).exists_ok_iff.mpr (checkable.short entries object _ member)
  have failure : Schema.undeclaredFailure key = .invalid (.unexpectedKey key shown) := by
    rw [Schema.undeclaredFailure, displayed]
  rw [failure]
  exact ⟨_, outcome, .unexpectedKey (exists_unexpectedKey_of_insertAll undeclaredResults someKey)⟩

theorem agrees_of_not_mapping (other : document.mappingEntries? = none) :
    ∃ results, (sections document schemas).outcome = .ok results ∧ Agrees schemas
      (.error (.invalid (Schema.typeMismatch "Must be an object." "object" document))) results := by
  have outcome : (sections document schemas).outcome = .ok [("<document>",
      .failure "<document>" ⟨"TYPE_MISMATCH", "Must be an object, got " ++ document.kindName ++ ".",
        ""⟩)] := by
    rw [sections, other]
    rfl
  exact ⟨_, outcome, .notMapping rfl⟩

/-- Checking section by section returns, its results agree with the answer of the closed object, and
all of them are good exactly if the object accepts the document. -/
theorem sections_agree_with_closed_object (checkable : Checkable document schemas) :
    ∃ results, (sections document schemas).outcome = .ok results ∧
      Agrees schemas ((Schema.object .required schemas).parse document) results ∧
      ((∀ result ∈ results, result.2.ok = true) ↔
        ∃ narrowed, (Schema.object .required schemas).parse document = .ok narrowed) := by
  suffices agreeing : ∃ results, (sections document schemas).outcome = .ok results ∧
      Agrees schemas ((Schema.object .required schemas).parse document) results by
    obtain ⟨results, outcome, agrees⟩ := agreeing
    exact ⟨results, outcome, agrees, agrees.all_ok_iff⟩
  cases ended : (Schema.object .required schemas).parse document with
  | ok narrowed =>
      obtain ⟨⟨⟨⟩, _⟩, _⟩ | ⟨_, entries, parts, object, allDeclared, parsed, rfl⟩ :=
        Schema.parse_object_eq_ok_iff.mp ended
      exact agrees_of_fields_parse checkable object allDeclared parsed
  | error failure =>
      obtain ⟨_, ⟨other, rfl⟩ | ⟨entries, object, ⟨key, first, rfl⟩ | ⟨allDeclared, before, field,
        after, split, earlierParse, inner, fieldFailed, rfl⟩⟩⟩ :=
        Schema.parse_object_eq_error_iff.mp ended
      · exact agrees_of_not_mapping other
      · exact agrees_of_undeclared checkable object first
      · cases inner with
        | faulty fault =>
            have member : field ∈ schemas := by simp [split]
            exact absurd fieldFailed (checkable.sound entries object field member fault)
        | invalid cause =>
            exact agrees_of_field_fails checkable object allDeclared split earlierParse fieldFailed

theorem sections_agree_where_second_section_fails :
    let schemas : List (Text × Schema) := [("size", .number .required [.positive]),
      ("apps", .array .required (.object .required
        [("bundleId", .text .required [.nonEmptyText])]) []), ("title", .text .required [])]
    let document : Value := .object [(.text "title", .null),
      (.text "apps", .list [.object [(.text "bundleId", .text "")]]), (.text "size", .int 1)]
    let cause : Violation := .inField (.index 0) (.inField (.name "bundleId")
      (.refinementFailure "Must be a non-empty string." "non_empty"))
    (Schema.object .required schemas).parse document =
        .error (.invalid (.inField (.name "apps") cause)) ∧
      ∃ results, (sections document schemas).outcome = .ok results ∧
        Agrees schemas (.error (.invalid (.inField (.name "apps") cause))) results := by
  intro schemas document cause
  have failed : (Schema.object .required schemas).parse document =
      .error (.invalid (.inField (.name "apps") cause)) := by cbv
  have size : (Schema.number .required [.positive]).parse (.int 1) = .ok (.int 1) := by cbv
  have apps : (Schema.array .required (.object .required
      [("bundleId", .text .required [.nonEmptyText])]) []).parse
        (.list [.object [(.text "bundleId", .text "")]]) = .error (.invalid cause) := by cbv
  have title : (Schema.text .required []).parse .null =
      .error (.invalid (Schema.typeMismatch "Must be a string." "string" .null)) := by cbv
  have checkable : Checkable document schemas := by
    refine ⟨?_, ?_⟩
    · rintro _ ⟨⟩ entry member
      obtain rfl | rfl | rfl : entry = _ ∨ entry = _ ∨ entry = _ := by simpa using member
      all_goals simp
    · rintro _ ⟨⟩
      simp only [schemas, List.forall_mem_cons, List.not_mem_nil, false_implies, implies_true,
        and_true]
      refine ⟨fun fault faulty => ?_, fun fault faulty => ?_, fun fault faulty => ?_⟩
      · cases size.symm.trans faulty
      · cases apps.symm.trans faulty
      · cases title.symm.trans faulty
  obtain ⟨results, outcome, agrees, _⟩ := sections_agree_with_closed_object checkable
  rw [failed] at agrees
  exact ⟨failed, results, outcome, agrees⟩

end Check

end ClosedShape
