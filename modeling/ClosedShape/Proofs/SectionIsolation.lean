import ClosedShape.Proofs.SectionAgreement

/-!
# Sections do not see each other

The result of a section depends on the keys of the document and on what the document holds under
the section's own name.  What stands in the other sections, good or bad, has no influence on it, and
none on which results there are.
-/

namespace ClosedShape

namespace Check

section Insertion

variable {α : Type} {entries others additions : List (Text × α)}

theorem map_fst_insertNamed {name : Text} {content : α} :
    (insertNamed entries name content).map Prod.fst =
      if name ∈ entries.map Prod.fst then entries.map Prod.fst
      else entries.map Prod.fst ++ [name] := by
  by_cases taken : name ∈ entries.map Prod.fst
  · rw [if_pos taken, map_fst_insertNamed_of_mem taken]
  · rw [if_neg taken, insertNamed_of_not_mem taken, List.map_append, List.map_cons, List.map_nil]

/-- Which names there are after insertions depends only on the names there were before. -/
theorem map_fst_insertAll (names : entries.map Prod.fst = others.map Prod.fst) :
    (insertAll entries additions).map Prod.fst = (insertAll others additions).map Prod.fst := by
  induction additions generalizing entries others with
  | nil => exact names
  | cons addition additions ih =>
      refine ih ?_
      rw [map_fst_insertNamed, map_fst_insertNamed, names]

end Insertion

variable {schemas : List (Text × Schema)} {left right : List (Value × Value)} {name : Text}

theorem undeclaredKeys_eq (keys : left.map Prod.fst = right.map Prod.fst) :
    undeclaredKeys schemas left = undeclaredKeys schemas right := by
  rw [undeclaredKeys, undeclaredKeys, keys]

/-- The label and the text of a key leave no choice for the result under it. -/
theorem undeclaredResults_unique {results others : Sections}
    (keys : left.map Prod.fst = right.map Prod.fst)
    (undeclared : UndeclaredResults schemas left results)
    (otherUndeclared : UndeclaredResults schemas right others) : results = others := by
  rw [UndeclaredResults, undeclaredKeys_eq keys] at undeclared
  refine Relator.RightUnique.forall₂ ?_ undeclared otherUndeclared
  rintro key first second ⟨labelled, shown, displayed, isResult⟩
    ⟨otherLabelled, otherShown, otherDisplayed, isOther⟩
  have labels : first.1 = second.1 := Except.ok.inj (labelled.symm.trans otherLabelled)
  have texts : shown = otherShown := Except.ok.inj (displayed.symm.trans otherDisplayed)
  have contents : first.2 = second.2 := by rw [isResult, isOther, labels, texts]
  exact Prod.ext labels contents

theorem lookup_declaredResults_eq {results others : Sections}
    (declared : DeclaredResults schemas left results)
    (otherDeclared : DeclaredResults schemas right others)
    (same : Value.lookupText left name = Value.lookupText right name) :
    results.lookup name = others.lookup name := by
  induction declared generalizing others with
  | nil =>
      cases otherDeclared
      rfl
  | @cons field result _ _ head _ ih =>
      cases otherDeclared with
      | @cons _ other _ _ otherHead rest =>
          obtain ⟨named, checked⟩ := head
          obtain ⟨otherNamed, otherChecked⟩ := otherHead
          rw [lookup_cons_eq_ite, lookup_cons_eq_ite, named, otherNamed, ih rest]
          by_cases own : name = field.1
          · rw [← own, same, own] at checked
            rw [if_pos own, if_pos own, Except.ok.inj (checked.symm.trans otherChecked)]
          · rw [if_neg own, if_neg own]

/-- Documents with the same keys give results under the same names, and those that hold the same
under the name of a section give the same result for it. -/
theorem section_result_ignores_siblings {flavour otherFlavour : MappingFlavour}
    (checkable : Checkable (.mapping flavour left) schemas)
    (otherCheckable : Checkable (.mapping otherFlavour right) schemas)
    (keys : left.map Prod.fst = right.map Prod.fst) (declared : name ∈ schemas.map Prod.fst)
    (same : Value.lookupText left name = Value.lookupText right name) :
    ∃ results others, (sections (.mapping flavour left) schemas).outcome = .ok results ∧
      (sections (.mapping otherFlavour right) schemas).outcome = .ok others ∧
      results.map Prod.fst = others.map Prod.fst ∧
      ∃ result, results.lookup name = some result ∧ others.lookup name = some result := by
  obtain ⟨own, undeclared, ownResults, undeclaredResults, outcome⟩ := exists_results checkable rfl
  obtain ⟨others, otherUndeclared, otherResults, otherUndeclaredResults, otherOutcome⟩ :=
    exists_results otherCheckable rfl
  obtain rfl := undeclaredResults_unique keys undeclaredResults otherUndeclaredResults
  have ownNames := names_of_declaredResults ownResults
  have otherNames := names_of_declaredResults otherResults
  have same := lookup_declaredResults_eq ownResults otherResults same
  have found : ((insertAll own undeclared).lookup name).isSome = true := by
    rw [← ownNames] at declared
    obtain ⟨entry, member, named⟩ := List.mem_map.mp declared
    rw [lookup_insertAll, List.lookup_isSome_iff]
    exact ⟨entry, List.mem_append_right _ member, by rw [named, beq_self_eq_true]⟩
  obtain ⟨result, isResult⟩ := Option.isSome_iff_exists.mp found
  refine ⟨_, _, outcome, otherOutcome, map_fst_insertAll (ownNames.trans otherNames.symm), result,
    isResult, ?_⟩
  rw [← isResult, lookup_insertAll, lookup_insertAll, List.lookup_append, List.lookup_append, same]

theorem section_result_ignores_failing_siblings :
    let apps : Schema := .array .required (.object .required
      [("bundleId", .text .required [.nonEmptyText])]) []
    let schemas : List (Text × Schema) :=
      [("size", .number .required [.positive]), ("apps", apps), ("title", .text .optional [])]
    let broken : Value := .list [.object [(.text "bundleId", .text "")]]
    let left := [(.text "size", .int 1), (.null, .null), (.text "apps", broken)]
    let right := [(.text "size", .text "big"), (.null, .list []), (.text "apps", broken)]
    ∃ results others, (sections (.object left) schemas).outcome = .ok results ∧
      (sections (.mapping .readOnly right) schemas).outcome = .ok others ∧
      results.map Prod.fst = others.map Prod.fst ∧
      ∃ result, results.lookup (Text.ofString "apps") = some result ∧
        others.lookup (Text.ofString "apps") = some result := by
  intro apps schemas broken left right
  have appsFailed : apps.parse broken = .error (.invalid (.inField (.index 0) (.inField
      (.name "bundleId") (.refinementFailure "Must be a non-empty string." "non_empty")))) := by cbv
  have titleParsed : (Schema.text .optional []).parse .absent = .ok .absent := by cbv
  have checkable (flavour : MappingFlavour) (size key : Value)
      (sizeAnswers : ∀ fault,
        (Schema.number .required [.positive]).parse size ≠ .error (.faulty fault)) :
      Checkable (.mapping flavour [(.text "size", size), (.null, key), (.text "apps", broken)])
        schemas := by
    refine ⟨?_, ?_⟩
    · rintro _ ⟨⟩ entry member
      obtain rfl | rfl | rfl : entry = _ ∨ entry = _ ∨ entry = _ := by simpa using member
      all_goals simp
    · rintro _ ⟨⟩
      simp only [schemas, List.forall_mem_cons, List.not_mem_nil, false_implies, implies_true,
        and_true]
      refine ⟨sizeAnswers, fun fault faulty => ?_, fun fault faulty => ?_⟩
      · cases appsFailed.symm.trans faulty
      · cases titleParsed.symm.trans faulty
  have leftCheckable := checkable .plain (.int 1) .null fun fault faulty => by
    have parsed : (Schema.number .required [.positive]).parse (.int 1) = .ok (.int 1) := by cbv
    cases parsed.symm.trans faulty
  have rightCheckable := checkable .readOnly (.text "big") (.list []) fun fault faulty => by
    have failed : (Schema.number .required [.positive]).parse (.text "big") = .error (.invalid
        (Schema.typeMismatch "Must be a number." "number" (.text "big"))) := by cbv
    cases failed.symm.trans faulty
  exact section_result_ignores_siblings leftCheckable rightCheckable rfl (by decide) rfl

end Check

end ClosedShape
