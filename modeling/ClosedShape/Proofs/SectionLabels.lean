import ClosedShape.Proofs.CheckOutcome
import ClosedShape.Proofs.RunOutcome
import ClosedShape.Proofs.ValueText
import ClosedShape.Value.Keyed
import Mathlib.Data.List.Nodup
import Mathlib.Data.List.Pairwise

/-!
# The labels of sections

Checking a document gives results under names: those of the declared sections, and labels for the
keys that no section declares.  A label that is taken already overwrites the result under it.  This
file describes the results of a document and says exactly which labels lose none of them.
-/

namespace ClosedShape

namespace Check

section Insertion

variable {α : Type} {entries : List (Text × α)} {name label : Text} {content : α}

theorem insertNamed_of_not_mem (fresh : name ∉ entries.map Prod.fst) :
    insertNamed entries name content = entries ++ [(name, content)] := by
  induction entries with
  | nil => rfl
  | cons entry entries ih =>
      obtain ⟨differs, fresh⟩ : name ≠ entry.1 ∧ name ∉ entries.map Prod.fst := by
        simpa using fresh
      rw [insertNamed, if_neg differs.symm, ih fresh, List.cons_append]

theorem map_fst_insertNamed_of_mem (taken : name ∈ entries.map Prod.fst) :
    (insertNamed entries name content).map Prod.fst = entries.map Prod.fst := by
  induction entries with
  | nil => cases taken
  | cons entry entries ih =>
      rw [insertNamed]
      by_cases same : entry.1 = name
      · rw [if_pos same, List.map_cons, List.map_cons]
      · have later : name ∈ entries.map Prod.fst := by
          simpa [Ne.symm same] using taken
        rw [if_neg same, List.map_cons, List.map_cons, ih later]

theorem length_insertNamed_of_mem (taken : name ∈ entries.map Prod.fst) :
    (insertNamed entries name content).length = entries.length := by
  have lengths := congrArg List.length (@map_fst_insertNamed_of_mem _ _ _ content taken)
  simpa only [List.length_map] using lengths

theorem nodup_insertNamed (distinct : (entries.map Prod.fst).Nodup) :
    ((insertNamed entries name content).map Prod.fst).Nodup := by
  by_cases taken : name ∈ entries.map Prod.fst
  · rwa [map_fst_insertNamed_of_mem taken]
  · rw [insertNamed_of_not_mem taken, List.map_append]
    refine List.nodup_append.mpr ⟨distinct, List.nodup_singleton name, ?_⟩
    intro other member added isAdded equal
    obtain rfl := List.mem_singleton.mp isAdded
    exact taken (equal ▸ member)

theorem lookup_cons_eq_ite {κ : Type} [BEq κ] [LawfulBEq κ] [DecidableEq κ] {entry : κ × α}
    {entries : List (κ × α)} {label : κ} : (entry :: entries).lookup label =
      if label = entry.1 then some entry.2 else entries.lookup label := by
  by_cases same : label = entry.1
  · rw [List.lookup_cons, if_pos same, same, beq_self_eq_true]
  · rw [List.lookup_cons, if_neg same, beq_eq_false_iff_ne.mpr same]

theorem lookup_insertNamed :
    (insertNamed entries name content).lookup label =
      if label = name then some content else entries.lookup label := by
  induction entries with
  | nil => rw [insertNamed, lookup_cons_eq_ite]
  | cons entry entries ih =>
      rw [insertNamed, lookup_cons_eq_ite]
      by_cases found : entry.1 = name
      · rw [if_pos found, lookup_cons_eq_ite, found]
        by_cases same : label = name
        · rw [if_pos same, if_pos same]
        · rw [if_neg same, if_neg same, if_neg same]
      · rw [if_neg found, lookup_cons_eq_ite, ih]
        by_cases same : label = entry.1
        · rw [if_pos same, if_neg (same ▸ found), if_pos same]
        · rw [if_neg same, if_neg same]

/-- Inserts entries one after the other. -/
def insertAll (entries additions : List (Text × α)) : List (Text × α) :=
  additions.foldl (fun built addition => insertNamed built addition.1 addition.2) entries

variable {additions : List (Text × α)}

theorem nodup_insertAll (distinct : (entries.map Prod.fst).Nodup) :
    ((insertAll entries additions).map Prod.fst).Nodup := by
  induction additions generalizing entries with
  | nil => exact distinct
  | cons addition additions ih => exact ih (nodup_insertNamed distinct)

/-- What was inserted last is found. -/
theorem lookup_insertAll :
    (insertAll entries additions).lookup label =
      (additions.reverse ++ entries).lookup label := by
  induction additions generalizing entries with
  | nil => rfl
  | cons addition additions ih =>
      change (insertAll (insertNamed entries addition.1 addition.2) additions).lookup label = _
      rw [ih, List.lookup_append, lookup_insertNamed, List.reverse_cons, List.append_assoc,
        List.lookup_append, List.cons_append, List.nil_append, lookup_cons_eq_ite]

theorem insertAll_of_nodup (distinct : ((entries ++ additions).map Prod.fst).Nodup) :
    insertAll entries additions = entries ++ additions := by
  induction additions generalizing entries with
  | nil => simp [insertAll]
  | cons addition additions ih =>
      have fresh : addition.1 ∉ entries.map Prod.fst := by
        intro taken
        rw [List.map_append, List.nodup_append] at distinct
        exact distinct.2.2 _ taken _ (by simp) rfl
      change insertAll (insertNamed entries addition.1 addition.2) additions = _
      rw [insertNamed_of_not_mem fresh, ih (by simpa using distinct)]
      simp

theorem length_insertAll_le : (insertAll entries additions).length ≤
    entries.length + additions.length := by
  induction additions generalizing entries with
  | nil => simp [insertAll]
  | cons addition additions ih =>
      have step : (insertNamed entries addition.1 addition.2).length ≤ entries.length + 1 := by
        by_cases taken : addition.1 ∈ entries.map Prod.fst
        · simp [length_insertNamed_of_mem taken]
        · simp [insertNamed_of_not_mem taken]
      have rest := @ih (insertNamed entries addition.1 addition.2)
      change (insertAll (insertNamed entries addition.1 addition.2) additions).length ≤ _
      rw [List.length_cons]
      omega

/-- Every entry is kept as long as no name is inserted twice, and only then. -/
theorem length_insertAll_eq_iff (distinct : (entries.map Prod.fst).Nodup) :
    (insertAll entries additions).length = entries.length + additions.length ↔
      ((entries ++ additions).map Prod.fst).Nodup := by
  constructor
  · intro kept
    induction additions generalizing entries with
    | nil => simpa using distinct
    | cons addition additions ih =>
        have bound := @length_insertAll_le _ (insertNamed entries addition.1 addition.2) additions
        change (insertAll (insertNamed entries addition.1 addition.2) additions).length = _ at kept
        by_cases taken : addition.1 ∈ entries.map Prod.fst
        · rw [kept, length_insertNamed_of_mem taken, List.length_cons] at bound
          omega
        · have distinctInserted := @nodup_insertNamed _ _ addition.1 addition.2 distinct
          rw [insertNamed_of_not_mem taken] at kept distinctInserted
          have rest := ih distinctInserted (by
            rw [kept, List.length_append, List.length_singleton, List.length_cons]
            omega)
          simpa using rest
  · intro apart
    rw [insertAll_of_nodup apart, List.length_append]

end Insertion

section Labels

variable {schemas : List (Text × Schema)} {entries : List (Value × Value)}

/-- A key that is not a text, with its label. -/
def Bracketed (key : Value) (label : Text) : Prop :=
  (∀ name, key ≠ .text name) ∧ ∃ shown, key.source = .ok shown ∧ label = "[" ++ shown ++ "]"

@[simp]
theorem not_bracketed_text {name label : Text} : ¬ Bracketed (.text name) label :=
  fun bracketed => bracketed.1 name rfl

theorem bracketed_null_iff {label : Text} : Bracketed .null label ↔ label = "[None]" := by
  simp [Bracketed, Value.source, Text.ofString]

/-- No label of a key that is not a text is also a declared name, a text key of the document or the
label of another key. -/
structure LabelsApart (schemas : List (Text × Schema)) (entries : List (Value × Value)) :
    Prop where
  fromNames : ∀ entry ∈ entries, ∀ label, Bracketed entry.1 label → label ∉ schemas.map Prod.fst
  fromTexts : ∀ entry ∈ entries, ∀ label, Bracketed entry.1 label →
    ∀ other ∈ entries, other.1 ≠ .text label
  fromEachOther : entries.Pairwise fun first second =>
    ∀ label, Bracketed first.1 label → ¬ Bracketed second.1 label

/-- The keys of a document that no section declares, in their order. -/
def undeclaredKeys (schemas : List (Text × Schema)) (entries : List (Value × Value)) :
    List Value :=
  (entries.map Prod.fst).filter fun key => !Schema.declares schemas key

/-- The results of the declared sections, each checked against its entry in the document. -/
def DeclaredResults (schemas : List (Text × Schema)) (entries : List (Value × Value)) :
    Sections → Prop :=
  List.Forall₂ (fun field result => result.1 = field.1 ∧
    (config field.1 field.2 (Value.lookupText entries field.1) []).outcome = .ok result.2) schemas

/-- The failed result of a key that no section declares. -/
def undeclaredResult (label shown : Text) : CheckResult :=
  .failure label ⟨"UNEXPECTED_KEY", "Unexpected key found: " ++ shown, ""⟩

/-- The failed results of the undeclared keys, each with the text of its key. -/
def UndeclaredResults (schemas : List (Text × Schema)) (entries : List (Value × Value)) :
    Sections → Prop :=
  List.Forall₂ (fun key result => keyLabel key = .ok result.1 ∧
    ∃ shown, key.display = .ok shown ∧ result.2 = undeclaredResult result.1 shown)
    (undeclaredKeys schemas entries)

theorem exists_declaredResults
    (sound : ∀ field ∈ schemas, ∀ fault,
      field.2.parse (Value.lookupText entries field.1) ≠ .error (.faulty fault)) :
    ∃ declared, DeclaredResults schemas entries declared ∧
      (declaredSections entries schemas).outcome = .ok declared := by
  induction schemas with
  | nil => exact ⟨[], .nil, rfl⟩
  | cons field schemas ih =>
      obtain ⟨name, schema⟩ := field
      obtain ⟨result, checked⟩ :=
        exists_outcome_config_eq_ok_iff.mpr (sound (name, schema) (by simp))
      obtain ⟨declared, results, outcome⟩ := ih fun other member => sound other (by simp [member])
      refine ⟨(name, result) :: declared, .cons ⟨rfl, checked⟩ results, ?_⟩
      simp [declaredSections, Logged.outcome_bind, checked, outcome, Except.bind]

theorem keyLabel_of_not_text {key : Value} (noText : ∀ name, key ≠ .text name) :
    keyLabel key = key.source.map fun shown => "[" ++ Text.ofString shown ++ "]" := by
  cases key with
  | text name => exact absurd rfl (noText name)
  | _ => exact bind_pure_comp ..

theorem keyLabel_eq_ok_iff {key : Value} {label : Text} :
    keyLabel key = .ok label ↔ key = .text label ∨ Bracketed key label := by
  by_cases isText : ∃ name, key = .text name
  · obtain ⟨name, rfl⟩ := isText
    simp [keyLabel, Bracketed]
  · have noText : ∀ name, key ≠ .text name := not_exists.mp isText
    rw [keyLabel_of_not_text noText]
    cases shown : key.source <;>
      simp [Bracketed, noText, shown, Except.map, eq_comm]

theorem exists_keyLabel {key : Value} (short : ¬ key.HoldsLongInteger) :
    ∃ label, keyLabel key = .ok label := by
  simp only [keyLabel_eq_ok_iff]
  by_cases isText : ∃ name, key = .text name
  · obtain ⟨name, isText⟩ := isText
    exact ⟨name, .inl isText⟩
  · obtain ⟨shown, source⟩ := key.source_tooLongIff.exists_ok_iff.mpr short
    exact ⟨"[" ++ shown ++ "]", .inr ⟨not_exists.mp isText, shown, source, rfl⟩⟩

theorem exists_undeclaredResults {sections : Sections}
    (short : ∀ entry ∈ entries, ¬ entry.1.HoldsLongInteger) :
    ∃ undeclared, UndeclaredResults schemas entries undeclared ∧
      (undeclaredSections schemas entries sections).outcome =
        .ok (insertAll sections undeclared) := by
  induction entries generalizing sections with
  | nil => exact ⟨[], .nil, rfl⟩
  | cons entry entries ih =>
      obtain ⟨key, value⟩ := entry
      have keyShort := short (key, value) (by simp)
      have restShort (other : Value × Value) (member : other ∈ entries) :
          ¬ other.1.HoldsLongInteger := short other (by simp [member])
      rw [undeclaredSections]
      by_cases declared : Schema.declares schemas key = true
      · obtain ⟨undeclared, results, outcome⟩ := @ih sections restShort
        refine ⟨undeclared, ?_, by rw [if_pos declared, outcome]⟩
        simpa [UndeclaredResults, undeclaredKeys, declared] using results
      · obtain ⟨label, labelled⟩ := exists_keyLabel keyShort
        obtain ⟨shown, displayed⟩ := (Value.display_tooLongIff key).exists_ok_iff.mpr keyShort
        obtain ⟨undeclared, results, outcome⟩ :=
          @ih (insertNamed sections label (undeclaredResult label shown)) restShort
        have found : Violation.ofUnexpectedKey key = .ok (.unexpectedKey key shown) := by
          rw [Violation.ofUnexpectedKey, displayed]
          rfl
        have first : undeclaredKeys schemas ((key, value) :: entries) =
            key :: undeclaredKeys schemas entries := by
          simp [undeclaredKeys, declared]
        refine ⟨(label, undeclaredResult label shown) :: undeclared, ?_, ?_⟩
        · rw [UndeclaredResults, first]
          exact .cons ⟨labelled, shown, displayed, rfl⟩ results
        · rw [if_neg declared, labelled, found]
          simp only [Logged.outcome_bind, Logged.outcome_ofExcept, Logged.outcome_report,
            Except.bind]
          exact outcome

theorem Bracketed.not_declares {key : Value} {label : Text} (bracketed : Bracketed key label) :
    ¬ Schema.Declares schemas key := by
  rintro ⟨field, _, isText⟩
  exact bracketed.1 field.1 isText

/-- Two keys do not end up under one label. -/
def LabelsDiffer (schemas : List (Text × Schema)) (first second : Value × Value) : Prop :=
  ¬ Schema.Declares schemas first.1 → ¬ Schema.Declares schemas second.1 →
    keyLabel first.1 ≠ keyLabel second.1

instance : Std.Symm (LabelsDiffer schemas) where
  symm _ _ differ secondUndeclared firstUndeclared :=
    (differ firstUndeclared secondUndeclared).symm

/-- Texts are told apart from each other and from the declared names by themselves, so only labels
in brackets can be taken already. -/
theorem labelsApart_iff (distinctKeys : Value.KeysApart entries)
    (labelled : ∀ entry ∈ entries, ¬ Schema.Declares schemas entry.1 →
      ∃ label, keyLabel entry.1 = .ok label) :
    LabelsApart schemas entries ↔
      (∀ name ∈ schemas.map Prod.fst, ∀ entry ∈ entries, ¬ Schema.Declares schemas entry.1 →
        keyLabel entry.1 ≠ .ok name) ∧
      entries.Pairwise (LabelsDiffer schemas) := by
  constructor
  · intro apart
    refine ⟨fun name nameMember entry member undeclared taken => ?_, ?_⟩
    · rcases keyLabel_eq_ok_iff.mp taken with isText | bracketed
      · obtain ⟨field, fieldMember, rfl⟩ := List.mem_map.mp nameMember
        exact undeclared ⟨field, fieldMember, isText⟩
      · exact apart.fromNames entry member name bracketed nameMember
    · refine (apart.fromEachOther.and distinctKeys).imp_of_mem ?_
      intro first second firstMember secondMember both firstUndeclared _ same
      obtain ⟨label, firstLabel⟩ := labelled first firstMember firstUndeclared
      rcases keyLabel_eq_ok_iff.mp firstLabel with firstText | firstBracketed <;>
        rcases keyLabel_eq_ok_iff.mp (same.symm.trans firstLabel) with
          secondText | secondBracketed
      · have different := both.2
        rw [firstText, secondText] at different
        simp [Value.equals] at different
      · exact apart.fromTexts second secondMember label secondBracketed first firstMember firstText
      · exact apart.fromTexts first firstMember label firstBracketed second secondMember secondText
      · exact both.1 label firstBracketed secondBracketed
  · rintro ⟨namesApart, keysApart⟩
    have names (entry : Value × Value) (member : entry ∈ entries) (label : Text)
        (bracketed : Bracketed entry.1 label) : label ∉ schemas.map Prod.fst := by
      intro nameMember
      exact namesApart label nameMember entry member bracketed.not_declares
        (keyLabel_eq_ok_iff.mpr (.inr bracketed))
    refine ⟨names, fun entry member label bracketed other otherMember isText => ?_, ?_⟩
    · have undeclared : ¬ Schema.Declares schemas other.1 := by
        rintro ⟨field, fieldMember, isField⟩
        obtain rfl : label = field.1 := Value.text.inj (isText.symm.trans isField)
        exact names entry member field.1 bracketed (List.mem_map_of_mem fieldMember)
      have differ : entry ≠ other := by
        rintro rfl
        exact bracketed.1 label isText
      apply keysApart.forall member otherMember differ bracketed.not_declares undeclared
      rw [keyLabel_eq_ok_iff.mpr (.inr bracketed), keyLabel_eq_ok_iff.mpr (.inl isText)]
    · refine keysApart.imp fun {first second} holds label firstBracketed secondBracketed => ?_
      apply holds firstBracketed.not_declares secondBracketed.not_declares
      rw [keyLabel_eq_ok_iff.mpr (.inr firstBracketed),
        keyLabel_eq_ok_iff.mpr (.inr secondBracketed)]

theorem labels_nodup_iff_labelsApart {named : NamedSchemas} {document : Value.KeyedEntries Value}
    {declared undeclared : Sections}
    (declaredResults : DeclaredResults named.list document.list declared)
    (undeclaredResults : UndeclaredResults named.list document.list undeclared) :
    ((declared ++ undeclared).map Prod.fst).Nodup ↔ LabelsApart named.list document.list := by
  obtain ⟨schemas, distinctNames⟩ := named
  obtain ⟨entries, distinctKeys⟩ := document
  have declaredNames : schemas.map Prod.fst = declared.map Prod.fst :=
    map_eq_map_of_forall₂ declaredResults fun _ _ holds => holds.1.symm
  have undeclaredLabels : (undeclaredKeys schemas entries).map keyLabel =
      undeclared.map (Except.ok ∘ Prod.fst) :=
    map_eq_map_of_forall₂ undeclaredResults fun _ _ holds => holds.1
  have labelsDistinct :
      (undeclared.map Prod.fst).Nodup ↔ entries.Pairwise (LabelsDiffer schemas) := by
    have injective : Function.Injective (Except.ok : Text → Except Fault Text) :=
      fun _ _ equal => Except.ok.inj equal
    have unfolded : LabelsDiffer schemas = fun first second =>
        (!Schema.declares schemas first.1) = true → (!Schema.declares schemas second.1) = true →
          keyLabel first.1 ≠ keyLabel second.1 := by
      funext first second
      simp [LabelsDiffer, ← Schema.declares_eq_true_iff]
    rw [← List.nodup_map_iff injective, List.map_map, ← undeclaredLabels, List.Nodup,
      List.pairwise_map, undeclaredKeys, List.pairwise_filter, List.pairwise_map, unfolded]
  have label_iff (outcome : Except Fault Text) :
      (∃ result ∈ undeclared, .ok result.1 = outcome) ↔
        ∃ entry ∈ entries, ¬ Schema.Declares schemas entry.1 ∧ keyLabel entry.1 = outcome := by
    have member := congrArg (outcome ∈ ·) undeclaredLabels.symm
    simpa [undeclaredKeys, ← Schema.declares_eq_true_iff, and_assoc] using member
  have labelled (entry : Value × Value) (member : entry ∈ entries)
      (isUndeclared : ¬ Schema.Declares schemas entry.1) :
      ∃ label, keyLabel entry.1 = .ok label := by
    obtain ⟨result, _, equal⟩ := (label_iff _).mpr ⟨entry, member, isUndeclared, rfl⟩
    exact ⟨result.1, equal.symm⟩
  rw [labelsApart_iff distinctKeys labelled, List.map_append, List.nodup_append, ← declaredNames,
    and_iff_right distinctNames, labelsDistinct, and_comm]
  refine and_congr_left fun _ => forall₂_congr fun name _ => ?_
  constructor
  · intro apart entry member isUndeclared taken
    obtain ⟨result, resultMember, equal⟩ :=
      (label_iff (.ok name)).mpr ⟨entry, member, isUndeclared, taken⟩
    exact apart result.1 (List.mem_map_of_mem resultMember) (Except.ok.inj equal).symm
  · rintro apart label labelMember rfl
    obtain ⟨result, resultMember, rfl⟩ := List.mem_map.mp labelMember
    obtain ⟨entry, member, isUndeclared, taken⟩ :=
      (label_iff (.ok result.1)).mp ⟨result, resultMember, rfl⟩
    exact apart entry member isUndeclared taken

/-- Every declared section and every undeclared key gets the result it should have, and the last
result under a label is the one that stays.  None is lost, and the results are those of the
sections followed by those of the keys, exactly if the labels in brackets are all free. -/
theorem sections_keep_all_iff_labelsApart {flavour : MappingFlavour} {named : NamedSchemas}
    {document : Value.KeyedEntries Value}
    (short : ∀ entry ∈ document.list, ¬ entry.1.HoldsLongInteger)
    (sound : ∀ field ∈ named.list, ∀ fault,
      field.2.parse (Value.lookupText document.list field.1) ≠ .error (.faulty fault)) :
    ∃ declared undeclared results,
      (sections (.mapping flavour document.list) named.list).outcome = .ok results ∧
      DeclaredResults named.list document.list declared ∧
      UndeclaredResults named.list document.list undeclared ∧
      (results.map Prod.fst).Nodup ∧
      (∀ label, results.lookup label = (undeclared.reverse ++ declared).lookup label) ∧
      (results = declared ++ undeclared ↔ LabelsApart named.list document.list) ∧
      (results.length = named.list.length + (undeclaredKeys named.list document.list).length ↔
        LabelsApart named.list document.list) := by
  obtain ⟨declared, declaredResults, declaredOutcome⟩ := exists_declaredResults sound
  obtain ⟨undeclared, undeclaredResults, undeclaredOutcome⟩ :=
    @exists_undeclaredResults named.list document.list declared short
  have distinct : (declared.map Prod.fst).Nodup := by
    rw [← map_eq_map_of_forall₂ declaredResults fun _ _ holds => holds.1.symm]
    exact named.distinct
  have apart := labels_nodup_iff_labelsApart declaredResults undeclaredResults
  refine ⟨declared, undeclared, insertAll declared undeclared, ?_, declaredResults,
    undeclaredResults, nodup_insertAll distinct, fun label => lookup_insertAll, ?_, ?_⟩
  · simp only [sections, Value.mappingEntries?, Logged.outcome_bind, declaredOutcome, Except.bind,
      undeclaredOutcome]
  · rw [← apart]
    constructor
    · intro kept
      rw [← kept]
      exact nodup_insertAll distinct
    · exact insertAll_of_nodup
  · rw [declaredResults.length_eq, undeclaredResults.length_eq, ← apart]
    exact length_insertAll_eq_iff distinct

theorem sections_keep_all_beside_null_key :
    ∃ results, (sections (.object [(.text "size", .int 5), (.null, .int 7)])
        [("size", .number .required [])]).outcome = .ok results ∧
      results.length = 2 := by
  have onlyLabel (entry : Value × Value) (member : entry ∈ [(.text "size", .int 5),
      (.null, .int 7)]) (label : Text) (bracketed : Bracketed entry.1 label) :
      label = "[None]" := by
    rw [List.mem_pair] at member
    rcases member with first | second
    · rw [first] at bracketed
      exact absurd bracketed not_bracketed_text
    · rw [second] at bracketed
      exact bracketed_null_iff.mp bracketed
  have apart : LabelsApart [("size", .number .required [])]
      [(.text "size", .int 5), (.null, .int 7)] := by
    refine ⟨fun entry member label bracketed => ?_, fun entry member label bracketed => ?_,
      by simp⟩
    · rw [onlyLabel entry member label bracketed]
      decide
    · rw [onlyLabel entry member label bracketed]
      simp
  have parsed : (Schema.number .required []).parse (.int 5) = .ok (.int 5) := rfl
  obtain ⟨_, _, results, outcome, _, _, _, _, _, kept⟩ :=
    @sections_keep_all_iff_labelsApart .plain ⟨[("size", .number .required [])], by simp⟩
      ⟨[(.text "size", .int 5), (.null, .int 7)], by simp [Value.equals, Value.number?]⟩
      (by simp) (by simp [Value.lookupText, parsed])
  exact ⟨results, outcome, kept.mpr apart⟩

/-- The section passes its check, and its result is lost all the same. -/
theorem sections_lose_declared_result :
    (config "[None]" (.number .required []) (.int 5) []).outcome =
        .ok (.success "[None]" (.int 5)) ∧
      (sections (.object [(.text "[None]", .int 5), (.null, .int 7)])
        [("[None]", .number .required [])]).outcome =
          .ok [("[None]", undeclaredResult "[None]" "None")] := by
  have checked : (config "[None]" (.number .required []) (.int 5) []).outcome =
      .ok (.success "[None]" (.int 5)) :=
    rfl
  refine ⟨checked, ?_⟩
  simp [sections, declaredSections, undeclaredSections, Value.mappingEntries?, Value.lookupText,
    Logged.outcome_bind, Except.bind, checked, Schema.declares, keyLabel, Value.source, insertNamed]
  rfl

end Labels

end Check

end ClosedShape
