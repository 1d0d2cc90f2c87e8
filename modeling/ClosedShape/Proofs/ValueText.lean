import ClosedShape.Value.Text

/-!
# Which values have a text

Every value can be shown except one that holds an integer beyond the digit limit, at any depth.
Showing that one ends in a single fault, whichever of the three texts of a value is asked for.
-/

namespace ClosedShape.Value

/-- A value is an integer with more digits than the limit, or holds one somewhere inside. -/
inductive HoldsLongInteger : Value → Prop
  | number {number : Int} (long : integerLimit ≤ number.natAbs) : HoldsLongInteger (.int number)
  | listItem {items : List Value} {item : Value} (member : item ∈ items)
      (holds : HoldsLongInteger item) : HoldsLongInteger (.list items)
  | tupleItem {items : List Value} {item : Value} (member : item ∈ items)
      (holds : HoldsLongInteger item) : HoldsLongInteger (.tuple items)
  | setItem {items : List Value} {item : Value} (member : item ∈ items)
      (holds : HoldsLongInteger item) : HoldsLongInteger (.set items)
  | key {flavour : MappingFlavour} {entries : List (Value × Value)} {entry : Value × Value}
      (member : entry ∈ entries) (holds : HoldsLongInteger entry.1) :
      HoldsLongInteger (.mapping flavour entries)
  | content {flavour : MappingFlavour} {entries : List (Value × Value)} {entry : Value × Value}
      (member : entry ∈ entries) (holds : HoldsLongInteger entry.2) :
      HoldsLongInteger (.mapping flavour entries)

@[simp]
theorem not_holdsLongInteger_null : ¬ HoldsLongInteger .null :=
  nofun

@[simp]
theorem not_holdsLongInteger_text (content : Text) : ¬ HoldsLongInteger (.text content) :=
  nofun

@[simp]
theorem holdsLongInteger_int_iff {number : Int} :
    HoldsLongInteger (.int number) ↔ integerLimit ≤ number.natAbs :=
  ⟨fun | .number long => long, .number⟩

@[simp]
theorem holdsLongInteger_list_iff {items : List Value} :
    HoldsLongInteger (.list items) ↔ ∃ item ∈ items, item.HoldsLongInteger :=
  ⟨fun | .listItem member holds => ⟨_, member, holds⟩,
    fun ⟨_, member, holds⟩ => .listItem member holds⟩

@[simp]
theorem holdsLongInteger_tuple_iff {items : List Value} :
    HoldsLongInteger (.tuple items) ↔ ∃ item ∈ items, item.HoldsLongInteger :=
  ⟨fun | .tupleItem member holds => ⟨_, member, holds⟩,
    fun ⟨_, member, holds⟩ => .tupleItem member holds⟩

@[simp]
theorem holdsLongInteger_set_iff {items : List Value} :
    HoldsLongInteger (.set items) ↔ ∃ item ∈ items, item.HoldsLongInteger :=
  ⟨fun | .setItem member holds => ⟨_, member, holds⟩,
    fun ⟨_, member, holds⟩ => .setItem member holds⟩

@[simp]
theorem holdsLongInteger_mapping_iff {flavour : MappingFlavour} {entries : List (Value × Value)} :
    HoldsLongInteger (.mapping flavour entries) ↔
      ∃ entry ∈ entries, entry.1.HoldsLongInteger ∨ entry.2.HoldsLongInteger := by
  constructor
  · rintro (_ | _ | _ | _ | ⟨member, holds⟩ | ⟨member, holds⟩)
    · exact ⟨_, member, .inl holds⟩
    · exact ⟨_, member, .inr holds⟩
  · rintro ⟨entry, member, holds | holds⟩
    · exact .key member holds
    · exact .content member holds

/-- An outcome is the fault of a long integer if `holds`, and no fault at all otherwise. -/
def TooLongIff {α : Type} (outcome : Except Fault α) (holds : Prop) : Prop :=
  ∀ fault, outcome = .error fault ↔ fault = .integerTooLong ∧ holds

namespace TooLongIff

variable {α β : Type} {first : Except Fault α} {holds : Prop}

theorem ok (result : α) (notHeld : ¬ holds) : TooLongIff (.ok result) holds := by
  simp [TooLongIff, notHeld]

theorem bind {next : α → Except Fault β} {holdsNext : Prop} (one : TooLongIff first holds)
    (other : ∀ result, TooLongIff (next result) holdsNext) :
    TooLongIff (first >>= next) (holds ∨ holdsNext) := by
  intro fault
  cases ended : first with
  | error earlier =>
      obtain ⟨rfl, held⟩ := (one earlier).mp ended
      simp [Bind.bind, Except.bind, held, eq_comm]
  | ok result =>
      have notHeld : ¬ holds := fun held => by
        simpa [ended] using (one .integerTooLong).mpr ⟨rfl, held⟩
      simpa [Bind.bind, Except.bind, notHeld] using other result fault

theorem bind_pure (one : TooLongIff first holds) (finish : α → β) :
    TooLongIff (first >>= fun result => pure (finish result)) holds := by
  have both : TooLongIff (first >>= fun result => pure (finish result)) (holds ∨ False) :=
    one.bind fun result => ok (finish result) id
  rwa [or_false] at both

theorem map (one : TooLongIff first holds) (finish : α → β) :
    TooLongIff (first.map finish) holds := by
  intro fault
  rw [← one fault]
  cases first <;> simp [Except.map]

theorem exists_ok_iff (one : TooLongIff first holds) :
    (∃ result, first = .ok result) ↔ ¬ holds := by
  cases ended : first with
  | error fault => simpa using ((one fault).mp ended).2
  | ok result =>
      have notHeld : ¬ holds := fun held => by
        simpa [ended] using (one .integerTooLong).mpr ⟨rfl, held⟩
      simpa using notHeld

end TooLongIff

theorem integerText_tooLongIff (number : Int) :
    TooLongIff (integerText number) (integerLimit ≤ number.natAbs) := by
  intro fault
  unfold integerText
  split
  · rename_i short
    simp [short]
  · rename_i long
    simp [Nat.le_of_not_lt long, eq_comm]

mutual

/-- Items are shown one after the other, and the first long integer among them is the fault. -/
theorem source_tooLongIff : ∀ value : Value, TooLongIff value.source value.HoldsLongInteger
  | .int number => by
      rw [source, holdsLongInteger_int_iff]
      exact integerText_tooLongIff number
  | .list items => by
      rw [source, holdsLongInteger_list_iff]
      exact (sourceItems_tooLongIff items).bind_pure _
  | .tuple items => by
      rw [source, holdsLongInteger_tuple_iff]
      exact (sourceItems_tooLongIff items).bind_pure _
  | .set items => by
      rw [source, holdsLongInteger_set_iff]
      exact (sourceItems_tooLongIff items).bind_pure _
  | .mapping flavour entries => by
      rw [source, holdsLongInteger_mapping_iff]
      exact (sourceEntries_tooLongIff entries).bind_pure _
  | .absent | .null | .bool _ | .float _ | .text _ | .bytes _ | .date _ | .time _ | .moment _
  | .function _ | .opaqueObject _ _ => .ok _ nofun

theorem sourceItems_tooLongIff : ∀ items : List Value,
    TooLongIff (sourceItems items) (∃ item ∈ items, item.HoldsLongInteger)
  | [] => .ok _ (by simp)
  | item :: items => by
      simp only [sourceItems, List.mem_cons, exists_eq_or_imp]
      exact (source_tooLongIff item).bind fun shown =>
        (sourceItems_tooLongIff items).bind_pure _

theorem sourceEntries_tooLongIff : ∀ entries : List (Value × Value),
    TooLongIff (sourceEntries entries)
      (∃ entry ∈ entries, entry.1.HoldsLongInteger ∨ entry.2.HoldsLongInteger)
  | [] => .ok _ (by simp)
  | (key, value) :: entries => by
      simp only [sourceEntries, List.mem_cons, exists_eq_or_imp, or_assoc]
      exact (source_tooLongIff key).bind fun shownKey =>
        (source_tooLongIff value).bind fun shownValue =>
          (sourceEntries_tooLongIff entries).bind_pure _

end

theorem display_tooLongIff (value : Value) : TooLongIff value.display value.HoldsLongInteger := by
  cases value with
  | text | absent | date | time | moment => exact .ok _ nofun
  | mapping flavour entries =>
      cases flavour with
      | readOnly =>
          have shown := source_tooLongIff (.mapping .plain entries)
          rw [holdsLongInteger_mapping_iff] at shown ⊢
          exact shown.map _
      | _ => exact (source_tooLongIff _).map Text.ofString
  | null | bool | int | float | list | tuple | set | bytes | function | opaqueObject =>
      rw [display]
      · exact (source_tooLongIff _).map Text.ofString
      all_goals nofun

theorem literalText_tooLongIff (value : Value) :
    TooLongIff value.literalText value.HoldsLongInteger := by
  cases value with
  | null | absent => exact .ok _ nofun
  | _ => exact source_tooLongIff _

end ClosedShape.Value
