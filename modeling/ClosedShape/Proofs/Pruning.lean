import ClosedShape.Proofs.PrunedResult
import ClosedShape.Proofs.Reordering

/-!
# What pruning removes

Pruning closes the gaps of a value, the `absent` items of its lists and the `absent` contents of its
plain mappings, as deep as it can go through these alone.  Nothing else changes: an `absent` that is
a key, that is in a container of another kind, or that is the value itself stays where it is.
-/

namespace ClosedShape.Value

/-- A list holds its items, and a plain mapping what it has under its keys. -/
inductive Holds : Value → Value → Prop
  | item {items : List Value} {item : Value} (member : item ∈ items) : Holds (.list items) item
  | content {entries : List (Value × Value)} {entry : Value × Value} (member : entry ∈ entries) :
      Holds (.object entries) entry.2

/-- `absent` is held by the value, or by something that it leads to through what lists and plain
mappings hold. -/
def HasGap (value : Value) : Prop := Relation.TransGen Holds value .absent

variable {value inner part : Value}

theorem Holds.child (holds : value.Holds inner) : inner.Child value := by
  cases holds with
  | item member => exact .item rfl member
  | content member => exact .content rfl member

theorem hasGap_iff :
    value.HasGap ↔ ∃ inner, value.Holds inner ∧ (inner = .absent ∨ inner.HasGap) := by
  refine Relation.TransGen.head'_iff.trans (exists_congr fun inner => and_congr_right fun _ => ?_)
  exact Relation.reflTransGen_iff_eq_or_transGen.trans (or_congr_left eq_comm)

theorem prune_list {items : List Value} :
    (list items).prune = .list ((items.filter fun item => !item.isAbsent).map prune) := by
  rw [prune, pruneItems_eq_map]

theorem prune_object {entries : List (Value × Value)} :
    (object entries).prune = .object ((entries.filter fun entry => !entry.2.isAbsent).map
      fun entry => (entry.1, entry.2.prune)) := by
  rw [prune, pruneEntries_eq_map]

/-- One step: what a pruned value holds are the pruned forms of what the value holds besides
`absent`. -/
theorem holds_prune_iff :
    value.prune.Holds part ↔ ∃ inner, value.Holds inner ∧ inner ≠ .absent ∧ inner.prune = part := by
  constructor
  · intro holds
    cases value with
    | list items =>
        rw [prune_list] at holds
        obtain ⟨member⟩ := holds
        obtain ⟨item, kept, rfl⟩ := List.mem_map.mp member
        obtain ⟨itemMember, given⟩ := List.mem_filter.mp kept
        exact ⟨item, .item itemMember, by simpa [isAbsent_eq_false_iff] using given, rfl⟩
    | mapping flavour entries =>
        cases flavour with
        | plain =>
            rw [prune_object] at holds
            obtain _ | ⟨member⟩ := holds
            obtain ⟨entry, kept, rfl⟩ := List.mem_map.mp member
            obtain ⟨entryMember, given⟩ := List.mem_filter.mp kept
            exact ⟨entry.2, .content entryMember, by simpa [isAbsent_eq_false_iff] using given, rfl⟩
        | readOnly | callable => cases holds
    | _ => cases holds
  · rintro ⟨inner, holds, provided, rfl⟩
    have given : (!inner.isAbsent) = true := by simpa [isAbsent_eq_false_iff] using provided
    cases holds with
    | item member =>
        rw [prune_list]
        exact .item (List.mem_map.mpr ⟨inner, List.mem_filter.mpr ⟨member, given⟩, rfl⟩)
    | @content entries entry member =>
        rw [prune_object]
        have kept : (entry.1, entry.2.prune) ∈
            (entries.filter fun entry => !entry.2.isAbsent).map fun entry =>
              (entry.1, entry.2.prune) :=
          List.mem_map.mpr ⟨entry, List.mem_filter.mpr ⟨member, given⟩, rfl⟩
        exact .content kept

theorem not_hasGap_prune : ¬ value.prune.HasGap := by
  induction value using wellFounded_child.induction with
  | _ value ih =>
    -- What is held after a step was held before it and is smaller there, so a gap would go back to
    -- `absent` itself, which is not kept.
    rw [hasGap_iff]
    rintro ⟨part, holds, gap⟩
    obtain ⟨inner, innerHeld, provided, rfl⟩ := holds_prune_iff.mp holds
    obtain isAbsent | deeper := gap
    · exact provided (prune_eq_absent_iff.mp isAbsent)
    · exact ih inner innerHeld.child deeper

theorem prune_eq_self_of_not_hasGap (closed : ¬ value.HasGap) : value.prune = value := by
  induction value using wellFounded_child.induction with
  | _ value ih =>
    have held (inner : Value) (holds : value.Holds inner) :
        inner.isAbsent = false ∧ inner.prune = inner := by
      refine ⟨isAbsent_eq_false_iff.mpr ?_, ih inner holds.child ?_⟩
      · exact fun isAbsent => closed (hasGap_iff.mpr ⟨inner, holds, .inl isAbsent⟩)
      · exact fun gap => closed (hasGap_iff.mpr ⟨inner, holds, .inr gap⟩)
    cases value with
    | list items =>
        rw [prune_list]
        have same : (items.filter fun item => !item.isAbsent) = items :=
          List.filter_eq_self.mpr fun item member => by simp [(held item (.item member)).1]
        rw [same, List.map_congr_left fun item member => (held item (.item member)).2]
        simp
    | mapping flavour entries =>
        cases flavour with
        | plain =>
            rw [prune_object]
            have same : (entries.filter fun entry => !entry.2.isAbsent) = entries :=
              List.filter_eq_self.mpr fun entry member => by
                simp [(held entry.2 (.content member)).1]
            have each : ∀ entry ∈ entries, (entry.1, entry.2.prune) = entry := fun entry member =>
              Prod.ext rfl (held entry.2 (.content member)).2
            rw [same, List.map_congr_left each, List.map_id']
        | readOnly | callable => rfl
    | _ => rfl

theorem prune_eq_self_iff : value.prune = value ↔ ¬ value.HasGap := by
  refine ⟨fun same => ?_, prune_eq_self_of_not_hasGap⟩
  rw [← same]
  exact not_hasGap_prune

/-- Pruning removes every gap and nothing else. -/
theorem prune_closes_gaps_alone (value : Value) :
    ¬ value.prune.HasGap ∧
      value.prune =
        (match value with
        | .list items => .list ((items.filter fun item => !item.isAbsent).map prune)
        | .mapping .plain entries =>
            .object ((entries.filter fun entry => !entry.2.isAbsent).map fun entry =>
              (entry.1, entry.2.prune))
        | other => other) ∧
      (value.prune = value ↔ ¬ value.HasGap) ∧ value.prune.prune = value.prune := by
  refine ⟨not_hasGap_prune, ?_, prune_eq_self_iff, prune_eq_self_of_not_hasGap not_hasGap_prune⟩
  cases value with
  | list items => exact prune_list
  | mapping flavour entries =>
      cases flavour with
      | plain => exact prune_object
      | readOnly | callable => rfl
  | _ => rfl

/-- `absent` as a key, in a tuple and in a read-only mapping is no gap. -/
example :
    prune (.object [(.absent, .list [.absent, .tuple [.absent]]), (.text "size", .absent),
      (.text "app", .mapping .readOnly [(.text "id", .absent)])]) =
    .object [(.absent, .list [.tuple [.absent]]),
      (.text "app", .mapping .readOnly [(.text "id", .absent)])] := by
  cbv

end ClosedShape.Value
