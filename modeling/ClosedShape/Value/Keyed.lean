import ClosedShape.Value.Equality
/-!
# Distinct keys

The keys of a mapping differ from each other.  Setting what is under a key keeps that, so it holds
of all entries that are given one after the other.
-/

namespace ClosedShape.Value

variable {α : Type}

/-- No key equals a later one. -/
abbrev KeysApart (entries : List (Value × α)) : Prop :=
  entries.Pairwise fun first second => first.1.equals second.1 = false

theorem exists_of_mem_insert {entries : List (Value × α)} {key : Value} {content : α}
    {entry : Value × α} (member : entry ∈ insert entries key content) :
    entry.1 = key ∨ ∃ old ∈ entries, entry.1 = old.1 := by
  induction entries with
  | nil =>
      obtain rfl : entry = (key, content) := by simpa [insert] using member
      exact .inl rfl
  | cons first rest ih =>
      rw [insert] at member
      split at member
      · rcases List.mem_cons.mp member with rfl | later
        · exact .inr ⟨first, List.mem_cons_self, rfl⟩
        · exact .inr ⟨entry, List.mem_cons_of_mem _ later, rfl⟩
      · rcases List.mem_cons.mp member with rfl | later
        · exact .inr ⟨first, List.mem_cons_self, rfl⟩
        · rcases ih later with isKey | ⟨old, oldMember, same⟩
          · exact .inl isKey
          · exact .inr ⟨old, List.mem_cons_of_mem _ oldMember, same⟩

theorem keysApart_insert {entries : List (Value × α)} (apart : KeysApart entries) (key : Value)
    (content : α) : KeysApart (insert entries key content) := by
  induction entries with
  | nil => simp [insert]
  | cons first rest ih =>
      obtain ⟨fromFirst, restApart⟩ := List.pairwise_cons.mp apart
      rw [insert]
      split
      · exact List.pairwise_cons.mpr ⟨fromFirst, restApart⟩
      · rename_i different
        refine List.pairwise_cons.mpr ⟨fun entry member => ?_, ih restApart⟩
        rcases exists_of_mem_insert member with isKey | ⟨old, oldMember, same⟩
        · rw [isKey]
          exact Bool.eq_false_iff.mpr different
        · rw [same]
          exact fromFirst old oldMember

/-- Entries that are given one after the other end up under distinct keys. -/
theorem keysApart_ofEntries (entries : List (Value × α)) : KeysApart (ofEntries entries) :=
  List.foldlRecOn entries _ .nil fun _ apart entry _ => keysApart_insert apart entry.1 entry.2

/-- The entries of a mapping. -/
structure KeyedEntries (α : Type) where
  list : List (Value × α)
  apart : KeysApart list

end ClosedShape.Value
