import ClosedShape.Proofs.SectionLabels
import ClosedShape.Settings.Discovery
import Mathlib.Data.List.Induction

/-!
# Environment variables

The distinct variables of an environment have each the text that was set last.  A name in upper or
lower case stands for the last of them that has it, and if all of them spell it alike, for the
variable of that very name.
-/

namespace ClosedShape

namespace Environment

variable {environment other known : Environment} {name text : String}

/-- Two names of variables are the same but for upper and lower case. -/
def SameName (name other : String) : Prop :=
  Text.lowerCase name = Text.lowerCase other

instance (name other : String) : Decidable (SameName name other) :=
  inferInstanceAs (Decidable (Text.lowerCase name = Text.lowerCase other))

/-- The last variable that has a name, in upper or lower case, has some text. -/
def LastSets (environment : Environment) (name text : String) : Prop :=
  ∃ before spelling after, distinct environment = before ++ (spelling, text) :: after ∧
    SameName spelling name ∧ ∀ entry ∈ after, ¬ SameName entry.1 name

/-- The variables that have a name, in upper or lower case. -/
def named (environment : Environment) (name : String) : Environment :=
  environment.filter fun entry => SameName entry.1 name

/-- Sets a variable, which keeps its place if it was set before. -/
def set (known : Environment) (entry : String × String) : Environment :=
  if known.any fun other => other.1 == entry.1 then
    known.map fun other => if other.1 == entry.1 then entry else other
  else known ++ [entry]

theorem distinct_append_singleton (environment : Environment) (entry : String × String) :
    distinct (environment ++ [entry]) = set (distinct environment) entry := by
  rw [distinct, List.foldl_append]
  rfl

theorem distinct_eq_nil_iff : distinct environment = [] ↔ environment = [] := by
  induction environment using List.reverseRecOn with
  | nil => simp [distinct]
  | append_singleton environment entry ih =>
      rw [distinct_append_singleton, set]
      split
      · next present =>
          have known : distinct environment ≠ [] := by
            intro empty
            simp [empty] at present
          simp [known]
      · simp

theorem filter_replaced (known : Environment) (entry : String × String) (keeps : String → Bool) :
    (known.map fun other => if other.1 == entry.1 then entry else other).filter
        (fun other => keeps other.1) =
      (known.filter fun other => keeps other.1).map
        fun other => if other.1 == entry.1 then entry else other := by
  rw [List.filter_map]
  congr 2
  funext other
  by_cases same : other.1 = entry.1 <;> simp [same]

theorem map_replaced_of_absent {entry : String × String}
    (absent : ∀ other ∈ known, other.1 ≠ entry.1) :
    (known.map fun other => if other.1 == entry.1 then entry else other) = known := by
  refine (List.map_congr_left fun other member => ?_).trans (List.map_id _)
  simp [absent other member]

theorem filter_set (known : Environment) (entry : String × String) (keeps : String → Bool) :
    (known.set entry).filter (fun other => keeps other.1) =
      if keeps entry.1 then set (known.filter fun other => keeps other.1) entry
      else known.filter fun other => keeps other.1 := by
  by_cases kept : keeps entry.1 = true
  · have present : (known.any fun other => keeps other.1 && other.1 == entry.1) =
        known.any fun other => other.1 == entry.1 := by
      congr 1
      funext other
      by_cases same : other.1 = entry.1 <;> simp [same, kept]
    rw [if_pos kept, set, set, List.any_filter, present]
    split
    · exact filter_replaced known entry keeps
    · simp [kept]
  · rw [if_neg kept, set]
    split
    · rw [filter_replaced]
      refine map_replaced_of_absent fun other member same => kept ?_
      exact same ▸ (List.mem_filter.mp member).2
    · simp [kept]

/-- Which variables are distinct can be told of the variables of some names alone. -/
theorem distinct_filter (environment : Environment) (keeps : String → Bool) :
    distinct (environment.filter fun entry => keeps entry.1) =
      (distinct environment).filter fun entry => keeps entry.1 := by
  induction environment using List.reverseRecOn with
  | nil => rfl
  | append_singleton environment entry ih =>
      rw [distinct_append_singleton, filter_set, ← ih, List.filter_append]
      split
      · next kept => simp [kept, distinct_append_singleton]
      · next dropped => simp [dropped]

theorem lookup_replaced (known : Environment) (entry : String × String) (name : String) :
    (known.map fun other => if other.1 == entry.1 then entry else other).lookup name =
      if name = entry.1 then (known.lookup name).map fun _ => entry.2 else known.lookup name := by
  induction known with
  | nil => simp
  | cons first rest ih =>
      rw [List.map_cons, Check.lookup_cons_eq_ite, Check.lookup_cons_eq_ite, ih]
      by_cases replaced : first.1 = entry.1 <;> by_cases same : name = entry.1
      · simp [replaced, same]
      · simp [replaced, same]
      · simp [replaced, same, Ne.symm replaced]
      · simp [replaced, same]

theorem find?_append_singleton (environment : Environment) (entry : String × String)
    (name : String) :
    find? (environment ++ [entry]) name =
      if name = entry.1 then some entry.2 else environment.find? name := by
  rw [find?, List.reverse_append]
  exact Check.lookup_cons_eq_ite

theorem find?_set (known : Environment) (entry : String × String) (name : String) :
    find? (set known entry) name = if name = entry.1 then some entry.2 else known.find? name := by
  rw [set]
  split
  · next present =>
      rw [find?, ← List.map_reverse, lookup_replaced]
      by_cases same : name = entry.1
      · have found : known.reverse.lookup name ≠ none := by
          intro missing
          obtain ⟨old, member, equal⟩ := List.any_eq_true.mp present
          have differs := List.lookup_eq_none_iff.mp missing old (List.mem_reverse.mpr member)
          simp [same, beq_iff_eq.mp equal] at differs
        obtain ⟨text, found⟩ := Option.ne_none_iff_exists'.mp found
        rw [if_pos same, if_pos same, found]
        rfl
      · rw [if_neg same, if_neg same]
        rfl
  · exact find?_append_singleton known entry name

/-- Each of the distinct variables has the text that was set last. -/
theorem find?_distinct (environment : Environment) (name : String) :
    find? (distinct environment) name = environment.find? name := by
  induction environment using List.reverseRecOn with
  | nil => rfl
  | append_singleton environment entry ih =>
      rw [distinct_append_singleton, find?_set, find?_append_singleton, ih]

theorem findAnyCase?_eq_some_iff :
    environment.findAnyCase? name = some text ↔ environment.LastSets name text := by
  rw [findAnyCase?, Option.map_eq_some_iff]
  constructor
  · rintro ⟨⟨spelling, text⟩, found, rfl⟩
    obtain ⟨same, after, before, split, others⟩ := List.find?_eq_some_iff_append.mp found
    refine ⟨before.reverse, spelling, after.reverse, ?_, beq_iff_eq.mp same, ?_⟩
    · rw [← List.reverse_reverse (distinct environment), split]
      simp
    · intro entry member same
      have differs := others entry (List.mem_reverse.mp member)
      rw [show (Text.lowerCase entry.1 == Text.lowerCase name) = true from beq_iff_eq.mpr same]
        at differs
      cases differs
  · rintro ⟨before, spelling, after, split, same, others⟩
    refine ⟨(spelling, text), List.find?_eq_some_iff_append.mpr
      ⟨beq_iff_eq.mpr same, after.reverse, before.reverse, ?_, fun entry member => ?_⟩, rfl⟩
    · rw [split]
      simp
    · exact bne_iff_ne.mpr (others entry (List.mem_reverse.mp member))

theorem named_distinct (environment : Environment) (name : String) :
    named (distinct environment) name = distinct (environment.named name) :=
  (distinct_filter environment fun spelling => SameName spelling name).symm

theorem findAnyCase?_eq_head? :
    environment.findAnyCase? name =
      (distinct (environment.named name)).reverse.head?.map Prod.snd := by
  rw [findAnyCase?, ← named_distinct, named, ← List.filter_reverse, List.head?_filter]
  rfl

/-- Only the variables of a name count. -/
theorem findAnyCase?_congr (same : other.named name = environment.named name) :
    other.findAnyCase? name = environment.findAnyCase? name := by
  rw [findAnyCase?_eq_head?, findAnyCase?_eq_head?, same]

theorem findAnyCase?_eq_none_iff :
    environment.findAnyCase? name = none ↔ environment.named name = [] := by
  rw [findAnyCase?_eq_head?, Option.map_eq_none_iff, List.head?_eq_none_iff,
    List.reverse_eq_nil_iff, distinct_eq_nil_iff]

theorem find?_eq_head? :
    environment.find? name =
      (distinct (environment.filter fun entry => entry.1 == name)).reverse.head?.map Prod.snd := by
  rw [← find?_distinct, distinct_filter environment (fun spelling => spelling == name), find?,
    ← List.filter_reverse, List.head?_filter]
  induction (distinct environment).reverse with
  | nil => rfl
  | cons entry rest ih =>
      rw [Check.lookup_cons_eq_ite, List.find?_cons]
      by_cases same : name = entry.1
      · simp [same]
      · rw [if_neg same, ih, beq_eq_false_iff_ne.mpr (Ne.symm same)]

/-- If all variables of a name spell it alike, the name itself is looked up. -/
theorem findAnyCase?_of_spelled
    (spelled : ∀ entry ∈ environment, SameName entry.1 name → entry.1 = name) :
    environment.findAnyCase? name = environment.find? name := by
  have alike : environment.named name = environment.filter fun entry => entry.1 == name := by
    refine List.filter_congr fun entry member => ?_
    by_cases same : entry.1 = name
    · rw [same, beq_self_eq_true]
      exact decide_eq_true rfl
    · rw [beq_eq_false_iff_ne.mpr same]
      exact decide_eq_false fun equal => same (spelled entry member equal)
  rw [findAnyCase?_eq_head?, find?_eq_head?, alike]

end Environment
end ClosedShape
