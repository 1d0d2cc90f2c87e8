import ClosedShape.Proofs.NarrowedResult
import ClosedShape.Session
import Mathlib.Data.Finset.Card
import Mathlib.Data.Finset.Range

/-!
# What shared values hold

A stored value holds the value that the cells of a store spell out at the moment.  Nothing that
contains itself holds a value, and everything else can be read.  A parse in a session adds
containers to the store and changes none, so what its result holds is the result of the parse of
the value that the argument holds.
-/

namespace ClosedShape

namespace Store

mutual

/-- Which value a stored value is, as long as no cell changes. -/
inductive Holds (store : Store) : Stored → Value → Prop
  | fixed {value : Value} : Holds store (.fixed value) value
  | list {address : Nat} {items : List Stored} {values : List Value}
      (found : store.cells[address]? = some (.list items)) (each : HoldsEach store items values) :
      Holds store (.cell address) (.list values)
  | tuple {address : Nat} {items : List Stored} {values : List Value}
      (found : store.cells[address]? = some (.tuple items)) (each : HoldsEach store items values) :
      Holds store (.cell address) (.tuple values)
  | mapping {address : Nat} {flavour : MappingFlavour} {entries : List (Value × Stored)}
      {values : List (Value × Value)}
      (found : store.cells[address]? = some (.mapping flavour entries))
      (keys : entries.map Prod.fst = values.map Prod.fst)
      (each : HoldsEach store (entries.map Prod.snd) (values.map Prod.snd)) :
      Holds store (.cell address) (.mapping flavour values)

inductive HoldsEach (store : Store) : List Stored → List Value → Prop
  | nil : HoldsEach store [] []
  | cons {item : Stored} {value : Value} {items : List Stored} {values : List Value}
      (first : Holds store item value) (rest : HoldsEach store items values) :
      HoldsEach store (item :: items) (value :: values)

end

variable {store later : Store} {stored : Stored} {value : Value}

section Containers

theorem holdsEach_fixed (values : List Value) : store.HoldsEach (values.map .fixed) values := by
  induction values with
  | nil => exact .nil
  | cons value values ih => exact .cons .fixed ih

theorem Holds.exists_items {values : List Value} (held : store.Holds stored value)
    (array : value.arrayItems? = some values) :
    ∃ items, store.items? stored = some items ∧ store.HoldsEach items values := by
  cases held with
  | fixed => exact ⟨values.map .fixed, by simp [items?, array], holdsEach_fixed values⟩
  | list found each | tuple found each =>
      cases array
      exact ⟨_, by simp [items?, found], each⟩
  | mapping => cases array

theorem Holds.exists_entries {entries : List (Value × Value)} (held : store.Holds stored value)
    (object : value.mappingEntries? = some entries) :
    ∃ cells, store.entries? stored = some cells ∧ cells.map Prod.fst = entries.map Prod.fst ∧
      store.HoldsEach (cells.map Prod.snd) (entries.map Prod.snd) := by
  cases held with
  | fixed =>
      refine ⟨entries.map fun entry => (entry.1, .fixed entry.2), by simp [entries?, object], ?_⟩
      have contents : store.HoldsEach ((entries.map Prod.snd).map .fixed) (entries.map Prod.snd) :=
        holdsEach_fixed _
      simpa [Function.comp_def] using contents
  | list | tuple => cases object
  | mapping found keys each =>
      cases object
      exact ⟨_, by simp [entries?, found], keys, each⟩

theorem lookupText_eq_lookup {entries : List (Value × Value)} {name : Text} :
    Value.lookupText entries name = (Value.lookup entries (.text name)).getD .absent := by
  fun_induction Value.lookupText entries name with
  | case1 => rfl
  | case2 value rest => simp [Value.lookup, Value.equals]
  | case3 key value rest different ih => simpa [Value.lookup, Value.equals, different] using ih
  | case4 first rest noText ih =>
      obtain ⟨key, content⟩ := first
      have different : key.equals (.text name) = false := by
        cases key with
        | text other => exact absurd rfl (noText other content)
        | _ => simp [Value.equals, Value.number?]
      simpa [Value.lookup, different] using ih

/-- Stored entries are looked up as the entries that they hold. -/
theorem fieldOf_holds {cells : List (Value × Stored)} {entries : List (Value × Value)}
    (keys : cells.map Prod.fst = entries.map Prod.fst)
    (each : store.HoldsEach (cells.map Prod.snd) (entries.map Prod.snd)) (name : Text) :
    store.Holds (fieldOf cells name) (Value.lookupText entries name) := by
  rw [lookupText_eq_lookup]
  induction cells generalizing entries with
  | nil =>
      cases entries with
      | nil => exact .fixed
      | cons => cases keys
  | cons cell cells ih =>
      cases entries with
      | nil => cases keys
      | cons entry entries =>
          obtain ⟨sameKey, sameKeys⟩ := List.cons.inj keys
          cases each with
          | cons first rest =>
              have others := ih sameKeys rest
              cases named : entry.1.equals (.text name) with
              | true => simpa [fieldOf, Value.lookup, sameKey, named] using first
              | false => simpa [fieldOf, Value.lookup, sameKey, named] using others

end Containers

section Reading

/-- Entries are known from their keys and contents. -/
theorem eq_of_keys_of_contents {left right : List (Value × Value)}
    (keys : left.map Prod.fst = right.map Prod.fst)
    (contents : left.map Prod.snd = right.map Prod.snd) : left = right := by
  rw [List.zip_of_prod keys contents, ← List.zip_of_prod rfl rfl]

section Cells

variable {address : Nat} {items : List Stored}

theorem Holds.of_list (held : store.Holds (.cell address) value)
    (found : store.cells[address]? = some (.list items)) :
    ∃ values, value = .list values ∧ store.HoldsEach items values := by
  cases held with
  | list otherFound each =>
      cases found.symm.trans otherFound
      exact ⟨_, rfl, each⟩
  | tuple otherFound | mapping otherFound => cases found.symm.trans otherFound

theorem Holds.of_tuple (held : store.Holds (.cell address) value)
    (found : store.cells[address]? = some (.tuple items)) :
    ∃ values, value = .tuple values ∧ store.HoldsEach items values := by
  cases held with
  | tuple otherFound each =>
      cases found.symm.trans otherFound
      exact ⟨_, rfl, each⟩
  | list otherFound | mapping otherFound => cases found.symm.trans otherFound

theorem Holds.of_mapping {flavour : MappingFlavour} {entries : List (Value × Stored)}
    (held : store.Holds (.cell address) value)
    (found : store.cells[address]? = some (.mapping flavour entries)) :
    ∃ values, value = .mapping flavour values ∧ entries.map Prod.fst = values.map Prod.fst ∧
      store.HoldsEach (entries.map Prod.snd) (values.map Prod.snd) := by
  cases held with
  | mapping otherFound keys each =>
      cases found.symm.trans otherFound
      exact ⟨_, rfl, keys, each⟩
  | list otherFound | tuple otherFound => cases found.symm.trans otherFound

end Cells

mutual

/-- A stored value holds one value only. -/
theorem Holds.unique {stored : Stored} {value other : Value} :
    store.Holds stored value → store.Holds stored other → value = other
  | .fixed, otherHeld => by
      cases otherHeld
      rfl
  | .list found each, otherHeld => by
      obtain ⟨others, rfl, otherEach⟩ := otherHeld.of_list found
      rw [each.unique otherEach]
  | .tuple found each, otherHeld => by
      obtain ⟨others, rfl, otherEach⟩ := otherHeld.of_tuple found
      rw [each.unique otherEach]
  | .mapping found keys each, otherHeld => by
      obtain ⟨others, rfl, otherKeys, otherEach⟩ := otherHeld.of_mapping found
      rw [eq_of_keys_of_contents (keys.symm.trans otherKeys) (each.unique otherEach)]

theorem HoldsEach.unique {items : List Stored} {values others : List Value} :
    store.HoldsEach items values → store.HoldsEach items others → values = others
  | .nil, otherHeld => by
      cases otherHeld
      rfl
  | .cons first rest, otherHeld => by
      cases otherHeld with
      | cons otherFirst otherRest => rw [first.unique otherFirst, rest.unique otherRest]

end

/-- The containers that are open where something of a given size is read.  What each of them holds
is larger, so none of them is met again further inside. -/
structure Opened (store : Store) (opened : Finset Nat) (size : Nat) : Prop where
  inStore : opened ⊆ Finset.range store.cells.size
  larger : ∀ address ∈ opened, ∀ value, store.Holds (.cell address) value → size < sizeOf value

variable {opened : Finset Nat} {size smaller address depth : Nat}

theorem Opened.inside (bounds : store.Opened opened size) (less : smaller ≤ size) :
    store.Opened opened smaller where
  inStore := bounds.inStore
  larger address member value held := less.trans_lt (bounds.larger address member value held)

theorem Holds.address_lt (held : store.Holds (.cell address) value) :
    address < store.cells.size := by
  cases held with
  | list found | tuple found | mapping found => exact (Array.getElem?_eq_some_iff.mp found).1

theorem Opened.not_mem (bounds : store.Opened opened (sizeOf value))
    (held : store.Holds (.cell address) value) : address ∉ opened :=
  fun member => (bounds.larger address member value held).false

/-- Opening one more container to read what is inside.  Each container that can still be opened
leaves some depth for that. -/
theorem Opened.enter (bounds : store.Opened opened (sizeOf value))
    (held : store.Holds (.cell address) value)
    (enough : store.cells.size ≤ depth + opened.card) :
    ∃ rest, depth = rest + 1 ∧ store.cells.size ≤ rest + (insert address opened).card ∧
      ∀ smaller < sizeOf value, store.Opened (insert address opened) smaller := by
  have inStore : insert address opened ⊆ Finset.range store.cells.size :=
    Finset.insert_subset (Finset.mem_range.mpr held.address_lt) bounds.inStore
  have opens : (insert address opened).card = opened.card + 1 :=
    Finset.card_insert_of_notMem (bounds.not_mem held)
  have within : (insert address opened).card ≤ store.cells.size := by
    simpa using Finset.card_le_card inStore
  refine ⟨depth - 1, by omega, by omega, fun smaller inside => ⟨inStore, ?_⟩⟩
  intro other member content otherHeld
  rcases Finset.mem_insert.mp member with rfl | earlier
  · rwa [← held.unique otherHeld]
  · exact inside.trans (bounds.larger other earlier content otherHeld)

theorem sizeOf_contents_le (entries : List (Value × Value)) :
    sizeOf (entries.map Prod.snd) ≤ sizeOf entries := by
  induction entries with
  | nil => simp
  | cons entry entries ih =>
      obtain ⟨key, content⟩ := entry
      simp only [List.map_cons, List.cons.sizeOf_spec, Prod.mk.sizeOf_spec]
      omega

mutual

theorem Holds.readTo_eq {stored : Stored} {value : Value} {opened : Finset Nat} {depth : Nat} :
    store.Holds stored value → store.Opened opened (sizeOf value) →
      store.cells.size ≤ depth + opened.card → store.readTo depth stored = value
  | .fixed, _, _ => by cases depth <;> rfl
  | .list found each, bounds, enough => by
      obtain ⟨rest, rfl, enoughInside, inside⟩ := bounds.enter (.list found each) enough
      have contents := each.map_readTo_eq (inside _ (by simp)) enoughInside
      simp only [readTo, found, contents]
  | .tuple found each, bounds, enough => by
      obtain ⟨rest, rfl, enoughInside, inside⟩ := bounds.enter (.tuple found each) enough
      have contents := each.map_readTo_eq (inside _ (by simp)) enoughInside
      simp only [readTo, found, contents]
  | @Holds.mapping _ _ flavour entries values found keys each, bounds, enough => by
      obtain ⟨rest, rfl, enoughInside, inside⟩ := bounds.enter (.mapping found keys each) enough
      have smaller : sizeOf (values.map Prod.snd) < sizeOf (Value.mapping flavour values) := by
        have := sizeOf_contents_le values
        simp only [Value.mapping.sizeOf_spec]
        omega
      have contents := each.map_readTo_eq (inside _ smaller) enoughInside
      have same : entries.map (fun entry => (entry.1, store.readTo rest entry.2)) = values := by
        refine eq_of_keys_of_contents ?_ ?_
        · simpa [Function.comp_def] using keys
        · simpa [Function.comp_def] using contents
      simp only [readTo, found, same]

theorem HoldsEach.map_readTo_eq {items : List Stored} {values : List Value}
    {opened : Finset Nat} {depth : Nat} :
    store.HoldsEach items values → store.Opened opened (sizeOf values) →
      store.cells.size ≤ depth + opened.card → items.map (store.readTo depth) = values
  | .nil, _, _ => rfl
  | .cons first rest, bounds, enough => by
      rw [List.map_cons, first.readTo_eq (bounds.inside (by simp; omega)) enough,
        rest.map_readTo_eq (bounds.inside (by simp)) enough]

end

/-- Reading gives what a stored value holds, however deep it goes. -/
theorem Holds.read_eq (held : store.Holds stored value) : store.read stored = value :=
  held.readTo_eq ⟨Finset.empty_subset _, by simp⟩ (by simp)

end Reading

section Growth

/-- Every container of one store is in the other, unchanged. -/
def KeptIn (store later : Store) : Prop :=
  ∀ (address : Nat) (cell : Cell),
    store.cells[address]? = some cell → later.cells[address]? = some cell

theorem KeptIn.refl : store.KeptIn store :=
  fun _ _ found => found

theorem KeptIn.trans {last : Store} (kept : store.KeptIn later) (keptOn : later.KeptIn last) :
    store.KeptIn last :=
  fun address cell found => keptOn address cell (kept address cell found)

theorem KeptIn.add (kept : store.KeptIn later) (cell : Cell) : store.KeptIn (later.add cell).2 := by
  intro address old found
  have earlier := kept address old found
  have inStore := (Array.getElem?_eq_some_iff.mp earlier).1
  simpa [Store.add, Array.getElem?_push, inStore.ne] using earlier

theorem KeptIn.size_le (kept : store.KeptIn later) : store.cells.size ≤ later.cells.size := by
  by_contra less
  have found := Array.getElem?_eq_getElem (not_le.mp less)
  exact (Array.getElem?_eq_some_iff.mp (kept _ _ found)).1.false

theorem getElem?_add (cell : Cell) : (store.add cell).2.cells[store.cells.size]? = some cell := by
  simp [add]

mutual

/-- New containers change nothing that was held before. -/
theorem Holds.keptIn {stored : Stored} {value : Value} (kept : store.KeptIn later) :
    store.Holds stored value → later.Holds stored value
  | .fixed => .fixed
  | .list found each => .list (kept _ _ found) (each.keptIn kept)
  | .tuple found each => .tuple (kept _ _ found) (each.keptIn kept)
  | .mapping found keys each => .mapping (kept _ _ found) keys (each.keptIn kept)

theorem HoldsEach.keptIn {items : List Stored} {values : List Value} (kept : store.KeptIn later) :
    store.HoldsEach items values → later.HoldsEach items values
  | .nil => .nil
  | .cons first rest => .cons (first.keptIn kept) (rest.keptIn kept)

end

/-- A stored value that was made on the way to a later store, where it holds a value. -/
structure Makes (store : Store) (made : Stored × Store) (value : Value) : Prop where
  kept : store.KeptIn made.2
  held : made.2.Holds made.1 value

structure MakesEach (store : Store) (made : List Stored × Store) (values : List Value) : Prop where
  kept : store.KeptIn made.2
  each : made.2.HoldsEach made.1 values

structure MakesEntries (store : Store) (made : List (Value × Stored) × Store)
    (values : List (Value × Value)) : Prop where
  kept : store.KeptIn made.2
  keys : made.1.map Prod.fst = values.map Prod.fst
  each : made.2.HoldsEach (made.1.map Prod.snd) (values.map Prod.snd)

/-- What stays shared is held as before. -/
theorem Holds.makes (held : store.Holds stored value) : store.Makes (stored, store) value :=
  ⟨.refl, held⟩

theorem MakesEach.list {made : List Stored × Store} {values : List Value}
    (makes : store.MakesEach made values) :
    store.Makes (made.2.add (.list made.1)) (.list values) :=
  ⟨makes.kept.add _, .list (getElem?_add _) (makes.each.keptIn (KeptIn.refl.add _))⟩

theorem MakesEntries.mapping {made : List (Value × Stored) × Store}
    {values : List (Value × Value)} (makes : store.MakesEntries made values) :
    store.Makes (made.2.add (.mapping .plain made.1)) (.object values) :=
  ⟨makes.kept.add _,
    .mapping (getElem?_add _) makes.keys (makes.each.keptIn (KeptIn.refl.add _))⟩

end Growth

section Narrowing

/-- Narrowing a value that answers a question makes the answer. -/
def Narrows (narrow : Stored → Store → Stored × Store) (answers : Value → Value → Prop) : Prop :=
  ∀ (store : Store) (stored : Stored) (value result : Value),
    store.Holds stored value → answers value result → store.Makes (narrow stored store) result

theorem narrowEach_makes {narrow : Stored → Store → Stored × Store}
    {answers : Value → Value → Prop} (narrows : Narrows narrow answers) {items : List Stored}
    {values results : List Value} (each : store.HoldsEach items values)
    (answered : List.Forall₂ answers values results) :
    store.MakesEach (narrowEach narrow items store) results := by
  induction answered generalizing items store with
  | nil =>
      cases each
      exact ⟨.refl, .nil⟩
  | cons answer _ ih =>
      cases each with
      | cons first rest =>
          have head := narrows _ _ _ _ first answer
          have tail := ih (rest.keptIn head.kept)
          exact ⟨head.kept.trans tail.kept, .cons (head.held.keptIn tail.kept) tail.each⟩

theorem narrowFields_makes {fields : List (Text × Schema)} {cells : List (Value × Stored)}
    {entries results : List (Value × Value)}
    (narrows : ∀ field ∈ fields,
      Narrows (narrow field.2) fun value result => field.2.parse value = .ok result)
    (keys : cells.map Prod.fst = entries.map Prod.fst)
    (each : store.HoldsEach (cells.map Prod.snd) (entries.map Prod.snd))
    (parsed : List.Forall₂ (fun field entry => entry.1 = .text field.1 ∧
      field.2.parse (Value.lookupText entries field.1) = .ok entry.2) fields results) :
    store.MakesEntries (narrowFields fields cells store) results := by
  induction parsed generalizing store with
  | nil => exact ⟨.refl, rfl, .nil⟩
  | @cons field entry _ _ both _ ih =>
      obtain ⟨named, answer⟩ := both
      have head := narrows field List.mem_cons_self _ _ _ _ (fieldOf_holds keys each field.1) answer
      have tail := ih (fun other member => narrows other (List.mem_cons_of_mem _ member))
        (each.keptIn head.kept)
      refine ⟨head.kept.trans tail.kept, ?_, .cons (head.held.keptIn tail.kept) tail.each⟩
      exact congrArg₂ List.cons named.symm tail.keys

variable {presence : Presence}

/-- An array is narrowed to a list of its own, item by item. -/
theorem exists_narrow_array {element : Schema} {refinements : List Refinement}
    {items narrowed : List Value}
    (narrows : Narrows (narrow element) fun value result => element.parse value = .ok result)
    (held : store.Holds stored value) (array : value.arrayItems? = some items)
    (answered : List.Forall₂ (fun item part => element.parse item = .ok part) items narrowed) :
    ∃ made, narrow (.array presence element refinements) stored store = made.2.add (.list made.1) ∧
      store.MakesEach made narrowed := by
  obtain ⟨cells, found, each⟩ := held.exists_items array
  exact ⟨_, by simp only [narrow, found], narrowEach_makes narrows each answered⟩

/-- An object is narrowed to a plain mapping of its own, field by field. -/
theorem exists_narrow_object {fields : List (Text × Schema)}
    {entries narrowed : List (Value × Value)}
    (narrows : ∀ field ∈ fields,
      Narrows (narrow field.2) fun value result => field.2.parse value = .ok result)
    (held : store.Holds stored value) (object : value.mappingEntries? = some entries)
    (answered : List.Forall₂ (fun field entry => entry.1 = .text field.1 ∧
      field.2.parse (Value.lookupText entries field.1) = .ok entry.2) fields narrowed) :
    ∃ made, narrow (.object presence fields) stored store =
        made.2.add (.mapping .plain made.1) ∧ store.MakesEntries made narrowed := by
  obtain ⟨cells, found, keys, each⟩ := held.exists_entries object
  exact ⟨_, by simp only [narrow, found], narrowFields_makes narrows keys each answered⟩

end Narrowing

end Store

namespace Schema

/-- No foreign schema in a schema returns anything but the value it is given. -/
def ForeignReturnGiven (schema : Schema) : Prop :=
  ∀ label respond, PartOf (.foreign label respond) schema →
    ∀ value result, respond value = .ok result → result = value

theorem ForeignReturnGiven.child {part schema : Schema} (given : schema.ForeignReturnGiven)
    (child : part.Child schema) : part.ForeignReturnGiven :=
  fun label respond nested => given label respond (nested.tail child)

theorem Buildable.foreignReturnGiven {custom : Refinement → Prop} {schema : Schema}
    (buildable : schema.Buildable custom) : schema.ForeignReturnGiven := by
  intro label respond nested
  cases buildable.regular.partOf nested

/-- Narrowing in a store makes the result of the parse. -/
theorem narrows_parse {schema : Schema} (given : schema.ForeignReturnGiven) :
    Store.Narrows (Store.narrow schema) fun value result => schema.parse value = .ok result := by
  induction schema using wellFounded_child.induction with
  | _ schema ih =>
      intro store stored value result held parsed
      cases schema with
      | foreign label respond =>
          cases given label respond .refl value result parsed
          exact held.makes
      | array presence element refinements =>
          have narrows := ih element .element (given.child .element)
          rcases parse_array_eq_ok_iff.mp parsed with ⟨⟨_, rfl⟩, rfl⟩ |
            ⟨_, items, narrowed, array, answered, _, rfl⟩
          · cases held
            exact Store.Holds.fixed.makes
          · obtain ⟨made, narrowedTo, makes⟩ :=
              Store.exists_narrow_array narrows held array answered
            rw [narrowedTo]
            exact makes.list
      | object presence fields =>
          have narrows (field) (member : field ∈ fields) :=
            ih field.2 (.field member) (given.child (.field member))
          rcases parse_object_eq_ok_iff.mp parsed with ⟨⟨_, rfl⟩, rfl⟩ |
            ⟨_, entries, narrowed, object, _, answered, rfl⟩
          · cases held
            exact Store.Holds.fixed.makes
          · obtain ⟨made, narrowedTo, makes⟩ :=
              Store.exists_narrow_object narrows held object answered
            rw [narrowedTo]
            exact makes.mapping
      | _ =>
          cases eq_of_parse_scalar parsed trivial rfl
          exact held.makes

/-- What is not rebuilt is the argument itself, and no container is made for it. -/
theorem narrow_of_not_rebuilds {schema : Schema} {store : Store} {stored : Stored} {value : Value}
    (held : store.Holds stored value) (shared : schema.rebuilds value = false) :
    Store.narrow schema stored store = (stored, store) := by
  cases schema with
  | array | object =>
      cases value <;> cases shared
      cases held
      rfl
  | _ => rfl

/-- What is rebuilt is a container that nothing stored before refers to. -/
theorem narrow_of_rebuilds {schema : Schema} {store : Store} {stored : Stored}
    {value result : Value} (given : schema.ForeignReturnGiven) (held : store.Holds stored value)
    (parsed : schema.parse value = .ok result) (rebuilt : schema.rebuilds value = true) :
    ∃ address ≥ store.cells.size, (Store.narrow schema stored store).1 = .cell address := by
  cases schema with
  | array presence element refinements =>
      rcases parse_array_eq_ok_iff.mp parsed with ⟨⟨_, rfl⟩, rfl⟩ |
        ⟨_, items, narrowed, array, answered, _, rfl⟩
      · cases rebuilt
      · obtain ⟨made, narrowedTo, makes⟩ := Store.exists_narrow_array
          (narrows_parse (given.child .element)) held array answered
        exact ⟨_, makes.kept.size_le, congrArg Prod.fst narrowedTo⟩
  | object presence fields =>
      rcases parse_object_eq_ok_iff.mp parsed with ⟨⟨_, rfl⟩, rfl⟩ |
        ⟨_, entries, narrowed, object, _, answered, rfl⟩
      · cases rebuilt
      · obtain ⟨made, narrowedTo, makes⟩ := Store.exists_narrow_object
          (fun field member => narrows_parse (given.child (.field member))) held object answered
        exact ⟨_, makes.kept.size_le, congrArg Prod.fst narrowedTo⟩
  | _ => cases rebuilt

end Schema

namespace Session

variable {session : Session} {schema : Schema} {argument : Stored} {value result : Value}

/-- A parse in a session answers what the parse of the held value answers.  If it returns, the
result can be read in its place in the store, and everything held before still reads the same. -/
theorem parse_of_ok (given : schema.ForeignReturnGiven)
    (held : session.store.Holds argument value) (parsed : schema.parse value = .ok result) :
    ∃ narrowed later,
      session.parse schema argument =
        (schema.run value, some narrowed, { session with store := later }) ∧
        later.read narrowed = result ∧
        ∀ other content, session.store.Holds other content → later.read other = content := by
  have makes := Schema.narrows_parse given session.store argument value result held parsed
  refine ⟨_, _, ?_, makes.held.read_eq, fun other content otherHeld =>
    (otherHeld.keptIn makes.kept).read_eq⟩
  have outcome : (schema.run value).outcome = .ok result := parsed
  simp only [parse, Session.value, held.read_eq, outcome]

/-- A parse that fails leaves the session as it is. -/
theorem parse_of_error {failure : Failure} (held : session.store.Holds argument value)
    (failed : schema.parse value = .error failure) :
    session.parse schema argument = (schema.run value, none, session) := by
  have outcome : (schema.run value).outcome = .error failure := failed
  simp only [parse, Session.value, held.read_eq, outcome]

end Session

end ClosedShape
