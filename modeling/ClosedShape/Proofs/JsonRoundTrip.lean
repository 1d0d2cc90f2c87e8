import ClosedShape.Proofs.JsonText
import ClosedShape.Proofs.NarrowedResult

/-!
# JSON reads back what it wrote

A value without doubles, whose objects have texts as keys, is written as a text that reads as the
same value, unless the two halves of a character stand together in one of its texts: they are read
as the character.  What is written is of ASCII, so that no encoding of characters and no way to end
lines can come between writing and reading.
-/

namespace ClosedShape

namespace Value

/-- A value that JSON gives back as it is: it holds nothing but `null`, truth values, integers that
can be written, texts, lists and objects with distinct texts as keys. -/
inductive IsJson : Value → Prop
  | null : IsJson .null
  | bool {truth : Bool} : IsJson (.bool truth)
  | int {number : Int} (short : number.natAbs < integerLimit) : IsJson (.int number)
  | text {content : Text} : IsJson (.text content)
  | list {items : List Value} (contents : ∀ item ∈ items, IsJson item) : IsJson (.list items)
  | object {entries : List (Value × Value)}
      (named : ∀ entry ∈ entries, ∃ name, entry.1 = .text name)
      (distinct : (entries.map Prod.fst).Nodup)
      (contents : ∀ entry ∈ entries, IsJson entry.2) : IsJson (.object entries)

section Entries

variable {α : Type} {entries : List (Value × α)}

theorem insert_of_fresh {key : Value} {content : α}
    (fresh : ∀ entry ∈ entries, entry.1.equals key = false) :
    insert entries key content = entries ++ [(key, content)] := by
  induction entries with
  | nil => rfl
  | cons entry entries ih =>
      rw [List.forall_mem_cons] at fresh
      rw [insert, fresh.1, if_neg Bool.false_ne_true, ih fresh.2, List.cons_append]

theorem ofEntries_of_distinct
    (distinct : KeysApart entries) :
    ofEntries entries = entries := by
  suffices inserted : ∀ built : List (Value × α),
      (built ++ entries).Pairwise (fun first second => first.1.equals second.1 = false) →
        entries.foldl (fun built entry => insert built entry.1 entry.2) built =
          built ++ entries from
    inserted [] distinct
  clear distinct
  induction entries with
  | nil => simp
  | cons entry entries ih =>
      intro built distinct
      have fresh : ∀ other ∈ built, other.1.equals entry.1 = false := fun other member =>
        (List.pairwise_append.mp distinct).2.2 other member entry List.mem_cons_self
      rw [List.foldl_cons, insert_of_fresh fresh, ih, List.append_assoc, List.singleton_append]
      rwa [List.append_assoc, List.singleton_append]

theorem insert_cases (entries : List (Value × α)) (key : Value) (content : α) :
    (insert entries key content).length = entries.length ∨
      insert entries key content = entries ++ [(key, content)] := by
  induction entries with
  | nil => exact .inr rfl
  | cons entry entries ih =>
      rw [insert]
      split
      · exact .inl rfl
      · exact ih.imp (congrArg Nat.succ) (congrArg (List.cons entry))

theorem foldl_insert_cases (built entries : List (Value × α)) :
    (entries.foldl (fun built entry => insert built entry.1 entry.2) built).length <
        built.length + entries.length ∨
      entries.foldl (fun built entry => insert built entry.1 entry.2) built =
        built ++ entries := by
  induction entries generalizing built with
  | nil => exact .inr (List.append_nil built).symm
  | cons entry entries ih =>
      rw [List.foldl_cons, List.length_cons]
      rcases insert_cases built entry.1 entry.2 with replaced | added
      · refine .inl ?_
        rcases ih (insert built entry.1 entry.2) with fewer | kept
        · omega
        · rw [kept, List.length_append]
          omega
      · refine (ih (insert built entry.1 entry.2)).imp (fun fewer => ?_) fun kept => ?_
        · rw [added, List.length_append, List.length_singleton] at fewer
          rw [added]
          omega
        · rw [kept, added, List.append_assoc, List.singleton_append]

/-- Entries of which none is lost are as they were given. -/
theorem ofEntries_of_length (kept : (ofEntries entries).length = entries.length) :
    ofEntries entries = entries :=
  (foldl_insert_cases [] entries).resolve_left fun fewer => by
    rw [List.length_nil, Nat.zero_add] at fewer
    exact absurd kept (Nat.ne_of_lt fewer)

end Entries

section Halves

mutual

/-- A value with a character in the place of every two halves that stand together in a text.  Of the
entries whose names become equal the last one counts. -/
def joinHalves : Value → Value
  | .text content => .text content.joinHalves
  | .list items => .list (joinHalvesItems items)
  | .mapping .plain entries => .object (ofEntries (joinHalvesEntries entries))
  | value => value

def joinHalvesItems : List Value → List Value
  | [] => []
  | item :: items => item.joinHalves :: joinHalvesItems items

def joinHalvesEntries : List (Value × Value) → List (Value × Value)
  | [] => []
  | (key, content) :: entries =>
      (key.joinHalves, content.joinHalves) :: joinHalvesEntries entries

end

variable {value : Value} {items : List Value} {entries : List (Value × Value)} {text : Text}

theorem joinHalvesItems_eq_map : joinHalvesItems items = items.map joinHalves := by
  induction items with
  | nil => rfl
  | cons item items ih => rw [joinHalvesItems, ih, List.map_cons]

theorem joinHalvesEntries_eq_map :
    joinHalvesEntries entries =
      entries.map fun entry => (entry.1.joinHalves, entry.2.joinHalves) := by
  induction entries with
  | nil => rfl
  | cons entry entries ih => rw [joinHalvesEntries, ih, List.map_cons]

/-- The texts of a value: itself, the names of its entries and the texts of its parts. -/
inductive HasText : Value → Text → Prop
  | text {content : Text} : HasText (.text content) content
  | item {items : List Value} {item : Value} {text : Text} (member : item ∈ items)
      (inside : HasText item text) : HasText (.list items) text
  | key {entries : List (Value × Value)} {entry : Value × Value} {text : Text}
      (member : entry ∈ entries) (inside : HasText entry.1 text) : HasText (.object entries) text
  | content {entries : List (Value × Value)} {entry : Value × Value} {text : Text}
      (member : entry ∈ entries) (inside : HasText entry.2 text) : HasText (.object entries) text

/-- In no text of a value the two halves of a character stand together. -/
def HalvesApart (value : Value) : Prop := ∀ text, value.HasText text → text.HalvesApart

theorem halvesApart_text_iff : (Value.text text).HalvesApart ↔ text.HalvesApart := by
  constructor
  · exact fun apart => apart text .text
  · rintro apart _ ⟨⟩
    exact apart

theorem halvesApart_list_iff :
    (Value.list items).HalvesApart ↔ ∀ item ∈ items, item.HalvesApart := by
  constructor
  · exact fun apart item member text inside => apart text (.item member inside)
  · rintro each text (_ | ⟨member, inside⟩)
    exact each _ member text inside

theorem halvesApart_object_iff :
    (Value.object entries).HalvesApart ↔
      ∀ entry ∈ entries, entry.1.HalvesApart ∧ entry.2.HalvesApart := by
  constructor
  · exact fun apart entry member => ⟨fun text inside => apart text (.key member inside),
      fun text inside => apart text (.content member inside)⟩
  · rintro each text (_ | _ | ⟨member, inside⟩ | ⟨member, inside⟩)
    · exact (each _ member).1 text inside
    · exact (each _ member).2 text inside

theorem map_eq_self_iff {α : Type} {items : List α} {change : α → α} :
    items.map change = items ↔ ∀ item ∈ items, change item = item := by
  simpa using List.map_inj_left (l := items) (f := change) (g := id)

/-- Joining halves leaves exactly the values as they are that have none to join. -/
theorem IsJson.joinHalves_eq_iff (isJson : value.IsJson) :
    value.joinHalves = value ↔ value.HalvesApart := by
  induction isJson with
  | null | bool | int => exact iff_of_true rfl nofun
  | text => rw [joinHalves, Value.text.injEq, Text.joinHalves_eq_iff, halvesApart_text_iff]
  | list _ ih =>
      rw [joinHalves, joinHalvesItems_eq_map, Value.list.injEq, map_eq_self_iff,
        halvesApart_list_iff]
      exact forall₂_congr ih
  | @object entries named distinct _ ih =>
      have each : entries.map (fun entry => (entry.1.joinHalves, entry.2.joinHalves)) = entries ↔
          ∀ entry ∈ entries, entry.1.HalvesApart ∧ entry.2.HalvesApart := by
        rw [map_eq_self_iff]
        refine forall₂_congr fun entry member => ?_
        obtain ⟨name, isText⟩ := named entry member
        rw [Prod.ext_iff, ih entry member, isText, joinHalves, Value.text.injEq,
          Text.joinHalves_eq_iff, halvesApart_text_iff]
      rw [halvesApart_object_iff, ← each, joinHalves, joinHalvesEntries_eq_map, Value.object,
        Value.mapping.injEq]
      constructor
      · rintro ⟨_, whole⟩
        -- If an entry were lost, too few would be left.
        have lengths := congrArg List.length whole
        rw [← ofEntries_of_length (lengths.trans (List.length_map _).symm), whole]
      · intro same
        rw [same]
        exact ⟨rfl, ofEntries_of_distinct (pairwise_equals_of_nodup named distinct)⟩

end Halves

end Value

namespace Json

variable {fuel : Nat} {value : Value} {chars blanks lead trail rest : List Char}

/-- Nothing but blanks, as they stand between the parts of a text. -/
def Blank (chars : List Char) : Prop := ∀ c ∈ chars, c = ' ' ∨ c = '\n'

/-- A text that reads as a value wherever it stands. -/
structure Spells (value : Value) (chars : List Char) : Prop where
  starts : ∃ first others, chars = first :: others ∧ isSpace first = false ∧ first ≠ ']'
  reads : ∀ fuel rest, 2 * chars.length ≤ fuel → Ends rest →
    readValue (fuel + 1) (chars ++ rest) = .ok (value, rest)
  plain : PlainLines chars

section Blanks

theorem Blank.skipSpace_append (blank : Blank blanks) (rest : List Char) :
    skipSpace (blanks ++ rest) = skipSpace rest := by
  refine List.dropWhile_append_of_pos fun c member => ?_
  rcases blank c member with rfl | rfl <;> rfl

theorem Blank.append {others : List Char} (blank : Blank blanks) (otherBlank : Blank others) :
    Blank (blanks ++ others) :=
  List.forall_mem_append.mpr ⟨blank, otherBlank⟩

theorem Blank.plainLines (blank : Blank blanks) : PlainLines blanks := by
  intro c member
  rcases blank c member with rfl | rfl <;> decide

theorem skipSpace_cons {c : Char} (shown : isSpace c = false) :
    skipSpace (c :: rest) = c :: rest := by
  simp [skipSpace, shown]

/-- After a part come blanks, a separator or a closing bracket, and none of these go on a number. -/
theorem Blank.ends {c : Char} (blank : Blank blanks)
    (noNumber : c.isDigit = false ∧ c ≠ '.' ∧ c ≠ 'e' ∧ c ≠ 'E') : Ends (blanks ++ c :: rest) := by
  intro first others equal
  cases blanks with
  | nil =>
      cases equal
      exact noNumber
  | cons space blanks =>
      cases equal
      rcases blank first List.mem_cons_self with rfl | rfl <;> decide

theorem Ends.comma (rest : List Char) : Ends (',' :: rest) := by
  rintro c others ⟨⟩
  decide

theorem Spells.skipSpace_append (spells : Spells value chars) (rest : List Char) :
    skipSpace (chars ++ rest) = chars ++ rest := by
  obtain ⟨first, others, rfl, shown, _⟩ := spells.starts
  exact skipSpace_cons shown

theorem Spells.length_pos (spells : Spells value chars) : 0 < chars.length := by
  obtain ⟨first, others, rfl, _⟩ := spells.starts
  exact Nat.succ_pos _

end Blanks

section Atoms

theorem spells_null : Spells .null "null".toList where
  starts := ⟨'n', ['u', 'l', 'l'], rfl, rfl, by decide⟩
  reads _ _ _ _ := rfl
  plain := plainLines_of_all rfl

theorem spells_bool (truth : Bool) :
    Spells (.bool truth) (if truth then "true" else "false").toList := by
  cases truth with
  | false =>
      refine ⟨⟨'f', ['a', 'l', 's', 'e'], rfl, rfl, by decide⟩, fun _ _ _ _ => rfl, ?_⟩
      exact plainLines_of_all rfl
  | true =>
      refine ⟨⟨'t', ['r', 'u', 'e'], rfl, rfl, by decide⟩, fun _ _ _ _ => rfl, ?_⟩
      exact plainLines_of_all rfl

theorem readValue_of_starts {c : Char} (noText : c ≠ '"') (noList : c ≠ '[')
    (noObject : c ≠ '\x7b') : readValue (fuel + 1) (c :: rest) = readAtom (c :: rest) := by
  rw [readValue]
  all_goals simp [noText, noList, noObject]

theorem spells_int {number : Int} (short : number.natAbs < integerLimit) :
    Spells (.int number) (toString number).toList := by
  obtain ⟨first, others, text, shown, noClose, noText, noList, noObject⟩ :
      ∃ first others, (toString number).toList = first :: others ∧ isSpace first = false ∧
        first ≠ ']' ∧ first ≠ '"' ∧ first ≠ '[' ∧ first ≠ '\x7b' := by
    obtain ⟨first, others, digits, allDigits⟩ := exists_digits number.natAbs
    rw [toList_toString]
    split
    · exact ⟨'-', _, rfl, by decide⟩
    · have differs {c : Char} (noDigit : c.isDigit = false) : first ≠ c :=
        (ne_of_isDigit (allDigits first List.mem_cons_self) noDigit).symm
      refine ⟨first, others, digits, ?_, differs rfl, differs rfl, differs rfl, differs rfl⟩
      simp [isSpace, @differs ' ' rfl, @differs '\t' rfl, @differs '\n' rfl, @differs '\r' rfl]
  refine ⟨⟨first, others, text, shown, noClose⟩, fun fuel rest _ ends => ?_,
    plainLines_toString number⟩
  rw [← readAtom_toString short ends, text]
  exact readValue_of_starts noText noList noObject

theorem spells_text (content : Text) :
    Spells (.text content.joinHalves) (quote true content).toList where
  starts := by
    rw [toList_quote]
    exact ⟨'"', _, rfl, rfl, by decide⟩
  reads := by
    intro fuel rest _ _
    have read := readQuoted_quote true content rest
    rw [toList_quote, List.append_assoc, List.cons_append] at read ⊢
    rw [readValue, read]
    rfl
  plain := plainLines_quote content

end Atoms

section Containers

theorem exists_intercalate_eq (separator text : List Char) (texts : List (List Char)) :
    ∃ others, separator.intercalate (text :: texts) = text ++ others := by
  cases texts with
  | nil => exact ⟨[], by simp⟩
  | cons next texts => exact ⟨_, by rw [List.intercalate_cons_cons, List.append_assoc]⟩

/-- After a comma the next part is read from its first character on. -/
theorem Blank.skipSpace_intercalate {text : List Char} {c : Char} {others : List Char}
    (blank : Blank blanks) (separator : List Char) (starts : text = c :: others)
    (shown : isSpace c = false) (texts : List (List Char)) (rest : List Char) :
    skipSpace (blanks ++ (separator.intercalate (text :: texts) ++ rest)) =
      separator.intercalate (text :: texts) ++ rest := by
  obtain ⟨more, equal⟩ := exists_intercalate_eq separator text texts
  rw [blank.skipSpace_append, equal, starts, List.cons_append, List.cons_append,
    skipSpace_cons shown]

theorem Blank.skipSpace_cons {c : Char} (blank : Blank blanks) (shown : isSpace c = false) :
    skipSpace (blanks ++ c :: rest) = c :: rest := by
  rw [blank.skipSpace_append, Json.skipSpace_cons shown]

/-- Items between commas are read up to the closing bracket. -/
theorem readItems_intercalate {item : Value} {items : List Value} {text : List Char}
    {texts : List (List Char)} (blank : Blank blanks) (trailBlank : Blank trail)
    (first : Spells item text) (each : List.Forall₂ Spells items texts)
    (room : 2 * ((',' :: blanks).intercalate (text :: texts)).length ≤ fuel) :
    readItems (fuel + 2) ((',' :: blanks).intercalate (text :: texts) ++ (trail ++ ']' :: rest)) =
      .ok (item :: items, rest) := by
  induction each generalizing fuel item text with
  | nil =>
      rw [List.intercalate_singleton] at room ⊢
      have read := first.reads fuel (trail ++ ']' :: rest) room (trailBlank.ends (by decide))
      rw [readItems, read]
      simp only [bind, Except.bind, trailBlank.skipSpace_cons (c := ']') rfl]
      rfl
  | @cons next nextText items texts nextSpells _ ih =>
      simp only [List.intercalate_cons_cons, List.append_assoc, List.cons_append,
        List.length_append, List.length_cons] at room ⊢
      have nonempty := first.length_pos
      obtain ⟨less, rfl⟩ : ∃ less, fuel = less + 1 := ⟨fuel - 1, by omega⟩
      obtain ⟨c, more, starts, shown, _⟩ := nextSpells.starts
      have opening :=
        blank.skipSpace_intercalate (',' :: blanks) starts shown texts (trail ++ ']' :: rest)
      have others := @ih less next nextText nextSpells (by omega)
      rw [readItems, first.reads (less + 1) _ (by omega) (.comma _)]
      simp only [bind, Except.bind, skipSpace_cons (c := ',') rfl, opening, others]
      rfl

/-- A text that stands for one entry of an object. -/
inductive SpellsEntry (blanks : List Char) : Value × Value → List Char → Prop
  | entry {name : Text} {content : Value} {text : List Char} (spells : Spells content text) :
      SpellsEntry blanks (.text name.joinHalves, content)
        ((quote true name).toList ++ ':' :: (blanks ++ text))

theorem SpellsEntry.exists_eq {entry : Value × Value} {text : List Char}
    (spells : SpellsEntry blanks entry text) : ∃ others, text = '"' :: others := by
  cases spells with
  | entry =>
      rw [toList_quote]
      exact ⟨_, rfl⟩

/-- Entries between commas are read up to the closing brace. -/
theorem readEntries_intercalate {keyBlanks : List Char} {entry : Value × Value}
    {entries : List (Value × Value)} {text : List Char} {texts : List (List Char)}
    (blank : Blank blanks) (keyBlank : Blank keyBlanks) (trailBlank : Blank trail)
    (first : SpellsEntry keyBlanks entry text)
    (each : List.Forall₂ (SpellsEntry keyBlanks) entries texts)
    (room : 2 * ((',' :: blanks).intercalate (text :: texts)).length ≤ fuel) :
    readEntries (fuel + 2)
        ((',' :: blanks).intercalate (text :: texts) ++ (trail ++ '\x7d' :: rest)) =
      .ok (entry :: entries, rest) := by
  induction each generalizing fuel entry text with
  | nil =>
      obtain @⟨name, content, text, spells⟩ := first
      rw [List.intercalate_singleton] at room ⊢
      rw [List.length_append, List.length_cons, List.length_append] at room
      have content := spells.reads fuel (trail ++ '\x7d' :: rest) (by omega)
        (trailBlank.ends (by decide))
      rw [List.append_assoc, List.cons_append, List.append_assoc, readEntries, readQuoted_quote]
      simp only [bind, Except.bind, skipSpace_cons (c := ':') rfl, keyBlank.skipSpace_append,
        spells.skipSpace_append, content, trailBlank.skipSpace_cons (c := '\x7d') rfl]
      rfl
  | @cons next nextText entries texts nextSpells _ ih =>
      obtain @⟨name, content, text, spells⟩ := first
      simp only [List.intercalate_cons_cons, List.append_assoc, List.cons_append,
        List.length_append, List.length_cons] at room ⊢
      obtain ⟨less, rfl⟩ : ∃ less, fuel = less + 1 := ⟨fuel - 1, by omega⟩
      obtain ⟨more, starts⟩ := nextSpells.exists_eq
      have opening :=
        blank.skipSpace_intercalate (',' :: blanks) starts rfl texts (trail ++ '\x7d' :: rest)
      have others := @ih less next nextText nextSpells (by omega)
      have content := spells.reads (less + 1) _ (by omega) (.comma (blanks ++
        ((',' :: blanks).intercalate (nextText :: texts) ++ (trail ++ '\x7d' :: rest))))
      rw [readEntries, readQuoted_quote]
      simp only [bind, Except.bind, skipSpace_cons (c := ':') rfl, keyBlank.skipSpace_append,
        spells.skipSpace_append, content, skipSpace_cons (c := ',') rfl, opening, others]
      rfl

theorem plainLines_intercalate {separator : List Char} {texts : List (List Char)}
    (plain : PlainLines separator) (each : ∀ text ∈ texts, PlainLines text) :
    PlainLines (separator.intercalate texts) := by
  induction texts with
  | nil => exact plainLines_nil
  | cons text texts ih =>
      rw [List.forall_mem_cons] at each
      cases texts with
      | nil =>
          rw [List.intercalate_singleton]
          exact each.1
      | cons next texts =>
          rw [List.intercalate_cons_cons]
          exact plainLines_append.mpr ⟨plainLines_append.mpr ⟨each.1, plain⟩, ih each.2⟩

theorem plainLines_between {texts : List (List Char)} {close : Char} (blank : Blank blanks)
    (leadBlank : Blank lead) (trailBlank : Blank trail)
    (each : ∀ text ∈ texts, PlainLines text) (closePlain : close.toNat < 0x80 ∧ close ≠ '\r') :
    PlainLines (lead ++ ((',' :: blanks).intercalate texts ++ (trail ++ [close]))) := by
  have separator : PlainLines (',' :: blanks) := plainLines_cons.mpr ⟨by decide, blank.plainLines⟩
  simp only [plainLines_append, plainLines_cons]
  exact ⟨leadBlank.plainLines, plainLines_intercalate separator each, trailBlank.plainLines,
    closePlain, plainLines_nil⟩

theorem plain_of_forall₂ {ι : Type} {spells : ι → List Char → Prop} {parts : List ι}
    {texts : List (List Char)} (each : List.Forall₂ spells parts texts)
    (plain : ∀ part text, spells part text → PlainLines text) :
    ∀ text ∈ texts, PlainLines text := by
  intro text member
  obtain ⟨part, _, spelled⟩ := exists_related_of_mem each member
  exact plain part text spelled

theorem spells_empty_list : Spells (.list []) ['[', ']'] where
  starts := ⟨'[', [']'], rfl, rfl, by decide⟩
  reads _ _ _ _ := rfl
  plain := plainLines_of_all rfl

theorem spells_list {item : Value} {items : List Value} {text : List Char}
    {texts : List (List Char)} (blank : Blank blanks) (leadBlank : Blank lead)
    (trailBlank : Blank trail) (first : Spells item text) (each : List.Forall₂ Spells items texts) :
    Spells (.list (item :: items))
      ('[' :: (lead ++ ((',' :: blanks).intercalate (text :: texts) ++ (trail ++ [']'])))) where
  starts := ⟨'[', _, rfl, rfl, by decide⟩
  reads := by
    intro fuel rest room _
    simp only [List.length_append, List.length_cons, List.length_nil] at room
    obtain ⟨less, rfl⟩ : ∃ less, fuel = less + 2 := ⟨fuel - 2, by omega⟩
    have read := @readItems_intercalate less blanks trail rest _ _ _ _ blank trailBlank first each
      (by omega)
    obtain ⟨c, more, starts, shown, noClose⟩ := first.starts
    have opening :=
      leadBlank.skipSpace_intercalate (',' :: blanks) starts shown texts (trail ++ ']' :: rest)
    rw [List.cons_append, List.append_assoc, List.append_assoc, List.append_assoc,
      List.singleton_append, readValue, opening]
    split
    next closed =>
      obtain ⟨others, joined⟩ := exists_intercalate_eq (',' :: blanks) text texts
      rw [joined, starts] at closed
      cases closed
      exact absurd rfl noClose
    next =>
      rw [read]
      rfl
  plain := by
    refine plainLines_cons.mpr ⟨by decide, plainLines_between blank leadBlank trailBlank ?_
      (by decide)⟩
    exact plain_of_forall₂ (.cons first each) fun _ _ spells => spells.plain

theorem SpellsEntry.plain {entry : Value × Value} {text : List Char} (blank : Blank blanks)
    (spells : SpellsEntry blanks entry text) : PlainLines text := by
  cases spells with
  | entry spells =>
      refine plainLines_append.mpr ⟨plainLines_quote _, plainLines_cons.mpr ⟨by decide, ?_⟩⟩
      exact plainLines_append.mpr ⟨blank.plainLines, spells.plain⟩

theorem spells_empty_object : Spells (.object []) ['\x7b', '\x7d'] where
  starts := ⟨'\x7b', ['\x7d'], rfl, rfl, by decide⟩
  reads _ _ _ _ := rfl
  plain := plainLines_of_all rfl

theorem spells_object {keyBlanks : List Char} {entry : Value × Value}
    {entries : List (Value × Value)} {text : List Char} {texts : List (List Char)}
    (blank : Blank blanks) (keyBlank : Blank keyBlanks) (leadBlank : Blank lead)
    (trailBlank : Blank trail) (first : SpellsEntry keyBlanks entry text)
    (each : List.Forall₂ (SpellsEntry keyBlanks) entries texts) :
    Spells (.object (Value.ofEntries (entry :: entries)))
      ('\x7b' ::
        (lead ++ ((',' :: blanks).intercalate (text :: texts) ++ (trail ++ ['\x7d'])))) where
  starts := ⟨'\x7b', _, rfl, rfl, by decide⟩
  reads := by
    intro fuel rest room _
    simp only [List.length_append, List.length_cons, List.length_nil] at room
    obtain ⟨less, rfl⟩ : ∃ less, fuel = less + 2 := ⟨fuel - 2, by omega⟩
    have read := @readEntries_intercalate less blanks trail rest _ _ _ _ _ blank keyBlank
      trailBlank first each (by omega)
    obtain ⟨more, starts⟩ := first.exists_eq
    have opening := leadBlank.skipSpace_intercalate (',' :: blanks) starts rfl texts
      (trail ++ '\x7d' :: rest)
    rw [List.cons_append, List.append_assoc, List.append_assoc, List.append_assoc,
      List.singleton_append, readValue, opening]
    split
    next closed =>
      obtain ⟨others, joined⟩ := exists_intercalate_eq (',' :: blanks) text texts
      rw [joined, starts] at closed
      cases closed
    next =>
      rw [read]
      rfl
  plain := by
    refine plainLines_cons.mpr ⟨by decide, plainLines_between blank leadBlank trailBlank ?_
      (by decide)⟩
    exact plain_of_forall₂ (.cons first each) fun _ _ spells => spells.plain keyBlank

end Containers

section Layouts

variable {layout : Layout} {depth : Nat}

/-- The separators are a comma and a colon with blanks after them, and what is beyond ASCII is
escaped. -/
structure Layout.Standard (layout : Layout) : Prop where
  ascii : layout.ascii = true
  comma : ∃ blanks, Blank blanks ∧ layout.itemSeparator.toList = ',' :: blanks
  colon : ∃ blanks, Blank blanks ∧ layout.keySeparator.toList = ':' :: blanks

theorem indented_standard : Layout.indented.Standard where
  ascii := rfl
  comma := ⟨[], nofun, rfl⟩
  colon := ⟨[' '], by simp [Blank], rfl⟩

theorem Layout.toList_wrap_nil (left right : String) :
    (layout.wrap depth left right []).toList = left.toList ++ right.toList :=
  String.toList_append

/-- Between the brackets of a container there are its parts with commas between them, and blanks. -/
theorem Layout.Standard.exists_wrap_eq (standard : layout.Standard) (depth : Nat) :
    ∃ lead blanks trail, Blank lead ∧ Blank blanks ∧ Blank trail ∧
      ∀ left right part parts, (layout.wrap depth left right (part :: parts)).toList =
        left.toList ++ (lead ++ ((',' :: blanks).intercalate
          (part.toList :: parts.map String.toList) ++ (trail ++ right.toList))) := by
  obtain ⟨blanks, blank, comma⟩ := standard.comma
  cases indent : layout.indent with
  | none =>
      refine ⟨[], blanks, [], nofun, blank, nofun, fun left right part parts => ?_⟩
      simp [wrap, indent, comma]
  | some width =>
      have line (level : Nat) :
          Blank ("\n" ++ String.ofList (List.replicate (width * level) ' ')).toList := by
        intro c member
        simp at member
        tauto
      refine ⟨_, blanks ++ _, _, line (depth + 1), blank.append (line (depth + 1)), line depth,
        fun left right part parts => ?_⟩
      simp [wrap, indent, comma]

theorem exists_writeItems {items : List Value}
    (each : ∀ item ∈ items,
      ∃ text, writeAt layout depth item = .ok text ∧ Spells item.joinHalves text.toList) :
    ∃ texts, writeItems layout depth items = .ok texts ∧
      List.Forall₂ Spells (items.map Value.joinHalves) (texts.map String.toList) := by
  induction items with
  | nil => exact ⟨[], rfl, .nil⟩
  | cons item items ih =>
      rw [List.forall_mem_cons] at each
      obtain ⟨⟨text, written, spells⟩, others⟩ := each
      obtain ⟨texts, othersWritten, othersSpell⟩ := ih others
      refine ⟨text :: texts, ?_, .cons spells othersSpell⟩
      simp only [writeItems, written, othersWritten, bind, Except.bind, pure, Except.pure]

theorem exists_writeEntries {entries : List (Value × Value)} {keyBlanks : List Char}
    (standard : layout.Standard) (colon : layout.keySeparator.toList = ':' :: keyBlanks)
    (named : ∀ entry ∈ entries, ∃ name, entry.1 = .text name)
    (each : ∀ entry ∈ entries, ∃ text,
      writeAt layout depth entry.2 = .ok text ∧ Spells entry.2.joinHalves text.toList) :
    ∃ texts, writeEntries layout depth entries = .ok texts ∧
      List.Forall₂ (SpellsEntry keyBlanks)
        (entries.map fun entry => (entry.1.joinHalves, entry.2.joinHalves))
        (texts.map String.toList) := by
  induction entries with
  | nil => exact ⟨[], rfl, .nil⟩
  | cons entry entries ih =>
      rw [List.forall_mem_cons] at each named
      obtain ⟨⟨name, isText⟩, othersNamed⟩ := named
      obtain ⟨⟨text, written, spells⟩, others⟩ := each
      obtain ⟨texts, othersWritten, othersSpell⟩ := ih othersNamed others
      obtain ⟨key, content⟩ := entry
      cases isText
      refine ⟨(quote true name ++ layout.keySeparator ++ text) :: texts, ?_, .cons ?_ othersSpell⟩
      · simp only [writeEntries, keyText, written, othersWritten, standard.ascii, bind, Except.bind,
          pure, Except.pure]
      · rw [String.toList_append, String.toList_append, colon, List.append_assoc, List.cons_append]
        exact .entry spells

/-- What JSON can give back is written as a text that reads as the same value, but for halves that
are joined. -/
theorem exists_writeAt (standard : layout.Standard) (isJson : value.IsJson) (depth : Nat) :
    ∃ text, writeAt layout depth value = .ok text ∧ Spells value.joinHalves text.toList := by
  induction isJson generalizing depth with
  | null => exact ⟨_, rfl, spells_null⟩
  | bool => exact ⟨_, rfl, spells_bool _⟩
  | int short =>
      refine ⟨_, ?_, spells_int short⟩
      rw [writeAt, Value.integerText, if_pos short]
  | text =>
      refine ⟨_, ?_, spells_text _⟩
      rw [writeAt, standard.ascii]
  | @list items _ ih =>
      obtain ⟨texts, written, spell⟩ := exists_writeItems fun item member =>
        ih item member (depth + 1)
      refine ⟨layout.wrap depth "[" "]" texts, ?_, ?_⟩
      · simp only [writeAt, written, bind, Except.bind, pure, Except.pure]
      · rw [Value.joinHalves, Value.joinHalvesItems_eq_map]
        generalize items.map Value.joinHalves = items at spell
        cases texts with
        | nil =>
            cases spell
            rw [Layout.toList_wrap_nil]
            exact spells_empty_list
        | cons text texts =>
            obtain _ | ⟨first, others⟩ := spell
            obtain ⟨lead, blanks, trail, leadBlank, blank, trailBlank, wrapped⟩ :=
              standard.exists_wrap_eq depth
            rw [wrapped]
            exact spells_list blank leadBlank trailBlank first others
  | @object entries named _ _ ih =>
      obtain ⟨keyBlanks, keyBlank, colon⟩ := standard.colon
      obtain ⟨texts, written, spell⟩ := exists_writeEntries standard colon named
        fun entry member => ih entry member (depth + 1)
      refine ⟨layout.wrap depth "\x7b" "\x7d" texts, ?_, ?_⟩
      · simp only [writeAt, written, bind, Except.bind, pure, Except.pure]
      · rw [Value.joinHalves, Value.joinHalvesEntries_eq_map]
        generalize entries.map (fun entry => (entry.1.joinHalves, entry.2.joinHalves)) = entries
          at spell
        cases texts with
        | nil =>
            cases spell
            rw [Layout.toList_wrap_nil]
            exact spells_empty_object
        | cons text texts =>
            obtain _ | ⟨first, others⟩ := spell
            obtain ⟨lead, blanks, trail, leadBlank, blank, trailBlank, wrapped⟩ :=
              standard.exists_wrap_eq depth
            rw [wrapped]
            exact spells_object blank keyBlank leadBlank trailBlank first others

theorem Spells.read_eq (spells : Spells value chars) : read chars = .ok value := by
  obtain ⟨first, others, text, shown, _⟩ := spells.starts
  have noMark : chars.head? ≠ some (Char.ofNat 0xfeff) := by
    intro marked
    have member := List.mem_of_mem_head? (Option.mem_def.mpr marked)
    exact absurd (spells.plain _ member).1 (by decide)
  have whole := spells.reads (2 * chars.length + 1) [] (by omega) nofun
  rw [List.append_nil] at whole
  have starting := spells.skipSpace_append []
  rw [List.append_nil] at starting
  rw [read, if_neg noMark, starting]
  simp only [bind, Except.bind, whole]
  rfl

end Layouts

end Json

end ClosedShape
