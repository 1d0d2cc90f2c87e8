import ClosedShape.Proofs.JsonRoundTrip
import Mathlib.Data.List.Infix
import Mathlib.Data.List.TakeWhile

/-!
# Long numerals

A reader goes through a text from its start and leaves the end of it.  Where it ends in a fault, the
text holds a numeral with more digits than an integer may have.  This is shown for one step of a
reader at a time, and here for the reader of JSON.
-/

namespace ClosedShape

/-- A run of digits, which underscores may group, has more of them than an integer may have. -/
def LongNumeral (text : List Char) (fault : Fault) : Prop :=
  ∃ run, run <:+: text ∧ (∀ c ∈ run, c.isDigit ∨ c = '_') ∧
    digitLimit < run.countP Char.isDigit ∧ fault = .numeralTooLong (run.countP Char.isDigit)

theorem LongNumeral.of_suffix {text rest : List Char} {fault : Fault}
    (long : LongNumeral rest fault) (suffix : rest <:+ text) : LongNumeral text fault := by
  obtain ⟨run, within, digits, many, named⟩ := long
  exact ⟨run, within.trans suffix.isInfix, digits, many, named⟩

/-- What comes after the first character that is not skipped. -/
theorem suffix_of_dropWhile {text rest : List Char} {skipped : Char → Bool} {c : Char}
    (same : text.dropWhile skipped = c :: rest) : rest <:+ text := by
  have whole : c :: rest <:+ text := by
    rw [← same]
    exact List.dropWhile_suffix skipped
  exact (List.suffix_cons c rest).trans whole

/-- What a reader does on a text: it leaves the end of the text, and it ends in a fault only where
there is a long numeral. -/
structure ReadsWithin {ε α : Type} (faulty : Fault → ε) (left : α → List Char) (text : List Char)
    (outcome : Except ε α) : Prop where
  suffix : ∀ result, outcome = .ok result → left result <:+ text
  numeral : ∀ fault, outcome = .error (faulty fault) → LongNumeral text fault

namespace ReadsWithin

variable {ε α β : Type} {faulty : Fault → ε} {left : α → List Char} {last : β → List Char}
  {text rest : List Char} {outcome : Except ε α} {next : α → Except ε β}

theorem of_ok {result : α} (suffix : left result <:+ text) :
    ReadsWithin faulty left text (.ok result) where
  suffix := by
    intro other same
    cases same
    exact suffix
  numeral := nofun

theorem of_pure {result : α} (suffix : left result <:+ text) :
    ReadsWithin faulty left text (pure result : Except ε α) :=
  of_ok suffix

theorem of_error {failure : ε} (noFault : ∀ fault, failure ≠ faulty fault) :
    ReadsWithin faulty left text (.error failure) where
  suffix := nofun
  numeral := by
    intro fault same
    exact absurd (Except.error.inj same) (noFault fault)

theorem of_suffix (reads : ReadsWithin faulty left rest outcome) (suffix : rest <:+ text) :
    ReadsWithin faulty left text outcome where
  suffix := fun result read => (reads.suffix result read).trans suffix
  numeral := fun fault failed => (reads.numeral fault failed).of_suffix suffix

/-- One reader after another.  The second starts where the first one ends. -/
theorem bind (reads : ReadsWithin faulty left text outcome)
    (goesOn : ∀ result, left result <:+ text →
      ReadsWithin faulty last (left result) (next result)) :
    ReadsWithin faulty last text (outcome >>= next) := by
  cases ended : outcome with
  | error failure =>
      refine ⟨nofun, ?_⟩
      intro fault same
      apply reads.numeral fault
      rw [ended]
      exact congrArg Except.error (Except.error.inj same)
  | ok result =>
      have suffix := reads.suffix result ended
      exact (goesOn result suffix).of_suffix suffix

end ReadsWithin

namespace Json

variable {α : Type} {text rest digits : List Char}

/-- What the reader of JSON does on a text. -/
abbrev Reads (left : α → List Char) (text : List Char) (outcome : Except ReadError α) : Prop :=
  ReadsWithin ReadError.faulty left text outcome

theorem reads_malformed {left : α → List Char} (reason : Reason) (remaining : Nat) :
    Reads left text (.error (.malformed reason remaining)) :=
  .of_error nofun

theorem skipSpace_suffix (text : List Char) : skipSpace text <:+ text :=
  List.dropWhile_suffix _

theorem hexUnit?_suffix {unit : Nat} (read : hexUnit? text = some (unit, rest)) :
    rest <:+ text := by
  unfold hexUnit? at read
  split at read
  · rename_i a b c d e others
    simp only [Option.bind_eq_bind, Option.bind_eq_some_iff, Option.some.injEq, Prod.mk.injEq]
      at read
    obtain ⟨_, _, _, _, _, _, _, _, _, rfl⟩ := read
    exact ⟨[a, b, c, d], rfl⟩
  · cases read

theorem reads_unicodeEscape (mark text : List Char) :
    Reads Prod.snd text (unicodeEscape mark text) := by
  unfold unicodeEscape
  split
  · exact reads_malformed _ _
  · rename_i unit rest read
    have suffix := hexUnit?_suffix read
    split
    · rename_i low _
      split
      · exact .of_ok suffix
      · split
        · exact reads_malformed _ _
        · rename_i second rest' readLow
          have inner : rest' <:+ '\\' :: 'u' :: low :=
            (hexUnit?_suffix readLow).trans ⟨['\\', 'u'], rfl⟩
          split
          · exact .of_ok (inner.trans suffix)
          · exact .of_ok suffix
    · exact .of_ok suffix

theorem reads_readString (start fuel : Nat) (text : List Char) :
    Reads Prod.snd text (readString start fuel text) := by
  induction fuel generalizing text with
  | zero => exact reads_malformed _ _
  | succ fuel ih =>
      have goesOn (c : CodePoint) (rest : List Char) :
          Reads Prod.snd rest (do
            let read ← readString start fuel rest
            return (c :: read.1, read.2)) :=
        (ih rest).bind fun _ _ => .of_pure List.suffix_rfl
      unfold readString
      split
      · exact reads_malformed _ _
      · exact .of_ok (List.suffix_cons _ _)
      · exact reads_malformed _ _
      · rename_i rest
        have escape := (reads_unicodeEscape ('u' :: rest) rest).bind fun result _ =>
          goesOn result.1 result.2
        exact escape.of_suffix ⟨['\\', 'u'], rfl⟩
      · rename_i c rest _
        split
        · exact reads_malformed _ _
        · exact (goesOn _ rest).of_suffix ⟨['\\', c], rfl⟩
      · split
        · exact reads_malformed _ _
        · exact (goesOn _ _).of_suffix (List.suffix_cons _ _)

theorem reads_readQuoted (text : List Char) : Reads Prod.snd text (readQuoted text) := by
  unfold readQuoted
  split
  · rename_i rest
    refine ReadsWithin.of_suffix ?_ (List.suffix_cons '"' rest)
    exact reads_readString _ _ rest
  · exact reads_malformed _ _

/-- The integer part of a number is made of the digits that the text starts with. -/
theorem integerPart_eq_some (split : integerPart text = some (digits, rest)) :
    text = digits ++ rest ∧ ∀ c ∈ digits, c.isDigit := by
  unfold integerPart at split
  split at split
  · cases split
    exact ⟨rfl, List.forall_mem_singleton.mpr rfl⟩
  · rename_i c others _
    split at split
    · rename_i digit
      cases split
      refine ⟨by simp, ?_⟩
      intro c member
      obtain rfl | member := List.mem_cons.mp member
      · exact digit
      · exact List.mem_takeWhile_imp member
    · cases split
  · cases split

theorem fractionPart_suffix (text : List Char) : (fractionPart text).2 <:+ text := by
  unfold fractionPart
  split
  · rename_i c rest
    split
    · exact (List.dropWhile_suffix _).trans ⟨['.', c], rfl⟩
    · exact List.suffix_rfl
  · exact List.suffix_rfl

theorem exponentPart_suffix (text : List Char) : (exponentPart text).2 <:+ text := by
  unfold exponentPart
  split
  · rename_i mark rest
    split
    · split
      rename_i sign digits signed
      have unsigned : digits <:+ rest := by
        split at signed <;> cases signed
        · exact List.suffix_cons _ _
        · exact List.suffix_cons _ _
        · exact List.suffix_rfl
      dsimp only
      split
      · exact List.suffix_rfl
      · exact (List.dropWhile_suffix _).trans (unsigned.trans (List.suffix_cons _ _))
    · exact List.suffix_rfl
  · exact List.suffix_rfl

theorem integerOfDigits_eq_error {negative : Bool} {fault : Fault}
    (failed : integerOfDigits negative digits = .error fault) :
    digitLimit < digits.length ∧ fault = .numeralTooLong digits.length := by
  unfold integerOfDigits at failed
  split at failed
  · rename_i long
    exact ⟨long, (Except.error.inj failed).symm⟩
  · cases failed

theorem reads_readNumber (text : List Char) : Reads Prod.snd text (readNumber text) := by
  unfold readNumber
  split
  rename_i sign unsigned signed
  have unsignedSuffix : unsigned <:+ text := by
    split at signed
    · cases signed
      exact List.suffix_cons _ _
    · cases signed
      exact List.suffix_rfl
  split
  · exact reads_malformed _ _
  · rename_i whole afterWhole split
    obtain ⟨rfl, allDigits⟩ := integerPart_eq_some split
    have restSuffix : (exponentPart (fractionPart afterWhole).2).2 <:+ text :=
      (exponentPart_suffix _).trans <| (fractionPart_suffix _).trans <|
        (List.suffix_append _ _).trans unsignedSuffix
    dsimp only
    split
    · split
      · exact .of_ok restSuffix
      · rename_i fault failed
        refine ⟨nofun, ?_⟩
        intro other same
        cases same
        obtain ⟨long, rfl⟩ := integerOfDigits_eq_error failed
        have count : whole.countP Char.isDigit = whole.length := List.countP_eq_length.mpr allDigits
        refine ⟨whole, ?_, fun c member => .inl (allDigits c member), by omega, by rw [count]⟩
        exact (List.prefix_append _ _).isInfix.trans unsignedSuffix.isInfix
    · split
      · exact .of_ok restSuffix
      · exact reads_malformed _ _

theorem afterWord?_suffix {word : List Char} (split : afterWord? word text = some rest) :
    rest <:+ text := by
  unfold afterWord? at split
  split at split
  · cases split
    exact List.drop_suffix _ _
  · cases split

theorem findSome?_afterWord?_suffix {words : List (List Char × Value)} {value : Value}
    (found : (words.findSome? fun word => (afterWord? word.1 text).map fun rest => (word.2, rest)) =
      some (value, rest)) : rest <:+ text := by
  obtain ⟨word, _, split⟩ := List.exists_of_findSome?_eq_some found
  obtain ⟨other, after, same⟩ := Option.map_eq_some_iff.mp split
  cases same
  exact afterWord?_suffix after

theorem reads_readAtom (text : List Char) : Reads Prod.snd text (readAtom text) := by
  unfold readAtom
  split
  · rename_i reading found
    exact .of_ok (findSome?_afterWord?_suffix found)
  · exact reads_readNumber text

/-- Values, items and entries are read one inside the other, so they are taken together, by
induction on how deep reading may go. -/
theorem reads_values (fuel : Nat) :
    (∀ text, Reads Prod.snd text (readValue fuel text)) ∧
    (∀ text, Reads Prod.snd text (readItems fuel text)) ∧
    ∀ text, Reads Prod.snd text (readEntries fuel text) := by
  induction fuel with
  | zero =>
      have stuck {α : Type} (reason : Reason) (text : List Char) :
          Reads (α := α × List Char) Prod.snd text (.error (.malformed reason text.length)) :=
        reads_malformed _ _
      exact ⟨stuck _, stuck _, stuck _⟩
  | succ fuel ih =>
      obtain ⟨value, items, entries⟩ := ih
      refine ⟨?_, ?_, ?_⟩
      · intro text
        unfold readValue
        split
        · exact (reads_readQuoted _).bind fun _ _ => .of_pure List.suffix_rfl
        · refine .of_suffix ?_ (List.suffix_cons _ _)
          split
          · rename_i same
            exact .of_ok (suffix_of_dropWhile same)
          · refine .of_suffix ?_ (skipSpace_suffix _)
            exact (items _).bind fun _ _ => .of_pure List.suffix_rfl
        · refine .of_suffix ?_ (List.suffix_cons _ _)
          split
          · rename_i same
            exact .of_ok (suffix_of_dropWhile same)
          · refine .of_suffix ?_ (skipSpace_suffix _)
            exact (entries _).bind fun _ _ => .of_pure List.suffix_rfl
        · exact reads_readAtom text
      · intro text
        unfold readItems
        refine (value text).bind ?_
        rintro ⟨item, rest⟩ -
        dsimp only
        split
        · rename_i same
          exact .of_pure (suffix_of_dropWhile same)
        · rename_i rest same
          refine .of_suffix ?_ ((skipSpace_suffix rest).trans (suffix_of_dropWhile same))
          exact (items _).bind fun _ _ => .of_pure List.suffix_rfl
        · exact reads_malformed _ _
      · intro text
        unfold readEntries
        refine (reads_readQuoted text).bind ?_
        rintro ⟨name, rest⟩ -
        dsimp only
        split
        · rename_i rest same
          refine .of_suffix ?_ ((skipSpace_suffix rest).trans (suffix_of_dropWhile same))
          refine (value _).bind ?_
          rintro ⟨item, rest⟩ -
          dsimp only
          split
          · rename_i same
            exact .of_pure (suffix_of_dropWhile same)
          · rename_i rest same
            refine .of_suffix ?_ ((skipSpace_suffix rest).trans (suffix_of_dropWhile same))
            exact (entries _).bind fun _ _ => .of_pure List.suffix_rfl
          · exact reads_malformed _ _
        · exact reads_malformed _ _

/-- The reader of JSON ends in a fault only where there is a long numeral. -/
theorem longNumeral_of_read_eq_faulty {fault : Fault}
    (failed : read text = .error (.faulty fault)) : LongNumeral text fault := by
  have reads : Reads (fun _ => []) text (read text) := by
    unfold read
    split
    · exact reads_malformed _ _
    · refine .of_suffix ?_ (skipSpace_suffix text)
      refine ((reads_values _).1 _).bind ?_
      rintro ⟨value, rest⟩ -
      dsimp only
      split
      · exact .of_pure (List.nil_suffix)
      · exact reads_malformed _ _
  exact reads.numeral fault failed

/-- A text that is nothing but a long integer is not read. -/
theorem read_of_long_digits {first : Char} {others : List Char}
    (digits : ∀ c ∈ first :: others, c.isDigit) (notZero : first ≠ '0')
    (long : digitLimit < others.length + 1) :
    read (first :: others) = .error (.faulty (.numeralTooLong (others.length + 1))) := by
  obtain ⟨digit, othersDigits⟩ := List.forall_mem_cons.mp digits
  have differs {c : Char} (noDigit : c.isDigit = false) : first ≠ c :=
    (ne_of_isDigit digit noDigit).symm
  have whole : integerPart (first :: others) = some (first :: others, []) := by
    rw [integerPart, if_pos digit]
    · rw [List.takeWhile_eq_self_iff.mpr othersDigits, List.dropWhile_eq_nil_iff.mpr othersDigits]
    · exact notZero
  have number : readNumber (first :: others) =
      .error (.faulty (.numeralTooLong (others.length + 1))) := by
    rw [readNumber]
    · simp [whole, fractionPart, exponentPart, integerOfDigits, long]
    · exact fun _ same => differs rfl (List.cons.inj same).1
  have value (fuel : Nat) : readValue (fuel + 1) (first :: others) =
      .error (.faulty (.numeralTooLong (others.length + 1))) := by
    rw [readValue_of_starts (differs rfl) (differs rfl) (differs rfl),
      (readAtom_of_digit others digit).1, number]
  have shown : isSpace first = false := by
    simp [isSpace, @differs ' ' rfl, @differs '\t' rfl, @differs '\n' rfl, @differs '\r' rfl]
  have noMark : (first :: others).head? ≠ some (Char.ofNat 0xfeff) := by
    rw [List.head?_cons, ne_eq, Option.some_inj]
    exact differs (by decide)
  rw [read, if_neg noMark, skipSpace_cons shown, value]
  rfl

end Json

end ClosedShape
