import ClosedShape.Proofs.LongNumeral
import ClosedShape.Toml

/-!
# Long numerals in TOML

The reader of TOML ends in a fault only where there is a long decimal integer.  Dates, times and
integers in other bases have no such limit.
-/

namespace ClosedShape.Calendar

variable {text rest : List Char}

theorem readDigits_suffix {count number : Nat}
    (read : readDigits count text = some (number, rest)) :
    rest <:+ text := by
  simp only [readDigits] at read
  split at read
  · cases read
    exact List.drop_suffix _ _
  · cases read

theorem readMark_suffix {mark : Char} (read : readMark mark text = some rest) : rest <:+ text := by
  unfold readMark at read
  split at read
  · split at read
    · cases read
      exact List.suffix_cons _ _
    · cases read
  · cases read

theorem readFraction_suffix (text : List Char) : (readFraction text).2 <:+ text := by
  unfold readFraction
  split
  · dsimp only
    split
    · exact List.suffix_rfl
    · exact (List.dropWhile_suffix _).trans (List.suffix_cons _ _)
  · exact List.suffix_rfl

theorem readDate_suffix {day : Date} (read : readDate text = some (day, rest)) :
    rest <:+ text := by
  simp only [readDate, Option.bind_eq_bind, Option.bind_eq_some_iff, Prod.exists] at read
  obtain ⟨_, _, year, _, mark, _, _, month, _, mark', _, _, date, read⟩ := read
  split at read
  · cases read
    exact (readDigits_suffix date).trans <| (readMark_suffix mark').trans <|
      (readDigits_suffix month).trans <| (readMark_suffix mark).trans (readDigits_suffix year)
  · cases read

theorem readTime_suffix {clock : TimeOfDay} (read : readTime text = some (clock, rest)) :
    rest <:+ text := by
  simp only [readTime, Option.bind_eq_bind, Option.bind_eq_some_iff, Prod.exists] at read
  obtain ⟨_, _, hour, _, mark, _, _, minute, _, mark', _, _, second, read⟩ := read
  split at read
  · cases read
    exact (readFraction_suffix _).trans <| (readDigits_suffix second).trans <|
      (readMark_suffix mark').trans <| (readDigits_suffix minute).trans <|
        (readMark_suffix mark).trans (readDigits_suffix hour)
  · cases read

theorem readOffset_suffix {seconds : Int} (read : readOffset text = some (seconds, rest)) :
    rest <:+ text := by
  unfold readOffset at read
  split at read
  · cases read
    exact List.suffix_cons _ _
  · cases read
    exact List.suffix_cons _ _
  · rename_i sign after _ _
    by_cases unsigned : (sign != '+' && sign != '-') = true
    · simp [unsigned] at read
    · simp only [unsigned, Bool.false_eq_true, if_false, Option.bind_eq_bind,
        Option.bind_eq_some_iff, Prod.exists] at read
      obtain ⟨_, _, hours, _, mark, _, _, minutes, read⟩ := read
      split at read
      · cases read
        exact (readDigits_suffix minutes).trans <| (readMark_suffix mark).trans <|
          (readDigits_suffix hours).trans (List.suffix_cons _ _)
      · cases read
  · cases read

theorem readClock_suffix {clock : TimeOfDay} {offset : Option Int}
    (read : readClock text = some (clock, offset, rest)) : rest <:+ text := by
  unfold readClock at read
  split at read
  · rename_i separator others
    split at read
    · obtain ⟨⟨time, after⟩, readTime, same⟩ := Option.map_eq_some_iff.mp read
      have suffix : after <:+ separator :: others :=
        (readTime_suffix readTime).trans (List.suffix_cons _ _)
      dsimp only at same
      split at same
      · rename_i readOffset
        cases same
        exact (readOffset_suffix readOffset).trans suffix
      · cases same
        exact suffix
    · cases read
  · cases read

end ClosedShape.Calendar

namespace ClosedShape.Toml

variable {α : Type} {text rest digits : List Char}

/-- What the reader of TOML does on a text. -/
abbrev Reads (left : α → List Char) (text : List Char) (outcome : Except ReadError α) : Prop :=
  ReadsWithin ReadError.faulty left text outcome

theorem reads_malformed {left : α → List Char} (reason : Reason) (rest : List Char) :
    Reads left text (malformed reason rest) :=
  .of_error nofun

theorem skipBlanks_suffix (text : List Char) : skipBlanks text <:+ text :=
  List.dropWhile_suffix _

theorem reads_skipComment (text : List Char) : Reads id text (skipComment text) := by
  unfold skipComment
  split
  · dsimp only
    split
    · exact reads_malformed _ _
    · exact .of_ok ((List.dropWhile_suffix _).trans (List.suffix_cons _ _))
  · exact .of_ok List.suffix_rfl

theorem reads_skipLines (fuel : Nat) (text : List Char) :
    Reads id text (skipLines fuel text) := by
  induction fuel generalizing text with
  | zero => exact .of_ok List.suffix_rfl
  | succ fuel ih =>
      unfold skipLines
      refine .of_suffix ?_ (List.dropWhile_suffix fun c => isBlank c || c = '\n')
      split
      · rename_i same
        rw [same]
        exact (reads_skipComment _).bind fun _ _ => ih _
      · exact .of_ok List.suffix_rfl

/-! ## Strings -/

theorem reads_readHexChar (width : Nat) (text : List Char) :
    Reads Prod.snd text (readHexChar width text) := by
  unfold readHexChar
  dsimp only
  split
  · split
    · exact .of_ok (List.drop_suffix _ _)
    · exact reads_malformed _ _
  · exact reads_malformed _ _

theorem reads_readEscape (text : List Char) : Reads Prod.snd text (readEscape text) := by
  unfold readEscape
  split
  · exact (reads_readHexChar _ _).of_suffix (List.suffix_cons _ _)
  · exact (reads_readHexChar _ _).of_suffix (List.suffix_cons _ _)
  · split
    · exact .of_ok (List.suffix_cons _ _)
    · exact reads_malformed _ _
  · exact reads_malformed _ _

theorem reads_joinLines (text : List Char) : Reads id text (joinLines text) := by
  unfold joinLines
  split
  · rename_i same
    exact .of_ok ((List.dropWhile_suffix _).trans (suffix_of_dropWhile same))
  · exact .of_ok List.nil_suffix
  · exact reads_malformed _ _

/-- A reader that puts a character before the content that another reader finds. -/
theorem Reads.cons {outcome : Except ReadError (List Char × List Char)} (c : Char)
    (reads : Reads Prod.snd text outcome) :
    Reads Prod.snd text (do
      let (content, rest) ← outcome
      return (c :: content, rest)) :=
  reads.bind fun _ _ => .of_pure List.suffix_rfl

theorem reads_readBasic (fuel : Nat) (text : List Char) :
    Reads Prod.snd text (readBasic fuel text) := by
  induction fuel generalizing text with
  | zero => exact reads_malformed _ _
  | succ fuel ih =>
      unfold readBasic
      split
      · exact reads_malformed _ _
      · exact .of_ok (List.suffix_cons _ _)
      · refine .of_suffix ?_ (List.suffix_cons _ _)
        exact (reads_readEscape _).bind fun result _ => (ih result.2).cons result.1
      · split
        · exact reads_malformed _ _
        · exact ((ih _).cons _).of_suffix (List.suffix_cons _ _)

theorem reads_readBasicLines (fuel : Nat) (text : List Char) :
    Reads Prod.snd text (readBasicLines fuel text) := by
  induction fuel generalizing text with
  | zero => exact reads_malformed _ _
  | succ fuel ih =>
      unfold readBasicLines
      split
      · exact reads_malformed _ _
      · exact .of_ok ⟨['"', '"', '"'], rfl⟩
      · refine .of_suffix ?_ (List.suffix_cons _ _)
        split
        · exact (reads_joinLines _).bind fun _ _ => ih _
        · exact (reads_readEscape _).bind fun result _ => (ih result.2).cons result.1
      · exact reads_malformed _ _
      · split
        · exact reads_malformed _ _
        · exact ((ih _).cons _).of_suffix (List.suffix_cons _ _)

theorem reads_readLiteral (text : List Char) : Reads Prod.snd text (readLiteral text) := by
  induction text with
  | nil => exact reads_malformed _ _
  | cons c rest ih =>
      unfold readLiteral
      split
      · exact reads_malformed _ _
      · rename_i same
        cases same
        exact .of_ok (List.suffix_cons _ _)
      · rename_i same
        cases same
        split
        · exact reads_malformed _ _
        · exact (ih.cons _).of_suffix (List.suffix_cons _ _)

theorem reads_readLiteralLines (text : List Char) :
    Reads Prod.snd text (readLiteralLines text) := by
  induction text with
  | nil => exact reads_malformed _ _
  | cons c rest ih =>
      unfold readLiteralLines
      split
      · rename_i same
        rw [same]
        exact .of_ok ⟨['\x27', '\x27', '\x27'], rfl⟩
      · exact reads_malformed _ _
      · rename_i same
        cases same
        split
        · exact reads_malformed _ _
        · exact (ih.cons _).of_suffix (List.suffix_cons _ _)

theorem extraQuotes_suffix (quote : Char) (content rest : List Char) :
    (extraQuotes quote content rest).2 <:+ rest := by
  unfold extraQuotes
  split
  · rename_i first second after
    split
    · exact ⟨[first, second], rfl⟩
    · split
      · exact List.suffix_cons _ _
      · exact List.suffix_rfl
  · split
    · exact List.nil_suffix
    · exact List.suffix_rfl
  · exact List.suffix_rfl

theorem dropFirstNewline_suffix (text : List Char) : dropFirstNewline text <:+ text := by
  unfold dropFirstNewline
  split
  · exact List.suffix_cons _ _
  · exact List.suffix_rfl

theorem reads_of_readString? {reading : Except ReadError (String × List Char)}
    (starts : readString? text = some reading) : Reads Prod.snd text reading := by
  unfold readString? at starts
  split at starts
  · cases starts
    refine .of_suffix ?_ ((dropFirstNewline_suffix _).trans ⟨['"', '"', '"'], rfl⟩)
    exact (reads_readBasicLines _ _).bind fun _ _ => .of_pure (extraQuotes_suffix _ _ _)
  · cases starts
    refine .of_suffix ?_ (List.suffix_cons _ _)
    exact (reads_readBasic _ _).bind fun _ _ => .of_pure List.suffix_rfl
  · cases starts
    refine .of_suffix ?_ ((dropFirstNewline_suffix _).trans ⟨['\x27', '\x27', '\x27'], rfl⟩)
    exact (reads_readLiteralLines _).bind fun _ _ => .of_pure (extraQuotes_suffix _ _ _)
  · cases starts
    refine .of_suffix ?_ (List.suffix_cons _ _)
    exact (reads_readLiteral _).bind fun _ _ => .of_pure List.suffix_rfl
  · cases starts

/-! ## Keys -/

theorem reads_readKeyPart (text : List Char) : Reads Prod.snd text (readKeyPart text) := by
  unfold readKeyPart
  split
  · refine .of_suffix ?_ (List.suffix_cons _ _)
    exact (reads_readBasic _ _).bind fun _ _ => .of_pure List.suffix_rfl
  · refine .of_suffix ?_ (List.suffix_cons _ _)
    exact (reads_readLiteral _).bind fun _ _ => .of_pure List.suffix_rfl
  · split
    · exact .of_ok (List.dropWhile_suffix _)
    · exact reads_malformed _ _
  · exact reads_malformed _ _

theorem reads_readKey (fuel : Nat) (text : List Char) :
    Reads Prod.snd text (readKey fuel text) := by
  induction fuel generalizing text with
  | zero => exact reads_malformed _ _
  | succ fuel ih =>
      unfold readKey
      refine (reads_readKeyPart text).bind ?_
      rintro ⟨part, rest⟩ -
      dsimp only
      split
      · rename_i same
        refine .of_suffix ?_ ((skipBlanks_suffix _).trans (suffix_of_dropWhile same))
        exact (ih _).bind fun _ _ => .of_pure List.suffix_rfl
      · exact .of_pure (skipBlanks_suffix _)

/-! ## Numbers and dates -/

/-- The digits that are split off stand in a run at the start of the text, with nothing but
underscores between them. -/
theorem exists_run_of_spanDigits (isDigit : Char → Bool) (underscore : isDigit '_' = false)
    (text : List Char) :
    ∃ run, run ++ (spanDigits isDigit text).2 = text ∧ (∀ c ∈ run, isDigit c ∨ c = '_') ∧
      (spanDigits isDigit text).1.length = run.countP isDigit := by
  induction text with
  | nil => exact ⟨[], rfl, nofun, rfl⟩
  | cons c rest ih =>
      obtain ⟨run, whole, allowed, count⟩ := ih
      unfold spanDigits
      split
      · rename_i digit
        exact ⟨c :: run, by simp [whole], by simpa [digit] using allowed, by simp [count, digit]⟩
      · split
        · rename_i grouped
          obtain rfl : c = '_' := by simp_all
          exact ⟨'_' :: run, by simp [whole], by simpa using allowed, by simp [count, underscore]⟩
        · exact ⟨[], rfl, nofun, rfl⟩

theorem spanDigits_suffix (isDigit : Char → Bool) (text : List Char) :
    (spanDigits isDigit text).2 <:+ text := by
  induction text with
  | nil => exact List.suffix_rfl
  | cons c rest ih =>
      unfold spanDigits
      split
      · exact ih.trans (List.suffix_cons _ _)
      · split
        · exact ih.trans (List.suffix_cons _ _)
        · exact List.suffix_rfl

theorem spanDigits?_suffix {isDigit : Char → Bool}
    (split : spanDigits? isDigit text = some (digits, rest)) : rest <:+ text := by
  unfold spanDigits? at split
  split at split
  · have whole := spanDigits_suffix isDigit text
    rwa [Option.some.inj split] at whole
  · cases split

theorem readBased?_suffix {value : Value} (read : readBased? text = some (value, rest)) :
    rest <:+ text := by
  unfold readBased? at read
  split at read
  all_goals
    simp only [Option.map_eq_some_iff, Prod.mk.injEq, Prod.exists] at read
  · obtain ⟨_, _, split, _, rfl⟩ := read
    exact (spanDigits?_suffix split).trans ⟨['0', 'x'], rfl⟩
  · obtain ⟨_, _, split, _, rfl⟩ := read
    exact (spanDigits?_suffix split).trans ⟨['0', 'b'], rfl⟩
  · obtain ⟨_, _, split, _, rfl⟩ := read
    exact (spanDigits?_suffix split).trans ⟨['0', 'o'], rfl⟩
  · cases read

/-- The digits before the point of a decimal are those of a run at the start of the text. -/
theorem exists_run_of_wholePart? (split : wholePart? text = some (digits, rest)) :
    ∃ run, run ++ rest = text ∧ (∀ c ∈ run, c.isDigit ∨ c = '_') ∧
      digits.length = run.countP Char.isDigit := by
  unfold wholePart? at split
  split at split
  · cases split
    exact ⟨['0'], rfl, List.forall_mem_singleton.mpr (.inl rfl), rfl⟩
  · unfold spanDigits? at split
    split at split
    · have run := exists_run_of_spanDigits Char.isDigit (by decide) text
      rwa [Option.some.inj split] at run
    · cases split

theorem fractionPart_suffix (text : List Char) : (fractionPart text).2 <:+ text := by
  unfold fractionPart
  split
  · split
    · rename_i read
      exact (spanDigits?_suffix read).trans (List.suffix_cons _ _)
    · exact List.suffix_rfl
  · exact List.suffix_rfl

theorem exponentPart_suffix (text : List Char) : (exponentPart text).2 <:+ text := by
  unfold exponentPart
  split
  · rename_i mark rest
    split
    · split
      rename_i sign unsigned signed
      have suffix : unsigned <:+ rest := by
        split at signed <;> cases signed
        · exact List.suffix_cons _ _
        · exact List.suffix_cons _ _
        · exact List.suffix_rfl
      split
      · rename_i read
        exact (spanDigits?_suffix read).trans (suffix.trans (List.suffix_cons _ _))
      · exact List.suffix_rfl
    · exact List.suffix_rfl
  · exact List.suffix_rfl

theorem reads_of_readDecimal? {reading : Except ReadError (Value × List Char)}
    (starts : readDecimal? text = some reading) : Reads Prod.snd text reading := by
  unfold readDecimal? at starts
  split at starts
  rename_i sign unsigned signed
  have unsignedSuffix : unsigned <:+ text := by
    split at signed <;> cases signed
    · exact List.suffix_cons _ _
    · exact List.suffix_cons _ _
    · exact List.suffix_rfl
  obtain ⟨⟨whole, afterWhole⟩, split, rfl⟩ := Option.map_eq_some_iff.mp starts
  obtain ⟨run, rfl, allowed, count⟩ := exists_run_of_wholePart? split
  have restSuffix : (exponentPart (fractionPart afterWhole).2).2 <:+ text :=
    (exponentPart_suffix _).trans <| (fractionPart_suffix _).trans <|
      (List.suffix_append _ _).trans unsignedSuffix
  dsimp only
  split
  · split
    · exact .of_ok restSuffix
    · rename_i fault failed
      refine ⟨nofun, ?_⟩
      intro other same
      cases same
      obtain ⟨long, rfl⟩ := Json.integerOfDigits_eq_error failed
      refine ⟨run, ?_, allowed, by omega, by rw [count]⟩
      exact (List.prefix_append _ _).isInfix.trans unsignedSuffix.isInfix
  · split
    · exact .of_ok restSuffix
    · exact reads_malformed _ _

theorem reads_of_readMoment? {reading : Except ReadError (Value × List Char)}
    (starts : readMoment? text = some reading) : Reads Prod.snd text reading := by
  unfold readMoment? at starts
  obtain ⟨⟨day, rest⟩, read, rfl⟩ := Option.map_eq_some_iff.mp starts
  have suffix := Calendar.readDate_suffix read
  dsimp only
  split
  · exact reads_malformed _ _
  · split
    · rename_i readClock
      exact .of_ok ((Calendar.readClock_suffix readClock).trans suffix)
    · exact .of_ok suffix

theorem reads_readNumeral (text : List Char) : Reads Prod.snd text (readNumeral text) := by
  unfold readNumeral
  split
  · rename_i starts
    exact reads_of_readMoment? starts
  · rename_i read
    exact .of_ok (Calendar.readTime_suffix read)
  · rename_i read
    exact .of_ok (readBased?_suffix read)
  · rename_i starts
    exact reads_of_readDecimal? starts
  · dsimp only
    split
    · rename_i found
      exact .of_ok (Json.findSome?_afterWord?_suffix found)
    · exact reads_malformed _ _

/-! ## Values and statements -/

/-- Values, items and entries are read one inside the other, so they are taken together, by
induction on how deep reading may go. -/
theorem reads_values (fuel : Nat) :
    (∀ text, Reads Prod.snd text (readValue fuel text)) ∧
    (∀ text, Reads Prod.snd text (readItems fuel text)) ∧
    ∀ table text, Reads Prod.snd text (readInline fuel table text) := by
  induction fuel with
  | zero => exact ⟨fun _ => reads_malformed _ _, fun _ => reads_malformed _ _,
      fun _ _ => reads_malformed _ _⟩
  | succ fuel ih =>
      obtain ⟨value, items, inline⟩ := ih
      refine ⟨?_, ?_, ?_⟩
      · intro text
        unfold readValue
        split
        · rename_i starts
          exact (reads_of_readString? starts).bind fun _ _ => .of_pure List.suffix_rfl
        · split
          · refine .of_suffix ?_ (List.suffix_cons _ _)
            refine (reads_skipLines _ _).bind ?_
            intro rest _
            split
            · exact .of_pure (List.suffix_cons _ _)
            · exact (items _).bind fun _ _ => .of_pure List.suffix_rfl
          · refine .of_suffix ?_ (List.suffix_cons _ _)
            split
            · rename_i same
              exact .of_ok (suffix_of_dropWhile same)
            · refine .of_suffix ?_ (skipBlanks_suffix _)
              exact (inline _ _).bind fun _ _ => .of_pure List.suffix_rfl
          · split
            · rename_i split
              exact .of_ok (Json.afterWord?_suffix split)
            · rename_i split
              exact .of_ok (Json.afterWord?_suffix split)
            · exact reads_readNumeral text
      · intro text
        unfold readItems
        refine (value text).bind ?_
        rintro ⟨item, rest⟩ -
        refine (reads_skipLines _ rest).bind ?_
        intro rest _
        split
        · exact .of_pure (List.suffix_cons _ _)
        · refine .of_suffix ?_ (List.suffix_cons _ _)
          refine (reads_skipLines _ _).bind ?_
          intro rest _
          split
          · exact .of_pure (List.suffix_cons _ _)
          · exact (items _).bind fun _ _ => .of_pure List.suffix_rfl
        · exact reads_malformed _ _
      · intro table text
        unfold readInline
        refine (reads_readKey _ text).bind ?_
        rintro ⟨key, rest⟩ -
        dsimp only
        split
        · refine .of_suffix ?_ ((skipBlanks_suffix _).trans (List.suffix_cons _ _))
          refine (value _).bind ?_
          rintro ⟨item, rest⟩ -
          dsimp only
          split
          · exact reads_malformed _ _
          · split
            · rename_i same
              exact .of_pure (suffix_of_dropWhile same)
            · rename_i same
              refine .of_suffix ?_ ((skipBlanks_suffix _).trans (suffix_of_dropWhile same))
              exact inline _ _
            · exact reads_malformed _ _
        · exact reads_malformed _ _

theorem reads_orMalformed (rest : List Char) (outcome : Except Reason α) :
    Reads (fun _ => rest) rest (orMalformed rest outcome) := by
  unfold orMalformed
  split
  · exact .of_ok List.suffix_rfl
  · exact reads_malformed _ _

theorem reads_readStatement (builder : Builder) (text : List Char) :
    Reads Prod.snd text (readStatement builder text) := by
  unfold readStatement
  split
  · rename_i rest
    refine .of_suffix ?_ ((skipBlanks_suffix rest).trans ⟨['[', '['], rfl⟩)
    refine (reads_readKey _ _).bind ?_
    rintro ⟨key, rest⟩ -
    refine (reads_orMalformed rest _).bind fun builder _ => ?_
    split
    · exact .of_pure ⟨[']', ']'], rfl⟩
    · exact reads_malformed _ _
  · rename_i rest _
    refine .of_suffix ?_ ((skipBlanks_suffix rest).trans (List.suffix_cons _ _))
    refine (reads_readKey _ _).bind ?_
    rintro ⟨key, rest⟩ -
    refine (reads_orMalformed rest _).bind fun builder _ => ?_
    split
    · exact .of_pure (List.suffix_cons _ _)
    · exact reads_malformed _ _
  · split
    · refine (reads_readKey _ _).bind ?_
      rintro ⟨key, rest⟩ -
      dsimp only
      split
      · refine .of_suffix ?_ ((skipBlanks_suffix _).trans (List.suffix_cons _ _))
        refine ((reads_values _).1 _).bind ?_
        rintro ⟨value, rest⟩ -
        exact (reads_orMalformed rest _).bind fun builder _ => .of_pure List.suffix_rfl
      · exact reads_malformed _ _
    · exact reads_malformed _ _
  · exact reads_malformed _ _

theorem reads_readStatements (fuel : Nat) (builder : Builder) (text : List Char) :
    Reads (fun _ => []) text (readStatements fuel builder text) := by
  induction fuel generalizing builder text with
  | zero => exact .of_ok List.nil_suffix
  | succ fuel ih =>
      unfold readStatements
      refine .of_suffix ?_ (skipBlanks_suffix text)
      split
      · exact .of_pure List.nil_suffix
      · rename_i same
        rw [same]
        exact (ih _ _).of_suffix (List.suffix_cons _ _)
      · split
        on_goal 2 => refine (reads_readStatement _ _).bind fun result _ => ?_
        -- With or without a statement, the line has to end.
        all_goals
          refine .of_suffix ?_ (skipBlanks_suffix _)
          refine (reads_skipComment _).bind fun rest _ => ?_
          split
          · exact .of_pure List.nil_suffix
          · exact (ih _ _).of_suffix (List.suffix_cons _ _)
          · exact reads_malformed _ _

/-- The reader of TOML ends in a fault only where there is a long numeral. -/
theorem longNumeral_of_read_eq_faulty {fault : Fault}
    (failed : read text = .error (.faulty fault)) : LongNumeral text fault := by
  have reads : Reads (fun _ => []) text (read text) :=
    (reads_readStatements _ _ text).bind fun _ _ => .of_pure List.nil_suffix
  exact reads.numeral fault failed

end ClosedShape.Toml
