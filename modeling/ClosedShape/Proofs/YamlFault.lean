import ClosedShape.Proofs.ValueText
import ClosedShape.Yaml

/-!
# Faults of reading YAML

Most texts that are no YAML break one of its rules.  What the rules do not foresee are numbers and
moments that are out of range, texts that do not fit their tags, and keys that cannot be looked up.
This file shows for one reader after the other that it ends in no other fault, from the scalars up
to the tokens.
-/

namespace ClosedShape

/-- An operation that fails only for reasons of one kind. -/
def FailsOnly {ε α : Type} (reasons : ε → Prop) (outcome : Except ε α) : Prop :=
  ∀ failure, outcome = .error failure → reasons failure

namespace FailsOnly

variable {ε α β σ : Type} {reasons : ε → Prop} {outcome : Except ε α} {next : α → Except ε β}

theorem ok (result : α) : FailsOnly reasons (.ok result) := by
  rintro _ ⟨⟩

theorem pure (result : α) : FailsOnly reasons (Pure.pure result : Except ε α) :=
  ok result

theorem error {failure : ε} (reason : reasons failure) :
    FailsOnly reasons (.error failure : Except ε α) := by
  rintro _ ⟨⟩
  exact reason

theorem throw {failure : ε} (reason : reasons failure) :
    FailsOnly reasons (throw failure : Except ε α) :=
  error reason

theorem bind (first : FailsOnly reasons outcome)
    (goesOn : ∀ result, FailsOnly reasons (next result)) :
    FailsOnly reasons (outcome >>= next) := by
  intro failure failed
  cases ended : outcome with
  | error other =>
      rw [ended] at failed
      cases failed
      exact first failure ended
  | ok result =>
      rw [ended] at failed
      exact goesOn result failure failed

theorem ite {condition : Prop} [Decidable condition] {other : Except ε α}
    (first : FailsOnly reasons outcome) (second : FailsOnly reasons other) :
    FailsOnly reasons (if condition then outcome else other) := by
  split
  · exact first
  · exact second

theorem mapM {operation : α → Except ε β} {items : List α}
    (each : ∀ item, FailsOnly reasons (operation item)) :
    FailsOnly reasons (items.mapM operation) := by
  induction items with
  | nil => exact pure []
  | cons item items ih =>
      rw [List.mapM_cons]
      exact (each item).bind fun _ => ih.bind fun _ => pure _

theorem foldlM {operation : σ → α → Except ε σ} {items : List α} {start : σ}
    (each : ∀ state item, FailsOnly reasons (operation state item)) :
    FailsOnly reasons (items.foldlM operation start) := by
  induction items generalizing start with
  | nil => exact pure start
  | cons item items ih =>
      rw [List.foldlM_cons]
      exact (each start item).bind fun _ => ih

end FailsOnly

namespace Yaml

variable {α : Type} {text : List Char} {cursor : Cursor} {lexer : Lexer}

/-- The faults that reading YAML can end in. -/
inductive Unforeseen : Fault → Prop
  | numeralTooLong {digits : Nat} (long : digitLimit < digits) : Unforeseen (.numeralTooLong digits)
  | numeralMalformed {base : Nat} {numeral : Text} : Unforeseen (.numeralMalformed base numeral)
  | decimalMalformed {numeral : Text} : Unforeseen (.decimalMalformed numeral)
  | numeralEmpty : Unforeseen .numeralEmpty
  | numeralInParts : Unforeseen .numeralInParts
  | integerTooLarge : Unforeseen .integerTooLarge
  /-- A number is shown because its key stands twice. -/
  | integerTooLong : Unforeseen .integerTooLong
  | codeOutOfRange {code : Nat} (beyond : 0x10ffff < code) : Unforeseen (.codeOutOfRange code)
  | momentImpossible {reason : String} : Unforeseen (.momentImpossible reason)
  | offsetOutOfRange {seconds : Int} (far : 86400 ≤ seconds.natAbs) :
      Unforeseen (.offsetOutOfRange seconds)
  | pastCalendar : Unforeseen .pastCalendar
  /-- A word is no truth value, or a version has no rules for plain scalars. -/
  | notFound {shown : String} : Unforeseen (.notFound shown)
  | notHashable {typeName : String} : Unforeseen (.notHashable typeName)
  | keyRepeated : Unforeseen .keyRepeated

/-- The classes of errors that these faults belong to. -/
def unforeseenKinds : List String :=
  ["ValueError", "OverflowError", "IndexError", "TypeError", "KeyError", "AssertionError"]

theorem Unforeseen.kind_mem {fault : Fault} (unforeseen : Unforeseen fault) :
    fault.kind ∈ unforeseenKinds := by
  unfold unforeseenKinds
  cases unforeseen with
  | codeOutOfRange =>
      rw [Fault.kind]
      split <;> simp
  | _ => simp [Fault.kind]

/-- A breach of the rules of YAML, or one of the faults that they do not foresee. -/
def Reason.Sound : Reason → Prop
  | .faulty fault => Unforeseen fault
  | _ => True

theorem failsOnly_ofFault {outcome : Except Fault α} (faults : FailsOnly Unforeseen outcome) :
    FailsOnly Reason.Sound (Reason.ofFault outcome) := by
  unfold Reason.ofFault
  split
  · exact .ok _
  · rename_i fault
    exact .error (faults fault rfl)

/-! ## Numbers, truth values and moments -/

theorem failsOnly_integerOfText (base : Nat) (numeral : Text) :
    FailsOnly Unforeseen (Text.integerOfText base numeral) := by
  unfold Text.integerOfText
  dsimp only
  split
  · rename_i long
    rw [Bool.and_eq_true, decide_eq_true_eq, decide_eq_true_eq] at long
    exact .error (.numeralTooLong long.2)
  · split
    · exact .error .numeralMalformed
    · exact .ok _

theorem failsOnly_magnitude (version : Version) (numeral : Text) :
    FailsOnly Unforeseen (magnitude version numeral) := by
  unfold magnitude
  split
  · exact failsOnly_integerOfText _ _
  · exact failsOnly_integerOfText _ _
  · exact failsOnly_integerOfText _ _
  · split
    · split
      · exact .error .numeralEmpty
      · exact .ok _
      · exact failsOnly_integerOfText _ _
      · split
        · exact (FailsOnly.mapM (failsOnly_integerOfText 10)).bind fun _ => .pure _
        · exact failsOnly_integerOfText _ _
    · exact failsOnly_integerOfText _ _

theorem failsOnly_integer (version : Version) (content : Text) :
    FailsOnly Unforeseen (integer version content) := by
  unfold integer
  split
  · exact .throw .numeralEmpty
  · exact (failsOnly_magnitude _ _).bind fun _ => .pure _

theorem failsOnly_decimalOfText (numeral : Text) :
    FailsOnly Unforeseen (Text.decimalOfText numeral) := by
  unfold Text.decimalOfText
  dsimp only
  split
  · exact .ok _
  · exact .ok _
  · exact .error .decimalMalformed

theorem failsOnly_sumOfSixtieths (parts : List Double) :
    FailsOnly Unforeseen (sumOfSixtieths parts) := by
  unfold sumOfSixtieths
  apply FailsOnly.foldlM
  intro sum part
  split
  · exact .error .integerTooLarge
  · exact .ok _

theorem failsOnly_decimalMagnitude (version : Version) (numeral : Text) :
    FailsOnly Unforeseen (decimalMagnitude version numeral) := by
  unfold decimalMagnitude
  split
  · exact .ok _
  · split
    · exact .ok _
    · split
      · exact failsOnly_decimalOfText _
      · split
        · exact (FailsOnly.mapM failsOnly_decimalOfText).bind failsOnly_sumOfSixtieths
        · split
          · exact .error .numeralInParts
          · exact failsOnly_decimalOfText _

theorem failsOnly_decimal (version : Version) (content : Text) :
    FailsOnly Unforeseen (decimal version content) := by
  unfold decimal
  split
  · exact .throw .numeralEmpty
  · exact (failsOnly_decimalMagnitude _ _).bind fun _ => .pure _

theorem failsOnly_truth (content : Text) : FailsOnly Unforeseen (truth content) := by
  unfold truth
  dsimp only
  split
  · exact .ok _
  · exact .error .notFound

theorem failsOnly_checkDate (date : Date) : FailsOnly Unforeseen (Timestamp.checkDate date) := by
  unfold Timestamp.checkDate
  repeat' split
  all_goals first | exact .error .momentImpossible | exact .ok _

theorem failsOnly_checkTime (time : TimeOfDay) :
    FailsOnly Unforeseen (Timestamp.checkTime time) := by
  unfold Timestamp.checkTime
  repeat' split
  all_goals first | exact .error .momentImpossible | exact .ok _

theorem failsOnly_timestampValue (timestamp : Timestamp) :
    FailsOnly Unforeseen timestamp.value := by
  unfold Timestamp.value
  split
  · exact (failsOnly_checkDate _).bind fun _ => .pure _
  · dsimp only
    split
    · rename_i far
      exact .throw (.offsetOutOfRange far)
    · refine (failsOnly_checkDate _).bind fun _ => (failsOnly_checkTime _).bind fun _ => ?_
      split
      · exact .pure _
      · split
        · exact .throw .pastCalendar
        · exact .pure _

theorem failsOnly_ofPlain (version : Version) (content : Text) :
    FailsOnly Unforeseen (Tag.ofPlain version content) := by
  unfold Tag.ofPlain
  split
  · exact .error .notFound
  · split
    · exact .ok _
    · exact .ok _
    · split
      · exact .ok _
      · exact .ok _

theorem failsOnly_display (value : Value) : FailsOnly Unforeseen value.display := by
  intro fault failed
  obtain ⟨rfl, _⟩ := (Value.display_tooLongIff value fault).mp failed
  exact .integerTooLong

/-- A scalar is read as its tag says, as far as its text fits the tag. -/
theorem failsOnly_scalarValue (version : Version) (tag : Tag) (content : Text) :
    FailsOnly Reason.Sound (scalarValue version tag content) := by
  unfold scalarValue
  split
  · exact .ok _
  · exact (failsOnly_ofFault (failsOnly_truth _)).bind fun _ => .pure _
  · exact (failsOnly_ofFault (failsOnly_integer _ _)).bind fun _ => .pure _
  · exact (failsOnly_ofFault (failsOnly_decimal _ _)).bind fun _ => .pure _
  · exact .ok _
  · split
    · exact .error trivial
    · split
      · exact .ok _
      · exact .error trivial
  · split
    · exact failsOnly_ofFault (failsOnly_timestampValue _)
    · exact .error trivial
  all_goals exact .error trivial

/-! ## Quoted scalars and block scalars -/

theorem failsOnly_quotedBreaks (fuel : Nat) (cursor : Cursor) :
    FailsOnly Reason.Sound (quotedBreaks fuel cursor) := by
  induction fuel generalizing cursor with
  | zero => exact .ok _
  | succ fuel ih =>
      unfold quotedBreaks
      split
      · exact .error trivial
      · split
        · exact (ih _).bind fun _ => .pure _
        · exact .ok _

theorem failsOnly_quotedSpaces (fuel : Nat) (cursor : Cursor) :
    FailsOnly Reason.Sound (quotedSpaces fuel cursor) := by
  unfold quotedSpaces
  dsimp only
  split
  · exact .error trivial
  · split
    · exact (failsOnly_quotedBreaks _ _).bind fun _ => .pure _
    · exact .ok _

theorem failsOnly_codeEscape (cursor : Cursor) : FailsOnly Reason.Sound (codeEscape cursor) := by
  unfold codeEscape
  split
  · exact .error trivial
  · split
    · rename_i beyond
      exact .error (.codeOutOfRange beyond)
    · split
      · exact .ok _
      · exact .ok _

theorem failsOnly_doubleEscape (fuel : Nat) (cursor : Cursor) :
    FailsOnly Reason.Sound (doubleEscape fuel cursor) := by
  unfold doubleEscape
  split
  · exact .error trivial
  · split
    · exact .ok _
    · split
      · exact (failsOnly_quotedBreaks _ _).bind fun _ => .pure _
      · exact (failsOnly_codeEscape _).bind fun _ => .pure _

theorem failsOnly_quotedRest (double : Bool) (fuel : Nat) (cursor : Cursor) :
    FailsOnly Reason.Sound (quotedRest double fuel cursor) := by
  induction fuel generalizing cursor with
  | zero => exact .error trivial
  | succ fuel ih =>
      unfold quotedRest
      split
      · exact .error trivial
      · split
        · split
          · exact (ih _).bind fun _ => .pure _
          · exact .ok _
        · split
          · exact .ok _
          · split
            · exact (failsOnly_doubleEscape _ _).bind fun _ => (ih _).bind fun _ => .pure _
            · split
              · exact (failsOnly_quotedSpaces _ _).bind fun _ => (ih _).bind fun _ => .pure _
              · exact (ih _).bind fun _ => .pure _

theorem failsOnly_quotedScalar (double : Bool) (cursor : Cursor) :
    FailsOnly Reason.Sound (quotedScalar double cursor) :=
  failsOnly_quotedRest _ _ _

theorem failsOnly_blockHeader (cursor : Cursor) : FailsOnly Reason.Sound (blockHeader cursor) := by
  unfold blockHeader
  split
  split
  · exact .throw trivial
  · dsimp only
    repeat' split
    all_goals first | exact .pure _ | exact .throw trivial

theorem failsOnly_blockScalar (folded : Bool) (indent : Int) (cursor : Cursor) :
    FailsOnly Reason.Sound (blockScalar folded indent cursor) := by
  unfold blockScalar
  refine (failsOnly_blockHeader _).bind ?_
  rintro ⟨chomping, increment, cursor⟩
  dsimp only
  split
  · split
    · exact .throw trivial
    · refine FailsOnly.bind (.pure _) fun _ => ?_
      split
      · exact .pure _
      · exact .pure _
  · refine FailsOnly.bind (.pure _) fun _ => ?_
    split
    · exact .pure _
    · exact .pure _

/-! ## Anchors, tags and directives -/

theorem failsOnly_anchorName (cursor : Cursor) : FailsOnly Reason.Sound (anchorName cursor) := by
  unfold anchorName
  dsimp only
  split
  · exact .error trivial
  · exact .ok _

theorem failsOnly_escapedBytes (text : List Char) : FailsOnly Reason.Sound (escapedBytes text) := by
  fun_induction escapedBytes text with
  | case1 first second rest high low _ _ ih => exact ih.bind fun _ => .pure _
  | case2 => exact .error trivial
  | case3 => exact .error trivial
  | case4 => exact .ok _

theorem failsOnly_checkEscapes (fuel : Nat) (text : List Char) :
    FailsOnly Reason.Sound (checkEscapes fuel text) := by
  induction fuel generalizing text with
  | zero => exact .ok _
  | succ fuel ih =>
      unfold checkEscapes
      split
      · exact .ok _
      · refine (failsOnly_escapedBytes _).bind fun bytes => ?_
        split
        · exact ih _
        · exact .throw trivial

theorem failsOnly_tagPart (version : Version) (cursor : Cursor) :
    FailsOnly Reason.Sound (tagPart version cursor) := by
  unfold tagPart
  refine (failsOnly_checkEscapes _ _).bind fun _ => ?_
  split
  · exact .throw trivial
  · exact .pure _

theorem failsOnly_handleAt (cursor : Cursor) : FailsOnly Reason.Sound (handleAt cursor) := by
  unfold handleAt
  dsimp only
  repeat' split
  all_goals first | exact .ok _ | exact .error trivial

theorem failsOnly_tagAt (version : Version) (cursor : Cursor) :
    FailsOnly Reason.Sound (tagAt version cursor) := by
  have ended (tag : Token) (after : Cursor) : FailsOnly Reason.Sound
      (if endsHeader after.peek then Pure.pure (tag, after) else throw Reason.invalidTag :
        Except Reason (Token × Cursor)) := by
    split
    · exact .pure _
    · exact .throw trivial
  have named (handle : String × Cursor) : FailsOnly Reason.Sound (do
      let suffix ← tagPart version handle.2
      let tag ← Pure.pure (Token.tag (some handle.1) suffix.1, suffix.2)
      if endsHeader tag.2.peek then Pure.pure (tag.1, tag.2) else throw Reason.invalidTag) :=
    (failsOnly_tagPart _ _).bind fun _ => (FailsOnly.pure _).bind fun _ => ended _ _
  unfold tagAt
  dsimp only
  generalize (if cursor.peekAt 1 = some '!' then cursor.next else cursor) = start
  split
  · refine (failsOnly_tagPart _ _).bind fun suffix => ?_
    split
    · exact .throw trivial
    · exact (FailsOnly.pure _).bind fun _ => ended _ _
  · split
    · exact (FailsOnly.pure _).bind fun _ => ended _ _
    · split
      · exact (failsOnly_handleAt _).bind named
      · exact (FailsOnly.pure _).bind named

theorem failsOnly_versionPart (cursor : Cursor) :
    FailsOnly Reason.Sound (versionPart cursor) := by
  unfold versionPart
  dsimp only
  split
  · exact .error trivial
  · split
    · rename_i long
      exact .error (.numeralTooLong long)
    · exact .ok _

theorem failsOnly_directiveBody (version : Version) (name : String) (cursor : Cursor) :
    FailsOnly Reason.Sound (directiveBody version name cursor) := by
  unfold directiveBody
  dsimp only
  split
  · refine (failsOnly_versionPart _).bind fun major => ?_
    split
    · exact .throw trivial
    · refine (failsOnly_versionPart _).bind fun minor => ?_
      split
      · exact .pure _
      · exact .throw trivial
  · split
    · refine (failsOnly_handleAt _).bind fun handle => ?_
      split
      · exact .throw trivial
      · refine (failsOnly_tagPart _ _).bind fun expansion => ?_
        split
        · exact .pure _
        · exact .throw trivial
    · exact .pure _

theorem failsOnly_directiveAt (version : Version) (cursor : Cursor) :
    FailsOnly Reason.Sound (directiveAt version cursor) := by
  unfold directiveAt
  split
  split
  · exact .throw trivial
  · refine (failsOnly_directiveBody _ _ _).bind fun directive => ?_
    dsimp only
    repeat' split
    all_goals first | exact .pure _ | exact .throw trivial


/-! ## Tokens -/

namespace Lexer

theorem failsOnly_dropStaleKeys (lexer : Lexer) : FailsOnly Reason.Sound lexer.dropStaleKeys := by
  unfold dropStaleKeys
  dsimp only
  split
  · exact .error trivial
  · exact .ok _

theorem failsOnly_dropKey (lexer : Lexer) : FailsOnly Reason.Sound lexer.dropKey := by
  unfold dropKey
  dsimp only
  split
  · exact .error trivial
  · exact .ok _

theorem failsOnly_noteKey (lexer : Lexer) : FailsOnly Reason.Sound lexer.noteKey := by
  unfold noteKey
  split
  · exact (failsOnly_dropKey _).bind fun _ => .pure _
  · exact .ok _

theorem failsOnly_leaveDocument (lexer : Lexer) : FailsOnly Reason.Sound lexer.leaveDocument :=
  (failsOnly_dropKey _).bind fun _ => .pure _

theorem failsOnly_takeMark (token start : Token) {refusal : Reason} (sound : refusal.Sound)
    (lexer : Lexer) : FailsOnly Reason.Sound (lexer.takeMark token start refusal) := by
  unfold takeMark
  dsimp only
  split
  · exact .throw sound
  · exact (failsOnly_dropKey _).bind fun _ => .pure _

theorem failsOnly_takeValue (lexer : Lexer) : FailsOnly Reason.Sound lexer.takeValue := by
  unfold takeValue
  split
  · exact .ok _
  · exact failsOnly_takeMark _ _ (by trivial) _

theorem failsOnly_takeContent {read : Cursor → Except Reason (Token × Cursor)}
    (reads : ∀ cursor, FailsOnly Reason.Sound (read cursor)) (lexer : Lexer) :
    FailsOnly Reason.Sound (lexer.takeContent read) :=
  (failsOnly_noteKey _).bind fun _ => (reads _).bind fun _ => .pure _

theorem failsOnly_takeToken (held : Bool) (c : Char) (lexer : Lexer) :
    FailsOnly Reason.Sound (lexer.takeToken held c) := by
  have named (token : String → Token) (cursor : Cursor) : FailsOnly Reason.Sound
      (anchorName cursor >>= fun name => Pure.pure (token name.1, name.2)) :=
    (failsOnly_anchorName cursor).bind fun _ => .pure _
  have quoted (double : Bool) (cursor : Cursor) : FailsOnly Reason.Sound
      (quotedScalar double cursor >>= fun content =>
        Pure.pure (Token.scalar false content.1, content.2)) :=
    (failsOnly_quotedScalar double cursor).bind fun _ => .pure _
  have documentMark (token : Token) : FailsOnly Reason.Sound (lexer.takeDocumentMark token) :=
    (failsOnly_leaveDocument _).bind fun _ => .pure _
  have opened (bracket : Bracket) (token : Token) :
      FailsOnly Reason.Sound (lexer.openBracket bracket token) :=
    (failsOnly_noteKey _).bind fun _ => .pure _
  have closed (token : Token) : FailsOnly Reason.Sound (lexer.closeBracket token) :=
    (failsOnly_dropKey _).bind fun _ => .pure _
  unfold takeToken
  refine .ite ?_ <| .ite (documentMark _) <| .ite (documentMark _) <| .ite (opened _ _) <|
    .ite (opened _ _) <| .ite (closed _) <| .ite (closed _) <| .ite ?_ <|
    .ite (failsOnly_takeMark _ _ (by trivial) _) <| .ite (failsOnly_takeMark _ _ (by trivial) _) <|
    .ite (failsOnly_takeValue _) <| .ite (failsOnly_takeContent (named _) _) <|
    .ite (failsOnly_takeContent (named _) _) <|
    .ite (failsOnly_takeContent (failsOnly_tagAt _) _) <| .ite ?_ <|
    .ite (failsOnly_takeContent (quoted _) _) <| .ite ?_ (.error trivial)
  · exact (failsOnly_leaveDocument _).bind fun _ =>
      (failsOnly_directiveAt _ _).bind fun _ => .pure _
  · exact (failsOnly_dropKey _).bind fun _ => .pure _
  · exact (failsOnly_dropKey _).bind fun _ => (failsOnly_blockScalar _ _ _).bind fun _ => .pure _
  · exact (failsOnly_noteKey _).bind fun _ => .pure _

theorem failsOnly_step (lexer : Lexer) : FailsOnly Reason.Sound lexer.step := by
  unfold step
  refine (failsOnly_dropStaleKeys _).bind fun _ => ?_
  refine (failsOnly_dropStaleKeys _).bind fun lexer => ?_
  dsimp only
  split
  · exact failsOnly_takeToken _ _ _
  · exact (failsOnly_leaveDocument _).bind fun _ => .pure _

/-- Where the tokens of a text stop early, there is a sound reason for it. -/
theorem sound_of_run {fuel : Nat} {taken : List Token} {reason : Reason}
    (stopped : lexer.run fuel = (taken, some reason)) : reason.Sound := by
  induction fuel generalizing lexer with
  | zero => cases stopped
  | succ fuel ih =>
      unfold run at stopped
      split at stopped
      · rename_i ended
        cases stopped
        exact failsOnly_step lexer _ ended
      · split at stopped
        · cases stopped
        · exact ih stopped

end Lexer

theorem sound_of_tokens {taken : List Token} {reason : Reason}
    (stopped : tokens text = (taken, some reason)) : reason.Sound := by
  unfold tokens at stopped
  split at stopped
  · exact Lexer.sound_of_run stopped
  · cases stopped
    trivial

end Yaml

end ClosedShape
