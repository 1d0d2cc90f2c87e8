import ClosedShape.Text.Wrapping
import Mathlib.Data.List.Induction
import Mathlib.Data.List.Infix
import Mathlib.Data.List.TakeWhile

/-!
# Wrapped lines

A line that fits is printed as it is.  One that does not is broken into pieces, of which none is
empty and the first is how the line starts, and there are several of them unless all that does not
fit is blank.
-/

namespace ClosedShape.Text

variable {width : Nat} {c : CodePoint} {line taken word : Text}

/-! ## Words -/

/-- A text without the blanks at its end. -/
def withoutFinalBlanks (text : Text) : Text := (text.reverse.dropWhile isBlank).reverse

theorem length_withoutFinalBlanks_le (text : Text) :
    (withoutFinalBlanks text).length ≤ text.length := by
  rw [withoutFinalBlanks, List.length_reverse]
  exact (List.dropWhile_sublist _).length_le.trans_eq (List.length_reverse ..)

theorem length_withoutFinalBlanks_append_le (taken word : Text) :
    (withoutFinalBlanks (taken ++ word)).length ≤
      taken.length + (withoutFinalBlanks word).length := by
  simp only [withoutFinalBlanks, List.length_reverse, List.reverse_append]
  rw [List.dropWhile_append]
  split
  · have shorter := (List.dropWhile_sublist isBlank (l := taken.reverse)).length_le
    rw [List.length_reverse] at shorter
    omega
  · rw [List.length_append, List.length_reverse, Nat.add_comm]

theorem flatten_blankRuns (line : Text) :
    (blankRuns line).flatten = line ∧ ∀ run ∈ blankRuns line, run ≠ [] := by
  induction line with
  | nil => simp [blankRuns]
  | cons c rest ih =>
      rw [blankRuns]
      split
      · next none =>
          rw [none] at ih
          simp [← ih.1]
      · next empty =>
          rw [empty] at ih
          exact absurd rfl (ih.2 [] (by simp))
      · next next run runs made =>
          rw [made] at ih
          split
          · simpa [← ih.1] using ih.2
          · simpa [← ih.1] using fun other member => ih.2 other (by simp [member])

/-- The words of a line are the line, unless it is blank. -/
theorem words_cases (line : Text) :
    ((words line).flatten = line ∨ (words line = [] ∧ withoutFinalBlanks line = [])) ∧
      ∀ word ∈ words line, word ≠ [] := by
  obtain ⟨flat, nonempty⟩ := flatten_blankRuns line
  rw [words]
  split
  · next first second runs made =>
      rw [made] at flat nonempty
      split
      · refine ⟨.inl (by simpa using flat), ?_⟩
        simp only [List.mem_cons, forall_eq_or_imp] at nonempty ⊢
        exact ⟨by simp [nonempty.1], nonempty.2.2⟩
      · exact ⟨.inl flat, nonempty⟩
  · next only made =>
      rw [made] at flat nonempty
      split
      · next blank =>
          refine ⟨.inr ⟨rfl, ?_⟩, by simp⟩
          rw [List.flatten_singleton] at flat
          subst flat
          have all : ∀ c ∈ only.reverse, isBlank c = true := fun c member =>
            List.all_eq_true.mp blank c (List.mem_reverse.mp member)
          rw [withoutFinalBlanks, List.dropWhile_eq_nil_iff.mpr all, List.reverse_nil]
      · exact ⟨.inl flat, nonempty⟩
  · next made =>
      rw [made] at flat
      subst flat
      exact ⟨.inl rfl, by simp⟩

/-! ## Breaks -/

namespace Breaks

variable {breaks : Breaks}

/-- The breaks of a line are at rising positions inside what has been placed. -/
structure Rising (breaks : Breaks) : Prop where
  ordered : (breaks.start :: breaks.positions).Pairwise (· > ·)
  positive : ∀ position ∈ breaks.positions, 0 < position

/-- A break where the next word starts, unless that is where the line starts. -/
def cut (breaks : Breaks) : Breaks :=
  if breaks.start = 0 then breaks
  else { breaks with positions := breaks.start :: breaks.positions }

theorem fold_succ (width remaining pieces : Nat) (breaks : Breaks) :
    fold width remaining breaks (pieces + 1) =
      if remaining ≤ width then
        { breaks.cut with start := breaks.cut.start + remaining, offset := remaining }
      else fold width (remaining - width) { breaks.cut with start := breaks.cut.start + width }
        pieces :=
  rfl

theorem place_eq (width : Nat) (breaks : Breaks) (word : Text) :
    place width breaks word =
      if breaks.offset + (withoutFinalBlanks word).length ≤ width then
        { breaks with start := breaks.start + word.length, offset := breaks.offset + word.length }
      else if width < (withoutFinalBlanks word).length then
        fold width word.length breaks word.length
      else if breaks.offset != 0 && breaks.start != 0 then
        { start := breaks.start + word.length
          offset := word.length
          positions := breaks.start :: breaks.positions }
      else { breaks with start := breaks.start + word.length } :=
  rfl

theorem rising_advance {start offset : Nat} (rising : breaks.Rising)
    (further : breaks.start ≤ start) : Rising { breaks with start, offset } := by
  obtain ⟨before, ordered⟩ := List.pairwise_cons.mp rising.ordered
  exact ⟨List.pairwise_cons.mpr
    ⟨fun position member => (before position member).trans_le further, ordered⟩, rising.positive⟩

theorem rising_break {start offset : Nat} (rising : breaks.Rising) (inside : breaks.start ≠ 0)
    (further : breaks.start < start) :
    Rising ⟨start, offset, breaks.start :: breaks.positions⟩ := by
  obtain ⟨before, _⟩ := List.pairwise_cons.mp rising.ordered
  refine ⟨List.pairwise_cons.mpr ⟨?_, rising.ordered⟩, ?_⟩
  · simp only [List.mem_cons, forall_eq_or_imp]
    exact ⟨further, fun position member => (before position member).trans further⟩
  · simp only [List.mem_cons, forall_eq_or_imp]
    exact ⟨Nat.pos_of_ne_zero inside, rising.positive⟩

theorem rising_cut {start offset : Nat} (rising : breaks.Rising) (further : breaks.start < start) :
    Rising { breaks.cut with start, offset } := by
  rw [cut]
  split
  · exact rising_advance rising further.le
  · next inside => exact rising_break rising inside further

theorem cut_start (breaks : Breaks) : breaks.cut.start = breaks.start := by
  rw [cut]
  split <;> rfl

theorem cut_positions_ne_nil (broken : breaks.start ≠ 0 ∨ breaks.positions ≠ []) :
    breaks.cut.positions ≠ [] := by
  rw [cut]
  split
  · next first => exact broken.resolve_left (absurd first)
  · exact List.cons_ne_nil _ _

/-- Folding a word breaks the line where the word starts, or else inside it. -/
theorem fold_spec {remaining pieces : Nat} (wide : 0 < width) (some : 0 < remaining)
    (enough : remaining ≤ pieces) (rising : breaks.Rising) :
    (fold width remaining breaks pieces).Rising ∧
      (fold width remaining breaks pieces).start = breaks.start + remaining ∧
      (breaks.start ≠ 0 ∨ breaks.positions ≠ [] ∨ width < remaining →
        (fold width remaining breaks pieces).positions ≠ []) := by
  induction pieces generalizing remaining breaks with
  | zero => omega
  | succ pieces ih =>
      rw [fold_succ, cut_start]
      split
      · next fits =>
          refine ⟨rising_cut rising (by omega), rfl, fun broken => cut_positions_ne_nil ?_⟩
          exact broken.imp_right fun broken => broken.resolve_right (by omega)
      · next tooLong =>
          have rest := @ih { breaks.cut with start := breaks.start + width } (remaining - width)
            (by omega) (by omega) (rising_cut rising (by omega))
          refine ⟨rest.1, rest.2.1.trans ?_, fun _ => rest.2.2 (.inl ?_)⟩
          · dsimp only
            omega
          · dsimp only
            omega

/-- Where a line is broken after some text: nowhere only if all but the blanks at its end fits. -/
structure Follow (width : Nat) (taken : Text) (breaks : Breaks) : Prop where
  rising : breaks.Rising
  start_eq : breaks.start = taken.length
  unbroken : breaks.positions = [] →
    breaks.offset = breaks.start ∧ (withoutFinalBlanks taken).length ≤ width

theorem follow_nil (width : Nat) : Follow width [] {} :=
  ⟨⟨by simp, by simp⟩, rfl, fun _ => ⟨rfl, Nat.zero_le _⟩⟩

/-- Placing a word keeps track of the breaks. -/
theorem follow_place (wide : 0 < width) (nonempty : word ≠ [])
    (follow : Follow width taken breaks) :
    Follow width (taken ++ word) (place width breaks word) := by
  have longer : 0 < word.length := List.length_pos_of_ne_nil nonempty
  have length : breaks.start + word.length = (taken ++ word).length := by
    rw [follow.start_eq, List.length_append]
  have shown := length_withoutFinalBlanks_append_le taken word
  rw [place_eq]
  split
  · next fits =>
      refine ⟨rising_advance follow.rising (by simp), length, fun none => ?_⟩
      obtain ⟨same, _⟩ := follow.unbroken none
      have start := follow.start_eq
      dsimp only
      omega
  · split
    · next tooLong =>
        have wordLonger := length_withoutFinalBlanks_le word
        obtain ⟨rising, start, broken⟩ := fold_spec wide longer le_rfl follow.rising
        refine ⟨rising, start.trans length, fun none => absurd none (broken ?_)⟩
        exact .inr (.inr (by omega))
    · split
      · next broken =>
          have inside : breaks.start ≠ 0 := by simp_all
          exact ⟨rising_break follow.rising inside (by omega), length, nofun⟩
      · next notBroken tooLong first =>
          refine ⟨rising_advance follow.rising (by simp), length, fun none => ?_⟩
          obtain ⟨same, _⟩ := follow.unbroken none
          simp only [Bool.and_eq_true, bne_iff_ne, ne_eq, not_and, not_not] at first
          omega

/-- All words of a line are placed. -/
theorem follow_foldl (wide : 0 < width) {words : List Text}
    (nonempty : ∀ word ∈ words, word ≠ []) :
    Follow width words.flatten (words.foldl (place width) {}) := by
  induction words using List.reverseRecOn with
  | nil => exact follow_nil width
  | append_singleton words word ih =>
      rw [List.foldl_append, List.flatten_append, List.flatten_singleton]
      exact follow_place wide (nonempty word (by simp))
        (ih fun other member => nonempty other (List.mem_append_left _ member))

/-- A line that fits is broken nowhere. -/
theorem foldl_place_of_fits {words : List Text} (unbroken : breaks.positions = [])
    (same : breaks.offset = breaks.start)
    (fits : breaks.start + words.flatten.length ≤ width) :
    (words.foldl (place width) breaks).positions = [] := by
  induction words generalizing breaks with
  | nil => exact unbroken
  | cons word words ih =>
      rw [List.flatten_cons, List.length_append] at fits
      have wordLonger := length_withoutFinalBlanks_le word
      rw [List.foldl_cons, place_eq, if_pos (by omega)]
      refine ih unbroken ?_ ?_
      · dsimp only
        omega
      · dsimp only
        omega

end Breaks

/-! ## Pieces -/

/-- A line split at rising positions inside it starts with its first piece, and no piece is
empty. -/
theorem splitAt_spec {position : Nat} {positions : List Nat} {text : Text}
    (ordered : (position :: positions).Pairwise (· < ·))
    (inside : ∀ next ∈ position :: positions, next < position + text.length) :
    ∃ first rest, splitAt position positions text = first :: rest ∧ first <+: text ∧
      (rest = [] ↔ positions = []) ∧ ∀ piece ∈ first :: rest, piece ≠ [] := by
  induction positions generalizing position text with
  | nil =>
      have nonempty : 0 < text.length := by simpa using inside position (by simp)
      refine ⟨text, [], rfl, List.prefix_rfl, by simp, ?_⟩
      simpa using List.ne_nil_of_length_pos nonempty
  | cons next positions ih =>
      obtain ⟨before, ordered⟩ := List.pairwise_cons.mp ordered
      have further : position < next := before next (by simp)
      have nextInside : next < position + text.length := inside next (by simp)
      obtain ⟨second, others, made, _, _, nonempty⟩ :=
        @ih next (text.drop (next - position)) ordered fun later member => by
          have laterInside := inside later (List.mem_cons_of_mem _ member)
          rw [List.length_drop]
          omega
      refine ⟨_, _, rfl, List.take_prefix _ _, by simp [made], ?_⟩
      rw [made]
      refine List.forall_mem_cons.mpr ⟨?_, nonempty⟩
      refine List.ne_nil_of_length_pos ?_
      rw [List.length_take]
      omega

theorem cropLine_eq (width : Nat) (line : Text) : cropLine width line = line.take width := by
  change (line.take (max (withoutFinalBlanks line).length width)).take width = _
  rw [List.take_take, min_eq_left (le_max_right _ _)]

theorem flatten_splitAt (position : Nat) (positions : List Nat) (text : Text) :
    (splitAt position positions text).flatten = text := by
  induction positions generalizing position text with
  | nil => simp [splitAt]
  | cons next positions ih => rw [splitAt, List.flatten_cons, ih, List.take_append_drop]

/-- The pieces of a line are made of its characters. -/
theorem mem_of_mem_wrapLine {piece : Text} (isPiece : piece ∈ wrapLine width line)
    (member : c ∈ piece) : c ∈ line := by
  rw [wrapLine] at isPiece
  obtain ⟨uncut, inLine, rfl⟩ := List.mem_map.mp isPiece
  rw [cropLine_eq] at member
  rw [← flatten_splitAt 0 _ line]
  exact List.mem_flatten.mpr ⟨uncut, inLine, List.mem_of_mem_take member⟩

/-- A line that fits is printed as it is. -/
theorem wrapLine_of_fits (fits : line.length ≤ width) : wrapLine width line = [line] := by
  have unbroken : ((words line).foldl (Breaks.place width) {}).positions = [] := by
    rcases (words_cases line).1 with whole | ⟨blank, _⟩
    · exact Breaks.foldl_place_of_fits rfl rfl (by simpa [whole] using fits)
    · rw [blank]
      rfl
  rw [wrapLine, unbroken]
  change [cropLine width line] = [line]
  rw [cropLine_eq, List.take_of_length_le fits]

/-- A line that may not fit is printed in pieces. -/
theorem wrapLine_spec (wide : 0 < width) (nonempty : line ≠ []) :
    ∃ first rest, wrapLine width line = first :: rest ∧ first <+: line ∧
      (rest = [] → (withoutFinalBlanks line).length ≤ width) ∧
      ∀ piece ∈ first :: rest, piece ≠ [] := by
  obtain ⟨whole, wordsNonempty⟩ := words_cases line
  have follow := Breaks.follow_foldl wide wordsNonempty
  rw [wrapLine]
  generalize (words line).foldl (Breaks.place width) {} = breaks at follow ⊢
  obtain ⟨before, ordered⟩ := List.pairwise_cons.mp follow.rising.ordered
  have within : breaks.start ≤ line.length := by
    rw [follow.start_eq]
    rcases whole with whole | ⟨blank, _⟩
    · rw [whole]
    · rw [blank]
      exact Nat.zero_le _
  obtain ⟨first, rest, split, starts, single, pieces⟩ :=
    @splitAt_spec 0 breaks.positions.reverse line
      (List.pairwise_cons.mpr ⟨fun position member =>
        follow.rising.positive position (List.mem_reverse.mp member),
        List.pairwise_reverse.mpr ordered⟩)
      (by
        have longer := List.length_pos_of_ne_nil nonempty
        simp only [List.mem_cons, List.mem_reverse, forall_eq_or_imp, Nat.zero_add]
        exact ⟨longer, fun position member => (before position member).trans_le within⟩)
  rw [split]
  refine ⟨_, _, rfl, ?_, fun only => ?_, ?_⟩
  · rw [cropLine_eq]
    exact (List.take_prefix _ _).trans starts
  · have none : breaks.positions = [] := by
      simpa using single.mp (List.map_eq_nil_iff.mp only)
    rcases whole with whole | ⟨_, blank⟩
    · rw [← whole]
      exact (follow.unbroken none).2
    · rw [blank]
      exact Nat.zero_le _
  · rw [← List.map_cons]
    rintro piece member rfl
    obtain ⟨uncut, isPiece, cropped⟩ := List.mem_map.mp member
    rw [cropLine_eq, List.take_eq_nil_iff] at cropped
    exact cropped.elim wide.ne' (pieces uncut isPiece)

/-- A line that ends with a character that is not blank is printed in one piece only if it fits. -/
theorem length_le_of_wrapLine_eq_singleton {piece : Text} (wide : 0 < width)
    (ends : isBlank c = false) (wrapped : wrapLine width (line ++ [c]) = [piece]) :
    (line ++ [c]).length ≤ width := by
  have nonempty : line ++ [c] ≠ [] := by simp
  obtain ⟨first, rest, made, _, fits, _⟩ := wrapLine_spec wide nonempty
  obtain ⟨_, none⟩ := List.cons.inj (wrapped.symm.trans made)
  have whole : withoutFinalBlanks (line ++ [c]) = line ++ [c] := by
    simp [withoutFinalBlanks, ends]
  rw [← whole]
  exact fits none.symm

/-! ## Printing -/

/-- A character that is printed as it is: a letter, a digit, a sign or a blank. -/
def IsPrintable (c : CodePoint) : Prop := 0x20 ≤ c.code ∧ c.code ≤ 0x7e

instance (c : CodePoint) : Decidable (IsPrintable c) :=
  inferInstanceAs (Decidable (0x20 ≤ c.code ∧ c.code ≤ 0x7e))

/-- A text of characters that are printed as they are. -/
def AllPrintable (text : Text) : Prop := ∀ c ∈ text, IsPrintable c

instance (text : Text) : Decidable (AllPrintable text) := List.decidableBAll _ text

theorem allPrintable_append {text other : Text} :
    AllPrintable (text ++ other) ↔ AllPrintable text ∧ AllPrintable other :=
  List.forall_mem_append

theorem expandTabs_of_printable {column : Nat} (printable : ∀ c ∈ line, IsPrintable c) :
    expandTabs width column line = line := by
  induction line generalizing column with
  | nil => rfl
  | cons c rest ih =>
      obtain ⟨first, others⟩ := List.forall_mem_cons.mp printable
      have noTab : c ≠ '\t' := by
        rintro rfl
        exact absurd first (by decide)
      rw [expandTabs, if_neg noTab, ih others]

theorem splitLines_of_printable (printable : ∀ c ∈ line, IsPrintable c) :
    splitLines line = [line] := by
  induction line with
  | nil => rfl
  | cons c rest ih =>
      obtain ⟨first, others⟩ := List.forall_mem_cons.mp printable
      have noBreak : c ≠ '\n' := by
        rintro rfl
        exact absurd first (by decide)
      rw [splitLines, ih others]
      exact if_neg noBreak

/-- A console prints a printable text as the pieces of one line. -/
theorem consoleLines_of_printable (width : Nat) (printable : ∀ c ∈ line, IsPrintable c) :
    consoleLines width line =
      (wrapLine width line).flatMap fun piece => (piece ++ "\n" : Text) := by
  have heard : line.filter (fun c => !isSilent c) = line := by
    refine List.filter_eq_self.mpr fun c member => ?_
    obtain ⟨low, _⟩ := printable c member
    simp only [isSilent, Bool.not_eq_true', Bool.or_eq_false_iff, decide_eq_false_iff_not]
    omega
  rw [consoleLines, heard, splitLines_of_printable printable,
    List.flatMap_singleton, expandTabs_of_printable printable]

end ClosedShape.Text
