import ClosedShape.Report
import Mathlib

/-!
# Rendering markup

Rendering fails only at a tag that closes what is not open.  Escaped text never adds such a tag to
the markup that it stands in: not by its own brackets, not together with what follows it, and not by
the backslashes at its end.  So the lines of a report can be rendered whatever texts they show.
-/

namespace ClosedShape.Markup

variable {depth : Nat} {c : CodePoint} {chars suffix rest : Text}

/-- Rendering goes through wherever at least `depth` styles are open, whatever backslashes stand
before. -/
def Renders (depth : Nat) (chars : Text) : Prop :=
  ∀ position pending opened, depth ≤ opened.length →
    ∃ shown, renderFrom position pending opened chars = .ok shown

/-- The same where no backslash stands before. -/
def RendersAfresh (depth : Nat) (chars : Text) : Prop :=
  ∀ position opened, depth ≤ opened.length → ∃ shown, renderFrom position 0 opened chars = .ok shown

theorem Renders.afresh (renders : Renders depth chars) : RendersAfresh depth chars :=
  fun position opened enough => renders position 0 opened enough

theorem renders_nil (depth : Nat) : Renders depth [] := by
  intro position pending opened _
  exact ⟨_, by rw [renderFrom]⟩

theorem renderFrom_backslashes {position pending count : Nat} {opened : List Text} :
    renderFrom position pending opened (backslashes count ++ rest) =
      renderFrom (position + count) (pending + count) opened rest := by
  induction count generalizing position pending with
  | zero => rfl
  | succ count ih =>
      have more : backslashes (count + 1) ++ rest = .char '\\' :: (backslashes count ++ rest) := rfl
      rw [more, renderFrom, if_pos rfl, ih, Nat.add_right_comm position, Nat.add_right_comm pending]
      rfl

theorem renders_backslashes (renders : Renders depth rest) (count : Nat) :
    Renders depth (backslashes count ++ rest) := by
  intro position pending opened enough
  rw [renderFrom_backslashes]
  exact renders _ _ _ enough

/-- A character that opens no tag is text. -/
theorem renders_cons (noBackslash : c ≠ .char '\\') (noTag : c = .char '[' → opensTag rest = false)
    (renders : RendersAfresh depth rest) : Renders depth (c :: rest) := by
  intro position pending opened enough
  obtain ⟨shown, rendered⟩ := renders (position + 1) opened enough
  have plain : ¬ (c = .char '[' ∧ opensTag rest = true) := by
    rintro ⟨bracket, opens⟩
    rw [noTag bracket] at opens
    cases opens
  rw [renderFrom, if_neg noBackslash, if_neg plain, rendered]
  exact ⟨_, rfl⟩

/-- A text in which nothing means anything to markup. -/
def Plain (chars : Text) : Prop := ∀ c ∈ chars, c ≠ .char '\\' ∧ c ≠ .char '['

instance : Decidable (Plain chars) := List.decidableBAll _ chars

theorem plain_append {others : Text} :
    Plain (chars ++ others) ↔ Plain chars ∧ Plain others :=
  List.forall_mem_append

theorem rendersAfresh_append (plain : Plain chars) (renders : RendersAfresh depth rest) :
    RendersAfresh depth (chars ++ rest) := by
  induction chars with
  | nil => exact renders
  | cons c chars ih =>
      obtain ⟨⟨noBackslash, noBracket⟩, others⟩ := List.forall_mem_cons.mp plain
      exact (renders_cons noBackslash (fun bracket => absurd bracket noBracket) (ih others)).afresh

/-! ## Tags -/

/-- Skipping a tag goes on after the bracket that closes it. -/
theorem skipTag_append {position : Nat} {opened : List Text} (inside : .char ']' ∉ chars) :
    skipTag position opened (chars ++ .char ']' :: rest) =
      renderFrom (position + chars.length + 1) 0 opened rest := by
  induction chars generalizing position with
  | nil =>
      rw [List.nil_append, skipTag, if_pos rfl]
      rfl
  | cons c chars ih =>
      obtain ⟨differs, others⟩ := List.ne_and_not_mem_of_not_mem_cons inside
      rw [List.cons_append, skipTag, if_neg differs.symm, ih others, List.length_cons]
      congr 1
      omega

theorem closesTag_cons :
    closesTag (c :: rest) = (c == .char ']' || (c != .char '[' && closesTag rest)) := by
  by_cases closing : c = .char ']'
  · subst closing
    rfl
  · by_cases opening : c = .char '['
    · subst opening
      rfl
    · have shown : closesTag (c :: rest) = closesTag rest := by
        rw [closesTag]
        · exact closing
        · exact opening
      rw [shown, beq_eq_false_iff_ne.mpr closing, bne_iff_ne.mpr opening]
      rfl

theorem closesTag_append (inside : .char '[' ∉ chars) :
    closesTag (chars ++ .char ']' :: rest) = true := by
  induction chars with
  | nil => rfl
  | cons c chars ih =>
      obtain ⟨differs, others⟩ := List.ne_and_not_mem_of_not_mem_cons inside
      rw [List.cons_append, closesTag_cons, ih others]
      simp [differs.symm]

/-- A tag of the library's own opens a style and shows nothing. -/
theorem renderFrom_open {position : Nat} {opened : List Text} {first : Char}
    (letter : first.isLower = true) (opens : .char '[' ∉ .char first :: chars)
    (closes : .char ']' ∉ .char first :: chars) :
    renderFrom position 0 opened (.char '[' :: (.char first :: chars ++ .char ']' :: rest)) =
      renderFrom (position + 1 + (.char first :: chars).length + 1) 0
        (tagName (.char first :: chars ++ .char ']' :: rest) :: opened) rest := by
  have noSlash : first ≠ '/' := by
    rintro rfl
    cases letter
  have isTag : opensTag (.char first :: chars ++ .char ']' :: rest) = true := by
    have closed : closesTag (chars ++ .char ']' :: rest) = true :=
      closesTag_append (List.not_mem_of_not_mem_cons opens)
    rw [List.cons_append, opensTag, letter, closed]
    rfl
  have applied : applyTag position (.char first :: chars ++ .char ']' :: rest) opened =
      .ok (tagName (.char first :: chars ++ .char ']' :: rest) :: opened) := by
    rw [applyTag]
    intro name same
    exact noSlash (CodePoint.char.inj (List.cons.inj same).1)
  rw [renderFrom, if_neg (by decide), if_pos ⟨rfl, isTag⟩, if_neg (by decide), applied]
  dsimp only [bind, Except.bind]
  rw [skipTag_append closes]
  cases renderFrom _ 0 (tagName (.char first :: chars ++ .char ']' :: rest) :: opened) rest <;> rfl

theorem rendersAfresh_open {first : Char} (letter : first.isLower = true)
    (opens : .char '[' ∉ .char first :: chars) (closes : .char ']' ∉ .char first :: chars)
    (renders : RendersAfresh (depth + 1) rest) :
    RendersAfresh depth (.char '[' :: (.char first :: chars ++ .char ']' :: rest)) := by
  intro position opened enough
  rw [renderFrom_open letter opens closes]
  exact renders _ _ (Nat.succ_le_succ enough)

/-- A tag that ends at once has no name. -/
theorem isEmpty_tagName (rest : Text) : (tagName (.char ']' :: rest)).isEmpty = true := by
  have noName : (.char ']' :: rest).takeWhile (· != .char ']') = [] := by simp
  rw [tagName, noName]
  cbv

/-- Where no style is open none can be closed. -/
theorem renderFrom_close_nil {position : Nat} :
    renderFrom position 0 [] (.char '[' :: .char '/' :: .char ']' :: rest) =
      .error (.noTagToClose position) := by
  have isTag : opensTag (.char '/' :: .char ']' :: rest) = true := rfl
  rw [renderFrom, if_neg (by decide), if_pos ⟨rfl, isTag⟩, if_neg (by decide), applyTag,
    if_pos (isEmpty_tagName rest)]
  rfl

/-- The tag that closes the last style.  After an odd number of backslashes its bracket is text, and
the style stays open. -/
theorem renderFrom_close {position pending : Nat} {style : Text} {opened : List Text} :
    renderFrom position pending (style :: opened) (.char '[' :: .char '/' :: .char ']' :: rest) =
      if pending % 2 = 1 then
        (renderFrom (position + 1) 0 (style :: opened) (.char '/' :: .char ']' :: rest)).map
          fun shown => backslashes (pending / 2) ++ .char '[' :: shown
      else
        (renderFrom (position + 1 + 1 + 1) 0 opened rest).map
          fun shown => backslashes (pending / 2) ++ shown := by
  have isTag : opensTag (.char '/' :: .char ']' :: rest) = true := rfl
  rw [renderFrom, if_neg (by decide), if_pos ⟨rfl, isTag⟩]
  dsimp only
  split
  · cases renderFrom (position + 1) 0 (style :: opened) (.char '/' :: .char ']' :: rest) <;> rfl
  · have applied :
        applyTag position (.char '/' :: .char ']' :: rest) (style :: opened) = .ok opened := by
      rw [applyTag, if_pos (isEmpty_tagName rest)]
    have skipped : skipTag (position + 1) opened (.char '/' :: .char ']' :: rest) =
        renderFrom (position + 1 + 1 + 1) 0 opened rest :=
      skipTag_append (show CodePoint.char ']' ∉ [CodePoint.char '/'] by decide)
    rw [applied]
    dsimp only [bind, Except.bind]
    rw [skipped]
    cases renderFrom (position + 1 + 1 + 1) 0 opened rest <;> rfl

/-- Closing the last style can be rendered whatever stands before it. -/
theorem renders_close (renders : RendersAfresh depth rest) :
    Renders (depth + 1) (.char '[' :: .char '/' :: .char ']' :: rest) := by
  intro position pending opened enough
  cases opened with
  | nil => cases enough
  | cons style opened =>
      rw [renderFrom_close]
      split
      · have asText : RendersAfresh depth (.char '/' :: .char ']' :: rest) :=
          rendersAfresh_append (show Plain [.char '/', .char ']'] by decide) renders
        obtain ⟨shown, rendered⟩ := asText (position + 1) (style :: opened)
          (Nat.le_of_succ_le enough)
        rw [rendered]
        exact ⟨_, rfl⟩
      · obtain ⟨shown, rendered⟩ := renders (position + 1 + 1 + 1) opened
          (Nat.le_of_succ_le_succ enough)
        rw [rendered]
        exact ⟨_, rfl⟩

/-- A plain text in a style of its own. -/
theorem rendersAfresh_styled (first : Char) (chars word : Text) (letter : first.isLower = true)
    (opens : .char '[' ∉ .char first :: chars) (closes : .char ']' ∉ .char first :: chars)
    (plain : Plain word)
    (renders : RendersAfresh depth rest) :
    RendersAfresh depth
      (.char '[' :: (.char first :: chars ++
        .char ']' :: (word ++ .char '[' :: .char '/' :: .char ']' :: rest))) :=
  rendersAfresh_open letter opens closes (rendersAfresh_append plain (renders_close renders).afresh)

/-! ## Escaped text -/

theorem opensTag_of_closesTag (closes : closesTag chars = false) : opensTag chars = false := by
  cases chars with
  | nil => rfl
  | cons c rest =>
      rw [closesTag_cons, Bool.or_eq_false_iff, Bool.and_eq_false_iff] at closes
      rcases closes.2 with bracket | open_
      · obtain rfl : c = .char '[' := by simpa using bracket
        rfl
      · cases c with
        | char c => rw [opensTag, open_, Bool.and_false]
        | surrogate => rfl

theorem closesTag_backslashes (count : Nat) (chars : Text) :
    closesTag (backslashes count ++ chars) = closesTag chars := by
  induction count with
  | zero => rfl
  | succ count ih =>
      have more : backslashes (count + 1) ++ chars =
          .char '\\' :: (backslashes count ++ chars) := rfl
      rw [more, closesTag_cons, ih]
      rfl

/-- Escaping keeps whether a text closes a tag, also with a text behind it that closes none. -/
theorem closesTag_escapeFrom (closes : closesTag suffix = false) (pending : Nat)
    (text : Text) : closesTag (escapeFrom pending text ++ suffix) = closesTag text := by
  induction text generalizing pending with
  | nil => rw [escapeFrom, closesTag_backslashes, closes, closesTag]
  | cons c rest ih =>
      rw [escapeFrom]
      split
      · subst_vars
        rw [ih, closesTag_cons]
        rfl
      · split
        · rename_i opens
          obtain ⟨rfl, _⟩ := opens
          rw [List.append_assoc, closesTag_backslashes, List.cons_append]
          rfl
        · rw [List.append_assoc, closesTag_backslashes, List.cons_append, closesTag_cons, ih,
            closesTag_cons]

theorem exists_escapeFrom_succ (pending : Nat) (text : Text) :
    ∃ others, escapeFrom (pending + 1) text = .char '\\' :: others := by
  induction text generalizing pending with
  | nil => exact ⟨backslashes pending, rfl⟩
  | cons c rest ih =>
      rw [escapeFrom]
      split
      · exact ih (pending + 1)
      · split
        · exact ⟨backslashes (2 * (pending + 1)) ++ c :: escapeFrom 0 rest, rfl⟩
        · exact ⟨backslashes pending ++ c :: escapeFrom 0 rest, rfl⟩

theorem opensTag_escapeFrom (closes : closesTag suffix = false) (text : Text) :
    opensTag (escapeFrom 0 text ++ suffix) = opensTag text := by
  cases text with
  | nil => exact opensTag_of_closesTag closes
  | cons c rest =>
      rw [escapeFrom]
      split
      · subst_vars
        obtain ⟨others, escaped⟩ := exists_escapeFrom_succ 0 rest
        rw [escaped]
        rfl
      · split
        · rename_i opens
          obtain ⟨rfl, _⟩ := opens
          rfl
        · rw [List.append_assoc, List.cons_append]
          cases c with
          | char c =>
              change (_ && closesTag _) = (_ && closesTag _)
              rw [closesTag_escapeFrom closes]
          | surrogate => rfl

/-- A bracket after an odd number of backslashes is text even where it opens a tag. -/
theorem rendersAfresh_escaped (count : Nat) (renders : RendersAfresh depth rest) :
    RendersAfresh depth (backslashes (2 * count + 1) ++ .char '[' :: rest) := by
  intro position opened enough
  rw [renderFrom_backslashes]
  cases opens : opensTag rest with
  | false =>
      have asText : Renders depth (.char '[' :: rest) :=
        renders_cons (by decide) (fun _ => opens) renders
      exact asText _ _ _ enough
  | true =>
      obtain ⟨shown, rendered⟩ := renders (position + (2 * count + 1) + 1) opened enough
      have odd : (0 + (2 * count + 1)) % 2 = 1 := by omega
      rw [renderFrom, if_neg (by decide), if_pos ⟨rfl, opens⟩]
      dsimp only
      rw [if_pos odd, rendered]
      exact ⟨_, rfl⟩

/-- Escaped text can be rendered before anything that closes no tag by itself. -/
theorem rendersAfresh_escapeFrom (closes : closesTag suffix = false)
    (renders : Renders depth suffix) (pending : Nat) (text : Text) :
    RendersAfresh depth (escapeFrom pending text ++ suffix) := by
  induction text generalizing pending with
  | nil => exact (renders_backslashes renders pending).afresh
  | cons c rest ih =>
      rw [escapeFrom]
      split
      · exact ih (pending + 1)
      · rename_i noBackslash
        split
        · rename_i opens
          obtain ⟨rfl, _⟩ := opens
          rw [List.append_assoc, List.cons_append]
          exact rendersAfresh_escaped pending (ih 0)
        · rename_i noTag
          rw [List.append_assoc, List.cons_append]
          refine (renders_backslashes (renders_cons noBackslash ?_ (ih 0)) pending).afresh
          intro bracket
          rw [opensTag_escapeFrom closes]
          simpa [bracket] using noTag

theorem rendersAfresh_escape (closes : closesTag suffix = false) (renders : Renders depth suffix)
    (text : Text) : RendersAfresh depth (escape text ++ suffix) := by
  rw [escape]
  split
  · rw [List.append_assoc]
    refine rendersAfresh_escapeFrom ?_ (renders_backslashes renders 1) 0 text
    rw [closesTag_backslashes, closes]
  · exact rendersAfresh_escapeFrom closes renders 0 text

theorem exists_render {markup : Text} (renders : RendersAfresh 0 markup) :
    ∃ shown, render markup = .ok shown := by
  obtain ⟨shown, rendered⟩ := renders 0 [] (Nat.zero_le _)
  rw [render, rendered]
  exact ⟨_, rfl⟩

/-- Escaped text can be rendered on its own. -/
theorem exists_render_escape (text : Text) : ∃ shown, render (escape text) = .ok shown := by
  have whole := rendersAfresh_escape rfl (renders_nil 0) text
  rw [List.append_nil] at whole
  exact exists_render whole

end ClosedShape.Markup
