import ClosedShape.Proofs.LineWrapping
import ClosedShape.Proofs.ReportText
import ClosedShape.Proofs.ShownMarkup

/-!
# Printed lines

A report prints its lines one below the other and drops the line feeds at its end.  If of every line
it is known what it takes to show its text, then the report shows these texts as they are exactly if
every line has what it takes: a line that shows something else cannot be made good by another one.
-/

namespace ClosedShape

namespace Report

open Text Markup

variable {pieces : List Text} {lines : List Text}

/-- A text without the line feeds at its end. -/
def withoutFinalBreaks (text : Text) : Text :=
  (text.reverse.dropWhile (· == .char '\n')).reverse

/-- Lines with line feeds between them. -/
def joinLines (lines : List Text) : Text := List.intercalate [.char '\n'] lines

@[simp]
theorem joinLines_singleton (line : Text) : joinLines [line] = line :=
  List.intercalate_singleton

theorem joinLines_cons_cons (line next : Text) (rest : List Text) :
    joinLines (line :: next :: rest) = line ++ [.char '\n'] ++ joinLines (next :: rest) :=
  List.intercalate_cons_cons

/-- A piece of a line that is printed: it is not empty and has no line feed. -/
def IsPiece (piece : Text) : Prop :=
  piece ≠ [] ∧ .char '\n' ∉ piece

theorem flatMap_break_eq_joinLines (some : pieces ≠ []) :
    (pieces.flatMap fun piece => piece ++ [.char '\n']) = joinLines pieces ++ [.char '\n'] := by
  induction pieces with
  | nil => exact absurd rfl some
  | cons piece rest ih =>
      cases rest with
      | nil => simp
      | cons next rest =>
          rw [List.flatMap_cons, ih (List.cons_ne_nil _ _), joinLines_cons_cons]
          simp

theorem getLast?_joinLines (some : pieces ≠ []) (each : ∀ piece ∈ pieces, IsPiece piece) :
    ∃ c, (joinLines pieces).getLast? = .some c ∧ c ≠ .char '\n' := by
  induction pieces with
  | nil => exact absurd rfl some
  | cons piece rest ih =>
      obtain ⟨⟨nonempty, noBreak⟩, others⟩ := List.forall_mem_cons.mp each
      cases rest with
      | nil =>
          refine ⟨piece.getLast nonempty, by simp [List.getLast?_eq_some_getLast nonempty], ?_⟩
          rintro same
          exact noBreak (same ▸ List.getLast_mem nonempty)
      | cons next rest =>
          obtain ⟨c, last, noFeed⟩ := ih (List.cons_ne_nil _ _) others
          refine ⟨c, ?_, noFeed⟩
          rw [joinLines_cons_cons, List.getLast?_append, last]
          rfl

/-- Printed pieces are lines with line feeds between them. -/
theorem withoutFinalBreaks_join (some : pieces ≠ []) (each : ∀ piece ∈ pieces, IsPiece piece) :
    withoutFinalBreaks (pieces.flatMap fun piece => piece ++ [.char '\n']) =
      joinLines pieces := by
  obtain ⟨c, last, noFeed⟩ := getLast?_joinLines some each
  rw [← List.head?_reverse] at last
  obtain ⟨front, reversed⟩ := List.head?_eq_some_iff.mp last
  rw [withoutFinalBreaks, flatMap_break_eq_joinLines some, List.reverse_append]
  have whole : front.reverse ++ [c] = joinLines pieces := by
    rw [← List.reverse_inj, reversed]
    simp
  simp [noFeed, ← whole]

theorem joinLines_inj {others : List Text} (some : pieces ≠ []) (someOthers : others ≠ [])
    (each : ∀ piece ∈ pieces, .char '\n' ∉ piece) (eachOther : ∀ piece ∈ others, .char '\n' ∉ piece)
    (same : joinLines pieces = joinLines others) : pieces = others := by
  rw [← List.splitOn_intercalate _ each some, ← joinLines, same, joinLines,
    List.splitOn_intercalate _ eachOther someOthers]

theorem length_le_length_flatten {α : Type} {blocks : List (List α)}
    (nonempty : ∀ block ∈ blocks, block ≠ []) : blocks.length ≤ blocks.flatten.length := by
  induction blocks with
  | nil => exact le_rfl
  | cons block blocks ih =>
      obtain ⟨first, others⟩ := List.forall_mem_cons.mp nonempty
      have longer := List.length_pos_of_ne_nil first
      have rest := ih others
      rw [List.flatten_cons, List.length_append, List.length_cons]
      omega

/-- If there are no more items than blocks, and no block is empty, each of them is one item. -/
theorem eq_map_singleton_of_flatten {α : Type} {blocks : List (List α)} {items : List α}
    (nonempty : ∀ block ∈ blocks, block ≠ []) (few : items.length ≤ blocks.length)
    (flat : blocks.flatten = items) : blocks = items.map fun item => [item] := by
  induction blocks generalizing items with
  | nil =>
      subst flat
      rfl
  | cons block blocks ih =>
      subst flat
      obtain ⟨first, others⟩ := List.forall_mem_cons.mp nonempty
      obtain ⟨item, more, rfl⟩ := List.exists_cons_of_ne_nil first
      have rest := length_le_length_flatten others
      simp only [List.flatten_cons, List.length_append, List.length_cons] at few
      obtain rfl : more = [] := List.eq_nil_of_length_eq_zero (by omega)
      have tail := ih others (by omega) rfl
      rw [List.flatten_cons, List.singleton_append, List.map_cons, ← tail]

/-- Every line is rendered to the text beside it. -/
abbrev Rendered (markup shown : List Text) : Prop :=
  List.Forall₂ (fun line text => render line = .ok text) markup shown

variable {markup shown : List Text}

theorem printLines_of_rendered (rendered : Rendered markup shown) :
    printLines markup = .ok (shown.flatMap (consoleLines consoleWidth)) := by
  have printed : markup.mapM printLine = .ok (shown.map (consoleLines consoleWidth)) := by
    induction rendered with
    | nil => rfl
    | cons first _ ih =>
        rw [List.mapM_cons, printLine, first]
        dsimp only [bind, Except.bind, pure, Except.pure]
        rw [ih]
        rfl
  rw [printLines, printed]
  rfl

/-- Lines are printed only if every one of them is rendered. -/
theorem exists_rendered_of_printLines {text : Text} (printed : printLines markup = .ok text) :
    ∃ shown, Rendered markup shown := by
  have each : ∃ texts, markup.mapM printLine = .ok texts := by
    cases made : markup.mapM printLine with
    | error fault =>
        rw [printLines, made] at printed
        cases printed
    | ok texts => exact ⟨texts, rfl⟩
  obtain ⟨texts, made⟩ := each
  clear printed
  induction markup generalizing texts with
  | nil => exact ⟨[], .nil⟩
  | cons line markup ih =>
      rw [List.mapM_cons, printLine] at made
      cases rendered : render line with
      | error fault =>
          rw [rendered] at made
          cases made
      | ok text =>
          rw [rendered] at made
          cases others : markup.mapM printLine with
          | error fault =>
              rw [others] at made
              cases made
          | ok texts =>
              obtain ⟨shown, rest⟩ := ih texts others
              exact ⟨text :: shown, .cons rendered rest⟩

/-- Printable lines are printed as the pieces that they are wrapped into. -/
theorem flatMap_consoleLines (printable : ∀ text ∈ shown, AllPrintable text) :
    shown.flatMap (consoleLines consoleWidth) =
      (shown.flatMap (wrapLine consoleWidth)).flatMap fun piece => piece ++ [.char '\n'] := by
  rw [List.flatMap_assoc]
  exact List.flatMap_congr fun text member =>
    consoleLines_of_printable consoleWidth (printable text member)

/-! ## Entries of a report -/

/-- A line of a report: its markup, the text that it should show, and what it takes to show it. -/
structure Entry where
  markup : Text
  verbatim : Text
  Faithful : Prop

/-- What a line shows is known: the text itself where it can, and else no line that starts with the
text, but for a backslash too many at its end. -/
structure Entry.Known (entry : Entry) : Prop where
  exact : entry.Faithful → render entry.markup = .ok entry.verbatim
  printable {shown : Text} (rendered : render entry.markup = .ok shown) :
    shown ≠ [] ∧ (AllPrintable entry.verbatim → AllPrintable shown)
  faithful_of_starts {shown : Text} (rendered : render entry.markup = .ok shown) :
    entry.verbatim <+: shown → entry.Faithful ∨ shown = entry.verbatim ++ [.char '\\']

/-- A report of entries that are known. -/
structure Printed (entries : List Entry) : Prop where
  nonempty : entries ≠ []
  known : ∀ entry ∈ entries, entry.Known
  printable : ∀ entry ∈ entries, entry.verbatim ≠ [] ∧ AllPrintable entry.verbatim
  fits : ∀ entry ∈ entries, entry.verbatim.length ≤ consoleWidth

variable {entries : List Entry}

theorem isPiece_of_printable {text : Text} (nonempty : text ≠ [])
    (printable : ∀ c ∈ text, IsPrintable c) : IsPiece text :=
  ⟨nonempty, fun member => absurd (printable _ member) (by decide)⟩

theorem Printed.isPiece (printed : Printed entries) :
    ∀ piece ∈ entries.map Entry.verbatim, IsPiece piece := by
  rintro piece member
  obtain ⟨entry, isEntry, rfl⟩ := List.mem_map.mp member
  obtain ⟨nonempty, printable⟩ := printed.printable entry isEntry
  exact isPiece_of_printable (by simpa using nonempty) printable

theorem Printed.verbatim_eq (printed : Printed entries) :
    (withoutFinalBreaks ((entries.map Entry.verbatim).flatMap fun piece => piece ++ [.char '\n'])) =
      joinLines (entries.map Entry.verbatim) := by
  rw [withoutFinalBreaks_join (by simpa using printed.nonempty) printed.isPiece]

theorem Printed.eq_of_faithful (printed : Printed entries)
    (faithful : ∀ entry ∈ entries, entry.Faithful) :
    (printLines (entries.map Entry.markup)).map withoutFinalBreaks =
      .ok (joinLines (entries.map Entry.verbatim)) := by
  have rendered : Rendered (entries.map Entry.markup) (entries.map Entry.verbatim) := by
    rw [Rendered, List.forall₂_map_left_iff, List.forall₂_map_right_iff, List.forall₂_same]
    exact fun entry member => (printed.known entry member).exact (faithful entry member)
  have wrapped : ∀ entry ∈ entries,
      wrapLine consoleWidth entry.verbatim = [entry.verbatim] :=
    fun entry member => wrapLine_of_fits (printed.fits entry member)
  have pieces :
      (entries.map Entry.verbatim).flatMap (wrapLine consoleWidth) =
        entries.map Entry.verbatim := by
    rw [List.flatMap_map, List.flatMap_congr wrapped]
    exact List.flatMap_pure_eq_map _ _
  rw [printLines_of_rendered rendered, flatMap_consoleLines, pieces, ← printed.verbatim_eq]
  · rfl
  · simpa using fun entry member => (printed.printable entry member).2

/-- Pieces that are printed as the texts of the entries are these texts. -/
theorem Printed.pieces_eq (printed : Printed entries) (some : pieces ≠ [])
    (each : ∀ piece ∈ pieces, IsPiece piece)
    (same : withoutFinalBreaks (pieces.flatMap fun piece => piece ++ [.char '\n']) =
      joinLines (entries.map Entry.verbatim)) :
    pieces = entries.map Entry.verbatim := by
  rw [← printed.verbatim_eq, withoutFinalBreaks_join some each,
    withoutFinalBreaks_join (by simpa using printed.nonempty) printed.isPiece] at same
  exact joinLines_inj some (by simpa using printed.nonempty)
    (fun piece member => (each piece member).2)
    (fun piece member => (printed.isPiece piece member).2) same

theorem Entry.Known.faithful_of_wrapLine {entry : Entry} {shown : Text} (known : entry.Known)
    (rendered : render entry.markup = .ok shown)
    (wrapped : wrapLine consoleWidth shown = [entry.verbatim]) : entry.Faithful := by
  have nonempty := (known.printable rendered).1
  obtain ⟨first, rest, made, starts, _⟩ :=
    wrapLine_spec (show 0 < consoleWidth by decide) nonempty
  obtain ⟨rfl, rfl⟩ := List.cons.inj (made.symm.trans wrapped)
  refine (known.faithful_of_starts rendered starts).resolve_right ?_
  rintro rfl
  have enough := length_le_of_wrapLine_eq_singleton (by decide) (by decide) wrapped
  rw [wrapLine_of_fits enough] at wrapped
  simp at wrapped

theorem faithful_of_rendered (known : ∀ entry ∈ entries, entry.Known)
    (rendered : Rendered (entries.map Entry.markup) shown)
    (wrapped : (shown.map fun text => wrapLine consoleWidth text) =
      entries.map fun entry => [entry.verbatim]) :
    ∀ entry ∈ entries, entry.Faithful := by
  induction entries generalizing shown with
  | nil => exact List.forall_mem_nil _
  | cons entry entries ih =>
      obtain ⟨first, others⟩ := List.forall_mem_cons.mp known
      cases rendered with
      | cons renderedFirst renderedOthers =>
          obtain ⟨wrappedFirst, wrappedOthers⟩ := List.cons.inj wrapped
          exact List.forall_mem_cons.mpr ⟨first.faithful_of_wrapLine renderedFirst wrappedFirst,
            ih others renderedOthers wrappedOthers⟩

theorem printable_of_rendered (printed : Printed entries)
    (rendered : Rendered (entries.map Entry.markup) shown) :
    ∀ text ∈ shown, text ≠ [] ∧ AllPrintable text := by
  intro text member
  obtain ⟨line, isLine, renderedLine⟩ := exists_related_of_mem rendered member
  obtain ⟨entry, isEntry, rfl⟩ := List.mem_map.mp isLine
  obtain ⟨nonempty, printable⟩ := (printed.known entry isEntry).printable renderedLine
  exact ⟨nonempty, printable (printed.printable entry isEntry).2⟩

/-- A printable line is printed in pieces, at least one. -/
theorem isPiece_of_mem_wrapLine {line : Text} (nonempty : line ≠ [])
    (printable : ∀ c ∈ line, IsPrintable c) :
    wrapLine consoleWidth line ≠ [] ∧ ∀ piece ∈ wrapLine consoleWidth line, IsPiece piece := by
  obtain ⟨first, rest, made, _, _, each⟩ :=
    wrapLine_spec (show 0 < consoleWidth by decide) nonempty
  refine ⟨by simp [made], fun piece member => ?_⟩
  exact isPiece_of_printable (each piece (made ▸ member)) fun c inPiece =>
    printable c (mem_of_mem_wrapLine member inPiece)

/-- Entries whose texts are what is printed are faithful. -/
theorem Printed.faithful_of_eq (printed : Printed entries)
    (same : (printLines (entries.map Entry.markup)).map withoutFinalBreaks =
      .ok (joinLines (entries.map Entry.verbatim))) :
    ∀ entry ∈ entries, entry.Faithful := by
  cases made : printLines (entries.map Entry.markup) with
  | error fault =>
      rw [made] at same
      cases same
  | ok text =>
      obtain ⟨shown, rendered⟩ := exists_rendered_of_printLines made
      have printable := printable_of_rendered printed rendered
      have lengths : entries.length = shown.length := by simpa using rendered.length_eq
      have blocks : ∀ text ∈ shown, wrapLine consoleWidth text ≠ [] ∧
          ∀ piece ∈ wrapLine consoleWidth text, IsPiece piece := fun text member =>
        isPiece_of_mem_wrapLine (by simpa using (printable text member).1) (printable text member).2
      rw [printLines_of_rendered rendered, flatMap_consoleLines fun text member =>
        (printable text member).2] at same
      have flat := printed.pieces_eq
        (by
          obtain ⟨text, others, rfl⟩ := List.exists_cons_of_length_pos
            (lengths ▸ List.length_pos_of_ne_nil printed.nonempty)
          simp [(blocks text (by simp)).1])
        (by
          intro piece member
          obtain ⟨text, inShown, inBlock⟩ := List.mem_flatMap.mp member
          exact (blocks text inShown).2 piece inBlock)
        (Except.ok.inj same)
      have each := eq_map_singleton_of_flatten
        (by simpa using fun text member => (blocks text member).1) (by simp [lengths]) flat
      exact faithful_of_rendered printed.known rendered (each.trans List.map_map)

/-- A report shows its texts as they are exactly if all its entries are faithful. -/
theorem Printed.eq_iff (printed : Printed entries) :
    (printLines (entries.map Entry.markup)).map withoutFinalBreaks =
        .ok (joinLines (entries.map Entry.verbatim)) ↔
      ∀ entry ∈ entries, entry.Faithful :=
  ⟨printed.faithful_of_eq, printed.eq_of_faithful⟩

end Report

end ClosedShape
