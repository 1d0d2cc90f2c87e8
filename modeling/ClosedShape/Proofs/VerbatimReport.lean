import ClosedShape.Proofs.PrintedLines

/-!
# Reports that show texts as they are

A printed report of a failed check shows every text in it as it is, unless a backslash stands before
a bracket that opens no tag, or several stand at the end of a name or path, or exactly one at the
end of a message or line, or a code that is shown has a tag.  These are all the exceptions.
-/

namespace ClosedShape

namespace Markup

variable {depth : Nat} {name text word rest : Text}

/-- A plain text in a style of its own. -/
theorem shows_word (isName : IsStyleName name) (plain : Plain word) :
    Shows ⟨0, depth, .char '[' :: (name ++
      .char ']' :: (word ++ .char '[' :: .char '/' :: .char ']' :: rest))⟩ word
      ⟨0, depth, rest⟩ := by
  simpa using (shows_open isName).trans
    ((shows_plain plain).trans (shows_close (Nat.zero_mod 2)))

theorem printable_backslashes (count : Nat) : ∀ c ∈ backslashes count, Text.IsPrintable c := by
  intro c member
  rw [List.eq_of_mem_replicate member]
  decide

theorem printable_shownFrom (printable : ∀ c ∈ text, Text.IsPrintable c) (pending : Nat) :
    ∀ c ∈ shownFrom pending text, Text.IsPrintable c := by
  induction text generalizing pending with
  | nil => exact List.forall_mem_nil _
  | cons c rest ih =>
      obtain ⟨first, others⟩ := List.forall_mem_cons.mp printable
      rw [shownFrom]
      split
      · exact ih others (pending + 1)
      · split
        · exact List.forall_mem_append.mpr ⟨printable_backslashes _,
            List.forall_mem_cons.mpr ⟨first, ih others 0⟩⟩
        · exact List.forall_mem_append.mpr ⟨printable_backslashes _,
            List.forall_mem_cons.mpr ⟨first, ih others 0⟩⟩

theorem printable_shownInStyle (printable : ∀ c ∈ text, Text.IsPrintable c) :
    ∀ c ∈ shownInStyle text, Text.IsPrintable c := by
  rw [shownInStyle, List.forall_mem_append, List.forall_mem_append]
  refine ⟨⟨printable_shownFrom printable 0, printable_backslashes _⟩, ?_⟩
  split
  · decide
  · exact List.forall_mem_nil _

theorem printable_shownBeforeText (printable : ∀ c ∈ text, Text.IsPrintable c) :
    ∀ c ∈ shownBeforeText text, Text.IsPrintable c := by
  rw [shownBeforeText, List.forall_mem_append]
  exact ⟨printable_shownFrom printable 0, printable_backslashes _⟩

end Markup

namespace Report

open Text Markup

/-! ## The lines of a report -/

/-- The text that an error should be shown as. -/
def verbatimError (verbose : Bool) (error : CheckError) : Text :=
  let place : Text := if error.path.isEmpty then [] else error.path ++ ": "
  let code : Text := if verbose then " (" ++ error.code ++ ")" else []
  "  " ++ place ++ error.message ++ code

/-- The lines that the report of a failed check should have. -/
def verbatimLines (result : CheckResult) (settings : ReportSettings) : List Text :=
  let expected : List Text :=
    if result.expected.isEmpty || settings.quiet then []
    else "Expected:" :: result.expected.map fun line => "  " ++ line
  ("ERROR: " ++ result.name) :: result.errors.map (verbatimError settings.verbose) ++ expected

/-- Every text of a result has what it takes to be shown as it is where it stands. -/
structure ShownAsIs (result : CheckResult) (settings : ReportSettings) : Prop where
  name : ShownInStyle result.name
  paths : ∀ error ∈ result.errors, ShownInStyle error.path
  messages : ∀ error ∈ result.errors, ShownBeforeText error.message
  codes : settings.verbose = true → ∀ error ∈ result.errors, ShownUnescaped error.code
  expected : settings.quiet = false → ∀ line ∈ result.expected, ShownBeforeText line

/-- The first line of the report of a failed check. -/
def headlineEntry (name : Text) : Entry where
  markup := headline false name
  verbatim := "ERROR: " ++ name
  Faithful := ShownInStyle name

def errorEntry (verbose : Bool) (error : CheckError) : Entry where
  markup := errorLine verbose error
  verbatim := verbatimError verbose error
  Faithful := ShownInStyle error.path ∧ ShownBeforeText error.message ∧
    (verbose = true → ShownUnescaped error.code)

def hintEntry : Entry where
  markup := "[shape.hint]Expected:[/]"
  verbatim := "Expected:"
  Faithful := True

def expectedEntry (line : Text) : Entry where
  markup := "  " ++ escape line
  verbatim := "  " ++ line
  Faithful := ShownBeforeText line

def failureEntries (result : CheckResult) (settings : ReportSettings) : List Entry :=
  headlineEntry result.name :: result.errors.map (errorEntry settings.verbose) ++
    if result.expected.isEmpty || settings.quiet then []
    else hintEntry :: result.expected.map expectedEntry

variable {result : CheckResult} {settings : ReportSettings} {error : CheckError} {shown : Text}
  {verbose : Bool} {name : Text}

theorem lines_eq_map_markup (failed : result.ok = false) :
    lines result settings = .ok ((failureEntries result settings).map Entry.markup) := by
  rw [lines, failureEntries]
  simp only [failed, Bool.false_eq_true, if_false]
  split <;> simp [headlineEntry, errorEntry, hintEntry, expectedEntry, Function.comp_def]

theorem verbatimLines_eq_map_verbatim :
    (failureEntries result settings).map Entry.verbatim = verbatimLines result settings := by
  rw [verbatimLines, failureEntries]
  split <;> simp [headlineEntry, errorEntry, hintEntry, expectedEntry, Function.comp_def]

theorem faithful_iff_shownAsIs :
    (∀ entry ∈ failureEntries result settings, entry.Faithful) ↔ ShownAsIs result settings := by
  rw [failureEntries, List.cons_append, List.forall_mem_cons, List.forall_mem_append,
    List.forall_mem_map]
  constructor
  · rintro ⟨name, errors, expected⟩
    refine ⟨name, fun error member => (errors error member).1,
      fun error member => (errors error member).2.1,
      fun verbose error member => (errors error member).2.2 verbose, fun loud line member => ?_⟩
    have listed : ¬ (result.expected.isEmpty || settings.quiet) = true := by
      simp [loud, List.ne_nil_of_mem member]
    rw [if_neg listed, List.forall_mem_cons, List.forall_mem_map] at expected
    exact expected.2 line member
  · rintro ⟨name, paths, messages, codes, expected⟩
    refine ⟨name, fun error member => ⟨paths error member, messages error member,
      fun verbose => codes verbose error member⟩, ?_⟩
    split
    · exact List.forall_mem_nil _
    · next listed =>
        rw [List.forall_mem_cons, List.forall_mem_map]
        have loud : settings.quiet = false := by simp_all
        exact ⟨trivial, expected loud⟩

/-! ## Headlines and expected lines -/

theorem shows_headline (name : Text) :
    ∃ after, Shows ⟨0, 0, (headline false name)⟩
      (ofString "ERROR: " ++ shownInStyle name) ⟨0, after, []⟩ := by
  obtain ⟨after, named⟩ := shows_styled 0 (show IsStyleName "shape.name" by decide) name []
  have colon := (shows_plain (show Plain ": " by decide)).trans named
  have whole := (shows_word (show IsStyleName "shape.error" by decide)
    (show Plain "ERROR" by decide)).trans colon
  refine ⟨after, ?_⟩
  simpa [headline, ofString] using whole

/-- An entry whose markup renders to given characters. -/
theorem Entry.known_of_render_eq {entry : Entry} {chars : Text}
    (rendered : render entry.markup = .ok chars) (nonempty : chars ≠ [])
    (printable : AllPrintable entry.verbatim → ∀ c ∈ chars, IsPrintable c)
    (exact : entry.Faithful → chars = entry.verbatim)
    (only : entry.verbatim <+: chars →
      entry.Faithful ∨ chars = entry.verbatim ++ [.char '\\']) : entry.Known where
  exact faithful := by rw [rendered, exact faithful]
  printable {shown} made := by
    obtain rfl := Except.ok.inj (rendered.symm.trans made)
    exact ⟨nonempty, printable⟩
  faithful_of_starts {shown} made := by
    obtain rfl := Except.ok.inj (rendered.symm.trans made)
    exact only

theorem headlineEntry_known (name : Text) : (headlineEntry name).Known := by
  obtain ⟨after, shows⟩ := shows_headline name
  have verbatim : (headlineEntry name).verbatim = ofString "ERROR: " ++ name := rfl
  have rendered := shows.render_eq
  rw [backslashes_zero, List.append_nil] at rendered
  refine Entry.known_of_render_eq rendered (by simp [ofString]) ?_ ?_ ?_
  · rw [AllPrintable, verbatim, List.forall_mem_append, List.forall_mem_append]
    exact And.imp_right printable_shownInStyle
  · intro faithful
    rw [verbatim, faithful.shown_eq]
  · rw [verbatim, List.prefix_append_right_inj]
    intro starts
    exact .inl (shownInStyle_of_starts [] (by simp) (by simpa using starts))

theorem hintEntry_known : hintEntry.Known := by
  have word : Shows _ "Expected:" ⟨0, 0, []⟩ :=
    shows_word (show IsStyleName "shape.hint" by decide) (by decide)
  have shows : Shows ⟨0, 0, hintEntry.markup⟩ "Expected:" ⟨0, 0, []⟩ := by
    simpa [hintEntry, ofString] using word
  exact Entry.known_of_render_eq shows.render_eq (by decide) (fun printable => printable)
    (fun _ => rfl) (fun _ => .inl trivial)

theorem expectedEntry_known (line : Text) : (expectedEntry line).Known := by
  have verbatim : (expectedEntry line).verbatim = ofString "  " ++ line := rfl
  have shows : Shows ⟨0, 0, (expectedEntry line).markup⟩
      (ofString "  " ++ shownFrom 0 line) ⟨closingBackslashes line, 0, []⟩ := by
    have escaped := shows_escape 0 (show closesTag [] = false from rfl) line
    rw [List.append_nil] at escaped
    exact (shows_plain (show Plain "  " by decide)).trans escaped
  have rendered := shows.render_eq
  rw [List.append_assoc, ← shownBeforeText] at rendered
  refine Entry.known_of_render_eq rendered (by simp [ofString]) ?_ ?_ ?_
  · rw [AllPrintable, verbatim, List.forall_mem_append, List.forall_mem_append]
    exact And.imp_right printable_shownBeforeText
  · intro faithful
    rw [verbatim, faithful.shown_eq]
  · rw [verbatim, List.prefix_append_right_inj]
    intro starts
    refine (shownBeforeText_of_starts [] (by simpa using starts)).imp_right fun same => ?_
    rw [same, List.append_assoc]

/-! ## Errors -/

/-- The end of a line for an error: its message and, if wanted, its code. -/
def messageMarkup (verbose : Bool) (error : CheckError) : Text :=
  escape error.message ++ if verbose then styledCode error.code else []

def verbatimMessage (verbose : Bool) (error : CheckError) : Text :=
  error.message ++ if verbose then " (" ++ error.code ++ ")" else []

theorem verbatimMessage_true :
    verbatimMessage true error =
      error.message ++ ([.char ' ', .char '('] ++ (error.code ++ ofString ")")) := by
  simp [verbatimMessage, ofString]

theorem verbatimMessage_false : verbatimMessage false error = error.message :=
  List.append_nil _

/-- The message is shown as it is, and so is the code if it is shown. -/
def MessageFaithful (verbose : Bool) (error : CheckError) : Prop :=
  ShownBeforeText error.message ∧ (verbose = true → ShownUnescaped error.code)

section Messages

variable {position depth : Nat} {opened : List Text} {chars : Text}

theorem renderFrom_message_of_quiet :
    renderFrom position 0 opened (messageMarkup false error) =
      .ok (shownBeforeText error.message) := by
  obtain ⟨next, others, _, rendered⟩ :=
    shows_escape opened.length (show closesTag [] = false from rfl) error.message position opened
      rfl
  dsimp only at rendered
  change renderFrom position 0 opened (escape error.message ++ []) = _
  rw [rendered, renderFrom]
  rfl

/-- Before the code stand the message and a bracket. -/
theorem shows_message_of_verbose (depth : Nat) (error : CheckError) :
    Shows ⟨0, depth, messageMarkup true error⟩
      (shownBeforeText error.message ++ ofString " (")
      ⟨0, depth + 1, error.code ++ ofString ")[/]"⟩ := by
  have bracket : Shows _ "(" ⟨0, depth + 1, error.code ++ ofString ")[/]"⟩ :=
    shows_plain (show Plain "(" by decide)
  have style := (shows_open (show IsStyleName "shape.code" by decide)).trans bracket
  have blank {pending : Nat} {rest : Text} :
      Shows ⟨pending, depth, .char ' ' :: rest⟩ (backslashes pending ++ [.char ' '])
        ⟨0, depth, rest⟩ :=
    shows_char (by decide) (by decide)
  have whole := (shows_escape depth (by rfl) error.message).trans (blank.trans style)
  simpa [messageMarkup, styledCode, shownBeforeText, ofString] using whole

/-- A code without tags is shown, but for backslashes that are lost. -/
theorem shows_code (noTag : HasNoTag chars) :
    Shows ⟨0, depth + 1, chars ++ ofString ")[/]"⟩
      (shownFrom 0 chars ++ backslashes (finalBackslashes 0 chars) ++ ofString ")")
      ⟨0, depth, []⟩ := by
  have closes : closesTag ")[/]" = false := rfl
  have bracket : Shows ⟨finalBackslashes 0 chars, depth + 1, ofString ")[/]"⟩
      (backslashes (finalBackslashes 0 chars) ++ [.char ')']) ⟨0, depth + 1, ofString "[/]"⟩ :=
    shows_char (by decide) (by decide)
  have whole := (shows_escapeFrom (depth + 1) closes 0 chars).trans
    (bracket.trans (shows_close (Nat.zero_mod 2)))
  rw [escapeFrom_of_hasNoTag noTag, backslashes_zero, List.nil_append] at whole
  simpa [ofString] using whole

/-- A code is shown at most as it is, and as it is only if it needs no escaping. -/
theorem exists_kept_of_code {text : Text} {chars : Text}
    (rendered : renderFrom position 0 opened (chars ++ ofString ")[/]") = .ok text) :
    ∃ kept, text = kept ++ ofString ")" ∧ kept.Sublist chars ∧
      (kept = chars → ShownUnescaped chars) := by
  change renderFrom position 0 opened (chars ++ .char ')' :: ofString "[/]") = .ok text at rendered
  obtain ⟨kept, others, next, after, rfl, reached, isSublist, inert⟩ :=
    exists_kept_of_renderFrom (by decide) (by decide) (by rfl) rendered
  have nothing : others = [] := by
    cases after with
    | nil =>
        change renderFrom next 0 [] (.char '[' :: .char '/' :: .char ']' :: []) = .ok others
          at reached
        rw [renderFrom_close_nil] at reached
        cases reached
    | cons style after =>
        change renderFrom next 0 (style :: after) (.char '[' :: .char '/' :: .char ']' :: []) =
          .ok others at reached
        rw [renderFrom_close, if_neg (by decide), renderFrom] at reached
        exact (Except.ok.inj reached).symm
  subst nothing
  exact ⟨kept, rfl, isSublist, fun whole => (inert whole).symm⟩

theorem renderFrom_message (faithful : MessageFaithful verbose error) :
    renderFrom position 0 opened (messageMarkup verbose error) =
      .ok (verbatimMessage verbose error) := by
  obtain ⟨message, code⟩ := faithful
  cases verbose with
  | false => rw [renderFrom_message_of_quiet, message.shown_eq, verbatimMessage_false]
  | true =>
      obtain ⟨keeps, noTag⟩ := code rfl
      obtain ⟨next, others, _, rendered⟩ := ((shows_message_of_verbose opened.length
        error).trans (shows_code noTag)) position opened rfl
      dsimp only at rendered
      rw [rendered, renderFrom, message.shown_eq, shownFrom_zero_append keeps,
        verbatimMessage_true]
      simp [Except.map, ofString]

/-- A message can be rendered unless its code is shown and has a tag. -/
theorem exists_renderFrom_message (position : Nat) (opened : List Text)
    (codes : verbose = true → HasNoTag error.code) :
    ∃ text, renderFrom position 0 opened (messageMarkup verbose error) = .ok text := by
  cases verbose with
  | false => exact ⟨_, renderFrom_message_of_quiet⟩
  | true =>
      obtain ⟨next, others, _, rendered⟩ := ((shows_message_of_verbose opened.length
        error).trans (shows_code (codes rfl))) position opened rfl
      dsimp only at rendered
      rw [rendered, renderFrom]
      exact ⟨_, rfl⟩

/-- A message with its code is shown as the message and at most the code. -/
theorem exists_kept_of_message {text : Text}
    (rendered : renderFrom position 0 opened (messageMarkup true error) = .ok text) :
    ∃ kept,
      text = shownBeforeText error.message ++
        ([.char ' ', .char '('] ++ (kept ++ ofString ")")) ∧
      kept.Sublist error.code ∧
      (kept = error.code → ShownUnescaped error.code) := by
  obtain ⟨next, others, more, _, renderedCode, rfl⟩ :=
    (shows_message_of_verbose opened.length error).exists_of_ok rfl rendered
  obtain ⟨kept, rfl, isSublist, inert⟩ := exists_kept_of_code renderedCode
  exact ⟨kept, List.append_assoc _ _ _, isSublist, inert⟩

theorem printable_message {text : Text}
    (rendered : renderFrom position 0 opened (messageMarkup verbose error) = .ok text)
    (printable : ∀ c ∈ verbatimMessage verbose error, IsPrintable c) :
    ∀ c ∈ text, IsPrintable c := by
  cases verbose with
  | false =>
      rw [renderFrom_message_of_quiet] at rendered
      obtain rfl := Except.ok.inj rendered
      exact printable_shownBeforeText (verbatimMessage_false ▸ printable)
  | true =>
      obtain ⟨kept, rfl, isSublist, _⟩ := exists_kept_of_message rendered
      rw [verbatimMessage_true] at printable
      simp only [List.forall_mem_append] at printable ⊢
      obtain ⟨message, opening, code, closing⟩ := printable
      exact ⟨printable_shownBeforeText message, opening,
        fun c member => code c (isSublist.subset member), closing⟩

/-- What is shown starts with a message only if both its texts are shown as they are, but for a
backslash too many at the end. -/
theorem messageFaithful_of_starts {text : Text}
    (rendered : renderFrom position 0 opened (messageMarkup verbose error) = .ok text)
    (starts : verbatimMessage verbose error <+: text) :
    MessageFaithful verbose error ∨ text = verbatimMessage verbose error ++ [.char '\\'] := by
  cases verbose with
  | false =>
      rw [renderFrom_message_of_quiet] at rendered
      obtain rfl := Except.ok.inj rendered
      rw [verbatimMessage_false] at starts ⊢
      exact (shownBeforeText_of_starts [] (by simpa using starts)).imp_left
        fun shown => ⟨shown, nofun⟩
  | true =>
      obtain ⟨kept, rfl, isSublist, inert⟩ := exists_kept_of_message rendered
      rw [verbatimMessage_true] at starts
      rcases shownBeforeText_of_starts _ ((List.prefix_append _ _).trans starts) with
        message | tooMany
      · refine .inl ⟨message, fun _ => inert ?_⟩
        rw [message.shown_eq, List.prefix_append_right_inj, List.prefix_append_right_inj] at starts
        have longer := starts.length_le
        simp only [List.length_append, Nat.add_le_add_iff_right] at longer
        exact isSublist.eq_of_length_le longer
      · rw [tooMany, List.append_assoc, List.prefix_append_right_inj] at starts
        exact absurd (List.cons_prefix_cons.mp starts).1 (by decide)

end Messages

/-- The start of a line for an error, with its path if it has one. -/
def shownStart (error : CheckError) : Text :=
  ofString "  " ++ if error.path.isEmpty then [] else shownInStyle error.path ++ ofString ": "

def verbatimStart (error : CheckError) : Text :=
  ofString "  " ++ if error.path.isEmpty then [] else error.path ++ ofString ": "

theorem verbatimError_eq (verbose : Bool) (error : CheckError) :
    verbatimError verbose error = verbatimStart error ++ verbatimMessage verbose error := by
  rw [verbatimError, verbatimStart, verbatimMessage]
  split <;> simp

theorem shows_errorLine (verbose : Bool) (error : CheckError) :
    ∃ after, Shows ⟨0, 0, errorLine verbose error⟩ (shownStart error)
      ⟨0, after, messageMarkup verbose error⟩ := by
  have blanks {rest : Text} : Shows ⟨0, 0, ofString "  " ++ rest⟩ "  " ⟨0, 0, rest⟩ :=
    shows_plain (by decide)
  rw [errorLine, shownStart]
  split
  · refine ⟨0, ?_⟩
    simpa [messageMarkup, styledCode] using blanks
  · have colon {after : Nat} {rest : Text} :
        Shows ⟨0, after, ofString ": " ++ rest⟩ ": " ⟨0, after, rest⟩ :=
      shows_plain (by decide)
    obtain ⟨after, styled⟩ := shows_styled 0 (show IsStyleName "shape.path" by decide)
      error.path _
    refine ⟨after, ?_⟩
    simpa [messageMarkup, styledCode, ofString] using blanks.trans (styled.trans colon)

theorem shownStart_eq (faithful : ShownInStyle error.path) :
    shownStart error = verbatimStart error := by
  rw [shownStart, verbatimStart, faithful.shown_eq]

theorem printable_shownStart (printable : ∀ c ∈ verbatimStart error, IsPrintable c) :
    ∀ c ∈ shownStart error, IsPrintable c := by
  rw [verbatimStart, List.forall_mem_append] at printable
  rw [shownStart, List.forall_mem_append]
  refine ⟨printable.1, ?_⟩
  split
  · exact List.forall_mem_nil _
  · next path =>
      have rest := printable.2
      rw [if_neg path, List.forall_mem_append] at rest
      exact List.forall_mem_append.mpr ⟨printable_shownInStyle rest.1, rest.2⟩

/-- A line starts as it should only if its path is shown as it is. -/
theorem shownInStyle_of_start {rest more : Text}
    (starts : verbatimStart error ++ rest <+: shownStart error ++ more) :
    ShownInStyle error.path ∧ rest <+: more := by
  have path : ShownInStyle error.path := by
    rw [verbatimStart, shownStart, List.append_assoc, List.append_assoc,
      List.prefix_append_right_inj] at starts
    split at starts
    · next empty =>
        rw [List.isEmpty_iff.mp empty]
        exact ⟨keepsBackslashes_backslashes 0, by decide⟩
    · refine shownInStyle_of_starts (ofString ": " ++ more) (by simp [ofString]) ?_
      rw [List.append_assoc, List.append_assoc] at starts
      exact (List.prefix_append _ _).trans starts
  rw [shownStart_eq path, List.prefix_append_right_inj] at starts
  exact ⟨path, starts⟩

/-- A line for an error is rendered as its start and its message. -/
theorem exists_render_errorLine_eq (verbose : Bool) (error : CheckError) :
    ∃ position opened, render (errorLine verbose error) =
      (renderFrom position 0 opened (messageMarkup verbose error)).map
        fun more => shownStart error ++ more := by
  obtain ⟨after, shows⟩ := shows_errorLine verbose error
  obtain ⟨position, opened, _, reached⟩ := shows 0 [] rfl
  dsimp only at reached
  exact ⟨position, opened, reached⟩

theorem errorEntry_known (verbose : Bool) (error : CheckError) :
    (errorEntry verbose error).Known := by
  obtain ⟨position, opened, whole⟩ := exists_render_errorLine_eq verbose error
  have verbatim : (errorEntry verbose error).verbatim =
      verbatimStart error ++ verbatimMessage verbose error := verbatimError_eq verbose error
  change render (errorEntry verbose error).markup = _ at whole
  have parts {shown : Text} (rendered : render (errorEntry verbose error).markup = .ok shown) :
      ∃ more, renderFrom position 0 opened (messageMarkup verbose error) = .ok more ∧
        shown = shownStart error ++ more := by
    rw [whole] at rendered
    cases message : renderFrom position 0 opened (messageMarkup verbose error) with
    | error fault =>
        rw [message] at rendered
        cases rendered
    | ok more =>
        rw [message] at rendered
        exact ⟨more, rfl, (Except.ok.inj rendered).symm⟩
  refine ⟨fun faithful => ?_, fun rendered => ?_, fun rendered starts => ?_⟩
  · obtain ⟨path, message⟩ := faithful
    rw [whole, renderFrom_message message, shownStart_eq path]
    refine congrArg Except.ok ?_
    exact verbatim.symm
  · obtain ⟨more, message, shown⟩ := parts rendered
    rw [AllPrintable, verbatim, AllPrintable, shown]
    refine ⟨?_, ?_⟩
    · simp [shownStart, ofString]
    · rw [List.forall_mem_append, List.forall_mem_append]
      exact And.imp printable_shownStart (printable_message message)
  · obtain ⟨more, message, shown⟩ := parts rendered
    rw [verbatim, shown] at starts
    obtain ⟨path, starts⟩ := shownInStyle_of_start starts
    refine (messageFaithful_of_starts message starts).imp (fun faithful => ⟨path, faithful⟩) ?_
    intro tooMany
    rw [shown, tooMany, shownStart_eq path, verbatim, List.append_assoc]

/-! ## Whole reports -/

theorem failureEntries_known (result : CheckResult) (settings : ReportSettings) :
    ∀ entry ∈ failureEntries result settings, entry.Known := by
  rw [failureEntries, List.cons_append, List.forall_mem_cons, List.forall_mem_append,
    List.forall_mem_map]
  refine ⟨headlineEntry_known _, fun error _ => errorEntry_known _ error, ?_⟩
  split
  · exact List.forall_mem_nil _
  · rw [List.forall_mem_cons, List.forall_mem_map]
    exact ⟨hintEntry_known, fun line _ => expectedEntry_known line⟩

/-- The texts of a result. -/
def texts (result : CheckResult) : List Text :=
  result.name :: result.errors.flatMap (fun error => [error.path, error.message, error.code]) ++
    result.expected

theorem verbatimError_spec (verbose : Bool)
    (printable : ∀ text ∈ [error.path, error.message, error.code], AllPrintable text) :
    verbatimError verbose error ≠ [] ∧ AllPrintable (verbatimError verbose error) := by
  simp only [List.forall_mem_cons] at printable
  obtain ⟨path, message, code, _⟩ := printable
  constructor
  · simp [verbatimError, ofString]
  · rw [verbatimError]
    simp only [allPrintable_append]
    refine ⟨⟨⟨by decide, ?_⟩, message⟩, ?_⟩
    · split
      · decide
      · exact allPrintable_append.mpr ⟨path, by decide⟩
    · split
      · exact allPrintable_append.mpr ⟨allPrintable_append.mpr ⟨by decide, code⟩, by decide⟩
      · decide

theorem verbatimLines_spec (settings : ReportSettings)
    (printable : ∀ text ∈ texts result, AllPrintable text) :
    ∀ line ∈ verbatimLines result settings, line ≠ [] ∧ AllPrintable line := by
  simp only [texts, List.cons_append, List.forall_mem_cons, List.forall_mem_append] at printable
  obtain ⟨name, errors, expected⟩ := printable
  rw [verbatimLines, List.cons_append, List.forall_mem_cons, List.forall_mem_append,
    List.forall_mem_map]
  refine ⟨⟨by simp [ofString], allPrintable_append.mpr ⟨by decide, name⟩⟩,
    fun error member => ?_, ?_⟩
  · exact verbatimError_spec settings.verbose fun text isText =>
      errors text (List.mem_flatMap.mpr ⟨error, member, isText⟩)
  · split
    · exact List.forall_mem_nil _
    · rw [List.forall_mem_cons, List.forall_mem_map]
      exact ⟨by decide, fun line member =>
        ⟨by simp [ofString], allPrintable_append.mpr ⟨by decide, expected line member⟩⟩⟩

theorem printed_failureEntries (printable : ∀ text ∈ texts result, AllPrintable text)
    (fits : ∀ line ∈ verbatimLines result settings, line.length ≤ consoleWidth) :
    Printed (failureEntries result settings) := by
  have lines := verbatimLines_spec settings printable
  rw [← verbatimLines_eq_map_verbatim] at fits lines
  exact ⟨by simp [failureEntries], failureEntries_known result settings,
    List.forall_mem_map.mp lines, List.forall_mem_map.mp fits⟩

theorem format_of_failed (failed : result.ok = false) (human : settings.jsonOutput = false) :
    format result settings =
      (printLines ((failureEntries result settings).map Entry.markup)).map withoutFinalBreaks := by
  rw [format, human, lines_eq_map_markup failed]
  dsimp only [bind, Except.bind]
  cases printLines ((failureEntries result settings).map Entry.markup) <;> rfl

/-- Every line for a failed check can be rendered unless a code that is shown has a tag. -/
theorem exists_render_of_failed
    (codes : settings.verbose = true → ∀ error ∈ result.errors, HasNoTag error.code) :
    ∀ entry ∈ failureEntries result settings, ∃ shown, render entry.markup = .ok shown := by
  rw [failureEntries, List.cons_append, List.forall_mem_cons, List.forall_mem_append,
    List.forall_mem_map]
  refine ⟨exists_render_headline false result.name, fun error member => ?_, ?_⟩
  · obtain ⟨position, opened, whole⟩ := exists_render_errorLine_eq settings.verbose error
    obtain ⟨text, rendered⟩ := exists_renderFrom_message position opened
      fun verbose => codes verbose error member
    exact ⟨_, whole.trans (by rw [rendered]; rfl)⟩
  · split
    · exact List.forall_mem_nil _
    · rw [List.forall_mem_cons, List.forall_mem_map]
      exact ⟨exists_render_hint, fun line _ => exists_render_indented line⟩

theorem exists_format_of_failed (failed : result.ok = false) (human : settings.jsonOutput = false)
    (codes : settings.verbose = true → ∀ error ∈ result.errors, HasNoTag error.code) :
    ∃ text, format result settings = .ok text := by
  have printed : ∀ line ∈ (failureEntries result settings).map Entry.markup,
      ∃ text, printLine line = .ok text := by
    rw [List.forall_mem_map]
    intro entry member
    obtain ⟨shown, rendered⟩ := exists_render_of_failed codes entry member
    rw [printLine, rendered]
    exact ⟨_, rfl⟩
  obtain ⟨texts, made⟩ := exists_mapM_eq_ok printed
  rw [format_of_failed failed human, printLines, made]
  exact ⟨_, rfl⟩

/-- The report of a failed check shows its lines as they are exactly if every text in it has what
this takes.  It can be made unless a code that is shown has a tag.  Tags are those of `Markup`, and
lines are broken as by `Text.wrapLine`. -/
theorem format_shows_texts_iff {result : CheckResult} {settings : ReportSettings}
    (failed : result.ok = false) (human : settings.jsonOutput = false)
    (printable : ∀ text ∈ texts result, AllPrintable text)
    (fits : ∀ line ∈ verbatimLines result settings, line.length ≤ consoleWidth) :
    (format result settings = .ok (joinLines (verbatimLines result settings)) ↔
      ShownAsIs result settings) ∧
    ((settings.verbose = true → ∀ error ∈ result.errors, HasNoTag error.code) →
      ∃ text, format result settings = .ok text) := by
  refine ⟨?_, exists_format_of_failed failed human⟩
  rw [format_of_failed failed human, ← verbatimLines_eq_map_verbatim,
    (printed_failureEntries printable fits).eq_iff, faithful_iff_shownAsIs]

/-- Brackets, tags and backslashes in the texts of a result are shown. -/
theorem format_shows_brackets_and_backslashes :
    let result : CheckResult :=
      { ok := false
        name := "[bold]panel\\"
        errors := [⟨"UNEXPECTED_KEY", "Unexpected key found: \\[/]", "rows[0].a\\b"⟩,
          ⟨"CUSTOM", "two \\\\", ""⟩]
        expected := ["[red] = <number>"] }
    format result { verbose := true } = .ok ("ERROR: [bold]panel\\\n" ++
      "  rows[0].a\\b: Unexpected key found: \\[/] (UNEXPECTED_KEY)\n  two \\\\ (CUSTOM)\n" ++
      "Expected:\n  [red] = <number>") := by
  intro result
  have shown : ShownAsIs result { verbose := true } :=
    ⟨by decide, by decide, by decide, fun _ => by decide, fun _ => by decide⟩
  exact (format_shows_texts_iff rfl rfl (by decide) (by decide)).1.mpr shown

/-- A backslash at the end of a message is printed twice. -/
theorem format_doubles_final_backslash :
    let result : CheckResult :=
      { ok := false
        name := "panel"
        errors := [⟨"UNEXPECTED_KEY", "Unexpected key found: a\\", ""⟩] }
    (∀ text ∈ texts result, AllPrintable text) ∧
      (∀ line ∈ verbatimLines result {}, line.length ≤ consoleWidth) ∧
      verbatimLines result {} = [ofString "ERROR: panel", "  Unexpected key found: a\\"] ∧
      format result {} = .ok "ERROR: panel\n  Unexpected key found: a\\\\" ∧
      format result {} ≠ .ok (joinLines (verbatimLines result {})) := by
  intro result
  have headline : render (headline false "panel") = .ok "ERROR: panel" :=
    (headlineEntry_known "panel").exact (show ShownInStyle "panel" by decide)
  have message : render (errorLine false ⟨"UNEXPECTED_KEY", "Unexpected key found: a\\", ""⟩) =
      .ok "  Unexpected key found: a\\\\" := by
    decide
  have rendered : Rendered ((failureEntries result {}).map Entry.markup)
      ["ERROR: panel", "  Unexpected key found: a\\\\"] :=
    .cons headline (.cons message .nil)
  have printed : format result {} = .ok "ERROR: panel\n  Unexpected key found: a\\\\" := by
    rw [format_of_failed rfl rfl, printLines_of_rendered rendered]
    decide
  refine ⟨by decide, by decide, by decide, printed, ?_⟩
  rw [printed]
  decide

end Report

end ClosedShape
