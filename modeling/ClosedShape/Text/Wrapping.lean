import ClosedShape.Text
/-!
# Wrapping lines

Breaks lines that are too long for a console.  Every code point is taken to fill one cell of the
console, as all printable ASCII does; wide letters, which fill two, and marks that fill none are not
told apart.
-/

namespace ClosedShape.Text

/-- The characters that separate words in a line. -/
def isBlank (c : CodePoint) : Bool :=
  c = ' ' || (0x1c ≤ c.code && c.code ≤ 0x1f) || c = '\t'

/-- The control characters that a console does not print: bell, backspace, vertical tab, form feed
and carriage return. -/
def isSilent (c : CodePoint) : Bool :=
  c.code = 7 || c.code = 8 || c.code = 11 || c.code = 12 || c.code = 13

/-- Replaces tabs by blanks up to the next multiple of `width` columns. -/
def expandTabs (width column : Nat) : Text → Text
  | [] => []
  | c :: rest =>
      if c = '\t' then
        let count := width - column % width
        List.replicate count (.char ' ') ++ expandTabs width (column + count) rest
      else c :: expandTabs width (column + 1) rest

/-- Runs of characters, each ending where a word starts after a blank. -/
def blankRuns : Text → List Text
  | [] => []
  | c :: rest =>
      match blankRuns rest with
      | [] => [[c]]
      | [] :: runs => [c] :: runs
      | (next :: run) :: runs =>
          if isBlank c && !isBlank next then [c] :: (next :: run) :: runs
          else (c :: next :: run) :: runs

/-- The words of a line with the blanks after them; blanks at the start belong to the first word.
A line of blanks has no words. -/
def words (line : Text) : List Text :=
  match blankRuns line with
  | first :: second :: runs =>
      if first.all isBlank then (first ++ second) :: runs else first :: second :: runs
  | [only] => if only.all isBlank then [] else [only]
  | [] => []

private def trimEnd (text : Text) : Text := (text.reverse.dropWhile isBlank).reverse

/-- Where a line is broken so far. -/
structure Breaks where
  /-- The position of the next word. -/
  start : Nat := 0
  /-- The columns that are taken on the current line. -/
  offset : Nat := 0
  /-- The positions of the breaks, the last one first. -/
  positions : List Nat := []

namespace Breaks

private def breakHere (breaks : Breaks) : Breaks :=
  if breaks.start = 0 then breaks
  else { breaks with positions := breaks.start :: breaks.positions }

/-- Cuts a word that fits on no line into lines of its own. -/
def fold (width remaining : Nat) (breaks : Breaks) : Nat → Breaks
  | 0 => breaks
  | pieces + 1 =>
      let breaks := breakHere breaks
      if remaining ≤ width then
        { breaks with start := breaks.start + remaining, offset := remaining }
      else fold width (remaining - width) { breaks with start := breaks.start + width } pieces

/-- Places the next word: on the current line, or on the next, or over several lines. -/
def place (width : Nat) (breaks : Breaks) (word : Text) : Breaks :=
  let visible := (trimEnd word).length
  if breaks.offset + visible ≤ width then
    { breaks with start := breaks.start + word.length, offset := breaks.offset + word.length }
  else if width < visible then fold width word.length breaks word.length
  else if breaks.offset != 0 && breaks.start != 0 then
    { start := breaks.start + word.length
      offset := word.length
      positions := breaks.start :: breaks.positions }
  else { breaks with start := breaks.start + word.length }

end Breaks

/-- Splits a text at rising positions. -/
def splitAt (position : Nat) : List Nat → Text → List Text
  | [], text => [text]
  | next :: rest, text =>
      text.take (next - position) :: splitAt next rest (text.drop (next - position))

/-- Cuts a line to a width: blanks at its end go first. -/
def cropLine (width : Nat) (line : Text) : Text :=
  let trimmed := trimEnd line
  line.take (max trimmed.length width) |>.take width

/-- Breaks a line into lines of at most `width` characters, between words where possible. -/
def wrapLine (width : Nat) (line : Text) : List Text :=
  let breaks := (words line).foldl (Breaks.place width) {}
  (splitAt 0 breaks.positions.reverse line).map (cropLine width)

/-- Splits a text at line feeds. -/
def splitLines : Text → List Text
  | [] => [[]]
  | c :: rest =>
      match splitLines rest with
      | [] => [[c]]
      | line :: lines => if c = '\n' then [] :: line :: lines else (c :: line) :: lines

/-- What a console of some width prints for a text: every line wrapped and ended. -/
def consoleLines (width : Nat) (text : Text) : Text :=
  let lines := splitLines (text.filter fun c => !isSilent c)
  let wrapped := lines.flatMap fun line => wrapLine width (expandTabs 8 0 line)
  wrapped.flatMap fun line => line ++ "\n"

end ClosedShape.Text
