import ClosedShape.Fault
/-!
# Markup

Console markup puts style tags in brackets, such as `[bold]` and `[/]`.  A tag after an odd number
of backslashes is text.  Styles do not show here: rendering leaves only the text between the tags.
What a tag is, and how text is kept from being one, is as in the library `rich`, which this module
stands for together with the wrapping of lines.
-/

namespace ClosedShape.Markup

/-- Whether the rest of a tag's name closes before another bracket opens. -/
def closesTag : Text → Bool
  | [] => false
  | .char ']' :: _ => true
  | .char '[' :: _ => false
  | _ :: rest => closesTag rest

/-- Whether the characters after an opening bracket make it a tag. -/
def opensTag : Text → Bool
  | .char c :: rest => (c.isLower || c = '#' || c = '/' || c = '@') && closesTag rest
  | _ => false

def backslashes (count : Nat) : Text := List.replicate count (.char '\\')

/-- Escapes every tag: the backslashes before it are doubled, and one more makes it text.
`pending` backslashes have been read so far. -/
def escapeFrom (pending : Nat) : Text → Text
  | [] => backslashes pending
  | c :: rest =>
      if c = '\\' then escapeFrom (pending + 1) rest
      else if c = '[' ∧ opensTag rest then
        backslashes (2 * pending + 1) ++ c :: escapeFrom 0 rest
      else backslashes pending ++ c :: escapeFrom 0 rest

/-- Whether a text ends with exactly one backslash. -/
def endsWithOneBackslash (text : Text) : Bool :=
  match text.reverse with
  | .char '\\' :: .char '\\' :: _ => false
  | .char '\\' :: _ => true
  | _ => false

/-- Escapes a text for use inside markup.  A backslash at the very end is doubled, so that it does
not escape a tag that follows. -/
def escape (text : Text) : Text :=
  let escaped := escapeFrom 0 text
  if endsWithOneBackslash escaped then escaped ++ [.char '\\'] else escaped

private def isSpace : CodePoint → Bool
  | .char c => c.isWhitespace
  | .surrogate _ => false

private def toLower : CodePoint → CodePoint
  | .char c => c.toLower
  | surrogate => surrogate

/-- The part of a tag before its parameters, up to its closing bracket. -/
def tagName (tag : Text) : Text :=
  let name := (tag.takeWhile (· != .char ']')).takeWhile (· != .char '=')
  ((name.dropWhile isSpace).reverse.dropWhile isSpace).reverse.map toLower

/-- What a tag does to the styles that are open. -/
def applyTag (position : Nat) (tag : Text) (opened : List Text) : Except Fault (List Text) :=
  match tag with
  | .char '/' :: name =>
      let name := tagName name
      if name.isEmpty then
        match opened with
        | _ :: rest => .ok rest
        | [] => .error (.noTagToClose position)
      else if opened.contains name then .ok (opened.erase name)
      else .error (.tagNotOpen (tag.takeWhile (· != .char ']')) position)
  | _ => .ok (tagName tag :: opened)

mutual

/-- Renders the text of some markup.  `position` is that of the next character, `pending`
backslashes stand right before it, and `opened` are the open styles, the last one first. -/
def renderFrom (position pending : Nat) (opened : List Text) : Text → Except Fault Text
  | [] => .ok (backslashes pending)
  | c :: rest =>
      if c = '\\' then renderFrom (position + 1) (pending + 1) opened rest
      else if c = '[' ∧ opensTag rest then
        let shown := backslashes (pending / 2)
        if pending % 2 = 1 then do
          return shown ++ c :: (← renderFrom (position + 1) 0 opened rest)
        else do
          let opened ← applyTag position rest opened
          return shown ++ (← skipTag (position + 1) opened rest)
      else do
        let shown := backslashes (if c = '[' then pending - 1 else pending)
        return shown ++ c :: (← renderFrom (position + 1) 0 opened rest)

/-- Skips the rest of a tag. -/
def skipTag (position : Nat) (opened : List Text) : Text → Except Fault Text
  | [] => .ok []
  | c :: rest =>
      if c = ']' then renderFrom (position + 1) 0 opened rest
      else skipTag (position + 1) opened rest

end

/-- Renders markup as plain text. -/
def render (markup : Text) : Except Fault Text := renderFrom 0 0 [] markup

end ClosedShape.Markup
