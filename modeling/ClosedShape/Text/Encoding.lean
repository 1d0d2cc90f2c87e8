import ClosedShape.Fault
/-!
# Writing texts

Texts are written in UTF-8, which has no form for surrogates.  An output refuses a text with a
surrogate, and writes nothing of it; what is written beside it has escapes in their place.
-/

namespace ClosedShape.Text

/-- A surrogate as an escape. -/
def surrogateEscape (surrogate : CodePoint) : String := "\\u" ++ hexDigits 4 surrogate.code

def isCharacter : CodePoint → Bool
  | .char _ => true
  | .surrogate _ => false

/-- The fault of writing a text with surrogates.  It names the first ones that stand together. -/
def writingFault (text : Text) : Fault :=
  let position := (text.takeWhile isCharacter).length
  let refused := (text.drop position).takeWhile fun point => !isCharacter point
  .notEncodable position (refused.map surrogateEscape)

/-- Writes a whole text, or nothing. -/
def write (text : Text) : Except Fault String :=
  match text.string? with
  | some string => .ok string
  | none => .error (writingFault text)

@[simp]
theorem write_ofString (string : String) : (ofString string).write = .ok string := by
  rw [write, string?_ofString]

theorem write_of_surrogate {text : Text} {half : Fin 0x800} (member : .surrogate half ∈ text) :
    text.write = .error (writingFault text) := by
  rw [write]
  cases written : text.chars? with
  | none => rw [string?, written, Option.map_none]
  | some chars =>
      exact absurd member (exists_ofChars_iff.mp ⟨chars, ofChars_of_chars? written⟩ half)

/-- Writes a text with escapes for what cannot be written. -/
def writeEscaped (text : Text) : String :=
  String.join <| text.map fun
    | .char c => String.singleton c
    | surrogate => surrogateEscape surrogate

end ClosedShape.Text
