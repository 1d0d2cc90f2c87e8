import ClosedShape.Text
import ClosedShape.Text.Printable
/-!
# Quoted text

A text between quotes on one line, with everything that would not show written as an escape.
-/

namespace ClosedShape.Text

/-- The last `width` hexadecimal digits of a number, in lower case. -/
def hexDigits (width value : Nat) : String :=
  String.ofList <|
    (List.range width).reverse.map fun place => Nat.digitChar (value / Nat.pow 16 place % 16)

/-- Single quotes, unless the text has a single quote and no double quote. -/
def quoteFor (text : Text) : Char :=
  if text.contains (.char '\x27') && !text.contains (.char '"') then '"' else '\x27'

/-- One character inside a quoted text.  An escape is as short as its code allows. -/
def escapeChar (quote c : Char) : String :=
  if c = quote ∨ c = '\\' then String.ofList ['\\', c]
  else if c = '\n' then "\\n"
  else if c = '\r' then "\\r"
  else if c = '\t' then "\\t"
  else if isPrintable c then String.singleton c
  else if c.toNat < 0x100 then "\\x" ++ hexDigits 2 c.toNat
  else if c.toNat < 0x10000 then "\\u" ++ hexDigits 4 c.toNat
  else "\\U" ++ hexDigits 8 c.toNat

/-- One code point inside a quoted text. -/
def escapePoint (quote : Char) : CodePoint → String
  | .char c => escapeChar quote c
  | surrogate => "\\u" ++ hexDigits 4 surrogate.code

/-- Writes a text between quotes. -/
def quoted (text : Text) : String :=
  let quote := quoteFor text
  String.singleton quote ++ String.join (text.map (escapePoint quote)) ++ String.singleton quote

/-- Writes bytes between quotes after a `b`, as if each ASCII byte were its character. -/
def quotedBytes (bytes : List UInt8) : String :=
  let chars := bytes.map fun byte => Char.ofNat byte.toNat
  let quote := quoteFor (ofChars chars)
  let escape := fun c : Char =>
    if c.toNat < 0x80 then escapeChar quote c else "\\x" ++ hexDigits 2 c.toNat
  "b" ++ String.singleton quote ++ String.join (chars.map escape) ++ String.singleton quote

end ClosedShape.Text
