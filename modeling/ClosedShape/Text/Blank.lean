/-!
# Blanks

The characters that only leave room, as Unicode gives them.
-/

namespace ClosedShape.Text

/-- Characters that only leave room, with the separators of lines, paragraphs and records. -/
def isUnicodeBlank (c : Char) : Bool :=
  let code := c.toNat
  (0x09 ≤ code && code ≤ 0x0d) || (0x1c ≤ code && code ≤ 0x20) || code = 0x85 || code = 0xa0 ||
    code = 0x1680 || (0x2000 ≤ code && code ≤ 0x200a) || code = 0x2028 || code = 0x2029 ||
    code = 0x202f || code = 0x205f || code = 0x3000

/-- The blank characters among those of a typewriter. -/
def isPlainBlank (c : Char) : Bool := c = ' ' || (0x09 ≤ c.toNat && c.toNat ≤ 0x0d)

end ClosedShape.Text
