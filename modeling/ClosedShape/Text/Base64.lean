/-!
# Base 64

Reads bytes written with 64 characters, six bits each.  Other characters are skipped.
-/

namespace ClosedShape.Text

/-- The six bits that a character stands for. -/
def base64Digit? (c : Char) : Option Nat :=
  if 'A' ≤ c ∧ c ≤ 'Z' then some (c.toNat - 'A'.toNat)
  else if 'a' ≤ c ∧ c ≤ 'z' then some (c.toNat - 'a'.toNat + 26)
  else if c.isDigit then some (c.toNat - '0'.toNat + 52)
  else if c = '+' then some 62
  else if c = '/' then some 63
  else none

/-- Reads bytes.  `held` are the bits of the `count` characters of the current group of four that
make no byte yet, and `padding` counts the padding characters since then.  Padding that completes a
group ends the text; a text that ends inside a group is `none`. -/
def decodeBase64From (count held padding : Nat) : List Char → Option (List UInt8)
  | [] => if count = 0 then some [] else none
  | c :: rest =>
      if c = '=' then
        if 2 ≤ count then
          if 4 ≤ count + padding + 1 then some []
          else decodeBase64From count held (padding + 1) rest
        else decodeBase64From count held padding rest
      else
        match base64Digit? c with
        | none => decodeBase64From count held padding rest
        | some digit =>
            let emit := fun (byte : Nat) (count held : Nat) =>
              (decodeBase64From count held 0 rest).map (byte.toUInt8 :: ·)
            match count with
            | 0 => decodeBase64From 1 digit 0 rest
            | 1 => emit (4 * held + digit / 16) 2 (digit % 16)
            | 2 => emit (16 * held + digit / 4) 3 (digit % 4)
            | _ => emit (64 * held + digit) 0 0

def decodeBase64 (text : List Char) : Option (List UInt8) := decodeBase64From 0 0 0 text

end ClosedShape.Text
