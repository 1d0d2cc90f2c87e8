import ClosedShape.Text.Quoted
/-!
# UTF-8

Decodes bytes as UTF-8 and says exactly where and why that fails, and reads the three ways to end
a line as one.
-/

namespace ClosedShape.Text

/-- Why bytes are not UTF-8. -/
inductive Utf8Reason where
  | invalidStart
  | invalidContinuation
  | unexpectedEnd
deriving DecidableEq, Repr, Inhabited

def Utf8Reason.text : Utf8Reason → String
  | .invalidStart => "invalid start byte"
  | .invalidContinuation => "invalid continuation byte"
  | .unexpectedEnd => "unexpected end of data"

/-- A sequence of `length` bytes from `position` on that is no character; `first` is its first
byte. -/
structure Utf8Error where
  position : Nat
  length : Nat
  first : UInt8
  reason : Utf8Reason
deriving DecidableEq, Repr, Inhabited

def Utf8Error.message (error : Utf8Error) : String :=
  let place :=
    if error.length = 1 then
      "byte 0x" ++ hexDigits 2 error.first.toNat ++ s!" in position {error.position}"
    else s!"bytes in position {error.position}-{error.position + error.length - 1}"
  "'utf-8' codec can't decode " ++ place ++ ": " ++ error.reason.text

/-- How many bytes follow a first byte, and the range of the second. -/
def utf8Shape (first : UInt8) : Option (Nat × UInt8 × UInt8) :=
  if first < 0x80 then some (0, 0x80, 0xbf)
  else if first < 0xc2 then none
  else if first < 0xe0 then some (1, 0x80, 0xbf)
  else if first = 0xe0 then some (2, 0xa0, 0xbf)
  else if first = 0xed then some (2, 0x80, 0x9f)
  else if first < 0xf0 then some (2, 0x80, 0xbf)
  else if first = 0xf0 then some (3, 0x90, 0xbf)
  else if first < 0xf4 then some (3, 0x80, 0xbf)
  else if first = 0xf4 then some (3, 0x80, 0x8f)
  else none

/-- What is still missing of a character that has been read in part. -/
structure Utf8Pending where
  position : Nat
  first : UInt8
  /-- The bytes that have been read. -/
  taken : Nat
  /-- The bytes that are missing, one at least. -/
  missing : Nat
  low : UInt8
  high : UInt8
  code : Nat

private def leadBits (first : UInt8) : Nat :=
  if first < 0xe0 then first.toNat - 0xc0
  else if first < 0xf0 then first.toNat - 0xe0
  else first.toNat - 0xf0

/-- Decodes bytes from a position on. -/
def decodeUtf8From (position : Nat) (pending : Option Utf8Pending) :
    List UInt8 → Except Utf8Error (List Char)
  | [] =>
      match pending with
      | none => .ok []
      | some part => .error ⟨part.position, part.taken, part.first, .unexpectedEnd⟩
  | byte :: rest =>
      match pending with
      | none =>
          match utf8Shape byte with
          | none => .error ⟨position, 1, byte, .invalidStart⟩
          | some (0, _, _) => do
              return Char.ofNat byte.toNat :: (← decodeUtf8From (position + 1) none rest)
          | some (missing, low, high) =>
              decodeUtf8From (position + 1)
                (some ⟨position, byte, 1, missing, low, high, leadBits byte⟩) rest
      | some part =>
          if part.low ≤ byte ∧ byte ≤ part.high then
            let code := 64 * part.code + (byte.toNat - 0x80)
            if part.missing = 1 then do
              return Char.ofNat code :: (← decodeUtf8From (position + 1) none rest)
            else
              decodeUtf8From (position + 1)
                (some { part with
                  taken := part.taken + 1
                  missing := part.missing - 1
                  low := 0x80
                  high := 0xbf
                  code }) rest
          else .error ⟨part.position, part.taken, part.first, .invalidContinuation⟩

/-- Decodes bytes as UTF-8. -/
def decodeUtf8 (bytes : List UInt8) : Except Utf8Error (List Char) := decodeUtf8From 0 none bytes

/-- Ends every line with a line feed: a carriage return becomes one, and with a line feed after it
they are one together. -/
def unifyNewlines : List Char → List Char
  | '\r' :: '\n' :: rest => '\n' :: unifyNewlines rest
  | '\r' :: rest => '\n' :: unifyNewlines rest
  | c :: rest => c :: unifyNewlines rest
  | [] => []

end ClosedShape.Text
