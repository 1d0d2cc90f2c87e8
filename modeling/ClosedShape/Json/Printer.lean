import ClosedShape.Text.Quoted
import ClosedShape.Value.Text
/-!
# Printing JSON

Writes values as JSON.  What JSON has no form for is written as its plain text.
-/

namespace ClosedShape.Json

/-- How JSON is laid out. -/
structure Layout where
  itemSeparator : String
  keySeparator : String
  /-- The indentation of each level, where every item gets a line of its own. -/
  indent : Option Nat
  /-- Whether characters beyond ASCII are escaped. -/
  ascii : Bool
  doubles : Double.Layout
deriving DecidableEq, Repr, Inhabited

namespace Layout

/-- All on one line, with blanks after separators. -/
def spaced : Layout := ⟨", ", ": ", none, true, .standard⟩

/-- All on one line, without blanks. -/
def compact : Layout := ⟨",", ":", none, true, .standard⟩

/-- One item a line, two columns a level. -/
def indented : Layout := ⟨",", ": ", some 2, true, .standard⟩

/-- Compact, with characters beyond ASCII as they are. -/
def record : Layout := ⟨",", ":", none, false, .terse⟩

/-- Puts the parts of a container between its brackets.  An empty container has nothing between
them. -/
def wrap (layout : Layout) (depth : Nat) (left right : String) (parts : List String) : String :=
  if parts.isEmpty then left ++ right
  else
    match layout.indent with
    | none => left ++ layout.itemSeparator.intercalate parts ++ right
    | some width =>
        let line := fun level => "\n" ++ String.ofList (List.replicate (width * level) ' ')
        left ++ line (depth + 1) ++
          (layout.itemSeparator ++ line (depth + 1)).intercalate parts ++ line depth ++ right

end Layout

/-- A character as one or two escaped units of sixteen bits. -/
def escapeUnits (code : Nat) : String :=
  if code < 0x10000 then "\\u" ++ Text.hexDigits 4 code
  else
    let offset := code - 0x10000
    "\\u" ++ Text.hexDigits 4 (0xd800 + offset / 0x400) ++
      "\\u" ++ Text.hexDigits 4 (0xdc00 + offset % 0x400)

/-- One character of a JSON string. -/
def escapeChar (ascii : Bool) (c : Char) : String :=
  if c = '"' then "\\\""
  else if c = '\\' then "\\\\"
  else if c = '\n' then "\\n"
  else if c = '\r' then "\\r"
  else if c = '\t' then "\\t"
  else if c.toNat = 0x0c then "\\f"
  else if c.toNat = 0x08 then "\\b"
  else if c.toNat < 0x20 ∨ (ascii = true ∧ 0x7f ≤ c.toNat) then escapeUnits c.toNat
  else String.singleton c

/-- One code point of a JSON string. -/
def escapePoint (ascii : Bool) : CodePoint → String
  | .char c => escapeChar ascii c
  | surrogate => escapeUnits surrogate.code

/-- Writes a JSON string. -/
def quote (ascii : Bool) (text : Text) : String :=
  "\"" ++ String.join (text.map (escapePoint ascii)) ++ "\""

/-- A double in JSON; the three that JSON lacks have names. -/
def doubleText (layout : Double.Layout) : Double → String
  | .nan => "NaN"
  | .infinite negative => if negative then "-Infinity" else "Infinity"
  | number => number.write layout

/-- The text of a key.  Keys that are not texts become texts where JSON has a form for them. -/
def keyText : Value → Except Fault Text
  | .text content => .ok content
  | .null => .ok "null"
  | .bool truth => .ok (Text.ofString (if truth then "true" else "false"))
  | .int number => (Value.integerText number).map Text.ofString
  | .float number => .ok (doubleText .standard number)
  | key => .error (.notJsonKey key.typeName)

mutual

/-- Writes a value that starts at some depth. -/
def writeAt (layout : Layout) (depth : Nat) : Value → Except Fault String
  | .null => .ok "null"
  | .bool truth => .ok (if truth then "true" else "false")
  | .int number => Value.integerText number
  | .float number => .ok (doubleText layout.doubles number)
  | .text content => .ok (quote layout.ascii content)
  | .list items => do
      return layout.wrap depth "[" "]" (← writeItems layout (depth + 1) items)
  | .tuple items => do
      return layout.wrap depth "[" "]" (← writeItems layout (depth + 1) items)
  | .mapping .plain entries => do
      return layout.wrap depth "\x7b" "\x7d" (← writeEntries layout (depth + 1) entries)
  | value => return quote layout.ascii (← value.display)

def writeItems (layout : Layout) (depth : Nat) : List Value → Except Fault (List String)
  | [] => .ok []
  | item :: items => do
      let shown ← writeAt layout depth item
      let rest ← writeItems layout depth items
      return shown :: rest

def writeEntries (layout : Layout) (depth : Nat) :
    List (Value × Value) → Except Fault (List String)
  | [] => .ok []
  | (key, value) :: entries => do
      let shownKey ← keyText key
      let shown ← writeAt layout depth value
      let rest ← writeEntries layout depth entries
      return (quote layout.ascii shownKey ++ layout.keySeparator ++ shown) :: rest

end

def write (layout : Layout) (value : Value) : Except Fault String := writeAt layout 0 value

end ClosedShape.Json
