/-!
# Texts

A text is a row of code points.  Most of them are characters, but escapes and foreign code can also
put a surrogate into a text: one of the two halves that encode a character beyond the first 65536 in
units of sixteen bits.  By itself a surrogate is no character, and two of them in a row are still
two code points.
-/

namespace ClosedShape

/-- A code point: a character, or a surrogate by its place among the 2048 that there are. -/
inductive CodePoint where
  | char (c : Char)
  | surrogate (half : Fin 0x800)
deriving DecidableEq, Repr, Inhabited

instance : Coe Char CodePoint := ⟨.char⟩

namespace CodePoint

/-- The code of the first surrogate. -/
def firstSurrogate : Nat := 0xd800

def code : CodePoint → Nat
  | .char c => c.toNat
  | .surrogate half => firstSurrogate + half

/-- The code point with a code, which must be in range. -/
def ofCode (code : Nat) : CodePoint :=
  if surrogate : code - firstSurrogate < 0x800 ∧ firstSurrogate ≤ code then
    .surrogate ⟨code - firstSurrogate, surrogate.1⟩
  else .char (Char.ofNat code)

/-- Whether a code point is the first half of a character. -/
def isHigh : CodePoint → Bool
  | .char _ => false
  | .surrogate half => half.val < 0x400

/-- Whether a code point is the second half of a character. -/
def isLow : CodePoint → Bool
  | .char _ => false
  | .surrogate half => 0x400 ≤ half.val

end CodePoint

abbrev Text := List CodePoint

namespace Text

def ofChars (chars : List Char) : Text := chars.map .char

def ofString (string : String) : Text := ofChars string.toList

/-- The characters of a text without surrogates. -/
def chars? : Text → Option (List Char)
  | [] => some []
  | .char c :: rest => (chars? rest).map (c :: ·)
  | .surrogate _ :: _ => none

def string? (text : Text) : Option String := text.chars?.map String.ofList

@[simp]
theorem ofChars_nil : ofChars [] = [] :=
  rfl

@[simp]
theorem ofChars_cons (c : Char) (rest : List Char) :
    ofChars (c :: rest) = .char c :: ofChars rest :=
  rfl

@[simp]
theorem chars?_ofChars (chars : List Char) : (ofChars chars).chars? = some chars := by
  induction chars with
  | nil => rfl
  | cons c rest ih => simp [chars?, ih]

theorem ofChars_of_chars? {text : Text} {chars : List Char} (found : text.chars? = some chars) :
    ofChars chars = text := by
  induction text generalizing chars with
  | nil =>
      cases found
      rfl
  | cons point rest ih =>
      cases point with
      | surrogate half => cases found
      | char c =>
          obtain ⟨others, foundOthers, rfl⟩ := Option.map_eq_some_iff.mp found
          rw [ofChars_cons, ih foundOthers]

@[simp]
theorem ofChars_inj {first second : List Char} : ofChars first = ofChars second ↔ first = second :=
  List.map_inj_right fun _ _ same => CodePoint.char.inj same

@[simp]
theorem ofString_inj {first second : String} : ofString first = ofString second ↔ first = second :=
  by simp [ofString, String.toList_inj]

@[simp]
theorem ofString_eq_nil {string : String} : ofString string = [] ↔ string = "" :=
  @ofString_inj string ""

@[simp]
theorem ofChars_append (first second : List Char) :
    ofChars (first ++ second) = ofChars first ++ ofChars second :=
  List.map_append

@[simp]
theorem char_mem_ofString {c : Char} {string : String} :
    .char c ∈ ofString string ↔ c ∈ string.toList := by
  simp [ofString, ofChars]

@[simp]
theorem string?_ofString (string : String) : (ofString string).string? = some string := by
  simp [string?, ofString]

theorem ofString_append (first second : String) :
    ofString (first ++ second) = ofString first ++ ofString second := by
  simp [ofString]

/-- Every text without surrogates has characters, and they are its own. -/
theorem exists_ofChars_iff {text : Text} :
    (∃ chars, ofChars chars = text) ↔ ∀ half, .surrogate half ∉ text := by
  constructor
  · rintro ⟨chars, rfl⟩ half member
    obtain ⟨c, _, equal⟩ := List.mem_map.mp member
    cases equal
  · intro plain
    induction text with
    | nil => exact ⟨[], rfl⟩
    | cons point rest ih =>
        cases point with
        | surrogate half => exact absurd List.mem_cons_self (plain half)
        | char c =>
            obtain ⟨chars, rfl⟩ := ih fun half => List.not_mem_of_not_mem_cons (plain half)
            exact ⟨c :: chars, rfl⟩

end Text

instance : Coe String Text := ⟨Text.ofString⟩

end ClosedShape
