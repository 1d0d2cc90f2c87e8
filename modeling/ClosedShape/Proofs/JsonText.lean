import ClosedShape.Json.Printer
import ClosedShape.Json.Reader
import Mathlib.Data.List.Basic

/-!
# JSON strings and integers read back

Every code point of a string is written as itself or by an escape, and every escape is in ASCII.
What is written for a string or an integer is read back, and reading stops where writing did.  Only
two halves of a character that stand together are read as the character.
-/

namespace ClosedShape

section Halves

/-- Whether two code points are the halves of one character. -/
def CodePoint.pairs (first second : CodePoint) : Bool := first.isHigh && second.isLow

/-- The character that two halves encode. -/
def CodePoint.join (first second : CodePoint) : CodePoint :=
  .ofCode (0x10000 + (first.code - 0xd800) * 0x400 + (second.code - 0xdc00))

/-- A text with a character in the place of every two halves that stand together. -/
def Text.joinHalves : Text → Text
  | [] => []
  | [point] => [point]
  | first :: second :: rest =>
      if first.pairs second then first.join second :: joinHalves rest
      else first :: joinHalves (second :: rest)

/-- The two halves of a character never stand together. -/
def Text.HalvesApart (text : Text) : Prop :=
  text.IsChain fun first second => first.pairs second = false

theorem Text.length_joinHalves_le (text : Text) : text.joinHalves.length ≤ text.length := by
  fun_induction Text.joinHalves text with
  | case1 => exact Nat.le_refl _
  | case2 => exact Nat.le_refl _
  | case3 first second rest _ ih => exact Nat.succ_le_succ (Nat.le_succ_of_le ih)
  | case4 first second rest _ ih => exact Nat.succ_le_succ ih

/-- Joining leaves exactly the texts as they are that have nothing to join. -/
theorem Text.joinHalves_eq_iff {text : Text} : text.joinHalves = text ↔ text.HalvesApart := by
  unfold HalvesApart
  fun_induction Text.joinHalves text with
  | case1 => simp
  | case2 point => simp
  | case3 first second rest pair _ =>
      have shorter := length_joinHalves_le rest
      rw [List.isChain_cons_cons, pair]
      refine ⟨fun same => ?_, fun apart => absurd apart.1 (by simp)⟩
      have length := congrArg List.length same
      simp only [List.length_cons] at length
      omega
  | case4 first second rest apart ih =>
      rw [List.isChain_cons_cons, List.cons_inj_right, ih]
      simp [apart]

end Halves

namespace Json

section Strings

variable {start fuel : Nat} {c : Char} {point : CodePoint} {mark tail : List Char}

theorem hexDigit?_digitChar {digit : Nat} (small : digit < 16) :
    hexDigit? digit.digitChar = some digit := by
  have each : ∀ digit < 16, hexDigit? (Nat.digitChar digit) = some digit := by decide
  exact each digit small

theorem toList_hexDigits (code : Nat) :
    (Text.hexDigits 4 code).toList = [(code / 4096 % 16).digitChar, (code / 256 % 16).digitChar,
      (code / 16 % 16).digitChar, (code % 16).digitChar] := by
  rw [Text.hexDigits, String.toList_ofList]
  simp [List.range_succ]

theorem hexUnit?_hexDigits {code : Nat} (small : code < 0x10000) (more : tail ≠ []) :
    hexUnit? ((Text.hexDigits 4 code).toList ++ tail) = some (code, tail) := by
  obtain ⟨next, rest, rfl⟩ := List.exists_cons_of_ne_nil more
  have digit (number : Nat) : hexDigit? (number % 16).digitChar = some (number % 16) :=
    hexDigit?_digitChar (Nat.mod_lt _ (by decide))
  have sum : ((16 * (code / 4096 % 16) + code / 256 % 16) * 16 + code / 16 % 16) * 16 + code % 16 =
      code := by omega
  rw [toList_hexDigits]
  simp only [List.cons_append, List.nil_append, hexUnit?, digit, Option.bind_some, bind, sum]

/-- No character has a code that is set aside for units. -/
theorem toNat_cases (c : Char) :
    c.toNat < 0xd800 ∨ 0xdfff < c.toNat ∧ c.toNat < 0x110000 := c.valid

theorem ofCode_toNat (c : Char) : CodePoint.ofCode c.toNat = .char c := by
  have valid := toNat_cases c
  rw [CodePoint.ofCode, dif_neg, Char.ofNat_toNat]
  rw [CodePoint.firstSurrogate]
  omega

theorem ofCode_code (point : CodePoint) : CodePoint.ofCode point.code = point := by
  cases point with
  | char c => exact ofCode_toNat c
  | surrogate half => simp [CodePoint.ofCode, CodePoint.code]

theorem isHighUnit_code (point : CodePoint) : isHighUnit point.code = point.isHigh := by
  rw [Bool.eq_iff_iff, isHighUnit, Bool.and_eq_true, decide_eq_true_iff, decide_eq_true_iff]
  cases point with
  | char c =>
      have valid := toNat_cases c
      simp only [CodePoint.code, CodePoint.isHigh, Bool.false_eq_true, iff_false]
      omega
  | surrogate half =>
      simp only [CodePoint.code, CodePoint.firstSurrogate, CodePoint.isHigh, decide_eq_true_iff]
      omega

theorem isLowUnit_code (point : CodePoint) : isLowUnit point.code = point.isLow := by
  rw [Bool.eq_iff_iff, isLowUnit, Bool.and_eq_true, decide_eq_true_iff, decide_eq_true_iff]
  cases point with
  | char c =>
      have valid := toNat_cases c
      simp only [CodePoint.code, CodePoint.isLow, Bool.false_eq_true, iff_false]
      omega
  | surrogate half =>
      have bound := half.isLt
      simp only [CodePoint.code, CodePoint.firstSurrogate, CodePoint.isLow, decide_eq_true_iff]
      omega

theorem lt_of_isHighUnit {unit : Nat} (high : isHighUnit unit = true) : unit < 0x10000 := by
  rw [isHighUnit, Bool.and_eq_true, decide_eq_true_iff, decide_eq_true_iff] at high
  omega

theorem lt_of_isLowUnit {unit : Nat} (low : isLowUnit unit = true) : unit < 0x10000 := by
  rw [isLowUnit, Bool.and_eq_true, decide_eq_true_iff, decide_eq_true_iff] at low
  omega

theorem length_hexDigits_append {code : Nat} (more : tail ≠ []) :
    ¬ ((Text.hexDigits 4 code).toList ++ tail).length < 5 := by
  have nonempty := List.length_pos_iff.mpr more
  rw [toList_hexDigits, List.length_append]
  simp only [List.length_cons, List.length_nil]
  omega

/-- If an escaped unit comes next, it is not the second half of a character. -/
def NoLowUnit (tail : List Char) : Prop :=
  ∀ rest, tail = '\\' :: 'u' :: rest → ∃ unit others,
    rest = (Text.hexDigits 4 unit).toList ++ others ∧ others ≠ [] ∧ unit < 0x10000 ∧
      isLowUnit unit = false

/-- A single unit is the code point that it encodes, also where this is half of a character. -/
theorem unicodeEscape_code (basic : point.code < 0x10000) (more : tail ≠ [])
    (apart : point.isHigh = true → NoLowUnit tail) :
    unicodeEscape mark ((Text.hexDigits 4 point.code).toList ++ tail) = .ok (point, tail) := by
  rw [unicodeEscape, hexUnit?_hexDigits basic more]
  simp only [isHighUnit_code]
  split
  next rest high =>
    obtain ⟨unit, others, rfl, nonempty, small, noLow⟩ := apart high rest rfl
    simp only [if_neg (length_hexDigits_append nonempty), hexUnit?_hexDigits small nonempty, noLow,
      Bool.false_eq_true, if_false, ofCode_code]
  next => rw [ofCode_code]

theorem unicodeEscape_units {first second : Nat} (high : isHighUnit first = true)
    (low : isLowUnit second = true) (more : tail ≠ []) :
    unicodeEscape mark ((Text.hexDigits 4 first).toList ++
      '\\' :: 'u' :: ((Text.hexDigits 4 second).toList ++ tail)) =
        .ok (.ofCode (0x10000 + (first - 0xd800) * 0x400 + (second - 0xdc00)), tail) := by
  rw [unicodeEscape, hexUnit?_hexDigits (lt_of_isHighUnit high) (by simp)]
  simp only [high, if_neg (length_hexDigits_append more),
    hexUnit?_hexDigits (lt_of_isLowUnit low) more, low, if_true]

theorem isHighUnit_first {offset : Nat} (small : offset < 0x100000) :
    isHighUnit (0xd800 + offset / 0x400) = true := by
  rw [isHighUnit, Bool.and_eq_true, decide_eq_true_iff, decide_eq_true_iff]
  omega

theorem isLowUnit_second (offset : Nat) : isLowUnit (0xdc00 + offset % 0x400) = true := by
  rw [isLowUnit, Bool.and_eq_true, decide_eq_true_iff, decide_eq_true_iff]
  omega

theorem code_lt (point : CodePoint) : point.code < 0x110000 := by
  cases point with
  | char c =>
      have valid := toNat_cases c
      simp only [CodePoint.code]
      omega
  | surrogate half =>
      have bound := half.isLt
      simp only [CodePoint.code, CodePoint.firstSurrogate]
      omega

/-- Characters beyond the first 65536 are written as two units. -/
theorem unicodeEscape_pair (wide : 0x10000 ≤ point.code) (more : tail ≠ []) :
    unicodeEscape mark ((Text.hexDigits 4 (0xd800 + (point.code - 0x10000) / 0x400)).toList ++
      '\\' :: 'u' ::
        ((Text.hexDigits 4 (0xdc00 + (point.code - 0x10000) % 0x400)).toList ++ tail)) =
      .ok (point, tail) := by
  have bound := code_lt point
  have sum : 0x10000 + (0xd800 + (point.code - 0x10000) / 0x400 - 0xd800) * 0x400 +
      (0xdc00 + (point.code - 0x10000) % 0x400 - 0xdc00) = point.code := by omega
  rw [unicodeEscape_units (isHighUnit_first (by omega)) (isLowUnit_second _) more, sum, ofCode_code]

/-- What a reader of a string makes of a text that starts with a code point. -/
def consPoint (point : CodePoint) (reading : Except ReadError (Text × List Char)) :
    Except ReadError (Text × List Char) :=
  reading.map fun read => (point :: read.1, read.2)

theorem toList_escapeUnits (code : Nat) :
    (escapeUnits code).toList = '\\' :: 'u' :: if code < 0x10000 then (Text.hexDigits 4 code).toList
      else (Text.hexDigits 4 (0xd800 + (code - 0x10000) / 0x400)).toList ++
        '\\' :: 'u' :: (Text.hexDigits 4 (0xdc00 + (code - 0x10000) % 0x400)).toList := by
  rw [escapeUnits]
  split
  · rw [String.toList_append]
    rfl
  · simp only [String.toList_append, List.append_assoc]
    rfl

theorem readString_units {rest : List Char}
    (read : ∀ mark, unicodeEscape mark tail = .ok (point, rest)) :
    readString start (fuel + 1) ('\\' :: 'u' :: tail) =
      consPoint point (readString start fuel rest) := by
  rw [readString, read]
  simp only [bind, Except.bind]
  cases readString start fuel rest <;> rfl

theorem readString_escapeUnits (more : tail ≠ []) (apart : point.isHigh = true → NoLowUnit tail) :
    readString start (fuel + 1) ((escapeUnits point.code).toList ++ tail) =
      consPoint point (readString start fuel tail) := by
  rw [toList_escapeUnits]
  by_cases basic : point.code < 0x10000
  · rw [if_pos basic, List.cons_append, List.cons_append]
    exact readString_units fun _ => unicodeEscape_code basic more apart
  · rw [if_neg basic, List.cons_append, List.cons_append, List.append_assoc, List.cons_append,
      List.cons_append]
    exact readString_units fun _ => unicodeEscape_pair (Nat.not_lt.mp basic) more

theorem readString_shortEscape {letter : Char} (noUnits : letter ≠ 'u')
    (escape : shortEscape? letter = some c) :
    readString start (fuel + 1) ('\\' :: letter :: tail) =
      consPoint c (readString start fuel tail) := by
  rw [readString]
  · simp only [escape]
    cases readString start fuel tail <;> rfl
  · exact noUnits

theorem readString_plain (noQuote : c ≠ '"') (noEscape : c ≠ '\\') (shown : 0x20 ≤ c.toNat) :
    readString start (fuel + 1) (c :: tail) = consPoint c (readString start fuel tail) := by
  have noControl : ¬ c.toNat < 0x20 := Nat.not_lt.mpr shown
  rw [readString]
  · simp only [if_neg noControl]
    cases readString start fuel tail <;> rfl
  all_goals simp [noQuote, noEscape]

/-- A character is written as a backslash with a letter, as units or as it is. -/
theorem escapeChar_cases (ascii : Bool) (c : Char) :
    (∃ letter, 0x20 ≤ letter.toNat ∧ letter.toNat < 0x7f ∧ letter ≠ 'u' ∧
        shortEscape? letter = some c ∧ (escapeChar ascii c).toList = ['\\', letter]) ∨
      escapeChar ascii c = escapeUnits c.toNat ∨
      c ≠ '"' ∧ c ≠ '\\' ∧ 0x20 ≤ c.toNat ∧ (ascii = true → c.toNat < 0x7f) ∧
        (escapeChar ascii c).toList = [c] := by
  have isChar {code : Nat} (same : c.toNat = code) : c = Char.ofNat code := by
    rw [← same, Char.ofNat_toNat]
  by_cases quote : c = '"'
  · subst quote
    exact .inl ⟨'"', by cases ascii <;> decide⟩
  by_cases backslash : c = '\\'
  · subst backslash
    exact .inl ⟨'\\', by cases ascii <;> decide⟩
  by_cases newline : c = '\n'
  · subst newline
    exact .inl ⟨'n', by cases ascii <;> decide⟩
  by_cases carriage : c = '\r'
  · subst carriage
    exact .inl ⟨'r', by cases ascii <;> decide⟩
  by_cases tab : c = '\t'
  · subst tab
    exact .inl ⟨'t', by cases ascii <;> decide⟩
  by_cases feed : c.toNat = 0x0c
  · rw [isChar feed]
    exact .inl ⟨'f', by cases ascii <;> decide⟩
  by_cases backspace : c.toNat = 0x08
  · rw [isChar backspace]
    exact .inl ⟨'b', by cases ascii <;> decide⟩
  rw [escapeChar, if_neg quote, if_neg backslash, if_neg newline, if_neg carriage, if_neg tab,
    if_neg feed, if_neg backspace]
  by_cases hidden : c.toNat < 0x20 ∨ ascii = true ∧ 0x7f ≤ c.toNat
  · rw [if_pos hidden]
    exact .inr (.inl rfl)
  · rw [if_neg hidden]
    refine .inr (.inr ⟨quote, backslash, ?_, fun isAscii => ?_, String.toList_singleton c⟩)
    · exact Nat.not_lt.mp fun control => hidden (.inl control)
    · exact Nat.not_le.mp fun beyond => hidden (.inr ⟨isAscii, beyond⟩)

/-- A code point is written as a backslash with a letter, as units or as it is. -/
theorem escapePoint_cases (ascii : Bool) (point : CodePoint) :
    (∃ c letter, point = .char c ∧ 0x20 ≤ letter.toNat ∧ letter.toNat < 0x7f ∧ letter ≠ 'u' ∧
        shortEscape? letter = some c ∧ (escapePoint ascii point).toList = ['\\', letter]) ∨
      escapePoint ascii point = escapeUnits point.code ∨
      ∃ c, point = .char c ∧ c ≠ '"' ∧ c ≠ '\\' ∧ 0x20 ≤ c.toNat ∧ (ascii = true → c.toNat < 0x7f) ∧
        (escapePoint ascii point).toList = [c] := by
  cases point with
  | char c =>
      rcases escapeChar_cases ascii c with ⟨letter, escape⟩ | units | plain
      · exact .inl ⟨c, letter, rfl, escape⟩
      · exact .inr (.inl units)
      · exact .inr (.inr ⟨c, rfl, plain⟩)
  | surrogate half => exact .inr (.inl rfl)

theorem readString_escapePoint {ascii : Bool} (more : tail ≠ [])
    (apart : point.isHigh = true → NoLowUnit tail) :
    readString start (fuel + 1) ((escapePoint ascii point).toList ++ tail) =
      consPoint point (readString start fuel tail) := by
  rcases escapePoint_cases ascii point with ⟨c, letter, rfl, _, _, noUnits, escape, written⟩ |
    units | ⟨c, rfl, noQuote, noBackslash, shown, _, written⟩
  · rw [written]
    exact readString_shortEscape noUnits escape
  · rw [units]
    exact readString_escapeUnits more apart
  · rw [written]
    exact readString_plain noQuote noBackslash shown

theorem length_escapePoint_pos (ascii : Bool) (point : CodePoint) :
    0 < (escapePoint ascii point).toList.length := by
  rcases escapePoint_cases ascii point with ⟨_, _, _, _, _, _, _, written⟩ | units |
    ⟨_, _, _, _, _, _, written⟩
  · simp [written]
  · rw [units, toList_escapeUnits]
    exact Nat.succ_pos _
  · simp [written]

theorem noLowUnit_quote (rest : List Char) : NoLowUnit ('"' :: rest) := nofun

theorem noLowUnit_escapePoint {ascii : Bool} (noLow : point.isLow = false) (more : tail ≠ []) :
    NoLowUnit ((escapePoint ascii point).toList ++ tail) := by
  intro rest starts
  rcases escapePoint_cases ascii point with ⟨c, letter, rfl, _, _, noUnits, escape, written⟩ |
    units | ⟨c, rfl, noQuote, noBackslash, shown, _, written⟩
  · rw [written] at starts
    cases starts
    exact absurd rfl noUnits
  · rw [units, toList_escapeUnits, List.cons_append, List.cons_append, List.cons_inj_right,
      List.cons_inj_right] at starts
    by_cases basic : point.code < 0x10000
    · rw [if_pos basic] at starts
      exact ⟨_, tail, starts.symm, more, basic, (isLowUnit_code point).trans noLow⟩
    · rw [if_neg basic, List.append_assoc, List.cons_append, List.cons_append] at starts
      have bound := code_lt point
      have high := @isHighUnit_first (point.code - 0x10000) (by omega)
      refine ⟨_, _, starts.symm, by simp, lt_of_isHighUnit high, ?_⟩
      rw [isHighUnit, Bool.and_eq_true, decide_eq_true_iff, decide_eq_true_iff] at high
      rw [isLowUnit, Bool.and_eq_false_iff, decide_eq_false_iff_not, decide_eq_false_iff_not]
      omega
  · rw [written] at starts
    cases starts
    exact absurd rfl noBackslash

/-- The units of two halves that stand together are read as one character. -/
theorem readString_pair {ascii : Bool} {second : CodePoint} (pair : point.pairs second = true)
    (more : tail ≠ []) :
    readString start (fuel + 1)
        ((escapePoint ascii point).toList ++ ((escapePoint ascii second).toList ++ tail)) =
      consPoint (point.join second) (readString start fuel tail) := by
  obtain ⟨high, low⟩ := Bool.and_eq_true_iff.mp pair
  have firstUnits : escapePoint ascii point = escapeUnits point.code := by
    cases point with
    | char c => cases high
    | surrogate half => rfl
  have secondUnits : escapePoint ascii second = escapeUnits second.code := by
    cases second with
    | char c => cases low
    | surrogate half => rfl
  rw [← isHighUnit_code] at high
  rw [← isLowUnit_code] at low
  rw [firstUnits, secondUnits, toList_escapeUnits, if_pos (lt_of_isHighUnit high),
    toList_escapeUnits, if_pos (lt_of_isLowUnit low)]
  exact readString_units fun _ => unicodeEscape_units high low more

theorem toList_quote (ascii : Bool) (content : Text) :
    (quote ascii content).toList =
      '"' :: (content.flatMap fun point => (escapePoint ascii point).toList) ++ ['"'] := by
  rw [quote, String.toList_append, String.toList_append, String.toList_join, List.flatMap_map]
  rfl

/-- A string is read up to the quote that closes it. -/
theorem readString_escaped {ascii : Bool} {content : Text} {rest : List Char}
    (room : (content.flatMap fun point => (escapePoint ascii point).toList).length < fuel) :
    readString start fuel
        ((content.flatMap fun point => (escapePoint ascii point).toList) ++ '"' :: rest) =
      .ok (content.joinHalves, rest) := by
  obtain ⟨less, rfl⟩ : ∃ less, fuel = less + 1 := ⟨fuel - 1, by omega⟩
  fun_induction Text.joinHalves content generalizing less with
  | case1 => rfl
  | case2 point =>
      have progress := length_escapePoint_pos ascii point
      simp only [List.flatMap_cons, List.flatMap_nil, List.append_nil] at room ⊢
      obtain ⟨fewer, rfl⟩ : ∃ fewer, less = fewer + 1 := ⟨less - 1, by omega⟩
      rw [readString_escapePoint (by simp) fun _ => noLowUnit_quote rest]
      rfl
  | case3 first second others pair ih =>
      have progress := length_escapePoint_pos ascii first
      simp only [List.flatMap_cons, List.append_assoc, List.length_append] at room ⊢
      obtain ⟨fewer, rfl⟩ : ∃ fewer, less = fewer + 1 := ⟨less - 1, by omega⟩
      rw [readString_pair pair (by simp), ih fewer (by omega)]
      rfl
  | case4 first second others apart ih =>
      have progress := length_escapePoint_pos ascii first
      rw [List.flatMap_cons, List.length_append] at room
      obtain ⟨fewer, rfl⟩ : ∃ fewer, less = fewer + 1 := ⟨less - 1, by omega⟩
      rw [List.flatMap_cons, List.append_assoc, readString_escapePoint (by simp),
        ih fewer (by omega)]
      · rfl
      · intro high
        have noLow : second.isLow = false := by
          rw [CodePoint.pairs, high, Bool.true_and, Bool.not_eq_true] at apart
          exact apart
        rw [List.flatMap_cons, List.append_assoc]
        exact noLowUnit_escapePoint noLow (by simp)

theorem readQuoted_quote (ascii : Bool) (content : Text) (rest : List Char) :
    readQuoted ((quote ascii content).toList ++ rest) = .ok (content.joinHalves, rest) := by
  rw [toList_quote, List.append_assoc, List.cons_append, List.singleton_append, readQuoted,
    readString_escaped]
  rw [List.length_append, List.length_cons]
  omega

end Strings

section Integers

/-- A text does not start with what would continue a number. -/
def Ends (rest : List Char) : Prop :=
  ∀ c others, rest = c :: others → c.isDigit = false ∧ c ≠ '.' ∧ c ≠ 'e' ∧ c ≠ 'E'

variable {number : Nat} {rest : List Char}

theorem exists_digits (number : Nat) :
    ∃ first others, Nat.toDigits 10 number = first :: others ∧
      ∀ c ∈ first :: others, c.isDigit = true := by
  obtain ⟨first, others, digits⟩ := List.exists_cons_of_ne_nil
    (Nat.toDigits_ne_nil (n := number) (b := 10))
  refine ⟨first, others, digits, fun c member => ?_⟩
  rw [← digits] at member
  exact Nat.isDigit_of_mem_toDigits (by decide) (by decide) member

theorem first_toDigits_ne_zero (positive : 0 < number) {first : Char} {others : List Char}
    (digits : Nat.toDigits 10 number = first :: others) : first ≠ '0' := by
  induction number using Nat.strongRecOn generalizing others with
  | ind number ih =>
    rw [Nat.toDigits_eq_if (by decide)] at digits
    split at digits
    next small =>
      have each : ∀ digit < 10, 0 < digit → Nat.digitChar digit ≠ '0' := by decide
      cases digits
      exact each number small positive
    next large =>
      obtain ⟨lead, between, leading, _⟩ := exists_digits (number / 10)
      rw [leading, List.cons_append] at digits
      cases digits
      exact ih (number / 10) (by omega) (by omega) leading

theorem integerPart_toDigits (ends : Ends rest) :
    integerPart (Nat.toDigits 10 number ++ rest) = some (Nat.toDigits 10 number, rest) := by
  rcases Nat.eq_zero_or_pos number with rfl | positive
  · rw [Nat.toDigits_zero]
    rfl
  · obtain ⟨first, others, digits, allDigits⟩ := exists_digits number
    have notZero := first_toDigits_ne_zero positive digits
    have othersDigits : ∀ c ∈ others, c.isDigit = true := fun c member =>
      allDigits c (List.mem_cons_of_mem _ member)
    have taken : rest.takeWhile Char.isDigit = [] ∧ rest.dropWhile Char.isDigit = rest := by
      cases rest with
      | nil => exact ⟨rfl, rfl⟩
      | cons c more =>
          have noDigit := (ends c more rfl).1
          simp [noDigit]
    rw [digits, List.cons_append, integerPart]
    · rw [if_pos (allDigits first List.mem_cons_self),
        List.takeWhile_append_of_pos othersDigits, List.dropWhile_append_of_pos othersDigits,
        taken.1, taken.2, List.append_nil]
    · exact notZero

theorem digitsValue_toDigits : Double.digitsValue (Nat.toDigits 10 number) = number := by
  have each : Double.digitsValue (Nat.toDigits 10 number) =
      Nat.ofDigitChars 10 (Nat.toDigits 10 number) 0 := by
    refine List.foldl_ext _ _ _ fun value c member => ?_
    rw [if_pos (Nat.isDigit_of_mem_toDigits (by decide) (by decide) member)]
  rw [each, Nat.ofDigitChars_ten_toDigits]

theorem length_toDigits_le (short : number < integerLimit) :
    (Nat.toDigits 10 number).length ≤ digitLimit := by
  have positive : 0 < digitLimit := Nat.succ_pos _
  unfold integerLimit at short
  -- With a number in place of the limit its power would be computed.
  generalize digitLimit = limit at positive short ⊢
  exact (Nat.length_toDigits_le_iff (by decide) positive).mpr short

theorem integerOfDigits_toDigits (negative : Bool) (short : number < integerLimit) :
    integerOfDigits negative (Nat.toDigits 10 number) =
      .ok (if negative then -(number : Int) else number) := by
  rw [integerOfDigits, if_neg (Nat.not_lt.mpr (length_toDigits_le short)), digitsValue_toDigits]

theorem fractionPart_of_ends (ends : Ends rest) : fractionPart rest = ([], rest) := by
  rw [fractionPart]
  rintro c more rfl
  exact absurd rfl (ends '.' (c :: more) rfl).2.1

theorem exponentPart_of_ends (ends : Ends rest) : exponentPart rest = ([], rest) := by
  cases rest with
  | nil => rfl
  | cons c more =>
      obtain ⟨_, _, noSmall, noLarge⟩ := ends c more rfl
      simp [exponentPart, noSmall, noLarge]

theorem toList_toString (number : Int) :
    (toString number).toList =
      if number < 0 then '-' :: Nat.toDigits 10 number.natAbs
      else Nat.toDigits 10 number.natAbs := by
  rw [Int.toString_eq_repr, Int.repr_eq_if]
  by_cases negative : number < 0
  · have magnitude : (-number).toNat = number.natAbs := by omega
    rw [if_neg (by omega), if_pos negative, String.toList_append, Nat.toList_repr, magnitude]
    rfl
  · have magnitude : number.toNat = number.natAbs := by omega
    rw [if_pos (by omega), if_neg negative, Nat.toList_repr, magnitude]

/-- How a number is read whose sign has been read. -/
theorem readNumber_toDigits (short : number < integerLimit) (ends : Ends rest) :
    readNumber ('-' :: (Nat.toDigits 10 number ++ rest)) = .ok (.int (-(number : Int)), rest) ∧
      readNumber (Nat.toDigits 10 number ++ rest) = .ok (.int number, rest) := by
  have noSign (others : List Char) : Nat.toDigits 10 number ++ rest = '-' :: others → False := by
    intro equal
    obtain ⟨first, more, digits, allDigits⟩ := exists_digits number
    rw [digits] at equal
    cases equal
    exact absurd (allDigits '-' List.mem_cons_self) (by decide)
  constructor
  · simp only [readNumber, integerPart_toDigits ends, fractionPart_of_ends ends,
      exponentPart_of_ends ends, integerOfDigits_toDigits _ short, List.isEmpty_nil, Bool.and_self,
      List.isEmpty_cons, Bool.not_false, if_true]
  · rw [readNumber]
    · simp only [integerPart_toDigits ends, fractionPart_of_ends ends,
        exponentPart_of_ends ends, integerOfDigits_toDigits _ short, List.isEmpty_nil,
        Bool.and_self, Bool.not_true, if_true]
      rfl
    · exact noSign

theorem words_eq : words =
    [(['n', 'u', 'l', 'l'], .null), (['t', 'r', 'u', 'e'], .bool true),
      (['f', 'a', 'l', 's', 'e'], .bool false), (['N', 'a', 'N'], .float .nan),
      (['I', 'n', 'f', 'i', 'n', 'i', 't', 'y'], .float (.infinite false)),
      (['-', 'I', 'n', 'f', 'i', 'n', 'i', 't', 'y'], .float (.infinite true))] := rfl

theorem ne_of_isDigit {digit c : Char} (isDigit : digit.isDigit = true)
    (noDigit : c.isDigit = false) : c ≠ digit := by
  rintro rfl
  exact Bool.false_ne_true (noDigit.symm.trans isDigit)

/-- No word starts like a number. -/
theorem readAtom_of_digit {first : Char} (others : List Char) (digit : first.isDigit = true) :
    readAtom (first :: others) = readNumber (first :: others) ∧
      readAtom ('-' :: first :: others) = readNumber ('-' :: first :: others) := by
  have differs {c : Char} (noDigit : c.isDigit = false) := ne_of_isDigit digit noDigit
  constructor
  · simp [readAtom, words_eq, afterWord?, @differs 'n' rfl, @differs 't' rfl, @differs 'f' rfl,
      @differs 'N' rfl, @differs 'I' rfl, @differs '-' rfl]
  · simp [readAtom, words_eq, afterWord?, @differs 'I' rfl]

theorem readAtom_toString {number : Int} (short : number.natAbs < integerLimit)
    (ends : Ends rest) :
    readAtom ((toString number).toList ++ rest) = .ok (.int number, rest) := by
  obtain ⟨first, others, digits, allDigits⟩ := exists_digits number.natAbs
  have atom := readAtom_of_digit (others ++ rest) (allDigits first List.mem_cons_self)
  have read := readNumber_toDigits short ends
  rw [toList_toString]
  rw [digits] at read ⊢
  by_cases negative : number < 0
  · have magnitude : -(number.natAbs : Int) = number := by omega
    rw [if_pos negative, List.cons_append, List.cons_append, atom.2, ← List.cons_append, read.1,
      magnitude]
  · have magnitude : (number.natAbs : Int) = number := by omega
    rw [if_neg negative, List.cons_append, atom.1, ← List.cons_append, read.2, magnitude]

end Integers

section Plain

variable {c : Char}

/-- Every character is of ASCII, and none is a carriage return. -/
def PlainLines (chars : List Char) : Prop := ∀ c ∈ chars, c.toNat < 0x80 ∧ c ≠ '\r'

theorem plainLines_append {chars others : List Char} :
    PlainLines (chars ++ others) ↔ PlainLines chars ∧ PlainLines others :=
  List.forall_mem_append

theorem plainLines_cons {chars : List Char} :
    PlainLines (c :: chars) ↔ (c.toNat < 0x80 ∧ c ≠ '\r') ∧ PlainLines chars :=
  List.forall_mem_cons

theorem plainLines_nil : PlainLines [] := nofun

theorem plainLines_of_all {chars : List Char}
    (all : (chars.all fun c => c.toNat < 0x80 && c != '\r') = true) : PlainLines chars := by
  simpa [PlainLines] using all

theorem plain_of_shown (shown : 0x20 ≤ c.toNat) (ascii : c.toNat < 0x7f) :
    c.toNat < 0x80 ∧ c ≠ '\r' := by
  refine ⟨by omega, ?_⟩
  rintro rfl
  exact absurd shown (by decide)

theorem plainLines_hexDigits (code : Nat) : PlainLines (Text.hexDigits 4 code).toList := by
  have each : ∀ digit < 16, (Nat.digitChar digit).toNat < 0x80 ∧ Nat.digitChar digit ≠ '\r' := by
    decide
  have digit (number : Nat) := each (number % 16) (Nat.mod_lt _ (by decide))
  rw [toList_hexDigits]
  simp only [plainLines_cons]
  exact ⟨digit _, digit _, digit _, digit _, plainLines_nil⟩

theorem plainLines_escapePoint (point : CodePoint) :
    PlainLines (escapePoint true point).toList := by
  rcases escapePoint_cases true point with ⟨_, letter, _, shown, small, _, _, written⟩ | units |
    ⟨_, _, _, _, shown, small, written⟩
  · rw [written, plainLines_cons, plainLines_cons]
    exact ⟨by decide, plain_of_shown shown small, plainLines_nil⟩
  · rw [units, toList_escapeUnits, plainLines_cons, plainLines_cons]
    refine ⟨by decide, by decide, ?_⟩
    split
    · exact plainLines_hexDigits _
    · rw [plainLines_append, plainLines_cons, plainLines_cons]
      exact ⟨plainLines_hexDigits _, by decide, by decide, plainLines_hexDigits _⟩
  · rw [written, plainLines_cons]
    exact ⟨plain_of_shown shown (small rfl), plainLines_nil⟩

theorem plainLines_quote (content : Text) : PlainLines (quote true content).toList := by
  rw [toList_quote, plainLines_append, plainLines_cons]
  refine ⟨⟨by decide, fun c member => ?_⟩, plainLines_cons.mpr ⟨by decide, plainLines_nil⟩⟩
  obtain ⟨given, _, written⟩ := List.mem_flatMap.mp member
  exact plainLines_escapePoint given c written

theorem plainLines_of_isDigit {chars : List Char} (digits : ∀ c ∈ chars, c.isDigit) :
    PlainLines chars := by
  intro c member
  have bounds := Char.isDigit_iff_toNat.mp (digits c member)
  exact ⟨Nat.lt_of_le_of_lt bounds.2 (by decide), (ne_of_isDigit (digits c member) rfl).symm⟩

theorem plainLines_toString (number : Int) : PlainLines (toString number).toList := by
  have digits : PlainLines (Nat.toDigits 10 number.natAbs) :=
    plainLines_of_isDigit fun _ => Nat.isDigit_of_mem_toDigits (by decide) (by decide)
  rw [toList_toString]
  split
  · exact plainLines_cons.mpr ⟨by decide, digits⟩
  · exact digits

end Plain

end Json

end ClosedShape
