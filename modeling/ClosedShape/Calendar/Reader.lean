import ClosedShape.Calendar
/-!
# Reading dates and times

The internet format of dates and times: every part has its fixed number of digits, and a fraction
of a second is cut after six.
-/

namespace ClosedShape

namespace Calendar

/-- Reads exactly `count` digits. -/
def readDigits (count : Nat) (text : List Char) : Option (Nat × List Char) :=
  let digits := text.take count
  if digits.length = count && digits.all Char.isDigit then
    some (digits.foldl (fun value c => 10 * value + (c.toNat - '0'.toNat)) 0, text.drop count)
  else none

def readMark (mark : Char) : List Char → Option (List Char)
  | c :: rest => if c = mark then some rest else none
  | [] => none

/-- Reads a fraction of a second in microseconds, if there is one. -/
def readFraction (text : List Char) : Nat × List Char :=
  match text with
  | '.' :: rest =>
      let digits := rest.takeWhile Char.isDigit
      if digits.isEmpty then (0, text)
      else
        let microseconds :=
          (digits ++ List.replicate 6 '0').take 6 |>.foldl
            (fun value c => 10 * value + (c.toNat - '0'.toNat)) 0
        (microseconds, rest.dropWhile Char.isDigit)
  | _ => (0, text)

/-- Reads `year-month-day`.  The day need not exist in its month. -/
def readDate (text : List Char) : Option (Date × List Char) := do
  let (year, text) ← readDigits 4 text
  let text ← readMark '-' text
  let (month, text) ← readDigits 2 text
  let text ← readMark '-' text
  let (day, text) ← readDigits 2 text
  if 1 ≤ month && month ≤ 12 && 1 ≤ day && day ≤ 31 then some (⟨year, month, day⟩, text) else none

/-- Reads `hour:minute:second` with an optional fraction. -/
def readTime (text : List Char) : Option (TimeOfDay × List Char) := do
  let (hour, text) ← readDigits 2 text
  let text ← readMark ':' text
  let (minute, text) ← readDigits 2 text
  let text ← readMark ':' text
  let (second, text) ← readDigits 2 text
  let (microsecond, text) := readFraction text
  if hour < 24 && minute < 60 && second < 60 then
    some (⟨hour, minute, second, microsecond⟩, text)
  else none

/-- Reads `Z` or `±hours:minutes`, in seconds. -/
def readOffset (text : List Char) : Option (Int × List Char) :=
  match text with
  | 'Z' :: rest | 'z' :: rest => some (0, rest)
  | sign :: rest => do
      if sign != '+' && sign != '-' then none
      let (hours, rest) ← readDigits 2 rest
      let rest ← readMark ':' rest
      let (minutes, rest) ← readDigits 2 rest
      if hours < 24 && minutes < 60 then
        let size : Int := (hours * 60 + minutes) * 60
        some (if sign = '-' then -size else size, rest)
      else none
  | [] => none

/-- Reads a time of day after a date, with an optional offset. -/
def readClock (text : List Char) : Option (TimeOfDay × Option Int × List Char) :=
  match text with
  | separator :: rest =>
      if separator = 'T' || separator = 't' || separator = ' ' then
        (readTime rest).map fun (time, rest) =>
          match readOffset rest with
          | some (offset, rest) => (time, some offset, rest)
          | none => (time, none, rest)
      else none
  | [] => none

/-- Reads a whole text as a date. -/
def dateOfText? (text : String) : Option Date :=
  match readDate text.toList with
  | some (date, []) => some date
  | _ => none

/-- Reads a whole text as a time of day. -/
def timeOfText? (text : String) : Option TimeOfDay :=
  match readTime text.toList with
  | some (time, []) => some time
  | _ => none

/-- Reads a whole text as a date with a time of day. -/
def momentOfText? (text : String) : Option Moment := do
  let (date, rest) ← readDate text.toList
  match ← readClock rest with
  | (time, offset, []) => some ⟨date, time, offset⟩
  | _ => none

end Calendar

end ClosedShape
