import ClosedShape.Calendar.Reader
import ClosedShape.Double.Decimal
import ClosedShape.Fault
import ClosedShape.Value
/-!
# YAML timestamps

Dates and moments as YAML writes them: with one digit or two in most places, and blanks instead of
a letter between date and time.
-/

namespace ClosedShape.Yaml

/-- A timestamp as it is written. -/
structure Timestamp where
  date : Date
  /-- Whether month and day have two digits each. -/
  padded : Bool
  /-- Hour, minute and second with the digits of a fraction, and the offset. -/
  clock : Option (TimeOfDay × List Char × Option Int)
deriving Repr, Inhabited

namespace Timestamp

/-- Reads one digit or two. -/
def readPart (text : List Char) : Option (Nat × Bool × List Char) :=
  match Calendar.readDigits 2 text with
  | some (value, rest) => some (value, true, rest)
  | none => (Calendar.readDigits 1 text).map fun (value, rest) => (value, false, rest)

def skipSpaces (text : List Char) : List Char := text.dropWhile fun c => c = ' ' || c = '\t'

/-- Reads an offset that reaches to the end of the text, in seconds. -/
def readOffset (text : List Char) : Option (Option Int) :=
  match skipSpaces text with
  | [] => if text.isEmpty then some none else none
  | ['Z'] => some (some 0)
  | sign :: rest => do
      if sign != '+' && sign != '-' then none
      let (hours, _, rest) ← readPart rest
      let (minutes, rest) ←
        match rest with
        | ':' :: rest => Calendar.readDigits 2 rest
        | rest => some (0, rest)
      if !rest.isEmpty then none
      let size : Int := (hours * 60 + minutes) * 60
      some (some (if sign = '-' then -size else size))

/-- Reads a time of day after a date. -/
def readClock (text : List Char) : Option (TimeOfDay × List Char × Option Int) := do
  let rest := match text with
    | 'T' :: rest | 't' :: rest => rest
    | _ => skipSpaces text
  if rest.length = text.length then none
  let (hour, _, rest) ← readPart rest
  let rest ← Calendar.readMark ':' rest
  let (minute, rest) ← Calendar.readDigits 2 rest
  let rest ← Calendar.readMark ':' rest
  let (second, rest) ← Calendar.readDigits 2 rest
  let (fraction, rest) :=
    match rest with
    | '.' :: rest => (rest.takeWhile Char.isDigit, rest.dropWhile Char.isDigit)
    | rest => ([], rest)
  let offset ← readOffset rest
  some (⟨hour, minute, second, 0⟩, fraction, offset)

/-- Reads a whole text. -/
def ofText? (text : List Char) : Option Timestamp := do
  let (year, rest) ← Calendar.readDigits 4 text
  let rest ← Calendar.readMark '-' rest
  let (month, monthPadded, rest) ← readPart rest
  let rest ← Calendar.readMark '-' rest
  let (day, dayPadded, rest) ← readPart rest
  let date : Date := ⟨year, month, day⟩
  if rest.isEmpty then some ⟨date, monthPadded && dayPadded, none⟩
  else some ⟨date, monthPadded && dayPadded, some (← readClock rest)⟩

/-- Reads the content of a scalar.  A line feed at its end says nothing. -/
def ofContent? (content : List Char) : Option Timestamp :=
  match content.reverse with
  | '\n' :: rest => ofText? rest.reverse
  | _ => ofText? content

/-- Whether a plain scalar is read as this timestamp.  A date alone must be padded. -/
def isPlain (timestamp : Timestamp) : Bool := timestamp.padded || timestamp.clock.isSome

/-- The microseconds that the digits of a fraction stand for, rounded at the seventh. -/
def microseconds (fraction : List Char) : Nat :=
  let kept := Double.digitsValue ((fraction ++ List.replicate 6 '0').take 6)
  match fraction[6]? with
  | some c => if '4' < c then kept + 1 else kept
  | none => kept

def checkDate (date : Date) : Except Fault Unit :=
  if date.year = 0 then .error (.momentImpossible "year 0 is out of range")
  else if date.month = 0 || 12 < date.month then
    .error (.momentImpossible "month must be in 1..12")
  else if !date.isValid then .error (.momentImpossible "day is out of range for month")
  else .ok ()

def checkTime (time : TimeOfDay) : Except Fault Unit :=
  if 24 ≤ time.hour then .error (.momentImpossible "hour must be in 0..23")
  else if 60 ≤ time.minute then .error (.momentImpossible "minute must be in 0..59")
  else if 60 ≤ time.second then .error (.momentImpossible "second must be in 0..59")
  else .ok ()

/-- The moment one second later, within the calendar. -/
def addSecond (date : Date) (time : TimeOfDay) : Date × TimeOfDay :=
  let seconds := (time.hour * 60 + time.minute) * 60 + time.second + 1
  let later : TimeOfDay := ⟨seconds / 3600 % 24, seconds / 60 % 60, seconds % 60, 0⟩
  if seconds < 86400 then (date, later)
  else if date.day < Date.daysInMonth date.year date.month then
    ({ date with day := date.day + 1 }, later)
  else if date.month < 12 then (⟨date.year, date.month + 1, 1⟩, later)
  else (⟨date.year + 1, 1, 1⟩, later)

/-- The date or moment that a timestamp names. -/
def value (timestamp : Timestamp) : Except Fault Value := do
  match timestamp.clock with
  | none => do
      checkDate timestamp.date
      return .date timestamp.date
  | some (time, fraction, offset) =>
      if 86400 ≤ (offset.getD 0).natAbs then throw (.offsetOutOfRange (offset.getD 0))
      checkDate timestamp.date
      checkTime time
      let fraction := microseconds fraction
      if fraction < 1000000 then
        return .moment ⟨timestamp.date, { time with microsecond := fraction }, offset⟩
      else
        let (date, time) := addSecond timestamp.date time
        if 9999 < date.year then throw .pastCalendar
        return .moment ⟨date, time, offset⟩

end Timestamp

end ClosedShape.Yaml
