/-!
# Dates and times

Calendar dates, times of day and moments, with the numeric text they are written in.
-/

namespace ClosedShape

structure Date where
  year : Nat
  month : Nat
  day : Nat
deriving DecidableEq, Repr, Inhabited

structure TimeOfDay where
  hour : Nat
  minute : Nat
  second : Nat
  microsecond : Nat
deriving DecidableEq, Repr, Inhabited

/-- A date with a time of day, and the distance from universal time in seconds where it is known. -/
structure Moment where
  date : Date
  time : TimeOfDay
  offset : Option Int
deriving DecidableEq, Repr, Inhabited

/-- Writes a number with at least `width` digits. -/
def paddedDigits (width value : Nat) : String :=
  let digits := toString value
  String.ofList (List.replicate (width - digits.length) '0') ++ digits

namespace Calendar

/-- The source text of a length of time in whole seconds.  Days are counted down, so that the rest
is never negative. -/
def durationSource (seconds : Int) : String :=
  let days := seconds.fdiv 86400
  let rest := seconds.fmod 86400
  let shown := (if days = 0 then [] else [s!"days={days}"]) ++
    (if rest = 0 then [] else [s!"seconds={rest}"])
  "datetime.timedelta(" ++ (if shown.isEmpty then "0" else ", ".intercalate shown) ++ ")"

end Calendar

namespace Date

def isLeapYear (year : Nat) : Bool := year % 4 = 0 && (year % 100 != 0 || year % 400 = 0)

def daysInMonth (year month : Nat) : Nat :=
  if month = 2 then if isLeapYear year then 29 else 28
  else if month = 4 || month = 6 || month = 9 || month = 11 then 30
  else 31

/-- The dates of the calendar, from the year 1 to the year 9999. -/
def isValid (date : Date) : Bool :=
  1 ≤ date.year && date.year ≤ 9999 && 1 ≤ date.month && date.month ≤ 12 && 1 ≤ date.day &&
    date.day ≤ daysInMonth date.year date.month

/-- The number of days before the first of January of a year. -/
def daysBeforeYear (year : Nat) : Nat :=
  let past := year - 1
  365 * past + past / 4 - past / 100 + past / 400

/-- The number of a date, counted from the first day of the year 1. -/
def dayNumber (date : Date) : Nat :=
  daysBeforeYear date.year +
    (List.range (date.month - 1)).foldl
      (fun days before => days + daysInMonth date.year (before + 1)) 0 +
    (date.day - 1)

def text (date : Date) : String :=
  paddedDigits 4 date.year ++ "-" ++ paddedDigits 2 date.month ++ "-" ++ paddedDigits 2 date.day

def source (date : Date) : String :=
  s!"datetime.date({date.year}, {date.month}, {date.day})"

end Date

namespace TimeOfDay

def isValid (time : TimeOfDay) : Bool :=
  time.hour < 24 && time.minute < 60 && time.second < 60 && time.microsecond < 1000000

/-- The microseconds since midnight. -/
def microseconds (time : TimeOfDay) : Nat :=
  ((time.hour * 60 + time.minute) * 60 + time.second) * 1000000 + time.microsecond

/-- Microseconds are written only when there are any. -/
def text (time : TimeOfDay) : String :=
  paddedDigits 2 time.hour ++ ":" ++ paddedDigits 2 time.minute ++ ":" ++
    paddedDigits 2 time.second ++
    (if time.microsecond = 0 then "" else "." ++ paddedDigits 6 time.microsecond)

/-- The parts of a time as arguments: seconds and microseconds only as far as they are not zero. -/
def arguments (time : TimeOfDay) : List String :=
  [toString time.hour, toString time.minute] ++
    if time.microsecond != 0 then [toString time.second, toString time.microsecond]
    else if time.second != 0 then [toString time.second]
    else []

def source (time : TimeOfDay) : String :=
  "datetime.time(" ++ ", ".intercalate time.arguments ++ ")"

end TimeOfDay

namespace Moment

def offsetText (offset : Int) : String :=
  let size := offset.natAbs
  (if offset < 0 then "-" else "+") ++ paddedDigits 2 (size / 3600) ++ ":" ++
    paddedDigits 2 (size / 60 % 60) ++
    (if size % 60 = 0 then "" else ":" ++ paddedDigits 2 (size % 60))

/-- Date and time around a separator, then the offset. -/
def textWith (separator : String) (moment : Moment) : String :=
  moment.date.text ++ separator ++ moment.time.text ++
    (moment.offset.map offsetText).getD ""

def offsetSource (offset : Int) : String :=
  if offset = 0 then "datetime.timezone.utc"
  else "datetime.timezone(" ++ Calendar.durationSource offset ++ ")"

def source (moment : Moment) : String :=
  let date := moment.date
  let zone := (moment.offset.map fun offset => ["tzinfo=" ++ offsetSource offset]).getD []
  "datetime.datetime(" ++
    ", ".intercalate
      ([toString date.year, toString date.month, toString date.day] ++ moment.time.arguments ++
        zone) ++ ")"

/-- The microseconds since the start of the calendar, in universal time where the offset is
known. -/
def instant (moment : Moment) : Int :=
  ((moment.date.dayNumber * 86400 * 1000000 + moment.time.microseconds : Nat) : Int) -
    moment.offset.getD 0 * 1000000

/-- Two moments are the same if both or neither have an offset and they name one instant. -/
def isSame (left right : Moment) : Bool :=
  left.offset.isSome == right.offset.isSome && left.instant == right.instant

end Moment

end ClosedShape
