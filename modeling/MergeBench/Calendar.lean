import MergeBench.Number.Integer

namespace MergeBench

structure Date where
  year : Nat
  month : Nat
  day : Nat
  deriving DecidableEq, Repr

/-- A time of day on a date, with the offset from universal time in seconds where it is known. -/
structure Moment where
  date : Date
  hour : Nat
  minute : Nat
  second : Nat
  microsecond : Nat
  offset : Option Int
  deriving DecidableEq, Repr

inductive CalendarError where
  | year (n : Nat)
  | month
  | day
  | hour
  | minute
  | second
  | offset (seconds : Int)
  deriving DecidableEq, Repr

namespace Calendar

def isLeap (year : Nat) : Bool :=
  year % 4 == 0 && (year % 100 != 0 || year % 400 == 0)

def monthLength (year month : Nat) : Nat :=
  if month == 2 then (if isLeap year then 29 else 28)
  else if [4, 6, 9, 11].contains month then 30
  else 31

def secondsPerDay : Nat := 86400

/-- Days from the first of January of year 1 to the given date. -/
def daysBefore (date : Date) : Nat :=
  let past := date.year - 1
  let months := (List.range (date.month - 1)).map fun m => monthLength date.year (m + 1)
  past * 365 + past / 4 - past / 100 + past / 400 + months.foldl (· + ·) 0 + (date.day - 1)

/-- The year, month and day that lie the given number of days after the first of March of year 0. -/
def dateAfter (days : Nat) : Date :=
  let era := days / 146097
  let dayOfEra := days % 146097
  let year := (dayOfEra - dayOfEra / 1460 + dayOfEra / 36524 - dayOfEra / 146096) / 365
  let dayOfYear := dayOfEra - (365 * year + year / 4 - year / 100)
  let march := (5 * dayOfYear + 2) / 153
  let month := if march < 10 then march + 3 else march - 9
  ⟨year + era * 400 + (if month ≤ 2 then 1 else 0), month, dayOfYear - (153 * march + 2) / 5 + 1⟩

def epochDays : Nat := 719468

example : dateAfter epochDays = ⟨1970, 1, 1⟩ := by decide
example : dateAfter (epochDays + 19782) = ⟨2024, 2, 29⟩ := by decide

end Calendar

open Calendar

def Date.make? (year month day : Nat) : Except CalendarError Date :=
  if year < 1 || 9999 < year then .error (.year year)
  else if month < 1 || 12 < month then .error .month
  else if day < 1 || monthLength year month < day then .error .day
  else .ok ⟨year, month, day⟩

def Date.text (d : Date) : String :=
  s!"{Number.padded 4 d.year}-{Number.padded 2 d.month}-{Number.padded 2 d.day}"

def Date.written (d : Date) : String :=
  s!"datetime.date({d.year}, {d.month}, {d.day})"

namespace Moment

def make? (date : Date) (hour minute second microsecond : Nat) (offset : Option Int) :
    Except CalendarError Moment :=
  if 23 < hour then .error .hour
  else if 59 < minute then .error .minute
  else if 59 < second then .error .second
  else .ok ⟨date, hour, minute, second, microsecond, offset⟩

/-- Offsets are shorter than a day. -/
def checkOffset (seconds : Int) : Except CalendarError Int :=
  if seconds.natAbs < secondsPerDay then .ok seconds else .error (.offset seconds)

def offsetText (seconds : Int) : String :=
  let n := seconds.natAbs
  let mark := if seconds < 0 then "-" else "+"
  let base := s!"{mark}{Number.padded 2 (n / 3600)}:{Number.padded 2 (n / 60 % 60)}"
  if n % 60 == 0 then base else s!"{base}:{Number.padded 2 (n % 60)}"

def clockText (m : Moment) : String :=
  let whole :=
    s!"{Number.padded 2 m.hour}:{Number.padded 2 m.minute}:{Number.padded 2 m.second}"
  if m.microsecond == 0 then whole else s!"{whole}.{Number.padded 6 m.microsecond}"

def textWith (mark : String) (m : Moment) : String :=
  m.date.text ++ mark ++ m.clockText ++ (m.offset.map offsetText).getD ""

def text (m : Moment) : String :=
  m.textWith " "

/-- A span of seconds as days and the seconds of the last day, days rounded down. -/
def spanWritten (seconds : Int) : String :=
  let days := Int.fdiv seconds secondsPerDay
  let rest := Int.fmod seconds secondsPerDay
  let fields :=
    (if days == 0 then [] else [s!"days={days}"]) ++ (if rest == 0 then [] else [s!"seconds={rest}"])
  let shown := if fields.isEmpty then "0" else ", ".intercalate fields
  s!"datetime.timedelta({shown})"

def offsetWritten (seconds : Int) : String :=
  if seconds == 0 then "datetime.timezone.utc" else s!"datetime.timezone({spanWritten seconds})"

def written (m : Moment) : String :=
  let fine :=
    if m.microsecond != 0 then [m.second, m.microsecond]
    else if m.second != 0 then [m.second] else []
  let fields := [m.date.year, m.date.month, m.date.day, m.hour, m.minute] ++ fine
  let zone := (m.offset.map fun seconds => s!", tzinfo={offsetWritten seconds}").getD ""
  let shown := ", ".intercalate (fields.map Number.naturalText)
  s!"datetime.datetime({shown}{zone})"

def ofClock (microseconds : Nat) : Moment :=
  let seconds := microseconds / 1000000
  let inDay := seconds % secondsPerDay
  ⟨dateAfter (epochDays + seconds / secondsPerDay), inDay / 3600, inDay / 60 % 60, inDay % 60,
    microseconds % 1000000, some 0⟩

def stamp (m : Moment) : String :=
  m.textWith "T"

/-- Microseconds since the start of year 1, in universal time where the offset is known. -/
def instant (m : Moment) : Int :=
  let seconds : Int :=
    daysBefore m.date * secondsPerDay + m.hour * 3600 + m.minute * 60 + m.second
  (seconds - m.offset.getD 0) * 1000000 + m.microsecond

/-- Two moments are the same if both or neither have an offset and they fall together. -/
def same (a b : Moment) : Bool :=
  a.offset.isSome == b.offset.isSome && a.instant == b.instant

end Moment

def CalendarError.message : CalendarError → String
  | .year n => s!"year {n} is out of range"
  | .month => "month must be in 1..12"
  | .day => "day is out of range for month"
  | .hour => "hour must be in 0..23"
  | .minute => "minute must be in 0..59"
  | .second => "second must be in 0..59"
  | .offset seconds =>
    "offset must be a timedelta strictly between -timedelta(hours=24) and timedelta(hours=24), " ++
      s!"not {Moment.spanWritten seconds}."

end MergeBench
