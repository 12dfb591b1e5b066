import MergeBench.Calendar
import MergeBench.Number.Decimal

namespace MergeBench.Yaml

/-- The sign of an offset with its hours and minutes; no sign stands for `Z`. -/
structure ZoneText where
  sign : Option Char
  hours : Nat
  minutes : Nat
  deriving DecidableEq, Repr

structure ClockText where
  hour : Nat
  minute : Nat
  second : Nat
  fraction : List Char
  zone : Option ZoneText
  deriving DecidableEq, Repr

structure Timestamp where
  year : Nat
  month : List Char
  day : List Char
  clock : Option ClockText
  deriving DecidableEq, Repr

namespace Timestamp

def number (cs : List Char) : Nat :=
  Number.ofDigits 10 (Number.digitsOf cs)

def digits? (least most : Nat) (cs : List Char) : Option (List Char × List Char) :=
  let found := (cs.take most).takeWhile Number.isAsciiDigit
  if found.length < least then none else some (found, cs.drop found.length)

def mark? (c : Char) : List Char → Option (List Char)
  | ch :: rest => if ch == c then some rest else none
  | [] => none

def atEnd (cs : List Char) : Bool :=
  cs.isEmpty || cs == ['\n']

def isInset (c : Char) : Bool :=
  c == ' ' || c == '\t'

def zone? (cs : List Char) : Option (Option ZoneText) :=
  if atEnd cs then some none
  else
    match cs.dropWhile isInset with
    | 'Z' :: rest => if atEnd rest then some (some ⟨none, 0, 0⟩) else none
    | sign :: rest => do
      guard (sign == '+' || sign == '-')
      let (hours, rest) ← digits? 1 2 rest
      if atEnd rest then return some ⟨some sign, number hours, 0⟩
      else
        let (minutes, rest) ← digits? 2 2 (← mark? ':' rest)
        guard (atEnd rest)
        return some ⟨some sign, number hours, number minutes⟩
    | [] => none

def clock? (cs : List Char) : Option ClockText := do
  let (hour, cs) ← digits? 1 2 cs
  let (minute, cs) ← digits? 2 2 (← mark? ':' cs)
  let (second, cs) ← digits? 2 2 (← mark? ':' cs)
  let (fraction, cs) :=
    match cs with
    | '.' :: rest => (rest.takeWhile Number.isAsciiDigit, rest.dropWhile Number.isAsciiDigit)
    | _ => ([], cs)
  return ⟨number hour, number minute, number second, fraction, ← zone? cs⟩

def dropSeparator? : List Char → Option (List Char)
  | c :: rest =>
    if c == 'T' || c == 't' then some rest
    else if isInset c then some (rest.dropWhile isInset)
    else none
  | [] => none

def read? (text : String) : Option Timestamp := do
  let (year, cs) ← digits? 4 4 text.toList
  let (month, cs) ← digits? 1 2 (← mark? '-' cs)
  let (day, cs) ← digits? 1 2 (← mark? '-' cs)
  if atEnd cs then return ⟨number year, month, day, none⟩
  else return ⟨number year, month, day, ← clock? (← dropSeparator? cs)⟩

/-- Whether an untagged scalar is a timestamp: a date alone has two digits for month and day. -/
def isEvident (t : Timestamp) : Bool :=
  t.clock.isSome || (t.month.length == 2 && t.day.length == 2)

def microseconds (fraction : List Char) : Nat :=
  number ((fraction ++ List.replicate 6 '0').take 6)

def ZoneText.seconds (z : ZoneText) : Int :=
  let n : Int := z.hours * 3600 + z.minutes * 60
  if z.sign == some '-' then -n else n

def date (t : Timestamp) : Except CalendarError Date :=
  Date.make? t.year (number t.month) (number t.day)

def moment (t : Timestamp) (clock : ClockText) : Except CalendarError Moment := do
  let offset ←
    match clock.zone with
    | none => pure none
    | some z => some <$> Moment.checkOffset (ZoneText.seconds z)
  Moment.make? (← t.date) clock.hour clock.minute clock.second (microseconds clock.fraction) offset

end Timestamp

end MergeBench.Yaml
