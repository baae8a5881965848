/-!
Calendar days and moments in universal time. A moment keeps the digits of its clock, so a leap
second is the second 60 of its minute.
-/

namespace AnswerGraph

/-- A day of the calendar, also before its introduction and before the year 1. -/
structure Date where
  year : Int
  /-- 1 is January. -/
  month : Nat
  day : Nat
  deriving DecidableEq, Repr

namespace Date

def isLeapYear (year : Int) : Bool :=
  year % 4 = 0 && (year % 100 != 0 || year % 400 = 0)

def daysInMonth (year : Int) (month : Nat) : Nat :=
  if month = 2 then (if isLeapYear year then 29 else 28)
  else if month = 4 ∨ month = 6 ∨ month = 9 ∨ month = 11 then 30
  else 31

def minYear : Int := -262143

def maxYear : Int := 262142

def isYear (year : Int) : Bool :=
  minYear ≤ year && year ≤ maxYear

def isValid (date : Date) : Bool :=
  isYear date.year && 1 ≤ date.month && date.month ≤ 12 && 1 ≤ date.day &&
    date.day ≤ daysInMonth date.year date.month

def next (date : Date) : Date :=
  if date.day < daysInMonth date.year date.month then { date with day := date.day + 1 }
  else if date.month < 12 then ⟨date.year, date.month + 1, 1⟩
  else ⟨date.year + 1, 1, 1⟩

def previous (date : Date) : Date :=
  if 1 < date.day then { date with day := date.day - 1 }
  else if 1 < date.month then
    ⟨date.year, date.month - 1, daysInMonth date.year (date.month - 1)⟩
  else ⟨date.year - 1, 12, 31⟩

/-- The day a number of days later. -/
def later (date : Date) : Nat → Date
  | 0 => date
  | days + 1 => date.next.later days

end Date

structure Moment where
  date : Date
  hour : Nat
  minute : Nat
  second : Nat
  nanosecond : Nat
  deriving DecidableEq, Repr

namespace Moment

def minutesInDay : Nat := 24 * 60

/-- The moment at which clocks that are `offset` minutes ahead show `clock`; the offset is less than
a day. -/
def atOffset? (clock : Moment) (offset : Int) : Option Moment :=
  let minutes : Int := clock.hour * 60 + clock.minute - offset
  let date :=
    if minutes < 0 then clock.date.previous
    else if minutesInDay ≤ minutes then clock.date.next
    else clock.date
  let inDay := (minutes % minutesInDay).toNat
  if Date.isYear date.year then
    some { clock with date, hour := inDay / 60, minute := inDay % 60 }
  else none

/-- The moment a number of nanoseconds after the start of 1970, without leap seconds. -/
def sinceEpoch (nanoseconds : Nat) : Moment :=
  let seconds := nanoseconds / Nat.pow 10 9
  let minutes := seconds / 60
  { date := Date.later ⟨1970, 1, 1⟩ (minutes / minutesInDay)
    hour := minutes % minutesInDay / 60
    minute := minutes % 60
    second := seconds % 60
    nanosecond := nanoseconds % Nat.pow 10 9 }

private def padded (width : Nat) (value : Nat) : String :=
  let digits := toString value
  String.ofList (List.replicate (width - digits.length) '0') ++ digits

private def yearText (year : Int) : String :=
  if 0 ≤ year ∧ year ≤ 9999 then padded 4 year.toNat
  else (if year < 0 then "-" else "+") ++ padded 4 year.natAbs

/-- Parts of a second, with as many places as are needed in groups of three. -/
private def placesText (nanosecond : Nat) : String :=
  if nanosecond = 0 then ""
  else if nanosecond % 1000000 = 0 then "." ++ padded 3 (nanosecond / 1000000)
  else if nanosecond % 1000 = 0 then "." ++ padded 6 (nanosecond / 1000)
  else "." ++ padded 9 nanosecond

/-- Date and time of a moment, with a text for its zone at the end. -/
def text (zone : String) (moment : Moment) : String :=
  let date :=
    s!"{yearText moment.date.year}-{padded 2 moment.date.month}-{padded 2 moment.date.day}"
  let time := s!"{padded 2 moment.hour}:{padded 2 moment.minute}:{padded 2 moment.second}"
  date ++ "T" ++ time ++ placesText moment.nanosecond ++ zone

end Moment

end AnswerGraph
