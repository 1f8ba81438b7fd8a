import QueryRows.Number.Numeral
/-!
# Calendar — dates, times of day and datetimes

Dates of the proleptic Gregorian calendar between the years -262143 and 262142, and times of day with nanoseconds.  A
leap second may follow any second: it is counted by a second time `10 ^ 9` nanoseconds of the second before it, and is
shown as the second after that one, as second 60 at the end of a minute.
-/
namespace QueryRows

/-- A year divisible by 4 is a leap year, unless it is divisible by 100 and not by 400. -/
def isLeapYear (year : Int) : Bool := year % 4 == 0 && (year % 100 != 0 || year % 400 == 0)

def daysInMonth (year : Int) : Nat → Nat
  | 2 => if isLeapYear year then 29 else 28
  | 4 | 6 | 9 | 11 => 30
  | _ => 31

/-- **The days of the calendar**: a year in range, one of twelve months, and a day of that month. -/
def isCalendarDay (year : Int) (month day : Nat) : Bool :=
  -262143 ≤ year && year ≤ 262142 && 1 ≤ month && month ≤ 12 && 1 ≤ day && day ≤ daysInMonth year month

/-- A day of the calendar. -/
structure Date where
  year : Int
  month : Nat
  day : Nat
  valid : isCalendarDay year month day = true
deriving DecidableEq

/-- The date with these parts, if there is one. -/
def Date.ofParts? (year : Int) (month day : Nat) : Option Date :=
  if h : isCalendarDay year month day = true then some ⟨year, month, day, h⟩ else none

/-- A time of day; from `10 ^ 9` nanoseconds on it is in the leap second after its second. -/
structure TimeOfDay where
  hour : Nat
  minute : Nat
  second : Nat
  nanosecond : Nat
  valid : hour < 24 ∧ minute < 60 ∧ second < 60 ∧ nanosecond < 2 * 10 ^ 9
deriving DecidableEq

namespace TimeOfDay

/-- **The second that is shown.** -/
def shownSecond (t : TimeOfDay) : Nat := t.second + t.nanosecond / 10 ^ 9

/-- The nanoseconds of the second that is shown. -/
def fraction (t : TimeOfDay) : Nat := t.nanosecond % 10 ^ 9

/-- The time that is shown with these parts, if there is one: second 60 is the leap second after second 59. -/
def ofParts? (hour minute second fraction : Nat) : Option TimeOfDay :=
  if h : hour < 24 ∧ minute < 60 ∧ second ≤ 60 ∧ fraction < 10 ^ 9 then
    some ⟨hour, minute, min second 59, second / 60 * 10 ^ 9 + fraction, by omega⟩
  else none

def midnight : TimeOfDay := ⟨0, 0, 0, 0, by decide⟩

end TimeOfDay

/-- A time on a date. -/
structure DateTime where
  date : Date
  time : TimeOfDay
deriving DecidableEq

def Date.atMidnight (d : Date) : DateTime := ⟨d, .midnight⟩

end QueryRows
