/-!
Days and times of the calendar, and the distances that time zones keep from the common time.
-/
namespace SourceOutline

/-- A day of the calendar. -/
structure Day where
  year : Nat
  month : Nat
  day : Nat
deriving DecidableEq, Repr, Inhabited

/-- A time of a day, with the minutes that its zone is ahead if a zone is given. -/
structure Moment where
  day : Day
  hour : Nat
  minute : Nat
  second : Nat
  microsecond : Nat
  zone : Option Int
deriving DecidableEq, Repr, Inhabited

/-- The part of a date or time that is out of its range. -/
inductive CalendarFault where
  | year
  | month
  | day
  | hour
  | minute
  | second
  /-- A zone that is a day or more off, by its minutes. -/
  | zone (minutes : Int)
deriving DecidableEq, Repr

def isLeapYear (year : Nat) : Bool := year % 4 == 0 && (year % 100 != 0 || year % 400 == 0)

def daysInMonth (year month : Nat) : Nat :=
  if month = 2 then if isLeapYear year then 29 else 28
  else if month = 4 ∨ month = 6 ∨ month = 9 ∨ month = 11 then 30
  else 31

/-- The day of a year, month and day of the month, if there is one. -/
def Day.of (year month day : Nat) : Except CalendarFault Day :=
  if year = 0 then .error .year
  else if month = 0 ∨ 12 < month then .error .month
  else if day = 0 ∨ daysInMonth year month < day then .error .day
  else .ok ⟨year, month, day⟩

/-- The time of a day, of which the finer parts have to be in their ranges too. -/
def Moment.of (day : Day) (hour minute second microsecond : Nat) (zone : Option Int) :
    Except CalendarFault Moment :=
  if 23 < hour then .error .hour
  else if 59 < minute then .error .minute
  else if 59 < second then .error .second
  else .ok ⟨day, hour, minute, second, microsecond, zone⟩

/-- A distance in days and seconds, of which only the days are ever negative. -/
def writeDistance (minutes : Int) : List Char :=
  let days := minutes.fdiv 1440
  let seconds := (minutes.fmod 1440).toNat * 60
  let dayText := "days=".toList ++ (if days < 0 then ['-'] else []) ++ Nat.toDigits 10 days.natAbs
  let secondText := "seconds=".toList ++ Nat.toDigits 10 seconds
  let parts :=
    if seconds = 0 then (if days = 0 then ['0'] else dayText)
    else if days = 0 then secondText
    else dayText ++ [',', ' '] ++ secondText
  "datetime.timedelta(".toList ++ parts ++ [')']

namespace CalendarFault

def message : CalendarFault → String
  | year => "year 0 is out of range"
  | month => "month must be in 1..12"
  | day => "day is out of range for month"
  | hour => "hour must be in 0..23"
  | minute => "minute must be in 0..59"
  | second => "second must be in 0..59"
  | zone minutes =>
    "offset must be a timedelta strictly between -timedelta(hours=24) and timedelta(hours=24), not "
      ++ String.ofList (writeDistance minutes) ++ "."

end CalendarFault

end SourceOutline
