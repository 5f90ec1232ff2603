/-!
# Days and times

Days of the calendar and times of day. Two times that both tell their distance from universal time
are the same if they are the same instant.
-/

namespace ClientGen.Document

/-- A day of the calendar. -/
structure Date where
  year : Nat
  month : Nat
  day : Nat
  deriving DecidableEq, Repr, Inhabited

/-- A time of day, to the microsecond, with the offset from universal time in minutes if one is
given. -/
structure Clock where
  hour : Nat
  minute : Nat
  second : Nat
  microsecond : Nat
  offset : Option Int
  deriving DecidableEq, Repr, Inhabited

/-- The parts of a day and a time that can be out of range. -/
inductive TimePart
  | year
  | month
  | day
  | hour
  | minute
  | second
  deriving DecidableEq, Repr

/-- The number of days of a month. -/
def daysIn (year month : Nat) : Nat :=
  if month == 2 then
    if year % 4 == 0 && (year % 100 != 0 || year % 400 == 0) then 29 else 28
  else if month == 4 || month == 6 || month == 9 || month == 11 then 30
  else 31

/-- The first part by which there is no such day. -/
def Date.fault? (d : Date) : Option TimePart :=
  if d.year == 0 then some .year
  else if d.month == 0 || 12 < d.month then some .month
  else if d.day == 0 || daysIn d.year d.month < d.day then some .day
  else none

/-- The first part by which there is no such time of day. -/
def Clock.fault? (c : Clock) : Option TimePart :=
  if 24 ≤ c.hour then some .hour
  else if 60 ≤ c.minute then some .minute
  else if 60 ≤ c.second then some .second
  else none

/-- The number of a day, counted from the first day of the year 1. -/
def Date.number (d : Date) : Nat :=
  let years := d.year - 1
  let before := (List.range (d.month - 1)).foldl (fun n m => n + daysIn d.year (m + 1)) 0
  365 * years + years / 4 - years / 100 + years / 400 + before + d.day

/-- The microseconds up to a time, by universal time if its offset is known. -/
def Clock.instant (day : Date) (c : Clock) : Int :=
  let minutes : Int := ((day.number * 24 + c.hour) * 60 + c.minute : Nat)
  ((minutes - c.offset.getD 0) * 60 + c.second) * 1000000 + c.microsecond

/-- Whether two times are the same. A time whose offset is not known is none with an offset. -/
def sameTime (day : Date) (c : Clock) (day' : Date) (c' : Clock) : Bool :=
  c.offset.isSome == c'.offset.isSome && c.instant day == c'.instant day'

end ClientGen.Document
