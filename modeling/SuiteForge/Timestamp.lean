/-!
Points in time as text: date and time of day in UTC, to the microsecond.

Days are counted from 1 January 1970. A calendar year is taken to start on 1 March, so the leap day
comes last in it; four centuries of such years have 146097 days.
-/

namespace SuiteForge

/-- A point in time: whole seconds since the start of 1970, and nanoseconds. From a full second on,
the nanoseconds belong to a leap second. -/
structure Timestamp where
  seconds : Int
  nanoseconds : Nat

namespace Timestamp

structure Date where
  year : Int
  month : Nat
  day : Nat
  deriving DecidableEq, Repr

def Date.ofDay (day : Int) : Date :=
  let shifted := day + 719468
  let cycle := shifted.fdiv 146097
  let inCycle := (shifted.fmod 146097).toNat
  let yearInCycle := (inCycle - inCycle / 1460 + inCycle / 36524 - inCycle / 146096) / 365
  let inYear := inCycle - (365 * yearInCycle + yearInCycle / 4 - yearInCycle / 100)
  let shiftedMonth := (5 * inYear + 2) / 153
  let month := if shiftedMonth < 10 then shiftedMonth + 3 else shiftedMonth - 9
  { year := cycle * 400 + yearInCycle + (if month ≤ 2 then 1 else 0)
    month
    day := inYear - (153 * shiftedMonth + 2) / 5 + 1 }

/-- A natural in at least `width` digits. -/
def padded (width n : Nat) : List Char :=
  let ds := Nat.toDigits 10 n
  List.replicate (width - ds.length) '0' ++ ds

/-- A year in at least four digits; years outside `0` to `9999` have a sign. -/
def yearText (year : Int) : List Char :=
  if year < 0 then '-' :: padded 4 year.natAbs
  else if 9999 < year then '+' :: padded 4 year.natAbs
  else padded 4 year.natAbs

def dateText (d : Date) : List Char :=
  yearText d.year ++ '-' :: (padded 2 d.month ++ '-' :: padded 2 d.day)

/-- The time of day; in a leap second the seconds are one more. -/
def timeText (secondOfDay nanoseconds : Nat) : List Char :=
  let second := secondOfDay % 60 + nanoseconds / 1000000000
  padded 2 (secondOfDay / 3600) ++ ':' :: (padded 2 (secondOfDay / 60 % 60) ++ ':' ::
    (padded 2 second ++ '.' :: padded 6 (nanoseconds % 1000000000 / 1000)))

/-- Date and time of day, such as `2024-05-01T12:00:00.000000Z`. -/
def text (t : Timestamp) : String :=
  let day := t.seconds.fdiv 86400
  let secondOfDay := (t.seconds.fmod 86400).toNat
  String.ofList (dateText (.ofDay day) ++ 'T' :: (timeText secondOfDay t.nanoseconds ++ ['Z']))

end Timestamp

end SuiteForge
