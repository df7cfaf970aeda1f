import VisualNovel.Instant

/-!
# Calendar dates

A point in time is written as a date of the Gregorian calendar, carried on in both directions, and
a time of day. Years have at least four digits, and a sign outside of the first ten thousand.
-/

namespace VisualNovel

/-- A day of the Gregorian calendar. -/
structure CalendarDate where
  /-- The year; the year before 1 is 0. -/
  year : Int
  /-- The month, from 1. -/
  month : Nat
  /-- The day of the month, from 1. -/
  day : Nat
  deriving DecidableEq

namespace CalendarDate

/-- The date of a day counted from the beginning of the year 1970. Years are taken to begin in
March, so that the leap day is the last one of a year, and days are counted in cycles of 400
years. -/
def ofDays (days : Int) : CalendarDate :=
  let shifted := days + 719468
  let cycle := Int.fdiv shifted 146097
  let dayOfCycle := (Int.fmod shifted 146097).toNat
  let yearOfCycle := (dayOfCycle - dayOfCycle / 1460 + dayOfCycle / 36524 - dayOfCycle / 146096) / 365
  let dayOfYear := dayOfCycle - (365 * yearOfCycle + yearOfCycle / 4 - yearOfCycle / 100)
  let shiftedMonth := (5 * dayOfYear + 2) / 153
  let month := if shiftedMonth < 10 then shiftedMonth + 3 else shiftedMonth - 9
  let year : Int := 400 * cycle + Int.ofNat yearOfCycle
  { year := if month ≤ 2 then year + 1 else year
    month := month
    day := dayOfYear - (153 * shiftedMonth + 2) / 5 + 1 }

end CalendarDate

namespace Calendar

/-- A number with zeros in front up to a width. -/
def padded (width number : Nat) : String :=
  let digits := Nat.toDigits 10 number
  String.ofList (List.replicate (width - digits.length) '0' ++ digits)

/-- The text of a year. -/
def yearText (year : Int) : String :=
  let sign := if year < 0 then "-" else if year > 9999 then "+" else ""
  sign ++ padded 4 year.natAbs

/-- The milliseconds of a day. -/
def dayLength : Int := 86400000

/-- The date and the time of day, such as `2000-02-29_235959`. -/
def stamp (time : Instant) : String :=
  let date := CalendarDate.ofDays (Int.fdiv time.milliseconds dayLength)
  let seconds := (Int.fmod time.milliseconds dayLength).toNat / 1000
  yearText date.year ++ "-" ++ padded 2 date.month ++ "-" ++ padded 2 date.day ++ "_" ++
    padded 2 (seconds / 3600) ++ padded 2 (seconds / 60 % 60) ++ padded 2 (seconds % 60)

end Calendar

end VisualNovel
