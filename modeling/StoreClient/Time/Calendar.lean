-- Dates of the Gregorian calendar, carried back and forward without end, and the number
-- of each day counted from the first day of 1970.

namespace StoreClient

/-- A day of the calendar. Year 0 comes before year 1. -/
structure Date where
  year : Int
  month : Nat
  day : Nat
deriving DecidableEq, Repr, Inhabited

namespace Date

def isLeapYear (year : Int) : Bool := year % 4 = 0 && (year % 100 ≠ 0 || year % 400 = 0)

def daysInMonth (year : Int) : Nat → Nat
  | 2 => if isLeapYear year then 29 else 28
  | 4 | 6 | 9 | 11 => 30
  | _ => 31

/-- The first year that dates are kept for. -/
def firstYear : Int := -262143

/-- The last year that dates are kept for. -/
def lastYear : Int := 262142

def isValid (d : Date) : Bool :=
  firstYear ≤ d.year && d.year ≤ lastYear && 1 ≤ d.month && d.month ≤ 12 && 1 ≤ d.day &&
    d.day ≤ daysInMonth d.year d.month

/-! ## Day numbers

Years are counted from March, so that the leap day is the last day of its year, and in runs of
400 years, all of which have the same number of days. -/

/-- The days from the first of March to a day, the month counted from March as 0. -/
def dayOfMarchYear (month day : Nat) : Nat := (153 * month + 2) / 5 + (day - 1)

/-- The number of a day; the first day of 1970 is day 0. -/
def dayNumber (d : Date) : Int :=
  let year := if d.month ≤ 2 then d.year - 1 else d.year
  let month := if d.month ≤ 2 then d.month + 9 else d.month - 3
  let run := year / 400
  let yearOfRun := year % 400
  let dayOfRun := yearOfRun * 365 + yearOfRun / 4 - yearOfRun / 100 + dayOfMarchYear month d.day
  run * 146097 + dayOfRun - 719468

/-- The day of a number. -/
def ofDayNumber (n : Int) : Date :=
  let n := n + 719468
  let run := n / 146097
  let dayOfRun := (n % 146097).toNat
  let yearOfRun :=
    (dayOfRun - dayOfRun / 1460 + dayOfRun / 36524 - dayOfRun / 146096) / 365
  let dayOfYear := dayOfRun - (365 * yearOfRun + yearOfRun / 4 - yearOfRun / 100)
  let month := (5 * dayOfYear + 2) / 153
  let day := dayOfYear - (153 * month + 2) / 5 + 1
  let month := if month < 10 then month + 3 else month - 9
  let year := run * 400 + yearOfRun
  ⟨if month ≤ 2 then year + 1 else year, month, day⟩

end Date

end StoreClient
