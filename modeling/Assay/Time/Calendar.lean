/-!
# The calendar

Days are counted from 1 January 1970, forwards and backwards, in the Gregorian calendar extended to
all years. A year is reckoned from March, so that the leap day ends it; four hundred years always
have 146097 days.
-/

namespace Assay.Time

/-! ## 1. Dates -/

/-- A day of the calendar; months and days count from 1. -/
structure Date where
  year : Int
  month : Nat
  day : Nat
  deriving DecidableEq, Repr

/-- A year with a leap day. -/
def isLeap (year : Int) : Bool :=
  year % 4 = 0 && (year % 100 != 0 || year % 400 = 0)

/-- The number of days from 1 January 1970 to a date. -/
def Date.dayNumber (date : Date) : Int :=
  let year := if date.month ≤ 2 then date.year - 1 else date.year
  let era := year.fdiv 400
  let yearOfEra := year.emod 400
  let monthFromMarch : Int := (date.month + 9) % 12
  let dayOfYear := (153 * monthFromMarch + 2) / 5 + date.day - 1
  era * 146097 + yearOfEra * 365 + yearOfEra / 4 - yearOfEra / 100 + dayOfYear - 719468

/-- The date a number of days after 1 January 1970. -/
def Date.ofDayNumber (days : Int) : Date :=
  let shifted := days + 719468
  let era := shifted.fdiv 146097
  let dayOfEra := (shifted.emod 146097).toNat
  let yearOfEra := (dayOfEra - dayOfEra / 1460 + dayOfEra / 36524 - dayOfEra / 146096) / 365
  let dayOfYear := dayOfEra - (365 * yearOfEra + yearOfEra / 4 - yearOfEra / 100)
  let monthFromMarch := (5 * dayOfYear + 2) / 153
  let month := if monthFromMarch < 10 then monthFromMarch + 3 else monthFromMarch - 9
  { year := era * 400 + yearOfEra + (if month ≤ 2 then 1 else 0)
    month
    day := dayOfYear - (153 * monthFromMarch + 2) / 5 + 1 }

/-- How many days a month has. -/
def daysInMonth (year : Int) (month : Nat) : Nat :=
  if month = 2 then (if isLeap year then 29 else 28)
  else if month = 4 ∨ month = 6 ∨ month = 9 ∨ month = 11 then 30 else 31

/-! ## 2. Days within a week and a year -/

/-- The position of the day in its year, from 1. -/
def Date.ordinal (date : Date) : Nat :=
  (date.dayNumber - ({ date with month := 1, day := 1 } : Date).dayNumber + 1).toNat

/-- Days since Sunday. -/
def Date.daysFromSunday (date : Date) : Nat := ((date.dayNumber + 4).emod 7).toNat

/-- Days since Monday. -/
def Date.daysFromMonday (date : Date) : Nat := ((date.dayNumber + 3).emod 7).toNat

/-- The week of the year; week 1 starts at the first of the given weekday, `sinceStart` days ago. -/
def Date.week (date : Date) (sinceStart : Nat) : Nat := (date.ordinal + 6 - sinceStart) / 7

/-- The weeks of a year by the rule that a week belongs to the year of its Thursday. -/
def isoWeeks (year : Int) : Nat :=
  let first := (Date.mk year 1 1).daysFromMonday
  if first = 3 ∨ (first = 2 ∧ isLeap year) then 53 else 52

/-- The year and the number of the week by the rule of Thursdays. -/
def Date.isoWeek (date : Date) : Int × Nat :=
  let week := (date.ordinal + 9 - date.daysFromMonday) / 7
  if week = 0 then (date.year - 1, isoWeeks (date.year - 1))
  else if isoWeeks date.year < week then (date.year + 1, 1)
  else (date.year, week)

/-! ## 3. Names -/

/-- Weekdays, Sunday first. -/
def weekdayNames : List String :=
  ["Sunday", "Monday", "Tuesday", "Wednesday", "Thursday", "Friday", "Saturday"]

def monthNames : List String :=
  ["January", "February", "March", "April", "May", "June", "July", "August", "September",
    "October", "November", "December"]

/-- The first three letters of a name. -/
def shortName (name : String) : String := String.ofList (name.toList.take 3)

def Date.weekdayName (date : Date) : String := weekdayNames.getD date.daysFromSunday ""

def Date.monthName (date : Date) : String := monthNames.getD (date.month - 1) ""

end Assay.Time
