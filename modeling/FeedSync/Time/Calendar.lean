/-!
# The civil calendar

Dates of the proleptic Gregorian calendar with any integer year, and their position on the line of
days, day 0 being 1 January 1970. Both directions count in eras of 400 years (146097 days) that
start on 1 March, so that the leap day is the last day of its year.
-/

namespace FeedSync

/-- A day of the civil calendar. Years run through zero into the negative. -/
structure Date where
  year : Int
  month : Nat
  day : Nat
  deriving DecidableEq, Repr, Inhabited

namespace Date

/-- Every fourth year is a leap year, of the full centuries every fourth. -/
def isLeapYear (year : Int) : Bool :=
  year % 4 == 0 && (year % 100 != 0 || year % 400 == 0)

/-- The number of days of a month; only meant for months 1 to 12. -/
def daysInMonth (year : Int) (month : Nat) : Nat :=
  if month == 2 then if isLeapYear year then 29 else 28
  else if month == 4 || month == 6 || month == 9 || month == 11 then 30
  else 31

/-- Whether the month and the day exist in the calendar. -/
def isValid (d : Date) : Bool :=
  1 ≤ d.month && d.month ≤ 12 && 1 ≤ d.day && d.day ≤ daysInMonth d.year d.month

/-- The date of the given year, month and day, if there is one. -/
def mk? (year : Int) (month day : Nat) : Option Date :=
  let d : Date := ⟨year, month, day⟩
  if d.isValid then some d else none

/-- The number of days from 1 January 1970 to a date. -/
def toEpochDay (d : Date) : Int :=
  let year := if d.month ≤ 2 then d.year - 1 else d.year
  let era := year / 400
  let yearOfEra := year % 400
  let monthFromMarch : Int := ((d.month + 9) % 12 : Nat)
  let dayOfYear := (153 * monthFromMarch + 2) / 5 + d.day - 1
  let dayOfEra := yearOfEra * 365 + yearOfEra / 4 - yearOfEra / 100 + dayOfYear
  era * 146097 + dayOfEra - 719468

/-- The date that lies the given number of days after 1 January 1970. -/
def ofEpochDay (epochDay : Int) : Date :=
  let shifted := epochDay + 719468
  let era := shifted / 146097
  let dayOfEra := shifted % 146097
  let yearOfEra := (dayOfEra - dayOfEra / 1460 + dayOfEra / 36524 - dayOfEra / 146096) / 365
  let dayOfYear := dayOfEra - (365 * yearOfEra + yearOfEra / 4 - yearOfEra / 100)
  let monthFromMarch := (5 * dayOfYear + 2) / 153
  let day := dayOfYear - (153 * monthFromMarch + 2) / 5 + 1
  let month := if monthFromMarch < 10 then monthFromMarch + 3 else monthFromMarch - 9
  let year := yearOfEra + era * 400
  ⟨if month ≤ 2 then year + 1 else year, month.toNat, day.toNat⟩

/-- The day of the week, counted from Monday as 0. -/
def weekday (d : Date) : Nat := ((d.toEpochDay + 3) % 7).toNat

example : (⟨1970, 1, 1⟩ : Date).toEpochDay = 0 := by decide
example : ofEpochDay 19782 = ⟨2024, 2, 29⟩ := by decide
example : ofEpochDay (-719529) = ⟨-1, 12, 31⟩ := by decide
example : (⟨2024, 1, 1⟩ : Date).weekday = 0 := by decide

end Date

end FeedSync
