/-!
# Calendar dates

Dates of the proleptic Gregorian calendar, years before the first one included, and
the count of days between them.
-/

namespace CatalogSql

namespace Calendar

/-- The first year with dates. -/
def leastYear : Int := -262143

/-- The last year with dates. -/
def greatestYear : Int := 262142

/-- Whether a year has a 29th of February. -/
def isLeapYear (year : Int) : Bool :=
  year % 4 == 0 && (year % 100 != 0 || year % 400 == 0)

/-- The number of days of a month, zero for a number that is no month. -/
def daysInMonth (year : Int) (month : Nat) : Nat :=
  if month = 2 then (if isLeapYear year then 29 else 28)
  else if month = 4 ∨ month = 6 ∨ month = 9 ∨ month = 11 then 30
  else if 1 ≤ month ∧ month ≤ 12 then 31
  else 0

/-- Whether numbers name a day. -/
def IsDate (year : Int) (month day : Nat) : Prop :=
  leastYear ≤ year ∧ year ≤ greatestYear ∧ 1 ≤ day ∧ day ≤ daysInMonth year month

instance (year : Int) (month day : Nat) : Decidable (IsDate year month day) :=
  inferInstanceAs (Decidable (_ ∧ _))

end Calendar

/-- A day of the calendar. -/
structure Date where
  year : Int
  month : Nat
  day : Nat
  isDate : Calendar.IsDate year month day
deriving DecidableEq

namespace Date

@[ext] theorem ext {left right : Date} (year : left.year = right.year)
    (month : left.month = right.month) (day : left.day = right.day) : left = right := by
  cases left
  cases right
  cases year
  cases month
  cases day
  rfl

/-- The day of a year, a month and a day of the month, if there is one. -/
def of? (year : Int) (month day : Nat) : Option Date :=
  if isDate : Calendar.IsDate year month day then some ⟨year, month, day, isDate⟩ else none

/-- The number of days from the first of March of the year zero to the first of January
of 1970. -/
def epochDay : Int := 719468

/-- The day that lies a number of days after the first of January of 1970. Years are
counted from March, so that a leap day is the last of its year, in spans of 400 years
of 146097 days each. -/
def ofDayNumber? (days : Int) : Option Date :=
  let shifted := days + epochDay
  let era := shifted / 146097
  let dayOfEra := shifted % 146097
  let yearOfEra := (dayOfEra - dayOfEra / 1460 + dayOfEra / 36524 - dayOfEra / 146096) / 365
  let dayOfYear := dayOfEra - (365 * yearOfEra + yearOfEra / 4 - yearOfEra / 100)
  let monthFromMarch := (5 * dayOfYear + 2) / 153
  let day := dayOfYear - (153 * monthFromMarch + 2) / 5 + 1
  let month := if monthFromMarch < 10 then monthFromMarch + 3 else monthFromMarch - 9
  let year := yearOfEra + era * 400 + (if month ≤ 2 then 1 else 0)
  of? year month.toNat day.toNat

end Date

end CatalogSql
