import CatalogSql.Calendar.Date

/-!
# Date times

A wall-clock date and time without a time zone. The sixtieth second is a leap second,
which any minute may have.
-/

namespace CatalogSql

namespace Calendar

/-- The number of nanoseconds in a second. -/
def nanosInSecond : Nat := 1000000000

/-- Whether numbers name a time of a day. -/
def IsTime (hour minute second nanos : Nat) : Prop :=
  hour < 24 ∧ minute < 60 ∧ second ≤ 60 ∧ nanos < nanosInSecond

instance (hour minute second nanos : Nat) : Decidable (IsTime hour minute second nanos) :=
  inferInstanceAs (Decidable (_ ∧ _))

end Calendar

/-- A date and a time of the day. -/
structure DateTime where
  date : Date
  hour : Nat
  minute : Nat
  second : Nat
  nanos : Nat
  isTime : Calendar.IsTime hour minute second nanos
deriving DecidableEq

namespace DateTime

@[ext] theorem ext {left right : DateTime} (date : left.date = right.date)
    (hour : left.hour = right.hour) (minute : left.minute = right.minute)
    (second : left.second = right.second) (nanos : left.nanos = right.nanos) :
    left = right := by
  cases left
  cases right
  cases date
  cases hour
  cases minute
  cases second
  cases nanos
  rfl

/-- The date and time of numbers, if they name one. -/
def of? (year : Int) (month day hour minute second nanos : Nat) : Option DateTime :=
  match Date.of? year month day with
  | some date =>
      if isTime : Calendar.IsTime hour minute second nanos then
        some ⟨date, hour, minute, second, nanos, isTime⟩
      else none
  | none => none

/-- The date and time, in the zone of the zero meridian, of an instant: seconds since the
start of 1970 and nanoseconds. More than a second of nanoseconds means a leap second,
which has to follow the last second of a minute. -/
def ofInstant? (seconds : Int) (nanos : Nat) : Option DateTime :=
  let timeOfDay := (seconds % 86400).toNat
  let leap := Calendar.nanosInSecond ≤ nanos
  if leap ∧ (2 * Calendar.nanosInSecond ≤ nanos ∨ timeOfDay % 60 ≠ 59) then none
  else
    match Date.ofDayNumber? (seconds / 86400) with
    | some date =>
        of? date.year date.month date.day (timeOfDay / 3600) (timeOfDay / 60 % 60)
          (timeOfDay % 60 + if leap then 1 else 0) (nanos % Calendar.nanosInSecond)
    | none => none

end DateTime

end CatalogSql
