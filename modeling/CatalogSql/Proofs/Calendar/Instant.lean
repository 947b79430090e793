import CatalogSql.Calendar.DateTime

/-!
# Instants have date times

The days after the first of January of 1970 are told apart into years and months by division.
The division is exact: every day between the first and the last year of the calendar falls on
the date that lies so many days after it, by the lengths of the years and months between, and
so every instant between them has a date time that shows it.
-/

namespace CatalogSql

namespace Calendar

theorem isLeapYear_iff (year : Int) :
    isLeapYear year = true ↔ year % 4 = 0 ∧ (year % 100 ≠ 0 ∨ year % 400 = 0) := by
  simp [isLeapYear]

/-- A day of a year that is counted from March is a day of its month. The year named is that of
the February at its end. -/
theorem isDay_of_year {year day fromMarch : Int} (first : 0 ≤ day) (last : day ≤ 365)
    (leap : day = 365 → isLeapYear year) (isMonth : fromMarch = (5 * day + 2) / 153) :
    1 ≤ (day - (153 * fromMarch + 2) / 5 + 1).toNat ∧
      (day - (153 * fromMarch + 2) / 5 + 1).toNat ≤
        daysInMonth year (if fromMarch < 10 then fromMarch + 3 else fromMarch - 9).toNat := by
  have months : fromMarch = 0 ∨ fromMarch = 1 ∨ fromMarch = 2 ∨ fromMarch = 3 ∨ fromMarch = 4 ∨
      fromMarch = 5 ∨ fromMarch = 6 ∨ fromMarch = 7 ∨ fromMarch = 8 ∨ fromMarch = 9 ∨
      fromMarch = 10 ∨ fromMarch = 11 := by omega
  rcases months with rfl | rfl | rfl | rfl | rfl | rfl | rfl | rfl | rfl | rfl | rfl | rfl
  case inr.inr.inr.inr.inr.inr.inr.inr.inr.inr.inr =>
    by_cases isLeap : isLeapYear year
    · simp [daysInMonth, isLeap]
      omega
    · have short : day ≠ 365 := fun isLast => isLeap (leap isLast)
      simp [daysInMonth, isLeap]
      omega
  all_goals
    simp [daysInMonth]
    omega

/-! ## Days of the calendar -/

/-- The days of the calendar before a year, counted from the first of January of the year one. -/
def daysBeforeYear (year : Int) : Int :=
  365 * (year - 1) + (year - 1) / 4 - (year - 1) / 100 + (year - 1) / 400

/-- The days of a year before one of its months. -/
def daysBeforeMonth (year : Int) : Nat → Nat
  | 0 => 0
  | month + 1 => daysBeforeMonth year month + daysInMonth year month

/-- A year has 365 days, and one more when it is a leap year. -/
theorem daysBeforeYear_succ (year : Int) :
    daysBeforeYear (year + 1) = daysBeforeYear year + if isLeapYear year then 366 else 365 := by
  unfold daysBeforeYear
  by_cases isLeap : isLeapYear year
  · rw [if_pos isLeap]
    rw [isLeapYear_iff] at isLeap
    omega
  · rw [if_neg isLeap]
    rw [isLeapYear_iff] at isLeap
    omega

/-- The months from March on begin 306 days before the end of their year, and are told apart by a
fifth of 153 days. -/
theorem daysBeforeMonth_fromMarch (year : Int) (fromMarch : Nat) (notAfter : fromMarch < 10) :
    (daysBeforeMonth year (fromMarch + 3) : Int) =
      (if isLeapYear year then 366 else 365) - 306 + (153 * fromMarch + 2) / 5 := by
  have months : fromMarch = 0 ∨ fromMarch = 1 ∨ fromMarch = 2 ∨ fromMarch = 3 ∨ fromMarch = 4 ∨
      fromMarch = 5 ∨ fromMarch = 6 ∨ fromMarch = 7 ∨ fromMarch = 8 ∨ fromMarch = 9 := by omega
  rcases months with rfl | rfl | rfl | rfl | rfl | rfl | rfl | rfl | rfl | rfl
  all_goals
    by_cases isLeap : isLeapYear year
    all_goals simp [daysBeforeMonth, daysInMonth, isLeap]

end Calendar

namespace Date

open Calendar

/-! ## Spans of 400 years -/

/-- The days of a span of 400 years before one of its years. -/
def daysBefore (year : Int) : Int := 365 * year + year / 4 - year / 100

/-- The year of a day of a span of 400 years. -/
def yearOfEra (day : Int) : Int := (day - day / 1460 + day / 36524 - day / 146096) / 365

/-- The year of a day of a century. The leap days before it are counted by the days of four common
years, which are the same when whole years are left. -/
theorem year_of_century {day century fours year : Int} (first : 0 ≤ day) (last : day < 36524)
    (notBefore : 0 ≤ century) (notAfter : century ≤ 3)
    (areFours : fours = (day + 24 * century) / 1460) (isYear : year = (day - fours) / 365) :
    0 ≤ year ∧ year < 100 ∧ 365 * year + year / 4 ≤ day ∧
      day < 365 * (year + 1) + (year + 1) / 4 := by
  have below : year / 4 ≤ fours := by omega
  have above : fours ≤ (year + 1) / 4 := by omega
  omega

/-- A day belongs to the year whose first day is the last one not after it. -/
theorem daysBefore_yearOfEra {day : Int} (first : 0 ≤ day) (last : day < 146097) :
    0 ≤ yearOfEra day ∧ yearOfEra day < 400 ∧ daysBefore (yearOfEra day) ≤ day ∧
      (yearOfEra day < 399 → day < daysBefore (yearOfEra day + 1)) := by
  by_cases isLast : day = 146096
  · subst isLast
    decide
  · obtain ⟨century, isCentury⟩ : ∃ century, century = day / 36524 := ⟨_, rfl⟩
    obtain ⟨fours, areFours⟩ : ∃ fours, fours = day / 1460 - 25 * century := ⟨_, rfl⟩
    obtain ⟨year, isYear⟩ : ∃ year, year = (day - 36524 * century - fours) / 365 := ⟨_, rfl⟩
    have ofCentury := @year_of_century (day - 36524 * century) century fours year (by omega)
      (by omega) (by omega) (by omega) (by omega) isYear
    have isYearOfEra : yearOfEra day = 100 * century + year := by
      unfold yearOfEra
      omega
    unfold daysBefore
    rw [isYearOfEra]
    omega

/-- The day of its year of a day of a span of 400 years. -/
def dayOfYear (day : Int) : Int := day - daysBefore (yearOfEra day)

/-- A year has 365 days, and a 366th one when the February at its end has a leap day. -/
theorem dayOfYear_le {day : Int} (first : 0 ≤ day) (last : day < 146097) :
    0 ≤ dayOfYear day ∧ dayOfYear day ≤ 365 ∧
      (dayOfYear day = 365 → (yearOfEra day + 1) % 4 = 0 ∧
        ((yearOfEra day + 1) % 100 ≠ 0 ∨ (yearOfEra day + 1) % 400 = 0)) := by
  obtain ⟨notNegative, small, notBefore, notAfter⟩ := daysBefore_yearOfEra first last
  unfold dayOfYear
  generalize yearOfEra day = year at *
  by_cases isEnd : year = 399
  · subst isEnd
    have isDaysBefore : daysBefore 399 = 145731 := rfl
    omega
  · have before := notAfter (by omega)
    unfold daysBefore at *
    have quarter : (year + 1) / 4 = year / 4 ∨
        (year + 1) / 4 = year / 4 + 1 ∧ (year + 1) % 4 = 0 := by omega
    have century : (year + 1) / 100 = year / 100 ∨
        (year + 1) / 100 = year / 100 + 1 ∧ (year + 1) % 100 = 0 := by omega
    omega

/-! ## Days and instants -/

/-- The year of the calendar of a day of a span of 400 years. January and February belong to the
year after the one that their days are counted in. -/
def calendarYear (era day : Int) : Int :=
  yearOfEra day + era * 400 + if 306 ≤ dayOfYear day then 1 else 0

/-- A day number is divided into its span of 400 years, its year and its month. -/
theorem ofDayNumber?_eq {days era day fromMarch : Int} (isEra : era = (days + epochDay) / 146097)
    (isDay : day = (days + epochDay) % 146097) (isMonth : fromMarch = (5 * dayOfYear day + 2) / 153) :
    ofDayNumber? days = of? (calendarYear era day)
      (if fromMarch < 10 then fromMarch + 3 else fromMarch - 9).toNat
      (dayOfYear day - (153 * fromMarch + 2) / 5 + 1).toNat := by
  obtain ⟨first, last, -⟩ := @dayOfYear_le day (by omega) (by omega)
  have early : (if (if fromMarch < 10 then fromMarch + 3 else fromMarch - 9) ≤ 2 then 1 else 0) =
      (if 306 ≤ dayOfYear day then 1 else 0 : Int) := by
    by_cases early : fromMarch < 10
    · rw [if_pos early, if_neg (by omega), if_neg (by omega)]
    · rw [if_neg early, if_pos (by omega), if_pos (by omega)]
  rw [calendarYear, ← early]
  subst isMonth isDay isEra
  rfl

/-- The first and the last day of the calendar bound its years. -/
theorem calendarYear_bounds {days era day : Int} (first : -96465292 ≤ days)
    (last : days ≤ 95026236) (isEra : era = (days + epochDay) / 146097)
    (isDay : day = (days + epochDay) % 146097) :
    leastYear ≤ calendarYear era day ∧ calendarYear era day ≤ greatestYear := by
  obtain ⟨notNegative, small, notBefore, notAfter⟩ :=
    @daysBefore_yearOfEra day (by omega) (by omega)
  unfold calendarYear dayOfYear leastYear greatestYear
  unfold epochDay at isEra isDay
  generalize yearOfEra day = year at *
  unfold daysBefore at *
  have spans : -656 ≤ era ∧ era ≤ 655 := by omega
  by_cases isFirst : era = -656
  · subst isFirst
    have fromYear : 256 ≤ year := by omega
    omega
  by_cases isLast : era = 655
  · subst isLast
    have toYear : year ≤ 142 := by omega
    omega
  omega

/-- Every day between the first and the last one of the calendar falls on a date. -/
theorem exists_ofDayNumber? {days : Int} (first : -96465292 ≤ days) (last : days ≤ 95026236) :
    ∃ date, ofDayNumber? days = some date := by
  obtain ⟨era, isEra⟩ : ∃ era, era = (days + epochDay) / 146097 := ⟨_, rfl⟩
  obtain ⟨day, isDay⟩ : ∃ day, day = (days + epochDay) % 146097 := ⟨_, rfl⟩
  obtain ⟨fromYear, toYear⟩ := calendarYear_bounds first last isEra isDay
  obtain ⟨fromDay, toDay, isLong⟩ := @dayOfYear_le day (by omega) (by omega)
  have isLeap : dayOfYear day = 365 → isLeapYear (calendarYear era day) := by
    intro isLast
    have long := isLong isLast
    rw [isLeapYear_iff, calendarYear, if_pos (by omega)]
    omega
  have isDate := isDay_of_year fromDay toDay isLeap rfl
  exact ⟨_, (ofDayNumber?_eq isEra isDay rfl).trans (dif_pos ⟨fromYear, toYear, isDate⟩)⟩

/-! ## Day numbers -/

/-- The days from the first of January of 1970 to a date. -/
def dayNumber (date : Date) : Int :=
  daysBeforeYear date.year + daysBeforeMonth date.year date.month + date.day - 719163

theorem of?_eq_some {year : Int} {month day : Nat} {date : Date}
    (isDate : of? year month day = some date) :
    date.year = year ∧ date.month = month ∧ date.day = day := by
  unfold of? at isDate
  split at isDate
  · cases isDate
    exact ⟨rfl, rfl, rfl⟩
  · cases isDate

/-- A year of a span of 400 years, counted from March, ends with the February of the next one. -/
theorem daysBeforeYear_era (era : Int) {year : Int} (notBefore : 0 ≤ year) (notAfter : year < 400) :
    daysBeforeYear (year + era * 400 + 1) = era * 146097 + daysBefore year := by
  unfold daysBeforeYear daysBefore
  omega

/-- The date of a day number lies that many days after the first of January of 1970. -/
theorem dayNumber_of_ofDayNumber? {days : Int} {date : Date}
    (isDate : ofDayNumber? days = some date) : date.dayNumber = days := by
  obtain ⟨era, isEra⟩ : ∃ era, era = (days + epochDay) / 146097 := ⟨_, rfl⟩
  obtain ⟨day, isDay⟩ : ∃ day, day = (days + epochDay) % 146097 := ⟨_, rfl⟩
  obtain ⟨fromMarch, isMonth⟩ : ∃ fromMarch, fromMarch = (5 * dayOfYear day + 2) / 153 := ⟨_, rfl⟩
  rw [ofDayNumber?_eq isEra isDay isMonth] at isDate
  obtain ⟨isYear, sameMonth, sameDay⟩ := of?_eq_some isDate
  obtain ⟨fromDay, toDay, -⟩ := @dayOfYear_le day (by omega) (by omega)
  obtain ⟨fromYear, toYear, -⟩ := @daysBefore_yearOfEra day (by omega) (by omega)
  have ofEra := daysBeforeYear_era era fromYear toYear
  have isDayOfYear : day = daysBefore (yearOfEra day) + dayOfYear day := by
    unfold dayOfYear
    omega
  have isSum : days = era * 146097 + day - 719468 := by
    unfold epochDay at isEra isDay
    omega
  rw [dayNumber, isYear, sameMonth, sameDay, calendarYear]
  by_cases fromSpring : fromMarch < 10
  · obtain ⟨months, rfl⟩ : ∃ months : Nat, fromMarch = months := Int.eq_ofNat_of_zero_le (by omega)
    have isMonthNumber : ((months : Int) + 3).toNat = months + 3 := by omega
    have before := daysBeforeMonth_fromMarch (yearOfEra day + era * 400) months (by omega)
    rw [daysBeforeYear_succ] at ofEra
    rw [if_pos fromSpring, if_neg (by omega), isMonthNumber, Int.add_zero, before]
    omega
  · -- January and February begin the next year.
    rw [if_neg fromSpring, if_pos (by omega), ofEra]
    obtain rfl | rfl : fromMarch = 10 ∨ fromMarch = 11 := by omega
    · have january : daysBeforeMonth (yearOfEra day + era * 400 + 1) (10 - 9 : Int).toNat = 0 := by
        simp [daysBeforeMonth, daysInMonth]
      rw [january]
      omega
    · have february : daysBeforeMonth (yearOfEra day + era * 400 + 1) (11 - 9 : Int).toNat = 31 := by
        simp [daysBeforeMonth, daysInMonth]
      rw [february]
      omega

end Date

/-- Seconds since the start of 1970 and nanoseconds that make up an instant between the first and
the last second of the calendar. A leap second takes the nanoseconds past a second, after the
last second of a minute. -/
structure Calendar.IsInstant (seconds : Int) (nanos : Nat) : Prop where
  notBefore : -8334601228800 ≤ seconds
  notAfter : seconds ≤ 8210266876799
  ofSecond : nanos < nanosInSecond ∨ nanos < 2 * nanosInSecond ∧ seconds % 60 = 59

/-- Every instant has a date time. -/
theorem DateTime.exists_ofInstant? {seconds : Int} {nanos : Nat}
    (isInstant : Calendar.IsInstant seconds nanos) :
    ∃ moment, ofInstant? seconds nanos = some moment := by
  obtain ⟨notBefore, notAfter, ofSecond⟩ := isInstant
  obtain ⟨date, isDate⟩ := @Date.exists_ofDayNumber? (seconds / 86400) (by omega) (by omega)
  unfold ofInstant?
  simp only [isDate]
  unfold Calendar.nanosInSecond at ofSecond ⊢
  rw [if_neg (by omega)]
  simp only [of?, Date.of?, dif_pos date.isDate]
  refine ⟨_, dif_pos ⟨by omega, by omega, ?_, Nat.mod_lt _ (by decide)⟩⟩
  by_cases leap : 1000000000 ≤ nanos
  · rw [if_pos leap]
    omega
  · rw [if_neg leap]
    omega

namespace DateTime

/-- A date time shows an instant as the zero meridian has it: its days, hours, minutes and seconds
make up the seconds since the start of 1970, and a leap second is the sixtieth one of its
minute. -/
structure Shows (moment : DateTime) (seconds : Int) (nanos : Nat) : Prop where
  seconds : moment.date.dayNumber * 86400 + moment.hour * 3600 + moment.minute * 60 +
    min moment.second 59 = seconds
  leap : moment.second = 60 ↔ Calendar.nanosInSecond ≤ nanos
  nanos : moment.nanos = nanos % Calendar.nanosInSecond

theorem of?_eq_some {year : Int} {month day hour minute second nanos : Nat} {moment : DateTime}
    (named : of? year month day hour minute second nanos = some moment) :
    Date.of? year month day = some moment.date ∧ moment.hour = hour ∧ moment.minute = minute ∧
      moment.second = second ∧ moment.nanos = nanos := by
  unfold of? at named
  split at named
  · rename_i date isDate
    split at named
    · cases named
      exact ⟨isDate, rfl, rfl, rfl, rfl⟩
    · cases named
  · cases named

/-- The date time of an instant shows it. -/
theorem shows_of_ofInstant? {seconds : Int} {nanos : Nat} {moment : DateTime}
    (ofInstant : ofInstant? seconds nanos = some moment) : moment.Shows seconds nanos := by
  unfold ofInstant? at ofInstant
  simp only at ofInstant
  split at ofInstant
  · cases ofInstant
  · rename_i ofMinute
    split at ofInstant
    · rename_i date isDate
      obtain ⟨sameDate, hour, minute, second, isNanos⟩ := of?_eq_some ofInstant
      rw [Date.of?, dif_pos date.isDate] at sameDate
      have sameDay : moment.date = date := (Option.some.inj sameDate).symm
      have days := Date.dayNumber_of_ofDayNumber? isDate
      rw [← sameDay] at days
      by_cases leap : Calendar.nanosInSecond ≤ nanos
      · rw [if_pos leap] at second
        refine ⟨?_, iff_of_true ?_ leap, isNanos⟩
        all_goals omega
      · rw [if_neg leap] at second
        refine ⟨?_, iff_of_false ?_ leap, isNanos⟩
        all_goals omega
    · cases ofInstant

end DateTime

end CatalogSql
