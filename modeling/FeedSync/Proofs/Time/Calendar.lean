import FeedSync.Time.Calendar
import Mathlib.Tactic.IntervalCases

/-!
# Days and dates

Every day of the line of days has a date, and no other day has it. A day of an era is taken apart
into its century, the cycle of four years in the century, the year in the cycle and the day in the
year; the arithmetic of `Date.ofEpochDay` is then linear.

## Main statements

* `toEpochDay_ofEpochDay` — the date of a day is a date of that day only.
* `isValid_ofEpochDay` — the date of a day exists in the calendar.
* `year_ofEpochDay_le` — the years of the days that instants can have.
-/

namespace FeedSync.Date

/-! ### Days of an era -/

/-- **A day of an era**, which starts in March: its century, the cycle of four years, the year and
the day, all counted from zero. Only the last year of a cycle has a day 365, and in the last cycle
of a century only if the century is the last one. -/
structure EraDay (dayOfEra century cycle year day : Int) : Prop where
  century_le : 0 ≤ century ∧ century ≤ 3
  cycle_le : 0 ≤ cycle ∧ cycle ≤ 24
  year_le : 0 ≤ year ∧ year ≤ 3
  day_le : 0 ≤ day ∧ day ≤ 365
  leap : day = 365 → year = 3 ∧ (cycle = 24 → century = 3)
  eq : dayOfEra = 36524 * century + 1461 * cycle + 365 * year + day

/-- Every day of an era can be taken apart. -/
theorem exists_eraDay {dayOfEra : Int} (hfirst : 0 ≤ dayOfEra) (hlast : dayOfEra < 146097) :
    ∃ century cycle year day, EraDay dayOfEra century cycle year day := by
  let century := min (dayOfEra / 36524) 3
  let cycle := (dayOfEra - 36524 * century) / 1461
  let year := min ((dayOfEra - 36524 * century - 1461 * cycle) / 365) 3
  exact ⟨century, cycle, year, dayOfEra - 36524 * century - 1461 * cycle - 365 * year, by omega,
    by omega, by omega, by omega, by omega, by omega⟩

section EraDay

variable {dayOfEra century cycle year day : Int}

/-- The year of an era, as it is found from the day. -/
theorem EraDay.yearOfEra (h : EraDay dayOfEra century cycle year day) :
    (dayOfEra - dayOfEra / 1460 + dayOfEra / 36524 - dayOfEra / 146096) / 365 =
      100 * century + 4 * cycle + year := by
  obtain ⟨hcentury, hcycle, hyear, hday, hleap, heq⟩ := h
  have hcycles : dayOfEra / 1460 = 25 * century + cycle ∧ day < 365 ∨
      dayOfEra / 1460 = 25 * century + cycle + 1 ∧ 0 < day := by omega
  have hcenturies : dayOfEra / 36524 - dayOfEra / 146096 = century := by
    by_cases hlast : dayOfEra = 146096
    · subst hlast
      omega
    · have hzero : dayOfEra / 146096 = 0 := by omega
      rw [hzero]
      omega
  rcases hcycles with ⟨hcycles, hday⟩ | ⟨hcycles, hday⟩ <;> omega

/-- The days of an era before a year of it. -/
theorem EraDay.daysBefore (h : EraDay dayOfEra century cycle year day) {yearOfEra : Int}
    (hyear : yearOfEra = 100 * century + 4 * cycle + year) :
    365 * yearOfEra + yearOfEra / 4 - yearOfEra / 100 = dayOfEra - day := by
  obtain ⟨hcentury, hcycle, hyear', hday, hleap, rfl⟩ := h
  omega

/-- A year that starts in March has a day 365 only if it ends in a leap year. -/
theorem EraDay.isLeapYear (h : EraDay dayOfEra century cycle year 365) (era : Int) :
    Date.isLeapYear (100 * century + 4 * cycle + year + era * 400 + 1) = true := by
  obtain ⟨hcentury, hcycle, hyear, hday, hleap, rfl⟩ := h
  obtain ⟨rfl, hlast⟩ := hleap rfl
  simp only [Date.isLeapYear, Bool.and_eq_true, Bool.or_eq_true, beq_iff_eq, bne_iff_ne]
  omega

end EraDay

/-! ### Years that start in March -/

/-- The date of a month and a day in a year that starts in March; months are counted from zero. -/
def ofMarch (year month day : Int) : Date :=
  let civilMonth := if month < 10 then month + 3 else month - 9
  ⟨if civilMonth ≤ 2 then year + 1 else year, civilMonth.toNat, day.toNat⟩

/-- The day of a date in a year that starts in March. -/
theorem toEpochDay_ofMarch {year month day : Int} (hmarch : 0 ≤ month) (hfebruary : month ≤ 11)
    (hday : 0 ≤ day) :
    (ofMarch year month day).toEpochDay = year / 400 * 146097 +
      (365 * (year % 400) + year % 400 / 4 - year % 400 / 100 + ((153 * month + 2) / 5 + day - 1)) -
        719468 := by
  have hshown : ((day.toNat : Nat) : Int) = day := Int.toNat_of_nonneg hday
  by_cases hlate : month < 10
  · have hmonth : (((month + 3).toNat + 9) % 12 : Nat) = month := by omega
    simp only [ofMarch, toEpochDay, if_pos hlate, hmonth, hshown,
      if_neg (by omega : ¬ month + 3 ≤ 2), if_neg (by omega : ¬ (month + 3).toNat ≤ 2)]
    omega
  · have hmonth : (((month - 9).toNat + 9) % 12 : Nat) = month := by omega
    simp only [ofMarch, toEpochDay, if_neg hlate, hmonth, hshown,
      if_pos (by omega : month - 9 ≤ 2), if_pos (by omega : (month - 9).toNat ≤ 2),
      Int.add_sub_cancel]
    omega

/-- A date exists if its day comes before the next month. Only the last month of a year that starts
in March depends on the year. -/
theorem isValid_ofMarch {year month day : Int} (hmarch : 0 ≤ month) (hfebruary : month ≤ 11)
    (hfirst : 1 ≤ day) (hlast : day ≤ (153 * (month + 1) + 2) / 5 - (153 * month + 2) / 5)
    (hleap : month = 11 → day ≤ 28 ∨ day = 29 ∧ isLeapYear (year + 1) = true) :
    (ofMarch year month day).isValid = true := by
  obtain ⟨m, rfl⟩ := Int.eq_ofNat_of_zero_le hmarch
  obtain ⟨d, rfl⟩ := Int.eq_ofNat_of_zero_le (Int.le_trans (by decide) hfirst)
  have hm : m ≤ 11 := by omega
  interval_cases m
  case «11» =>
    rcases hleap rfl with hday | ⟨hday, hyear⟩
    · simp [isValid, ofMarch, daysInMonth]
      split <;> omega
    · simp [isValid, ofMarch, daysInMonth, hyear]
      omega
  all_goals
    simp [isValid, ofMarch, daysInMonth]
    omega

/-- The month of a day of a year that starts in March. -/
theorem monthFromMarch_of_day {day : Int} (hfirst : 0 ≤ day) (hlast : day ≤ 365) :
    0 ≤ (5 * day + 2) / 153 ∧ (5 * day + 2) / 153 ≤ 11 ∧
      (153 * ((5 * day + 2) / 153) + 2) / 5 ≤ day ∧
      day < (153 * ((5 * day + 2) / 153 + 1) + 2) / 5 := by
  omega

/-- Months and days have at most two digits. -/
theorem month_day_lt {d : Date} (h : d.isValid = true) : d.month < 100 ∧ d.day < 100 := by
  simp only [isValid, Bool.and_eq_true, decide_eq_true_eq] at h
  obtain ⟨⟨⟨-, hmonth⟩, -⟩, hday⟩ := h
  have hdays : daysInMonth d.year d.month ≤ 31 := by
    unfold daysInMonth
    split
    · split <;> decide
    · split <;> decide
  omega

/-! ### Dates of days -/

/-- The date of a day, from the parts of the day. -/
theorem ofEpochDay_eq (epochDay : Int) :
    ∃ century cycle year day,
      EraDay ((epochDay + 719468) % 146097) century cycle year day ∧
      ofEpochDay epochDay =
        ofMarch (100 * century + 4 * cycle + year + (epochDay + 719468) / 146097 * 400)
          ((5 * day + 2) / 153) (day - (153 * ((5 * day + 2) / 153) + 2) / 5 + 1) := by
  obtain ⟨century, cycle, year, day, h⟩ := exists_eraDay
    (Int.emod_nonneg (epochDay + 719468) (by decide : (146097 : Int) ≠ 0))
    (Int.emod_lt_of_pos _ (by decide))
  refine ⟨century, cycle, year, day, h, ?_⟩
  have hday : (epochDay + 719468) % 146097 - ((epochDay + 719468) % 146097 - day) = day := by omega
  simp only [ofEpochDay, h.yearOfEra, h.daysBefore rfl, hday, ofMarch]

/-- **The date of a day is a date of that day only.** -/
theorem toEpochDay_ofEpochDay (epochDay : Int) : (ofEpochDay epochDay).toEpochDay = epochDay := by
  obtain ⟨century, cycle, year, day, h, heq⟩ := ofEpochDay_eq epochDay
  obtain ⟨hmarch, hfebruary, hfrom, hto⟩ := monthFromMarch_of_day h.day_le.1 h.day_le.2
  have hyears := h.daysBefore rfl
  obtain ⟨hcentury, hcycle, hyear, -, -, -⟩ := h
  have hera : (100 * century + 4 * cycle + year + (epochDay + 719468) / 146097 * 400) / 400 =
      (epochDay + 719468) / 146097 := by omega
  have hyearOfEra : (100 * century + 4 * cycle + year + (epochDay + 719468) / 146097 * 400) % 400 =
      100 * century + 4 * cycle + year := by omega
  rw [heq, toEpochDay_ofMarch hmarch hfebruary (by omega), hera, hyearOfEra, hyears]
  omega

/-- **The date of a day exists in the calendar.** -/
theorem isValid_ofEpochDay (epochDay : Int) : (ofEpochDay epochDay).isValid = true := by
  obtain ⟨century, cycle, year, day, h, heq⟩ := ofEpochDay_eq epochDay
  obtain ⟨hmarch, hfebruary, hfrom, hto⟩ := monthFromMarch_of_day h.day_le.1 h.day_le.2
  rw [heq]
  refine isValid_ofMarch hmarch hfebruary (by omega) (by omega) fun hmonth => ?_
  rw [hmonth]
  by_cases hday : day = 365
  · subst hday
    exact .inr ⟨rfl, h.isLeapYear _⟩
  · have := h.day_le
    omega

/-- The years of the days between two days that start and end a year. -/
theorem year_ofEpochDay_le {epochDay : Int} (hfirst : -96465292 ≤ epochDay)
    (hlast : epochDay ≤ 95026236) :
    -262143 ≤ (ofEpochDay epochDay).year ∧ (ofEpochDay epochDay).year ≤ 262142 := by
  obtain ⟨century, cycle, year, day, h, heq⟩ := ofEpochDay_eq epochDay
  obtain ⟨hcentury, hcycle, hyear, hday, -, hparts⟩ := h
  rw [heq]
  simp only [ofMarch]
  by_cases hlate : (5 * day + 2) / 153 < 10
  · rw [if_pos hlate, if_neg (by omega)]
    omega
  · rw [if_neg hlate, if_pos (by omega)]
    have hcenturies : century = 0 ∨ century = 1 ∨ century = 2 ∨ century = 3 := by omega
    have hera : (epochDay + 719468) / 146097 < 655 ∨ (epochDay + 719468) / 146097 = 655 := by omega
    rcases hera with hera | hera
    · omega
    · rcases hcenturies with rfl | rfl | rfl | rfl <;> omega

end FeedSync.Date
