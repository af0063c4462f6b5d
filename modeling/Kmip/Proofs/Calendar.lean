import Kmip.DateTime
import Mathlib.Order.SuccPred.LinearLocallyFinite
import Mathlib.Tactic.IntervalCases
import Mathlib.Tactic.Lemma

/-!
# Days of the calendar

The day that comes so many days after the first of January 1970 is a day of the calendar
(`Date.isValid_ofDays`), and as many days after it (`Date.toDays_ofDays`). In a cycle of 400 years,
counted from March, a day belongs to the year between whose first day and the next one it lies; that
it does so is checked for the ends of all years, and holds in between because the formula for the year
does not decrease.
-/

namespace Kmip.Date

/-- The year of a cycle to which a day of the cycle belongs. -/
def yearOfDay (day : Int) : Int :=
  (day - day / 1460 + day / 36524 - day / 146096) / 365

/-- The first day of a year of a cycle. -/
def firstDay (year : Int) : Int :=
  365 * year + year / 4 - year / 100 + year / 400

/-- A later day belongs to no earlier year. -/
lemma yearOfDay_le {early late : Int} (order : early ≤ late) :
    yearOfDay early ≤ yearOfDay late := by
  have monotone : Monotone yearOfDay := by
    refine monotone_int_of_le_succ fun day => Int.ediv_le_ediv (by decide) ?_
    omega
  exact monotone order

/-- A year of the cycle takes the days from its first one to the last one before the next year. -/
lemma yearOfDay_ends (year : Fin 400) :
    yearOfDay (firstDay year) = year ∧ yearOfDay (firstDay (year + 1) - 1) = year := by
  revert year
  decide +kernel

lemma yearOfDay_bounds {day : Int} (low : 0 ≤ day) (high : day < 146097) :
    0 ≤ yearOfDay day ∧ yearOfDay day < 400 := by
  have first := yearOfDay_le low
  have last := yearOfDay_le (Int.le_sub_one_of_lt high)
  have ends : yearOfDay 0 = 0 ∧ yearOfDay (146097 - 1) = 399 := by decide +kernel
  omega

/-- A day lies between the first day of its year and that of the next one. -/
lemma firstDay_yearOfDay {day : Int} (low : 0 ≤ day) (high : day < 146097) :
    firstDay (yearOfDay day) ≤ day ∧ day < firstDay (yearOfDay day + 1) := by
  obtain ⟨least, most⟩ := yearOfDay_bounds low high
  have ends (year : Int) (from_zero : 0 ≤ year) (below : year < 400) :
      yearOfDay (firstDay year) = year ∧ yearOfDay (firstDay (year + 1) - 1) = year := by
    have checked := yearOfDay_ends ⟨year.toNat, by omega⟩
    simpa [Int.toNat_of_nonneg from_zero] using checked
  constructor
  · by_contra before
    -- the last day of the year before comes no earlier, so that the year would be that one
    have earlier := yearOfDay_le (Int.le_sub_one_of_lt (Int.not_le.1 before))
    by_cases zero : yearOfDay day = 0
    · rw [zero] at before
      exact before low
    · have previous := (ends (yearOfDay day - 1) (by omega) (by omega)).2
      rw [Int.sub_add_cancel] at previous
      omega
  · by_contra behind
    -- the first day of the next year comes no later, so that the year would be that one
    have later := yearOfDay_le (Int.not_lt.1 behind)
    by_cases last : yearOfDay day = 399
    · rw [last] at behind
      exact behind high
    · have next := (ends (yearOfDay day + 1) (by omega) (by omega)).1
      omega

/-- The parts that a day falls into: the year of its cycle, counted from March, and the month and the
day of that year. -/
structure Falls (days cycle year month day : Int) : Prop where
  whole : days + 719468 =
    cycle * 146097 + (365 * year + year / 4 - year / 100) + ((153 * month + 2) / 5 + day - 1)
  year_low : 0 ≤ year
  year_high : year < 400
  month_low : 0 ≤ month
  month_high : month ≤ 11
  day_low : 1 ≤ day
  /-- The day lies before the next month, and before the next year. -/
  day_high : (153 * month + 2) / 5 + day - 1 < (153 * (month + 1) + 2) / 5
  last : (153 * month + 2) / 5 + day - 1 < firstDay (year + 1) - firstDay year

/-- Every day falls into such parts. -/
lemma exists_falls (days : Int) : ∃ cycle year month day, Falls days cycle year month day ∧
    ofDays days =
      ⟨if 10 ≤ month then year + cycle * 400 + 1 else year + cycle * 400,
        (if month < 10 then month + 3 else month - 9).toNat, day.toNat⟩ := by
  let dayOfCycle := (days + 719468) % 146097
  have low : 0 ≤ dayOfCycle := Int.emod_nonneg _ (by decide)
  have high : dayOfCycle < 146097 := Int.emod_lt_of_pos _ (by decide)
  let year := yearOfDay dayOfCycle
  obtain ⟨least, most⟩ : 0 ≤ year ∧ year < 400 := yearOfDay_bounds low high
  obtain ⟨first, next⟩ : firstDay year ≤ dayOfCycle ∧ dayOfCycle < firstDay (year + 1) :=
    firstDay_yearOfDay low high
  let dayOfYear := dayOfCycle - (365 * year + year / 4 - year / 100)
  have start : firstDay year = dayOfCycle - dayOfYear := by
    simp only [firstDay, dayOfYear]
    omega
  have long : firstDay (year + 1) ≤ firstDay year + 366 := by
    simp only [firstDay]
    omega
  let month := (5 * dayOfYear + 2) / 153
  let day := dayOfYear - (153 * month + 2) / 5 + 1
  refine ⟨(days + 719468) / 146097, year, month, day, ?_, ?_⟩
  · have whole : days + 719468 = (days + 719468) / 146097 * 146097 + dayOfCycle :=
      (Int.ediv_mul_add_emod _ _).symm
    have of_year : dayOfYear = dayOfCycle - (365 * year + year / 4 - year / 100) := rfl
    have of_month : month = (5 * dayOfYear + 2) / 153 := rfl
    have of_day : day = dayOfYear - (153 * month + 2) / 5 + 1 := rfl
    constructor <;> omega
  · simp only [ofDays, yearOfDay, day, month, dayOfYear, year, dayOfCycle]

/-- The calendar has twelve months. -/
lemma IsValid.month_le {date : Date} (valid : date.IsValid) : date.month ≤ 12 := by
  have some := valid.1.trans valid.2
  unfold monthLength at some
  grind

/-- A month has 31 days at most. -/
lemma IsValid.day_le {date : Date} (valid : date.IsValid) : date.day ≤ 31 := by
  have within := valid.2
  unfold monthLength at within
  grind

/-- The first day of the year 0 and the last day of the year 9999 enclose all days in between. -/
lemma IsValid.toDays_bounds {date : Date} (valid : date.IsValid) (low : 0 ≤ date.year)
    (high : date.year ≤ 9999) : -719528 ≤ date.toDays ∧ date.toDays ≤ 2932896 := by
  have first := valid.1
  have last := valid.day_le
  have months := valid.month_le
  have positive : 1 ≤ date.month := by
    by_contra none
    have zero : date.month = 0 := by omega
    have length := valid.2
    rw [zero] at length
    simp [monthLength] at length
    omega
  unfold toDays
  generalize date.month = month at *
  generalize date.day = day at *
  generalize date.year = year at *
  interval_cases month <;> simp <;> omega

/-- A year of a cycle has 366 days exactly if the calendar year in which it ends is a leap year. -/
lemma isLeap_iff (cycle : Int) {year : Int} (low : 0 ≤ year) (high : year < 400) :
    isLeap (year + cycle * 400 + 1) ↔ firstDay (year + 1) - firstDay year = 366 := by
  simp only [isLeap, firstDay, decide_eq_true_eq]
  omega

/-- The day that comes so many days after the first of January 1970 is a day of the calendar. -/
lemma isValid_ofDays (days : Int) : (ofDays days).IsValid := by
  obtain ⟨cycle, year, month, day, falls, date⟩ := exists_falls days
  obtain ⟨-, year_low, year_high, month_low, month_high, day_low, day_high, last⟩ := falls
  have leap := isLeap_iff cycle year_low year_high
  have long : firstDay (year + 1) - firstDay year ≤ 366 := by
    simp only [firstDay]
    omega
  rw [date, IsValid]
  refine ⟨by simpa using by omega, ?_⟩
  by_cases february : month = 11
  · subst february
    have length : monthLength (year + cycle * 400 + 1) 2 =
        if firstDay (year + 1) - firstDay year = 366 then 29 else 28 := by
      simp only [monthLength, leap, if_true]
    change day.toNat ≤ monthLength (year + cycle * 400 + 1) 2
    rw [length]
    split <;> omega
  · interval_cases month <;> simp [monthLength] <;> omega

/-- It comes as many days after the first of January 1970. -/
lemma toDays_ofDays (days : Int) : (ofDays days).toDays = days := by
  obtain ⟨cycle, year, month, day, falls, date⟩ := exists_falls days
  obtain ⟨whole, year_low, year_high, month_low, month_high, day_low, -, -⟩ := falls
  rw [date, toDays]
  interval_cases month <;> simp <;> omega

end Kmip.Date
