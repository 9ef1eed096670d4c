import Columnar.Time.Calendar
/-!
# Dates and day numbers

A date is recovered from its day number (`ofDayNumber_dayNumber`). Counted from March, the day of a
year tells month and day by itself, and the day of an era tells the year: what the division by 365
gives too much or too little, the leap days before it make up for (`yearOfEra_eq`).
-/

set_option autoImplicit false

namespace Columnar.Time

/-- The year of a day in a cycle of 400 years. -/
theorem yearOfEra_eq {year day dayOfEra : Int} (low : 0 ≤ year) (high : year < 400)
    (first : 0 ≤ day) (last : day ≤ 365)
    (leap : day = 365 → (year + 1) % 4 = 0 ∧ ((year + 1) % 100 ≠ 0 ∨ (year + 1) % 400 = 0))
    (counted : dayOfEra = year * 365 + year / 4 - year / 100 + day) :
    (dayOfEra - dayOfEra / 1460 + dayOfEra / 36524 - dayOfEra / 146096) / 365 = year := by
  have century : dayOfEra / 36524 - dayOfEra / 146096 = year / 100 := by
    obtain whole | inside : dayOfEra = 146096 ∨ dayOfEra < 146096 := by omega
    · omega
    · have split : dayOfEra =
          36524 * (year / 100) + (365 * (year % 100) + year % 100 / 4 + day) := by omega
      have less : 365 * (year % 100) + year % 100 / 4 + day < 36524 := by
        apply Int.not_le.mp
        intro more
        have late : day = 365 := by omega
        have leapYear := leap late
        omega
      omega
  have split : dayOfEra =
      1460 * (year / 4) + (365 * (year % 4) + year / 4 - year / 100 + day) := by omega
  -- A fourth leap day is counted before the year ends, on its last day at the latest.
  have lower : day = 365 → year / 4 + 1 ≤ dayOfEra / 1460 := by
    intro late
    have leapYear := leap late
    omega
  have upper : year / 4 < dayOfEra / 1460 → 1 ≤ day := by omega
  omega

/-- No month has more than 31 days. -/
theorem daysInMonth_le (year : Int) (month : Nat) : daysInMonth year month ≤ 31 := by
  unfold daysInMonth
  split
  · split <;> decide
  all_goals decide

/-- The day of a year counted from March, and what it tells. -/
theorem dayOfYear_spec {year : Int} {month day : Nat} (valid : (Date.mk year month day).isValid) :
    let marchYear := if month ≤ 2 then year - 1 else year
    let marchMonth : Int := if month ≤ 2 then month + 9 else month - 3
    let dayOfYear := (153 * marchMonth + 2) / 5 + day - 1
    0 ≤ dayOfYear ∧ dayOfYear ≤ 365 ∧ (5 * dayOfYear + 2) / 153 = marchMonth ∧
      (dayOfYear = 365 → (marchYear + 1) % 4 = 0 ∧
        ((marchYear + 1) % 100 ≠ 0 ∨ (marchYear + 1) % 400 = 0)) := by
  simp only [Date.isValid, Bool.and_eq_true, decide_eq_true_eq] at valid
  obtain ⟨⟨⟨january, december⟩, first⟩, last⟩ := valid
  have months : month = 1 ∨ month = 2 ∨ month = 3 ∨ month = 4 ∨ month = 5 ∨ month = 6 ∨ month = 7 ∨
      month = 8 ∨ month = 9 ∨ month = 10 ∨ month = 11 ∨ month = 12 := by omega
  rcases months with rfl | rfl | rfl | rfl | rfl | rfl | rfl | rfl | rfl | rfl | rfl | rfl
  case inr.inl =>
    simp only [daysInMonth, isLeapYear] at last
    simp at last ⊢
    split at last
    · omega
    · omega
  all_goals
    simp only [daysInMonth] at last
    simp
    omega

/-- A date is the date of its day. -/
theorem ofDayNumber_dayNumber {date : Date} (valid : date.isValid = true) :
    Date.ofDayNumber date.dayNumber = date := by
  obtain ⟨year, month, day⟩ := date
  obtain ⟨first, last, months, leap⟩ := dayOfYear_spec valid
  simp only [Date.isValid, Bool.and_eq_true, decide_eq_true_eq] at valid
  obtain ⟨⟨⟨january, december⟩, positive⟩, -⟩ := valid
  -- Years are counted from March, so January and February belong to the year before.
  have yearBack : year = if (if month ≤ 2 then (month : Int) + 9 else month - 3) < 10 then
      (if month ≤ 2 then year - 1 else year)
    else (if month ≤ 2 then year - 1 else year) + 1 := by
    split <;> split <;> omega
  have monthBack : month = if (if month ≤ 2 then (month : Int) + 9 else month - 3) < 10 then
      ((if month ≤ 2 then (month : Int) + 9 else month - 3) + 3).toNat
    else ((if month ≤ 2 then (month : Int) + 9 else month - 3) - 9).toNat := by
    split <;> split <;> omega
  unfold Date.ofDayNumber Date.dayNumber
  dsimp only
  generalize (if month ≤ 2 then year - 1 else year) = marchYear at *
  generalize (if month ≤ 2 then (month : Int) + 9 else month - 3) = marchMonth at *
  generalize counted : (153 * marchMonth + 2) / 5 + (day : Int) - 1 = dayOfYear at *
  generalize inEra : marchYear % 400 * 365 + marchYear % 400 / 4 - marchYear % 400 / 100 + dayOfYear =
    dayOfEra
  -- The last day of a year that starts in March is the 29th of February, if there is one.
  have leapInEra : dayOfYear = 365 → (marchYear % 400 + 1) % 4 = 0 ∧
      ((marchYear % 400 + 1) % 100 ≠ 0 ∨ (marchYear % 400 + 1) % 400 = 0) := by
    intro late
    have leapYear := leap late
    omega
  have yearOfEra := yearOfEra_eq (by omega) (by omega) first last leapInEra inEra.symm
  have era : (marchYear / 400 * 146097 + dayOfEra - 719468 + 719468) / 146097 = marchYear / 400 := by
    omega
  have rest : (marchYear / 400 * 146097 + dayOfEra - 719468 + 719468) % 146097 = dayOfEra := by
    omega
  have back : dayOfEra - (365 * (marchYear % 400) + marchYear % 400 / 4 - marchYear % 400 / 100) =
      dayOfYear := by omega
  have whole : marchYear % 400 + marchYear / 400 * 400 = marchYear := by omega
  have dayBack : (dayOfYear - (153 * marchMonth + 2) / 5 + 1).toNat = day := by omega
  simp only [era, rest, yearOfEra, back, months, whole, dayBack]
  split
  · next early => rw [if_pos early] at yearBack monthBack; rw [← yearBack, ← monthBack]
  · next late => rw [if_neg late] at yearBack monthBack; rw [← yearBack, ← monthBack]

/-- The days of a range of years lie between its first and its last. -/
theorem dayNumber_mem_range {date : Date} (valid : date.isValid = true)
    (first : firstYear ≤ date.year) (last : date.year ≤ lastYear) :
    (Date.mk firstYear 1 1).dayNumber ≤ date.dayNumber ∧
      date.dayNumber ≤ (Date.mk lastYear 12 31).dayNumber := by
  obtain ⟨year, month, day⟩ := date
  have low : (Date.mk firstYear 1 1).dayNumber = -96465292 := by decide
  have high : (Date.mk lastYear 12 31).dayNumber = 95026236 := by decide
  obtain ⟨least, most, months, -⟩ := dayOfYear_spec valid
  have within : 1 ≤ month ∧ month ≤ 12 := by
    simp only [Date.isValid, Bool.and_eq_true, decide_eq_true_eq] at valid
    exact valid.1.1
  simp only [firstYear, lastYear] at first last
  rw [low, high]
  unfold Date.dayNumber
  dsimp only
  -- January and February are the last months of the year that began in March before them.
  by_cases early : month ≤ 2
  · simp only [if_pos early] at least most months ⊢
    generalize (153 * ((month : Int) + 9) + 2) / 5 + day - 1 = dayOfYear at *
    obtain rfl | later : year = -262143 ∨ -262142 ≤ year := by omega
    · omega
    · omega
  · simp only [if_neg early] at least most months ⊢
    generalize (153 * ((month : Int) - 3) + 2) / 5 + day - 1 = dayOfYear at *
    obtain rfl | earlier : year = 262142 ∨ year ≤ 262141 := by omega
    · omega
    · omega

end Columnar.Time
