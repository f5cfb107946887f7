import StoryTrace.Time.Calendar

/-!
# Day numbers and dates

Every day number has a date of the calendar, which has that day number. Inside an era of 400 years
the years are found by a division that makes up for the leap days passed so far.
-/

namespace StoryTrace.Date

/-- The year of its era that a day of the era lies in. -/
def yearOfEra (day : Int) : Int := (day - day / 1460 + day / 36524 - day / 146096) / 365

/-- The day of its year that a day of the era is. -/
def dayOfYear (day : Int) : Int :=
  day - (365 * yearOfEra day + yearOfEra day / 4 - yearOfEra day / 100)

section

variable {day : Int} (hStart : 0 ≤ day) (hEnd : day < 146097)
include hStart hEnd

theorem yearOfEra_mem : 0 ≤ yearOfEra day ∧ yearOfEra day < 400 := by
  unfold yearOfEra
  omega

/-- The leap days that the division makes up for are those before the year, or one more. -/
theorem leapDays_yearOfEra :
    yearOfEra day / 100 = day / 36524 - day / 146096 ∧
      yearOfEra day / 4 ≤ day / 1460 ∧ day / 1460 ≤ yearOfEra day / 4 + 1 := by
  have hCentury : day / 36524 = 0 ∨ day / 36524 = 1 ∨ day / 36524 = 2 ∨ day / 36524 = 3 ∨
      day / 36524 = 4 := by
    omega
  have hLast : day / 146096 = 0 ∨ day / 146096 = 1 := by omega
  unfold yearOfEra
  rcases hCentury with h | h | h | h | h <;> rcases hLast with h' | h' <;> omega

theorem dayOfYear_mem : 0 ≤ dayOfYear day ∧ dayOfYear day ≤ 365 := by
  obtain ⟨hCenturies, hLow, hHigh⟩ := leapDays_yearOfEra hStart hEnd
  unfold dayOfYear
  unfold yearOfEra at *
  omega

/-- Only a leap year has a day after its first 365. Its leap day falls into the next calendar
year. -/
theorem leap_of_dayOfYear (hLast : dayOfYear day = 365) :
    (yearOfEra day + 1) % 4 = 0 ∧
      ((yearOfEra day + 1) % 100 ≠ 0 ∨ (yearOfEra day + 1) % 400 = 0) := by
  obtain ⟨hCenturies, hLow, hHigh⟩ := leapDays_yearOfEra hStart hEnd
  obtain ⟨hPositive, hBound⟩ := yearOfEra_mem hStart hEnd
  unfold dayOfYear at hLast
  have hPassed : day / 1460 = yearOfEra day / 4 + 1 := by
    unfold yearOfEra at *
    omega
  have hRest : yearOfEra day % 4 = 0 ∨ yearOfEra day % 4 = 1 ∨ yearOfEra day % 4 = 2 ∨
      yearOfEra day % 4 = 3 := by
    omega
  constructor
  · rcases hRest with h | h | h | h <;> omega
  · have hFinal : day / 146096 = 0 ∨ day / 146096 = 1 := by omega
    rcases hFinal with h | h <;> omega

end

/-- The month of a year from March that a day of it lies in, and the day of the month. -/
theorem month_mem {day : Int} (hStart : 0 ≤ day) (hEnd : day ≤ 365) :
    0 ≤ (5 * day + 2) / 153 ∧ (5 * day + 2) / 153 ≤ 11 ∧
      0 ≤ day - daysBeforeMonth ((5 * day + 2) / 153) := by
  unfold daysBeforeMonth
  omega

/-- The date of a day of a month, both counted from zero, in a year and its months from March. -/
def fromMarch (year month day : Int) : Date :=
  let calendarMonth := if month < 10 then month + 3 else month - 9
  ⟨if calendarMonth ≤ 2 then year + 1 else year, calendarMonth.toNat, (day + 1).toNat⟩

/-- The date of a day number by the day of its era. -/
theorem ofDays_eq (n : Int) :
    ofDays n = fromMarch
      (yearOfEra ((n + 719468) % 146097) + (n + 719468) / 146097 * 400)
      ((5 * dayOfYear ((n + 719468) % 146097) + 2) / 153)
      (dayOfYear ((n + 719468) % 146097) -
        daysBeforeMonth ((5 * dayOfYear ((n + 719468) % 146097) + 2) / 153)) := rfl

section

variable (year : Int) {month : Int} (day : Int) (hMonth : 0 ≤ month) (hMonthBound : month ≤ 11)
include hMonth hMonthBound

theorem month_fromMarch : 1 ≤ (fromMarch year month day).month ∧
    (fromMarch year month day).month ≤ 12 ∧
    Int.ofNat (((fromMarch year month day).month + 9) % 12) = month := by
  simp only [fromMarch, Int.ofNat_eq_natCast]
  split <;> omega

theorem year_fromMarch :
    (if (fromMarch year month day).month ≤ 2 then (fromMarch year month day).year - 1
      else (fromMarch year month day).year) = year := by
  simp only [fromMarch]
  split <;> omega

theorem toDays_fromMarch (hDay : 0 ≤ day) :
    (fromMarch year month day).toDays =
      year / 400 * 146097 + (year % 400 * 365 + year % 400 / 4 - year % 400 / 100) +
        daysBeforeMonth month + day - 719468 := by
  have hNumber : Int.ofNat (fromMarch year month day).day = day + 1 := by
    simp only [fromMarch, Int.ofNat_eq_natCast]
    omega
  obtain ⟨-, -, hSame⟩ := month_fromMarch year day hMonth hMonthBound
  rw [toDays, year_fromMarch year day hMonth hMonthBound, hSame, hNumber]
  omega

end

section

variable (n : Int)

theorem toDays_ofDays : (ofDays n).toDays = n := by
  have hStart : 0 ≤ (n + 719468) % 146097 := by omega
  have hEnd : (n + 719468) % 146097 < 146097 := by omega
  obtain ⟨hYear, hYearBound⟩ := yearOfEra_mem hStart hEnd
  obtain ⟨hDay, hDayBound⟩ := dayOfYear_mem hStart hEnd
  obtain ⟨hMonth, hMonthBound, hInMonth⟩ := month_mem hDay hDayBound
  rw [ofDays_eq, toDays_fromMarch _ _ hMonth hMonthBound hInMonth]
  unfold dayOfYear
  generalize yearOfEra ((n + 719468) % 146097) = year at *
  omega

/-- The months from March to January have the lengths that the day of the year leaves for them. -/
theorem day_fromMarch_le {year day : Int} (hStart : 0 ≤ day) (hEnd : day ≤ 365)
    (hLeap : day = 365 → isLeap (year + 1) = true) :
    (day - daysBeforeMonth ((5 * day + 2) / 153) + 1).toNat ≤
      monthLength (fromMarch year ((5 * day + 2) / 153) 0).year
        (fromMarch year ((5 * day + 2) / 153) 0).month := by
  obtain ⟨hMonth, hMonthBound, -⟩ := month_mem hStart hEnd
  generalize hSame : (5 * day + 2) / 153 = month at *
  have hMonths : month = 0 ∨ month = 1 ∨ month = 2 ∨ month = 3 ∨ month = 4 ∨ month = 5 ∨
      month = 6 ∨ month = 7 ∨ month = 8 ∨ month = 9 ∨ month = 10 ∨ month = 11 := by
    omega
  rcases hMonths with h | h | h | h | h | h | h | h | h | h | h | h <;> subst h
  case inr.inr.inr.inr.inr.inr.inr.inr.inr.inr.inr =>
    -- February: its last day is the last one of the year from March.
    show (day - 337 + 1).toNat ≤ if isLeap (year + 1) then 29 else 28
    by_cases hLast : day = 365
    · rw [if_pos (hLeap hLast)]
      omega
    · split <;> omega
  all_goals
    simp [fromMarch, monthLength, daysBeforeMonth]
    omega

/-- The date of a day number is one of the calendar, as far as its year is in range. -/
theorem valid_ofDays (h : yearRange (ofDays n).year = true) : (ofDays n).valid = true := by
  have hStart : 0 ≤ (n + 719468) % 146097 := by omega
  have hEnd : (n + 719468) % 146097 < 146097 := by omega
  obtain ⟨hDay, hDayBound⟩ := dayOfYear_mem hStart hEnd
  obtain ⟨hMonth, hMonthBound, hInMonth⟩ := month_mem hDay hDayBound
  have hLeap (hLast : dayOfYear ((n + 719468) % 146097) = 365) :
      isLeap (yearOfEra ((n + 719468) % 146097) + (n + 719468) / 146097 * 400 + 1) = true := by
    obtain ⟨hFour, hCentury⟩ := leap_of_dayOfYear hStart hEnd hLast
    simp only [isLeap, Bool.and_eq_true, Bool.or_eq_true, beq_iff_eq, bne_iff_ne]
    omega
  have hLength := day_fromMarch_le hDay hDayBound hLeap
  rw [ofDays_eq] at h ⊢
  obtain ⟨hFirst, hTwelve, -⟩ := month_fromMarch
    (yearOfEra ((n + 719468) % 146097) + (n + 719468) / 146097 * 400)
    (dayOfYear ((n + 719468) % 146097) -
      daysBeforeMonth ((5 * dayOfYear ((n + 719468) % 146097) + 2) / 153)) hMonth hMonthBound
  simp only [valid, h, Bool.true_and, Bool.and_eq_true, decide_eq_true_eq]
  refine ⟨⟨⟨hFirst, hTwelve⟩, ?_⟩, hLength⟩
  simp only [fromMarch]
  omega

end

end StoryTrace.Date
