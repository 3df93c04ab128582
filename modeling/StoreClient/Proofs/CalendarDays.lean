-- Every day number is the number of a day of the calendar, and the calendar day found for it has
-- that number. Years are found from days by a formula without a search; it is pinned down by its
-- values at both ends of each year of a run of 400 years, and by never going back between them.
import StoreClient.Time.Calendar

namespace StoreClient

namespace Date

/-! ## Years of a run -/

/-- The day of a run of 400 years on which one of its years begins. -/
def firstDayOf (year : Nat) : Nat := 365 * year + year / 4 - year / 100 + year / 400

/-- The year of a run in which a day of the run lies. -/
def yearOfRun (day : Nat) : Nat := (day - day / 1460 + day / 36524 - day / 146096) / 365

theorem yearOfRun_ends : ∀ year < 400,
    yearOfRun (firstDayOf year) = year ∧ yearOfRun (firstDayOf (year + 1) - 1) = year := by
  decide +kernel

theorem yearOfRun_le_succ (day : Nat) (h : day + 1 < 146097) :
    yearOfRun day ≤ yearOfRun (day + 1) := by
  apply Nat.div_le_div_right
  omega

theorem yearOfRun_mono {day later : Nat} (h : day ≤ later) (hlater : later < 146097) :
    yearOfRun day ≤ yearOfRun later := by
  induction h with
  | refl => exact Nat.le_refl _
  | step _ ih => exact Nat.le_trans (ih (by omega)) (yearOfRun_le_succ _ hlater)

theorem yearOfRun_lt (day : Nat) (h : day < 146097) : yearOfRun day < 400 := by
  have hlast : yearOfRun 146096 = 399 := rfl
  have := yearOfRun_mono (show day ≤ 146096 by omega) (by omega)
  omega

theorem firstDayOf_le {year : Nat} (h : year ≤ 400) : firstDayOf year ≤ 146097 := by
  unfold firstDayOf
  omega

/-- A day lies between the first day of its year and that of the next year. -/
theorem firstDayOf_yearOfRun (day : Nat) (h : day < 146097) :
    firstDayOf (yearOfRun day) ≤ day ∧ day < firstDayOf (yearOfRun day + 1) := by
  have hlt := yearOfRun_lt day h
  constructor
  · refine Nat.le_of_not_lt fun hbefore => ?_
    -- Otherwise the day is no later than the last day of the year before its own.
    have hpos : 0 < yearOfRun day := by
      refine Nat.pos_of_ne_zero fun hzero => ?_
      rw [hzero] at hbefore
      exact Nat.not_lt_zero day hbefore
    have hends := (yearOfRun_ends (yearOfRun day - 1) (by omega)).2
    rw [Nat.sub_add_cancel hpos] at hends
    have hle := firstDayOf_le (Nat.le_of_lt hlt)
    have := yearOfRun_mono (show day ≤ firstDayOf (yearOfRun day) - 1 by omega) (by omega)
    omega
  · refine Nat.lt_of_not_le fun hafter => ?_
    -- Otherwise the day is no earlier than the first day of the year after its own.
    have hlast : yearOfRun day + 1 < 400 := by
      refine Nat.lt_of_not_le fun hlast => ?_
      have hend : firstDayOf 400 = 146097 := rfl
      rw [show yearOfRun day + 1 = 400 by omega] at hafter
      omega
    have hends := (yearOfRun_ends (yearOfRun day + 1) hlast).1
    have := yearOfRun_mono hafter h
    omega

/-- Years are counted from March, so that the leap day of the next year is the last day. -/
theorem firstDayOf_succ (year : Nat) (run : Int) (h : year < 400) :
    firstDayOf (year + 1) = firstDayOf year + 365 +
      if isLeapYear (run * 400 + year + 1) then 1 else 0 := by
  have hleap : isLeapYear (run * 400 + year + 1) = true ↔
      (year + 1) % 4 = 0 ∧ ((year + 1) % 100 ≠ 0 ∨ (year + 1) % 400 = 0) := by
    simp only [isLeapYear, Bool.and_eq_true, Bool.or_eq_true, decide_eq_true_eq]
    omega
  unfold firstDayOf
  split
  · rename_i h
    rw [hleap] at h
    omega
  · rename_i h
    rw [hleap] at h
    omega

/-! ## Days of a year -/

/-- The month of a day of a year that begins in March, counted from March as 0. -/
def marchMonth (day : Nat) : Nat := (5 * day + 2) / 153

/-- The day of the month. -/
def dayOfMonth (day : Nat) : Nat := day - (153 * marchMonth day + 2) / 5 + 1

/-- The month as the calendar counts it. -/
def monthOf (day : Nat) : Nat :=
  if marchMonth day < 10 then marchMonth day + 3 else marchMonth day - 9

/-- A month has as many days as in a common year, the last day of a leap year apart. -/
theorem dayOfMonth_le : ∀ day < 366, 1 ≤ monthOf day ∧ monthOf day ≤ 12 ∧
    dayOfMonth day ≤ if day = 365 then 29 else daysInMonth 1 (monthOf day) := by
  decide +kernel

theorem daysInMonth_common (year : Int) (month : Nat) :
    daysInMonth 1 month ≤ daysInMonth year month := by
  have hfebruary : 28 ≤ if isLeapYear year then 29 else 28 := by
    split
    · exact Nat.le_succ 28
    · exact Nat.le_refl 28
  unfold daysInMonth
  split
  · exact hfebruary
  · exact Nat.le_refl _
  · exact Nat.le_refl _
  · exact Nat.le_refl _
  · exact Nat.le_refl _
  · exact Nat.le_refl _

theorem daysInMonth_le (year : Int) (month : Nat) : daysInMonth year month ≤ 31 := by
  unfold daysInMonth
  split
  · split <;> decide
  all_goals decide

/-- The run of 400 years in which a day lies. -/
def runOf (n : Int) : Int := (n + 719468) / 146097

/-- The day of its run. -/
def dayOfRun (n : Int) : Nat := ((n + 719468) % 146097).toNat

theorem dayOfRun_lt (n : Int) : dayOfRun n < 146097 := by
  unfold dayOfRun
  omega

/-- The day of its year, which begins in March. -/
def dayOfYear (n : Int) : Nat := dayOfRun n - firstDayOf (yearOfRun (dayOfRun n))

theorem ofDayNumber_eq (n : Int) : ofDayNumber n =
    ⟨if monthOf (dayOfYear n) ≤ 2 then runOf n * 400 + yearOfRun (dayOfRun n) + 1
      else runOf n * 400 + yearOfRun (dayOfRun n), monthOf (dayOfYear n),
      dayOfMonth (dayOfYear n)⟩ := by
  have hlt := yearOfRun_lt (dayOfRun n) (dayOfRun_lt n)
  have hfirst : firstDayOf (yearOfRun (dayOfRun n)) = 365 * yearOfRun (dayOfRun n) +
      yearOfRun (dayOfRun n) / 4 - yearOfRun (dayOfRun n) / 100 := by
    unfold firstDayOf
    omega
  unfold dayOfYear
  rw [hfirst]
  rfl

/-- The last day of a year is only there if the year after has a leap day. -/
theorem dayOfYear_lt (n : Int) : dayOfYear n < 365 +
    if isLeapYear (runOf n * 400 + yearOfRun (dayOfRun n) + 1) then 1 else 0 := by
  have hlt := yearOfRun_lt (dayOfRun n) (dayOfRun_lt n)
  obtain ⟨hfirst, hlast⟩ := firstDayOf_yearOfRun (dayOfRun n) (dayOfRun_lt n)
  rw [firstDayOf_succ _ (runOf n) hlt] at hlast
  unfold dayOfYear
  omega

theorem dayOfYear_lt_leap (n : Int) : dayOfYear n < 366 := by
  have hday := dayOfYear_lt n
  split at hday
  · exact hday
  · omega

/-- The day of a number is a day of the calendar. -/
theorem ofDayNumber_inMonth (n : Int) : 1 ≤ (ofDayNumber n).month ∧ (ofDayNumber n).month ≤ 12 ∧
    1 ≤ (ofDayNumber n).day ∧
    (ofDayNumber n).day ≤ daysInMonth (ofDayNumber n).year (ofDayNumber n).month := by
  have hday := dayOfYear_lt n
  obtain ⟨hmonth, hmonth', hle⟩ := dayOfMonth_le (dayOfYear n) (dayOfYear_lt_leap n)
  rw [ofDayNumber_eq]
  refine ⟨hmonth, hmonth', Nat.le_add_left _ _, Nat.le_trans hle ?_⟩
  by_cases hleap : dayOfYear n = 365
  · -- The last day of a year that has it is the leap day of the year after.
    have hfebruary : monthOf 365 = 2 := by decide
    rw [if_pos hleap, hleap, hfebruary]
    rw [hleap] at hday
    split at hday
    · rename_i hyear
      simp [daysInMonth, hyear]
    · omega
  · rw [if_neg hleap]
    exact daysInMonth_common _ _

/-! ## Days and their numbers -/

/-- The month counted from March again. -/
theorem marchMonth_of_monthOf (day : Nat) (h : day < 366) :
    (if monthOf day ≤ 2 then monthOf day + 9 else monthOf day - 3) = marchMonth day := by
  unfold monthOf marchMonth
  split <;> split <;> omega

/-- Month and day of the month give the day of the year again. -/
theorem dayOfMarchYear_dayOfMonth (day : Nat) :
    dayOfMarchYear (marchMonth day) (dayOfMonth day) = day := by
  unfold dayOfMarchYear dayOfMonth marchMonth
  omega

/-- The number of a day, counted from its run, its year and its day of the year. -/
theorem dayNumber_eq_sum (n : Int) : runOf n * 146097 +
    (firstDayOf (yearOfRun (dayOfRun n)) + dayOfYear n : Nat) - 719468 = n := by
  obtain ⟨hfirst, -⟩ := firstDayOf_yearOfRun (dayOfRun n) (dayOfRun_lt n)
  unfold dayOfYear
  rw [Nat.add_sub_cancel' hfirst]
  unfold runOf dayOfRun
  omega

/-- The day of a number has this number. -/
theorem dayNumber_ofDayNumber (n : Int) : (ofDayNumber n).dayNumber = n := by
  have hyear := yearOfRun_lt (dayOfRun n) (dayOfRun_lt n)
  have hmonth := marchMonth_of_monthOf (dayOfYear n) (dayOfYear_lt_leap n)
  have hday := dayOfMarchYear_dayOfMonth (dayOfYear n)
  have hsum := dayNumber_eq_sum n
  -- The year as it is counted from March lies in the same run, at the same place.
  have hcounted : (if monthOf (dayOfYear n) ≤ 2 then
      (if monthOf (dayOfYear n) ≤ 2 then runOf n * 400 + yearOfRun (dayOfRun n) + 1
        else runOf n * 400 + yearOfRun (dayOfRun n)) - 1
      else if monthOf (dayOfYear n) ≤ 2 then runOf n * 400 + yearOfRun (dayOfRun n) + 1
        else runOf n * 400 + yearOfRun (dayOfRun n)) =
      runOf n * 400 + (yearOfRun (dayOfRun n) : Int) := by
    split <;> omega
  have hrun : (runOf n * 400 + (yearOfRun (dayOfRun n) : Int)) / 400 = runOf n := by omega
  have hplace : (runOf n * 400 + (yearOfRun (dayOfRun n) : Int)) % 400 =
      yearOfRun (dayOfRun n) := by omega
  rw [ofDayNumber_eq]
  simp only [dayNumber, hcounted, hmonth, hday, hrun, hplace]
  unfold firstDayOf at hsum
  omega

end Date

end StoreClient
