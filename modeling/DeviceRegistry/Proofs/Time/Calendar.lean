import DeviceRegistry.Time.Instant

/-!
# `DeviceRegistry.Proofs.Time.Calendar`: days and dates are the same

`dateOfDays` names the date of a day, `daysOfDate` counts the days to a date. The theorems:

* `daysOfDate_dateOfDays`: the count of the date of a day is that day, for every integer.
* `month_dateOfDays` / `day_dateOfDays`: the date is one of the calendar. The month is one of
  twelve and the day is one that the month of that year has.
* `year_dateOfDays`: days that are not too far away have years that are not.

An era has 400 years and 146097 days. Inside an era `yearAt` finds the year of a day by one
division, and `yearStart` is the day that a year starts with. The two are tied together by the
values at the 400 starts and the monotony of `yearAt` between them.
-/

set_option autoImplicit false

namespace DeviceRegistry.Instant

/-! ### Years of an era -/

/-- The year of an era that a day of the era lies in. -/
def yearAt (day : Nat) : Nat := (day - day / 1460 + day / 36524 - day / 146096) / 365

/-- The day of an era that a year of the era starts with. -/
def yearStart (year : Nat) : Nat := 365 * year + year / 4 - year / 100

/-- A later day of an era does not lie in an earlier year. -/
theorem yearAt_mono {a b : Nat} (h : a ≤ b) (hb : b < 146097) : yearAt a ≤ yearAt b := by
  unfold yearAt
  apply Nat.div_le_div_right
  omega

/-- The start of a year lies in the year, the day before it does not. This is evaluated for each of
the 400 years. -/
theorem yearAt_yearStart :
    ∀ y < 400, yearAt (yearStart y) = y ∧ (0 < y → yearAt (yearStart y - 1) < y) := by
  decide +kernel

/-- A day of an era lies in one of 400 years. -/
theorem yearAt_lt {day : Nat} (h : day < 146097) : yearAt day < 400 := by
  unfold yearAt
  omega

/-- The year that a day lies in has started. Otherwise the day before the start would lie in that
year, as `yearAt` does not fall in between. -/
theorem yearStart_yearAt_le {day : Nat} (h : day < 146097) : yearStart (yearAt day) ≤ day := by
  have hlt := yearAt_lt h
  apply Nat.le_of_not_lt
  intro hday
  have hpos : 0 < yearAt day := by
    apply Nat.pos_of_ne_zero
    intro hzero
    rw [hzero] at hday
    simp [yearStart] at hday
  -- The day before the start of its year would lie in that year.
  have hstart : yearStart (yearAt day) < 146097 := by
    unfold yearStart
    omega
  have hbefore := (yearAt_yearStart _ hlt).2 hpos
  have hmono : yearAt day ≤ yearAt (yearStart (yearAt day) - 1) :=
    yearAt_mono (by omega) (by omega)
  omega

/-- The year after the one that a day lies in has not started, for the same reason the other way
round. -/
theorem lt_yearStart_succ {day : Nat} (h : day < 146097) (hyear : yearAt day + 1 < 400) :
    day < yearStart (yearAt day + 1) := by
  apply Nat.lt_of_not_le
  intro hday
  have hmono : yearAt (yearStart (yearAt day + 1)) ≤ yearAt day := yearAt_mono hday h
  rw [(yearAt_yearStart _ hyear).1] at hmono
  omega

/-- The day of its year that a day of an era is. Years start in March, so the day 365 is the leap
day of the February that ends the year. -/
theorem sub_yearStart_le {day : Nat} (h : day < 146097) :
    day - yearStart (yearAt day) ≤ 365 ∧
      (day - yearStart (yearAt day) = 365 →
        (yearAt day + 1) % 4 = 0 ∧
          ((yearAt day + 1) % 100 ≠ 0 ∨ (yearAt day + 1) % 400 = 0)) := by
  have hle := yearStart_yearAt_le h
  have hlt := yearAt_lt h
  have hnext := lt_yearStart_succ h
  -- From here on only the bounds of the year matter, which are linear in `y` and its quotients.
  generalize yearAt day = y at *
  unfold yearStart at *
  have hcentury : y / 100 ≤ (y + 1) / 100 := Nat.div_le_div_right (Nat.le_succ y)
  have hleap : (y + 1) / 4 ≤ y / 4 + 1 := by omega
  by_cases hlast : y + 1 < 400
  · have hday := hnext hlast
    by_cases hfour : (y + 1) % 4 = 0
    · by_cases hhundred : (y + 1) % 100 = 0
      -- A new century takes the leap day away that the division by four has added.
      · have hnew : (y + 1) / 100 = y / 100 + 1 := by omega
        omega
      · omega
    · have hsame : (y + 1) / 4 = y / 4 := by omega
      omega
  · -- The last year of an era ends with its last day.
    omega

/-! ### Dates of days -/

/-- The era that a day lies in. -/
def eraOf (days : Int) : Int := (days + 719468) / 146097

/-- The day of its era that a day is. -/
def dayOfEra (days : Int) : Nat := ((days + 719468) % 146097).toNat

/-- The day of its year that a day is, counted from March. -/
def dayOfYear (days : Int) : Nat := dayOfEra days - yearStart (yearAt (dayOfEra days))

/-- The month that a day lies in, counted from March. -/
def monthAt (days : Int) : Nat := (5 * dayOfYear days + 2) / 153

/-- A day has a place in its era. The eras have the same length, so the calendar repeats from one to
the next. -/
theorem dayOfEra_lt (days : Int) : dayOfEra days < 146097 := by
  unfold dayOfEra
  omega

/-- A day is its place in the era behind the eras before it, counted from the March of the year
0. -/
theorem eraOf_dayOfEra (days : Int) : eraOf days * 146097 + dayOfEra days - 719468 = days := by
  unfold eraOf dayOfEra
  omega

/-- A year has at most 366 days, the last of them being a leap day. -/
theorem dayOfYear_le (days : Int) : dayOfYear days ≤ 365 :=
  (sub_yearStart_le (dayOfEra_lt days)).1

/-- A day lies in one of twelve months, counted from March. -/
theorem monthAt_lt (days : Int) : monthAt days < 12 := by
  have h := dayOfYear_le days
  unfold monthAt
  omega

/-- The date of a day by its place in the era, the year and the month. All that follows about dates
starts from this form. -/
theorem dateOfDays_eq (days : Int) :
    dateOfDays days =
      (yearAt (dayOfEra days) + eraOf days * 400 +
          (if (if monthAt days < 10 then monthAt days + 3 else monthAt days - 9) ≤ 2 then 1 else 0),
        if monthAt days < 10 then monthAt days + 3 else monthAt days - 9,
        dayOfYear days - (153 * monthAt days + 2) / 5 + 1) :=
  rfl

/-- A date has one of twelve months, counted from January again. -/
theorem month_dateOfDays (days : Int) :
    1 ≤ (dateOfDays days).2.1 ∧ (dateOfDays days).2.1 ≤ 12 := by
  have h := monthAt_lt days
  rw [dateOfDays_eq]
  dsimp only
  split <;> omega

/-- The count of a date by its place in the era, the year and the month. A year of the calendar
starts two months before its March, which both sides take into account. -/
theorem daysOfDate_eq (era : Int) {y m : Nat} (day : Nat) (hy : y < 400) (hm : m < 12) :
    daysOfDate (y + era * 400 + (if (if m < 10 then m + 3 else m - 9) ≤ 2 then 1 else 0))
        (if m < 10 then m + 3 else m - 9) day =
      era * 146097 + (yearStart y + ((153 * m + 2) / 5 + day - 1 : Nat)) - 719468 := by
  have hmonth : ((if m < 10 then m + 3 else m - 9) + 9) % 12 = m := by
    split <;> omega
  have hyear : (if (if m < 10 then m + 3 else m - 9) ≤ 2
      then (y : Int) + era * 400 +
        (if (if m < 10 then m + 3 else m - 9) ≤ 2 then 1 else 0) - 1
      else (y : Int) + era * 400 +
        (if (if m < 10 then m + 3 else m - 9) ≤ 2 then 1 else 0)) = y + era * 400 := by
    by_cases hnew : (if m < 10 then m + 3 else m - 9) ≤ 2
    · rw [if_pos hnew, if_pos hnew]
      omega
    · rw [if_neg hnew, if_neg hnew]
      omega
  -- The year that starts in March gives back the era and the year in it.
  have hera : ((y : Int) + era * 400) / 400 = era := by omega
  have hof : ((y : Int) + era * 400) % 400 = y := by omega
  unfold daysOfDate
  dsimp only
  rw [hyear, hmonth, hera, hof]
  unfold yearStart
  omega

/-- The count of the date of a day is the day: the place in the era, the year and the month add up
to what they were taken from. -/
theorem daysOfDate_dateOfDays (days : Int) :
    daysOfDate (dateOfDays days).1 (dateOfDays days).2.1 (dateOfDays days).2.2 = days := by
  have hera := eraOf_dayOfEra days
  have hstart := yearStart_yearAt_le (dayOfEra_lt days)
  -- The month has started by that day, so what is left over is a day of the month.
  have hin : (153 * monthAt days + 2) / 5 ≤ dayOfYear days := by
    unfold monthAt
    omega
  have hof : yearStart (yearAt (dayOfEra days)) + dayOfYear days = dayOfEra days := by
    unfold dayOfYear
    omega
  rw [dateOfDays_eq]
  dsimp only
  rw [daysOfDate_eq _ _ (yearAt_lt (dayOfEra_lt days)) (monthAt_lt days)]
  omega

/-- The year after a year of an era that has four as a divisor and is no new century, or is the
first of an era, is a leap year. The leap day belongs to it, since years start in March here. -/
theorem isLeapYear_succ (era : Int) {y : Nat} (hfour : (y + 1) % 4 = 0)
    (hcentury : (y + 1) % 100 ≠ 0 ∨ (y + 1) % 400 = 0) :
    isLeapYear (y + era * 400 + 1) = true := by
  simp only [isLeapYear, Bool.and_eq_true, Bool.or_eq_true, beq_iff_eq, bne_iff_ne]
  omega

/-- A month that starts before February, counted from March, is over after its days. The formula
with 153 days in five months agrees with the table of lengths. -/
theorem monthLength_le (year : Int) {m : Nat} (h : m < 11) :
    (153 * (m + 1) + 2) / 5 - (153 * m + 2) / 5 ≤
      daysInMonth year (if m < 10 then m + 3 else m - 9) := by
  -- The lengths are those of a table, from March to January.
  match m, h with
  | 0, _ | 1, _ | 2, _ | 3, _ | 4, _ | 5, _ | 6, _ | 7, _ | 8, _ | 9, _ | 10, _ =>
    simp [daysInMonth]

/-- A February is over after 28 days at least, whatever the year. -/
theorem le_daysInFebruary (year : Int) : 28 ≤ daysInMonth year 2 := by
  simp only [daysInMonth]
  split
  · exact Nat.le_succ 28
  · exact Nat.le_refl 28

/-- The day of a date is one that the month has. February is left for last: its day 29 is the day
365 of the year, which there is in leap years only. -/
theorem day_dateOfDays (days : Int) :
    1 ≤ (dateOfDays days).2.2 ∧
      (dateOfDays days).2.2 ≤ daysInMonth (dateOfDays days).1 (dateOfDays days).2.1 := by
  obtain ⟨hle, hlast⟩ := sub_yearStart_le (dayOfEra_lt days)
  change dayOfYear days ≤ 365 at hle
  change dayOfYear days = 365 → _ at hlast
  have hm : monthAt days = (5 * dayOfYear days + 2) / 153 := rfl
  have hlt := monthAt_lt days
  rw [dateOfDays_eq]
  refine ⟨Nat.le_add_left 1 _, ?_⟩
  generalize monthAt days = m at *
  generalize dayOfYear days = d at *
  dsimp only
  by_cases hfeb : m = 11
  -- February is the last month of the year, and the only one whose length depends on the year.
  · subst hfeb
    change d - 337 + 1 ≤
      daysInMonth (yearAt (dayOfEra days) + eraOf days * 400 + 1) 2
    by_cases hleap : d = 365
    · have hyear := isLeapYear_succ (eraOf days) (hlast hleap).1 (hlast hleap).2
      simp only [daysInMonth, hyear, if_true]
      omega
    · have hlong := le_daysInFebruary (yearAt (dayOfEra days) + eraOf days * 400 + 1)
      omega
  · refine Nat.le_trans ?_ (monthLength_le _ (by omega))
    omega

/-- Days that are close to the start of 1970 have years that are, so the year of an instant can be
written and read with a sign in 32 bits. -/
theorem year_dateOfDays {days : Int} (hlow : -100000000 ≤ days) (hhigh : days ≤ 100000000) :
    -276000 ≤ (dateOfDays days).1 ∧ (dateOfDays days).1 ≤ 276000 := by
  have hyear := yearAt_lt (dayOfEra_lt days)
  have hera : -690 ≤ eraOf days ∧ eraOf days ≤ 689 := by
    unfold eraOf
    omega
  rw [dateOfDays_eq]
  dsimp only
  split <;> omega

end DeviceRegistry.Instant
