import Mathlib.Algebra.Order.Group.Int
import Mathlib.Data.Nat.Find

/-!
# Civil dates

Days are numbered, 1 January 1970 being day 0.  `CivilDate` is a year, a month and a day of
the Gregorian calendar; a value is a date that exists.  `ofDay` finds the date of a day and
`toDay` the day of a date.

A year has its first day (`yearStart`) and each month its first day in the year
(`monthStart`); finding the date is finding the last year, and then the last month, that has
begun.  Dates are ordered as days are, year first, then month, then day (`toDay_lt_toDay`).
-/

namespace StayRide.Lib

/-! ## Years -/

def isLeapYear (year : ℤ) : Bool :=
  year % 4 = 0 && (year % 100 ≠ 0 || year % 400 = 0)

def yearLength (year : ℤ) : ℕ :=
  if isLeapYear year then 366 else 365

/-- The number of 1 January. -/
def yearStart (year : ℤ) : ℤ :=
  365 * (year - 1) + (year - 1) / 4 - (year - 1) / 100 + (year - 1) / 400 - 719162

theorem yearStart_add_one (year : ℤ) :
    yearStart (year + 1) = yearStart year + yearLength year := by
  unfold yearStart yearLength
  by_cases hleap : isLeapYear year = true
  · rw [if_pos hleap]
    simp only [isLeapYear, Bool.and_eq_true, Bool.or_eq_true, decide_eq_true_eq] at hleap
    omega
  · rw [if_neg hleap]
    simp only [isLeapYear, Bool.and_eq_true, Bool.or_eq_true, decide_eq_true_eq] at hleap
    omega

theorem yearStart_le_yearStart {year year' : ℤ} (h : year ≤ year') :
    yearStart year ≤ yearStart year' := by
  unfold yearStart
  omega

/-- The year of a day: four hundred years have 146097 days, so that a proportional estimate
is off by one at most. -/
def yearOf (n : ℤ) : ℤ :=
  let estimate := 400 * (n + 719162) / 146097 + 1
  if n < yearStart estimate then estimate - 1
  else if yearStart (estimate + 1) ≤ n then estimate + 1
  else estimate

theorem yearOf_spec (n : ℤ) : yearStart (yearOf n) ≤ n ∧ n < yearStart (yearOf n + 1) := by
  unfold yearOf
  dsimp only
  split
  · next hlate =>
      rw [sub_add_cancel]
      refine ⟨?_, hlate⟩
      unfold yearStart
      omega
  · next hbegun =>
      split
      · next hearly =>
          refine ⟨hearly, ?_⟩
          unfold yearStart
          omega
      · next hends => exact ⟨not_lt.mp hbegun, not_le.mp hends⟩

/-! ## Months -/

def monthLengths (leap : Bool) : List ℕ :=
  [31, if leap then 29 else 28, 31, 30, 31, 30, 31, 31, 30, 31, 30, 31]

/-- The days of the year before the month, which is counted from 1. -/
def monthStart (leap : Bool) (month : ℕ) : ℕ :=
  ((monthLengths leap).take (month - 1)).foldl (· + ·) 0

theorem monthStart_le_monthStart (leap : Bool) {month month' : ℕ} (h : month ≤ month')
    (hle : month' ≤ 13) : monthStart leap month ≤ monthStart leap month' := by
  have htable : ∀ leap, ∀ month' ≤ 13, ∀ month ≤ month',
      monthStart leap month ≤ monthStart leap month' := by
    decide
  exact htable leap month' hle month h

theorem monthStart_thirteen (year : ℤ) : monthStart (isLeapYear year) 13 = yearLength year := by
  unfold yearLength
  cases isLeapYear year <;> rfl

/-- The month of a day of the year. -/
def monthOf (leap : Bool) (dayOfYear : ℕ) : ℕ :=
  Nat.findGreatest (fun month => monthStart leap month ≤ dayOfYear) 12

theorem monthOf_spec {leap : Bool} {dayOfYear : ℕ} (h : dayOfYear < monthStart leap 13) :
    1 ≤ monthOf leap dayOfYear ∧ monthOf leap dayOfYear ≤ 12 ∧
      monthStart leap (monthOf leap dayOfYear) ≤ dayOfYear ∧
      dayOfYear < monthStart leap (monthOf leap dayOfYear + 1) := by
  have hjanuary : monthStart leap 1 ≤ dayOfYear := Nat.zero_le _
  have hle : monthOf leap dayOfYear ≤ 12 := Nat.findGreatest_le 12
  refine ⟨Nat.le_findGreatest (by decide) hjanuary, hle,
    Nat.findGreatest_spec (P := fun month => monthStart leap month ≤ dayOfYear)
      (by decide : 1 ≤ 12) hjanuary, ?_⟩
  rcases hle.eq_or_lt with hdecember | hbefore
  · rw [hdecember]
    exact h
  · exact not_le.mp (Nat.findGreatest_is_greatest
      (P := fun month => monthStart leap month ≤ dayOfYear) (Nat.lt_succ_self _) hbefore)

/-! ## Dates -/

/-- A date of the calendar. -/
structure CivilDate where
  year : ℤ
  month : ℕ
  day : ℕ
  month_pos : 1 ≤ month
  month_le : month ≤ 12
  day_pos : 1 ≤ day
  day_le : monthStart (isLeapYear year) month + day ≤ monthStart (isLeapYear year) (month + 1)

namespace CivilDate

/-- The number of the day in its year, counted from 0. -/
def dayOfYear (c : CivilDate) : ℕ :=
  monthStart (isLeapYear c.year) c.month + (c.day - 1)

def toDay (c : CivilDate) : ℤ :=
  yearStart c.year + c.dayOfYear

/-- A date lies in its month. -/
theorem dayOfYear_lt (c : CivilDate) {month : ℕ} (h : c.month + 1 ≤ month) (hle : month ≤ 13) :
    c.dayOfYear < monthStart (isLeapYear c.year) month := by
  have hmonth := monthStart_le_monthStart (isLeapYear c.year) h hle
  have hday := c.day_le
  have hpos := c.day_pos
  unfold dayOfYear
  omega

/-- A date lies in its year. -/
theorem toDay_lt_yearStart (c : CivilDate) : c.toDay < yearStart (c.year + 1) := by
  have hlt := c.dayOfYear_lt (Nat.succ_le_succ c.month_le) le_rfl
  rw [monthStart_thirteen] at hlt
  rw [yearStart_add_one, toDay]
  omega

/-- No month has more than 31 days. -/
theorem day_le_31 (c : CivilDate) : c.day ≤ 31 := by
  have htable : ∀ leap, ∀ month ≤ 12, monthStart leap (month + 1) ≤ monthStart leap month + 31 := by
    decide
  have hmonth := htable (isLeapYear c.year) c.month c.month_le
  have hday := c.day_le
  omega

/-- **Dates are ordered as days are**: by year, then by month, then by day. -/
theorem toDay_lt_toDay {c c' : CivilDate}
    (h : c.year < c'.year ∨ c.year = c'.year ∧
      (c.month < c'.month ∨ c.month = c'.month ∧ c.day < c'.day)) :
    c.toDay < c'.toDay := by
  rcases h with hyear | ⟨hyear, hrest⟩
  · calc c.toDay < yearStart (c.year + 1) := c.toDay_lt_yearStart
      _ ≤ yearStart c'.year := yearStart_le_yearStart hyear
      _ ≤ c'.toDay := le_add_of_nonneg_right (Int.natCast_nonneg _)
  · have hdays : c.dayOfYear < c'.dayOfYear := by
      rcases hrest with hmonth | ⟨hmonth, hlt⟩
      · have hbefore := c.dayOfYear_lt hmonth (c'.month_le.trans (by decide))
        rw [hyear] at hbefore
        exact hbefore.trans_le (Nat.le_add_right _ _)
      · have hpos := c.day_pos
        unfold dayOfYear
        rw [hyear, hmonth]
        omega
    unfold toDay
    rw [hyear]
    omega

/-- The day in the year of a numbered day. -/
def dayOfYearOf (n : ℤ) : ℕ :=
  (n - yearStart (yearOf n)).toNat

theorem dayOfYearOf_lt (n : ℤ) :
    dayOfYearOf n < monthStart (isLeapYear (yearOf n)) 13 := by
  obtain ⟨hbegun, hends⟩ := yearOf_spec n
  rw [yearStart_add_one] at hends
  rw [monthStart_thirteen, dayOfYearOf]
  omega

/-- The date of a day. -/
def ofDay (n : ℤ) : CivilDate where
  year := yearOf n
  month := monthOf (isLeapYear (yearOf n)) (dayOfYearOf n)
  day := dayOfYearOf n -
    monthStart (isLeapYear (yearOf n)) (monthOf (isLeapYear (yearOf n)) (dayOfYearOf n)) + 1
  month_pos := (monthOf_spec (dayOfYearOf_lt n)).1
  month_le := (monthOf_spec (dayOfYearOf_lt n)).2.1
  day_pos := Nat.le_add_left 1 _
  day_le := by
    obtain ⟨-, -, hbegun, hends⟩ := monthOf_spec (dayOfYearOf_lt n)
    omega

/-- `ofDay` finds the date of the day. -/
@[simp] theorem toDay_ofDay (n : ℤ) : (ofDay n).toDay = n := by
  obtain ⟨hyear, -⟩ := yearOf_spec n
  obtain ⟨-, -, hmonth, -⟩ := monthOf_spec (dayOfYearOf_lt n)
  have hdays : (ofDay n).dayOfYear = dayOfYearOf n := Nat.add_sub_cancel' hmonth
  show yearStart (yearOf n) + ((ofDay n).dayOfYear : ℤ) = n
  rw [hdays, dayOfYearOf]
  omega

/-- The day with this number in a month, where the number may lie outside of the month. -/
def makeDay (year : ℤ) (month : ℕ) (date : ℤ) : ℤ :=
  yearStart year + monthStart (isLeapYear year) month + (date - 1)

/-- Counting on from a date counts days, over the ends of months and years. -/
theorem makeDay_ofDay (n k : ℤ) :
    makeDay (ofDay n).year (ofDay n).month ((ofDay n).day + k) = n + k := by
  have hday := toDay_ofDay n
  have hpos := (ofDay n).day_pos
  unfold toDay dayOfYear at hday
  unfold makeDay
  omega

/-- Days are ordered as their dates. -/
theorem ofDay_lt {n n' : ℤ} (h : n < n') :
    (ofDay n).year < (ofDay n').year ∨ (ofDay n).year = (ofDay n').year ∧
      ((ofDay n).month < (ofDay n').month ∨
        (ofDay n).month = (ofDay n').month ∧ (ofDay n).day < (ofDay n').day) := by
  by_contra hnot
  -- Otherwise the two dates are the same, or they stand the other way round.
  have hnot' : ¬ (ofDay n').toDay < (ofDay n).toDay := by
    rw [toDay_ofDay, toDay_ofDay]
    exact h.not_gt
  have hsame : (ofDay n).year = (ofDay n').year ∧ (ofDay n).month = (ofDay n').month ∧
      (ofDay n).day = (ofDay n').day := by
    have hback := mt toDay_lt_toDay hnot'
    omega
  obtain ⟨hyear, hmonth, hday⟩ := hsame
  have heq : (ofDay n).toDay = (ofDay n').toDay := by
    rw [toDay, toDay, dayOfYear, dayOfYear, hyear, hmonth, hday]
  rw [toDay_ofDay, toDay_ofDay] at heq
  exact h.ne heq

/-- The years between two dates: a day from the first year on and before another year. -/
theorem year_ofDay_iff (n a b : ℤ) :
    a ≤ (ofDay n).year ∧ (ofDay n).year < b ↔ yearStart a ≤ n ∧ n < yearStart b := by
  obtain ⟨hbegun, hends⟩ := yearOf_spec n
  show a ≤ yearOf n ∧ yearOf n < b ↔ _
  refine and_congr ⟨fun h => (yearStart_le_yearStart h).trans hbegun, fun h => ?_⟩
    ⟨fun h => hends.trans_le (yearStart_le_yearStart h), fun h => ?_⟩
  · by_contra hlt
    exact absurd (h.trans_lt hends) (yearStart_le_yearStart (by omega)).not_gt
  · by_contra hge
    exact absurd (hbegun.trans_lt h) (yearStart_le_yearStart (by omega)).not_gt

end CivilDate

example : (CivilDate.ofDay 20270).year = 2025 ∧ (CivilDate.ofDay 20270).month = 7 ∧
    (CivilDate.ofDay 20270).day = 1 := by decide +kernel

end StayRide.Lib
