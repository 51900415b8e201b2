import StayRide.Common.Utils
import StayRide.Lib.DateText

/-!
# Calendar dates in the date libraries

`common/utils`, second part: the overlap test and the enumeration of the dates of a range.
Both work on instants that `dayjs` reads from texts.

`CalendarLib` says what the libraries make of the texts of calendar dates, in one time zone
without daylight-saving gaps: PostgreSQL reads the day, and `dayjs` and `Date` read the
midnight at which it begins.  The laws are about the years 1000 to 9999, whose texts are
written in the same way by everybody.
-/

namespace StayRide

open Lib

structure CalendarLib extends DateLib where
  /-- The text of a `date` column of a loaded entity. -/
  dateText : Day → String
  /-- `dayjs(text).isValid()` -/
  dayjsIsValid : String → Bool
  /-- `new Date(text)` -/
  newDate : String → Time
  /-- The instant at which day 0 begins. -/
  midnight : Time
  dateText_eq : ∀ day, IsoDay day → dateText day = isoText day
  pgDate_isoText : ∀ day, IsoDay day → pgDate (isoText day) = some day
  dayjsIsValid_isoText : ∀ day, IsoDay day → dayjsIsValid (isoText day) = true
  dayjs_isoText : ∀ day, IsoDay day → dayjs (isoText day) = midnight + day * oneDay
  newDate_isoText : ∀ day, IsoDay day →
    newDate (isoText day ++ "T00:00:00") = midnight + day * oneDay

theorem oneDay_pos : 0 < oneDay := by decide

/-- `isBefore` and `isAfter` compare instants. -/
def datesOverlap (lib : DateLib) (start1 end1 start2 end2 : String) : Bool :=
  lib.dayjs start1 < lib.dayjs end2 && lib.dayjs start2 < lib.dayjs end1

/-- The loop over the days of a range: what `text` makes of every instant, from day to day,
before the end. -/
def datesBefore (text : Time → String) (current finish : Time) : List String :=
  if current < finish then text current :: datesBefore text (current + oneDay) finish else []
termination_by (finish - current).toNat
decreasing_by
  exact (Int.toNat_lt_toNat (sub_pos.mpr ‹current < finish›)).mpr
    (sub_lt_sub_left (lt_add_of_pos_right current oneDay_pos) finish)

/-- **What the loop lists.** -/
theorem mem_datesBefore {text : Time → String} {current finish : Time} {date : String} :
    date ∈ datesBefore text current finish ↔
      ∃ k : ℕ, current + k * oneDay < finish ∧ date = text (current + k * oneDay) := by
  -- Along the recursion of the loop: the first date, or one of the later ones.
  fun_induction datesBefore text current finish with
  | case1 current hlt ih =>
      rw [List.mem_cons, ih]
      have hshift : ∀ k : ℕ, current + oneDay + k * oneDay =
          current + ((k + 1 : ℕ) : ℤ) * oneDay := by
        intro k
        push_cast
        ring
      constructor
      · rintro (rfl | ⟨k, hk, rfl⟩)
        · exact ⟨0, by simpa using hlt, by simp⟩
        · exact ⟨k + 1, by rw [← hshift]; exact hk, by rw [hshift]⟩
      · rintro ⟨k, hk, rfl⟩
        cases k with
        | zero => exact .inl (by simp)
        | succ k => exact .inr ⟨k, by rw [hshift]; exact hk, by rw [hshift]⟩
  | case2 current hge =>
      refine iff_of_false List.not_mem_nil ?_
      rintro ⟨k, hk, -⟩
      have hlater : 0 ≤ (k : ℤ) * oneDay := mul_nonneg (Int.natCast_nonneg k) oneDay_pos.le
      exact hge ((le_add_of_nonneg_right hlater).trans_lt hk)

namespace CalendarLib

variable (lib : CalendarLib)

/-- The calendar day of an instant. -/
def localDay (time : Time) : Day :=
  (time - lib.midnight) / oneDay

@[simp] theorem localDay_midnight (day : Day) :
    lib.localDay (lib.midnight + day * oneDay) = day := by
  rw [localDay, add_sub_cancel_left, Int.mul_ediv_cancel _ oneDay_pos.ne']

/-- `format("YYYY-MM-DD")` -/
def format (time : Time) : String :=
  isoText (lib.localDay time)

def getDateRange (startDate endDate : String) : List String :=
  datesBefore lib.format (lib.dayjs startDate) (lib.dayjs endDate)

/-- The loop from midnight to midnight visits the days in between. -/
theorem mem_datesBefore_midnight {text : Time → String} {s e : Day} {date : String} :
    date ∈ datesBefore text (lib.midnight + s * oneDay) (lib.midnight + e * oneDay) ↔
      ∃ day, s ≤ day ∧ day < e ∧ date = text (lib.midnight + day * oneDay) := by
  have hshift : ∀ k : ℤ, lib.midnight + s * oneDay + k * oneDay =
      lib.midnight + (s + k) * oneDay := by
    intro k
    ring
  have hlt : ∀ k : ℤ, lib.midnight + (s + k) * oneDay < lib.midnight + e * oneDay ↔
      s + k < e := by
    intro k
    rw [add_lt_add_iff_left, mul_lt_mul_iff_left₀ oneDay_pos]
  rw [mem_datesBefore]
  constructor
  · rintro ⟨k, hk, rfl⟩
    rw [hshift, hlt] at hk
    exact ⟨s + k, le_add_of_nonneg_right (Int.natCast_nonneg k), hk, by rw [hshift]⟩
  · rintro ⟨day, hs, he, rfl⟩
    obtain ⟨k, hk⟩ := Int.eq_ofNat_of_zero_le (sub_nonneg.mpr hs)
    obtain rfl : day = s + k := eq_add_of_sub_eq' hk
    exact ⟨k, by rw [hshift, hlt]; exact he, by rw [hshift]⟩

/-- Elapsed days between two calendar dates. -/
theorem diffDays_midnight {startDate endDate : String} {s e : Day}
    (hs : lib.dayjs startDate = lib.midnight + s * oneDay)
    (he : lib.dayjs endDate = lib.midnight + e * oneDay) :
    lib.diffDays startDate endDate = e - s := by
  have helapsed : lib.dayjs endDate - lib.dayjs startDate = (e - s) * oneDay := by
    rw [hs, he]
    ring
  rw [DateLib.diffDays, helapsed, Int.mul_tdiv_cancel _ oneDay_pos.ne']

end CalendarLib

namespace Demo

/-- The time of day that follows the date in a text. -/
def timeOfDay : List Char → Time
  | 'T' :: h₁ :: h₂ :: ':' :: m₁ :: m₂ :: _ =>
      (readNumber [h₁, h₂]).getD 0 * hour + (readNumber [m₁, m₂]).getD 0 * minute
  | _ => 0

/-- A `date` column keeps the date at the beginning of the text. -/
def readDay (text : String) : Option Day :=
  (readDate text.toList).map Prod.fst

def readTime (text : String) : Time :=
  (readDate text.toList).elim 0 fun (day, rest) => day * oneDay + timeOfDay rest

theorem readTime_isoText {day : Day} (hday : IsoDay day) {rest : String}
    (hrest : timeOfDay rest.toList = 0) : readTime (isoText day ++ rest) = 0 + day * oneDay := by
  rw [readTime, String.toList_append, readDate_isoText hday]
  show day * oneDay + timeOfDay rest.toList = _
  rw [hrest]
  ring

/-- Libraries that read and write ISO texts, in UTC. -/
def isoDates : CalendarLib where
  pgDate := readDay
  dayjs := readTime
  dateText := isoText
  dayjsIsValid text := (readDate text.toList).isSome
  newDate := readTime
  midnight := 0
  dateText_eq _ _ := rfl
  pgDate_isoText day hday := by
    have hread := readDate_isoText hday []
    rw [List.append_nil] at hread
    rw [readDay, hread]
    rfl
  dayjsIsValid_isoText day hday := by
    have hread := readDate_isoText hday []
    rw [List.append_nil] at hread
    rw [hread]
    rfl
  dayjs_isoText day hday := by
    have hread := readTime_isoText hday (show timeOfDay "".toList = 0 from rfl)
    rwa [String.append_empty] at hread
  newDate_isoText day hday := readTime_isoText hday rfl

end Demo

end StayRide
