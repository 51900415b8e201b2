import StayRide.Properties.Availability

/-!
# Loops over days and counts of days

The days of a stay are enumerated twice: `getDateRange` steps a `dayjs` instant from day to
day and formats it, `getUnavailableDates` steps a `Date` with `setDate(getDate() + 1)` and
pastes year, month and day together.  They are counted a third time by `countNights`, from
elapsed time, and compared a fourth time by `extend`, as texts.

`setDate` works on the fields of the calendar, so that the step goes over the end of a month
and of a year; `setDate_getDate_add_one` says that it is a step of one day.  With it both
loops are the list of the days from the first to the last (`datesBefore_midnight`), and
`day_loops_agree` puts the four together.
-/

namespace StayRide

open Lib

/-! ## The step of the controller -/

namespace CalendarLib

variable (lib : CalendarLib)

/-- `getDate()`: the day of the month. -/
def getDate (time : Time) : ℤ :=
  (CivilDate.ofDay (lib.localDay time)).day

/-- `setDate(date)`: another day, counted from the first of the month, at the same time. -/
def setDate (time : Time) (date : ℤ) : Time :=
  let c := CivilDate.ofDay (lib.localDay time)
  lib.midnight + CivilDate.makeDay c.year c.month date * oneDay + (time - lib.midnight) % oneDay

/-- **The step of the loop** is one day, whatever the day is. -/
theorem setDate_getDate_add_one (time : Time) :
    lib.setDate time (lib.getDate time + 1) = time + oneDay := by
  unfold setDate getDate
  dsimp only
  rw [CivilDate.makeDay_ofDay, localDay]
  have hparts := Int.mul_ediv_add_emod (time - lib.midnight) oneDay
  calc lib.midnight + ((time - lib.midnight) / oneDay + 1) * oneDay +
        (time - lib.midnight) % oneDay
      = lib.midnight + (oneDay * ((time - lib.midnight) / oneDay) +
          (time - lib.midnight) % oneDay) + oneDay := by ring
    _ = time + oneDay := by rw [hparts]; ring

end CalendarLib

namespace PropertiesController

variable (lib : CalendarLib)

/-- The loop of `getUnavailableDates` for one booking. -/
def dayLoop (d finish : Time) : List String :=
  if d < finish then
    dateText lib d :: dayLoop (lib.setDate d (lib.getDate d + 1)) finish
  else []
termination_by (finish - d).toNat
decreasing_by
  rw [lib.setDate_getDate_add_one]
  exact (Int.toNat_lt_toNat (sub_pos.mpr ‹d < finish›)).mpr
    (sub_lt_sub_left (lt_add_of_pos_right d oneDay_pos) finish)

theorem dayLoop_eq_datesBefore (d finish : Time) :
    dayLoop lib d finish = datesBefore (dateText lib) d finish := by
  fun_induction dayLoop lib d finish with
  | case1 d hlt ih =>
      rw [ih, lib.setDate_getDate_add_one]
      conv_rhs => rw [datesBefore, if_pos hlt]
  | case2 d hge => rw [datesBefore, if_neg hge]

/-- `getUnavailableDates` runs the loop for every booking of the property. -/
theorem getUnavailableDates_eq_flatMap (bookings : Table Booking) (id : ResourceId) :
    getUnavailableDates lib bookings id =
      ((blocking bookings).filter fun b => b.propertyId = some id).flatMap fun b =>
        dayLoop lib (parseDay lib b.startDate) (parseDay lib b.endDate) := by
  simp only [getUnavailableDates, dayLoop_eq_datesBefore]

end PropertiesController

/-! ## What the loops list -/

section Loops

variable (lib : CalendarLib)

/-- **The loop from midnight to midnight** lists the days in between, in order. -/
theorem datesBefore_midnight (text : Time → String) (s : Day) (n : ℕ) :
    datesBefore text (lib.midnight + s * oneDay) (lib.midnight + (s + n) * oneDay) =
      (List.range n).map fun k => text (lib.midnight + (s + (k : ℕ)) * oneDay) := by
  -- By induction on the number of days: the first one, and those from the next on.
  induction n generalizing s with
  | zero =>
      rw [datesBefore, if_neg]
      · rfl
      · simp
  | succ n ih =>
      have hnext : lib.midnight + s * oneDay + oneDay = lib.midnight + (s + 1) * oneDay := by ring
      have hlast : lib.midnight + (s + ((n + 1 : ℕ) : ℤ)) * oneDay =
          lib.midnight + (s + 1 + n) * oneDay := by
        push_cast
        ring
      have hbefore : lib.midnight + s * oneDay <
          lib.midnight + (s + ((n + 1 : ℕ) : ℤ)) * oneDay := by
        rw [add_lt_add_iff_left, mul_lt_mul_iff_left₀ oneDay_pos]
        exact lt_add_of_pos_right s (Int.natCast_pos.mpr n.succ_pos)
      rw [datesBefore, if_pos hbefore, hnext, hlast, ih, List.range_succ_eq_map, List.map_cons,
        List.map_map]
      congr 1
      · simp
      · refine List.map_congr_left fun k _ => ?_
        simp only [Function.comp_apply, Nat.succ_eq_add_one]
        push_cast
        ring_nf

variable {lib} {s m e : Day}

/-- A day on the way from the first to the last day. -/
theorem isoDay_add (hs : IsoDay s) {n k : ℕ} (he : IsoDay (s + n)) (hk : k ≤ n) :
    IsoDay (s + k) :=
  hs.between he (le_add_of_nonneg_right (Int.natCast_nonneg k))
    (add_le_add_right (Int.ofNat_le.mpr hk) s)

/-- The dates of a range are the texts of its days. -/
theorem getDateRange_isoText (hs : IsoDay s) {n : ℕ} (he : IsoDay (s + n)) :
    lib.getDateRange (isoText s) (isoText (s + n)) =
      (List.range n).map fun k => isoText (s + (k : ℕ)) := by
  rw [CalendarLib.getDateRange, lib.dayjs_isoText s hs, lib.dayjs_isoText _ he,
    datesBefore_midnight]
  simp only [CalendarLib.format, lib.localDay_midnight]

/-- The loop of the controller lists the same texts. -/
theorem dayLoop_isoText (hs : IsoDay s) {n : ℕ} (he : IsoDay (s + n)) :
    PropertiesController.dayLoop lib (PropertiesController.parseDay lib s)
        (PropertiesController.parseDay lib (s + n)) =
      (List.range n).map fun k => isoText (s + (k : ℕ)) := by
  rw [PropertiesController.dayLoop_eq_datesBefore, PropertiesController.parseDay,
    PropertiesController.parseDay, lib.newDate_isoText s hs, lib.newDate_isoText _ he,
    datesBefore_midnight]
  refine List.map_congr_left fun k hk => ?_
  exact dateText_midnight lib (isoDay_add hs he (List.mem_range.mp hk).le)

theorem countNights_isoText (hs : IsoDay s) (he : IsoDay e) :
    lib.countNights (isoText s) (isoText e) = e - s :=
  lib.diffDays_midnight (lib.dayjs_isoText s hs) (lib.dayjs_isoText e he)

/-- Texts compare as days do. -/
theorem isoText_lt_iff {a b : Day} (ha : IsoDay a) (hb : IsoDay b) :
    isoText a < isoText b ↔ a < b := by
  constructor
  · intro htext
    by_contra hge
    rcases (not_lt.mp hge).lt_or_eq with hlt | rfl
    · exact String.lt_asymm htext (isoText_lt_isoText hb ha hlt)
    · exact String.lt_irrefl _ htext
  · exact isoText_lt_isoText ha hb

end Loops

/-- **Loops and counts of days agree.**  For dates `s ≤ m ≤ e` with years of four digits the
dates of the range increase strictly, they are those from `s` on and before `e`, there are as
many as nights, and a range can be cut in two.  The loop of the controller lists the same
dates, and of any two dates the first text is the smaller one exactly if there is a night
between them. -/
theorem day_loops_agree (lib : CalendarLib) (s m e : Day) (hs : IsoDay s) (hm : IsoDay m)
    (he : IsoDay e) (hsm : s ≤ m) (hme : m ≤ e) :
    let dates := lib.getDateRange (isoText s) (isoText e)
    dates.Pairwise (· < ·) ∧ dates.Nodup ∧
    (∀ date, date ∈ dates ↔ ∃ day, s ≤ day ∧ day < e ∧ date = isoText day) ∧
    dates.length = lib.countNights (isoText s) (isoText e) ∧
    lib.getDateRange (isoText s) (isoText m) ++ lib.getDateRange (isoText m) (isoText e) =
      dates ∧
    PropertiesController.dayLoop lib (PropertiesController.parseDay lib s)
      (PropertiesController.parseDay lib e) = dates ∧
    ∀ a b : Day, IsoDay a → IsoDay b →
      (isoText a < isoText b ↔ 1 ≤ lib.countNights (isoText a) (isoText b)) := by
  obtain ⟨k, hk⟩ := Int.eq_ofNat_of_zero_le (sub_nonneg.mpr hsm)
  obtain ⟨l, hl⟩ := Int.eq_ofNat_of_zero_le (sub_nonneg.mpr hme)
  obtain rfl : m = s + k := eq_add_of_sub_eq' hk
  obtain rfl : e = s + (k + l : ℕ) := by
    rw [Nat.cast_add, ← add_assoc]
    exact eq_add_of_sub_eq' hl
  have hrange : lib.getDateRange (isoText s) (isoText (s + (k + l : ℕ))) =
      (List.range (k + l)).map fun i => isoText (s + (i : ℕ)) :=
    getDateRange_isoText hs he
  have hsorted : ((List.range (k + l)).map fun i => isoText (s + (i : ℕ))).Pairwise (· < ·) := by
    rw [List.pairwise_map]
    refine List.pairwise_lt_range.imp_of_mem fun {i j} hi hj hij => ?_
    exact isoText_lt_isoText (isoDay_add hs he (List.mem_range.mp hi).le)
      (isoDay_add hs he (List.mem_range.mp hj).le) (add_lt_add_right (Int.ofNat_lt.mpr hij) s)
  have hmem := fun date => @mem_getDateRange_iff lib _ _ hs he date
  rw [hrange] at hmem
  dsimp only
  rw [hrange]
  refine ⟨hsorted, hsorted.imp fun {a b} hlt => hlt.ne, hmem, ?_, ?_, dayLoop_isoText hs he, ?_⟩
  · rw [List.length_map, List.length_range, countNights_isoText hs he, add_sub_cancel_left]
  · -- The second range begins where the first one ends.
    have hend : s + ((k + l : ℕ) : ℤ) = s + k + l := by
      rw [Nat.cast_add, add_assoc]
    rw [hend] at he ⊢
    rw [getDateRange_isoText hs hm, getDateRange_isoText hm he, List.range_add, List.map_append,
      List.map_map, List.append_cancel_left_eq]
    refine List.map_congr_left fun i _ => ?_
    rw [Function.comp_apply, Nat.cast_add, add_assoc]
  · intro a b ha hb
    rw [isoText_lt_iff ha hb, countNights_isoText ha hb, ← sub_pos]
    exact Int.add_one_le_iff.symm

/-- From the end of February over the leap day: three dates, cut after the first. -/
theorem day_loops_agree_leap :
    Demo.isoDates.getDateRange (isoText 19781) (isoText 19784) =
        ["2024-02-28", "2024-02-29", "2024-03-01"] ∧
      Demo.isoDates.countNights (isoText 19781) (isoText 19784) = 3 ∧
      PropertiesController.dayLoop Demo.isoDates
        (PropertiesController.parseDay Demo.isoDates 19781)
        (PropertiesController.parseDay Demo.isoDates 19784) =
          ["2024-02-28", "2024-02-29", "2024-03-01"] := by
  have hdates : Demo.isoDates.getDateRange (isoText 19781) (isoText 19784) =
      ["2024-02-28", "2024-02-29", "2024-03-01"] := by
    have hrange : Demo.isoDates.getDateRange (isoText 19781) (isoText 19784) =
        (List.range 3).map fun i => isoText (19781 + (i : ℕ)) :=
      getDateRange_isoText (n := 3) (by decide +kernel) (by decide +kernel)
    refine hrange.trans ?_
    decide +kernel
  obtain ⟨-, -, -, hlength, -, hloop, -⟩ := day_loops_agree Demo.isoDates 19781 19782 19784
    (by decide +kernel) (by decide +kernel) (by decide +kernel) (by decide) (by decide)
  refine ⟨hdates, ?_, hloop.trans hdates⟩
  rw [← hlength, hdates]
  rfl

end StayRide
