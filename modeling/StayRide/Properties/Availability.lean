import Mathlib.Data.List.Dedup
import Mathlib.Data.List.TFAE
import Mathlib.Tactic.TFAE
import StayRide.Bookings.Pricing

/-!
# Four views of the availability of a property

Whether a property is taken from one date to another can be read off in four ways: from
the query of `BookingsService`, from the one of `PropertiesController`, from `datesOverlap`
applied to the bookings, and by comparing the dates of the range with those that
`getUnavailableDates` lists.

All of them come down to the `WHERE` clause of the first query, on day numbers.  The two
queries have PostgreSQL read the texts.  For the lists of dates, two ranges that overlap
share a day, and the two loops write it in the same way.

They do not for a year before 1000: the controller writes the year as it is, `dayjs` puts
zeros in front (`views_differ_before_1000`).
-/

namespace StayRide

open Lib

/-! ## The controller -/

namespace PropertiesController

/-- The rows of `bookings` that the queries of the controller read. -/
def blocking (bookings : Table Booking) : List Booking :=
  bookings.filter fun b => b.status.blocksDates

/-- The body of the request. -/
structure AvailabilityBody where
  propertyIds : Option (List ResourceId)
  checkin : String
  checkout : String

def checkAvailability (lib : DateLib) (bookings : Table Booking) (body : AvailabilityBody) :
    Except HttpException (List ResourceId) :=
  match body.propertyIds.getD [] with
  | [] => .ok []
  | propertyIds =>
      match lib.pgDate body.checkout, lib.pgDate body.checkin with
      | some checkout, some checkin =>
          let rows := (blocking bookings).filter fun b =>
            b.propertyId.any (· ∈ propertyIds) && b.startDate < checkout && checkin < b.endDate
          .ok (rows.filterMap Booking.propertyId).dedup
      | _, _ => .error .queryFailed

variable (lib : CalendarLib)

/-- The year without zeros, month and day with two digits. -/
def dateText (time : Time) : String :=
  let date := CivilDate.ofDay (lib.localDay time)
  toString date.year ++ "-" ++ padStart 2 (toString date.month) ++ "-" ++
    padStart 2 (toString date.day)

/-- `TO_CHAR(day, 'YYYY-MM-DD')`, read again as a local time. -/
def parseDay (day : Day) : Time :=
  lib.newDate (isoText day ++ "T00:00:00")

def getUnavailableDates (bookings : Table Booking) (id : ResourceId) : List String :=
  ((blocking bookings).filter fun b => b.propertyId = some id).flatMap fun b =>
    datesBefore (dateText lib) (parseDay lib b.startDate) (parseDay lib b.endDate)

end PropertiesController

/-! ## Each view on day numbers -/

section Views

variable (lib : CalendarLib) {bookings : Table Booking} {p : ResourceId} {s e : Day}

/-- Some booking takes days of the property in the range. -/
def TakenBetween (bookings : Table Booking) (p : ResourceId) (s e : Day) : Prop :=
  ∃ b ∈ bookings, b.conflictsWith p .property s e = true

theorem conflictsWith_property_iff {b : Booking} :
    b.conflictsWith p .property s e = true ↔
      b.status.blocksDates = true ∧ b.propertyId = some p ∧ b.startDate < e ∧ s < b.endDate := by
  simp only [Booking.conflictsWith, Booking.isOf, Bool.and_eq_true, decide_eq_true_eq]
  tauto

theorem checkAvailability_false_iff (hs : IsoDay s) (he : IsoDay e) :
    checkAvailability lib.toDateLib bookings p .property (isoText s) (isoText e) = .ok false ↔
      TakenBetween bookings p s e := by
  rw [checkAvailability, lib.pgDate_isoText s hs, lib.pgDate_isoText e he]
  show Except.ok _ = Except.ok _ ↔ _
  rw [Except.ok.injEq, ← Bool.not_eq_true, isAvailable, decide_eq_true_iff, List.countP_eq_zero]
  simp [TakenBetween]

theorem listed_iff {ids : List ResourceId} (hp : p ∈ ids) (hs : IsoDay s) (he : IsoDay e) :
    (∃ listed, PropertiesController.checkAvailability lib.toDateLib bookings
        ⟨some ids, isoText s, isoText e⟩ = .ok listed ∧ p ∈ listed) ↔
      TakenBetween bookings p s e := by
  obtain ⟨id, rest, rfl⟩ := List.exists_cons_of_ne_nil (List.ne_nil_of_mem hp)
  simp only [PropertiesController.checkAvailability, Option.getD_some,
    lib.pgDate_isoText s hs, lib.pgDate_isoText e he, Except.ok.injEq, exists_eq_left',
    List.mem_dedup, List.mem_filterMap, List.mem_filter, PropertiesController.blocking,
    Bool.and_eq_true, decide_eq_true_eq, TakenBetween, conflictsWith_property_iff]
  refine exists_congr fun b => ?_
  constructor
  · rintro ⟨⟨⟨hb, hlive⟩, ⟨-, hbefore⟩, hafter⟩, hproperty⟩
    exact ⟨hb, hlive, hproperty, hbefore, hafter⟩
  · rintro ⟨hb, hlive, hproperty, hbefore, hafter⟩
    refine ⟨⟨⟨hb, hlive⟩, ⟨?_, hbefore⟩, hafter⟩, hproperty⟩
    rw [hproperty, Option.any_some]
    exact decide_eq_true hp

theorem datesOverlap_iff {s' e' : Day} (hs : IsoDay s) (he : IsoDay e) (hs' : IsoDay s')
    (he' : IsoDay e') :
    datesOverlap lib.toDateLib (lib.dateText s') (lib.dateText e') (isoText s) (isoText e) =
      true ↔ s' < e ∧ s < e' := by
  rw [datesOverlap, lib.dateText_eq s' hs', lib.dateText_eq e' he', lib.dayjs_isoText s hs,
    lib.dayjs_isoText e he, lib.dayjs_isoText s' hs', lib.dayjs_isoText e' he',
    Bool.and_eq_true, decide_eq_true_iff, decide_eq_true_iff, add_lt_add_iff_left,
    add_lt_add_iff_left, mul_lt_mul_iff_left₀ oneDay_pos, mul_lt_mul_iff_left₀ oneDay_pos]

theorem mem_getDateRange_iff (hs : IsoDay s) (he : IsoDay e) {date : String} :
    date ∈ lib.getDateRange (isoText s) (isoText e) ↔
      ∃ day, s ≤ day ∧ day < e ∧ date = isoText day := by
  rw [CalendarLib.getDateRange, lib.dayjs_isoText s hs, lib.dayjs_isoText e he,
    lib.mem_datesBefore_midnight]
  simp only [CalendarLib.format, lib.localDay_midnight]

/-- From the year 1000 on the controller writes dates as `dayjs` does. -/
theorem dateText_midnight {day : Day} (hday : IsoDay day) :
    PropertiesController.dateText lib (lib.midnight + day * oneDay) = isoText day := by
  obtain ⟨year, hyear, hlow, -⟩ := hday.year
  have hlength : 4 ≤ (toString (CivilDate.ofDay day).year).toList.length := by
    have hdigits := mt (Nat.length_toDigits_le_iff (b := 10) (n := year) (k := 3)
      (by decide) (by decide)).mp (not_lt.mpr hlow)
    rw [hyear]
    show 4 ≤ (toString year).toList.length
    rw [Nat.toString_eq_repr, Nat.toList_repr]
    omega
  rw [PropertiesController.dateText, isoText, lib.localDay_midnight, padStart_of_le hlength]

theorem mem_getUnavailableDates_iff
    (hiso : ∀ b ∈ bookings, IsoDay b.startDate ∧ IsoDay b.endDate) {date : String} :
    date ∈ PropertiesController.getUnavailableDates lib bookings p ↔
      ∃ b ∈ bookings, (b.status.blocksDates = true ∧ b.propertyId = some p) ∧
        ∃ day, b.startDate ≤ day ∧ day < b.endDate ∧ date = isoText day := by
  simp only [PropertiesController.getUnavailableDates, PropertiesController.blocking,
    List.mem_flatMap, List.mem_filter, decide_eq_true_eq, and_assoc]
  refine exists_congr fun b => and_congr_right fun hb => and_congr_right fun _ =>
    and_congr_right fun _ => ?_
  obtain ⟨hstart, hend⟩ := hiso b hb
  rw [PropertiesController.parseDay, PropertiesController.parseDay,
    lib.newDate_isoText _ hstart, lib.newDate_isoText _ hend, lib.mem_datesBefore_midnight]
  refine exists_congr fun day => and_congr_right fun hfrom => and_congr_right fun hbefore => ?_
  rw [dateText_midnight lib (hstart.between hend hfrom hbefore.le)]

/-- **Overlapping ranges share a date**, and only they do. -/
theorem shared_date_iff (hrows : ∀ b ∈ bookings, b.startDate < b.endDate)
    (hiso : ∀ b ∈ bookings, IsoDay b.startDate ∧ IsoDay b.endDate) (hse : s < e)
    (hs : IsoDay s) (he : IsoDay e) :
    (∃ date ∈ lib.getDateRange (isoText s) (isoText e),
        date ∈ PropertiesController.getUnavailableDates lib bookings p) ↔
      TakenBetween bookings p s e := by
  simp only [mem_getDateRange_iff lib hs he, mem_getUnavailableDates_iff lib hiso, TakenBetween,
    conflictsWith_property_iff]
  constructor
  · rintro ⟨-, ⟨day, hfrom, hbefore, rfl⟩, b, hb, ⟨hlive, hproperty⟩, day', hfrom', hbefore',
      htext⟩
    obtain ⟨hstart, hend⟩ := hiso b hb
    obtain rfl : day = day' := eq_of_isoText_eq (hs.between he hfrom hbefore.le)
      (hstart.between hend hfrom' hbefore'.le) htext
    exact ⟨b, hb, hlive, hproperty, hfrom'.trans_lt hbefore, hfrom.trans_lt hbefore'⟩
  · rintro ⟨b, hb, hlive, hproperty, hbefore, hafter⟩
    -- The later of the two first days belongs to both ranges.
    exact ⟨_, ⟨max b.startDate s, le_max_right _ _, max_lt hbefore hse, rfl⟩, b, hb,
      ⟨hlive, hproperty⟩, max b.startDate s, le_max_left _ _, max_lt (hrows b hb) hafter, rfl⟩

/-- **The four views agree** on calendar dates of the years 1000 to 9999, on every table of
non-empty stays in these years. -/
theorem availability_views_agree (hrows : ∀ b ∈ bookings, b.startDate < b.endDate)
    (hiso : ∀ b ∈ bookings, IsoDay b.startDate ∧ IsoDay b.endDate) (hse : s < e)
    (hs : IsoDay s) (he : IsoDay e) {ids : List ResourceId} (hp : p ∈ ids) :
    [checkAvailability lib.toDateLib bookings p .property (isoText s) (isoText e) = .ok false,
      ∃ listed, PropertiesController.checkAvailability lib.toDateLib bookings
        ⟨some ids, isoText s, isoText e⟩ = .ok listed ∧ p ∈ listed,
      ∃ b ∈ bookings, b.propertyId = some p ∧ b.status.blocksDates = true ∧
        datesOverlap lib.toDateLib (lib.dateText b.startDate) (lib.dateText b.endDate)
          (isoText s) (isoText e) = true,
      ∃ date ∈ lib.getDateRange (isoText s) (isoText e),
        date ∈ PropertiesController.getUnavailableDates lib bookings p].TFAE := by
  have hoverlap : (∃ b ∈ bookings, b.propertyId = some p ∧ b.status.blocksDates = true ∧
      datesOverlap lib.toDateLib (lib.dateText b.startDate) (lib.dateText b.endDate)
        (isoText s) (isoText e) = true) ↔ TakenBetween bookings p s e := by
    refine exists_congr fun b => and_congr_right fun hb => ?_
    rw [datesOverlap_iff lib hs he (hiso b hb).1 (hiso b hb).2, conflictsWith_property_iff]
    tauto
  tfae_have 1 ↔ 2 :=
    (checkAvailability_false_iff lib hs he).trans (listed_iff lib hp hs he).symm
  tfae_have 1 ↔ 3 := (checkAvailability_false_iff lib hs he).trans hoverlap.symm
  tfae_have 1 ↔ 4 :=
    (checkAvailability_false_iff lib hs he).trans (shared_date_iff lib hrows hiso hse hs he).symm
  tfae_finish

end Views

namespace Demo

/-- Somebody has booked the house for a night of the year 999. -/
def earlyBooked : Store :=
  (create isoDates.toDateLib (villa "0999-06-01" "0999-06-02") 1 0).storeAfter (Store.start [])

end Demo

/-- A stay from 4 to 7 July conflicts with the booking, in the first view and in the last. -/
theorem availability_views_agree_july :
    checkAvailability Demo.isoDates.toDateLib Demo.julyBooked.bookings "villa" .property
        (isoText 20273) (isoText 20276) = .ok false ∧
      ∃ date ∈ Demo.isoDates.getDateRange (isoText 20273) (isoText 20276),
        date ∈ PropertiesController.getUnavailableDates Demo.isoDates Demo.julyBooked.bookings
          "villa" := by
  have hrows : ∀ b ∈ Demo.julyBooked.bookings, b.startDate < b.endDate := by decide +kernel
  have hviews := availability_views_agree Demo.isoDates hrows (by decide +kernel)
    (by decide : (20273 : Day) < 20276) (by decide +kernel) (by decide +kernel)
    (List.mem_singleton_self "villa")
  have htaken : checkAvailability Demo.isoDates.toDateLib Demo.julyBooked.bookings "villa"
      .property (isoText 20273) (isoText 20276) = .ok false := by
    decide +kernel
  exact ⟨htaken, (hviews.out 0 3).mp htaken⟩

/-- **A night of the year 999** is taken, but `0999-06-01` is not among the dates that are
listed as unavailable: there it is `999-06-01`. -/
theorem views_differ_before_1000 :
    (∀ b ∈ Demo.earlyBooked.bookings, b.startDate < b.endDate) ∧
      checkAvailability Demo.isoDates.toDateLib Demo.earlyBooked.bookings "villa" .property
        (isoText (-354499)) (isoText (-354498)) = .ok false ∧
      ¬ ∃ date ∈ Demo.isoDates.getDateRange (isoText (-354499)) (isoText (-354498)),
        date ∈ PropertiesController.getUnavailableDates Demo.isoDates Demo.earlyBooked.bookings
          "villa" := by
  have hrange : Demo.isoDates.getDateRange (isoText (-354499)) (isoText (-354498)) =
      ["0999-06-01"] := by
    rw [CalendarLib.getDateRange, datesBefore, if_pos (by decide +kernel), datesBefore,
      if_neg (by decide +kernel)]
    decide +kernel
  have hlisted : PropertiesController.getUnavailableDates Demo.isoDates
      Demo.earlyBooked.bookings "villa" = ["999-06-01"] := by
    have hrows : ((PropertiesController.blocking Demo.earlyBooked.bookings).filter fun b =>
        b.propertyId = some "villa").map (fun b => (b.startDate, b.endDate)) =
          [(-354499, -354498)] := by
      decide +kernel
    obtain ⟨b, hb, hdates⟩ := List.map_eq_singleton_iff.mp hrows
    obtain ⟨hstart, hend⟩ := Prod.mk.inj hdates
    rw [PropertiesController.getUnavailableDates, hb, List.flatMap_singleton, hstart, hend,
      datesBefore, if_pos (by decide +kernel), datesBefore, if_neg (by decide +kernel)]
    decide +kernel
  refine ⟨by decide +kernel, by decide +kernel, ?_⟩
  rw [hrange, hlisted]
  decide

end StayRide
