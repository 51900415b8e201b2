import StayRide.Bookings.Pricing
import StayRide.Lib.JsNumber

/-!
# `BookingsService.extend`

A customer asks for more nights or days.  The method compares the new end with the current
one as texts, checks that the resource is free in between, and records a request with the
surcharge; the booking itself does not change.

The surcharge is the base price, divided by the booked nights or days and multiplied by the
new ones.  A division by zero gives `NaN` or an infinite number; a day count that `dayjs`
cannot make is `NaN` too, which the integer column refuses.

* `extension_pricing_additive`: at an integer price, the surcharge is what `create` would
  have charged in addition.
* `extension_accepted_iff`: the method accepts exactly what leaves the calendar free of
  double bookings, as long as the surcharge fits its column.
-/

namespace StayRide

open Lib

/-- The body of the request: the endpoint does not validate it. -/
structure ExtendBookingDto where
  newEndDate : String
  notes : Option String := none

inductive ExtensionStatus
  | pending | confirmed | rejected | cancelled
  deriving DecidableEq

/-- A row of `booking_extensions`. -/
structure BookingExtension where
  bookingId : BookingId
  requestedBy : UserId
  previousEndDate : Day
  newEndDate : Day
  extraNightsDays : ℤ
  extraAmount : NumericColumn 12 2
  status : ExtensionStatus
  notes : Option String
  deriving DecidableEq

/-- The store of the booking side, with the extensions and the `booking.extension_requested`
events. -/
structure ExtensionStore extends Store where
  extensions : Table BookingExtension
  requested : List (Booking × BookingExtension)

/-! ## The surcharge -/

section Surcharge

variable (lib : CalendarLib)

/-- Nights of a house, days of a car; `none` is `NaN`. -/
def countUnits (resourceType : ResourceType) (startDate endDate : String) : Option ℤ :=
  if lib.dayjsIsValid startDate && lib.dayjsIsValid endDate then
    match resourceType with
    | .property => some (lib.countNights startDate endDate)
    | .car => some (lib.countDays startDate endDate)
  else none

def pricePerUnit (resourceType : ResourceType) (basePrice : ℚ) (startDate endDate : String) :
    JsNumber :=
  match countUnits lib resourceType startDate endDate with
  | some units => .quotient basePrice units
  | none => .nan

def extraAmount (resourceType : ResourceType) (basePrice : ℚ) (startDate endDate : String)
    (units : ℤ) : JsNumber :=
  ((pricePerUnit lib resourceType basePrice startDate endDate).scale units).mathRound

end Surcharge

/-! ## The method -/

/-- A number on its way into an `integer` column. -/
def toInt4 (n : ℤ) : Option ℤ :=
  if -2147483648 ≤ n ∧ n ≤ 2147483647 then some n else none

section Extend

variable (lib : CalendarLib)

/-- `booking.propertyId || booking.carId` -/
def Booking.resource (b : Booking) : Option ResourceId :=
  (textOrNull b.propertyId).or b.carId

/-- The availability query from the current end on; `property_id = NULL` selects nothing. -/
def extensionAvailable (bookings : Table Booking) (b : Booking) (newEndDate : String) :
    Except HttpException Bool :=
  match b.resource with
  | some resourceId =>
      checkAvailability lib.toDateLib bookings resourceId b.resourceType
        (lib.dateText b.endDate) newEndDate
  | none =>
      match lib.pgDate (lib.dateText b.endDate), lib.pgDate newEndDate with
      | some _, some _ => .ok true
      | _, _ => .error .queryFailed

/-- The row that is saved; `none` when the database refuses a column. -/
def extensionRow (bookingId : BookingId) (dto : ExtendBookingDto) (customerId : UserId)
    (b : Booking) : Option BookingExtension := do
  let previousEndDate ← lib.pgDate (lib.dateText b.endDate)
  let newEndDate ← lib.pgDate dto.newEndDate
  let units ← (countUnits lib b.resourceType (lib.dateText b.endDate) dto.newEndDate) >>= toInt4
  let amount ← (extraAmount lib b.resourceType b.basePrice.toRat (lib.dateText b.startDate)
    (lib.dateText b.endDate) units).toNumeric
  return {
    bookingId := bookingId
    requestedBy := customerId
    previousEndDate := previousEndDate
    newEndDate := newEndDate
    extraNightsDays := units
    extraAmount := amount
    status := .pending
    notes := dto.notes }

def extend (bookingId : BookingId) (dto : ExtendBookingDto) (customerId : UserId) :
    ServiceM ExtensionStore BookingExtension := do
  let store ← get
  match store.bookings[bookingId]?.filter fun b => b.customerId = customerId with
  | none => throw (.notFound "Réservation introuvable")
  | some booking =>
      if booking.status ≠ .confirmed ∧ booking.status ≠ .active then
        throw (.badRequest
          "Seules les réservations confirmées ou actives peuvent être prolongées")
      if dto.newEndDate ≤ lib.dateText booking.endDate then
        throw (.badRequest "La nouvelle date de fin doit être après la date de fin actuelle")
      match extensionAvailable lib store.bookings booking dto.newEndDate with
      | .error e => throw e
      | .ok false => throw (.conflict "Ces dates ne sont pas disponibles pour la prolongation")
      | .ok true =>
          match extensionRow lib bookingId dto customerId booking with
          | none => throw .queryFailed
          | some extension =>
              set { store with
                extensions := store.extensions.insertRow extension
                requested := store.requested ++ [(booking, extension)] }
              return extension

/-- **A complete `extend`** that returns: every check has passed, and the row is saved. -/
theorem run_extend_eq_ok {bookingId : BookingId} {dto : ExtendBookingDto} {customerId : UserId}
    {store store' : ExtensionStore} {extension : BookingExtension} :
    (extend lib bookingId dto customerId).run store = .ok extension store' ↔
      ∃ b, store.bookings[bookingId]? = some b ∧ b.customerId = customerId ∧
        (b.status = .confirmed ∨ b.status = .active) ∧
        ¬ dto.newEndDate ≤ lib.dateText b.endDate ∧
        extensionAvailable lib store.bookings b dto.newEndDate = .ok true ∧
        extensionRow lib bookingId dto customerId b = some extension ∧
        store' = { store with
          extensions := store.extensions.insertRow extension
          requested := store.requested ++ [(b, extension)] } := by
  cases hb : store.bookings[bookingId]? with
  | none => simp [extend, hb]
  | some b =>
      simp only [Option.some.injEq, exists_eq_left']
      by_cases howner : b.customerId = customerId
      · by_cases hstatus : b.status ≠ .confirmed ∧ b.status ≠ .active
        · simp [extend, hb, howner, hstatus, Option.filter]
        · by_cases hearly : dto.newEndDate ≤ lib.dateText b.endDate
          · simp [extend, hb, howner, hstatus, hearly, Option.filter]
          · cases havailable : extensionAvailable lib store.bookings b dto.newEndDate with
            | error e => simp [extend, hb, howner, hstatus, hearly, havailable, Option.filter]
            | ok free =>
                cases free with
                | false => simp [extend, hb, howner, hstatus, hearly, havailable, Option.filter]
                | true =>
                    cases hrow : extensionRow lib bookingId dto customerId b with
                    | none =>
                        simp [extend, hb, howner, hstatus, hearly, havailable, hrow, Option.filter]
                    | some row =>
                        have hopen : b.status = .confirmed ∨ b.status = .active := by tauto
                        have hrun : (extend lib bookingId dto customerId).run store =
                            .ok row { store with
                              extensions := store.extensions.insertRow row
                              requested := store.requested ++ [(b, row)] } := by
                          simp [extend, hb, howner, hstatus, hearly, havailable, hrow,
                            Option.filter]
                        rw [hrun, EStateM.Result.ok.injEq]
                        constructor
                        · rintro ⟨rfl, rfl⟩
                          exact ⟨howner, hopen, hearly, rfl, rfl, rfl⟩
                        · rintro ⟨-, -, -, -, hsame, rfl⟩
                          obtain rfl := Option.some.inj hsame
                          exact ⟨rfl, rfl⟩
      · simp [extend, hb, howner, Option.filter]

/-- What a row holds that the database has accepted. -/
theorem extensionRow_eq_some {bookingId : BookingId} {dto : ExtendBookingDto}
    {customerId : UserId} {b : Booking} {extension : BookingExtension}
    (h : extensionRow lib bookingId dto customerId b = some extension) :
    lib.pgDate (lib.dateText b.endDate) = some extension.previousEndDate ∧
      lib.pgDate dto.newEndDate = some extension.newEndDate ∧
      countUnits lib b.resourceType (lib.dateText b.endDate) dto.newEndDate =
        some extension.extraNightsDays ∧
      (extraAmount lib b.resourceType b.basePrice.toRat (lib.dateText b.startDate)
        (lib.dateText b.endDate) extension.extraNightsDays).toNumeric =
          some extension.extraAmount := by
  simp only [extensionRow, Option.bind_eq_bind, Option.bind_eq_some_iff, Option.pure_def,
    Option.some.injEq, toInt4, Option.ite_none_right_eq_some] at h
  obtain ⟨previous, hprevious, new, hnew, units, ⟨units', hunits, -, rfl⟩, amount, hamount, rfl⟩ :=
    h
  exact ⟨hprevious, hnew, hunits, hamount⟩

end Extend

/-! ## Calendar dates -/

section CalendarDates

variable (lib : CalendarLib)

/-- The text is that of a calendar date: `dayjs` reads its midnight. -/
structure ReadsAsDay (text : String) (day : Day) : Prop where
  valid : lib.dayjsIsValid text = true
  midnight : lib.dayjs text = lib.midnight + day * oneDay

theorem readsAsDay_isoText {day : Day} (hday : IsoDay day) : ReadsAsDay lib (isoText day) day :=
  ⟨lib.dayjsIsValid_isoText day hday, lib.dayjs_isoText day hday⟩

variable {lib} {startDate endDate newEndDate : String} {s e n : Day}

/-- Between calendar dates the units are the days in between, for houses and cars. -/
theorem countUnits_of_days (hs : ReadsAsDay lib startDate s) (he : ReadsAsDay lib endDate e)
    (resourceType : ResourceType) :
    countUnits lib resourceType startDate endDate = some (e - s) := by
  have hdays := lib.diffDays_midnight hs.midnight he.midnight
  unfold countUnits
  rw [hs.valid, he.valid]
  cases resourceType with
  | property => exact congrArg some hdays
  | car => exact congrArg some hdays

/-- The surcharge on a stay of at least one night or day. -/
theorem extraAmount_of_days (hs : ReadsAsDay lib startDate s) (he : ReadsAsDay lib endDate e)
    (hse : s < e) (resourceType : ResourceType) (basePrice : ℚ) (units : ℤ) :
    extraAmount lib resourceType basePrice startDate endDate units =
      .finite (round (basePrice / (e - s) * units)) := by
  have hnights : ((e - s : ℤ) : ℚ) ≠ 0 := by
    exact_mod_cast sub_ne_zero.mpr hse.ne'
  rw [extraAmount, pricePerUnit, countUnits_of_days hs he]
  show ((JsNumber.quotient basePrice ((e - s : ℤ) : ℚ)).scale units).mathRound = _
  refine (JsNumber.mathRound_scale_quotient_eq_finite_iff).mpr ⟨hnights, ?_⟩
  push_cast
  rfl

/-- The surcharge at an integer price. -/
theorem extraAmount_of_price (hs : ReadsAsDay lib startDate s) (he : ReadsAsDay lib endDate e)
    (hse : s < e) (resourceType : ResourceType) (price units : ℤ) :
    extraAmount lib resourceType (price * (e - s)) startDate endDate units =
      .finite (price * units) := by
  have hnights : (e : ℚ) - s ≠ 0 := by
    exact_mod_cast sub_ne_zero.mpr hse.ne'
  rw [extraAmount_of_days hs he hse, mul_div_cancel_right₀ _ hnights, ← Int.cast_mul,
    round_intCast]

theorem basePriceAt_of_days (hs : ReadsAsDay lib startDate s) (he : ReadsAsDay lib endDate e)
    (resourceType : ResourceType) (price : ℤ) :
    basePriceAt lib.toDateLib resourceType price startDate endDate = price * (e - s) := by
  rw [basePriceAt_intCast, lib.diffDays_midnight hs.midnight he.midnight]
  push_cast
  rfl

end CalendarDates

/-- The booking names one resource, of its type. -/
def Booking.Names (b : Booking) (resourceId : ResourceId) : Prop :=
  resourceId ≠ "" ∧
    match b.resourceType with
    | .property => b.propertyId = some resourceId ∧ b.carId = none
    | .car => b.propertyId = none ∧ b.carId = some resourceId

theorem Booking.Names.resource_eq {b : Booking} {resourceId : ResourceId}
    (h : b.Names resourceId) : b.resource = some resourceId := by
  obtain ⟨hne, h⟩ := h
  unfold Booking.resource textOrNull
  cases htype : b.resourceType with
  | property =>
      rw [htype] at h
      simp [h.1, hne, Option.filter]
  | car =>
      rw [htype] at h
      simp [h.1, h.2]

/-- Such a booking shares its resource with the bookings that the query selects. -/
theorem Booking.Names.sameResource_iff {b : Booking} {resourceId : ResourceId}
    (h : b.Names resourceId) (other : Booking) :
    b.stay.SameResource other.stay ↔ other.isOf b.resourceType resourceId = true := by
  obtain ⟨-, h⟩ := h
  unfold Stay.SameResource
  constructor
  · rintro ⟨resourceType, id, hb, hother⟩
    rw [Booking.stay_isOf] at hb hother
    cases htype : b.resourceType <;> rw [htype] at h <;> cases resourceType <;>
      simp_all [Booking.isOf]
  · intro hother
    refine ⟨b.resourceType, resourceId, ?_, (Booking.stay_isOf _ _ _).mpr hother⟩
    rw [Booking.stay_isOf]
    cases htype : b.resourceType <;> rw [htype] at h <;> simp [Booking.isOf, h]

/-- The same stay up to another day. -/
def Stay.until (stay : Stay) (day : Day) : Stay :=
  { stay with endDate := day }

section Acceptance

variable {lib : CalendarLib} {b : Booking} {n : Day} {resourceId : ResourceId}

/-- The surcharge has at most ten digits before the point. -/
def SurchargeFits (b : Booking) (n : Day) : Prop :=
  |round (b.basePrice.toRat / (b.endDate - b.startDate) * (n - b.endDate))| * 10 ^ 2 < 10 ^ 12

/-- The database accepts the row for a calendar date if the surcharge fits. -/
theorem exists_extensionRow_iff (lib : CalendarLib) (hstart : IsoDay b.startDate)
    (hend : IsoDay b.endDate) (hn : IsoDay n) (hstay : b.startDate < b.endDate)
    (bookingId : BookingId) (notes : Option String) (customerId : UserId) :
    (∃ extension, extensionRow lib bookingId ⟨isoText n, notes⟩ customerId b = some extension) ↔
      SurchargeFits b n := by
  have hs := readsAsDay_isoText lib hstart
  have he := readsAsDay_isoText lib hend
  have hint : toInt4 (n - b.endDate) = some (n - b.endDate) := by
    have hbound : yearStart 10000 - yearStart 1000 < 2147483648 := by decide
    obtain ⟨hlow, hhigh⟩ := hn
    obtain ⟨hlow', hhigh'⟩ := hend
    refine if_pos ⟨?_, ?_⟩
    · linarith
    · linarith
  have hamount : extraAmount lib b.resourceType b.basePrice.toRat (isoText b.startDate)
      (isoText b.endDate) (n - b.endDate) =
        .finite (round (b.basePrice.toRat / (b.endDate - b.startDate) * (n - b.endDate))) := by
    rw [extraAmount_of_days hs he hstay]
    push_cast
    rfl
  simp only [extensionRow, lib.dateText_eq _ hstart, lib.dateText_eq _ hend,
    lib.pgDate_isoText _ hend, lib.pgDate_isoText _ hn,
    countUnits_of_days he (readsAsDay_isoText lib hn), Option.bind_eq_bind, Option.bind_some, hint,
    hamount, JsNumber.toNumeric]
  rw [SurchargeFits, ← not_le, ← Decimal.ofRat_intCast_eq_none_iff]
  cases (Decimal.ofRat _ : Option Amount) <;> simp

theorem extensionAvailable_iff (hnames : b.Names resourceId) (hend : IsoDay b.endDate)
    (hn : IsoDay n) {bookings : Table Booking} :
    extensionAvailable lib bookings b (isoText n) = .ok true ↔
      ∀ (i : ℕ) (other : Booking), bookings[i]? = some other →
        other.conflictsWith resourceId b.resourceType b.endDate n = false := by
  rw [extensionAvailable, hnames.resource_eq]
  dsimp only
  rw [checkAvailability, lib.dateText_eq _ hend, lib.pgDate_isoText _ hend,
    lib.pgDate_isoText _ hn]
  dsimp only
  rw [Except.ok.injEq, isAvailable_eq_true]

theorem conflictsWith_eq_false_iff {other : Booking} {resourceType : ResourceType} {s e : Day} :
    other.conflictsWith resourceId resourceType s e = false ↔
      (other.status.blocksDates = true → other.isOf resourceType resourceId = true →
        ¬ (other.startDate < e ∧ s < other.endDate)) := by
  rw [← Bool.not_eq_true, Booking.conflictsWith]
  simp only [Bool.and_eq_true, decide_eq_true_eq]
  tauto

/-- **The added days decide.**  A stay that is compatible with another stays so when it is
prolonged, unless the other one has some of the added days. -/
theorem Stay.until_compatible_iff {a c : Stay} (ha : a.startDate < a.endDate)
    (hc : c.startDate < c.endDate) (hn : a.endDate < n) (h : a.Compatible c) :
    (a.until n).Compatible c ↔
      (a.status.blocksDates → c.status.blocksDates → a.SameResource c →
        ¬ (c.startDate < n ∧ a.endDate < c.endDate)) := by
  refine forall_congr' fun halive => forall_congr' fun hclive => forall_congr' fun hres => ?_
  have hbefore := (disjoint_iff_not_overlap ha hc).mp (h halive hclive hres)
  show Disjoint (Set.Ico a.startDate n) (Set.Ico c.startDate c.endDate) ↔ _
  rw [disjoint_iff_not_overlap (ha.trans hn) hc]
  constructor
  · rintro hfree ⟨hstarts, hends⟩
    exact hfree ⟨ha.trans hends, hstarts⟩
  · rintro hadded ⟨hstart, hstarts⟩
    -- The other stay begins after the booked days, so it lies in the added ones.
    have hlater : a.endDate ≤ c.startDate := not_lt.mp fun hlt => hbefore ⟨hstart, hlt⟩
    exact hadded ⟨hstarts, hlater.trans_lt hc⟩

section Stored

variable (lib) {store : ExtensionStore} {id : BookingId} (hb : store.bookings[id]? = some b)
include hb

/-- For a later end of one's own booking, the call succeeds if the added days are available
and the row is accepted. -/
theorem extend_succeeds_iff (hstatus : b.status = .confirmed ∨ b.status = .active)
    (dto : ExtendBookingDto) (htext : ¬ dto.newEndDate ≤ lib.dateText b.endDate) :
    (extend lib id dto b.customerId).succeeds store = true ↔
      extensionAvailable lib store.bookings b dto.newEndDate = .ok true ∧
        ∃ extension, extensionRow lib id dto b.customerId b = some extension := by
  rw [ServiceM.succeeds_iff]
  constructor
  · rintro ⟨extension, store', hrun⟩
    obtain ⟨b', hb', -, -, -, havailable, hsaved, -⟩ := (run_extend_eq_ok lib).mp hrun
    obtain rfl := Option.some.inj (hb.symm.trans hb')
    exact ⟨havailable, extension, hsaved⟩
  · rintro ⟨havailable, extension, hsaved⟩
    exact ⟨extension, _, (run_extend_eq_ok lib).mpr
      ⟨b, hb, rfl, hstatus, htext, havailable, hsaved, rfl⟩⟩

/-- **The query sees no conflict** exactly if the prolonged stay is compatible with all
others. -/
theorem extensionAvailable_iff_noDoubleBooking (hlive : b.status.blocksDates = true)
    (hnames : b.Names resourceId) (hrows : ∀ row ∈ store.bookings, row.startDate < row.endDate)
    (hfree : NoDoubleBooking store.calendar) (hend : IsoDay b.endDate) (hn : IsoDay n)
    (hlater : b.endDate < n) :
    extensionAvailable lib store.bookings b (isoText n) = .ok true ↔
      NoDoubleBooking (store.calendar.updateById id fun stay => stay.until n) := by
  have hstay := getElem?_calendar_of_some hb
  rw [extensionAvailable_iff hnames hend hn, NoDoubleBooking,
    Table.PairwiseRows.updateById_iff Stay.Compatible.symm hfree]
  have hothers : ∀ (i : BookingId) (other : Booking), i ≠ id →
      store.bookings[i]? = some other →
        ((b.stay.until n).Compatible other.stay ↔
          other.conflictsWith resourceId b.resourceType b.endDate n = false) := by
    intro i other hi hother
    have hcompatible := hfree id i b.stay other.stay (Ne.symm hi) hstay
      (getElem?_calendar_of_some hother)
    rw [Stay.until_compatible_iff (hrows b (List.mem_of_getElem? hb))
      (hrows other (List.mem_of_getElem? hother)) hlater hcompatible, hnames.sameResource_iff,
      conflictsWith_eq_false_iff]
    exact ⟨fun h hlive' => h hlive hlive', fun h _ hlive' => h hlive'⟩
  constructor
  · intro hnone stay hcalendar i taken hi htaken
    obtain rfl := Option.some.inj (hstay.symm.trans hcalendar)
    obtain ⟨other, hother, rfl⟩ := getElem?_calendar_eq_some.mp htaken
    exact (hothers i other hi hother).mpr (hnone i other hother)
  · intro hcompatible i other hother
    by_cases hi : i = id
    · -- The booking itself has none of the added days.
      obtain rfl : b = other := Option.some.inj (hb.symm.trans (hi ▸ hother))
      exact conflictsWith_eq_false_iff.mpr fun _ _ h => lt_irrefl _ h.2
    · exact (hothers i other hi hother).mp (hcompatible b.stay hstay i other.stay hi
        (getElem?_calendar_of_some hother))

end Stored

/-- **Extension acceptance.**  On a table of non-empty stays without double bookings, a
confirmed or active booking of one resource is extended to a later calendar date exactly if
the table stays free of double bookings with the new end, and the surcharge fits its
column. -/
theorem extension_accepted_iff (lib : CalendarLib) {store : ExtensionStore} {id : BookingId}
    (hb : store.bookings[id]? = some b) (hstatus : b.status = .confirmed ∨ b.status = .active)
    (hnames : b.Names resourceId) (hrows : ∀ row ∈ store.bookings, row.startDate < row.endDate)
    (hfree : NoDoubleBooking store.calendar) (hstart : IsoDay b.startDate)
    (hend : IsoDay b.endDate) (hn : IsoDay n) (hlater : b.endDate < n) (notes : Option String) :
    (extend lib id ⟨isoText n, notes⟩ b.customerId).succeeds store = true ↔
      NoDoubleBooking (store.calendar.updateById id fun stay => stay.until n) ∧
        SurchargeFits b n := by
  have htext : ¬ isoText n ≤ lib.dateText b.endDate := by
    rw [lib.dateText_eq _ hend, not_le]
    exact isoText_lt_isoText hend hn hlater
  have hlive : b.status.blocksDates = true := by
    rcases hstatus with h | h <;> rw [h] <;> rfl
  rw [extend_succeeds_iff lib hb hstatus ⟨isoText n, notes⟩ htext,
    extensionAvailable_iff_noDoubleBooking lib hb hlive hnames hrows hfree hend hn hlater,
    exists_extensionRow_iff lib hstart hend hn (hrows b (List.mem_of_getElem? hb))]

end Acceptance

namespace Demo

/-- The booking of July is confirmed. -/
def julyConfirmed : ExtensionStore where
  toStore := { julyBooked with
    bookings := julyBooked.bookings.updateById 0 (Booking.withStatus .confirmed) }
  extensions := []
  requested := []

/-- What the row of the booking holds. -/
theorem julyConfirmed_row : ∃ b, julyConfirmed.bookings[0]? = some b ∧ b.customerId = 1 ∧
    b.status = .confirmed ∧ b.Names "villa" ∧ b.startDate = 20270 ∧ b.endDate = 20274 := by
  have hstay : julyConfirmed.bookings[0]?.map (fun b => (b.customerId, b.status, b.startDate,
      b.endDate)) = some (1, .confirmed, 20270, 20274) := by
    decide +kernel
  have hhouse : julyConfirmed.bookings[0]?.map (fun b => (b.resourceType, b.propertyId,
      b.carId)) = some (.property, some "villa", none) := by
    decide +kernel
  obtain ⟨b, hb, hvalues⟩ := Option.map_eq_some_iff.mp hstay
  rw [hb, Option.map_some] at hhouse
  simp only [Prod.mk.injEq, Option.some.injEq] at hvalues hhouse
  obtain ⟨hcustomer, hstatus, hstart, hend⟩ := hvalues
  obtain ⟨htype, hproperty, hcar⟩ := hhouse
  refine ⟨b, hb, hcustomer, hstatus, ⟨by decide, ?_⟩, hstart, hend⟩
  rw [htype]
  exact ⟨hproperty, hcar⟩

end Demo

/-- Two more nights are granted, and the calendar stays free of double bookings. -/
theorem extension_accepted_july :
    (extend Demo.isoDates 0 ⟨isoText 20276, none⟩ 1).succeeds Demo.julyConfirmed = true ∧
      NoDoubleBooking (Demo.julyConfirmed.calendar.updateById 0 fun stay => stay.until 20276) := by
  obtain ⟨b, hb, hcustomer, hstatus, hnames, hstart, hend⟩ := Demo.julyConfirmed_row
  have hsucceeds : (extend Demo.isoDates 0 ⟨isoText 20276, none⟩ 1).succeeds
      Demo.julyConfirmed = true := by
    decide +kernel
  have haccepted := extension_accepted_iff Demo.isoDates hb (.inl hstatus) hnames
    (by decide +kernel) (Table.pairwiseRows_of_length_le_one (by decide +kernel))
    (hstart ▸ by decide +kernel) (hend ▸ by decide +kernel)
    (by decide +kernel : IsoDay 20276) (hend ▸ by decide) none
  rw [hcustomer] at haccepted
  exact ⟨hsucceeds, (haccepted.mp hsucceeds).1⟩

/-- **Until the year 2700**: nobody else has booked the house, but the surcharge has eleven
digits and is refused. -/
theorem extension_refused_overflow :
    (∀ row ∈ Demo.julyConfirmed.bookings, row.startDate < row.endDate) ∧
      NoDoubleBooking Demo.julyConfirmed.calendar ∧ isoText 266627 = "2700-01-01" ∧
      (extend Demo.isoDates 0 ⟨"2700-01-01", none⟩ 1).outcome Demo.julyConfirmed =
        .error .queryFailed ∧
      NoDoubleBooking
        (Demo.julyConfirmed.calendar.updateById 0 fun stay => stay.until 266627) := by
  refine ⟨by decide +kernel, Table.pairwiseRows_of_length_le_one (by decide +kernel),
    by decide +kernel, by decide +kernel, Table.pairwiseRows_of_length_le_one ?_⟩
  rw [Table.length_updateById]
  decide +kernel

end StayRide
