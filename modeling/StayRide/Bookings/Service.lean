import StayRide.Bookings.Calendar

/-!
# `BookingsService`

Availability, pricing, and the three calls `create`, `cancel` and `complete`.
Each call is the source's method with its awaits in order; the error messages
are the source's.

The availability query compares `date` columns with texts, so it first has
PostgreSQL read both texts as days and fails when it cannot.
-/

namespace StayRide

open Lib

structure CreateBookingDto where
  resourceType : ResourceType
  resourceId : ResourceId
  startDate : String
  endDate : String
  guestsCount : Option ℕ := none
  couponCode : Option String := none
  useWallet : Option Bool := none
  useLoyaltyPoints : Option ℕ := none
  specialRequests : Option String := none

/-- The key of the lock `create` takes: the resource and the two date texts, just
as the client wrote them. -/
def CreateBookingDto.lockKey (dto : CreateBookingDto) : String :=
  dto.resourceType.text ++ ":" ++ dto.resourceId ++ ":" ++ dto.startDate ++ ":" ++
    dto.endDate

/-- The authenticated user of a request. -/
structure CurrentUser where
  id : UserId
  role : UserRole

/-! ## Availability -/

/-- The column test of the availability query: `property_id = id` for a property,
`car_id = id` otherwise. -/
def Booking.isOf (b : Booking) (resourceType : ResourceType) (resourceId : ResourceId) :
    Bool :=
  match resourceType with
  | .property => b.propertyId = some resourceId
  | .car => b.carId = some resourceId

/-- The `WHERE` clause of the availability query. -/
def Booking.conflictsWith (b : Booking) (resourceId : ResourceId)
    (resourceType : ResourceType) (startDate endDate : Day) : Bool :=
  b.status.blocksDates && (b.startDate < endDate && startDate < b.endDate) &&
    b.isOf resourceType resourceId

/-- `count === 0`, for dates PostgreSQL has read. -/
def isAvailable (bookings : Table Booking) (resourceId : ResourceId)
    (resourceType : ResourceType) (startDate endDate : Day) : Bool :=
  bookings.countP (fun b => b.conflictsWith resourceId resourceType startDate endDate) = 0

def checkAvailability (lib : DateLib) (bookings : Table Booking)
    (resourceId : ResourceId) (resourceType : ResourceType)
    (startDate endDate : String) : Except HttpException Bool :=
  match lib.pgDate startDate, lib.pgDate endDate with
  | some s, some e => .ok (isAvailable bookings resourceId resourceType s e)
  | _, _ => .error .queryFailed

/-- No booking that blocks its dates conflicts. -/
theorem isAvailable_eq_true {bookings : Table Booking} {resourceId : ResourceId}
    {resourceType : ResourceType} {s e : Day} :
    isAvailable bookings resourceId resourceType s e = true ↔
      ∀ (i : ℕ) (b : Booking), bookings[i]? = some b →
        b.conflictsWith resourceId resourceType s e = false := by
  unfold isAvailable
  rw [decide_eq_true_iff, List.countP_eq_zero]
  constructor
  · intro h i b hb
    simpa using h b (List.mem_of_getElem? hb)
  · intro h b hb
    obtain ⟨i, hi⟩ := List.mem_iff_getElem?.mp hb
    simpa using h i b hi

/-! ## Pricing -/

def calculatePrice (lib : DateLib) (dto : CreateBookingDto) : PriceCalculation :=
  match dto.resourceType with
  | .property =>
      calculateBookingPrice
        { pricePerNight := 45000
          nights := lib.countNights dto.startDate dto.endDate
          cleaningFee := 8000
          commissionRate := 10
          depositAmount := 0 }
  | .car =>
      calculateCarRentalPrice
        { pricePerDay := 18000
          days := lib.countDays dto.startDate dto.endDate
          commissionRate := 10
          depositAmount := 50000 }

/-- The price columns of a booking. -/
structure PriceColumns where
  basePrice : Amount
  cleaningFee : Amount
  platformFee : Amount
  discountAmount : Amount
  totalAmount : Amount
  depositAmount : Amount

/-- The prices as the insert stores them; `none` when a column overflows. -/
def PriceCalculation.toColumns (pricing : PriceCalculation) : Option PriceColumns := do
  let basePrice ← Decimal.ofRat pricing.basePrice
  let cleaningFee ← Decimal.ofRat pricing.cleaningFee
  let platformFee ← Decimal.ofRat pricing.platformFee
  let discountAmount ← Decimal.ofRat pricing.discountAmount
  let totalAmount ← Decimal.ofRat pricing.total
  let depositAmount ← Decimal.ofRat pricing.depositAmount
  return ⟨basePrice, cleaningFee, platformFee, discountAmount, totalAmount, depositAmount⟩

/-- The row `create` inserts, for dates and prices the database accepts. -/
def bookingRow (dto : CreateBookingDto) (customerId : UserId) (now : Time)
    (startDate endDate : Day) (price : PriceColumns) : Booking where
  customerId := customerId
  resourceType := dto.resourceType
  propertyId := if dto.resourceType = .property then some dto.resourceId else none
  carId := if dto.resourceType = .car then some dto.resourceId else none
  conciergeId := none
  startDate := startDate
  endDate := endDate
  guestsCount := countOr dto.guestsCount 1
  status := .pending
  basePrice := price.basePrice
  cleaningFee := price.cleaningFee
  platformFee := price.platformFee
  discountAmount := price.discountAmount
  couponCode := textOrNull dto.couponCode
  loyaltyPointsUsed := countOr dto.useLoyaltyPoints 0
  -- `pricing.walletUsed` does not exist, so the column is 0 with or without a wallet.
  walletUsed := Decimal.zero
  totalAmount := price.totalAmount
  currency := "XAF"
  depositAmount := price.depositAmount
  depositStatus := if 0 < price.depositAmount.toRat then .pending else .none
  depositCollectedAt := none
  depositCollectedBy := none
  depositProofUrl := none
  checkinAt := none
  checkoutAt := none
  cancellationReason := none
  cancelledBy := none
  specialRequests := textOrNull dto.specialRequests
  version := 1
  createdAt := now

/-- The row the insert transaction of `create` stores; `none` when the database
refuses a date or a price. -/
def newBooking (lib : DateLib) (dto : CreateBookingDto) (customerId : UserId)
    (now : Time) : Option Booking :=
  match lib.pgDate dto.startDate, lib.pgDate dto.endDate,
      (calculatePrice lib dto).toColumns with
  | some s, some e, some price => some (bookingRow dto customerId now s e price)
  | _, _, _ => none

/-- A stored row has the dates PostgreSQL reads and the prices it accepts. -/
theorem newBooking_eq_some {lib : DateLib} {dto : CreateBookingDto} {customerId : UserId}
    {now : Time} {booking : Booking} (h : newBooking lib dto customerId now = some booking) :
    ∃ s e price, lib.pgDate dto.startDate = some s ∧ lib.pgDate dto.endDate = some e ∧
      booking = bookingRow dto customerId now s e price := by
  unfold newBooking at h
  split at h
  · next s e price hs he _ => exact ⟨s, e, price, hs, he, (Option.some.inj h).symm⟩
  · cases h

@[simp] theorem Booking.stay_isOf (b : Booking) (resourceType : ResourceType)
    (resourceId : ResourceId) :
    b.stay.isOf resourceType resourceId ↔ b.isOf resourceType resourceId = true := by
  cases resourceType <;> simp [Booking.stay, Stay.isOf, Booking.isOf]

/-- The new row belongs to the resource of the request and to no other. -/
theorem bookingRow_isOf {dto : CreateBookingDto} {customerId : UserId} {now : Time}
    {s e : Day} {price : PriceColumns} {resourceType : ResourceType} {resourceId : ResourceId}
    (h : (bookingRow dto customerId now s e price).stay.isOf resourceType resourceId) :
    resourceType = dto.resourceType ∧ resourceId = dto.resourceId := by
  cases resourceType <;>
    simp only [Stay.isOf, Booking.stay, bookingRow, Option.ite_none_right_eq_some,
      Option.some.injEq] at h <;>
    exact ⟨h.1.symm, h.2.symm⟩

/-- A row inserted where the dates are available conflicts with no booking. -/
theorem bookingRow_compatible {bookings : Table Booking} {dto : CreateBookingDto}
    {customerId : UserId} {now : Time} {s e : Day} {price : PriceColumns}
    (havail : isAvailable bookings dto.resourceId dto.resourceType s e = true)
    {id : BookingId} {other : Booking} (hother : bookings[id]? = some other) :
    (bookingRow dto customerId now s e price).stay.Compatible other.stay := by
  rintro - hblocks ⟨resourceType, resourceId, hrow, hres⟩
  obtain ⟨rfl, rfl⟩ := bookingRow_isOf hrow
  have hfree := isAvailable_eq_true.mp havail id other hother
  have hother : other.status.blocksDates = true := hblocks
  rw [Booking.stay_isOf] at hres
  simp only [Booking.conflictsWith, hother, hres, Bool.true_and, Bool.and_true,
    Bool.and_eq_false_iff, decide_eq_false_iff_not] at hfree
  refine disjoint_of_not_overlap fun hoverlap => ?_
  rcases hfree with hfree | hfree
  · exact hfree hoverlap.2
  · exact hfree hoverlap.1

/-! ## The calls -/

namespace Service

/-- The availability check of a running call, on the bookings it sees. -/
def queryAvailability (lib : DateLib) (resourceId : ResourceId)
    (resourceType : ResourceType) (startDate endDate : String) : Service Bool := do
  match checkAvailability lib (← get).bookings resourceId resourceType startDate endDate with
  | .ok free => return free
  | .error e => throw e

def acquireLock (key : String) (ttlSeconds : ℕ) : Service Bool := do
  let store ← get
  let (acquired, redis) := store.redis.acquireLock key ttlSeconds ()
  set { store with redis := redis }
  return acquired

def releaseLock (key : String) : Service Unit :=
  modify fun store => { store with redis := store.redis.releaseLock key }

end Service

open Service

def datesTaken : HttpException :=
  .conflict "Ces dates ne sont pas disponibles. Veuillez choisir d'autres dates."

def bookingInProgress : HttpException :=
  .conflict
    "Une autre réservation est en cours pour ces dates. Réessayez dans quelques secondes."

def datesJustTaken : HttpException :=
  .conflict "Ces dates viennent d'être réservées."

/-- The part of `create` that runs under the lock. -/
def createLocked (lib : DateLib) (dto : CreateBookingDto) (customerId : UserId)
    (now : Time) : Service (BookingId × Booking) := do
  let stillAvailable ←
    queryAvailability lib dto.resourceId dto.resourceType dto.startDate dto.endDate
  if !stillAvailable then
    throw datesJustTaken
  match newBooking lib dto customerId now with
  | none => throw .queryFailed
  | some booking =>
      let id ← insertBooking booking
      emit (.bookingCreated id booking)
      return (id, booking)

def create (lib : DateLib) (dto : CreateBookingDto) (customerId : UserId)
    (now : Time) : Service (BookingId × Booking) := do
  let available ←
    queryAvailability lib dto.resourceId dto.resourceType dto.startDate dto.endDate
  if !available then
    throw datesTaken
  let lockAcquired ← acquireLock dto.lockKey 600
  if !lockAcquired then
    throw bookingInProgress
  try
    createLocked lib dto customerId now
  finally
    releaseLock dto.lockKey

/-- The columns `cancel` writes; `reason || undefined` leaves the column alone when
no reason is given. -/
def Booking.asCancelled (user : CurrentUser) (reason : Option String) (b : Booking) :
    Booking :=
  { b with
    status := .cancelled
    cancellationReason := (textOrNull reason).or b.cancellationReason
    cancelledBy := some user.id }

def cancel (bookingId : BookingId) (user : CurrentUser) (reason : Option String) :
    Service (Option Booking) := do
  let some booking ← findBooking bookingId | throw .entityNotFound
  if user.role = .customer ∧ booking.customerId ≠ user.id then
    throw (.forbidden "Vous ne pouvez annuler que vos réservations")
  if booking.status = .completed ∨ booking.status = .refunded then
    throw (.badRequest "Cette réservation ne peut pas être annulée")
  updateBooking bookingId (Booking.asCancelled user reason)
  let updated ← findBooking bookingId
  emit (.bookingCancelled bookingId updated)
  return updated

/-- The columns `complete` writes. -/
def Booking.asCompleted (now : Time) (b : Booking) : Booking :=
  { b with status := .completed, checkoutAt := some now }

/-- Completes the booking whatever its status is. -/
def complete (bookingId : BookingId) (now : Time) : Service (Option Booking) := do
  updateBooking bookingId (Booking.asCompleted now)
  let booking ← findBooking bookingId
  emit (.bookingCompleted bookingId booking)
  return booking

/-! ## What the calls leave behind -/

section StoreAfter

variable (store : Store)

/-- The booking `create` adds, if it adds one: the dates are available, nobody holds
the lock, and the database accepts the row. -/
def createdBooking (lib : DateLib) (dto : CreateBookingDto) (customerId : UserId)
    (now : Time) : Option Booking :=
  match checkAvailability lib store.bookings dto.resourceId dto.resourceType
      dto.startDate dto.endDate with
  | .ok true =>
      if store.redis.Locked dto.lockKey then none else newBooking lib dto customerId now
  | _ => none

/-- Under the lock, on dates that are still available, the row is inserted or refused. -/
private theorem run_createLocked (lib : DateLib) (dto : CreateBookingDto)
    (customerId : UserId) (now : Time)
    (hcheck : checkAvailability lib store.bookings dto.resourceId dto.resourceType
      dto.startDate dto.endDate = .ok true) (redis : Redis Unit) :
    (createLocked lib dto customerId now).run { store with redis := redis } =
      match newBooking lib dto customerId now with
      | none => .error .queryFailed { store with redis := redis }
      | some booking => .ok (store.bookings.length, booking)
          { store with
            bookings := store.bookings.insertRow booking
            redis := redis
            events := store.events ++ [.bookingCreated store.bookings.length booking] } := by
  unfold createLocked queryAvailability
  cases newBooking lib dto customerId now <;> simp [hcheck]

/-- **A complete `create`**, check by check: an error changes nothing, and in either case
the lock is free again if it was free before. -/
theorem run_create (lib : DateLib) (dto : CreateBookingDto) (customerId : UserId) (now : Time) :
    (create lib dto customerId now).run store =
      match checkAvailability lib store.bookings dto.resourceId dto.resourceType
          dto.startDate dto.endDate with
      | .error e => .error e store
      | .ok false => .error datesTaken store
      | .ok true =>
          if store.redis.Locked dto.lockKey then .error bookingInProgress store
          else
            match newBooking lib dto customerId now with
            | none => .error .queryFailed store
            | some booking => .ok (store.bookings.length, booking)
                { store with
                  bookings := store.bookings.insertRow booking
                  events := store.events ++
                    [.bookingCreated store.bookings.length booking] } := by
  unfold create queryAvailability
  cases hcheck : checkAvailability lib store.bookings dto.resourceId dto.resourceType
      dto.startDate dto.endDate with
  | error e => simp [hcheck]
  | ok free =>
      cases free with
      | false => simp [hcheck]
      | true =>
          cases hlock : store.redis (Redis.lockName dto.lockKey) with
          | some entry =>
              simp [hcheck, acquireLock, Redis.acquireLock_of_taken hlock, Redis.Locked, hlock]
          | none =>
              have hredis := Redis.releaseLock_of_acquired hlock ⟨"1", 600, ()⟩
              have hlocked : ¬ store.redis.Locked dto.lockKey := by simp [Redis.Locked, hlock]
              have hagain := run_createLocked store lib dto customerId now hcheck
              have hacquired := Redis.acquireLock_of_free hlock 600 ()
              cases hrow : newBooking lib dto customerId now with
              | none =>
                  simp [hcheck, acquireLock, hlocked, ServiceM.run_tryFinally, hagain, hrow,
                    releaseLock, hacquired, hredis]
              | some booking =>
                  simp [hcheck, acquireLock, hlocked, ServiceM.run_tryFinally, hagain, hrow,
                    releaseLock, hacquired, hredis]

/-- A complete `create` adds its booking or changes nothing. -/
theorem create_storeAfter (lib : DateLib) (dto : CreateBookingDto) (customerId : UserId)
    (now : Time) :
    (create lib dto customerId now).storeAfter store =
      match createdBooking store lib dto customerId now with
      | none => store
      | some booking =>
          { store with
            bookings := store.bookings.insertRow booking
            events := store.events ++ [.bookingCreated store.bookings.length booking] } := by
  rw [ServiceM.storeAfter, run_create, createdBooking]
  cases checkAvailability lib store.bookings dto.resourceId dto.resourceType dto.startDate
      dto.endDate with
  | error e => rfl
  | ok free =>
      cases free with
      | false => rfl
      | true =>
          by_cases hlocked : store.redis.Locked dto.lockKey
          · simp only [if_pos hlocked]
          · simp only [if_neg hlocked]
            cases newBooking lib dto customerId now <;> rfl

/-- What a complete `create` returns or throws. -/
theorem create_outcome (lib : DateLib) (dto : CreateBookingDto) (customerId : UserId)
    (now : Time) :
    (create lib dto customerId now).outcome store =
      match checkAvailability lib store.bookings dto.resourceId dto.resourceType
          dto.startDate dto.endDate with
      | .error e => .error e
      | .ok false => .error datesTaken
      | .ok true =>
          if store.redis.Locked dto.lockKey then .error bookingInProgress
          else
            match newBooking lib dto customerId now with
            | none => .error .queryFailed
            | some booking => .ok (store.bookings.length, booking) := by
  rw [ServiceM.outcome, run_create]
  cases checkAvailability lib store.bookings dto.resourceId dto.resourceType dto.startDate
      dto.endDate with
  | error e => rfl
  | ok free =>
      cases free with
      | false => rfl
      | true =>
          by_cases hlocked : store.redis.Locked dto.lockKey
          · simp only [if_pos hlocked]
          · simp only [if_neg hlocked]
            cases newBooking lib dto customerId now <;> rfl

/-- `create` returns the booking that it adds, under the next id. -/
theorem create_outcome_eq_ok_iff {lib : DateLib} {dto : CreateBookingDto} {customerId : UserId}
    {now : Time} {id : BookingId} {b : Booking} :
    (create lib dto customerId now).outcome store = .ok (id, b) ↔
      store.bookings.length = id ∧ createdBooking store lib dto customerId now = some b := by
  rw [create_outcome, createdBooking]
  cases checkAvailability lib store.bookings dto.resourceId dto.resourceType dto.startDate
      dto.endDate with
  | error e => simp
  | ok free =>
      cases free with
      | false => simp
      | true =>
          by_cases hlocked : store.redis.Locked dto.lockKey
          · simp [hlocked]
          · cases newBooking lib dto customerId now <;> simp [hlocked]

/-- What `create` adds is the row that it has made up. -/
theorem newBooking_of_createdBooking {lib : DateLib} {dto : CreateBookingDto}
    {customerId : UserId} {now : Time} {b : Booking}
    (h : createdBooking store lib dto customerId now = some b) :
    newBooking lib dto customerId now = some b := by
  unfold createdBooking at h
  split at h
  · exact (Option.ite_none_left_eq_some.mp h).2
  · cases h

/-- The booking a cancellation writes to: it exists, the user may cancel it, and it is
neither completed nor refunded. -/
def cancellableBooking (bookingId : BookingId) (user : CurrentUser) : Option Booking :=
  match store.bookings[bookingId]? with
  | none => none
  | some booking =>
      if user.role = .customer ∧ booking.customerId ≠ user.id then none
      else if booking.status = .completed ∨ booking.status = .refunded then none
      else some booking

theorem cancellableBooking_eq_some {store : Store} {bookingId : BookingId}
    {user : CurrentUser} {booking : Booking}
    (h : cancellableBooking store bookingId user = some booking) :
    store.bookings[bookingId]? = some booking ∧ booking.status ≠ .completed ∧
      booking.status ≠ .refunded := by
  unfold cancellableBooking at h
  cases hb : store.bookings[bookingId]? with
  | none => simp [hb] at h
  | some b =>
      simp only [hb, Option.ite_none_left_eq_some, Option.some.injEq] at h
      obtain ⟨_, hlate, rfl⟩ := h
      exact ⟨rfl, not_or.mp hlate⟩

theorem cancel_storeAfter (bookingId : BookingId) (user : CurrentUser)
    (reason : Option String) :
    (cancel bookingId user reason).storeAfter store =
      match cancellableBooking store bookingId user with
      | none => store
      | some booking =>
          { store with
            bookings := store.bookings.updateById bookingId (Booking.asCancelled user reason)
            events := store.events ++
              [.bookingCancelled bookingId (some (booking.asCancelled user reason))] } := by
  unfold ServiceM.storeAfter cancel cancellableBooking
  cases hb : store.bookings[bookingId]? with
  | none => simp [hb]
  | some booking =>
      by_cases hforbidden : user.role = .customer ∧ booking.customerId ≠ user.id
      · simp [hb, hforbidden]
      · by_cases hlate : booking.status = .completed ∨ booking.status = .refunded
        · simp [hb, hforbidden, hlate]
        · simp [hb, hforbidden, hlate]

theorem complete_storeAfter (bookingId : BookingId) (now : Time) :
    (complete bookingId now).storeAfter store =
      { store with
        bookings := store.bookings.updateById bookingId (Booking.asCompleted now)
        events := store.events ++
          [.bookingCompleted bookingId (store.bookings[bookingId]?.map
            (Booking.asCompleted now))] } := by
  simp [ServiceM.storeAfter, complete]

end StoreAfter

/-! ## Data for runs -/

namespace Demo

/-- Some days of July 2025 and their day numbers. -/
def days : List (String × Day) :=
  [("2025-07-01", 20270), ("2025-07-03", 20272), ("2025-07-05", 20274)]

def dates : DateLib where
  pgDate text := days.lookup text
  dayjs text := (days.lookup text).getD 0 * oneDay

/-- A request for the house `villa`. -/
def villa (startDate endDate : String) : CreateBookingDto where
  resourceType := .property
  resourceId := "villa"
  startDate := startDate
  endDate := endDate

end Demo

end StayRide
