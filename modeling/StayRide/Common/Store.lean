import StayRide.Lib.Table
import StayRide.Common.ServiceM
import StayRide.Config.Redis

/-!
# Entities and the store

The tables the booking side of the platform works on: bookings, payments and
concierge assignments, the Redis store that holds the locks, and the domain
events emitted so far.

The columns `bundle_id`, `deposit_deducted_amount`, `deposit_reason`,
`original_end_date`, `extension_count` and `updated_at` of a booking and
`stripe_client_secret`, `paypal_order_id` and `receipt_url` of a
payment are left out: no modelled operation reads them.
-/

namespace StayRide

open Lib

/-- A row of `bookings`. -/
structure Booking where
  customerId : UserId
  resourceType : ResourceType
  propertyId : Option ResourceId
  carId : Option ResourceId
  conciergeId : Option UserId
  startDate : Day
  endDate : Day
  guestsCount : ℕ
  status : BookingStatus
  basePrice : Amount
  cleaningFee : Amount
  platformFee : Amount
  discountAmount : Amount
  couponCode : Option String
  loyaltyPointsUsed : ℕ
  walletUsed : Amount
  totalAmount : Amount
  currency : String
  depositAmount : Amount
  depositStatus : DepositStatus
  depositCollectedAt : Option Time
  depositCollectedBy : Option UserId
  depositProofUrl : Option String
  checkinAt : Option Time
  checkoutAt : Option Time
  cancellationReason : Option String
  cancelledBy : Option UserId
  specialRequests : Option String
  version : ℕ
  createdAt : Time

/-- The update `{ status }` of a booking. -/
def Booking.withStatus (status : BookingStatus) (b : Booking) : Booking :=
  { b with status := status }

/-- A row of `payments`.  The column `booking_id` is nullable, but the only
writer, `initiatePayment`, always fills it. -/
structure Payment where
  bookingId : BookingId
  payerId : UserId
  method : PaymentMethod
  status : PaymentStatus
  amountExpected : Amount
  phoneNumber : Option String
  amountReceived : Amount
  currency : String
  reference : String
  stripePaymentId : Option String
  confirmedBy : Option UserId
  confirmedAt : Option Time
  notes : Option String
  refundedAmount : Option Amount
  refundedAt : Option Time
  createdAt : Time

/-- A row of `concierge_assignments`. -/
structure ConciergeAssignment where
  conciergeId : UserId
  resourceType : Option ResourceType
  propertyId : Option ResourceId
  carId : Option ResourceId
  assignedBy : UserId
  isActive : Bool
  deriving DecidableEq

/-- The domain events of the booking side, with the entities they carry. -/
inductive DomainEvent
  | bookingCreated (id : BookingId) (booking : Booking)
  | bookingConfirmed (id : BookingId) (booking : Option Booking)
  | bookingCancelled (id : BookingId) (booking : Option Booking)
  | bookingCompleted (id : BookingId) (booking : Option Booking)
  | checkinConfirmed (id : BookingId) (booking : Option Booking)
  | paymentInitiated (id : PaymentId) (payment : Payment) (booking : Booking)
  | paymentConfirmed (id : PaymentId) (payment : Option Payment)
      (booking : Option Booking)
  | paymentPartial (id : PaymentId) (payment : Option Payment)
      (booking : Option Booking)
  | paymentRejected (id : PaymentId) (payment : Option Payment)
  | paymentRefunded (id : PaymentId) (payment : Option Payment)

/-- Everything the booking side stores. -/
structure Store where
  bookings : Table Booking
  payments : Table Payment
  assignments : Table ConciergeAssignment
  redis : Redis Unit
  events : List DomainEvent

/-- The store before the first call: no bookings, no payments, no locks. -/
def Store.start (assignments : Table ConciergeAssignment) : Store :=
  ⟨[], [], assignments, Redis.empty, []⟩

/-- A call of a service of the booking side. -/
abbrev Service (α : Type) := ServiceM Store α

/-! ## Repository operations -/

namespace Service

def findBooking (id : BookingId) : Service (Option Booking) := do
  return (← get).bookings[id]?

def findPayment (id : PaymentId) : Service (Option Payment) := do
  return (← get).payments[id]?

def updateBooking (id : BookingId) (f : Booking → Booking) : Service Unit :=
  modify fun store => { store with bookings := store.bookings.updateById id f }

def updatePayment (id : PaymentId) (f : Payment → Payment) : Service Unit :=
  modify fun store => { store with payments := store.payments.updateById id f }

/-- The first payment with the property `p`, with its key. -/
def findPaymentWhere (p : Payment → Bool) : Service (Option (PaymentId × Payment)) := do
  return (← get).payments.findWhere p

def updatePaymentsWhere (p : Payment → Bool) (f : Payment → Payment) : Service Unit :=
  modify fun store =>
    { store with payments := store.payments.updateWhere (fun _ row => p row) f }

/-- Insert a booking; the answer is its key. -/
def insertBooking (booking : Booking) : Service BookingId := do
  let store ← get
  set { store with bookings := store.bookings.insertRow booking }
  return store.bookings.length

/-- Insert a payment; the answer is its key. -/
def insertPayment (payment : Payment) : Service PaymentId := do
  let store ← get
  set { store with payments := store.payments.insertRow payment }
  return store.payments.length

def emit (event : DomainEvent) : Service Unit :=
  modify fun store => { store with events := store.events ++ [event] }

/-- A number on its way into a `decimal(12, 2)` column. -/
def toColumn (q : ℚ) : Service Amount :=
  match Decimal.ofRat q with
  | some amount => pure amount
  | none => throw .queryFailed

section Run

variable (store : Store)

@[simp] theorem run_findBooking (id : BookingId) :
    (findBooking id).run store = .ok store.bookings[id]? store := rfl

@[simp] theorem run_findPayment (id : PaymentId) :
    (findPayment id).run store = .ok store.payments[id]? store := rfl

@[simp] theorem run_updateBooking (id : BookingId) (f : Booking → Booking) :
    (updateBooking id f).run store =
      .ok () { store with bookings := store.bookings.updateById id f } := rfl

@[simp] theorem run_updatePayment (id : PaymentId) (f : Payment → Payment) :
    (updatePayment id f).run store =
      .ok () { store with payments := store.payments.updateById id f } := rfl

@[simp] theorem run_findPaymentWhere (p : Payment → Bool) :
    (findPaymentWhere p).run store = .ok (store.payments.findWhere p) store := rfl

@[simp] theorem run_updatePaymentsWhere (p : Payment → Bool) (f : Payment → Payment) :
    (updatePaymentsWhere p f).run store =
      .ok () { store with
        payments := store.payments.updateWhere (fun _ row => p row) f } := rfl

@[simp] theorem run_insertBooking (booking : Booking) :
    (insertBooking booking).run store =
      .ok store.bookings.length
        { store with bookings := store.bookings.insertRow booking } := rfl

@[simp] theorem run_insertPayment (payment : Payment) :
    (insertPayment payment).run store =
      .ok store.payments.length
        { store with payments := store.payments.insertRow payment } := rfl

@[simp] theorem run_emit (event : DomainEvent) :
    (emit event).run store =
      .ok () { store with events := store.events ++ [event] } := rfl

theorem run_toColumn_some {q : ℚ} {amount : Amount}
    (h : Decimal.ofRat q = some amount) :
    (toColumn q).run store = .ok amount store := by
  simp [toColumn, h]

theorem run_toColumn_none {q : ℚ} (h : (Decimal.ofRat q : Option Amount) = none) :
    (toColumn q).run store = .error .queryFailed store := by
  simp [toColumn, h]

end Run

end Service

end StayRide
