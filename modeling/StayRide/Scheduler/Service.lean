import StayRide.Bookings.Service

/-!
# `SchedulerService`: the jobs that change bookings

Two periodic jobs, each a single `UPDATE` statement: bookings that are over become
completed, and pending bookings that nobody pays for are cancelled.
-/

namespace StayRide

open Lib Service

/-- The `WHERE` clause of `autoCompleteBookings`, run on the day `today`. -/
def Booking.isOver (today : Day) (b : Booking) : Bool :=
  b.endDate ≤ today - 1 && b.status = .active

/-- Completes without a check-out time and without an event. -/
def autoCompleteBookings (today : Day) : Service Unit :=
  modify fun store =>
    { store with
      bookings := store.bookings.updateWhere (fun _ b => b.isOver today)
        (Booking.withStatus .completed) }

/-- The `WHERE` clause of `cancelExpiredPendingBookings`: pending, older than 15
minutes, and without a pending payment. -/
def Booking.isExpired (payments : Table Payment) (now : Time) (id : BookingId)
    (b : Booking) : Bool :=
  b.status = .pending && b.createdAt < now - 15 * minute &&
    !payments.any fun p => p.status = .pending && p.bookingId = id

def cancelExpiredPendingBookings (now : Time) : Service Unit :=
  modify fun store =>
    { store with
      bookings := store.bookings.updateWhere (Booking.isExpired store.payments now)
        (Booking.withStatus .cancelled) }

theorem autoCompleteBookings_storeAfter (store : Store) (today : Day) :
    (autoCompleteBookings today).storeAfter store =
      { store with
        bookings := store.bookings.updateWhere (fun _ b => b.isOver today)
          (Booking.withStatus .completed) } := rfl

theorem cancelExpiredPendingBookings_storeAfter (store : Store) (now : Time) :
    (cancelExpiredPendingBookings now).storeAfter store =
      { store with
        bookings := store.bookings.updateWhere (Booking.isExpired store.payments now)
          (Booking.withStatus .cancelled) } := rfl

end StayRide
