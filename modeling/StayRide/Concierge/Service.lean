import StayRide.Bookings.Service

/-!
# `ConciergeService`: the booking workflow

Assignments, the access check, check-in, deposit and check-out.  `startCheckin`
and `startCheckout` only look; the calls that change the booking,
`confirmCheckin` and `confirmCheckout`, do not look at its status.
-/

namespace StayRide

open Lib Service

/-! ## Access -/

/-- The criteria of the assignment lookup: the concierge, `isActive`, and the property
of the booking or else its car.  A criterion whose value is null is dropped. -/
def ConciergeAssignment.covers (a : ConciergeAssignment) (conciergeId : UserId)
    (booking : Booking) : Bool :=
  a.conciergeId = conciergeId && a.isActive &&
    match textOrNull booking.propertyId, booking.carId with
    | some propertyId, _ => a.propertyId = some propertyId
    | none, some carId => a.carId = some carId
    | none, none => true

def validateConciergeAccess (bookingId : BookingId) (conciergeId : UserId) :
    Service Booking := do
  let some booking ← findBooking bookingId | throw (.notFound "Réservation introuvable")
  let some _ := (← get).assignments.findWhere (·.covers conciergeId booking)
    | throw (.forbidden "Vous n'êtes pas assigné à ce bien / véhicule")
  return booking

/-! ## The columns each call writes -/

/-- An absent proof leaves the column alone. -/
def Booking.withDepositHeld (conciergeId : UserId) (proofUrl : Option String) (now : Time)
    (b : Booking) : Booking :=
  { b with
    depositStatus := .held
    depositCollectedAt := some now
    depositCollectedBy := some conciergeId
    depositProofUrl := proofUrl.or b.depositProofUrl }

def Booking.asCheckedIn (now : Time) (b : Booking) : Booking :=
  { b with status := .active, checkinAt := some now }

/-- `depositStatus` is computed from the booking read by the access check. -/
def Booking.asCheckedOut (read : Booking) (now : Time) (b : Booking) : Booking :=
  { b with
    status := .completed
    checkoutAt := some now
    depositStatus :=
      if read.depositStatus = .held then .underReview else read.depositStatus }

/-! ## The calls -/

def startCheckin (bookingId : BookingId) (conciergeId : UserId) : Service Booking := do
  let booking ← validateConciergeAccess bookingId conciergeId
  if booking.status ≠ .confirmed then
    throw (.badRequest "La réservation doit être confirmée pour faire le check-in")
  return booking

def collectDeposit (bookingId : BookingId) (conciergeId : UserId)
    (proofUrl : Option String) (now : Time) : Service (Option Booking) := do
  let booking ← validateConciergeAccess bookingId conciergeId
  if booking.depositStatus ≠ .pending then
    throw (.badRequest "La caution a déjà été collectée ou n'est pas requise")
  updateBooking bookingId (Booking.withDepositHeld conciergeId proofUrl now)
  findBooking bookingId

def confirmCheckin (bookingId : BookingId) (conciergeId : UserId) (now : Time) :
    Service (Option Booking) := do
  let _ ← validateConciergeAccess bookingId conciergeId
  updateBooking bookingId (Booking.asCheckedIn now)
  let updated ← findBooking bookingId
  emit (.checkinConfirmed bookingId updated)
  return updated

def startCheckout (bookingId : BookingId) (conciergeId : UserId) : Service Booking := do
  let booking ← validateConciergeAccess bookingId conciergeId
  if booking.status ≠ .active then
    throw (.badRequest "La réservation doit être active pour faire le check-out")
  return booking

def confirmCheckout (bookingId : BookingId) (conciergeId : UserId) (now : Time) :
    Service (Option Booking) := do
  let booking ← validateConciergeAccess bookingId conciergeId
  updateBooking bookingId (Booking.asCheckedOut booking now)
  let updated ← findBooking bookingId
  emit (.bookingCompleted bookingId updated)
  return updated

/-- The criteria of the lookup in `assignConcierge`. -/
def ConciergeAssignment.isActiveFor (a : ConciergeAssignment) (conciergeId : UserId)
    (resourceType : ResourceType) (resourceId : ResourceId) : Bool :=
  a.conciergeId = conciergeId && a.isActive &&
    match resourceType with
    | .property => a.propertyId = some resourceId
    | .car => a.carId = some resourceId

def assignConcierge (conciergeId : UserId) (resourceType : ResourceType)
    (resourceId : ResourceId) (assignedBy : UserId) : Service ConciergeAssignment := do
  let store ← get
  match store.assignments.findWhere (·.isActiveFor conciergeId resourceType resourceId) with
  | some (_, existing) => return existing
  | none =>
      let assignment : ConciergeAssignment :=
        { conciergeId := conciergeId
          resourceType := some resourceType
          propertyId := if resourceType = .property then some resourceId else none
          carId := if resourceType = .car then some resourceId else none
          assignedBy := assignedBy
          isActive := true }
      set { store with assignments := store.assignments.insertRow assignment }
      return assignment

/-! ## What the calls leave behind -/

section StoreAfter

variable (store : Store) (bookingId : BookingId) (conciergeId : UserId)

/-- The booking, if the concierge may handle it. -/
def accessibleBooking : Option Booking :=
  match store.bookings[bookingId]? with
  | none => none
  | some booking =>
      if store.assignments.findWhere (·.covers conciergeId booking) = none then none
      else some booking

theorem bookings_of_accessible {booking : Booking}
    (h : accessibleBooking store bookingId conciergeId = some booking) :
    store.bookings[bookingId]? = some booking := by
  unfold accessibleBooking at h
  cases hb : store.bookings[bookingId]? with
  | none => simp [hb] at h
  | some b =>
      simp only [hb, Option.ite_none_left_eq_some, Option.some.injEq] at h
      rw [h.2]

/-- The access check returns the booking or throws; it never writes. -/
theorem run_validateConciergeAccess :
    (validateConciergeAccess bookingId conciergeId).run store =
      match accessibleBooking store bookingId conciergeId with
      | some booking => .ok booking store
      | none =>
          if store.bookings[bookingId]? = none then
            .error (.notFound "Réservation introuvable") store
          else .error (.forbidden "Vous n'êtes pas assigné à ce bien / véhicule") store := by
  unfold validateConciergeAccess accessibleBooking
  cases hb : store.bookings[bookingId]? with
  | none => simp [hb]
  | some booking =>
      cases ha : store.assignments.findWhere (·.covers conciergeId booking) with
      | none => simp [hb, ha]
      | some found => simp [hb, ha]

/-- A call whose access check fails leaves the store alone. -/
theorem storeAfter_of_inaccessible {α : Type} (body : Booking → Service α)
    (h : accessibleBooking store bookingId conciergeId = none) :
    ServiceM.storeAfter (validateConciergeAccess bookingId conciergeId >>= body) store =
      store := by
  unfold ServiceM.storeAfter
  rw [EStateM.run_bind, run_validateConciergeAccess, h]
  by_cases hb : store.bookings[bookingId]? = none <;> simp [hb]

/-- A call whose access check passes is its body. -/
theorem storeAfter_of_accessible {α : Type} (body : Booking → Service α) {booking : Booking}
    (h : accessibleBooking store bookingId conciergeId = some booking) :
    ServiceM.storeAfter (validateConciergeAccess bookingId conciergeId >>= body) store =
      (body booking).storeAfter store := by
  unfold ServiceM.storeAfter
  rw [EStateM.run_bind, run_validateConciergeAccess, h]

theorem startCheckin_storeAfter :
    (startCheckin bookingId conciergeId).storeAfter store = store := by
  unfold startCheckin
  cases h : accessibleBooking store bookingId conciergeId with
  | none => exact storeAfter_of_inaccessible store bookingId conciergeId _ h
  | some booking =>
      rw [storeAfter_of_accessible store bookingId conciergeId _ h]
      by_cases hs : booking.status = .confirmed <;> simp [ServiceM.storeAfter, hs]

theorem startCheckout_storeAfter :
    (startCheckout bookingId conciergeId).storeAfter store = store := by
  unfold startCheckout
  cases h : accessibleBooking store bookingId conciergeId with
  | none => exact storeAfter_of_inaccessible store bookingId conciergeId _ h
  | some booking =>
      rw [storeAfter_of_accessible store bookingId conciergeId _ h]
      by_cases hs : booking.status = .active <;> simp [ServiceM.storeAfter, hs]

theorem collectDeposit_storeAfter (proofUrl : Option String) (now : Time) :
    (collectDeposit bookingId conciergeId proofUrl now).storeAfter store =
      match accessibleBooking store bookingId conciergeId with
      | none => store
      | some booking =>
          if booking.depositStatus = .pending then
            { store with
              bookings := store.bookings.updateById bookingId
                (Booking.withDepositHeld conciergeId proofUrl now) }
          else store := by
  unfold collectDeposit
  cases h : accessibleBooking store bookingId conciergeId with
  | none => exact storeAfter_of_inaccessible store bookingId conciergeId _ h
  | some booking =>
      rw [storeAfter_of_accessible store bookingId conciergeId _ h]
      by_cases hs : booking.depositStatus = .pending <;> simp [ServiceM.storeAfter, hs]

theorem confirmCheckin_storeAfter (now : Time) :
    (confirmCheckin bookingId conciergeId now).storeAfter store =
      match accessibleBooking store bookingId conciergeId with
      | none => store
      | some booking =>
          { store with
            bookings := store.bookings.updateById bookingId (Booking.asCheckedIn now)
            events := store.events ++
              [.checkinConfirmed bookingId (some (booking.asCheckedIn now))] } := by
  unfold confirmCheckin
  cases h : accessibleBooking store bookingId conciergeId with
  | none => exact storeAfter_of_inaccessible store bookingId conciergeId _ h
  | some booking =>
      rw [storeAfter_of_accessible store bookingId conciergeId _ h]
      simp [ServiceM.storeAfter, bookings_of_accessible store bookingId conciergeId h]

theorem confirmCheckout_storeAfter (now : Time) :
    (confirmCheckout bookingId conciergeId now).storeAfter store =
      match accessibleBooking store bookingId conciergeId with
      | none => store
      | some booking =>
          { store with
            bookings := store.bookings.updateById bookingId
              (Booking.asCheckedOut booking now)
            events := store.events ++
              [.bookingCompleted bookingId (some (booking.asCheckedOut now booking))] } := by
  unfold confirmCheckout
  cases h : accessibleBooking store bookingId conciergeId with
  | none => exact storeAfter_of_inaccessible store bookingId conciergeId _ h
  | some booking =>
      rw [storeAfter_of_accessible store bookingId conciergeId _ h]
      simp [ServiceM.storeAfter, bookings_of_accessible store bookingId conciergeId h]

end StoreAfter

/-- Assigning a concierge touches neither bookings nor payments. -/
theorem assignConcierge_storeAfter (store : Store) (conciergeId : UserId)
    (resourceType : ResourceType) (resourceId : ResourceId) (assignedBy : UserId) :
    ∃ assignments,
      (assignConcierge conciergeId resourceType resourceId assignedBy).storeAfter store =
        { store with assignments := assignments } := by
  unfold ServiceM.storeAfter assignConcierge
  cases h : store.assignments.findWhere
      (·.isActiveFor conciergeId resourceType resourceId) with
  | some found => exact ⟨store.assignments, by simp [h]⟩
  | none => exact ⟨_, by simp [h]; rfl⟩

end StayRide
