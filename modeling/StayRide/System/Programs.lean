import StayRide.System.Commands

/-!
# The calls as programs

`System.Calls` runs a call to completion.  Here every call is a program that is
suspended at its awaits, so that calls can interleave.  The programs have the text of
the methods; `System.Platform` proves that a program alone is the method it is named
after.

The awaits of the settings and of the Stripe client do not touch the store; their
replies are arguments of the call, as in `System.Calls`.  `createInspection` joins the
calls of `System.Calls`.
-/

namespace StayRide

open Lib

/-- The requests that can be in progress at the same time. -/
inductive Operation
  | booking (call : Call)
  | createInspection (bookingId : BookingId) (conciergeId : UserId) (data : InspectionDto)

namespace Async

open Command

/-! One program for each command. -/

def findBooking (id : BookingId) : Async (Option Booking) :=
  Program.call (.findBooking id : Command)

def findPayment (id : PaymentId) : Async (Option Payment) :=
  Program.call (.findPayment id : Command)

def findPaymentWhere (p : Payment → Bool) : Async (Option (PaymentId × Payment)) :=
  Program.call (.findPaymentWhere p : Command)

def findAssignment (p : ConciergeAssignment → Bool) :
    Async (Option (ℕ × ConciergeAssignment)) :=
  Program.call (.findAssignment p : Command)

def queryAvailability (lib : DateLib) (dto : CreateBookingDto) : Async Bool :=
  Program.call (.queryAvailability lib dto : Command)

def acquireLock (key : String) (ttlSeconds : ℕ) : Async Bool :=
  Program.call (.acquireLock key ttlSeconds : Command)

def releaseLock (key : String) : Async Unit :=
  Program.call (.releaseLock key : Command)

def insertBooking (booking : Booking) : Async BookingId :=
  Program.call (.insertBooking booking : Command)

def insertPayment (payment : Payment) : Async PaymentId :=
  Program.call (.insertPayment payment : Command)

def insertAssignment (assignment : ConciergeAssignment) : Async ConciergeAssignment :=
  Program.call (.insertAssignment assignment : Command)

def saveInspection (inspection : VehicleInspection) : Async VehicleInspection :=
  Program.call (.saveInspection inspection : Command)

def updateBooking (id : BookingId) (update : BookingUpdate) : Async Unit :=
  Program.call (.updateBooking id update : Command)

def updatePayment (id : PaymentId) (update : PaymentUpdate) : Async Unit :=
  Program.call (.updatePayment id update : Command)

def failPaymentsWhere (p : Payment → Bool) : Async Unit :=
  Program.call (.failPaymentsWhere p : Command)

def settle (paymentId : PaymentId) (payment : PaymentUpdate) (bookingId : BookingId)
    (status : BookingStatus) : Async Unit :=
  Program.call (.settle paymentId payment bookingId status : Command)

def emit (event : DomainEvent) : Async Unit :=
  Program.call (.emit event : Command)

def reportDamages (bookingId : BookingId) (inspection : VehicleInspection) : Async Unit :=
  Program.call (.reportDamages bookingId inspection : Command)

def autoCompleteBookings (today : Day) : Async Unit :=
  Program.call (.autoCompleteBookings today : Command)

def cancelExpiredPendingBookings (now : Time) : Async Unit :=
  Program.call (.cancelExpiredPendingBookings now : Command)

/-- A number on its way into a `decimal(12, 2)` column. -/
def toColumn (q : ℚ) : Async Amount :=
  match Decimal.ofRat q with
  | some amount => pure amount
  | none => throw .queryFailed

def createLocked (lib : DateLib) (dto : CreateBookingDto) (customerId : UserId)
    (now : Time) : Async (BookingId × Booking) := do
  let stillAvailable ← queryAvailability lib dto
  if !stillAvailable then
    throw datesJustTaken
  match newBooking lib dto customerId now with
  | none => throw .queryFailed
  | some booking =>
      let id ← insertBooking booking
      emit (.bookingCreated id booking)
      return (id, booking)

def create (lib : DateLib) (dto : CreateBookingDto) (customerId : UserId)
    (now : Time) : Async (BookingId × Booking) := do
  let available ← queryAvailability lib dto
  if !available then
    throw datesTaken
  let lockAcquired ← acquireLock dto.lockKey 600
  if !lockAcquired then
    throw bookingInProgress
  try
    createLocked lib dto customerId now
  finally
    releaseLock dto.lockKey

def cancel (bookingId : BookingId) (user : CurrentUser) (reason : Option String) :
    Async (Option Booking) := do
  let some booking ← findBooking bookingId | throw .entityNotFound
  if user.role = .customer ∧ booking.customerId ≠ user.id then
    throw (.forbidden "Vous ne pouvez annuler que vos réservations")
  if booking.status = .completed ∨ booking.status = .refunded then
    throw (.badRequest "Cette réservation ne peut pas être annulée")
  updateBooking bookingId (.cancelled user reason)
  let updated ← findBooking bookingId
  emit (.bookingCancelled bookingId updated)
  return updated

def complete (bookingId : BookingId) (now : Time) : Async (Option Booking) := do
  updateBooking bookingId (.completed now)
  let booking ← findBooking bookingId
  emit (.bookingCompleted bookingId booking)
  return booking

def validatePaymentMethodEnabled (settings : PaymentMethod → Option Bool)
    (method : PaymentMethod) : Async Unit :=
  if settings method = some true then pure ()
  else throw (.badRequest
    ("Le mode de paiement " ++ method.text ++ " est actuellement désactivé"))

def createStripeIntent (paymentId : PaymentId) (payment : Payment) (stripe : StripeReply) :
    Async (PaymentId × Payment) :=
  match stripe with
  | .notConfigured => throw (.badRequest "Stripe non configuré")
  | .rejected => throw .clientError
  | .created intentId => do
      updatePayment paymentId (.intent intentId)
      return (paymentId, payment.withIntent intentId)

def createPaypalOrder (paymentId : PaymentId) (payment : Payment) :
    Async (PaymentId × Payment) := do
  updatePayment paymentId .pending
  return (paymentId, payment.asPending)

def initiatePayment (settings : PaymentMethod → Option Bool) (stripe : StripeReply)
    (bookingId : BookingId) (method : PaymentMethod) (customerId : UserId)
    (phone : Option String) (reference : String) (now : Time) :
    Async (PaymentId × Payment) := do
  validatePaymentMethodEnabled settings method
  let some booking := (← findBooking bookingId).filter (·.customerId = customerId)
    | throw (.notFound "Réservation introuvable")
  if booking.status ≠ .pending then
    throw (.badRequest "Cette réservation ne nécessite pas de paiement")
  let existing ← findPaymentWhere (Payment.isPendingOf bookingId)
  if let some payment := existing then
    return payment
  let saved := newPayment bookingId booking method customerId phone reference now
  let paymentId ← insertPayment saved
  match method with
  | .stripe => createStripeIntent paymentId saved stripe
  | .paypal => createPaypalOrder paymentId saved
  | _ =>
      updatePayment paymentId .pending
      updateBooking bookingId (.status .paymentPending)
      emit (.paymentInitiated paymentId saved.asPending booking)
      return (paymentId, saved.asPending)

def confirmManual (paymentId : PaymentId) (adminId : UserId) (data : ConfirmPaymentDto)
    (now : Time) : Async (Option Payment) := do
  let some payment ← findPayment paymentId | throw (.notFound "Paiement introuvable")
  if payment.status = .paid then
    throw (.badRequest "Ce paiement est déjà confirmé")
  let amount ← toColumn data.amountReceived
  if data.amountReceived < payment.amountExpected.toRat then
    updatePayment paymentId (.confirmed .partiallyPaid amount data adminId now)
    let updated ← findPayment paymentId
    let booking ← findBooking payment.bookingId
    emit (.paymentPartial paymentId updated booking)
    return updated
  else
    settle paymentId (.confirmed .paid amount data adminId now) payment.bookingId
      .confirmed
    let updated ← findPayment paymentId
    let booking ← findBooking payment.bookingId
    emit (.bookingConfirmed payment.bookingId booking)
    emit (.paymentConfirmed paymentId updated booking)
    return updated

def rejectPayment (paymentId : PaymentId) (adminId : UserId) (reason : Option String)
    (now : Time) : Async (Option Payment) := do
  let some _ ← findPayment paymentId | throw (.notFound "Paiement introuvable")
  updatePayment paymentId (.rejected adminId reason now)
  let updated ← findPayment paymentId
  emit (.paymentRejected paymentId updated)
  return updated

def refundAtStripe (stripe : StripeReply) (payment : Payment) : Async Unit :=
  if payment.method = .stripe ∧ (textOrNull payment.stripePaymentId).isSome then
    match stripe with
    | .created _ => pure ()
    | _ => throw .clientError
  else pure ()

def processRefund (stripe : StripeReply) (paymentId : PaymentId) (adminId : UserId)
    (amount : Option ℚ) (now : Time) : Async (Option Payment) := do
  let some payment ← findPayment paymentId | throw (.notFound "Paiement introuvable")
  if payment.status ≠ .paid then
    throw (.badRequest "Seuls les paiements confirmés peuvent être remboursés")
  refundAtStripe stripe payment
  let refunded ← toColumn (refundAmount amount payment)
  settle paymentId (.refunded refunded adminId now) payment.bookingId .refunded
  let updated ← findPayment paymentId
  emit (.paymentRefunded paymentId updated)
  return updated

def handleStripeSuccess (intent : PaymentIntent) (now : Time) : Async Unit := do
  let some (paymentId, payment) ←
      findPaymentWhere (·.stripePaymentId = some intent.id)
    | return ()
  let amount ← toColumn (intent.amountReceived / 100)
  settle paymentId (.captured amount now) payment.bookingId .confirmed
  let booking ← findBooking payment.bookingId
  emit (.bookingConfirmed payment.bookingId booking)

def handleStripeFailure (intent : PaymentIntent) : Async Unit :=
  failPaymentsWhere (·.stripePaymentId = some intent.id)

def handleStripeWebhook (event : StripeEvent) (now : Time) : Async Unit :=
  match event with
  | .invalidSignature => throw (.badRequest "Signature webhook invalide")
  | .paymentIntentSucceeded intent => handleStripeSuccess intent now
  | .paymentIntentPaymentFailed intent => handleStripeFailure intent
  | .chargeRefunded => pure ()
  | .otherType => pure ()

def validateConciergeAccess (bookingId : BookingId) (conciergeId : UserId) :
    Async Booking := do
  let some booking ← findBooking bookingId | throw (.notFound "Réservation introuvable")
  let some _ ← findAssignment (·.covers conciergeId booking)
    | throw (.forbidden "Vous n'êtes pas assigné à ce bien / véhicule")
  return booking

def startCheckin (bookingId : BookingId) (conciergeId : UserId) : Async Booking := do
  let booking ← validateConciergeAccess bookingId conciergeId
  if booking.status ≠ .confirmed then
    throw (.badRequest "La réservation doit être confirmée pour faire le check-in")
  return booking

def collectDeposit (bookingId : BookingId) (conciergeId : UserId)
    (proofUrl : Option String) (now : Time) : Async (Option Booking) := do
  let booking ← validateConciergeAccess bookingId conciergeId
  if booking.depositStatus ≠ .pending then
    throw (.badRequest "La caution a déjà été collectée ou n'est pas requise")
  updateBooking bookingId (.depositHeld conciergeId proofUrl now)
  findBooking bookingId

def confirmCheckin (bookingId : BookingId) (conciergeId : UserId) (now : Time) :
    Async (Option Booking) := do
  let _ ← validateConciergeAccess bookingId conciergeId
  updateBooking bookingId (.checkedIn now)
  let updated ← findBooking bookingId
  emit (.checkinConfirmed bookingId updated)
  return updated

def startCheckout (bookingId : BookingId) (conciergeId : UserId) : Async Booking := do
  let booking ← validateConciergeAccess bookingId conciergeId
  if booking.status ≠ .active then
    throw (.badRequest "La réservation doit être active pour faire le check-out")
  return booking

def confirmCheckout (bookingId : BookingId) (conciergeId : UserId) (now : Time) :
    Async (Option Booking) := do
  let booking ← validateConciergeAccess bookingId conciergeId
  updateBooking bookingId (.checkedOut booking now)
  let updated ← findBooking bookingId
  emit (.bookingCompleted bookingId updated)
  return updated

def createInspection (bookingId : BookingId) (conciergeId : UserId) (data : InspectionDto)
    (now : Time) : Async VehicleInspection := do
  let _ ← validateConciergeAccess bookingId conciergeId
  let inspection ← saveInspection (data.toRow bookingId conciergeId now)
  if data.damagesFound ∧ data.type = .postRental then
    reportDamages bookingId inspection
  return inspection

def assignConcierge (conciergeId : UserId) (resourceType : ResourceType)
    (resourceId : ResourceId) (assignedBy : UserId) : Async ConciergeAssignment := do
  match ← findAssignment (·.isActiveFor conciergeId resourceType resourceId) with
  | some (_, existing) => return existing
  | none =>
      insertAssignment
        { conciergeId := conciergeId
          resourceType := some resourceType
          propertyId := if resourceType = .property then some resourceId else none
          carId := if resourceType = .car then some resourceId else none
          assignedBy := assignedBy
          isActive := true }

/-- The program of an operation, with the time its writes record. -/
def program (lib : DateLib) (now : Time) : Operation → Async Unit
  | .booking (.create dto customerId) => discard (create lib dto customerId now)
  | .booking (.cancel bookingId user reason) => discard (cancel bookingId user reason)
  | .booking (.complete bookingId) => discard (complete bookingId now)
  | .booking (.initiatePayment settings stripe bookingId method customerId phone reference) =>
      discard (initiatePayment settings stripe bookingId method customerId phone reference now)
  | .booking (.confirmManual paymentId adminId data) =>
      discard (confirmManual paymentId adminId data now)
  | .booking (.rejectPayment paymentId adminId reason) =>
      discard (rejectPayment paymentId adminId reason now)
  | .booking (.processRefund stripe paymentId adminId amount) =>
      discard (processRefund stripe paymentId adminId amount now)
  | .booking (.handleStripeWebhook event) => handleStripeWebhook event now
  | .booking (.assignConcierge conciergeId resourceType resourceId assignedBy) =>
      discard (assignConcierge conciergeId resourceType resourceId assignedBy)
  | .booking (.startCheckin bookingId conciergeId) =>
      discard (startCheckin bookingId conciergeId)
  | .booking (.collectDeposit bookingId conciergeId proofUrl) =>
      discard (collectDeposit bookingId conciergeId proofUrl now)
  | .booking (.confirmCheckin bookingId conciergeId) =>
      discard (confirmCheckin bookingId conciergeId now)
  | .booking (.startCheckout bookingId conciergeId) =>
      discard (startCheckout bookingId conciergeId)
  | .booking (.confirmCheckout bookingId conciergeId) =>
      discard (confirmCheckout bookingId conciergeId now)
  | .booking (.autoCompleteBookings today) => autoCompleteBookings today
  | .booking .cancelExpiredPendingBookings => cancelExpiredPendingBookings now
  | .createInspection bookingId conciergeId data =>
      discard (createInspection bookingId conciergeId data now)

end Async

end StayRide
