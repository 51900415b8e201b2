import StayRide.Bookings.Service

/-!
# `PaymentsService`

Initiation, manual confirmation, rejection and refund of payments, and the
handlers of the Stripe webhook.

Two services outside the model take part.  The administrator's settings enter as
the function that gives the `enabled` flag of a configured payment method, and
the Stripe client enters as its reply to the one call made to it.  The reference
of a payment is made of the clock and of the text of the booking's key; it is
generated before the call and passed to it.

A transaction is the sequence of its updates behind the conversions that can make
the database refuse them, so that a refused transaction has written nothing.
-/

namespace StayRide

open Lib Service

/-- What the Stripe client does with a request. -/
inductive StripeReply
  /-- There is no client: the secret key is not configured. -/
  | notConfigured
  /-- The request is rejected. -/
  | rejected
  /-- The request is accepted; the object created has this id. -/
  | created (id : String)
  deriving DecidableEq

/-- The body of a manual confirmation; `payment_date` is validated but not used. -/
structure ConfirmPaymentDto where
  amountReceived : ℚ
  reference : String
  notes : Option String := none

/-- The parts of a `PaymentIntent` the handlers read. -/
structure PaymentIntent where
  id : String
  /-- In hundredths. -/
  amountReceived : ℕ
  deriving DecidableEq

/-- A webhook delivery, after the check of its signature. -/
inductive StripeEvent
  | invalidSignature
  | paymentIntentSucceeded (intent : PaymentIntent)
  | paymentIntentPaymentFailed (intent : PaymentIntent)
  | chargeRefunded
  | otherType
  deriving DecidableEq

/-! ## The columns each call writes -/

/-- The row `initiatePayment` inserts. -/
def newPayment (bookingId : BookingId) (booking : Booking) (method : PaymentMethod)
    (customerId : UserId) (phone : Option String) (reference : String) (now : Time) :
    Payment where
  bookingId := bookingId
  payerId := customerId
  method := method
  status := .created
  amountExpected := booking.totalAmount
  phoneNumber := phone
  amountReceived := Decimal.zero
  currency := booking.currency
  reference := reference
  stripePaymentId := none
  confirmedBy := none
  confirmedAt := none
  notes := none
  refundedAmount := none
  refundedAt := none
  createdAt := now

def Payment.asPending (p : Payment) : Payment :=
  { p with status := .pending }

def Payment.withIntent (intentId : String) (p : Payment) : Payment :=
  { p with stripePaymentId := some intentId, status := .pending }

/-- Absent notes are `undefined`, which leaves the column alone. -/
def Payment.asConfirmed (status : PaymentStatus) (amount : Amount) (dto : ConfirmPaymentDto)
    (adminId : UserId) (now : Time) (p : Payment) : Payment :=
  { p with
    status := status
    amountReceived := amount
    reference := dto.reference
    confirmedBy := some adminId
    confirmedAt := some now
    notes := dto.notes.or p.notes }

def Payment.asRejected (adminId : UserId) (reason : Option String) (now : Time)
    (p : Payment) : Payment :=
  { p with
    status := .failed
    confirmedBy := some adminId
    confirmedAt := some now
    notes := reason.or p.notes }

def Payment.asRefunded (amount : Amount) (adminId : UserId) (now : Time) (p : Payment) :
    Payment :=
  { p with
    status := .refunded
    refundedAmount := some amount
    refundedAt := some now
    confirmedBy := some adminId }

def Payment.asCaptured (amount : Amount) (now : Time) (p : Payment) : Payment :=
  { p with status := .paid, amountReceived := amount, confirmedAt := some now }

def Payment.asFailed (p : Payment) : Payment :=
  { p with status := .failed }

/-! ## The calls -/

/-- The `where` clause that looks for a payment already pending. -/
def Payment.isPendingOf (bookingId : BookingId) (p : Payment) : Bool :=
  p.bookingId = bookingId ∧ p.status = .pending

/-- `settings?.[method]` must exist and be enabled. -/
def validatePaymentMethodEnabled (settings : PaymentMethod → Option Bool)
    (method : PaymentMethod) : Service Unit :=
  if settings method = some true then pure ()
  else throw (.badRequest
    ("Le mode de paiement " ++ method.text ++ " est actuellement désactivé"))

def createStripeIntent (paymentId : PaymentId) (payment : Payment) (stripe : StripeReply) :
    Service (PaymentId × Payment) :=
  match stripe with
  | .notConfigured => throw (.badRequest "Stripe non configuré")
  | .rejected => throw .clientError
  | .created intentId => do
      updatePayment paymentId (Payment.withIntent intentId)
      return (paymentId, payment.withIntent intentId)

def createPaypalOrder (paymentId : PaymentId) (payment : Payment) :
    Service (PaymentId × Payment) := do
  updatePayment paymentId Payment.asPending
  return (paymentId, payment.asPending)

def initiatePayment (settings : PaymentMethod → Option Bool) (stripe : StripeReply)
    (bookingId : BookingId) (method : PaymentMethod) (customerId : UserId)
    (phone : Option String) (reference : String) (now : Time) :
    Service (PaymentId × Payment) := do
  validatePaymentMethodEnabled settings method
  let some booking := (← findBooking bookingId).filter (·.customerId = customerId)
    | throw (.notFound "Réservation introuvable")
  if booking.status ≠ .pending then
    throw (.badRequest "Cette réservation ne nécessite pas de paiement")
  let existing ← findPaymentWhere (Payment.isPendingOf bookingId)
  if let some payment := existing then
    return payment
  let saved := newPayment bookingId booking method customerId phone reference now
  let paymentId ← insertPayment saved
  match method with
  | .stripe => createStripeIntent paymentId saved stripe
  | .paypal => createPaypalOrder paymentId saved
  | _ =>
      updatePayment paymentId Payment.asPending
      updateBooking bookingId (Booking.withStatus .paymentPending)
      emit (.paymentInitiated paymentId saved.asPending booking)
      return (paymentId, saved.asPending)

def confirmManual (paymentId : PaymentId) (adminId : UserId) (data : ConfirmPaymentDto)
    (now : Time) : Service (Option Payment) := do
  let some payment ← findPayment paymentId | throw (.notFound "Paiement introuvable")
  if payment.status = .paid then
    throw (.badRequest "Ce paiement est déjà confirmé")
  let amount ← toColumn data.amountReceived
  if data.amountReceived < payment.amountExpected.toRat then
    updatePayment paymentId (Payment.asConfirmed .partiallyPaid amount data adminId now)
    let updated ← findPayment paymentId
    let booking ← findBooking payment.bookingId
    emit (.paymentPartial paymentId updated booking)
    return updated
  else
    updatePayment paymentId (Payment.asConfirmed .paid amount data adminId now)
    updateBooking payment.bookingId (Booking.withStatus .confirmed)
    let updated ← findPayment paymentId
    let booking ← findBooking payment.bookingId
    emit (.bookingConfirmed payment.bookingId booking)
    emit (.paymentConfirmed paymentId updated booking)
    return updated

/-- Rejects the payment whatever its status is. -/
def rejectPayment (paymentId : PaymentId) (adminId : UserId) (reason : Option String)
    (now : Time) : Service (Option Payment) := do
  let some _ ← findPayment paymentId | throw (.notFound "Paiement introuvable")
  updatePayment paymentId (Payment.asRejected adminId reason now)
  let updated ← findPayment paymentId
  emit (.paymentRejected paymentId updated)
  return updated

/-- `amount || Number(payment.amountReceived)`: no amount, and the amount 0, stand
for everything received. -/
def refundAmount (amount : Option ℚ) (payment : Payment) : ℚ :=
  match amount with
  | none => payment.amountReceived.toRat
  | some q => if q = 0 then payment.amountReceived.toRat else q

/-- The automatic refund at Stripe; without a client the call fails on `undefined`. -/
def refundAtStripe (stripe : StripeReply) (payment : Payment) : Service Unit :=
  if payment.method = .stripe ∧ (textOrNull payment.stripePaymentId).isSome then
    match stripe with
    | .created _ => pure ()
    | _ => throw .clientError
  else pure ()

def processRefund (stripe : StripeReply) (paymentId : PaymentId) (adminId : UserId)
    (amount : Option ℚ) (now : Time) : Service (Option Payment) := do
  let some payment ← findPayment paymentId | throw (.notFound "Paiement introuvable")
  if payment.status ≠ .paid then
    throw (.badRequest "Seuls les paiements confirmés peuvent être remboursés")
  refundAtStripe stripe payment
  let refunded ← toColumn (refundAmount amount payment)
  updatePayment paymentId (Payment.asRefunded refunded adminId now)
  updateBooking payment.bookingId (Booking.withStatus .refunded)
  let updated ← findPayment paymentId
  emit (.paymentRefunded paymentId updated)
  return updated

/-- Confirms the booking of the payment whatever the statuses of both are. -/
def handleStripeSuccess (intent : PaymentIntent) (now : Time) : Service Unit := do
  let some (paymentId, payment) ← findPaymentWhere (·.stripePaymentId = some intent.id)
    | return ()
  let amount ← toColumn (intent.amountReceived / 100)
  updatePayment paymentId (Payment.asCaptured amount now)
  updateBooking payment.bookingId (Booking.withStatus .confirmed)
  let booking ← findBooking payment.bookingId
  emit (.bookingConfirmed payment.bookingId booking)

def handleStripeFailure (intent : PaymentIntent) : Service Unit :=
  updatePaymentsWhere (·.stripePaymentId = some intent.id) Payment.asFailed

def handleStripeWebhook (event : StripeEvent) (now : Time) : Service Unit :=
  match event with
  | .invalidSignature => throw (.badRequest "Signature webhook invalide")
  | .paymentIntentSucceeded intent => handleStripeSuccess intent now
  | .paymentIntentPaymentFailed intent => handleStripeFailure intent
  | .chargeRefunded => pure ()
  | .otherType => pure ()

/-! ## What the calls leave behind

Each call checks first and writes afterwards.  The checks of a call are collected
in one function of the store, which returns what the writes depend on; a call
whose checks fail leaves the store alone. -/

section StoreAfter

variable (store : Store)

/-- The booking a payment can be opened for: the method is enabled, the customer has
the booking, it is pending, and no payment of it is pending. -/
def payableBooking (settings : PaymentMethod → Option Bool) (bookingId : BookingId)
    (method : PaymentMethod) (customerId : UserId) : Option Booking :=
  if settings method = some true then
    match store.bookings[bookingId]? with
    | none => none
    | some booking =>
        if booking.customerId = customerId ∧ booking.status = .pending ∧
            store.payments.findWhere (Payment.isPendingOf bookingId) = none then
          some booking
        else none
  else none

theorem payableBooking_eq_some {store : Store} {settings : PaymentMethod → Option Bool}
    {bookingId : BookingId} {method : PaymentMethod} {customerId : UserId}
    {booking : Booking}
    (h : payableBooking store settings bookingId method customerId = some booking) :
    store.bookings[bookingId]? = some booking ∧ booking.status = .pending := by
  unfold payableBooking at h
  split at h
  · cases hb : store.bookings[bookingId]? with
    | none => simp [hb] at h
    | some b =>
        simp only [hb, Option.ite_none_right_eq_some, Option.some.injEq] at h
        obtain ⟨⟨_, hpending, _⟩, rfl⟩ := h
        exact ⟨rfl, hpending⟩
  · cases h

/-- The payment as `initiatePayment` leaves it.  With Stripe it keeps the status
`CREATED` when no `PaymentIntent` could be made. -/
def openedPayment (stripe : StripeReply) (bookingId : BookingId) (booking : Booking)
    (method : PaymentMethod) (customerId : UserId) (phone : Option String)
    (reference : String) (now : Time) : Payment :=
  let saved := newPayment bookingId booking method customerId phone reference now
  match method, stripe with
  | .stripe, .created intentId => saved.withIntent intentId
  | .stripe, _ => saved
  | _, _ => saved.asPending

/-- The methods whose payments an administrator confirms. -/
def PaymentMethod.isManual : PaymentMethod → Bool
  | .stripe => false
  | .paypal => false
  | _ => true

/-- The store with the payment that is opened; a booking that is paid by hand waits for it. -/
def Store.withOpened (bookingId : BookingId) (booking : Booking) (method : PaymentMethod)
    (payment : Payment) : Store :=
  if method.isManual then
    { store with
      bookings := store.bookings.updateById bookingId (Booking.withStatus .paymentPending)
      payments := store.payments.insertRow payment
      events := store.events ++ [.paymentInitiated store.payments.length payment booking] }
  else { store with payments := store.payments.insertRow payment }

/-- **A complete `initiatePayment`**, check after check. -/
theorem run_initiatePayment (settings : PaymentMethod → Option Bool) (stripe : StripeReply)
    (bookingId : BookingId) (method : PaymentMethod) (customerId : UserId)
    (phone : Option String) (reference : String) (now : Time) :
    (initiatePayment settings stripe bookingId method customerId phone reference now).run store =
      if settings method = some true then
        match store.bookings[bookingId]?.filter (·.customerId = customerId) with
        | none => .error (.notFound "Réservation introuvable") store
        | some booking =>
            if booking.status = .pending then
              match store.payments.findWhere (Payment.isPendingOf bookingId) with
              | some payment => .ok payment store
              | none =>
                  let payment := openedPayment stripe bookingId booking method customerId phone
                    reference now
                  let store' := store.withOpened bookingId booking method payment
                  match method, stripe with
                  | .stripe, .notConfigured => .error (.badRequest "Stripe non configuré") store'
                  | .stripe, .rejected => .error .clientError store'
                  | _, _ => .ok (store.payments.length, payment) store'
            else .error (.badRequest "Cette réservation ne nécessite pas de paiement") store
      else .error (.badRequest
        ("Le mode de paiement " ++ method.text ++ " est actuellement désactivé")) store := by
  unfold initiatePayment validatePaymentMethodEnabled
  by_cases henabled : settings method = some true
  swap
  · simp [henabled]
  cases hfound : store.bookings[bookingId]?.filter (·.customerId = customerId) with
  | none => simp [henabled, hfound]
  | some booking =>
      by_cases hpending : booking.status = .pending
      swap
      · simp [henabled, hfound, hpending]
      cases hfind : store.payments.findWhere (Payment.isPendingOf bookingId) with
      | some existing => simp [henabled, hfound, hpending, hfind]
      | none =>
          cases method with
          | stripe =>
              cases stripe <;>
                simp [henabled, hfound, hpending, hfind, createStripeIntent, openedPayment,
                  Store.withOpened, PaymentMethod.isManual]
          | paypal =>
              simp [henabled, hfound, hpending, hfind, createPaypalOrder, openedPayment,
                Store.withOpened, PaymentMethod.isManual]
          | orangeMoney | mtnMomo | cash | other =>
              simp [henabled, hfound, hpending, hfind, openedPayment, Store.withOpened,
                PaymentMethod.isManual]

theorem initiatePayment_storeAfter (settings : PaymentMethod → Option Bool)
    (stripe : StripeReply) (bookingId : BookingId) (method : PaymentMethod)
    (customerId : UserId) (phone : Option String) (reference : String) (now : Time) :
    (initiatePayment settings stripe bookingId method customerId phone reference
        now).storeAfter store =
      match payableBooking store settings bookingId method customerId with
      | none => store
      | some booking =>
          let payment := openedPayment stripe bookingId booking method customerId phone
            reference now
          if method.isManual then
            { store with
              bookings := store.bookings.updateById bookingId
                (Booking.withStatus .paymentPending)
              payments := store.payments.insertRow payment
              events := store.events ++
                [.paymentInitiated store.payments.length payment booking] }
          else { store with payments := store.payments.insertRow payment } := by
  rw [ServiceM.storeAfter, run_initiatePayment, payableBooking]
  by_cases henabled : settings method = some true
  swap
  · rw [if_neg henabled, if_neg henabled]
  rw [if_pos henabled, if_pos henabled]
  cases store.bookings[bookingId]? with
  | none => rfl
  | some booking =>
      by_cases howner : booking.customerId = customerId
      swap
      · simp [Option.filter_some, howner]
      by_cases hpending : booking.status = .pending
      swap
      · simp [Option.filter_some, howner, hpending]
      cases store.payments.findWhere (Payment.isPendingOf bookingId) with
      | some existing => simp [Option.filter_some, howner, hpending]
      | none =>
          simp only [Option.filter_some, howner, hpending, decide_true, if_true, and_self]
          cases method <;> cases stripe <;> rfl

/-- The payment a manual confirmation writes to, with the amount the database stores:
the payment exists, is not paid, and the amount fits its column. -/
def confirmablePayment (paymentId : PaymentId) (data : ConfirmPaymentDto) :
    Option (Payment × Amount) :=
  match store.payments[paymentId]?, (Decimal.ofRat data.amountReceived : Option Amount) with
  | some payment, some amount => if payment.status = .paid then none else some (payment, amount)
  | _, _ => none

theorem confirmablePayment_eq_some {store : Store} {paymentId : PaymentId}
    {data : ConfirmPaymentDto} {payment : Payment} {amount : Amount}
    (h : confirmablePayment store paymentId data = some (payment, amount)) :
    store.payments[paymentId]? = some payment ∧ payment.status ≠ .paid ∧
      Decimal.ofRat data.amountReceived = some amount := by
  unfold confirmablePayment at h
  split at h
  · next p a hp ha =>
      simp only [Option.ite_none_left_eq_some, Option.some.injEq, Prod.mk.injEq] at h
      obtain ⟨hpaid, rfl, rfl⟩ := h
      exact ⟨hp, hpaid, ha⟩
  · cases h

/-- **A complete `confirmManual`**: an error changes nothing. -/
theorem run_confirmManual (paymentId : PaymentId) (adminId : UserId)
    (data : ConfirmPaymentDto) (now : Time) :
    match confirmablePayment store paymentId data with
    | none => ∃ e, (confirmManual paymentId adminId data now).run store = .error e store
    | some (payment, amount) =>
        (confirmManual paymentId adminId data now).run store =
          if data.amountReceived < payment.amountExpected.toRat then
            let updated := payment.asConfirmed .partiallyPaid amount data adminId now
            .ok (some updated) { store with
              payments := store.payments.updateById paymentId
                (Payment.asConfirmed .partiallyPaid amount data adminId now)
              events := store.events ++
                [.paymentPartial paymentId (some updated)
                  store.bookings[payment.bookingId]?] }
          else
            let updated := payment.asConfirmed .paid amount data adminId now
            let booking := store.bookings[payment.bookingId]?.map
              (Booking.withStatus .confirmed)
            .ok (some updated) { store with
              bookings := store.bookings.updateById payment.bookingId
                (Booking.withStatus .confirmed)
              payments := store.payments.updateById paymentId
                (Payment.asConfirmed .paid amount data adminId now)
              events := store.events ++
                [.bookingConfirmed payment.bookingId booking,
                  .paymentConfirmed paymentId (some updated) booking] } := by
  unfold confirmManual confirmablePayment
  cases hp : store.payments[paymentId]? with
  | none => simp [hp]
  | some payment =>
      by_cases hpaid : payment.status = .paid
      · cases (Decimal.ofRat data.amountReceived : Option Amount) <;> simp [hp, hpaid]
      cases hamount : (Decimal.ofRat data.amountReceived : Option Amount) with
      | none => simp [hp, hpaid, run_toColumn_none store hamount]
      | some amount =>
          by_cases hshort : data.amountReceived < payment.amountExpected.toRat
          · simp [hp, hpaid, run_toColumn_some store hamount, hshort]
          · simp [hp, hpaid, run_toColumn_some store hamount, hshort]

theorem confirmManual_storeAfter (paymentId : PaymentId) (adminId : UserId)
    (data : ConfirmPaymentDto) (now : Time) :
    (confirmManual paymentId adminId data now).storeAfter store =
      match confirmablePayment store paymentId data with
      | none => store
      | some (payment, amount) =>
          if data.amountReceived < payment.amountExpected.toRat then
            let updated := payment.asConfirmed .partiallyPaid amount data adminId now
            { store with
              payments := store.payments.updateById paymentId
                (Payment.asConfirmed .partiallyPaid amount data adminId now)
              events := store.events ++
                [.paymentPartial paymentId (some updated)
                  store.bookings[payment.bookingId]?] }
          else
            let updated := payment.asConfirmed .paid amount data adminId now
            let booking := store.bookings[payment.bookingId]?.map
              (Booking.withStatus .confirmed)
            { store with
              bookings := store.bookings.updateById payment.bookingId
                (Booking.withStatus .confirmed)
              payments := store.payments.updateById paymentId
                (Payment.asConfirmed .paid amount data adminId now)
              events := store.events ++
                [.bookingConfirmed payment.bookingId booking,
                  .paymentConfirmed paymentId (some updated) booking] } := by
  have hrun := run_confirmManual store paymentId adminId data now
  unfold ServiceM.storeAfter
  cases hfound : confirmablePayment store paymentId data with
  | none =>
      rw [hfound] at hrun
      obtain ⟨e, he⟩ := hrun
      rw [he]
  | some found =>
      rw [hfound] at hrun
      by_cases hshort : data.amountReceived < found.1.amountExpected.toRat
      · simp only [hrun, hshort, if_true]
      · simp only [hrun, hshort, if_false]

theorem rejectPayment_storeAfter (paymentId : PaymentId) (adminId : UserId)
    (reason : Option String) (now : Time) :
    (rejectPayment paymentId adminId reason now).storeAfter store =
      match store.payments[paymentId]? with
      | none => store
      | some payment =>
          { store with
            payments := store.payments.updateById paymentId
              (Payment.asRejected adminId reason now)
            events := store.events ++
              [.paymentRejected paymentId (some (payment.asRejected adminId reason now))] } := by
  unfold ServiceM.storeAfter rejectPayment
  cases hp : store.payments[paymentId]? with
  | none => simp [hp]
  | some payment => simp [hp]

/-- Stripe lets the refund through: it is not asked, or it accepts. -/
def stripeRefunds (stripe : StripeReply) (payment : Payment) : Bool :=
  match stripe with
  | .created _ => true
  | _ => !(payment.method = .stripe ∧ (textOrNull payment.stripePaymentId).isSome)

theorem run_refundAtStripe (stripe : StripeReply) (payment : Payment) :
    (refundAtStripe stripe payment).run store =
      if stripeRefunds stripe payment then .ok () store else .error .clientError store := by
  unfold refundAtStripe stripeRefunds
  cases stripe <;> split <;> simp_all

/-- The payment a refund writes to, with the amount the database stores: the payment
is paid, Stripe lets the refund through, and the amount fits its column. -/
def refundablePayment (stripe : StripeReply) (paymentId : PaymentId) (amount : Option ℚ) :
    Option (Payment × Amount) :=
  match store.payments[paymentId]? with
  | none => none
  | some payment =>
      if payment.status = .paid ∧ stripeRefunds stripe payment then
        (Decimal.ofRat (refundAmount amount payment)).map fun refunded => (payment, refunded)
      else none

theorem refundablePayment_eq_some {store : Store} {stripe : StripeReply}
    {paymentId : PaymentId} {amount : Option ℚ} {payment : Payment} {refunded : Amount}
    (h : refundablePayment store stripe paymentId amount = some (payment, refunded)) :
    store.payments[paymentId]? = some payment ∧ payment.status = .paid ∧
      Decimal.ofRat (refundAmount amount payment) = some refunded := by
  unfold refundablePayment at h
  split at h
  · cases h
  · next p hp =>
      simp only [Option.ite_none_right_eq_some, Option.map_eq_some_iff, Prod.mk.injEq] at h
      obtain ⟨⟨hpaid, _⟩, a, ha, rfl, rfl⟩ := h
      exact ⟨hp, hpaid, ha⟩

/-- **A complete `processRefund`**: an error changes nothing. -/
theorem run_processRefund (stripe : StripeReply) (paymentId : PaymentId)
    (adminId : UserId) (amount : Option ℚ) (now : Time) :
    match refundablePayment store stripe paymentId amount with
    | none =>
        ∃ e, (processRefund stripe paymentId adminId amount now).run store = .error e store
    | some (payment, refunded) =>
        ∃ result, (processRefund stripe paymentId adminId amount now).run store =
          .ok result { store with
            bookings := store.bookings.updateById payment.bookingId
              (Booking.withStatus .refunded)
            payments := store.payments.updateById paymentId
              (Payment.asRefunded refunded adminId now)
            events := store.events ++
              [.paymentRefunded paymentId (some (payment.asRefunded refunded adminId now))] } := by
  unfold processRefund refundablePayment
  cases hp : store.payments[paymentId]? with
  | none => simp [hp]
  | some payment =>
      by_cases hpaid : payment.status = .paid
      swap
      · simp [hp, hpaid]
      cases hstripe : stripeRefunds stripe payment with
      | false => simp [hp, hpaid, run_refundAtStripe, hstripe]
      | true =>
          cases hamount : (Decimal.ofRat (refundAmount amount payment) : Option Amount) with
          | none =>
              simp [hp, hpaid, run_refundAtStripe, hstripe, run_toColumn_none store hamount,
                hamount]
          | some refunded =>
              simp [hp, hpaid, run_refundAtStripe, hstripe, run_toColumn_some store hamount,
                hamount]

theorem processRefund_storeAfter (stripe : StripeReply) (paymentId : PaymentId)
    (adminId : UserId) (amount : Option ℚ) (now : Time) :
    (processRefund stripe paymentId adminId amount now).storeAfter store =
      match refundablePayment store stripe paymentId amount with
      | none => store
      | some (payment, refunded) =>
          { store with
            bookings := store.bookings.updateById payment.bookingId
              (Booking.withStatus .refunded)
            payments := store.payments.updateById paymentId
              (Payment.asRefunded refunded adminId now)
            events := store.events ++
              [.paymentRefunded paymentId (some (payment.asRefunded refunded adminId now))] } := by
  have hrun := run_processRefund store stripe paymentId adminId amount now
  unfold ServiceM.storeAfter
  cases hfound : refundablePayment store stripe paymentId amount with
  | none =>
      rw [hfound] at hrun
      obtain ⟨e, he⟩ := hrun
      rw [he]
  | some found =>
      rw [hfound] at hrun
      obtain ⟨result, hresult⟩ := hrun
      rw [hresult]

/-- The payment a successful intent is about, with its key and the amount the database
stores. -/
def capturedPayment (intent : PaymentIntent) : Option (PaymentId × Payment × Amount) :=
  match store.payments.findWhere (·.stripePaymentId = some intent.id) with
  | none => none
  | some (paymentId, payment) =>
      (Decimal.ofRat (intent.amountReceived / 100)).map fun amount =>
        (paymentId, payment, amount)

theorem capturedPayment_eq_some {store : Store} {intent : PaymentIntent}
    {paymentId : PaymentId} {payment : Payment} {amount : Amount}
    (h : capturedPayment store intent = some (paymentId, payment, amount)) :
    store.payments[paymentId]? = some payment ∧
      payment.stripePaymentId = some intent.id ∧
      amount.toRat = intent.amountReceived / 100 := by
  unfold capturedPayment at h
  split at h
  · cases h
  · next i p hp =>
      simp only [Option.map_eq_some_iff, Prod.mk.injEq] at h
      obtain ⟨a, ha, rfl, rfl, rfl⟩ := h
      obtain ⟨hrow, hintent⟩ := Table.findWhere_eq_some hp
      refine ⟨hrow, by simpa using hintent, ?_⟩
      exact Decimal.toRat_eq_of_scale (n := intent.amountReceived) (by norm_num) ha

/-- **A complete `handleStripeSuccess`**: an intent that no payment knows is accepted, and an
error changes nothing. -/
theorem run_handleStripeSuccess (intent : PaymentIntent) (now : Time) :
    match capturedPayment store intent with
    | none =>
        store.payments.findWhere (·.stripePaymentId = some intent.id) = none ∧
            (handleStripeSuccess intent now).run store = .ok () store ∨
          store.payments.findWhere (·.stripePaymentId = some intent.id) ≠ none ∧
            ∃ e, (handleStripeSuccess intent now).run store = .error e store
    | some (paymentId, payment, amount) =>
        (handleStripeSuccess intent now).run store = .ok () { store with
          bookings := store.bookings.updateById payment.bookingId
            (Booking.withStatus .confirmed)
          payments := store.payments.updateById paymentId (Payment.asCaptured amount now)
          events := store.events ++
            [.bookingConfirmed payment.bookingId
              (store.bookings[payment.bookingId]?.map (Booking.withStatus .confirmed))] } := by
  unfold handleStripeSuccess capturedPayment
  cases hp : store.payments.findWhere (·.stripePaymentId = some intent.id) with
  | none => simp [hp]
  | some found =>
      obtain ⟨paymentId, payment⟩ := found
      cases hamount : (Decimal.ofRat (intent.amountReceived / 100) : Option Amount) with
      | none => simp [hp, run_toColumn_none store hamount]
      | some amount => simp [hp, run_toColumn_some store hamount]

theorem handleStripeSuccess_storeAfter (intent : PaymentIntent) (now : Time) :
    (handleStripeSuccess intent now).storeAfter store =
      match capturedPayment store intent with
      | none => store
      | some (paymentId, payment, amount) =>
          { store with
            bookings := store.bookings.updateById payment.bookingId
              (Booking.withStatus .confirmed)
            payments := store.payments.updateById paymentId (Payment.asCaptured amount now)
            events := store.events ++
              [.bookingConfirmed payment.bookingId
                (store.bookings[payment.bookingId]?.map (Booking.withStatus .confirmed))] } := by
  have hrun := run_handleStripeSuccess store intent now
  unfold ServiceM.storeAfter
  cases hfound : capturedPayment store intent with
  | none =>
      rw [hfound] at hrun
      rcases hrun with ⟨-, hok⟩ | ⟨-, e, he⟩
      · rw [hok]
      · rw [he]
  | some found =>
      rw [hfound] at hrun
      rw [hrun]

theorem handleStripeFailure_storeAfter (intent : PaymentIntent) :
    (handleStripeFailure intent).storeAfter store =
      { store with
        payments := store.payments.updateWhere
          (fun _ p => p.stripePaymentId = some intent.id) Payment.asFailed } := by
  simp [ServiceM.storeAfter, handleStripeFailure]

theorem handleStripeWebhook_storeAfter (event : StripeEvent) (now : Time) :
    (handleStripeWebhook event now).storeAfter store =
      match event with
      | .paymentIntentSucceeded intent => (handleStripeSuccess intent now).storeAfter store
      | .paymentIntentPaymentFailed intent => (handleStripeFailure intent).storeAfter store
      | _ => store := by
  cases event <;> rfl

/-! The same checks decide whether the calls that move money return. -/

theorem confirmManual_succeeds (paymentId : PaymentId) (adminId : UserId)
    (data : ConfirmPaymentDto) (now : Time) :
    (confirmManual paymentId adminId data now).succeeds store =
      (confirmablePayment store paymentId data).isSome := by
  have hrun := run_confirmManual store paymentId adminId data now
  unfold ServiceM.succeeds
  cases hfound : confirmablePayment store paymentId data with
  | none =>
      rw [hfound] at hrun
      obtain ⟨e, he⟩ := hrun
      rw [he]
      rfl
  | some found =>
      rw [hfound] at hrun
      by_cases hshort : data.amountReceived < found.1.amountExpected.toRat
      · simp only [hrun, hshort, if_true, Option.isSome_some]
      · simp only [hrun, hshort, if_false, Option.isSome_some]

theorem processRefund_succeeds (stripe : StripeReply) (paymentId : PaymentId)
    (adminId : UserId) (amount : Option ℚ) (now : Time) :
    (processRefund stripe paymentId adminId amount now).succeeds store =
      (refundablePayment store stripe paymentId amount).isSome := by
  have hrun := run_processRefund store stripe paymentId adminId amount now
  unfold ServiceM.succeeds
  cases hfound : refundablePayment store stripe paymentId amount with
  | none =>
      rw [hfound] at hrun
      obtain ⟨e, he⟩ := hrun
      rw [he]
      rfl
  | some found =>
      rw [hfound] at hrun
      obtain ⟨result, hresult⟩ := hrun
      rw [hresult]
      rfl

/-- A successful intent that no payment knows is accepted and ignored. -/
theorem handleStripeSuccess_succeeds (intent : PaymentIntent) (now : Time) :
    (handleStripeSuccess intent now).succeeds store =
      (store.payments.findWhere (·.stripePaymentId = some intent.id) = none ||
        (capturedPayment store intent).isSome) := by
  have hrun := run_handleStripeSuccess store intent now
  unfold ServiceM.succeeds
  cases hfound : capturedPayment store intent with
  | none =>
      rw [hfound] at hrun
      rcases hrun with ⟨hunknown, hok⟩ | ⟨hknown, e, he⟩
      · simp [hok, hunknown]
      · simp [he, hknown]
  | some found =>
      rw [hfound] at hrun
      simp [hrun]

end StoreAfter

end StayRide
