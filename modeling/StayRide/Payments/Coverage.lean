import StayRide.System.Calls

/-!
# Payments and the bookings they cover

The payments table seen from the bookings.  A payment *covers* a booking when it
is paid and what was received is at least the booking's total.  The first part is
about tables of payments alone: how inserting, updating one payment and failing
all payments of an intent change what is covered.  The second part is the
counterpart of `effectOf` for the payments table: `paymentEffectOf` reads the
effect of a call off the store, `exec_payments` proves that the table changes by
it, and `linked_exec` that every payment keeps expecting the total of a booking
that exists.
-/

namespace StayRide

open Lib

/-! ## Coverage -/

/-- The payment is paid, and enough was received for the booking `id` of this total. -/
def Payment.covers (p : Payment) (id : BookingId) (total : Amount) : Prop :=
  p.bookingId = id ∧ p.status = .paid ∧ total.toRat ≤ p.amountReceived.toRat

/-- Some payment among those satisfying `sel` covers the booking. -/
def CoveredBy (payments : Table Payment) (sel : PaymentId → Payment → Prop)
    (id : BookingId) (total : Amount) : Prop :=
  ∃ (paymentId : PaymentId) (p : Payment),
    payments[paymentId]? = some p ∧ sel paymentId p ∧ p.covers id total

/-- Some payment covers the booking. -/
def Covered (payments : Table Payment) (id : BookingId) (total : Amount) : Prop :=
  CoveredBy payments (fun _ _ => True) id total

section Coverage

variable {payments : Table Payment} {id : BookingId} {total : Amount}

/-- A new payment takes no cover away. -/
theorem Covered.insertRow (h : Covered payments id total) (row : Payment) :
    Covered (payments.insertRow row) id total :=
  Table.someRow_insertRow_iff.mpr (Or.inl h)

/-- After the update of one payment a booking is covered by that payment or by
another one. -/
theorem covered_updateById_iff {paymentId : PaymentId} {p : Payment}
    (hp : payments[paymentId]? = some p) (f : Payment → Payment) :
    Covered (payments.updateById paymentId f) id total ↔
      (f p).covers id total ∨ CoveredBy payments (fun i _ => i ≠ paymentId) id total := by
  refine (Table.someRow_updateById_iff hp f).trans ?_
  simp only [true_and]
  exact Iff.rfl

/-- Updating a payment that does not cover the booking takes no cover away. -/
theorem Covered.updateById (h : Covered payments id total) {paymentId : PaymentId}
    {p : Payment} (hp : payments[paymentId]? = some p) (hnot : ¬ p.covers id total)
    (f : Payment → Payment) : Covered (payments.updateById paymentId f) id total := by
  obtain ⟨i, q, hq, _, hcovers⟩ := h
  rw [covered_updateById_iff hp]
  refine Or.inr ⟨i, q, hq, ?_, hcovers⟩
  rintro rfl
  rw [hp, Option.some.injEq] at hq
  exact hnot (hq ▸ hcovers)

/-- After the payments selected by `sel` have failed, the others still cover. -/
theorem covered_asFailed_iff (sel : PaymentId → Payment → Bool) :
    Covered (payments.updateWhere sel Payment.asFailed) id total ↔
      CoveredBy payments (fun i p => sel i p = false) id total := by
  -- A failed payment covers nothing.
  have hfailed : ∀ (i : PaymentId) (p : Payment), ¬ (True ∧ p.asFailed.covers id total) := by
    rintro i p ⟨-, -, hpaid, -⟩
    cases hpaid
  refine (Table.someRow_updateWhere_iff hfailed).trans ?_
  simp only [true_and]
  exact Iff.rfl

end Coverage

/-! ## Effects on the payments table -/

/-- What a call does to the payments table. -/
inductive PaymentEffect
  | keep
  | insert (row : Payment)
  | update (id : PaymentId) (f : Payment → Payment)
  | updateWhere (p : Payment → Bool) (f : Payment → Payment)

def PaymentEffect.apply (payments : Table Payment) : PaymentEffect → Table Payment
  | .keep => payments
  | .insert row => payments.insertRow row
  | .update id f => payments.updateById id f
  | .updateWhere p f => payments.updateWhere (fun _ row => p row) f

/-- The effect of a call on the payments. -/
def paymentEffectOf (store : Store) (r : Request) : PaymentEffect :=
  match r.call with
  | .initiatePayment settings stripe bookingId method customerId phone reference =>
      match payableBooking store settings bookingId method customerId with
      | none => .keep
      | some booking => .insert
          (openedPayment stripe bookingId booking method customerId phone reference r.now)
  | .confirmManual paymentId adminId data =>
      match confirmablePayment store paymentId data with
      | none => .keep
      | some (payment, amount) =>
          let status :=
            if data.amountReceived < payment.amountExpected.toRat then .partiallyPaid else .paid
          .update paymentId (Payment.asConfirmed status amount data adminId r.now)
  | .rejectPayment paymentId adminId reason =>
      .update paymentId (Payment.asRejected adminId reason r.now)
  | .processRefund stripe paymentId adminId amount =>
      match refundablePayment store stripe paymentId amount with
      | none => .keep
      | some (_, refunded) => .update paymentId (Payment.asRefunded refunded adminId r.now)
  | .handleStripeWebhook (.paymentIntentSucceeded intent) =>
      match capturedPayment store intent with
      | none => .keep
      | some (paymentId, _, amount) => .update paymentId (Payment.asCaptured amount r.now)
  | .handleStripeWebhook (.paymentIntentPaymentFailed intent) =>
      .updateWhere (·.stripePaymentId = some intent.id) Payment.asFailed
  | _ => .keep

/-- **Refinement.**  A call changes the payments by its effect. -/
theorem exec_payments (lib : DateLib) (store : Store) (r : Request) :
    (exec lib store r).payments = (paymentEffectOf store r).apply store.payments := by
  obtain ⟨now, call⟩ := r
  cases call with
  | create dto customerId =>
      simp only [exec, create_storeAfter]
      cases createdBooking store lib dto customerId now <;> rfl
  | cancel bookingId user reason =>
      simp only [exec, cancel_storeAfter]
      cases cancellableBooking store bookingId user <;> rfl
  | complete bookingId => simp only [exec, complete_storeAfter]; rfl
  | initiatePayment settings stripe bookingId method customerId phone reference =>
      simp only [exec, initiatePayment_storeAfter, paymentEffectOf]
      cases payableBooking store settings bookingId method customerId with
      | none => rfl
      | some booking => cases hmanual : method.isManual <;> rfl
  | confirmManual paymentId adminId data =>
      simp only [exec, confirmManual_storeAfter, paymentEffectOf]
      cases confirmablePayment store paymentId data with
      | none => rfl
      | some found =>
          by_cases hshort : data.amountReceived < found.1.amountExpected.toRat
          · simp only [hshort, if_true, PaymentEffect.apply]
          · simp only [hshort, if_false, PaymentEffect.apply]
  | rejectPayment paymentId adminId reason =>
      simp only [exec, rejectPayment_storeAfter, paymentEffectOf]
      cases hp : store.payments[paymentId]? with
      | none => exact (Table.updateById_of_none hp _).symm
      | some payment => rfl
  | processRefund stripe paymentId adminId amount =>
      simp only [exec, processRefund_storeAfter, paymentEffectOf]
      cases refundablePayment store stripe paymentId amount <;> rfl
  | handleStripeWebhook event =>
      cases event with
      | paymentIntentSucceeded intent =>
          simp only [exec, handleStripeWebhook_storeAfter, handleStripeSuccess_storeAfter,
            paymentEffectOf]
          cases capturedPayment store intent <;> rfl
      | paymentIntentPaymentFailed intent =>
          simp only [exec, handleStripeWebhook_storeAfter, handleStripeFailure_storeAfter]
          rfl
      | invalidSignature | chargeRefunded | otherType => rfl
  | assignConcierge conciergeId resourceType resourceId assignedBy =>
      obtain ⟨assignments, h⟩ := assignConcierge_storeAfter store conciergeId resourceType
        resourceId assignedBy
      simp only [exec, h]
      rfl
  | startCheckin bookingId conciergeId =>
      simp only [exec, startCheckin_storeAfter]
      rfl
  | collectDeposit bookingId conciergeId proofUrl =>
      simp only [exec, collectDeposit_storeAfter]
      cases accessibleBooking store bookingId conciergeId with
      | none => rfl
      | some booking =>
          dsimp only
          split <;> rfl
  | confirmCheckin bookingId conciergeId =>
      simp only [exec, confirmCheckin_storeAfter]
      cases accessibleBooking store bookingId conciergeId <;> rfl
  | startCheckout bookingId conciergeId =>
      simp only [exec, startCheckout_storeAfter]
      rfl
  | confirmCheckout bookingId conciergeId =>
      simp only [exec, confirmCheckout_storeAfter]
      cases accessibleBooking store bookingId conciergeId <;> rfl
  | autoCompleteBookings today => rfl
  | cancelExpiredPendingBookings => rfl

/-! ## Payments expect the totals of their bookings -/

/-- Every payment belongs to a booking and expects its total. -/
def Linked (store : Store) : Prop :=
  ∀ (paymentId : PaymentId) (p : Payment), store.payments[paymentId]? = some p →
    ∃ stay, store.calendar[p.bookingId]? = some stay ∧ stay.totalAmount = p.amountExpected

theorem linked_start (assignments : Table ConciergeAssignment) :
    Linked (Store.start assignments) := by
  intro paymentId p hp
  cases hp

/-- What the code guarantees about its effects on payments: a new payment is linked,
and updates leave the booking and the expected amount alone. -/
def PaymentEffect.Faithful (calendar : Calendar) : PaymentEffect → Prop
  | .keep => True
  | .insert row => ∃ stay, calendar[row.bookingId]? = some stay ∧
      stay.totalAmount = row.amountExpected
  | .update _ f | .updateWhere _ f => ∀ p : Payment,
      (f p).bookingId = p.bookingId ∧ (f p).amountExpected = p.amountExpected

theorem openedPayment_eq (stripe : StripeReply) (bookingId : BookingId) (booking : Booking)
    (method : PaymentMethod) (customerId : UserId) (phone : Option String)
    (reference : String) (now : Time) :
    let payment := openedPayment stripe bookingId booking method customerId phone reference now
    payment.bookingId = bookingId ∧ payment.amountExpected = booking.totalAmount ∧
      (payment.status = .created ∨ payment.status = .pending) := by
  cases method <;> cases stripe <;> simp [openedPayment, newPayment, Payment.withIntent,
    Payment.asPending]

theorem paymentEffectOf_faithful (store : Store) (r : Request) :
    (paymentEffectOf store r).Faithful store.calendar := by
  obtain ⟨now, call⟩ := r
  cases call with
  | initiatePayment settings stripe bookingId method customerId phone reference =>
      simp only [paymentEffectOf]
      cases hp : payableBooking store settings bookingId method customerId with
      | none => trivial
      | some booking =>
          obtain ⟨hid, htotal, -⟩ := openedPayment_eq stripe bookingId booking method
            customerId phone reference now
          refine ⟨booking.stay, ?_, ?_⟩
          · rw [hid, getElem?_calendar, (payableBooking_eq_some hp).1, Option.map_some]
          · rw [htotal]
            rfl
  | confirmManual paymentId adminId data =>
      simp only [paymentEffectOf]
      cases confirmablePayment store paymentId data with
      | none => trivial
      | some found => exact fun p => ⟨rfl, rfl⟩
  | rejectPayment paymentId adminId reason => exact fun p => ⟨rfl, rfl⟩
  | processRefund stripe paymentId adminId amount =>
      simp only [paymentEffectOf]
      cases refundablePayment store stripe paymentId amount with
      | none => trivial
      | some found => exact fun p => ⟨rfl, rfl⟩
  | handleStripeWebhook event =>
      cases event with
      | paymentIntentSucceeded intent =>
          simp only [paymentEffectOf]
          cases capturedPayment store intent with
          | none => trivial
          | some found => exact fun p => ⟨rfl, rfl⟩
      | paymentIntentPaymentFailed intent => exact fun p => ⟨rfl, rfl⟩
      | invalidSignature | chargeRefunded | otherType => trivial
  | create | cancel | complete | assignConcierge | startCheckin | collectDeposit
  | confirmCheckin | startCheckout | confirmCheckout | autoCompleteBookings
  | cancelExpiredPendingBookings => trivial

/-- A row of the table after a faithful effect is linked if the rows before were. -/
private theorem linked_apply {calendar : Calendar} {payments : Table Payment}
    {effect : PaymentEffect} (hf : effect.Faithful calendar)
    (h : ∀ (paymentId : PaymentId) (p : Payment), payments[paymentId]? = some p →
      ∃ stay, calendar[p.bookingId]? = some stay ∧ stay.totalAmount = p.amountExpected)
    {paymentId : PaymentId} {p : Payment}
    (hp : (effect.apply payments)[paymentId]? = some p) :
    ∃ stay, calendar[p.bookingId]? = some stay ∧ stay.totalAmount = p.amountExpected := by
  cases effect with
  | keep => exact h paymentId p hp
  | insert row =>
      rcases Table.getElem?_insertRow_eq_some.mp hp with hold | ⟨_, rfl⟩
      · exact h paymentId p hold
      · exact hf
  | update id f =>
      obtain ⟨q, hq, rfl⟩ := Table.getElem?_updateById_eq_some.mp hp
      by_cases hid : paymentId = id
      · rw [if_pos hid, (hf q).1, (hf q).2]
        exact h paymentId q hq
      · rw [if_neg hid]
        exact h paymentId q hq
  | updateWhere sel f =>
      obtain ⟨q, hq, rfl⟩ := Table.getElem?_updateWhere_eq_some.mp hp
      cases hsel : sel q with
      | true =>
          rw [if_pos rfl, (hf q).1, (hf q).2]
          exact h paymentId q hq
      | false =>
          rw [if_neg Bool.false_ne_true]
          exact h paymentId q hq

/-- **Payments stay linked.** -/
theorem linked_exec (lib : DateLib) (store : Store) (r : Request) (h : Linked store) :
    Linked (exec lib store r) := by
  intro paymentId p hp
  rw [exec_payments] at hp
  obtain ⟨stay, hstay, htotal⟩ := linked_apply (paymentEffectOf_faithful store r) h hp
  rw [exec_calendar]
  obtain ⟨stay', hstay', htotal'⟩ := Effect.totalAmount_apply hstay (effectOf lib store r)
  exact ⟨stay', hstay', htotal'.trans htotal⟩

end StayRide
