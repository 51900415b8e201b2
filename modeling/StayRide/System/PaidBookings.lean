import StayRide.Payments.Coverage
import StayRide.System.Histories

/-!
# Paid before confirmed

A booking that is confirmed, active or completed should have a paid payment of at
least its total.  `paid_along_iff` says which histories keep this.  The calls that
can break it are the ones that advance a booking without a payment (check-in,
check-out, completion), a capture of less than the total at Stripe, and the
rejection or failure of the payment that covers a booking; each is harmless
exactly when the booking is covered otherwise, and all other calls are harmless.
-/

namespace StayRide

open Lib

variable (lib : DateLib)

/-- The statuses of a booking that must have been paid for. -/
def BookingStatus.isPaidFor : BookingStatus → Bool
  | .confirmed | .active | .completed => true
  | _ => false

/-- Every booking that must have been paid for is covered by a payment. -/
def PaidBeforeConfirmed (calendar : Calendar) (payments : Table Payment) : Prop :=
  ∀ (id : BookingId) (stay : Stay), calendar[id]? = some stay →
    stay.status.isPaidFor = true → Covered payments id stay.totalAmount

/-- The booking, if it exists, is covered. -/
def PaidFor (store : Store) (id : BookingId) : Prop :=
  ∀ b, store.bookings[id]? = some b → Covered store.payments id b.totalAmount

/-- The payments satisfying `sel` cover the booking, if it must have been paid for. -/
def StillPaidBy (store : Store) (sel : PaymentId → Payment → Prop) (id : BookingId) : Prop :=
  ∀ b, store.bookings[id]? = some b → b.status.isPaidFor = true →
    CoveredBy store.payments sel id b.totalAmount

/-- The condition on a call: it advances only bookings that are paid for, captures at
least the total, and fails no payment that a booking rests on. -/
def KeepsCover (store : Store) (r : Request) : Prop :=
  match r.call with
  | .complete bookingId => PaidFor store bookingId
  | .confirmCheckin bookingId conciergeId =>
      accessibleBooking store bookingId conciergeId ≠ none → PaidFor store bookingId
  | .confirmCheckout bookingId conciergeId =>
      accessibleBooking store bookingId conciergeId ≠ none → PaidFor store bookingId
  | .handleStripeWebhook (.paymentIntentSucceeded intent) =>
      ∀ paymentId payment amount,
        capturedPayment store intent = some (paymentId, payment, amount) →
          ∀ b, store.bookings[payment.bookingId]? = some b →
            b.totalAmount.toRat ≤ intent.amountReceived / 100 ∨
              CoveredBy store.payments (fun i _ => i ≠ paymentId) payment.bookingId
                b.totalAmount
  | .handleStripeWebhook (.paymentIntentPaymentFailed intent) =>
      ∀ (paymentId : PaymentId) (p : Payment), store.payments[paymentId]? = some p →
        p.stripePaymentId = some intent.id → p.status = .paid →
          StillPaidBy store (fun _ q => q.stripePaymentId ≠ some intent.id) p.bookingId
  | .rejectPayment paymentId _ _ =>
      ∀ p, store.payments[paymentId]? = some p → p.status = .paid →
        StillPaidBy store (fun i _ => i ≠ paymentId) p.bookingId
  | _ => True

/-! ## One call -/

section Step

variable {store : Store}

/-- After a routine effect the bookings that must have been paid for are the ones
that had to be before. -/
theorem covered_of_routine {call : Call} {effect : Effect} {payments : Table Payment}
    (h : Routine store call effect) (hpaid : PaidBeforeConfirmed store.calendar payments)
    {id : BookingId} {stay : Stay} (hstay : (effect.apply store.calendar)[id]? = some stay)
    (hstatus : stay.status.isPaidFor = true) : Covered payments id stay.totalAmount := by
  -- A stay that the effect gives another status is not paid for afterwards.
  have hmove : ∀ {moved : BookingId} {status : BookingStatus}, status.isPaidFor = false →
      ((Effect.move moved status).apply store.calendar)[id]? = some stay →
        Covered payments id stay.totalAmount := by
    intro moved status hnot hmoved
    obtain ⟨old, hold, rfl⟩ := Table.getElem?_updateById_eq_some.mp hmoved
    by_cases hid : id = moved
    · rw [if_pos hid, Stay.withStatus_status, hnot] at hstatus
      cases hstatus
    · rw [if_neg hid] at hstatus ⊢
      exact hpaid id old hold hstatus
  cases h with
  | keep => exact hpaid id stay hstay hstatus
  | book hpending _ =>
      rcases Table.getElem?_insertRow_eq_some.mp hstay with hold | ⟨_, rfl⟩
      · exact hpaid id stay hold hstatus
      · rw [hpending] at hstatus
        cases hstatus
  | cancel | await | refund => exact hmove rfl hstay
  | @finish selected hactive =>
      obtain ⟨old, hold, rfl⟩ := Table.getElem?_updateWhere_eq_some.mp hstay
      cases hsel : selected id with
      | true =>
          -- The scheduler completes what was active, and so was paid for.
          obtain ⟨b, hb, rfl⟩ := getElem?_calendar_eq_some.mp hold
          refine hpaid id b.stay (getElem?_calendar_of_some hb) ?_
          rw [show b.stay.status = b.status from rfl, hactive id b hb hsel]
          rfl
      | false =>
          rw [hsel, if_neg Bool.false_ne_true] at hstatus
          exact hpaid id old hold hstatus
  | @expire selected _ =>
      obtain ⟨old, hold, rfl⟩ := Table.getElem?_updateWhere_eq_some.mp hstay
      cases hsel : selected id with
      | true =>
          rw [hsel] at hstatus
          cases hstatus
      | false =>
          rw [hsel, if_neg Bool.false_ne_true] at hstatus
          exact hpaid id old hold hstatus

/-- Giving one booking a status that must have been paid for, while the covers of the
other bookings stay, keeps the property exactly when that booking is covered. -/
theorem paid_move_iff {payments payments' : Table Payment} {calendar : Calendar}
    (hpaid : PaidBeforeConfirmed calendar payments) {id : BookingId} {status : BookingStatus}
    (hstatus : status.isPaidFor = true)
    (hother : ∀ (i : BookingId) (total : Amount), i ≠ id → Covered payments i total →
      Covered payments' i total) :
    PaidBeforeConfirmed ((Effect.move id status).apply calendar) payments' ↔
      ∀ stay, calendar[id]? = some stay → Covered payments' id stay.totalAmount := by
  constructor
  · intro h stay hstay
    refine h id (stay.withStatus status) ?_ hstatus
    rw [Effect.apply, Table.getElem?_updateById, hstay, Option.map_some, if_pos rfl]
  · intro h i stay hstay hpaidFor
    obtain ⟨old, hold, rfl⟩ := Table.getElem?_updateById_eq_some.mp hstay
    by_cases hi : i = id
    · subst hi
      rw [if_pos rfl]
      exact h old hold
    · rw [if_neg hi] at hpaidFor ⊢
      exact hother i _ hi (hpaid i old hold hpaidFor)

/-- Advancing a booking without touching the payments. -/
theorem paid_advance_iff (hpaid : PaidBeforeConfirmed store.calendar store.payments)
    {id : BookingId} {status : BookingStatus} (hstatus : status.isPaidFor = true) :
    PaidBeforeConfirmed ((Effect.move id status).apply store.calendar) store.payments ↔
      PaidFor store id := by
  rw [paid_move_iff hpaid hstatus fun _ _ _ h => h]
  constructor
  · intro h b hb
    exact h b.stay (getElem?_calendar_of_some hb)
  · intro h stay hstay
    obtain ⟨b, hb, rfl⟩ := getElem?_calendar_eq_some.mp hstay
    exact h b hb

/-- Updating a payment takes cover from its own booking only. -/
private theorem covered_of_other {payments : Table Payment} {paymentId : PaymentId}
    {p : Payment} (hp : payments[paymentId]? = some p) (f : Payment → Payment)
    {id : BookingId} {total : Amount} (hid : id ≠ p.bookingId)
    (h : Covered payments id total) : Covered (payments.updateById paymentId f) id total :=
  h.updateById hp (fun hcovers => hid hcovers.1.symm) f

theorem paid_confirmManual (hlinked : Linked store)
    (hpaid : PaidBeforeConfirmed store.calendar store.payments) (now : Time)
    (paymentId : PaymentId) (adminId : UserId) (data : ConfirmPaymentDto) :
    PaidBeforeConfirmed
      (exec lib store ⟨now, .confirmManual paymentId adminId data⟩).calendar
      (exec lib store ⟨now, .confirmManual paymentId adminId data⟩).payments := by
  rw [exec_calendar, exec_payments]
  simp only [effectOf, paymentEffectOf]
  cases hc : confirmablePayment store paymentId data with
  | none => exact hpaid
  | some found =>
      obtain ⟨payment, amount⟩ := found
      obtain ⟨hp, hnot, hamount⟩ := confirmablePayment_eq_some hc
      by_cases hshort : data.amountReceived < payment.amountExpected.toRat
      · -- The payment was not paid, so no booking rested on it.
        simp only [hshort, if_true]
        intro id stay hstay hstatus
        exact (hpaid id stay hstay hstatus).updateById hp (fun h => hnot h.2.1) _
      · simp only [hshort, if_false]
        refine (paid_move_iff hpaid rfl fun i total hi h => covered_of_other hp _ hi h).mpr ?_
        intro stay hstay
        -- What is received is at least what is expected, the booking's total.
        obtain ⟨stay', hstay', htotal⟩ := hlinked paymentId payment hp
        rw [hstay, Option.some.injEq] at hstay'
        subst hstay'
        refine (covered_updateById_iff hp _).mpr (Or.inl ⟨rfl, rfl, ?_⟩)
        rw [htotal]
        exact Decimal.toRat_le_of_le (not_lt.mp hshort) hamount

theorem paid_processRefund (hpaid : PaidBeforeConfirmed store.calendar store.payments)
    (now : Time) (stripe : StripeReply) (paymentId : PaymentId) (adminId : UserId)
    (amount : Option ℚ) :
    PaidBeforeConfirmed
      (exec lib store ⟨now, .processRefund stripe paymentId adminId amount⟩).calendar
      (exec lib store ⟨now, .processRefund stripe paymentId adminId amount⟩).payments := by
  rw [exec_calendar, exec_payments]
  simp only [effectOf, paymentEffectOf]
  cases hr : refundablePayment store stripe paymentId amount with
  | none => exact hpaid
  | some found =>
      obtain ⟨payment, refunded⟩ := found
      obtain ⟨hp, -, -⟩ := refundablePayment_eq_some hr
      intro id stay hstay hstatus
      have hne : id ≠ payment.bookingId := by
        rintro rfl
        obtain ⟨old, -, rfl⟩ := Table.getElem?_updateById_eq_some.mp hstay
        rw [if_pos rfl] at hstatus
        cases hstatus
      have hrefund : Routine store (.processRefund stripe paymentId adminId amount)
          (.move payment.bookingId .refunded) := .refund _
      exact covered_of_other hp _ hne (covered_of_routine hrefund hpaid hstay hstatus)

theorem paid_stripeSuccess_iff
    (hpaid : PaidBeforeConfirmed store.calendar store.payments) (now : Time)
    (intent : PaymentIntent) :
    PaidBeforeConfirmed
        (exec lib store ⟨now, .handleStripeWebhook (.paymentIntentSucceeded intent)⟩).calendar
        (exec lib store ⟨now, .handleStripeWebhook (.paymentIntentSucceeded intent)⟩).payments ↔
      KeepsCover store ⟨now, .handleStripeWebhook (.paymentIntentSucceeded intent)⟩ := by
  rw [exec_calendar, exec_payments]
  simp only [effectOf, paymentEffectOf, KeepsCover]
  cases hc : capturedPayment store intent with
  | none => exact iff_of_true hpaid (fun _ _ _ h => by cases h)
  | some found =>
      obtain ⟨paymentId, payment, amount⟩ := found
      obtain ⟨hp, -, hamount⟩ := capturedPayment_eq_some hc
      simp only
      rw [PaymentEffect.apply,
        paid_move_iff hpaid rfl fun i total hi h => covered_of_other hp _ hi h]
      constructor
      · intro h paymentId' payment' amount' hcap b hb
        simp only [Option.some.injEq, Prod.mk.injEq] at hcap
        obtain ⟨rfl, rfl, rfl⟩ := hcap
        have hcovered := h b.stay (getElem?_calendar_of_some hb)
        rcases (covered_updateById_iff hp _).mp hcovered with hself | hother
        · exact Or.inl (hamount ▸ hself.2.2)
        · exact Or.inr hother
      · intro h stay hstay
        obtain ⟨b, hb, rfl⟩ := getElem?_calendar_eq_some.mp hstay
        rw [covered_updateById_iff hp]
        rcases h paymentId payment amount rfl b hb with henough | hother
        · exact Or.inl ⟨rfl, rfl, by rw [← hamount] at henough; exact henough⟩
        · exact Or.inr hother

theorem paid_stripeFailure_iff
    (hpaid : PaidBeforeConfirmed store.calendar store.payments) (now : Time)
    (intent : PaymentIntent) :
    PaidBeforeConfirmed
        (exec lib store
          ⟨now, .handleStripeWebhook (.paymentIntentPaymentFailed intent)⟩).calendar
        (exec lib store
          ⟨now, .handleStripeWebhook (.paymentIntentPaymentFailed intent)⟩).payments ↔
      KeepsCover store ⟨now, .handleStripeWebhook (.paymentIntentPaymentFailed intent)⟩ := by
  rw [exec_calendar, exec_payments]
  simp only [effectOf, paymentEffectOf, KeepsCover, Effect.apply, PaymentEffect.apply]
  -- The payments that fail are the ones of this intent.
  have hother : ∀ {id : BookingId} {total : Amount},
      Covered (store.payments.updateWhere
          (fun _ p => decide (p.stripePaymentId = some intent.id)) Payment.asFailed) id total ↔
        CoveredBy store.payments (fun _ q => q.stripePaymentId ≠ some intent.id) id total := by
    intro id total
    rw [covered_asFailed_iff]
    simp only [decide_eq_false_iff_not, ne_eq]
  constructor
  · intro h paymentId p _ _ _ b hb hstatus
    exact hother.mp (h p.bookingId b.stay (getElem?_calendar_of_some hb)
      hstatus)
  · intro h id stay hstay hstatus
    rw [hother]
    obtain ⟨i, q, hq, -, hcovers⟩ := hpaid id stay hstay hstatus
    by_cases hintent : q.stripePaymentId = some intent.id
    · obtain ⟨b, hb, rfl⟩ := getElem?_calendar_eq_some.mp hstay
      have hstill := h i q hq hintent hcovers.2.1
      rw [hcovers.1] at hstill
      exact hstill b hb hstatus
    · exact ⟨i, q, hq, hintent, hcovers⟩

theorem paid_rejectPayment_iff
    (hpaid : PaidBeforeConfirmed store.calendar store.payments) (now : Time)
    (paymentId : PaymentId) (adminId : UserId) (reason : Option String) :
    PaidBeforeConfirmed
        (exec lib store ⟨now, .rejectPayment paymentId adminId reason⟩).calendar
        (exec lib store ⟨now, .rejectPayment paymentId adminId reason⟩).payments ↔
      KeepsCover store ⟨now, .rejectPayment paymentId adminId reason⟩ := by
  rw [exec_calendar, exec_payments]
  simp only [effectOf, paymentEffectOf, KeepsCover, Effect.apply, PaymentEffect.apply]
  cases hp : store.payments[paymentId]? with
  | none =>
      rw [Table.updateById_of_none hp]
      exact iff_of_true hpaid (fun _ h => by cases h)
  | some p =>
      constructor
      · intro h p' hp' hstatus b hb hpaidFor
        obtain rfl := Option.some.inj hp'
        have hcovered := h p.bookingId b.stay (getElem?_calendar_of_some hb)
          hpaidFor
        rcases (covered_updateById_iff hp _).mp hcovered with hself | hother
        · cases hself.2.1
        · exact hother
      · intro h id stay hstay hstatus
        have hbefore := hpaid id stay hstay hstatus
        by_cases hcovers : p.covers id stay.totalAmount
        · -- The booking rests on the rejected payment, so another one must cover it.
          obtain ⟨b, hb, rfl⟩ := getElem?_calendar_eq_some.mp hstay
          have hstill := h p rfl hcovers.2.1
          rw [hcovers.1] at hstill
          exact (covered_updateById_iff hp _).mpr (Or.inr (hstill b hb hstatus))
        · exact hbefore.updateById hp hcovers _

end Step

/-- **One call** keeps bookings paid for exactly when it keeps their cover. -/
theorem paid_exec_iff {store : Store} (hlinked : Linked store)
    (hpaid : PaidBeforeConfirmed store.calendar store.payments) (r : Request) :
    PaidBeforeConfirmed (exec lib store r).calendar (exec lib store r).payments ↔
      KeepsCover store r := by
  -- Calls that advance nothing and leave the payments alone or add one.
  have hroutine : advances store r.call = none →
      (∀ id total, Covered store.payments id total →
        Covered ((paymentEffectOf store r).apply store.payments) id total) →
      PaidBeforeConfirmed (exec lib store r).calendar (exec lib store r).payments := by
    intro hadv hmono id stay hstay hstatus
    rw [exec_calendar] at hstay
    rw [exec_payments]
    exact hmono id _ (covered_of_routine (routine_of_not_advances lib hadv) hpaid hstay hstatus)
  obtain ⟨now, call⟩ := r
  cases call with
  | create | cancel | assignConcierge | startCheckin | collectDeposit | startCheckout
  | autoCompleteBookings | cancelExpiredPendingBookings =>
      exact iff_of_true (hroutine rfl fun _ _ h => h) trivial
  | initiatePayment settings stripe bookingId method customerId phone reference =>
      refine iff_of_true (hroutine rfl fun id total h => ?_) trivial
      simp only [paymentEffectOf]
      cases payableBooking store settings bookingId method customerId with
      | none => exact h
      | some booking => exact h.insertRow _
  | confirmManual paymentId adminId data =>
      exact iff_of_true (paid_confirmManual lib hlinked hpaid now paymentId adminId data) trivial
  | processRefund stripe paymentId adminId amount =>
      exact iff_of_true (paid_processRefund lib hpaid now stripe paymentId adminId amount)
        trivial
  | rejectPayment paymentId adminId reason =>
      exact paid_rejectPayment_iff lib hpaid now paymentId adminId reason
  | handleStripeWebhook event =>
      cases event with
      | paymentIntentSucceeded intent => exact paid_stripeSuccess_iff lib hpaid now intent
      | paymentIntentPaymentFailed intent => exact paid_stripeFailure_iff lib hpaid now intent
      | invalidSignature | chargeRefunded | otherType =>
          exact iff_of_true (hroutine rfl fun _ _ h => h) trivial
  | complete bookingId =>
      rw [exec_calendar, exec_payments]
      exact paid_advance_iff hpaid rfl
  | confirmCheckin bookingId conciergeId | confirmCheckout bookingId conciergeId =>
      rw [exec_calendar, exec_payments]
      simp only [effectOf, KeepsCover]
      cases accessibleBooking store bookingId conciergeId with
      | none => exact iff_of_true hpaid (fun h => absurd rfl h)
      | some booking =>
          rw [forall_prop_of_true (Option.some_ne_none booking)]
          exact paid_advance_iff hpaid rfl

end StayRide
