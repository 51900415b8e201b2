import StayRide.System.Platform

/-!
# Failures during `initiatePayment`

The method writes without a transaction: it saves the payment with the status `CREATED`,
calls Stripe where the method asks for it, and then updates the payment and, for the manual
methods, the booking.  A payment that could not be initiated should leave nothing behind,
and an initiated one should be pending for the whole price.

The program of `initiatePayment` is run with an arbitrary pattern of rejected commands and
an arbitrary reply of Stripe; with no rejections it is the method (`initiate_unrejected`).
`initiate_leaves_no_debris_iff` says where the two properties hold: a saved payment is
followed by no failure, neither of a command nor of Stripe, and a pending payment that is
returned instead of a new one expects the price of the booking.
-/

namespace StayRide

open Lib

/-! ## What should hold -/

/-- How an initiation ends. -/
abbrev InitiateTrial := Program.Trial Command.Reply HttpException (PaymentId × Payment) Backend

/-- The payment was saved. -/
def Sent.savesPayment : Sent → Bool
  | ⟨.insertPayment _, .ok _⟩ => true
  | _ => false

/-- The booking has a pending payment over its price. -/
def HasPending (data : Backend) (bookingId : BookingId) : Prop :=
  ∃ (id : PaymentId) (payment : Payment) (booking : Booking),
    data.payments[id]? = some payment ∧ payment.isPendingOf bookingId = true ∧
      data.bookings[bookingId]? = some booking ∧ payment.amountExpected = booking.totalAmount

/-- A failed initiation leaves both tables alone; after a successful one the booking has a
pending payment over its price. -/
structure LeavesNoDebris (before : Backend) (bookingId : BookingId) (t : InitiateTrial) :
    Prop where
  thrown : ∀ e, t.result = .error e →
    t.data.payments = before.payments ∧ t.data.bookings = before.bookings
  returned : ∀ paid, t.result = .ok paid → HasPending t.data bookingId

/-- If Stripe is asked, it makes an intent. -/
def IntentMade (method : PaymentMethod) (stripe : StripeReply) : Prop :=
  method = .stripe → ∃ intentId, stripe = .created intentId

/-- Nothing fails once the payment is saved; a payment that is returned without being saved
is one over the price. -/
structure InitiatesCleanly (before : Backend) (bookingId : BookingId) (method : PaymentMethod)
    (stripe : StripeReply) (t : InitiateTrial) : Prop where
  saved : t.sent.any Sent.savesPayment = true →
    t.sent.all Sent.accepted = true ∧ IntentMade method stripe
  found : t.sent.any Sent.savesPayment = false → t.result.isOk = true →
    HasPending before bookingId

/-! ## The ends of an initiation -/

section Ends

variable (before : Backend) (bookingId : BookingId) (method : PaymentMethod)
  (stripe : StripeReply)

/-- From the moment the payment is saved: there is one payment more, and the rest of the
call ends well if nothing fails. -/
structure AfterSave (t : InitiateTrial) : Prop where
  length : t.data.payments.length = before.payments.length + 1
  completes : t.sent.all Sent.accepted = true → IntentMade method stripe →
    HasPending t.data bookingId ∧ t.result.isOk = true
  fails : ¬ (t.sent.all Sent.accepted = true ∧ IntentMade method stripe) →
    t.result.isOk = false

/-- The ways an initiation ends. -/
inductive InitiateEnd (t : InitiateTrial) : Prop
  | unsaved (hsaves : t.sent.any Sent.savesPayment = false) (hpayments : t.data.payments =
      before.payments) (hbookings : t.data.bookings = before.bookings)
  | saved (hsaves : t.sent.any Sent.savesPayment = true)
      (h : AfterSave before bookingId method stripe t)

variable {before bookingId method stripe} {t : InitiateTrial}

/-- The end decides. -/
theorem InitiateEnd.iff (h : InitiateEnd before bookingId method stripe t) :
    LeavesNoDebris before bookingId t ↔ InitiatesCleanly before bookingId method stripe t := by
  cases h with
  | unsaved hsaves hpayments hbookings =>
      have hpending : HasPending t.data bookingId ↔ HasPending before bookingId := by
        rw [HasPending, HasPending, hpayments, hbookings]
      constructor
      · rintro ⟨-, hreturned⟩
        refine ⟨fun hsaved => absurd (hsaves.symm.trans hsaved) Bool.false_ne_true,
          fun _ hok => ?_⟩
        cases hresult : t.result with
        | error e =>
            rw [hresult] at hok
            cases hok
        | ok paid => exact hpending.mp (hreturned paid hresult)
      · rintro ⟨-, hfound⟩
        refine ⟨fun _ _ => ⟨hpayments, hbookings⟩, fun paid hresult => ?_⟩
        exact hpending.mpr (hfound hsaves (by rw [hresult]; rfl))
  | saved hsaves hafter =>
      by_cases hclean : t.sent.all Sent.accepted = true ∧ IntentMade method stripe
      · obtain ⟨hpending, hok⟩ := hafter.completes hclean.1 hclean.2
        refine iff_of_true ⟨fun e he => ?_, fun _ _ => hpending⟩ ⟨fun _ => hclean, fun hnot => ?_⟩
        · rw [he] at hok
          cases hok
        · exact absurd (hnot.symm.trans hsaves) Bool.false_ne_true
      · refine iff_of_false (fun hkeeps => ?_) fun hguard => hclean (hguard.saved hsaves)
        have hfails := hafter.fails hclean
        cases hresult : t.result with
        | ok paid =>
            rw [hresult] at hfails
            cases hfails
        | error e =>
            -- The saved payment is still there.
            have hlength := hafter.length
            rw [(hkeeps.thrown e hresult).1] at hlength
            omega

/-- Reads that came before. -/
theorem InitiateEnd.afterRead (h : InitiateEnd before bookingId method stripe t) {c : Command}
    {r : c.Reply} (hc : c.isRead = true) :
    InitiateEnd before bookingId method stripe (t.after [⟨c, .ok r⟩]) := by
  have hread : Sent.savesPayment ⟨c, .ok r⟩ = false := by
    cases c with
    | insertPayment => cases hc
    | _ => rfl
  have hany : (t.after [⟨c, .ok r⟩]).sent.any Sent.savesPayment =
      t.sent.any Sent.savesPayment := by
    show (Sent.savesPayment ⟨c, .ok r⟩ || t.sent.any Sent.savesPayment) = _
    rw [hread, Bool.false_or]
  cases h with
  | unsaved hsaves hpayments hbookings =>
      exact .unsaved (hany.trans hsaves) hpayments hbookings
  | saved hsaves hafter =>
      exact .saved (hany.trans hsaves) ⟨hafter.length, hafter.completes, hafter.fails⟩

/-- The payment is saved, and then the rest of the call runs. -/
theorem AfterSave.ends (h : AfterSave before bookingId method stripe t) (payment : Payment)
    (id : PaymentId) :
    InitiateEnd before bookingId method stripe (t.after [⟨.insertPayment payment, .ok id⟩]) :=
  .saved rfl ⟨h.length, h.completes, h.fails⟩

/-- A rest of the call that fails. -/
private theorem AfterSave.failed (hlength : t.data.payments.length = before.payments.length + 1)
    (hresult : t.result.isOk = false)
    (hreason : t.sent.all Sent.accepted = true → ¬ IntentMade method stripe) :
    AfterSave before bookingId method stripe t :=
  ⟨hlength, fun hall hmade => absurd hmade (hreason hall), fun _ => hresult⟩

/-- A rest of the call that succeeds. -/
private theorem AfterSave.completed
    (hlength : t.data.payments.length = before.payments.length + 1)
    (hpending : HasPending t.data bookingId) (hresult : t.result.isOk = true)
    (hall : t.sent.all Sent.accepted = true) (hmade : IntentMade method stripe) :
    AfterSave before bookingId method stripe t :=
  ⟨hlength, fun _ _ => ⟨hpending, hresult⟩, fun hnot => absurd ⟨hall, hmade⟩ hnot⟩

end Ends

/-! ## Every initiation -/

section Initiate

variable (settings : PaymentMethod → Option Bool) (stripe : StripeReply)
  (bookingId : BookingId) (method : PaymentMethod) (customerId : UserId) (phone : Option String)
  (reference : String) (now : Time) (failures : ℕ → Option HttpException) (before : Backend)

/-- The tables once the payment is saved. -/
def withSaved (payment : Payment) : Backend :=
  { before with payments := before.payments.insertRow payment }

variable {bookingId method} {booking : Booking} {payment : Payment}

/-- The rest of the call is about the row that was saved. -/
private theorem hasPending_of_row {data : Backend} {booking' : Booking}
    (hpayments : data.payments = before.payments.insertRow payment)
    (hpending : payment.isPendingOf bookingId = true)
    (hbooking : data.bookings[bookingId]? = some booking')
    (hamount : payment.amountExpected = booking'.totalAmount) : HasPending data bookingId :=
  ⟨before.payments.length, payment, booking',
    by rw [hpayments]; exact Table.getElem?_insertRow_self _ _, hpending, hbooking, hamount⟩

section Saved

variable (hb : before.bookings[bookingId]? = some booking)
  (hof : payment.bookingId = bookingId) (hamount : payment.amountExpected = booking.totalAmount)
include hb hof hamount

theorem createStripeIntent_afterSave :
    AfterSave before bookingId .stripe stripe ((Async.createStripeIntent before.payments.length
      payment stripe).trial Command.handle failures (withSaved before payment)) := by
  have hlength : (before.payments.insertRow payment).length = before.payments.length + 1 :=
    Table.length_insertRow _ _
  cases stripe with
  | notConfigured =>
      refine .failed hlength rfl fun _ hmade => ?_
      obtain ⟨intentId, hintent⟩ := hmade rfl
      cases hintent
  | rejected =>
      refine .failed hlength rfl fun _ hmade => ?_
      obtain ⟨intentId, hintent⟩ := hmade rfl
      cases hintent
  | created intentId =>
      refine Program.trial_handled_bind Command.handle failures _ rfl ?_ ?_
      · intro e
        exact .failed hlength rfl fun hall => absurd hall Bool.false_ne_true
      · have hrow := Table.updateById_insertRow_self before.payments payment
          (Payment.withIntent intentId)
        refine .completed ?_ (hasPending_of_row before hrow (by simp [Payment.isPendingOf,
          Payment.withIntent, hof]) hb hamount) rfl rfl fun _ => ⟨intentId, rfl⟩
        exact (congrArg List.length hrow).trans (Table.length_insertRow _ _)

theorem createPaypalOrder_afterSave :
    AfterSave before bookingId .paypal stripe ((Async.createPaypalOrder before.payments.length
      payment).trial Command.handle failures (withSaved before payment)) := by
  refine Program.trial_handled_bind Command.handle failures _ rfl ?_ ?_
  · intro e
    exact .failed (Table.length_insertRow _ _) rfl fun hall => absurd hall Bool.false_ne_true
  · have hrow := Table.updateById_insertRow_self before.payments payment Payment.asPending
    refine .completed ?_ (hasPending_of_row before hrow (by simp [Payment.isPendingOf,
      Payment.asPending, hof]) hb hamount) rfl rfl fun hmethod => by cases hmethod
    exact (congrArg List.length hrow).trans (Table.length_insertRow _ _)

/-- The methods that an administrator confirms: payment, booking, event. -/
theorem manual_afterSave (hmethod : method ≠ .stripe) (event : DomainEvent) :
    AfterSave before bookingId method stripe ((do
      Async.updatePayment before.payments.length .pending
      Async.updateBooking bookingId (.status .paymentPending)
      Async.emit event
      return (before.payments.length, payment.asPending) : Async (PaymentId × Payment)).trial
        Command.handle failures (withSaved before payment)) := by
  have hrow := Table.updateById_insertRow_self before.payments payment Payment.asPending
  have hlength := (congrArg List.length hrow).trans (Table.length_insertRow _ _)
  refine Program.trial_handled_bind Command.handle failures _ rfl ?_ ?_
  · intro e
    exact .failed (Table.length_insertRow _ _) rfl fun hall => absurd hall Bool.false_ne_true
  refine Program.trial_handled_bind
    (Q := fun t => AfterSave before bookingId method stripe (t.after _)) Command.handle _ _ rfl
    ?_ ?_
  · intro e
    exact .failed hlength rfl fun hall => absurd hall Bool.false_ne_true
  refine Program.trial_handled_bind
    (Q := fun t => AfterSave before bookingId method stripe ((t.after _).after _)) Command.handle
    _ _ rfl ?_ ?_
  · intro e
    exact .failed hlength rfl fun hall => absurd hall Bool.false_ne_true
  · have hbooking : (before.bookings.updateById bookingId
        (Booking.withStatus .paymentPending))[bookingId]? =
          some (booking.withStatus .paymentPending) := by
      rw [Table.getElem?_updateById, hb, Option.map_some, if_pos rfl]
    exact .completed hlength (hasPending_of_row before hrow (by simp [Payment.isPendingOf,
      Payment.asPending, hof]) hbooking hamount) rfl rfl fun hstripe => absurd hstripe hmethod

end Saved

/-- **How an initiation ends**, whatever fails. -/
theorem initiate_ends :
    InitiateEnd before bookingId method stripe ((Async.initiatePayment settings stripe bookingId
      method customerId phone reference now).trial Command.handle failures before) := by
  unfold Async.initiatePayment Async.validatePaymentMethodEnabled
  by_cases henabled : settings method = some true
  swap
  · rw [if_neg henabled]
    exact .unsaved rfl rfl rfl
  rw [if_pos henabled]
  refine Program.trial_handled_bind Command.handle failures before
    (c := .findBooking bookingId) rfl ?_ ?_
  · intro e
    exact .unsaved rfl rfl rfl
  refine InitiateEnd.afterRead ?_ rfl
  have hbooking : ∀ booking, before.bookings[bookingId]?.filter (·.customerId = customerId) =
      some booking → before.bookings[bookingId]? = some booking := by
    intro booking hfound
    exact (Option.filter_eq_some_iff.mp hfound).1
  cases hfound : before.bookings[bookingId]?.filter (·.customerId = customerId) with
  | none => exact .unsaved rfl rfl rfl
  | some booking =>
      dsimp only
      by_cases hstatus : booking.status = .pending
      swap
      · rw [if_pos hstatus]
        exact .unsaved rfl rfl rfl
      rw [if_neg (not_not.mpr hstatus)]
      refine Program.trial_handled_bind Command.handle _ before
        (c := .findPaymentWhere (Payment.isPendingOf bookingId)) rfl ?_ ?_
      · intro e
        exact .unsaved rfl rfl rfl
      refine InitiateEnd.afterRead ?_ rfl
      cases hexisting : before.payments.findWhere (Payment.isPendingOf bookingId) with
      | some existing => exact .unsaved rfl rfl rfl
      | none =>
          have hb := hbooking booking hfound
          refine Program.trial_handled_bind Command.handle _ before rfl ?_ ?_
          · intro e
            exact .unsaved rfl rfl rfl
          cases method with
          | stripe => exact (createStripeIntent_afterSave _ _ _ hb rfl rfl).ends _ _
          | paypal => exact (createPaypalOrder_afterSave _ _ _ hb rfl rfl).ends _ _
          | orangeMoney | mtnMomo | cash | other =>
              exact (manual_afterSave _ _ _ hb rfl rfl (by simp) _).ends _ _

/-- **Without failures, an initiation is the method.** -/
theorem initiate_unrejected :
    let t := (Async.initiatePayment settings stripe bookingId method customerId phone reference
      now).trial Command.handle (fun _ => none) before
    let call := initiatePayment settings stripe bookingId method customerId phone reference now
    t.data.toStore = call.storeAfter before.toStore ∧ t.result = call.outcome before.toStore :=
  (Async.implements_initiatePayment settings stripe bookingId method customerId phone reference
    now).trial before

end Initiate

namespace Demo

/-- The car is booked and not yet paid. -/
def carBooked : Backend :=
  ((Async.create dates clio 1 0).trial Command.handle (fun _ => none)
    ⟨Store.start [], [], []⟩).data

/-- The customer wants to pay by card, but Stripe is not configured; no command fails. -/
def withoutStripe : InitiateTrial :=
  (Async.initiatePayment (fun _ => some true) .notConfigured 0 .stripe 1 none "SR-0" 1).trial
    Command.handle (fun _ => none) carBooked

end Demo

end StayRide
