import StayRide.Concierge.Service
import StayRide.Payments.Service
import StayRide.Scheduler.Service

/-!
# The calls of the booking side, and what they do to the calendar

`Call` lists the operations of the four services that read or write bookings and
payments, each with the arguments of its request; `exec` runs one of them to
completion.  A history of the platform is a list of requests, run one after the
other from a start store.

`effectOf` reads off the store and the request which effect the call has on the
calendar, and `exec_calendar` proves that the bookings table changes by exactly
that effect: the services refine the calendar.  A call either advances a booking
(`advances`: confirmation, check-in, check-out, completion), and then says nothing
about the status it starts from, or its effect is `Routine`.  Everything that is
proved about histories of bookings goes through these facts.
-/

namespace StayRide

open Lib Service

/-- The operations on bookings and payments. -/
inductive Call
  | create (dto : CreateBookingDto) (customerId : UserId)
  | cancel (bookingId : BookingId) (user : CurrentUser) (reason : Option String)
  | complete (bookingId : BookingId)
  | initiatePayment (settings : PaymentMethod → Option Bool) (stripe : StripeReply)
      (bookingId : BookingId) (method : PaymentMethod) (customerId : UserId)
      (phone : Option String) (reference : String)
  | confirmManual (paymentId : PaymentId) (adminId : UserId) (data : ConfirmPaymentDto)
  | rejectPayment (paymentId : PaymentId) (adminId : UserId) (reason : Option String)
  | processRefund (stripe : StripeReply) (paymentId : PaymentId) (adminId : UserId)
      (amount : Option ℚ)
  | handleStripeWebhook (event : StripeEvent)
  | assignConcierge (conciergeId : UserId) (resourceType : ResourceType)
      (resourceId : ResourceId) (assignedBy : UserId)
  | startCheckin (bookingId : BookingId) (conciergeId : UserId)
  | collectDeposit (bookingId : BookingId) (conciergeId : UserId)
      (proofUrl : Option String)
  | confirmCheckin (bookingId : BookingId) (conciergeId : UserId)
  | startCheckout (bookingId : BookingId) (conciergeId : UserId)
  | confirmCheckout (bookingId : BookingId) (conciergeId : UserId)
  | autoCompleteBookings (today : Day)
  | cancelExpiredPendingBookings

/-- A call and the time at which it runs. -/
structure Request where
  now : Time
  call : Call

section Exec

variable (lib : DateLib)

/-- Run one call to completion. -/
def exec (store : Store) (r : Request) : Store :=
  match r.call with
  | .create dto customerId => (create lib dto customerId r.now).storeAfter store
  | .cancel bookingId user reason => (cancel bookingId user reason).storeAfter store
  | .complete bookingId => (complete bookingId r.now).storeAfter store
  | .initiatePayment settings stripe bookingId method customerId phone reference =>
      (initiatePayment settings stripe bookingId method customerId phone reference
        r.now).storeAfter store
  | .confirmManual paymentId adminId data =>
      (confirmManual paymentId adminId data r.now).storeAfter store
  | .rejectPayment paymentId adminId reason =>
      (rejectPayment paymentId adminId reason r.now).storeAfter store
  | .processRefund stripe paymentId adminId amount =>
      (processRefund stripe paymentId adminId amount r.now).storeAfter store
  | .handleStripeWebhook event => (handleStripeWebhook event r.now).storeAfter store
  | .assignConcierge conciergeId resourceType resourceId assignedBy =>
      (assignConcierge conciergeId resourceType resourceId assignedBy).storeAfter store
  | .startCheckin bookingId conciergeId =>
      (startCheckin bookingId conciergeId).storeAfter store
  | .collectDeposit bookingId conciergeId proofUrl =>
      (collectDeposit bookingId conciergeId proofUrl r.now).storeAfter store
  | .confirmCheckin bookingId conciergeId =>
      (confirmCheckin bookingId conciergeId r.now).storeAfter store
  | .startCheckout bookingId conciergeId =>
      (startCheckout bookingId conciergeId).storeAfter store
  | .confirmCheckout bookingId conciergeId =>
      (confirmCheckout bookingId conciergeId r.now).storeAfter store
  | .autoCompleteBookings today => (autoCompleteBookings today).storeAfter store
  | .cancelExpiredPendingBookings => (cancelExpiredPendingBookings r.now).storeAfter store

/-! ## Effects on the calendar -/

/-- The bookings a sweep with the `WHERE` clause `p` selects. -/
def Store.selected (store : Store) (p : BookingId → Booking → Bool) (id : BookingId) : Bool :=
  store.bookings[id]?.any (p id)

/-- The effect of a call on the calendar. -/
def effectOf (store : Store) (r : Request) : Effect :=
  match r.call with
  | .create dto customerId =>
      match createdBooking store lib dto customerId r.now with
      | none => .keep
      | some booking => .book booking.stay
  | .cancel bookingId user _ =>
      match cancellableBooking store bookingId user with
      | none => .keep
      | some _ => .move bookingId .cancelled
  | .complete bookingId => .move bookingId .completed
  | .initiatePayment settings _ bookingId method customerId _ _ =>
      match payableBooking store settings bookingId method customerId with
      | none => .keep
      | some _ => if method.isManual then .move bookingId .paymentPending else .keep
  | .confirmManual paymentId _ data =>
      match confirmablePayment store paymentId data with
      | none => .keep
      | some (payment, _) =>
          if data.amountReceived < payment.amountExpected.toRat then .keep
          else .move payment.bookingId .confirmed
  | .processRefund stripe paymentId _ amount =>
      match refundablePayment store stripe paymentId amount with
      | none => .keep
      | some (payment, _) => .move payment.bookingId .refunded
  | .handleStripeWebhook (.paymentIntentSucceeded intent) =>
      match capturedPayment store intent with
      | none => .keep
      | some (_, payment, _) => .move payment.bookingId .confirmed
  | .confirmCheckin bookingId conciergeId =>
      match accessibleBooking store bookingId conciergeId with
      | none => .keep
      | some _ => .move bookingId .active
  | .confirmCheckout bookingId conciergeId =>
      match accessibleBooking store bookingId conciergeId with
      | none => .keep
      | some _ => .move bookingId .completed
  | .autoCompleteBookings today =>
      .sweep (store.selected fun _ b => b.isOver today) .completed
  | .cancelExpiredPendingBookings =>
      .sweep (store.selected (Booking.isExpired store.payments r.now)) .cancelled
  | .rejectPayment .. | .handleStripeWebhook _ | .assignConcierge .. | .startCheckin ..
  | .collectDeposit .. | .startCheckout .. => .keep

/-! ## The bookings table refines the calendar -/

/-- An update that writes the status and columns outside the stay moves the stay. -/
private theorem map_stay_updateById {f : Booking → Booking} {status : BookingStatus}
    (hf : ∀ b, (f b).stay = b.stay.withStatus status) (bookings : Table Booking)
    (id : BookingId) :
    (bookings.updateById id f).map Booking.stay =
      (Effect.move id status).apply (bookings.map Booking.stay) :=
  Table.map_updateById hf bookings id

/-- A sweep that writes the status moves the selected stays. -/
private theorem map_stay_updateWhere (store : Store) (p : BookingId → Booking → Bool)
    (status : BookingStatus) :
    (store.bookings.updateWhere p (Booking.withStatus status)).map Booking.stay =
      (Effect.sweep (store.selected p) status).apply store.calendar := by
  refine Table.map_updateWhere (fun id b hb => ?_) (fun b => rfl)
  rw [Store.selected, hb]
  rfl

/-- **Refinement.**  A call changes the calendar by its effect. -/
theorem exec_calendar (store : Store) (r : Request) :
    (exec lib store r).calendar = (effectOf lib store r).apply store.calendar := by
  obtain ⟨now, call⟩ := r
  cases call with
  | create dto customerId =>
      simp only [exec, effectOf, create_storeAfter]
      cases createdBooking store lib dto customerId now with
      | none => rfl
      | some booking => exact Table.map_insertRow store.bookings booking
  | cancel bookingId user reason =>
      simp only [exec, effectOf, cancel_storeAfter]
      cases cancellableBooking store bookingId user with
      | none => rfl
      | some booking => exact map_stay_updateById (fun _ => rfl) store.bookings bookingId
  | complete bookingId =>
      simp only [exec, effectOf, complete_storeAfter]
      exact map_stay_updateById (fun _ => rfl) store.bookings bookingId
  | initiatePayment settings stripe bookingId method customerId phone reference =>
      simp only [exec, effectOf, initiatePayment_storeAfter]
      cases payableBooking store settings bookingId method customerId with
      | none => rfl
      | some booking =>
          cases hmanual : method.isManual with
          | true =>
              simp only [if_true]
              exact map_stay_updateById (fun _ => rfl) store.bookings bookingId
          | false => simp [Effect.apply, Store.calendar]
  | confirmManual paymentId adminId data =>
      simp only [exec, effectOf, confirmManual_storeAfter]
      cases confirmablePayment store paymentId data with
      | none => rfl
      | some found =>
          obtain ⟨payment, amount⟩ := found
          by_cases hshort : data.amountReceived < payment.amountExpected.toRat
          · simp [hshort, Effect.apply, Store.calendar]
          · simp only [hshort, if_false]
            exact map_stay_updateById (fun _ => rfl) store.bookings payment.bookingId
  | rejectPayment paymentId adminId reason =>
      simp only [exec, effectOf, rejectPayment_storeAfter]
      cases store.payments[paymentId]? <;> rfl
  | processRefund stripe paymentId adminId amount =>
      simp only [exec, effectOf, processRefund_storeAfter]
      cases refundablePayment store stripe paymentId amount with
      | none => rfl
      | some found => exact map_stay_updateById (fun _ => rfl) store.bookings found.1.bookingId
  | handleStripeWebhook event =>
      cases event with
      | paymentIntentSucceeded intent =>
          simp only [exec, effectOf, handleStripeWebhook_storeAfter,
            handleStripeSuccess_storeAfter]
          cases capturedPayment store intent with
          | none => rfl
          | some found =>
              exact map_stay_updateById (fun _ => rfl) store.bookings found.2.1.bookingId
      | invalidSignature | paymentIntentPaymentFailed | chargeRefunded | otherType => rfl
  | assignConcierge conciergeId resourceType resourceId assignedBy =>
      obtain ⟨assignments, h⟩ := assignConcierge_storeAfter store conciergeId resourceType
        resourceId assignedBy
      simp only [exec, effectOf, h]
      rfl
  | startCheckin bookingId conciergeId =>
      simp only [exec, effectOf, startCheckin_storeAfter]
      rfl
  | collectDeposit bookingId conciergeId proofUrl =>
      simp only [exec, effectOf, collectDeposit_storeAfter]
      cases accessibleBooking store bookingId conciergeId with
      | none => rfl
      | some booking =>
          by_cases hdeposit : booking.depositStatus = .pending
          · -- The deposit columns are no part of the stay.
            have hstay : ∀ b : Booking,
                (b.withDepositHeld conciergeId proofUrl now).stay = b.stay := fun _ => rfl
            simp only [hdeposit, if_true]
            exact Table.map_updateById_of_eq hstay store.bookings bookingId
          · simp [hdeposit, Effect.apply]
  | confirmCheckin bookingId conciergeId =>
      simp only [exec, effectOf, confirmCheckin_storeAfter]
      cases accessibleBooking store bookingId conciergeId with
      | none => rfl
      | some booking => exact map_stay_updateById (fun _ => rfl) store.bookings bookingId
  | startCheckout bookingId conciergeId =>
      simp only [exec, effectOf, startCheckout_storeAfter]
      rfl
  | confirmCheckout bookingId conciergeId =>
      simp only [exec, effectOf, confirmCheckout_storeAfter]
      cases accessibleBooking store bookingId conciergeId with
      | none => rfl
      | some booking => exact map_stay_updateById (fun _ => rfl) store.bookings bookingId
  | autoCompleteBookings today =>
      simp only [exec, effectOf, autoCompleteBookings_storeAfter]
      exact map_stay_updateWhere store _ .completed
  | cancelExpiredPendingBookings =>
      simp only [exec, effectOf, cancelExpiredPendingBookings_storeAfter]
      exact map_stay_updateWhere store _ .cancelled

/-! ## Columns that no call writes -/

/-- The booking a call adds, if it adds one. -/
def created (store : Store) (r : Request) : Option Booking :=
  match r.call with
  | .create dto customerId => createdBooking store lib dto customerId r.now
  | _ => none

/-- What is read off a booking does not depend on the columns that the calls write. -/
structure Unwritten {γ : Type} (g : Booking → γ) : Prop where
  withStatus : ∀ status b, g (b.withStatus status) = g b
  asCancelled : ∀ user reason b, g (b.asCancelled user reason) = g b
  asCompleted : ∀ now b, g (b.asCompleted now) = g b
  withDepositHeld : ∀ conciergeId proofUrl now b,
    g (b.withDepositHeld conciergeId proofUrl now) = g b
  asCheckedIn : ∀ now b, g (b.asCheckedIn now) = g b
  asCheckedOut : ∀ read now b, g (Booking.asCheckedOut read now b) = g b

/-- **What no call writes stays** as it was when the booking was added. -/
theorem map_bookings_exec {γ : Type} {g : Booking → γ} (hg : Unwritten g) (store : Store)
    (r : Request) :
    (exec lib store r).bookings.map g =
      (store.bookings ++ (created lib store r).toList).map g := by
  obtain ⟨now, call⟩ := r
  -- Only `create` adds a booking.
  have hnone : ∀ bookings : Table Booking, bookings.map g = store.bookings.map g →
      bookings.map g = (store.bookings ++ (none : Option Booking).toList).map g := by
    intro bookings h
    rw [h, Option.toList_none, List.append_nil]
  cases call with
  | create dto customerId =>
      simp only [exec, created, create_storeAfter]
      cases createdBooking store lib dto customerId now with
      | none => exact hnone _ rfl
      | some booking => rfl
  | cancel bookingId user reason =>
      simp only [exec, cancel_storeAfter]
      cases cancellableBooking store bookingId user with
      | none => exact hnone _ rfl
      | some booking => exact hnone _ (Table.map_updateById_of_eq (hg.asCancelled _ _) _ _)
  | complete bookingId =>
      simp only [exec, complete_storeAfter]
      exact hnone _ (Table.map_updateById_of_eq (hg.asCompleted _) _ _)
  | initiatePayment settings stripe bookingId method customerId phone reference =>
      simp only [exec, initiatePayment_storeAfter]
      cases payableBooking store settings bookingId method customerId with
      | none => exact hnone _ rfl
      | some booking =>
          cases method.isManual with
          | true => exact hnone _ (Table.map_updateById_of_eq (hg.withStatus _) _ _)
          | false => exact hnone _ rfl
  | confirmManual paymentId adminId data =>
      simp only [exec, confirmManual_storeAfter]
      cases confirmablePayment store paymentId data with
      | none => exact hnone _ rfl
      | some found =>
          by_cases hshort : data.amountReceived < found.1.amountExpected.toRat
          · simp only [hshort, if_true]
            exact hnone _ rfl
          · simp only [hshort, if_false]
            exact hnone _ (Table.map_updateById_of_eq (hg.withStatus _) _ _)
  | rejectPayment paymentId adminId reason =>
      simp only [exec, rejectPayment_storeAfter]
      cases store.payments[paymentId]? <;> exact hnone _ rfl
  | processRefund stripe paymentId adminId amount =>
      simp only [exec, processRefund_storeAfter]
      cases refundablePayment store stripe paymentId amount with
      | none => exact hnone _ rfl
      | some found => exact hnone _ (Table.map_updateById_of_eq (hg.withStatus _) _ _)
  | handleStripeWebhook event =>
      cases event with
      | paymentIntentSucceeded intent =>
          simp only [exec, handleStripeWebhook_storeAfter, handleStripeSuccess_storeAfter]
          cases capturedPayment store intent with
          | none => exact hnone _ rfl
          | some found => exact hnone _ (Table.map_updateById_of_eq (hg.withStatus _) _ _)
      | invalidSignature | paymentIntentPaymentFailed | chargeRefunded | otherType =>
          exact hnone _ rfl
  | assignConcierge conciergeId resourceType resourceId assignedBy =>
      obtain ⟨assignments, h⟩ := assignConcierge_storeAfter store conciergeId resourceType
        resourceId assignedBy
      simp only [exec, h]
      exact hnone _ rfl
  | startCheckin bookingId conciergeId =>
      simp only [exec, startCheckin_storeAfter]
      exact hnone _ rfl
  | collectDeposit bookingId conciergeId proofUrl =>
      simp only [exec, collectDeposit_storeAfter]
      cases accessibleBooking store bookingId conciergeId with
      | none => exact hnone _ rfl
      | some booking =>
          by_cases hdeposit : booking.depositStatus = .pending
          · simp only [hdeposit, if_true]
            exact hnone _ (Table.map_updateById_of_eq (hg.withDepositHeld _ _ _) _ _)
          · simp only [hdeposit, if_false]
            exact hnone _ rfl
  | confirmCheckin bookingId conciergeId =>
      simp only [exec, confirmCheckin_storeAfter]
      cases accessibleBooking store bookingId conciergeId with
      | none => exact hnone _ rfl
      | some booking => exact hnone _ (Table.map_updateById_of_eq (hg.asCheckedIn _) _ _)
  | startCheckout bookingId conciergeId =>
      simp only [exec, startCheckout_storeAfter]
      exact hnone _ rfl
  | confirmCheckout bookingId conciergeId =>
      simp only [exec, confirmCheckout_storeAfter]
      cases accessibleBooking store bookingId conciergeId with
      | none => exact hnone _ rfl
      | some booking => exact hnone _ (Table.map_updateById_of_eq (hg.asCheckedOut _ _) _ _)
  | autoCompleteBookings today =>
      simp only [exec, autoCompleteBookings_storeAfter]
      exact hnone _ (Table.map_updateWhere_of_eq (hg.withStatus _) _ _)
  | cancelExpiredPendingBookings =>
      simp only [exec, cancelExpiredPendingBookings_storeAfter]
      exact hnone _ (Table.map_updateWhere_of_eq (hg.withStatus _) _ _)

/-! ## New bookings -/

/-- What `create` found when it inserts its row. -/
private theorem createdBooking_eq_some {store : Store} {dto : CreateBookingDto}
    {customerId : UserId} {now : Time} {booking : Booking}
    (h : createdBooking store lib dto customerId now = some booking) :
    ∃ s e price,
      booking = bookingRow dto customerId now s e price ∧
      isAvailable store.bookings dto.resourceId dto.resourceType s e = true := by
  unfold createdBooking at h
  split at h
  · next hcheck =>
      obtain ⟨-, hnew⟩ := Option.ite_none_left_eq_some.mp h
      obtain ⟨s, e, price, hs, he, rfl⟩ := newBooking_eq_some hnew
      rw [checkAvailability, hs, he, Except.ok.injEq] at hcheck
      exact ⟨s, e, price, rfl, hcheck⟩
  · cases h

/-! ## Calls that advance a booking

Confirmation, check-in, check-out and completion drive one booking forward, and
none of them looks at its status.  All other effects start from a status that
allows them. -/

/-- The booking a call drives forward, if its checks pass, and the status it gives
it. -/
def advances (store : Store) : Call → Option (BookingId × BookingStatus)
  | .complete bookingId => some (bookingId, .completed)
  | .confirmManual paymentId _ data =>
      match confirmablePayment store paymentId data with
      | none => none
      | some (payment, _) =>
          if data.amountReceived < payment.amountExpected.toRat then none
          else some (payment.bookingId, .confirmed)
  | .handleStripeWebhook (.paymentIntentSucceeded intent) =>
      match capturedPayment store intent with
      | none => none
      | some (_, payment, _) => some (payment.bookingId, .confirmed)
  | .confirmCheckin bookingId conciergeId =>
      match accessibleBooking store bookingId conciergeId with
      | none => none
      | some _ => some (bookingId, .active)
  | .confirmCheckout bookingId conciergeId =>
      match accessibleBooking store bookingId conciergeId with
      | none => none
      | some _ => some (bookingId, .completed)
  | _ => none

/-- A call that advances a booking moves it, and does nothing else to the
calendar. -/
theorem effectOf_of_advances {store : Store} {r : Request} {id : BookingId}
    {status : BookingStatus} (h : advances store r.call = some (id, status)) :
    effectOf lib store r = .move id status := by
  obtain ⟨now, call⟩ := r
  cases call with
  | complete bookingId =>
      obtain ⟨rfl, rfl⟩ := Prod.mk.injEq .. ▸ Option.some.inj h
      rfl
  | confirmManual paymentId adminId data =>
      simp only [advances] at h
      simp only [effectOf]
      cases hp : confirmablePayment store paymentId data with
      | none => simp [hp] at h
      | some found =>
          by_cases hshort : data.amountReceived < found.1.amountExpected.toRat
          · simp [hp, hshort] at h
          · simp only [hp, hshort, if_false, Option.some.injEq, Prod.mk.injEq] at h
            simp [hshort, h.1, ← h.2]
  | handleStripeWebhook event =>
      cases event with
      | paymentIntentSucceeded intent =>
          simp only [advances] at h
          simp only [effectOf]
          cases hp : capturedPayment store intent with
          | none => simp [hp] at h
          | some found =>
              simp only [hp, Option.some.injEq, Prod.mk.injEq] at h
              simp [h.1, ← h.2]
      | invalidSignature | paymentIntentPaymentFailed | chargeRefunded | otherType => cases h
  | confirmCheckin bookingId conciergeId | confirmCheckout bookingId conciergeId =>
      simp only [advances] at h
      simp only [effectOf]
      cases hb : accessibleBooking store bookingId conciergeId with
      | none => simp [hb] at h
      | some booking =>
          simp only [hb, Option.some.injEq, Prod.mk.injEq] at h
          simp [h.1, ← h.2]
  | create | cancel | initiatePayment | rejectPayment | processRefund | assignConcierge
  | startCheckin | collectDeposit | startCheckout | autoCompleteBookings
  | cancelExpiredPendingBookings => cases h

/-- The three statuses a booking is advanced to. -/
theorem status_of_advances {store : Store} {call : Call} {id : BookingId}
    {status : BookingStatus} (h : advances store call = some (id, status)) :
    status = .confirmed ∨ status = .active ∨ status = .completed := by
  unfold advances at h
  split at h
  all_goals
    repeat' split at h
    all_goals
      cases h
      try simp

/-- What a call that advances no booking does to the calendar. -/
inductive Routine (store : Store) (call : Call) : Effect → Prop
  | keep : Routine store call .keep
  /-- A new booking, where its dates are free. -/
  | book {stay : Stay} (hstatus : stay.status = .pending)
      (hfree : ∀ (id : BookingId) (other : Stay), store.calendar[id]? = some other →
        stay.Compatible other) : Routine store call (.book stay)
  /-- A cancellation that its checks admit. -/
  | cancel {id : BookingId} {user : CurrentUser} {reason : Option String} {b : Booking}
      (hcall : call = .cancel id user reason)
      (hb : cancellableBooking store id user = some b) :
      Routine store call (.move id .cancelled)
  /-- The initiation of a payment, of what is pending. -/
  | await {id : BookingId} {b : Booking} (hb : store.bookings[id]? = some b)
      (hstatus : b.status = .pending) : Routine store call (.move id .paymentPending)
  | refund (id : BookingId) : Routine store call (.move id .refunded)
  /-- The scheduler completes what is active. -/
  | finish {selected : BookingId → Bool}
      (h : ∀ id b, store.bookings[id]? = some b → selected id → b.status = .active) :
      Routine store call (.sweep selected .completed)
  /-- The scheduler cancels what is pending. -/
  | expire {selected : BookingId → Bool}
      (h : ∀ id b, store.bookings[id]? = some b → selected id → b.status = .pending) :
      Routine store call (.sweep selected .cancelled)

private theorem selected_iff {store : Store} {p : BookingId → Booking → Bool}
    {id : BookingId} {b : Booking} (hb : store.bookings[id]? = some b) :
    store.selected p id = true ↔ p id b = true := by
  rw [Store.selected, hb, Option.any_some]

theorem routine_of_not_advances {store : Store} {r : Request}
    (h : advances store r.call = none) : Routine store r.call (effectOf lib store r) := by
  obtain ⟨now, call⟩ := r
  cases call with
  | create dto customerId =>
      simp only [effectOf]
      cases hnew : createdBooking store lib dto customerId now with
      | none => exact .keep
      | some booking =>
          obtain ⟨s, e, price, rfl, havail⟩ := createdBooking_eq_some lib hnew
          refine .book rfl fun id other hother => ?_
          obtain ⟨b, hb, rfl⟩ := getElem?_calendar_eq_some.mp hother
          exact bookingRow_compatible havail hb
  | cancel bookingId user reason =>
      simp only [effectOf]
      cases hb : cancellableBooking store bookingId user with
      | none => exact .keep
      | some booking => exact .cancel rfl hb
  | complete bookingId => cases h
  | initiatePayment settings stripe bookingId method customerId phone reference =>
      simp only [effectOf]
      cases hp : payableBooking store settings bookingId method customerId with
      | none => exact .keep
      | some booking =>
          cases hmanual : method.isManual with
          | false =>
              simp only [Bool.false_eq_true, if_false]
              exact .keep
          | true =>
              obtain ⟨hb, hpending⟩ := payableBooking_eq_some hp
              simp only [if_true]
              exact .await hb hpending
  | confirmManual paymentId adminId data =>
      simp only [advances] at h
      simp only [effectOf]
      cases hp : confirmablePayment store paymentId data with
      | none => exact .keep
      | some found =>
          by_cases hshort : data.amountReceived < found.1.amountExpected.toRat
          · simp only [hshort, if_true]
            exact .keep
          · simp [hp, hshort] at h
  | processRefund stripe paymentId adminId amount =>
      simp only [effectOf]
      cases refundablePayment store stripe paymentId amount with
      | none => exact .keep
      | some found => exact .refund _
  | handleStripeWebhook event =>
      cases event with
      | paymentIntentSucceeded intent =>
          simp only [advances] at h
          simp only [effectOf]
          cases hp : capturedPayment store intent with
          | none => exact .keep
          | some found => simp [hp] at h
      | invalidSignature | paymentIntentPaymentFailed | chargeRefunded | otherType =>
          exact .keep
  | confirmCheckin bookingId conciergeId | confirmCheckout bookingId conciergeId =>
      simp only [advances] at h
      simp only [effectOf]
      cases hb : accessibleBooking store bookingId conciergeId with
      | none => exact .keep
      | some booking => simp [hb] at h
  | autoCompleteBookings today =>
      refine .finish fun id b hb hsel => ?_
      rw [selected_iff hb, Booking.isOver, Bool.and_eq_true, decide_eq_true_eq,
        decide_eq_true_eq] at hsel
      exact hsel.2
  | cancelExpiredPendingBookings =>
      refine .expire fun id b hb hsel => ?_
      rw [selected_iff hb, Booking.isExpired, Bool.and_eq_true, Bool.and_eq_true,
        decide_eq_true_eq] at hsel
      exact hsel.1.1
  | rejectPayment | assignConcierge | startCheckin | collectDeposit | startCheckout =>
      exact .keep

theorem Routine.sound {store : Store} {call : Call} {effect : Effect}
    (h : Routine store call effect) :
    effect.Sound store.calendar := by
  cases h with
  | keep | cancel | await | refund => trivial
  | book hstatus hfree => exact ⟨hstatus, hfree⟩
  | finish hactive =>
      intro id stay hstay hsel _
      obtain ⟨b, hb, rfl⟩ := getElem?_calendar_eq_some.mp hstay
      show b.status.blocksDates = true
      rw [hactive id b hb hsel]
      rfl
  | expire =>
      intro id stay _ _ hblocks
      cases hblocks

/-- **Effects are sound**: only `create` adds stays, where they are free, and the
scheduler revives nothing. -/
theorem effectOf_sound (store : Store) (r : Request) :
    (effectOf lib store r).Sound store.calendar := by
  cases h : advances store r.call with
  | some target =>
      rw [effectOf_of_advances lib h]
      trivial
  | none => exact (routine_of_not_advances lib h).sound

/-! ## The status a call gives -/

/-- The one status that a call can give to a booking. -/
def Call.target : Call → Option BookingStatus
  | .create .. => some .pending
  | .cancel .. | .cancelExpiredPendingBookings => some .cancelled
  | .initiatePayment .. => some .paymentPending
  | .confirmManual .. | .handleStripeWebhook (.paymentIntentSucceeded _) => some .confirmed
  | .confirmCheckin .. => some .active
  | .complete .. | .confirmCheckout .. | .autoCompleteBookings .. => some .completed
  | .processRefund .. => some .refunded
  | _ => none

/-- An effect gives no status but the target of its call. -/
theorem target_of_gives {store : Store} {r : Request} {status : BookingStatus}
    (h : (effectOf lib store r).Gives status) : r.call.target = some status := by
  have hsound := effectOf_sound lib store r
  obtain ⟨now, call⟩ := r
  cases call with
  | create dto customerId =>
      simp only [effectOf] at h hsound
      cases hnew : createdBooking store lib dto customerId now with
      | none => simp [hnew, Effect.Gives] at h
      | some booking =>
          simp only [hnew] at h hsound
          exact congrArg some (hsound.1.symm.trans h)
  | cancel bookingId user reason =>
      simp only [effectOf] at h
      cases hb : cancellableBooking store bookingId user with
      | none => simp [hb, Effect.Gives] at h
      | some booking => simpa [hb, Effect.Gives, Call.target] using h
  | initiatePayment settings stripe bookingId method customerId phone reference =>
      simp only [effectOf] at h
      cases hp : payableBooking store settings bookingId method customerId with
      | none => simp [hp, Effect.Gives] at h
      | some booking =>
          cases hmanual : method.isManual with
          | false => simp [hp, hmanual, Effect.Gives] at h
          | true => simpa [hp, hmanual, Effect.Gives, Call.target] using h
  | confirmManual paymentId adminId data =>
      simp only [effectOf] at h
      cases hp : confirmablePayment store paymentId data with
      | none => simp [hp, Effect.Gives] at h
      | some found =>
          by_cases hshort : data.amountReceived < found.1.amountExpected.toRat
          · simp [hp, hshort, Effect.Gives] at h
          · simpa [hp, hshort, Effect.Gives, Call.target] using h
  | processRefund stripe paymentId adminId amount =>
      simp only [effectOf] at h
      cases hp : refundablePayment store stripe paymentId amount with
      | none => simp [hp, Effect.Gives] at h
      | some found => simpa [hp, Effect.Gives, Call.target] using h
  | handleStripeWebhook event =>
      cases event with
      | paymentIntentSucceeded intent =>
          simp only [effectOf] at h
          cases hp : capturedPayment store intent with
          | none => simp [hp, Effect.Gives] at h
          | some found => simpa [hp, Effect.Gives, Call.target] using h
      | invalidSignature | paymentIntentPaymentFailed | chargeRefunded | otherType => cases h
  | confirmCheckin bookingId conciergeId | confirmCheckout bookingId conciergeId =>
      simp only [effectOf] at h
      cases hb : accessibleBooking store bookingId conciergeId with
      | none => simp [hb, Effect.Gives] at h
      | some booking => simpa [hb, Effect.Gives, Call.target] using h
  | complete | autoCompleteBookings | cancelExpiredPendingBookings => exact congrArg some h
  | rejectPayment | assignConcierge | startCheckin | collectDeposit | startCheckout => cases h

end Exec

end StayRide
