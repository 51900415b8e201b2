import StayRide.System.Programs

/-!
# The platform: calls that interleave

The programs of `System.Programs` as processes on one store.  `platform` is one step:
some operation carries out the command it awaits, which may be rejected, or a key of
Redis expires.

That the processes are the calls of `System.Calls` is proved with `Implements`: a
program alone does what its method does, rule by rule along the text of the two
(`Implements.bind`, `Implements.ite`, `Implements.tryFinally`).  `storeAfter_program`
is the result for all calls.
-/

namespace StayRide

open Lib

/-! ## A program alone is its method -/

/-- Run alone, the program does what the method does. -/
def Async.Implements {α : Type} (p : Async α) (method : Service α) : Prop :=
  p.run Command.handle = Backend.onStore method

namespace Async

open Command Backend

namespace Implements

variable {α β : Type}

theorem pure (a : α) : Implements (pure a) (pure a) := rfl

theorem throw (e : HttpException) : Implements (throw e : Async α) (throw e) := rfl

theorem bind {p : Async α} {method : Service α} {f : α → Async β} {g : α → Service β}
    (hp : p.Implements method) (hf : ∀ a, (f a).Implements (g a)) :
    (p >>= f).Implements (method >>= g) := by
  unfold Implements
  rw [Program.run_bind, onStore_bind, hp]
  exact congrArg _ (funext hf)

theorem ite {c : Prop} [Decidable c] {p q : Async α} {method method' : Service α}
    (hp : p.Implements method) (hq : q.Implements method') :
    (if c then p else q).Implements (if c then method else method') := by
  by_cases hc : c
  · simpa only [if_pos hc] using hp
  · simpa only [if_neg hc] using hq

theorem tryFinally {body : Async α} {cleanup : Async Unit} {method : Service α}
    {last : Service Unit} (hbody : body.Implements method)
    (hcleanup : cleanup.Implements last) :
    (tryFinally body cleanup).Implements (tryFinally method last) := by
  unfold Implements
  rw [Program.run_tryFinally, onStore_tryFinally, hbody, hcleanup]

/-- A program of which nothing is rejected does what its method does. -/
theorem trial {p : Async α} {method : Service α} (h : p.Implements method) (backend : Backend) :
    (p.trial handle (fun _ => none) backend).data.toStore =
        method.storeAfter backend.toStore ∧
      (p.trial handle (fun _ => none) backend).result = method.outcome backend.toStore := by
  have hrun : p.run handle backend = onStore method backend := congrFun h backend
  rw [Program.run_eq_trial, onStore_apply] at hrun
  unfold ServiceM.storeAfter ServiceM.outcome
  generalize p.trial handle (fun _ => none) backend = t at hrun ⊢
  obtain ⟨data, result, sent⟩ := t
  cases result with
  | ok a =>
      cases hmethod : method.run backend.toStore with
      | ok a' store =>
          rw [hmethod] at hrun
          cases hrun
          exact ⟨rfl, rfl⟩
      | error e store =>
          rw [hmethod] at hrun
          cases hrun
  | error e =>
      cases hmethod : method.run backend.toStore with
      | ok a store =>
          rw [hmethod] at hrun
          cases hrun
      | error e' store =>
          rw [hmethod] at hrun
          cases hrun
          exact ⟨rfl, rfl⟩

end Implements

/-! One command. -/

theorem implements_findBooking (id : BookingId) :
    (findBooking id).Implements (Service.findBooking id) := Program.run_call _ _

theorem implements_findPayment (id : PaymentId) :
    (findPayment id).Implements (Service.findPayment id) := Program.run_call _ _

/-- The lookup of an assignment, and what it selects. -/
theorem implements_findAssignment {α : Type} (p : ConciergeAssignment → Bool)
    {f : Option (ℕ × ConciergeAssignment) → Async α} {g : Store → Service α}
    (h : ∀ backend : Backend, (f (backend.assignments.findWhere p)).run handle backend =
      onStore (g backend.toStore) backend) :
    (findAssignment p >>= f).Implements (get >>= g) := by
  unfold Implements
  rw [Program.run_bind]
  exact funext h

theorem implements_updateBooking (id : BookingId) (update : BookingUpdate) :
    (updateBooking id update).Implements (Service.updateBooking id update.apply) :=
  Program.run_call _ _

theorem implements_updatePayment (id : PaymentId) (update : PaymentUpdate) :
    (updatePayment id update).Implements (Service.updatePayment id update.apply) :=
  Program.run_call _ _

theorem implements_emit (event : DomainEvent) :
    (emit event).Implements (Service.emit event) := Program.run_call _ _

theorem implements_queryAvailability (lib : DateLib) (dto : CreateBookingDto) :
    (queryAvailability lib dto).Implements
      (Service.queryAvailability lib dto.resourceId dto.resourceType dto.startDate
        dto.endDate) := Program.run_call _ _

/-- A transaction alone is its two updates. -/
theorem implements_settle {α : Type} (paymentId : PaymentId) (payment : PaymentUpdate)
    (bookingId : BookingId) (status : BookingStatus) {f : Unit → Async α}
    {rest : Service α} (hrest : (f ()).Implements rest) :
    (settle paymentId payment bookingId status >>= f).Implements (do
      Service.updatePayment paymentId payment.apply
      Service.updateBooking bookingId (Booking.withStatus status)
      rest) := by
  have hsettle : (settle paymentId payment bookingId status).Implements (do
      Service.updatePayment paymentId payment.apply
      Service.updateBooking bookingId (Booking.withStatus status)) := Program.run_call _ _
  exact hsettle.bind fun _ => hrest

theorem implements_toColumn (q : ℚ) : (toColumn q).Implements (Service.toColumn q) := by
  unfold toColumn Service.toColumn
  cases (Decimal.ofRat q : Option Amount) with
  | none => exact .throw _
  | some amount => exact .pure amount

/-! The calls. -/

theorem implements_createLocked (lib : DateLib) (dto : CreateBookingDto) (customerId : UserId)
    (now : Time) :
    (createLocked lib dto customerId now).Implements
      (StayRide.createLocked lib dto customerId now) := by
  refine .bind (implements_queryAvailability lib dto) fun stillAvailable => ?_
  refine .ite (.throw _) ?_
  cases newBooking lib dto customerId now with
  | none => exact .throw _
  | some booking =>
      exact .bind (Program.run_call _ (.insertBooking booking : Command)) fun id =>
        .bind (implements_emit _) fun _ => .pure _

theorem implements_create (lib : DateLib) (dto : CreateBookingDto) (customerId : UserId)
    (now : Time) :
    (create lib dto customerId now).Implements (StayRide.create lib dto customerId now) := by
  refine .bind (implements_queryAvailability lib dto) fun available => .ite (.throw _) ?_
  refine .bind (Program.run_call _ (.acquireLock dto.lockKey 600 : Command)) fun acquired =>
    .ite (.throw _) ?_
  exact .tryFinally (implements_createLocked lib dto customerId now) (Program.run_call _ _)

theorem implements_cancel (bookingId : BookingId) (user : CurrentUser)
    (reason : Option String) :
    (cancel bookingId user reason).Implements (StayRide.cancel bookingId user reason) := by
  refine .bind (implements_findBooking bookingId) fun booking => ?_
  cases booking with
  | none => exact .throw _
  | some booking =>
      refine .ite (.throw _) (.ite (.throw _) ?_)
      exact .bind (implements_updateBooking _ (.cancelled user reason)) fun _ =>
        .bind (implements_findBooking _) fun _ => .bind (implements_emit _) fun _ => .pure _

theorem implements_complete (bookingId : BookingId) (now : Time) :
    (complete bookingId now).Implements (StayRide.complete bookingId now) :=
  .bind (implements_updateBooking _ (.completed now)) fun _ =>
    .bind (implements_findBooking _) fun _ => .bind (implements_emit _) fun _ => .pure _

theorem implements_initiatePayment (settings : PaymentMethod → Option Bool)
    (stripe : StripeReply) (bookingId : BookingId) (method : PaymentMethod)
    (customerId : UserId) (phone : Option String) (reference : String) (now : Time) :
    (initiatePayment settings stripe bookingId method customerId phone reference
        now).Implements
      (StayRide.initiatePayment settings stripe bookingId method customerId phone reference
        now) := by
  refine .bind (.ite (.pure _) (.throw _)) fun _ => .bind (implements_findBooking bookingId)
    fun found => ?_
  cases found.filter (·.customerId = customerId) with
  | none => exact .throw _
  | some booking =>
      refine .ite (.throw _) (.bind (Program.run_call _ (.findPaymentWhere _ : Command))
        fun existing => ?_)
      cases existing with
      | some payment => exact .pure _
      | none =>
          refine .bind (Program.run_call _ (.insertPayment _ : Command)) fun paymentId => ?_
          cases method with
          | stripe =>
              cases stripe with
              | notConfigured | rejected => exact .throw _
              | created intentId =>
                  exact .bind (implements_updatePayment _ (.intent intentId)) fun _ => .pure _
          | paypal => exact .bind (implements_updatePayment _ .pending) fun _ => .pure _
          | orangeMoney | mtnMomo | cash | other =>
              exact .bind (implements_updatePayment _ .pending) fun _ =>
                .bind (implements_updateBooking _ (.status .paymentPending)) fun _ =>
                  .bind (implements_emit _) fun _ => .pure _

theorem implements_confirmManual (paymentId : PaymentId) (adminId : UserId)
    (data : ConfirmPaymentDto) (now : Time) :
    (confirmManual paymentId adminId data now).Implements
      (StayRide.confirmManual paymentId adminId data now) := by
  refine .bind (implements_findPayment paymentId) fun payment => ?_
  cases payment with
  | none => exact .throw _
  | some payment =>
      refine .ite (.throw _) (.bind (implements_toColumn _) fun amount => .ite ?_ ?_)
      · exact .bind (implements_updatePayment _ (.confirmed .partiallyPaid amount data adminId now))
          fun _ => .bind (implements_findPayment _) fun _ => .bind (implements_findBooking _)
            fun _ => .bind (implements_emit _) fun _ => .pure _
      · exact implements_settle paymentId (.confirmed .paid amount data adminId now) _ _
          (.bind (implements_findPayment _) fun _ => .bind (implements_findBooking _)
            fun _ => .bind (implements_emit _) fun _ => .bind (implements_emit _) fun _ =>
              .pure _)

theorem implements_rejectPayment (paymentId : PaymentId) (adminId : UserId)
    (reason : Option String) (now : Time) :
    (rejectPayment paymentId adminId reason now).Implements
      (StayRide.rejectPayment paymentId adminId reason now) := by
  refine .bind (implements_findPayment paymentId) fun payment => ?_
  cases payment with
  | none => exact .throw _
  | some payment =>
      exact .bind (implements_updatePayment _ (.rejected adminId reason now)) fun _ =>
        .bind (implements_findPayment _) fun _ => .bind (implements_emit _) fun _ => .pure _

theorem implements_refundAtStripe (stripe : StripeReply) (payment : Payment) :
    (refundAtStripe stripe payment).Implements (StayRide.refundAtStripe stripe payment) := by
  refine .ite ?_ (.pure _)
  cases stripe with
  | created id => exact .pure _
  | notConfigured | rejected => exact .throw _

theorem implements_processRefund (stripe : StripeReply) (paymentId : PaymentId)
    (adminId : UserId) (amount : Option ℚ) (now : Time) :
    (processRefund stripe paymentId adminId amount now).Implements
      (StayRide.processRefund stripe paymentId adminId amount now) := by
  refine .bind (implements_findPayment paymentId) fun payment => ?_
  cases payment with
  | none => exact .throw _
  | some payment =>
      refine .ite (.throw _) (.bind (implements_refundAtStripe stripe payment) fun _ =>
        .bind (implements_toColumn _) fun refunded => ?_)
      exact implements_settle paymentId (.refunded refunded adminId now) _ _
        (.bind (implements_findPayment _) fun _ => .bind (implements_emit _) fun _ => .pure _)

theorem implements_handleStripeWebhook (event : StripeEvent) (now : Time) :
    (handleStripeWebhook event now).Implements (StayRide.handleStripeWebhook event now) := by
  cases event with
  | invalidSignature => exact .throw _
  | chargeRefunded | otherType => exact .pure _
  | paymentIntentPaymentFailed intent => exact Program.run_call _ _
  | paymentIntentSucceeded intent =>
      refine .bind (Program.run_call _ (.findPaymentWhere _ : Command)) fun found => ?_
      cases found with
      | none => exact .pure _
      | some found =>
          refine .bind (implements_toColumn _) fun amount => ?_
          exact implements_settle found.1 (.captured amount now) _ _
            (.bind (implements_findBooking _) fun _ => implements_emit _)

theorem implements_validateConciergeAccess (bookingId : BookingId) (conciergeId : UserId) :
    (validateConciergeAccess bookingId conciergeId).Implements
      (StayRide.validateConciergeAccess bookingId conciergeId) := by
  refine .bind (implements_findBooking bookingId) fun booking => ?_
  cases booking with
  | none => exact .throw _
  | some booking =>
      refine implements_findAssignment _ fun backend => ?_
      cases backend.assignments.findWhere (·.covers conciergeId booking) <;> rfl

theorem implements_startCheckin (bookingId : BookingId) (conciergeId : UserId) :
    (startCheckin bookingId conciergeId).Implements
      (StayRide.startCheckin bookingId conciergeId) :=
  .bind (implements_validateConciergeAccess _ _) fun _ => .ite (.throw _) (.pure _)

theorem implements_collectDeposit (bookingId : BookingId) (conciergeId : UserId)
    (proofUrl : Option String) (now : Time) :
    (collectDeposit bookingId conciergeId proofUrl now).Implements
      (StayRide.collectDeposit bookingId conciergeId proofUrl now) :=
  .bind (implements_validateConciergeAccess _ _) fun _ => .ite (.throw _)
    (.bind (implements_updateBooking _ (.depositHeld conciergeId proofUrl now)) fun _ =>
      implements_findBooking _)

theorem implements_confirmCheckin (bookingId : BookingId) (conciergeId : UserId) (now : Time) :
    (confirmCheckin bookingId conciergeId now).Implements
      (StayRide.confirmCheckin bookingId conciergeId now) :=
  .bind (implements_validateConciergeAccess _ _) fun _ =>
    .bind (implements_updateBooking _ (.checkedIn now)) fun _ =>
      .bind (implements_findBooking _) fun _ => .bind (implements_emit _) fun _ => .pure _

theorem implements_startCheckout (bookingId : BookingId) (conciergeId : UserId) :
    (startCheckout bookingId conciergeId).Implements
      (StayRide.startCheckout bookingId conciergeId) :=
  .bind (implements_validateConciergeAccess _ _) fun _ => .ite (.throw _) (.pure _)

theorem implements_confirmCheckout (bookingId : BookingId) (conciergeId : UserId)
    (now : Time) :
    (confirmCheckout bookingId conciergeId now).Implements
      (StayRide.confirmCheckout bookingId conciergeId now) :=
  .bind (implements_validateConciergeAccess _ _) fun booking =>
    .bind (implements_updateBooking _ (.checkedOut booking now)) fun _ =>
      .bind (implements_findBooking _) fun _ => .bind (implements_emit _) fun _ => .pure _

theorem implements_assignConcierge (conciergeId : UserId) (resourceType : ResourceType)
    (resourceId : ResourceId) (assignedBy : UserId) :
    (assignConcierge conciergeId resourceType resourceId assignedBy).Implements
      (StayRide.assignConcierge conciergeId resourceType resourceId assignedBy) := by
  refine implements_findAssignment _ fun backend => ?_
  cases h : backend.assignments.findWhere
      (·.isActiveFor conciergeId resourceType resourceId) with
  | some found => rfl
  | none => rfl

/-- A program leaves the store as its method does. -/
theorem Implements.storeAfter_eq {α : Type} {p : Async α} {method : Service α}
    (h : p.Implements method) (backend : Backend) :
    (ServiceM.storeAfter (p.run Command.handle) backend).toStore =
      method.storeAfter backend.toStore := by
  rw [Implements] at h
  simp only [ServiceM.storeAfter, h, Backend.onStore, EStateM.run]
  cases method backend.toStore <;> rfl

theorem Implements.storeAfter_discard {α : Type} {p : Async α} {method : Service α}
    (h : p.Implements method) (backend : Backend) :
    (ServiceM.storeAfter ((discard p).run Command.handle) backend).toStore =
      method.storeAfter backend.toStore := by
  rw [← h.storeAfter_eq]
  exact congrArg Backend.toStore
    ((congrArg (ServiceM.storeAfter · backend) (Program.run_map Command.handle _ p)).trans
      (ServiceM.storeAfter_map backend _ (p.run Command.handle)))

/-- **An operation alone is the call of `System.Calls`.** -/
theorem storeAfter_program (lib : DateLib) (backend : Backend) (r : Request) :
    (ServiceM.storeAfter ((program lib r.now (.booking r.call)).run Command.handle)
      backend).toStore = exec lib backend.toStore r := by
  obtain ⟨now, call⟩ := r
  cases call with
  | create => exact (implements_create ..).storeAfter_discard backend
  | cancel => exact (implements_cancel ..).storeAfter_discard backend
  | complete => exact (implements_complete ..).storeAfter_discard backend
  | initiatePayment => exact (implements_initiatePayment ..).storeAfter_discard backend
  | confirmManual => exact (implements_confirmManual ..).storeAfter_discard backend
  | rejectPayment => exact (implements_rejectPayment ..).storeAfter_discard backend
  | processRefund => exact (implements_processRefund ..).storeAfter_discard backend
  | handleStripeWebhook => exact (implements_handleStripeWebhook ..).storeAfter_eq backend
  | assignConcierge => exact (implements_assignConcierge ..).storeAfter_discard backend
  | startCheckin => exact (implements_startCheckin ..).storeAfter_discard backend
  | collectDeposit => exact (implements_collectDeposit ..).storeAfter_discard backend
  | confirmCheckin => exact (implements_confirmCheckin ..).storeAfter_discard backend
  | startCheckout => exact (implements_startCheckout ..).storeAfter_discard backend
  | confirmCheckout => exact (implements_confirmCheckout ..).storeAfter_discard backend
  | autoCompleteBookings | cancelExpiredPendingBookings => rfl

end Async

/-- Locks expire; nothing else happens by itself. -/
def expireBackendLock (key : String) (backend : Backend) : Option Backend :=
  some { backend with redis := backend.redis.del key }

/-- One step of the platform: some operation carries out its next command, which may be
rejected, or a key of Redis expires. -/
def platform {ι : Type} [DecidableEq ι] :
    Config Backend ι (Async Unit) → Move ι (Option HttpException) String →
      Option (Config Backend ι (Async Unit)) :=
  interleave (fun _ failure backend p => p.step Command.handle failure backend)
    expireBackendLock

/-! ## Data for runs -/

namespace Demo

/-- A request for the car `clio`, which needs a deposit. -/
def clio : CreateBookingDto where
  resourceType := .car
  resourceId := "clio"
  startDate := "2025-07-01"
  endDate := "2025-07-05"

end Demo

end StayRide
