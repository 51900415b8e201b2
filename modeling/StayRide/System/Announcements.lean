import StayRide.Lib.Tokens
import StayRide.System.Contracts

/-!
# Every booking is announced once

`create` emits `booking.created` with the key of the row it has just inserted, and
`initiatePayment` emits `payment.initiated` in the same way.  The key is handed out by the
database once, and the operation that got it uses it for one event, so no booking and no
payment is announced twice, however the operations interleave: `announced_nodup`.
-/

namespace StayRide

open Lib

/-- A row whose insertion is announced. -/
inductive Announcement
  | booking (id : BookingId)
  | payment (id : PaymentId)
  deriving DecidableEq

def DomainEvent.announces : DomainEvent → Option Announcement
  | .bookingCreated id _ => some (.booking id)
  | .paymentInitiated id _ _ => some (.payment id)
  | _ => none

/-- The right to announce a row is handed out with its key. -/
def announcements : Tokens Command.Reply Announcement where
  gives c := match c with
    | .insertBooking _ => fun id => some (.booking id)
    | .insertPayment _ => fun id => some (.payment id)
    | _ => fun _ => none
  takes
    | .emit event => event.announces
    | _ => none

namespace Backend

/-- The rows that are there. -/
def rows (backend : Backend) : Set Announcement
  | .booking id => id < backend.contracts.length
  | .payment id => id < backend.bills.length

/-- The rows that have been announced. -/
def announced (backend : Backend) : List Announcement :=
  backend.events.filterMap DomainEvent.announces

end Backend

/-- What a command announces when it is carried out. -/
theorem filterMap_announces_newEvents (c : Command) :
    c.newEvents.filterMap DomainEvent.announces = (announcements.takes c).toList := by
  cases c with
  | emit event => cases h : event.announces <;> simp [Command.newEvents, announcements, h]
  | _ => rfl

/-- A command that was rejected by its caller returns nothing. -/
theorem failure_eq_none {failure : Option HttpException} {c : Command} {backend : Backend}
    {r : c.Reply} (h : (Program.reply Command.handle failure c backend).2 = .ok r) :
    failure = none := by
  cases failure with
  | none => rfl
  | some e => cases h

/-- The database hands out every key once, and the log of the events tells which were
announced. -/
def announcementLog : Program.TokenLog Command.handle announcements where
  issued := Backend.rows
  used := Backend.announced
  issued_mono failure c backend := by
    obtain ⟨hcontracts, hbills, -⟩ := Command.reply_logs failure c backend
    intro t ht
    cases t with
    | booking id =>
        show id < (Program.reply Command.handle failure c backend).1.contracts.length
        rw [hcontracts, List.length_append]
        exact Nat.lt_add_right _ ht
    | payment id =>
        show id < (Program.reply Command.handle failure c backend).1.bills.length
        rw [hbills, List.length_append]
        exact Nat.lt_add_right _ ht
  used_ok failure c backend r hr := by
    obtain ⟨-, -, hevents⟩ := Command.reply_logs failure c backend
    rw [Backend.announced, hevents, if_pos (failure_eq_none hr), List.filterMap_append,
      filterMap_announces_newEvents]
    rfl
  used_error failure c backend e he := by
    obtain ⟨-, -, hevents⟩ := Command.reply_logs failure c backend
    cases failure with
    | some e' => rfl
    | none =>
        -- Handing an event to the emitter does not fail.
        have hnone : c.newEvents = [] := by
          cases c with
          | emit event => cases he
          | _ => rfl
        rw [Backend.announced, hevents, if_pos rfl, hnone, List.append_nil]
        rfl
  fresh failure c backend r hr t ht := by
    obtain rfl := failure_eq_none hr
    obtain ⟨hcontracts, hbills, -⟩ := Command.reply_logs none c backend
    cases c with
    | insertBooking booking =>
        obtain rfl := Option.some.inj ht
        have hlength : backend.contracts.length = r := by
          rw [Backend.contracts, List.length_map]
          exact Except.ok.inj hr
        constructor
        · exact fun hlt => absurd hlt (Nat.not_lt.mpr hlength.le)
        · show r < (Program.reply Command.handle none _ backend).1.contracts.length
          rw [hcontracts, List.length_append, ← hlength]
          exact Nat.lt_succ_self _
    | insertPayment payment =>
        obtain rfl := Option.some.inj ht
        have hlength : backend.bills.length = r := by
          rw [Backend.bills, List.length_map]
          exact Except.ok.inj hr
        constructor
        · exact fun hlt => absurd hlt (Nat.not_lt.mpr hlength.le)
        · show r < (Program.reply Command.handle none _ backend).1.bills.length
          rw [hbills, List.length_append, ← hlength]
          exact Nat.lt_succ_self _
    | _ => cases ht

/-! ## The programs -/

namespace Async

/-- The program announces nothing. -/
abbrev Quiet {α : Type} (p : Async α) : Prop :=
  p.Thrifty announcements

theorem quiet_call {c : Command} (h : announcements.takes c = none) :
    Quiet (Program.call c : Async c.Reply) :=
  Program.uses_call h

theorem quiet_toColumn (q : ℚ) : Quiet (toColumn q) := by
  unfold toColumn
  cases (Decimal.ofRat q : Option Amount) <;> trivial

/-- The event of a new booking uses up the key that the insertion has returned. -/
theorem spends_create (lib : DateLib) (dto : CreateBookingDto) (customerId : UserId)
    (now : Time) (held : Set Announcement) :
    (create lib dto customerId now).Spends announcements held := by
  have hlocked : (createLocked lib dto customerId now).Spends announcements held := by
    refine .bind_of_thrifty (quiet_call rfl) fun stillAvailable =>
      .ite (fun _ => trivial) fun _ => ?_
    cases newBooking lib dto customerId now with
    | none => trivial
    | some booking =>
        refine Program.spends_give rfl fun id => ?_
        exact Program.spends_take rfl rfl fun _ => trivial
  refine .bind_of_thrifty (quiet_call rfl) fun available => .ite (fun _ => trivial) fun _ => ?_
  refine .bind_of_thrifty (quiet_call rfl) fun acquired => .ite (fun _ => trivial) fun _ => ?_
  exact .tryFinally hlocked (quiet_call rfl)

theorem spends_initiatePayment (settings : PaymentMethod → Option Bool)
    (stripe : StripeReply) (bookingId : BookingId) (method : PaymentMethod)
    (customerId : UserId) (phone : Option String) (reference : String) (now : Time)
    (held : Set Announcement) :
    (initiatePayment settings stripe bookingId method customerId phone reference now).Spends
      announcements held := by
  refine .bind_of_thrifty (.ite (fun _ => trivial) fun _ => trivial) fun _ =>
    .bind_of_thrifty (quiet_call rfl) fun found => ?_
  cases found.filter (·.customerId = customerId) with
  | none => trivial
  | some booking =>
      refine .ite (fun _ => trivial) fun _ => .bind_of_thrifty (quiet_call rfl) fun existing => ?_
      cases existing with
      | some payment => trivial
      | none =>
          refine Program.spends_give rfl fun paymentId => ?_
          cases method with
          | stripe =>
              cases stripe with
              | notConfigured | rejected => trivial
              | created intentId => exact .bind_of_thrifty (quiet_call rfl) fun _ => trivial
          | paypal => exact .bind_of_thrifty (quiet_call rfl) fun _ => trivial
          | orangeMoney | mtnMomo | cash | other =>
              refine .bind_of_thrifty (quiet_call rfl) fun _ =>
                .bind_of_thrifty (quiet_call rfl) fun _ => ?_
              exact Program.spends_take rfl rfl fun _ => trivial

/-! The other operations announce nothing. -/

theorem quiet_cancel (bookingId : BookingId) (user : CurrentUser) (reason : Option String) :
    Quiet (cancel bookingId user reason) := by
  refine .bind (quiet_call rfl) fun booking => ?_
  cases booking with
  | none => trivial
  | some booking =>
      refine .ite (fun _ => trivial) fun _ => .ite (fun _ => trivial) fun _ => ?_
      exact .bind (quiet_call rfl) fun _ => .bind (quiet_call rfl) fun _ =>
        .bind (quiet_call rfl) fun _ => trivial

theorem quiet_confirmManual (paymentId : PaymentId) (adminId : UserId)
    (data : ConfirmPaymentDto) (now : Time) :
    Quiet (confirmManual paymentId adminId data now) := by
  refine .bind (quiet_call rfl) fun payment => ?_
  cases payment with
  | none => trivial
  | some payment =>
      refine .ite (fun _ => trivial) fun _ => .bind (quiet_toColumn _) fun amount =>
        .ite (fun _ => ?_) fun _ => ?_
      · exact .bind (quiet_call rfl) fun _ => .bind (quiet_call rfl) fun _ =>
          .bind (quiet_call rfl) fun _ => .bind (quiet_call rfl) fun _ => trivial
      · exact .bind (quiet_call rfl) fun _ => .bind (quiet_call rfl) fun _ =>
          .bind (quiet_call rfl) fun _ => .bind (quiet_call rfl) fun _ =>
            .bind (quiet_call rfl) fun _ => trivial

theorem quiet_rejectPayment (paymentId : PaymentId) (adminId : UserId)
    (reason : Option String) (now : Time) :
    Quiet (rejectPayment paymentId adminId reason now) := by
  refine .bind (quiet_call rfl) fun payment => ?_
  cases payment with
  | none => trivial
  | some payment =>
      exact .bind (quiet_call rfl) fun _ => .bind (quiet_call rfl) fun _ =>
        .bind (quiet_call rfl) fun _ => trivial

theorem quiet_processRefund (stripe : StripeReply) (paymentId : PaymentId) (adminId : UserId)
    (amount : Option ℚ) (now : Time) :
    Quiet (processRefund stripe paymentId adminId amount now) := by
  refine .bind (quiet_call rfl) fun payment => ?_
  cases payment with
  | none => trivial
  | some payment =>
      refine .ite (fun _ => trivial) fun _ => .bind (.ite (fun _ => ?_) fun _ => trivial) fun _ =>
        .bind (quiet_toColumn _) fun refunded => ?_
      · cases stripe <;> trivial
      · exact .bind (quiet_call rfl) fun _ => .bind (quiet_call rfl) fun _ =>
          .bind (quiet_call rfl) fun _ => trivial

theorem quiet_handleStripeWebhook (event : StripeEvent) (now : Time) :
    Quiet (handleStripeWebhook event now) := by
  cases event with
  | invalidSignature | chargeRefunded | otherType => trivial
  | paymentIntentPaymentFailed intent => exact quiet_call rfl
  | paymentIntentSucceeded intent =>
      refine .bind (quiet_call rfl) fun found => ?_
      cases found with
      | none => trivial
      | some found =>
          exact .bind (quiet_toColumn _) fun amount => .bind (quiet_call rfl) fun _ =>
            .bind (quiet_call rfl) fun _ => quiet_call rfl

theorem quiet_assignConcierge (conciergeId : UserId) (resourceType : ResourceType)
    (resourceId : ResourceId) (assignedBy : UserId) :
    Quiet (assignConcierge conciergeId resourceType resourceId assignedBy) := by
  refine .bind (quiet_call rfl) fun found => ?_
  cases found with
  | some found => trivial
  | none => exact quiet_call rfl

/-- What a concierge does after the access check. -/
theorem quiet_afterAccess {α : Type} (bookingId : BookingId) (conciergeId : UserId)
    {body : Booking → Async α} (hbody : ∀ booking, Quiet (body booking)) :
    Quiet (validateConciergeAccess bookingId conciergeId >>= body) := by
  refine .bind (.bind (quiet_call rfl) fun booking => ?_) hbody
  cases booking with
  | none => trivial
  | some booking =>
      refine .bind (quiet_call rfl) fun found => ?_
      cases found <;> trivial

/-- **Every operation spends only what it is given.** -/
theorem spends_program (lib : DateLib) (now : Time) (operation : Operation) :
    (program lib now operation).Spends announcements ∅ := by
  have hquiet : ∀ {α : Type} {p : Async α}, Quiet p →
      (discard p : Async Unit).Spends announcements ∅ := by
    intro α p h
    have hdiscard : Quiet (discard p : Async Unit) := .bind h fun _ => trivial
    exact hdiscard.spends ∅
  cases operation with
  | createInspection bookingId conciergeId data =>
      refine hquiet (quiet_afterAccess _ _ fun booking =>
        .bind (quiet_call rfl) fun inspection => .ite (fun _ => ?_) fun _ => trivial)
      exact .bind (quiet_call rfl) fun _ => trivial
  | booking call =>
      cases call with
      | create => exact .bind_thrifty (spends_create ..) fun _ => trivial
      | initiatePayment => exact .bind_thrifty (spends_initiatePayment ..) fun _ => trivial
      | cancel => exact hquiet (quiet_cancel ..)
      | complete =>
          exact hquiet (.bind (quiet_call rfl) fun _ => .bind (quiet_call rfl) fun _ =>
            .bind (quiet_call rfl) fun _ => trivial)
      | confirmManual => exact hquiet (quiet_confirmManual ..)
      | rejectPayment => exact hquiet (quiet_rejectPayment ..)
      | processRefund => exact hquiet (quiet_processRefund ..)
      | handleStripeWebhook => exact (quiet_handleStripeWebhook ..).spends ∅
      | assignConcierge => exact hquiet (quiet_assignConcierge ..)
      | startCheckin | startCheckout =>
          exact hquiet (quiet_afterAccess _ _ fun _ => .ite (fun _ => trivial) fun _ => trivial)
      | collectDeposit =>
          exact hquiet (quiet_afterAccess _ _ fun _ => .ite (fun _ => trivial) fun _ =>
            .bind (quiet_call rfl) fun _ => quiet_call rfl)
      | confirmCheckin | confirmCheckout =>
          exact hquiet (quiet_afterAccess _ _ fun _ => .bind (quiet_call rfl) fun _ =>
            .bind (quiet_call rfl) fun _ => .bind (quiet_call rfl) fun _ => trivial)
      | autoCompleteBookings | cancelExpiredPendingBookings =>
          exact (quiet_call rfl : Quiet _).spends ∅

end Async

/-- **Every row is announced at most once**, in any interleaving. -/
theorem announced_nodup {ι : Type} [DecidableEq ι] (lib : DateLib)
    (operations : ι → Time × Operation) {backend : Backend} (hevents : backend.events = [])
    {c : Config Backend ι (Async Unit)}
    (h : Reach platform (fun _ _ => True) (platformStart lib operations backend) c) :
    c.shared.announced.Nodup := by
  show (announcementLog.used c.shared).Nodup
  refine Program.used_nodup_of_reach ?_
    (fun i => Async.spends_program lib _ _) (fun key s s' hs => ?_) h
  · show backend.events.filterMap _ = []
    rw [hevents]
    rfl
  · obtain rfl := Option.some.inj hs
    exact ⟨fun _ ht => ht, rfl⟩

end StayRide
