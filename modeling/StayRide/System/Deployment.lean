import StayRide.Auth.Api
import StayRide.Bookings.Extensions
import StayRide.Bookings.Queries
import StayRide.Payments.Queries
import StayRide.Scheduler.Service

/-!
# The program as it is deployed

What reaches the services from outside: the requests to `AuthController`, `UsersController`,
`BookingsController` and `PaymentsController`, the webhook of Stripe, and the two jobs that
write bookings.  `ConciergeService`, `LoyaltyService` and `BookingsService.complete` are
behind no controller; nothing calls them.

A request to a booking or a payment passes the same two guards as one to an account, with the
roles that its endpoint asks for.  The handler then passes the id and the role of the user on,
as the guards have read them.  `Leaves` says once what an activity can leave in the store, with
what has been checked by then; everything about the deployed program is read off it.

The lists `findAll` and `admin/all` and the catalogue change nothing that is kept here, and
are left out.
-/

namespace StayRide

open Lib Service

/-! ## Endpoints -/

/-- What a request finds outside the program: the switches of the payment methods, what
Stripe answers, and the reference of a payment, which is made of the clock. -/
structure Surroundings where
  settings : PaymentMethod → Option Bool
  stripe : StripeReply
  reference : String

/-- The endpoints of `BookingsController` and `PaymentsController` that ask for a user. -/
inductive BookingEndpoint
  | create (dto : CreateBookingDto)
  | findOne (id : BookingId)
  | cancel (id : BookingId) (reason : Option String)
  | extend (id : BookingId) (dto : ExtendBookingDto)
  | initiate (bookingId : BookingId) (method : PaymentMethod) (phone : Option String)
  | createStripeIntent (bookingId : BookingId)
  | getStatus (id : PaymentId)
  | getHistory
  | confirm (id : PaymentId) (dto : ConfirmPaymentDto)
  | reject (id : PaymentId) (reason : Option String)
  | refund (id : PaymentId) (amount : Option ℚ)

/-- `@Roles(...)`; `[]` where there is no such mark. -/
def BookingEndpoint.roles : BookingEndpoint → List UserRole
  | .create _ | .extend .. | .initiate .. | .createStripeIntent _ | .getHistory => [.customer]
  | .confirm .. | .reject .. | .refund .. => [.admin]
  | .findOne _ | .cancel .. | .getStatus _ => []

/-- `@CurrentUser()` -/
def RequestUser.current (user : RequestUser) : CurrentUser :=
  ⟨user.id, user.role⟩

inductive BookingReply
  | booking (id : BookingId) (row : Booking)
  | cancelled (row : Option Booking)
  | extension (row : BookingExtension)
  | payment (id : PaymentId) (row : Payment)
  | history (rows : List (PaymentId × Payment))
  | settled (row : Option Payment)

/-- A call of a service that knows nothing of extensions. -/
def ExtensionStore.lift {α : Type} (call : Service α) : ServiceM ExtensionStore α := fun store =>
  match call.run store.toStore with
  | .ok a store' => .ok a { store with toStore := store' }
  | .error e store' => .error e { store with toStore := store' }

section Handlers

variable (calendar : CalendarLib) (now : Time) (around : Surroundings) (user : RequestUser)

def handleBooking : BookingEndpoint → ServiceM ExtensionStore BookingReply
  | .create dto => (fun made => .booking made.1 made.2) <$>
      ExtensionStore.lift (create calendar.toDateLib dto user.id now)
  | .findOne id => .booking id <$> ExtensionStore.lift (findOne id user.id user.role)
  | .cancel id reason => .cancelled <$> ExtensionStore.lift (cancel id user.current reason)
  | .extend id dto => .extension <$> extend calendar id dto user.id
  | .initiate bookingId method phone => (fun opened => .payment opened.1 opened.2) <$>
      ExtensionStore.lift (initiatePayment around.settings around.stripe bookingId method user.id
        phone around.reference now)
  | .createStripeIntent bookingId => (fun opened => .payment opened.1 opened.2) <$>
      ExtensionStore.lift (initiatePayment around.settings around.stripe bookingId .stripe
        user.id none around.reference now)
  | .getStatus id => .payment id <$> ExtensionStore.lift (getPaymentStatus id user.id)
  | .getHistory => .history <$> ExtensionStore.lift (getUserPayments user.id)
  | .confirm id dto => .settled <$> ExtensionStore.lift (confirmManual id user.id dto now)
  | .reject id reason => .settled <$> ExtensionStore.lift (rejectPayment id user.id reason now)
  | .refund id amount => .settled <$>
      ExtensionStore.lift (processRefund around.stripe id user.id amount now)

end Handlers

/-! ## Activities -/

/-- The accounts and the bookings. -/
structure Deployment where
  site : Site
  store : ExtensionStore

/-- What happens to the program. -/
inductive Activity
  | account (r : ApiRequest)
  | booking (now : Time) (bearer : Option AccessToken) (around : Surroundings)
      (endpoint : BookingEndpoint)
  | stripeWebhook (now : Time) (event : StripeEvent)
  | autoCompleteBookings (today : Day)
  | cancelExpiredPendingBookings (now : Time)

section Activities

variable (lib : AuthLib) (calendar : CalendarLib) (jwt : JwtLib)

/-- A request to a booking or a payment: the guards, then the handler. -/
def serveBooking (d : Deployment) (now : Time) (bearer : Option AccessToken)
    (around : Surroundings) (endpoint : BookingEndpoint) :
    Except HttpException BookingReply × Deployment :=
  match letPass jwt d.site now bearer endpoint.roles with
  | .error e => (.error e, d)
  | .ok user =>
      let call := handleBooking calendar now around user endpoint
      (call.outcome d.store, { d with store := call.storeAfter d.store })

def act (d : Deployment) : Activity → Deployment
  | .account r => { d with site := (serve lib jwt d.site r).2 }
  | .booking now bearer around endpoint =>
      (serveBooking calendar jwt d now bearer around endpoint).2
  | .stripeWebhook now event =>
      { d with store := (ExtensionStore.lift (handleStripeWebhook event now)).storeAfter d.store }
  | .autoCompleteBookings today =>
      { d with store := (ExtensionStore.lift (autoCompleteBookings today)).storeAfter d.store }
  | .cancelExpiredPendingBookings now =>
      { d with
        store := (ExtensionStore.lift (cancelExpiredPendingBookings now)).storeAfter d.store }

/-- The program after some activities. -/
def deployedAfter (d : Deployment) (as : List Activity) : Deployment :=
  Final (act lib calendar jwt) d as

end Activities

/-! ## What an activity leaves in the store -/

/-- The booking, the method and the phone number of an endpoint that opens a payment. -/
def BookingEndpoint.opens : BookingEndpoint → Option (BookingId × PaymentMethod × Option String)
  | .initiate bookingId method phone => some (bookingId, method, phone)
  | .createStripeIntent bookingId => some (bookingId, .stripe, none)
  | _ => none

/-- The payment of an endpoint that settles one. -/
def BookingEndpoint.settles : BookingEndpoint → Option PaymentId
  | .confirm id _ => some id
  | .reject id _ => some id
  | .refund id _ => some id
  | _ => none

/-- The event tells of a stay that has begun or is over. -/
def DomainEvent.tellsOfStay : DomainEvent → Bool
  | .bookingCompleted .. | .checkinConfirmed .. => true
  | _ => false

/-- The update settles a payment in the name of this user. -/
structure SettledBy (adminId : UserId) (f : Payment → Payment) : Prop where
  bookingId : ∀ p, (f p).bookingId = p.bookingId
  payerId : ∀ p, (f p).payerId = p.payerId
  confirmedBy : ∀ p, (f p).confirmedBy = some adminId

/-- Who asks for `endpoint` has passed the guards as `user`. -/
def PassedAs (jwt : JwtLib) (d : Deployment) (user : RequestUser) : Activity → Prop
  | .booking now bearer _ endpoint => letPass jwt d.site now bearer endpoint.roles = .ok user
  | _ => False

section Leaves

variable (calendar : CalendarLib) (jwt : JwtLib) (d : Deployment)

/-- What an activity leaves in the store, with what was checked before. -/
inductive Leaves : Activity → Store → Prop
  | same {a : Activity} : Leaves a d.store.toStore
  | created {now : Time} {bearer : Option AccessToken} {around : Surroundings}
      {dto : CreateBookingDto} {user : RequestUser} {b : Booking}
      (hpass : PassedAs jwt d user (.booking now bearer around (.create dto)))
      (hrow : newBooking calendar.toDateLib dto user.id now = some b) :
      Leaves (.booking now bearer around (.create dto))
        { d.store.toStore with
          bookings := d.store.bookings.insertRow b
          events := d.store.events ++ [.bookingCreated d.store.bookings.length b] }
  | cancelled {now : Time} {bearer : Option AccessToken} {around : Surroundings}
      {id : BookingId} {reason : Option String} {user : RequestUser} {b : Booking}
      (hpass : PassedAs jwt d user (.booking now bearer around (.cancel id reason)))
      (hb : d.store.bookings[id]? = some b)
      (hright : user.role = .customer → b.customerId = user.id) :
      Leaves (.booking now bearer around (.cancel id reason))
        { d.store.toStore with
          bookings := d.store.bookings.updateById id (Booking.asCancelled user.current reason)
          events := d.store.events ++
            [.bookingCancelled id (some (b.asCancelled user.current reason))] }
  | opened {now : Time} {bearer : Option AccessToken} {around : Surroundings}
      {endpoint : BookingEndpoint} {id : BookingId} {method : PaymentMethod}
      {phone : Option String} {user : RequestUser} {b : Booking}
      (hpass : PassedAs jwt d user (.booking now bearer around endpoint))
      (hopens : endpoint.opens = some (id, method, phone))
      (hb : d.store.bookings[id]? = some b) (howner : b.customerId = user.id) :
      Leaves (.booking now bearer around endpoint)
        (d.store.toStore.withOpened id b method
          (openedPayment around.stripe id b method user.id phone around.reference now))
  /-- An administrator confirms, rejects or refunds a payment.  The booking may move. -/
  | settled {now : Time} {bearer : Option AccessToken} {around : Surroundings}
      {endpoint : BookingEndpoint} {paymentId : PaymentId} {p : Payment} {admin : RequestUser}
      {f : Payment → Payment} {moved : Option BookingStatus} {events : List DomainEvent}
      (hpass : PassedAs jwt d admin (.booking now bearer around endpoint))
      (hsettles : endpoint.settles = some paymentId)
      (hp : d.store.payments[paymentId]? = some p)
      (hf : SettledBy admin.id f)
      (hmoved : ∀ status ∈ moved, status = .confirmed ∨ status = .refunded)
      (hevents : ∀ e ∈ events, e.tellsOfStay = false) :
      Leaves (.booking now bearer around endpoint)
        { d.store.toStore with
          bookings := moved.elim d.store.bookings fun status =>
            d.store.bookings.updateById p.bookingId (Booking.withStatus status)
          payments := d.store.payments.updateById paymentId f
          events := d.store.events ++ events }
  | captured {now : Time} {intent : PaymentIntent} {paymentId : PaymentId} {p : Payment}
      {amount : Amount} (hp : d.store.payments[paymentId]? = some p)
      (hintent : p.stripePaymentId = some intent.id) :
      Leaves (.stripeWebhook now (.paymentIntentSucceeded intent))
        { d.store.toStore with
          bookings := d.store.bookings.updateById p.bookingId (Booking.withStatus .confirmed)
          payments := d.store.payments.updateById paymentId (Payment.asCaptured amount now)
          events := d.store.events ++
            [.bookingConfirmed p.bookingId
              (d.store.bookings[p.bookingId]?.map (Booking.withStatus .confirmed))] }
  | failed {now : Time} {intent : PaymentIntent} :
      Leaves (.stripeWebhook now (.paymentIntentPaymentFailed intent))
        { d.store.toStore with
          payments := d.store.payments.updateWhere
            (fun _ p => p.stripePaymentId = some intent.id) Payment.asFailed }
  | completed {today : Day} :
      Leaves (.autoCompleteBookings today)
        { d.store.toStore with
          bookings := d.store.bookings.updateWhere (fun _ b => b.isOver today)
            (Booking.withStatus .completed) }
  | expired {now : Time} :
      Leaves (.cancelExpiredPendingBookings now)
        { d.store.toStore with
          bookings := d.store.bookings.updateWhere (Booking.isExpired d.store.payments now)
            (Booking.withStatus .cancelled) }

end Leaves

/-! What a payment that is opened leaves. -/

/-- A payment that is opened is for this booking and of this payer, and nobody has confirmed
it. -/
theorem openedPayment_parties (stripe : StripeReply) (id : BookingId) (b : Booking)
    (method : PaymentMethod) (customerId : UserId) (phone : Option String) (reference : String)
    (now : Time) :
    let payment := openedPayment stripe id b method customerId phone reference now
    payment.bookingId = id ∧ payment.payerId = customerId ∧ payment.confirmedBy = none := by
  cases method <;> cases stripe <;> exact ⟨rfl, rfl, rfl⟩

/-- A payment that is opened writes the status of its booking at most. -/
theorem bookings_withOpened (store : Store) (id : BookingId) (b : Booking)
    (method : PaymentMethod) (payment : Payment) :
    (store.withOpened id b method payment).bookings = store.bookings ∨
      (store.withOpened id b method payment).bookings =
        store.bookings.updateById id (Booking.withStatus .paymentPending) := by
  unfold Store.withOpened
  split
  · exact .inr rfl
  · exact .inl rfl

theorem payments_withOpened (store : Store) (id : BookingId) (b : Booking)
    (method : PaymentMethod) (payment : Payment) :
    (store.withOpened id b method payment).payments = store.payments.insertRow payment := by
  unfold Store.withOpened
  split <;> rfl

/-! ### The activities leave no more than that -/

section LeavesAct

variable {calendar : CalendarLib} {jwt : JwtLib} {d : Deployment}

theorem ExtensionStore.storeAfter_lift {α : Type} (call : Service α) (store : ExtensionStore) :
    (ExtensionStore.lift call).storeAfter store =
      { store with toStore := call.storeAfter store.toStore } := by
  have hrun : (ExtensionStore.lift call).run store =
      match call.run store.toStore with
      | .ok a store' => .ok a { store with toStore := store' }
      | .error e store' => .error e { store with toStore := store' } := rfl
  unfold ServiceM.storeAfter
  rw [hrun]
  cases call.run store.toStore <;> rfl

theorem toStore_storeAfter_map_lift {α : Type} (reply : α → BookingReply) (call : Service α)
    (store : ExtensionStore) :
    ((reply <$> ExtensionStore.lift call).storeAfter store).toStore =
      call.storeAfter store.toStore := by
  rw [ServiceM.storeAfter_map, ExtensionStore.storeAfter_lift]

theorem right_of_cancellableBooking {store : Store} {id : BookingId} {user : CurrentUser}
    {b : Booking} (h : cancellableBooking store id user = some b)
    (hrole : user.role = .customer) : b.customerId = user.id := by
  have hb := (cancellableBooking_eq_some h).1
  unfold cancellableBooking at h
  simp only [hb, Option.ite_none_left_eq_some] at h
  exact not_ne_iff.mp fun hne => h.1 ⟨hrole, hne⟩

theorem owner_of_payableBooking {store : Store} {settings : PaymentMethod → Option Bool}
    {id : BookingId} {method : PaymentMethod} {customerId : UserId} {b : Booking}
    (h : payableBooking store settings id method customerId = some b) :
    b.customerId = customerId := by
  have hb := (payableBooking_eq_some h).1
  unfold payableBooking at h
  simp only [hb, Option.ite_none_right_eq_some] at h
  exact h.2.1.1

theorem findOne_storeAfter (store : Store) (id : BookingId) (userId : UserId) (role : UserRole) :
    (findOne id userId role).storeAfter store = store := by
  unfold ServiceM.storeAfter findOne
  cases hb : store.bookings[id]? with
  | none => simp [hb]
  | some b =>
      by_cases h : role = .customer ∧ b.customerId ≠ userId
      · simp [hb, h]
      · simp [hb, h]

/-- **A complete `extend`** records one row beside the bookings, or nothing. -/
theorem storeAfter_extend (calendar : CalendarLib) (id : BookingId) (dto : ExtendBookingDto)
    (customerId : UserId) (store : ExtensionStore) :
    (extend calendar id dto customerId).storeAfter store = store ∨
      ∃ b extension, extensionRow calendar id dto customerId b = some extension ∧
        (extend calendar id dto customerId).storeAfter store =
          { store with
            extensions := store.extensions.insertRow extension
            requested := store.requested ++ [(b, extension)] } := by
  unfold ServiceM.storeAfter
  cases hrun : (extend calendar id dto customerId).run store with
  | ok extension store' =>
      obtain ⟨b, -, -, -, -, -, hrow, rfl⟩ := (run_extend_eq_ok calendar).mp hrun
      exact .inr ⟨b, extension, hrow, rfl⟩
  | error e store' =>
      -- Every check throws before the row is saved.
      refine .inl ?_
      unfold extend at hrun
      simp only [ne_eq, bind_pure_comp, EStateM.run_bind, EStateM.run_get] at hrun
      repeat' split at hrun
      all_goals simp_all

theorem toStore_storeAfter_extend (calendar : CalendarLib) (id : BookingId)
    (dto : ExtendBookingDto) (customerId : UserId) (store : ExtensionStore) :
    ((extend calendar id dto customerId).storeAfter store).toStore = store.toStore := by
  obtain h | ⟨b, extension, -, h⟩ := storeAfter_extend calendar id dto customerId store
  · rw [h]
  · rw [h]

theorem requestedBy_of_extensionRow {id : BookingId} {dto : ExtendBookingDto}
    {customerId : UserId} {b : Booking} {extension : BookingExtension}
    (h : extensionRow calendar id dto customerId b = some extension) :
    extension.requestedBy = customerId := by
  simp only [extensionRow, Option.bind_eq_bind, Option.bind_eq_some_iff, Option.pure_def,
    Option.some.injEq] at h
  obtain ⟨-, -, -, -, -, -, -, -, rfl⟩ := h
  rfl

/-- A payment that is opened, by one of the two endpoints. -/
theorem leaves_initiatePayment {now : Time} {bearer : Option AccessToken}
    {around : Surroundings} {endpoint : BookingEndpoint} {id : BookingId}
    {method : PaymentMethod} {phone : Option String} {user : RequestUser}
    (hpass : PassedAs jwt d user (.booking now bearer around endpoint))
    (hopens : endpoint.opens = some (id, method, phone)) :
    Leaves calendar jwt d (.booking now bearer around endpoint)
      ((initiatePayment around.settings around.stripe id method user.id phone around.reference
        now).storeAfter d.store.toStore) := by
  rw [initiatePayment_storeAfter]
  cases hb : payableBooking d.store.toStore around.settings id method user.id with
  | none => exact .same
  | some b =>
      exact .opened hpass hopens (payableBooking_eq_some hb).1 (owner_of_payableBooking hb)

theorem settledBy_asConfirmed (status : PaymentStatus) (amount : Amount)
    (dto : ConfirmPaymentDto) (adminId : UserId) (now : Time) :
    SettledBy adminId (Payment.asConfirmed status amount dto adminId now) :=
  ⟨fun _ => rfl, fun _ => rfl, fun _ => rfl⟩

theorem settledBy_asRejected (adminId : UserId) (reason : Option String) (now : Time) :
    SettledBy adminId (Payment.asRejected adminId reason now) :=
  ⟨fun _ => rfl, fun _ => rfl, fun _ => rfl⟩

theorem settledBy_asRefunded (amount : Amount) (adminId : UserId) (now : Time) :
    SettledBy adminId (Payment.asRefunded amount adminId now) :=
  ⟨fun _ => rfl, fun _ => rfl, fun _ => rfl⟩

/-- The booking stays as it is. -/
theorem stays : ∀ status ∈ (none : Option BookingStatus),
    status = .confirmed ∨ status = .refunded :=
  fun _ h => absurd h (Option.not_mem_none _)

theorem moves {status : BookingStatus} (h : status = .confirmed ∨ status = .refunded) :
    ∀ status' ∈ some status, status' = .confirmed ∨ status' = .refunded :=
  fun _ h' => Option.mem_some.mp h' ▸ h

/-- A handler that was let pass. -/
theorem leaves_handleBooking {now : Time} {bearer : Option AccessToken}
    {around : Surroundings} {endpoint : BookingEndpoint} {user : RequestUser}
    (hpass : PassedAs jwt d user (.booking now bearer around endpoint)) :
    Leaves calendar jwt d (.booking now bearer around endpoint)
      ((handleBooking calendar now around user endpoint).storeAfter d.store).toStore := by
  cases endpoint with
  | create dto =>
      rw [handleBooking, toStore_storeAfter_map_lift, create_storeAfter]
      cases hrow : createdBooking d.store.toStore calendar.toDateLib dto user.id now with
      | none => exact .same
      | some b => exact .created hpass (newBooking_of_createdBooking _ hrow)
  | findOne id =>
      rw [handleBooking, toStore_storeAfter_map_lift, findOne_storeAfter]
      exact .same
  | cancel id reason =>
      rw [handleBooking, toStore_storeAfter_map_lift, cancel_storeAfter]
      cases hb : cancellableBooking d.store.toStore id user.current with
      | none => exact .same
      | some b =>
          exact .cancelled hpass (cancellableBooking_eq_some hb).1
            (right_of_cancellableBooking hb)
  | extend id dto =>
      rw [handleBooking, ServiceM.storeAfter_map, toStore_storeAfter_extend]
      exact .same
  | initiate id method phone =>
      rw [handleBooking, toStore_storeAfter_map_lift]
      exact leaves_initiatePayment hpass rfl
  | createStripeIntent id =>
      rw [handleBooking, toStore_storeAfter_map_lift]
      exact leaves_initiatePayment hpass rfl
  | getStatus id =>
      rw [handleBooking, toStore_storeAfter_map_lift, getPaymentStatus_storeAfter]
      exact .same
  | getHistory =>
      rw [handleBooking, toStore_storeAfter_map_lift]
      exact .same
  | confirm id dto =>
      rw [handleBooking, toStore_storeAfter_map_lift, confirmManual_storeAfter]
      cases hp : confirmablePayment d.store.toStore id dto with
      | none => exact .same
      | some found =>
          obtain ⟨p, amount⟩ := found
          have hrow := (confirmablePayment_eq_some hp).1
          dsimp only
          split
          · exact .settled hpass rfl hrow (settledBy_asConfirmed ..) stays
              (List.forall_mem_singleton.mpr rfl)
          · exact .settled hpass rfl hrow (settledBy_asConfirmed ..) (moves (.inl rfl))
              (List.forall_mem_cons.mpr ⟨rfl, List.forall_mem_singleton.mpr rfl⟩)
  | reject id reason =>
      rw [handleBooking, toStore_storeAfter_map_lift, rejectPayment_storeAfter]
      cases hp : d.store.payments[id]? with
      | none => exact .same
      | some p =>
          exact .settled hpass rfl hp (settledBy_asRejected ..) stays
            (List.forall_mem_singleton.mpr rfl)
  | refund id amount =>
      rw [handleBooking, toStore_storeAfter_map_lift, processRefund_storeAfter]
      cases hp : refundablePayment d.store.toStore around.stripe id amount with
      | none => exact .same
      | some found =>
          exact .settled hpass rfl (refundablePayment_eq_some hp).1
            (settledBy_asRefunded ..) (moves (.inr rfl)) (List.forall_mem_singleton.mpr rfl)

/-- **What an activity leaves.** -/
theorem leaves_act (lib : AuthLib) (a : Activity) :
    Leaves calendar jwt d a (act lib calendar jwt d a).store.toStore := by
  cases a with
  | account r => exact .same
  | booking now bearer around endpoint =>
      rw [act, serveBooking]
      cases hpass : letPass jwt d.site now bearer endpoint.roles with
      | error e => exact .same
      | ok user => exact leaves_handleBooking hpass
  | stripeWebhook now event =>
      rw [act, ExtensionStore.storeAfter_lift]
      cases event with
      | paymentIntentSucceeded intent =>
          show Leaves _ _ _ _ ((handleStripeSuccess intent now).storeAfter d.store.toStore)
          rw [handleStripeSuccess_storeAfter]
          cases hp : capturedPayment d.store.toStore intent with
          | none => exact .same
          | some found =>
              obtain ⟨hrow, hintent, -⟩ := capturedPayment_eq_some hp
              exact .captured hrow hintent
      | paymentIntentPaymentFailed intent =>
          show Leaves _ _ _ _ ((handleStripeFailure intent).storeAfter d.store.toStore)
          rw [handleStripeFailure_storeAfter]
          exact .failed
      | invalidSignature | chargeRefunded | otherType => exact .same
  | autoCompleteBookings today =>
      rw [act, ExtensionStore.storeAfter_lift, autoCompleteBookings_storeAfter]
      exact .completed
  | cancelExpiredPendingBookings now =>
      rw [act, ExtensionStore.storeAfter_lift, cancelExpiredPendingBookings_storeAfter]
      exact .expired

end LeavesAct

/-- An activity records one extension at most, for the user who has passed the guards. -/
theorem extensions_act (lib : AuthLib) (calendar : CalendarLib) (jwt : JwtLib) (d : Deployment)
    (a : Activity) :
    (act lib calendar jwt d a).store.extensions = d.store.extensions ∨
      ∃ user extension, PassedAs jwt d user a ∧ extension.requestedBy = user.id ∧
        (act lib calendar jwt d a).store.extensions =
          d.store.extensions.insertRow extension := by
  cases a with
  | account r => exact .inl rfl
  | booking now bearer around endpoint =>
      rw [act, serveBooking]
      cases hpass : letPass jwt d.site now bearer endpoint.roles with
      | error e => exact .inl rfl
      | ok user =>
          cases endpoint with
          | extend id dto =>
              simp only [handleBooking, ServiceM.storeAfter_map]
              obtain h | ⟨b, extension, hrow, h⟩ :=
                storeAfter_extend calendar id dto user.id d.store
              · rw [h]
                exact .inl rfl
              · rw [h]
                exact .inr ⟨user, extension, hpass, requestedBy_of_extensionRow hrow, rfl⟩
          | create | findOne | cancel | initiate | createStripeIntent | getStatus | getHistory
          | confirm | reject | refund =>
              simp only [handleBooking, ServiceM.storeAfter_map,
                ExtensionStore.storeAfter_lift, true_or]
  | stripeWebhook | autoCompleteBookings | cancelExpiredPendingBookings =>
      simp only [act, ExtensionStore.storeAfter_lift, true_or]

end StayRide
