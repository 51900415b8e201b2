import StayRide.System.Authority

/-!
# What the deployed program keeps, and what it never does

Invariants of the program as it is deployed, over every run of requests, webhooks and jobs that
begins with empty tables.

* `stays_never_begin`: no stay ever begins.  Check-in, deposit, check-out and `complete` are
  behind no controller, so bookings end as pending, confirmed, cancelled or refunded;
  `booking.completed` is never emitted, by which loyalty points would be earned; and the job
  that completes bookings has nothing to do.
* `stored_ids_have_accounts`: the database has no foreign keys for them, but every user id that
  the booking side stores is the id of an account.
* `payment_views_agree`: the status of a payment and the history show it to the customer of the
  booking that it is for, and so does `findOne` the booking.
-/

namespace StayRide

open Lib Service

/-! ## Stays never begin -/

/-- The statuses of a booking whose stay has not begun. -/
def BookingStatus.beforeStay : BookingStatus → Bool
  | .pending | .paymentPending | .confirmed | .cancelled | .refunded => true
  | .active | .completed | .rejected => false

/-- Nobody has arrived: the booking waits, is confirmed, or is given up, and the columns of
the check-in, of the deposit and of the check-out are as they were made. -/
structure Booking.Unbegun (b : Booking) : Prop where
  status : b.status.beforeStay = true
  checkinAt : b.checkinAt = none
  checkoutAt : b.checkoutAt = none
  depositStatus : b.depositStatus = .none ∨ b.depositStatus = .pending
  depositCollectedAt : b.depositCollectedAt = none

/-- No stay has begun, and no event says so. -/
structure Store.Unbegun (store : Store) : Prop where
  bookings : ∀ b ∈ store.bookings, b.Unbegun
  events : ∀ e ∈ store.events, e.tellsOfStay = false

section Unbegun

variable {calendar : CalendarLib} {jwt : JwtLib} {d : Deployment} {a : Activity}
  {store : Store} {b : Booking}

theorem Booking.Unbegun.withStatus (h : b.Unbegun) {status : BookingStatus}
    (hstatus : status.beforeStay = true) : (b.withStatus status).Unbegun :=
  { h with status := hstatus }

theorem Booking.Unbegun.asCancelled (h : b.Unbegun) (user : CurrentUser)
    (reason : Option String) : (b.asCancelled user reason).Unbegun :=
  { h with status := rfl }

theorem unbegun_of_newBooking {lib : DateLib} {dto : CreateBookingDto} {customerId : UserId}
    {now : Time} (h : newBooking lib dto customerId now = some b) : b.Unbegun := by
  obtain ⟨s, e, price, -, -, rfl⟩ := newBooking_eq_some h
  refine ⟨rfl, rfl, rfl, ?_, rfl⟩
  unfold bookingRow
  dsimp only
  split
  · exact .inr rfl
  · exact .inl rfl

/-- A booking whose stay has not begun is not one to be completed. -/
theorem Booking.Unbegun.isOver (h : b.Unbegun) (today : Day) : b.isOver today = false := by
  have hactive : b.status ≠ .active := by
    intro heq
    have hbefore := h.status
    rw [heq] at hbefore
    cases hbefore
  unfold Booking.isOver
  rw [decide_eq_false hactive, Bool.and_false]

theorem forall_append_events {events added : List DomainEvent}
    (h : ∀ e ∈ events, e.tellsOfStay = false) (hadded : ∀ e ∈ added, e.tellsOfStay = false) :
    ∀ e ∈ events ++ added, e.tellsOfStay = false :=
  List.forall_mem_append.mpr ⟨h, hadded⟩

/-- One activity begins no stay. -/
theorem Leaves.unbegun (h : Leaves calendar jwt d a store) (hd : d.store.toStore.Unbegun) :
    store.Unbegun := by
  cases h with
  | same => exact hd
  | created hpass hrow =>
      exact ⟨Table.forall_insertRow hd.bookings (unbegun_of_newBooking hrow),
        forall_append_events hd.events (List.forall_mem_singleton.mpr rfl)⟩
  | cancelled =>
      exact ⟨Table.forall_updateById hd.bookings _ fun b hb => hb.asCancelled _ _,
        forall_append_events hd.events (List.forall_mem_singleton.mpr rfl)⟩
  | opened =>
      unfold Store.withOpened
      split
      · exact ⟨Table.forall_updateById hd.bookings _ fun b hb => hb.withStatus rfl,
          forall_append_events hd.events (List.forall_mem_singleton.mpr rfl)⟩
      · exact ⟨hd.bookings, hd.events⟩
  | @settled _ _ _ _ _ _ _ _ moved _ hpass hsettles hp hf hmoved hevents =>
      refine ⟨?_, forall_append_events hd.events hevents⟩
      cases moved with
      | none => exact hd.bookings
      | some status =>
          refine Table.forall_updateById hd.bookings _ fun b hb => hb.withStatus ?_
          rcases hmoved status rfl with rfl | rfl <;> rfl
  | captured =>
      exact ⟨Table.forall_updateById hd.bookings _ fun b hb => hb.withStatus rfl,
        forall_append_events hd.events (List.forall_mem_singleton.mpr rfl)⟩
  | failed => exact ⟨hd.bookings, hd.events⟩
  | @completed today =>
      -- The job selects nothing.
      refine ⟨Table.forall_updateWhere hd.bookings fun _ b hsel hb => ?_, hd.events⟩
      rw [hb.isOver today] at hsel
      cases hsel
  | expired =>
      exact ⟨Table.forall_updateWhere hd.bookings fun _ b _ hb => hb.withStatus rfl,
        hd.events⟩

end Unbegun

/-- **No stay ever begins.** -/
theorem stays_never_begin (lib : AuthLib) (calendar : CalendarLib) (jwt : JwtLib)
    {d : Deployment} (hbookings : d.store.bookings = []) (hevents : d.store.events = [])
    (as : List Activity) :
    (deployedAfter lib calendar jwt d as).store.toStore.Unbegun ∧
      ∀ today, act lib calendar jwt (deployedAfter lib calendar jwt d as)
        (.autoCompleteBookings today) = deployedAfter lib calendar jwt d as := by
  have hstart : d.store.toStore.Unbegun := by
    refine ⟨fun b hb => ?_, fun e he => ?_⟩
    · rw [hbookings] at hb
      exact absurd hb List.not_mem_nil
    · rw [hevents] at he
      exact absurd he List.not_mem_nil
  have hafter : (deployedAfter lib calendar jwt d as).store.toStore.Unbegun :=
    final_invariant (I := fun d : Deployment => d.store.toStore.Unbegun)
      (fun d a hd => (leaves_act lib a).unbegun hd) hstart as
  refine ⟨hafter, fun today => ?_⟩
  have hidle : (deployedAfter lib calendar jwt d as).store.bookings.updateWhere
      (fun _ b => b.isOver today) (Booking.withStatus .completed) =
        (deployedAfter lib calendar jwt d as).store.bookings :=
    Table.updateWhere_of_forall_not fun _ b hb => (hafter.bookings b hb).isOver today
  rw [act, ExtensionStore.storeAfter_lift, autoCompleteBookings_storeAfter, hidle]

/-! ## Every stored id has an account -/

/-- The id is that of an account. -/
def Deployment.HasAccount (d : Deployment) (id : UserId) : Prop :=
  ∃ u, d.site.store.users[id]? = some u

/-- The users that the tables of the booking side name are known. -/
structure ExtensionStore.Knows (store : ExtensionStore) (known : UserId → Prop) : Prop where
  bookings : ∀ b ∈ store.bookings, known b.customerId ∧ ∀ id ∈ b.cancelledBy, known id
  payments : ∀ p ∈ store.payments, known p.payerId ∧ ∀ id ∈ p.confirmedBy, known id
  extensions : ∀ e ∈ store.extensions, known e.requestedBy

section Accounts

variable {lib : AuthLib} {calendar : CalendarLib} {jwt : JwtLib} {d : Deployment}
  {a : Activity}

theorem length_users_authExec (store : AuthStore) (r : AuthRequest) :
    store.users.length ≤ (authExec lib store r).users.length := by
  rw [exec_users]
  cases userEffectOf lib store r with
  | none => exact le_refl _
  | add user =>
      rw [UserEffect.apply, Table.length_insertRow]
      exact Nat.le_succ _
  | update id patch => rw [UserEffect.apply, Table.length_updateById]

theorem length_users_handleGuarded (now : Time) (store : AuthStore) (user : RequestUser)
    (endpoint : GuardedEndpoint) :
    store.users.length ≤ (handleGuarded lib now store user endpoint).2.users.length := by
  cases endpoint with
  | logout token =>
      rw [handleGuarded, snd_answer]
      exact length_users_authExec store ⟨now, .logout token⟩
  | resendVerification =>
      rw [handleGuarded, snd_answer]
      exact length_users_authExec store ⟨now, .resendVerification user.id⟩
  | getMe => exact le_refl _
  | toggleActive id =>
      simp only [handleGuarded, toggleActive]
      cases store.users[id]? with
      | none => exact le_refl _
      | some u => exact (Table.length_updateById ..).ge
  | changeRole id role =>
      rw [handleGuarded, snd_answer]
      cases role with
      | none => exact le_refl _
      | some text =>
          simp only [changeRole]
          cases UserRole.ofText text with
          | none => exact le_refl _
          | some role => exact (Table.length_updateById ..).ge

theorem length_users_serve (site : Site) (r : ApiRequest) :
    site.store.users.length ≤ (serve lib jwt site r).2.store.users.length := by
  unfold serve
  split
  · next endpoint _ =>
      show _ ≤ (handlePublic lib r.now site.store endpoint).2.users.length
      rw [snd_handlePublic]
      exact length_users_authExec site.store _
  · split
    · exact le_refl _
    · exact length_users_handleGuarded _ _ _ _

theorem length_users_act (d : Deployment) (a : Activity) :
    d.site.store.users.length ≤ (act lib calendar jwt d a).site.store.users.length := by
  cases a with
  | account r => exact length_users_serve d.site r
  | booking now bearer around endpoint =>
      rw [act, serveBooking]
      cases letPass jwt d.site now bearer endpoint.roles <;> exact le_refl _
  | stripeWebhook | autoCompleteBookings | cancelExpiredPendingBookings => exact le_refl _

/-- Accounts are never deleted. -/
theorem Deployment.HasAccount.act {id : UserId} (h : d.HasAccount id) (a : Activity) :
    (StayRide.act lib calendar jwt d a).HasAccount id := by
  obtain ⟨u, hu⟩ := h
  obtain ⟨hlt, -⟩ := List.getElem?_eq_some_iff.mp hu
  exact ⟨_, List.getElem?_eq_getElem (hlt.trans_le (length_users_act d a))⟩

/-- Who has passed the guards has an account. -/
theorem hasAccount_of_passedAs {user : RequestUser} (h : PassedAs jwt d user a) :
    d.HasAccount user.id := by
  cases a with
  | booking now bearer around endpoint =>
      obtain ⟨-, u, -, -, -, -, hu, -⟩ := jwtAuthGuard_eq_ok (letPass_eq_ok h).1
      exact ⟨u, hu⟩
  | account | stripeWebhook | autoCompleteBookings | cancelExpiredPendingBookings => cases h

theorem ExtensionStore.Knows.mono {store : ExtensionStore} {known known' : UserId → Prop}
    (h : store.Knows known) (hmono : ∀ id, known id → known' id) : store.Knows known' where
  bookings b hb :=
    ⟨hmono _ (h.bookings b hb).1, fun id hid => hmono id ((h.bookings b hb).2 id hid)⟩
  payments p hp :=
    ⟨hmono _ (h.payments p hp).1, fun id hid => hmono id ((h.payments p hp).2 id hid)⟩
  extensions e he := hmono _ (h.extensions e he)

/-- An activity names nobody but the users named before and the one it is for. -/
theorem Leaves.knows {store : Store} (h : Leaves calendar jwt d a store)
    {known : UserId → Prop}
    (hbookings : ∀ b ∈ d.store.bookings, known b.customerId ∧ ∀ id ∈ b.cancelledBy, known id)
    (hpayments : ∀ p ∈ d.store.payments, known p.payerId ∧ ∀ id ∈ p.confirmedBy, known id)
    (huser : ∀ user, PassedAs jwt d user a → known user.id) :
    (∀ b ∈ store.bookings, known b.customerId ∧ ∀ id ∈ b.cancelledBy, known id) ∧
      ∀ p ∈ store.payments, known p.payerId ∧ ∀ id ∈ p.confirmedBy, known id := by
  cases h with
  | same => exact ⟨hbookings, hpayments⟩
  | created hpass hrow =>
      refine ⟨Table.forall_insertRow hbookings ?_, hpayments⟩
      obtain ⟨s, e, price, -, -, rfl⟩ := newBooking_eq_some hrow
      exact ⟨huser _ hpass, fun _ hid => absurd hid (Option.not_mem_none _)⟩
  | cancelled hpass =>
      refine ⟨Table.forall_updateById hbookings _ fun b hb => ⟨hb.1, fun id hid => ?_⟩, hpayments⟩
      obtain rfl := Option.some.inj hid
      exact huser _ hpass
  | opened hpass =>
      rw [payments_withOpened]
      constructor
      · obtain h | h := bookings_withOpened ..
        · rw [h]
          exact hbookings
        · rw [h]
          exact Table.forall_updateById hbookings _ fun b hb => hb
      · refine Table.forall_insertRow hpayments ?_
        obtain ⟨-, hpayer, hconfirmed⟩ := openedPayment_parties ..
        rw [hpayer, hconfirmed]
        exact ⟨huser _ hpass, fun _ hid => absurd hid (Option.not_mem_none _)⟩
  | @settled _ _ _ _ _ _ _ f moved _ hpass hsettles hp hf =>
      refine ⟨?_, Table.forall_updateById hpayments _ fun p hp => ⟨?_, fun id hid => ?_⟩⟩
      · cases moved with
        | none => exact hbookings
        | some status => exact Table.forall_updateById hbookings _ fun b hb => hb
      · exact hf.payerId p ▸ hp.1
      · rw [hf.confirmedBy] at hid
        obtain rfl := Option.some.inj hid
        exact huser _ hpass
  | captured =>
      exact ⟨Table.forall_updateById hbookings _ fun b hb => hb,
        Table.forall_updateById hpayments _ fun p hp => hp⟩
  | failed => exact ⟨hbookings, Table.forall_updateWhere hpayments fun _ p _ hp => hp⟩
  | completed | expired =>
      exact ⟨Table.forall_updateWhere hbookings fun _ b _ hb => hb, hpayments⟩

end Accounts

/-- **Every stored id has an account.** -/
theorem stored_ids_have_accounts (lib : AuthLib) (calendar : CalendarLib) (jwt : JwtLib)
    {d : Deployment} (hbookings : d.store.bookings = []) (hpayments : d.store.payments = [])
    (hextensions : d.store.extensions = []) (as : List Activity) :
    (deployedAfter lib calendar jwt d as).store.Knows
      (deployedAfter lib calendar jwt d as).HasAccount := by
  refine final_invariant (I := fun d : Deployment => d.store.Knows d.HasAccount) ?_ ?_ as
  · intro d a hd
    have huser : ∀ user, PassedAs jwt d user a → d.HasAccount user.id :=
      fun user => hasAccount_of_passedAs
    obtain ⟨hb, hp⟩ := (leaves_act lib a).knows hd.bookings hd.payments huser
    have he : ∀ e ∈ (act lib calendar jwt d a).store.extensions, d.HasAccount e.requestedBy := by
      obtain h | ⟨user, extension, hpass, hby, h⟩ := extensions_act lib calendar jwt d a
      · rw [h]
        exact hd.extensions
      · rw [h]
        exact Table.forall_insertRow hd.extensions (hby ▸ huser user hpass)
    exact ExtensionStore.Knows.mono ⟨hb, hp, he⟩ fun id hid => hid.act a
  · refine ⟨?_, ?_, ?_⟩
    · rw [hbookings]
      exact fun _ h => absurd h List.not_mem_nil
    · rw [hpayments]
      exact fun _ h => absurd h List.not_mem_nil
    · rw [hextensions]
      exact fun _ h => absurd h List.not_mem_nil

/-! ## Payments are shown to the customers of their bookings -/

/-- The payer of every payment is the customer of the booking that it is for. -/
def Store.PaidByCustomers (store : Store) : Prop :=
  ∀ p ∈ store.payments, (store.bookings.map (·.customerId))[p.bookingId]? = some p.payerId

section Payers

variable {calendar : CalendarLib} {jwt : JwtLib} {d : Deployment} {a : Activity}
  {store : Store}

/-- Bookings keep their customers. -/
theorem Leaves.customers (h : Leaves calendar jwt d a store) :
    d.store.bookings.map (·.customerId) <+: store.bookings.map (·.customerId) := by
  have hmove : ∀ (id : BookingId) (status : BookingStatus),
      (d.store.bookings.updateById id (Booking.withStatus status)).map (·.customerId) =
        d.store.bookings.map (·.customerId) := by
    intro id status
    rw [Table.map_updateById_of_eq]
    exact fun _ => rfl
  cases h with
  | same | failed => exact List.prefix_rfl
  | created => exact ⟨_, (Table.map_insertRow ..).symm⟩
  | cancelled =>
      rw [Table.map_updateById_of_eq]
      exact fun _ => rfl
  | opened =>
      obtain h | h := bookings_withOpened ..
      · rw [h]
      · rw [h, hmove]
  | @settled _ _ _ _ _ _ _ _ moved =>
      cases moved with
      | none => exact List.prefix_rfl
      | some status => exact (hmove _ status).symm ▸ List.prefix_rfl
  | captured => rw [hmove]
  | completed | expired =>
      rw [Table.map_updateWhere_of_eq]
      exact fun _ => rfl

theorem Leaves.paidByCustomers (h : Leaves calendar jwt d a store)
    (hd : d.store.toStore.PaidByCustomers) : store.PaidByCustomers := by
  have hcustomers := h.customers
  have hold : ∀ p ∈ d.store.payments,
      (store.bookings.map (·.customerId))[p.bookingId]? = some p.payerId :=
    fun p hp => Table.getElem?_of_isPrefix hcustomers (hd p hp)
  cases h with
  | same | created | cancelled | completed | expired => exact hold
  | opened hpass hopens hb howner =>
      unfold Store.PaidByCustomers
      rw [payments_withOpened]
      refine Table.forall_insertRow hold ?_
      obtain ⟨hbooking, hpayer, -⟩ := openedPayment_parties ..
      rw [hbooking, hpayer]
      refine Table.getElem?_of_isPrefix hcustomers ?_
      rw [List.getElem?_map, hb, Option.map_some, howner]
  | settled hpass hsettles hp hf =>
      refine Table.forall_updateById hold _ fun p hp => ?_
      rw [hf.bookingId, hf.payerId]
      exact hp
  | captured => exact Table.forall_updateById hold _ fun p hp => hp
  | failed => exact Table.forall_updateWhere hold fun _ p _ hp => hp

end Payers

section Views

variable {calendar : CalendarLib} {jwt : JwtLib} {d : Deployment} {now : Time}
  {bearer : Option AccessToken} {around : Surroundings} {user : RequestUser}

/-- What a handler answers that passes the result of a service on. -/
theorem outcome_map_lift_eq_ok_iff {α : Type} {reply : α → BookingReply} {call : Service α}
    {store : ExtensionStore} {r : BookingReply} :
    (reply <$> ExtensionStore.lift call).outcome store = .ok r ↔
      ∃ a, call.outcome store.toStore = .ok a ∧ reply a = r := by
  unfold ServiceM.outcome
  rw [ServiceM.run_map]
  cases hcall : call.run store.toStore with
  | ok a store' =>
      have hrun : (ExtensionStore.lift call).run store =
          .ok a { store with toStore := store' } := by
        show ExtensionStore.lift call store = _
        rw [ExtensionStore.lift, hcall]
      simp [hrun]
  | error e store' =>
      have hrun : (ExtensionStore.lift call).run store =
          .error e { store with toStore := store' } := by
        show ExtensionStore.lift call store = _
        rw [ExtensionStore.lift, hcall]
      simp [hrun]

/-- Who passes the guards of an endpoint for some roles passes those of one for any role. -/
theorem letPass_nil {requiredRoles : List UserRole} {site : Site}
    (h : letPass jwt site now bearer requiredRoles = .ok user) :
    letPass jwt site now bearer [] = .ok user := by
  unfold letPass
  rw [(letPass_eq_ok h).1]
  rfl

/-- What a handler answers to somebody who has passed the guards. -/
theorem fst_serveBooking {endpoint : BookingEndpoint}
    (hpass : letPass jwt d.site now bearer endpoint.roles = .ok user) :
    (serveBooking calendar jwt d now bearer around endpoint).1 =
      (handleBooking calendar now around user endpoint).outcome d.store := by
  rw [serveBooking, hpass]

end Views

/-- **The views of a payment agree.**  To somebody who is let in as a customer, the status of a
payment is shown if and only if its booking is theirs; the history lists the same payments, as
long as there are no more than fifty; and a customer is shown the booking itself in the same
cases. -/
theorem payment_views_agree (lib : AuthLib) (calendar : CalendarLib) (jwt : JwtLib)
    {d : Deployment} (hpayments : d.store.payments = []) (as : List Activity) {now : Time}
    {bearer : Option AccessToken} {around : Surroundings} {user : RequestUser}
    (hpass : letPass jwt (deployedAfter lib calendar jwt d as).site now bearer [.customer] =
      .ok user) {id : PaymentId} {p : Payment}
    (hp : (deployedAfter lib calendar jwt d as).store.payments[id]? = some p) :
    let d' := deployedAfter lib calendar jwt d as
    let theirs := ∃ b, d'.store.bookings[p.bookingId]? = some b ∧ b.customerId = user.id
    ((serveBooking calendar jwt d' now bearer around (.getStatus id)).1 = .ok (.payment id p) ↔
        theirs) ∧
      ((d'.store.payments.selectWhere (·.payerId = user.id)).length ≤ 50 →
        ((∃ rows, (serveBooking calendar jwt d' now bearer around .getHistory).1 =
            .ok (.history rows) ∧ (id, p) ∈ rows) ↔ theirs)) ∧
      (user.role = .customer →
        ((∃ b, (serveBooking calendar jwt d' now bearer around (.findOne p.bookingId)).1 =
            .ok (.booking p.bookingId b)) ↔ theirs)) := by
  intro d' theirs
  have hpaid : d'.store.toStore.PaidByCustomers := by
    refine final_invariant (I := fun d : Deployment => d.store.toStore.PaidByCustomers)
      (fun d a hd => (leaves_act lib a).paidByCustomers hd) ?_ as
    unfold Store.PaidByCustomers
    rw [hpayments]
    exact fun _ h => absurd h List.not_mem_nil
  obtain ⟨b, hb, hcustomer⟩ : ∃ b, d'.store.bookings[p.bookingId]? = some b ∧
      b.customerId = p.payerId := by
    have hrow := hpaid p (List.mem_of_getElem? hp)
    rw [List.getElem?_map] at hrow
    exact Option.map_eq_some_iff.mp hrow
  have htheirs : theirs ↔ p.payerId = user.id := by
    constructor
    · rintro ⟨b', hb', hown⟩
      obtain rfl := Option.some.inj (hb.symm.trans hb')
      exact hcustomer.symm.trans hown
    · exact fun hpayer => ⟨b, hb, hcustomer.trans hpayer⟩
  have hany : letPass jwt d'.site now bearer [] = .ok user := letPass_nil hpass
  refine ⟨?_, fun hfew => ?_, fun hrole => ?_⟩
  · rw [fst_serveBooking hany, handleBooking, outcome_map_lift_eq_ok_iff,
      getPaymentStatus_outcome hp, htheirs]
    by_cases hpayer : p.payerId = user.id
    · simp [hpayer]
    · simp [hpayer]
  · rw [htheirs, fst_serveBooking hpass, handleBooking]
    simp only [outcome_map_lift_eq_ok_iff, BookingReply.history.injEq, exists_eq_right]
    rw [mem_getUserPayments_iff hfew]
    exact and_iff_right hp
  · rw [htheirs, fst_serveBooking hany, handleBooking]
    simp only [outcome_map_lift_eq_ok_iff, BookingReply.booking.injEq, true_and, exists_eq_right]
    have hfound : (findOne p.bookingId user.id user.role).outcome d'.store.toStore = _ :=
      findOne_outcome d'.store.toStore user.current hb
    rw [hfound, hcustomer]
    by_cases hpayer : p.payerId = user.id
    · simp [RequestUser.current, hpayer]
    · simp [RequestUser.current, hpayer, hrole]

/-! ## A run -/

section Examples

open Demo

/-- The booking that Jean makes and Adèle confirms. -/
theorem stays_never_begin_cash :
    (deployedAfter authLib isoDates jwtLib firstDay
      (jeanBooks ++ [adeleConfirms])).store.bookings.map (·.status) = [.confirmed] ∧
    (deployedAfter authLib isoDates jwtLib firstDay
      (jeanBooks ++ [adeleConfirms])).store.toStore.Unbegun ∧
    ∀ today, act authLib isoDates jwtLib
      (deployedAfter authLib isoDates jwtLib firstDay (jeanBooks ++ [adeleConfirms]))
        (.autoCompleteBookings today) =
      deployedAfter authLib isoDates jwtLib firstDay (jeanBooks ++ [adeleConfirms]) := by
  refine ⟨by decide +kernel, ?_⟩
  exact stays_never_begin authLib isoDates jwtLib rfl rfl (jeanBooks ++ [adeleConfirms])

theorem stored_ids_have_accounts_cash :
    (deployedAfter authLib isoDates jwtLib firstDay
      (jeanBooks ++ [adeleConfirms])).store.payments.map (fun p => (p.payerId, p.confirmedBy)) =
        [(1, some 0)] ∧
    (deployedAfter authLib isoDates jwtLib firstDay (jeanBooks ++ [adeleConfirms])).store.Knows
      (deployedAfter authLib isoDates jwtLib firstDay
        (jeanBooks ++ [adeleConfirms])).HasAccount := by
  refine ⟨by decide +kernel, ?_⟩
  exact stored_ids_have_accounts authLib isoDates jwtLib rfl rfl rfl (jeanBooks ++ [adeleConfirms])

/-- Jean looks at the payment. -/
theorem payment_views_agree_cash : ∃ user p,
    letPass jwtLib jeanHasBooked.site 4000 jeanBearer [.customer] = .ok user ∧
    jeanHasBooked.store.payments[0]? = some p ∧
    ((serveBooking isoDates jwtLib jeanHasBooked 4000 jeanBearer office (.getStatus 0)).1 =
        .ok (.payment 0 p) ↔
      ∃ b, jeanHasBooked.store.bookings[p.bookingId]? = some b ∧ b.customerId = user.id) := by
  have hpass : letPass jwtLib jeanHasBooked.site 4000 jeanBearer [.customer] =
      .ok ⟨1, jean.email, .customer, jean.firstName, jean.lastName, authLib.randomUUID 5⟩ := by
    decide +kernel
  have hbefore : jeanHasBooked.store.payments[0]?.isSome = true := by
    decide +kernel
  obtain ⟨p, hp⟩ := Option.isSome_iff_exists.mp hbefore
  exact ⟨_, p, hpass, hp, (payment_views_agree authLib isoDates jwtLib rfl jeanBooks hpass hp).1⟩

end Examples

end StayRide
