import StayRide.System.Deployment

/-!
# Who may change what

A booking and a payment are changed by requests of different people, by Stripe and by jobs.
For every run of the deployed program, whoever sends the requests and whatever tokens they
carry, a change is attributed to somebody who may make it.

* `payments_settled_by_authority`: a payment that is not what it was has been confirmed,
  rejected or refunded by an active administrator, or Stripe has reported on its intent.
* `bookings_changed_by_right`: a booking that is not what it was has been cancelled by its
  customer or by somebody who is no customer, has been paid for by its customer, has been
  moved with a payment of it by an administrator or by Stripe, or a job has found it due.

The second says no more than the code does: any owner and any concierge can cancel any
booking.
-/

namespace StayRide

open Lib Service

/-! ## Authority -/

section Authority

variable (jwt : JwtLib) (d : Deployment)

/-- An active administrator confirms, rejects or refunds this payment. -/
def AdminSettles (id : PaymentId) (a : Activity) : Prop :=
  ∃ now bearer around endpoint admin, a = .booking now bearer around endpoint ∧
    endpoint.settles = some id ∧
    letPass jwt d.site now bearer endpoint.roles = .ok admin ∧
    standingIn d.site.store.users admin.id = (.admin, true)

/-- Stripe reports on the intent of this payment. -/
def StripeReports (p : Payment) (a : Activity) : Prop :=
  ∃ now intent, p.stripePaymentId = some intent.id ∧
    (a = .stripeWebhook now (.paymentIntentSucceeded intent) ∨
      a = .stripeWebhook now (.paymentIntentPaymentFailed intent))

/-- What may change the booking `b` with this id. -/
inductive MayChange (id : BookingId) (b : Booking) : Activity → Prop
  /-- The customer of the booking cancels it, or anybody who is no customer. -/
  | cancel {now : Time} {bearer : Option AccessToken} {around : Surroundings}
      {reason : Option String} {user : RequestUser}
      (hpass : letPass jwt d.site now bearer [] = .ok user)
      (hright : user.id = b.customerId ∨
        (standingIn d.site.store.users user.id).1 ≠ .customer) :
      MayChange id b (.booking now bearer around (.cancel id reason))
  /-- The customer of the booking opens a payment. -/
  | pay {now : Time} {bearer : Option AccessToken} {around : Surroundings}
      {endpoint : BookingEndpoint} {method : PaymentMethod} {phone : Option String}
      {user : RequestUser} (hopens : endpoint.opens = some (id, method, phone))
      (hpass : letPass jwt d.site now bearer endpoint.roles = .ok user)
      (hright : user.id = b.customerId) :
      MayChange id b (.booking now bearer around endpoint)
  /-- An administrator settles a payment of the booking. -/
  | settle {a : Activity} {paymentId : PaymentId} {p : Payment}
      (hp : d.store.payments[paymentId]? = some p) (hbooking : p.bookingId = id)
      (hsettles : AdminSettles jwt d paymentId a) : MayChange id b a
  /-- Stripe has captured a payment of the booking. -/
  | captured {now : Time} {intent : PaymentIntent} {paymentId : PaymentId} {p : Payment}
      (hp : d.store.payments[paymentId]? = some p) (hbooking : p.bookingId = id)
      (hintent : p.stripePaymentId = some intent.id) :
      MayChange id b (.stripeWebhook now (.paymentIntentSucceeded intent))
  | over {today : Day} (hover : b.isOver today = true) :
      MayChange id b (.autoCompleteBookings today)
  | expired {now : Time} (hexpired : b.isExpired d.store.payments now id = true) :
      MayChange id b (.cancelExpiredPendingBookings now)

end Authority

/-! ## One activity -/

section Step

variable {calendar : CalendarLib} {jwt : JwtLib} {d : Deployment} {a : Activity}
  {store : Store}

/-- The endpoints that settle payments are for administrators. -/
theorem standingIn_of_settles {now : Time} {bearer : Option AccessToken}
    {endpoint : BookingEndpoint} {id : PaymentId} {admin : RequestUser}
    (hsettles : endpoint.settles = some id)
    (h : letPass jwt d.site now bearer endpoint.roles = .ok admin) :
    standingIn d.site.store.users admin.id = (.admin, true) := by
  have hroles : endpoint.roles = [.admin] := by
    cases endpoint with
    | confirm | reject | refund => rfl
    | create | findOne | cancel | extend | initiate | createStripeIntent | getStatus
    | getHistory => cases hsettles
  have hadmin : admin.role = .admin := by
    obtain hnone | hadmin | hmem := hroles ▸ (letPass_eq_ok h).2
    · cases hnone
    · exact hadmin
    · exact List.mem_singleton.mp hmem
  rw [standingIn_of_letPass h, hadmin]

/-- Only an administrator or Stripe changes a payment. -/
theorem Leaves.payment_changed (h : Leaves calendar jwt d a store) {id : PaymentId}
    {p : Payment} (hp : d.store.payments[id]? = some p) (hchange : store.payments[id]? ≠ some p) :
    AdminSettles jwt d id a ∨ StripeReports p a := by
  cases h with
  | same | created | cancelled | completed | expired => exact absurd hp hchange
  | opened =>
      rw [payments_withOpened] at hchange
      exact absurd (Table.getElem?_insertRow_of_some _ hp) hchange
  | settled hpass hsettles =>
      obtain rfl := Table.eq_of_updateById_ne hp hchange
      exact .inl ⟨_, _, _, _, _, rfl, hsettles, hpass, standingIn_of_settles hsettles hpass⟩
  | captured hrow hintent =>
      obtain rfl := Table.eq_of_updateById_ne hp hchange
      obtain rfl := Option.some.inj (hp.symm.trans hrow)
      exact .inr ⟨_, _, hintent, .inl rfl⟩
  | failed =>
      have hintent := Table.selected_of_updateWhere_ne hp hchange
      exact .inr ⟨_, _, of_decide_eq_true hintent, .inr rfl⟩

/-- A booking is changed by what may change it. -/
theorem Leaves.booking_changed (h : Leaves calendar jwt d a store) {id : BookingId}
    {b : Booking} (hb : d.store.bookings[id]? = some b)
    (hchange : store.bookings[id]? ≠ some b) : MayChange jwt d id b a := by
  cases h with
  | same | failed => exact absurd hb hchange
  | created => exact absurd (Table.getElem?_insertRow_of_some _ hb) hchange
  | @cancelled _ _ _ _ _ user _ hpass hrow hright =>
      obtain rfl := Table.eq_of_updateById_ne hb hchange
      obtain rfl := Option.some.inj (hb.symm.trans hrow)
      refine .cancel hpass ?_
      rw [standingIn_of_letPass hpass]
      by_cases hrole : user.role = .customer
      · exact .inl (hright hrole).symm
      · exact .inr hrole
  | opened hpass hopens hrow howner =>
      obtain hsame | hmoved := bookings_withOpened ..
      · rw [hsame] at hchange
        exact absurd hb hchange
      · rw [hmoved] at hchange
        obtain rfl := Table.eq_of_updateById_ne hb hchange
        obtain rfl := Option.some.inj (hb.symm.trans hrow)
        exact .pay hopens hpass howner.symm
  | @settled _ _ _ _ _ _ _ _ moved _ hpass hsettles hp =>
      cases moved with
      | none => exact absurd hb hchange
      | some status =>
          obtain rfl := Table.eq_of_updateById_ne hb hchange
          exact .settle hp rfl
            ⟨_, _, _, _, _, rfl, hsettles, hpass, standingIn_of_settles hsettles hpass⟩
  | captured hp hintent =>
      obtain rfl := Table.eq_of_updateById_ne hb hchange
      exact .captured hp rfl hintent
  | completed => exact .over (Table.selected_of_updateWhere_ne hb hchange)
  | expired => exact .expired (Table.selected_of_updateWhere_ne hb hchange)

end Step

/-! ## Whole runs -/

section Runs

variable (lib : AuthLib) (calendar : CalendarLib) (jwt : JwtLib) {d : Deployment}
  {as : List Activity}

/-- **Payments are settled by authority.**  If a payment is not what it was before the
activities `as`, then one of them was the first to change it, and this was a request of an
active administrator about this payment or a report of Stripe on its intent. -/
theorem payments_settled_by_authority {id : PaymentId} {p : Payment}
    (hp : d.store.payments[id]? = some p)
    (h : (deployedAfter lib calendar jwt d as).store.payments[id]? ≠ some p) :
    ∃ before a after, as = before ++ a :: after ∧
      (deployedAfter lib calendar jwt d before).store.payments[id]? = some p ∧
      (AdminSettles jwt (deployedAfter lib calendar jwt d before) id a ∨ StripeReports p a) := by
  obtain ⟨before, a, after, rfl, hsame, hchange⟩ :=
    exists_changing_step (fun d : Deployment => d.store.payments[id]?) (hp ▸ h)
  have hrow : (deployedAfter lib calendar jwt d before).store.payments[id]? = some p :=
    hsame.trans hp
  exact ⟨before, a, after, rfl, hrow,
    (leaves_act lib a).payment_changed hrow fun heq => hchange (heq.trans hrow.symm)⟩

/-- **Bookings are changed by right.** -/
theorem bookings_changed_by_right {id : BookingId} {b : Booking}
    (hb : d.store.bookings[id]? = some b)
    (h : (deployedAfter lib calendar jwt d as).store.bookings[id]? ≠ some b) :
    ∃ before a after, as = before ++ a :: after ∧
      (deployedAfter lib calendar jwt d before).store.bookings[id]? = some b ∧
      MayChange jwt (deployedAfter lib calendar jwt d before) id b a := by
  obtain ⟨before, a, after, rfl, hsame, hchange⟩ :=
    exists_changing_step (fun d : Deployment => d.store.bookings[id]?) (hb ▸ h)
  have hrow : (deployedAfter lib calendar jwt d before).store.bookings[id]? = some b :=
    hsame.trans hb
  exact ⟨before, a, after, rfl, hrow,
    (leaves_act lib a).booking_changed hrow fun heq => hchange (heq.trans hrow.symm)⟩

end Runs

/-! ## A run -/

namespace Demo

/-- The program with the administrator Adèle. -/
def firstDay : Deployment :=
  ⟨⟨AuthStore.start [adele], []⟩, ⟨Store.start [], [], []⟩⟩

def adeleLogsIn : ApiRequest :=
  ⟨0, none, .anyone (.login ⟨"adele@example.cm", jean.password⟩ none)⟩

/-- The token that Jean gets with the registration. -/
def jeanBearer : Option AccessToken :=
  (signedIn (serve authLib jwtLib (siteAfter authLib jwtLib firstDay.site [adeleLogsIn])
    jeanRegisters).1).head?

def office : Surroundings :=
  ⟨fun _ => some true, .notConfigured, "SR"⟩

/-- Jean books the house and is going to pay in cash. -/
def jeanBooks : List Activity :=
  [.account adeleLogsIn, .account jeanRegisters,
    .booking 1000 jeanBearer office (.create (villa "2025-07-01" "2025-07-05")),
    .booking 2000 jeanBearer office (.initiate 0 .cash none)]

/-- Adèle confirms the cash. -/
def adeleConfirms : Activity :=
  .booking 3000 (some adeleToken) office
    (.confirm 0 { amountReceived := 206800, reference := "SR" })

def jeanHasBooked : Deployment :=
  deployedAfter authLib isoDates jwtLib firstDay jeanBooks

end Demo

section Examples

open Demo

theorem payments_settled_by_authority_cash : ∃ p,
    jeanHasBooked.store.payments[0]? = some p ∧
    (deployedAfter authLib isoDates jwtLib jeanHasBooked [adeleConfirms]).store.payments[0]? ≠
      some p ∧
    ∃ before a after, [adeleConfirms] = before ++ a :: after ∧
      (deployedAfter authLib isoDates jwtLib jeanHasBooked before).store.payments[0]? = some p ∧
      (AdminSettles jwtLib (deployedAfter authLib isoDates jwtLib jeanHasBooked before) 0 a ∨
        StripeReports p a) := by
  have hbefore : jeanHasBooked.store.payments[0]?.map (·.status) = some .pending := by
    decide +kernel
  have hafter : (deployedAfter authLib isoDates jwtLib jeanHasBooked
      [adeleConfirms]).store.payments[0]?.map (·.status) = some .paid := by
    decide +kernel
  obtain ⟨p, hp, hpending⟩ := Option.map_eq_some_iff.mp hbefore
  have hchange : (deployedAfter authLib isoDates jwtLib jeanHasBooked
      [adeleConfirms]).store.payments[0]? ≠ some p := by
    intro heq
    rw [heq, Option.map_some, hpending] at hafter
    cases hafter
  exact ⟨p, hp, hchange, payments_settled_by_authority authLib isoDates jwtLib hp hchange⟩

theorem bookings_changed_by_right_cash : ∃ b,
    jeanHasBooked.store.bookings[0]? = some b ∧
    (deployedAfter authLib isoDates jwtLib jeanHasBooked [adeleConfirms]).store.bookings[0]? ≠
      some b ∧
    ∃ before a after, [adeleConfirms] = before ++ a :: after ∧
      (deployedAfter authLib isoDates jwtLib jeanHasBooked before).store.bookings[0]? = some b ∧
      MayChange jwtLib (deployedAfter authLib isoDates jwtLib jeanHasBooked before) 0 b a := by
  have hbefore : jeanHasBooked.store.bookings[0]?.map (·.status) = some .paymentPending := by
    decide +kernel
  have hafter : (deployedAfter authLib isoDates jwtLib jeanHasBooked
      [adeleConfirms]).store.bookings[0]?.map (·.status) = some .confirmed := by
    decide +kernel
  obtain ⟨b, hb, hpending⟩ := Option.map_eq_some_iff.mp hbefore
  have hchange : (deployedAfter authLib isoDates jwtLib jeanHasBooked
      [adeleConfirms]).store.bookings[0]? ≠ some b := by
    intro heq
    rw [heq, Option.map_some, hpending] at hafter
    cases hafter
  exact ⟨b, hb, hchange, bookings_changed_by_right authLib isoDates jwtLib hb hchange⟩

end Examples

end StayRide
