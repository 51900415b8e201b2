import StayRide.Payments.RefundLedger

/-!
# Deliveries of webhooks

Stripe delivers the events of a `PaymentIntent` at least once and in no
particular order.  For an intent that was captured, the end should not depend on
that: the payment is paid, the captured amount recorded and the booking
confirmed, whatever deliveries came and in which order.

The module follows one payment through a list of deliveries about its intent.
`Settlement` is what the deliveries are about (the statuses of payment and
booking and the amount recorded) and `Settlement.deliver` what one delivery does
to it.  `shows_exec` proves that the webhook handlers do exactly that to the store,
so that a list of deliveries is a fold.  The amount and the booking come out right
in any order, but the status of the payment is that of the last delivery:
`deliveries_settle_iff`.
-/

namespace StayRide

open Lib

variable (lib : DateLib)

/-! ## Deliveries and what they do -/

/-- A delivery of an event of one intent.  A failed intent carries an amount too,
which nobody reads. -/
inductive Delivery
  | succeeded (now : Time)
  | failed (now : Time) (amountReceived : ℕ)

def Delivery.isSuccess : Delivery → Bool
  | .succeeded _ => true
  | .failed .. => false

/-- The request that delivers the event. -/
def Delivery.request (intent : PaymentIntent) : Delivery → Request
  | .succeeded now => ⟨now, .handleStripeWebhook (.paymentIntentSucceeded intent)⟩
  | .failed now amountReceived =>
      ⟨now, .handleStripeWebhook (.paymentIntentPaymentFailed ⟨intent.id, amountReceived⟩)⟩

/-- The store after the deliveries. -/
def afterDeliveries (store : Store) (intent : PaymentIntent) (ds : List Delivery) : Store :=
  Final (exec lib) store (ds.map (Delivery.request intent))

/-- What the events of an intent decide. -/
structure Settlement where
  payment : PaymentStatus
  received : Amount
  booking : BookingStatus

/-- A success settles everything, unless the database refuses the amount; a failure
changes the status of the payment. -/
def Settlement.deliver (captured : Option Amount) (s : Settlement) (d : Delivery) : Settlement :=
  if d.isSuccess then
    match captured with
    | some amount => ⟨.paid, amount, .confirmed⟩
    | none => s
  else { s with payment := .failed }

/-- The amount of an intent, as the column stores it. -/
def PaymentIntent.column (intent : PaymentIntent) : Option Amount :=
  Decimal.ofRat (intent.amountReceived / 100)

/-- The store shows this settlement for the payment and the booking of an intent. -/
structure Store.Shows (store : Store) (intentId : String) (paymentId : PaymentId)
    (bookingId : BookingId) (s : Settlement) : Prop where
  payment : ∃ p, store.payments.findWhere (·.stripePaymentId = some intentId) =
      some (paymentId, p) ∧
    p.bookingId = bookingId ∧ p.status = s.payment ∧ p.amountReceived = s.received
  booking : store.bookings[bookingId]?.map Booking.status = some s.booking

/-! ## The handlers refine deliveries -/

section Refinement

variable {store : Store} {intent : PaymentIntent} {paymentId : PaymentId}
  {bookingId : BookingId} {s : Settlement}

private theorem shows_success (h : store.Shows intent.id paymentId bookingId s) (now : Time) :
    (exec lib store (Delivery.request intent (.succeeded now))).Shows intent.id paymentId
      bookingId (s.deliver intent.column (.succeeded now)) := by
  obtain ⟨⟨p, hfind, hid, hstatus, hreceived⟩, hbooking⟩ := h
  simp only [Delivery.request, exec, handleStripeWebhook_storeAfter,
    handleStripeSuccess_storeAfter, capturedPayment, hfind, Settlement.deliver,
    Delivery.isSuccess, if_true, PaymentIntent.column]
  cases (Decimal.ofRat (intent.amountReceived / 100) : Option Amount) with
  | none => exact ⟨⟨p, hfind, hid, hstatus, hreceived⟩, hbooking⟩
  | some amount =>
      refine ⟨⟨p.asCaptured amount now, ?_, hid, rfl, rfl⟩, ?_⟩
      · simp only [Option.map_some]
        rw [Table.updateById_eq_updateWhere,
          Table.findWhere_updateWhere (f := Payment.asCaptured amount now) (fun _ => rfl) hfind,
          if_pos (by simp)]
      · simp only [Option.map_some, hid, Table.getElem?_updateById]
        cases hb : store.bookings[bookingId]? with
        | none => simp [hb] at hbooking
        | some b => rfl

private theorem shows_failure (h : store.Shows intent.id paymentId bookingId s) (now : Time)
    (amountReceived : ℕ) :
    (exec lib store (Delivery.request intent (.failed now amountReceived))).Shows intent.id
      paymentId bookingId (s.deliver intent.column (.failed now amountReceived)) := by
  obtain ⟨⟨p, hfind, hid, hstatus, hreceived⟩, hbooking⟩ := h
  have hintent := (Table.findWhere_eq_some hfind).2
  refine ⟨⟨p.asFailed, ?_, hid, rfl, hreceived⟩, hbooking⟩
  show (store.payments.updateWhere (fun _ q => q.stripePaymentId = some intent.id)
    Payment.asFailed).findWhere _ = _
  rw [Table.findWhere_updateWhere (f := Payment.asFailed) (fun _ => rfl) hfind, if_pos hintent]

/-- **Refinement.**  A delivery changes what the store shows as it changes the
settlement. -/
theorem shows_exec (h : store.Shows intent.id paymentId bookingId s) (d : Delivery) :
    (exec lib store (d.request intent)).Shows intent.id paymentId bookingId
      (s.deliver intent.column d) := by
  cases d with
  | succeeded now => exact shows_success lib h now
  | failed now amountReceived => exact shows_failure lib h now amountReceived

/-- A list of deliveries is a fold. -/
theorem shows_afterDeliveries (h : store.Shows intent.id paymentId bookingId s)
    (ds : List Delivery) :
    (afterDeliveries lib store intent ds).Shows intent.id paymentId bookingId
      (ds.foldl (Settlement.deliver intent.column) s) := by
  induction ds generalizing store s with
  | nil => exact h
  | cons d ds ih => exact ih (shows_exec lib h d)

end Refinement

/-! ## Folds of deliveries -/

/-- The last delivery is a success. -/
def EndsInSuccess (ds : List Delivery) : Prop :=
  ∃ d, ds.getLast? = some d ∧ d.isSuccess = true

theorem endsInSuccess_concat {ds : List Delivery} {d : Delivery} :
    EndsInSuccess (ds ++ [d]) ↔ d.isSuccess = true := by
  simp [EndsInSuccess]

section Folds

variable {ds : List Delivery} {s : Settlement}

/-- A success among the deliveries of an amount that the column holds: amount and
booking are settled in any order, the payment is what the last delivery says. -/
theorem foldl_deliver_some (amount : Amount) (h : ∃ d ∈ ds, d.isSuccess = true) :
    ((ds.foldl (Settlement.deliver (some amount)) s).received = amount ∧
      (ds.foldl (Settlement.deliver (some amount)) s).booking = .confirmed) ∧
    (EndsInSuccess ds →
      (ds.foldl (Settlement.deliver (some amount)) s).payment = .paid) ∧
    (¬ EndsInSuccess ds →
      (ds.foldl (Settlement.deliver (some amount)) s).payment = .failed) := by
  induction ds using List.reverseRecOn with
  | nil => simp at h
  | append_singleton ds d ih =>
      rw [endsInSuccess_concat, List.foldl_concat]
      cases hd : d.isSuccess with
      | true =>
          rw [Settlement.deliver, if_pos hd]
          exact ⟨⟨rfl, rfl⟩, fun _ => rfl, fun hnot => absurd rfl hnot⟩
      | false =>
          -- The success came earlier; the failure leaves amount and booking alone.
          have hearlier : ∃ d ∈ ds, d.isSuccess = true := by
            obtain ⟨d', hmem, hsuccess⟩ := h
            rcases List.mem_append.mp hmem with hold | hlast
            · exact ⟨d', hold, hsuccess⟩
            · rw [List.mem_singleton.mp hlast, hd] at hsuccess
              cases hsuccess
          rw [Settlement.deliver, if_neg (by simp [hd])]
          exact ⟨(ih hearlier).1, fun hend => by simp at hend, fun _ => rfl⟩

/-- When the database refuses the amount, only failures leave a trace. -/
theorem foldl_deliver_none :
    (ds.foldl (Settlement.deliver none) s).booking = s.booking ∧
    (ds.foldl (Settlement.deliver none) s).payment =
      if ds.any (fun d => !d.isSuccess) then .failed else s.payment := by
  induction ds using List.reverseRecOn with
  | nil => exact ⟨rfl, rfl⟩
  | append_singleton ds d ih =>
      rw [List.foldl_concat]
      cases hd : d.isSuccess with
      | true => simpa [Settlement.deliver, hd] using ih
      | false => simpa [Settlement.deliver, hd] using ih.1

end Folds

/-- The amount of an intent fits its column when it has at most twelve digits. -/
theorem PaymentIntent.column_eq_none_iff (intent : PaymentIntent) :
    intent.column = none ↔ 10 ^ 12 ≤ intent.amountReceived := by
  have hunits : (intent.amountReceived / 100 : ℚ) * 10 ^ 2 = (intent.amountReceived : ℤ) := by
    push_cast
    ring
  rw [PaymentIntent.column, Decimal.ofRat_eq_none_iff, hunits, roundAway_intCast, Nat.abs_cast]
  exact_mod_cast Iff.rfl

/-! ## Where the deliveries end -/

/-- A Stripe payment that waits for its intent, with its booking waiting for it. -/
structure AwaitsIntent (store : Store) (intentId : String) (paymentId : PaymentId)
    (payment : Payment) : Prop where
  found : store.payments.findWhere (·.stripePaymentId = some intentId) =
    some (paymentId, payment)
  method : payment.method = .stripe
  pending : payment.status = .pending
  booking : store.bookings[payment.bookingId]?.map Booking.status = some .pending

/-- The payment is paid with the amount of the intent, and its booking confirmed. -/
def Captured (store : Store) (paymentId : PaymentId) (bookingId : BookingId)
    (intent : PaymentIntent) : Prop :=
  (∃ p, store.payments[paymentId]? = some p ∧ p.status = .paid ∧
    p.amountReceived.toRat = intent.amountReceived / 100) ∧
  store.bookings[bookingId]?.map Booking.status = some .confirmed

/-- The statuses of a payment and of a booking. -/
def statuses (store : Store) (paymentId : PaymentId) (bookingId : BookingId) :
    Option PaymentStatus × Option BookingStatus :=
  (store.payments[paymentId]?.map Payment.status, store.bookings[bookingId]?.map Booking.status)

/-- The same events are delivered, each any number of times. -/
def SameEvents (ds ds' : List Delivery) : Prop :=
  ∀ kind : Bool, (∃ d ∈ ds, d.isSuccess = kind) ↔ ∃ d ∈ ds', d.isSuccess = kind

private theorem Store.Shows.statuses_eq {store : Store} {intentId : String}
    {paymentId : PaymentId} {bookingId : BookingId} {s : Settlement}
    (h : store.Shows intentId paymentId bookingId s) :
    statuses store paymentId bookingId = (some s.payment, some s.booking) := by
  obtain ⟨⟨p, hfind, -, hstatus, -⟩, hbooking⟩ := h
  rw [statuses, (Table.findWhere_eq_some hfind).1, Option.map_some, hstatus, hbooking]

private theorem Store.Shows.captured_iff {store : Store} {intent : PaymentIntent}
    {paymentId : PaymentId} {bookingId : BookingId} {s : Settlement}
    (h : store.Shows intent.id paymentId bookingId s) :
    Captured store paymentId bookingId intent ↔
      s.payment = .paid ∧ s.received.toRat = intent.amountReceived / 100 ∧
        s.booking = .confirmed := by
  obtain ⟨⟨p, hfind, -, hstatus, hreceived⟩, hbooking⟩ := h
  have hrow := (Table.findWhere_eq_some hfind).1
  simp only [Captured, hrow, hbooking, Option.some.injEq, exists_eq_left', hstatus, hreceived,
    and_assoc]

/-- **Where deliveries end.**  A Stripe payment and its booking are pending, and the
deliveries about its intent contain a success.  Then the payment ends as paid with
the amount of the intent and the booking as confirmed if and only if the last
delivery is a success and the amount fits its column.  Two such lists of the same
events end in the same statuses if and only if, the amount fitting, both or neither
end in a success. -/
theorem deliveries_settle_iff {store : Store} {intent : PaymentIntent} {paymentId : PaymentId}
    {payment : Payment} (h : AwaitsIntent store intent.id paymentId payment)
    {ds : List Delivery} (hds : ∃ d ∈ ds, d.isSuccess = true) :
    (Captured (afterDeliveries lib store intent ds) paymentId payment.bookingId intent ↔
      EndsInSuccess ds ∧ intent.amountReceived < 10 ^ 12) ∧
    ∀ ds' : List Delivery, (∃ d ∈ ds', d.isSuccess = true) → SameEvents ds ds' →
      (statuses (afterDeliveries lib store intent ds) paymentId payment.bookingId =
          statuses (afterDeliveries lib store intent ds') paymentId payment.bookingId ↔
        (intent.amountReceived < 10 ^ 12 → (EndsInSuccess ds ↔ EndsInSuccess ds'))) := by
  have hstart : store.Shows intent.id paymentId payment.bookingId
      ⟨.pending, payment.amountReceived, .pending⟩ :=
    ⟨⟨payment, h.found, rfl, h.pending, rfl⟩, h.booking⟩
  have hshows := shows_afterDeliveries lib hstart
  cases hcolumn : intent.column with
  | none =>
      have hlarge : ¬ intent.amountReceived < 10 ^ 12 :=
        not_lt.mpr (intent.column_eq_none_iff.mp hcolumn)
      simp only [hcolumn] at hshows
      refine ⟨iff_of_false ?_ (fun hend => hlarge hend.2), fun ds' hds' hsame => ?_⟩
      · -- The booking never leaves its status.
        rw [(hshows ds).captured_iff, foldl_deliver_none.1]
        rintro ⟨-, -, hconfirmed⟩
        cases hconfirmed
      · refine iff_of_true ?_ (fun hsmall => absurd hsmall hlarge)
        have hany : ds.any (fun d => !d.isSuccess) = ds'.any (fun d => !d.isSuccess) := by
          rw [Bool.eq_iff_iff, List.any_eq_true, List.any_eq_true]
          simpa using hsame false
        rw [(hshows ds).statuses_eq, (hshows ds').statuses_eq, foldl_deliver_none.1,
          foldl_deliver_none.2, foldl_deliver_none.1, foldl_deliver_none.2, hany]
  | some amount =>
      have hsmall : intent.amountReceived < 10 ^ 12 := by
        rw [← not_le, ← intent.column_eq_none_iff, hcolumn]
        exact Option.some_ne_none amount
      have hvalue : amount.toRat = intent.amountReceived / 100 :=
        Decimal.toRat_eq_of_scale (n := intent.amountReceived) (by push_cast; ring) hcolumn
      simp only [hcolumn] at hshows
      obtain ⟨⟨hreceived, hbooking⟩, hpaid, hfailed⟩ := foldl_deliver_some amount
        (s := ⟨.pending, payment.amountReceived, .pending⟩) hds
      refine ⟨?_, fun ds' hds' _ => ?_⟩
      · rw [(hshows ds).captured_iff, hreceived, hbooking, and_iff_left ⟨hvalue, rfl⟩,
          and_iff_left hsmall]
        refine ⟨fun hstatus => ?_, hpaid⟩
        by_contra hend
        rw [hfailed hend] at hstatus
        cases hstatus
      · obtain ⟨⟨-, hbooking'⟩, hpaid', hfailed'⟩ := foldl_deliver_some amount
          (s := ⟨.pending, payment.amountReceived, .pending⟩) hds'
        rw [(hshows ds).statuses_eq, (hshows ds').statuses_eq, hbooking, hbooking',
          forall_prop_of_true hsmall, Prod.mk.injEq, and_iff_left rfl, Option.some.injEq]
        by_cases hend : EndsInSuccess ds <;> by_cases hend' : EndsInSuccess ds'
        · simp [hpaid hend, hpaid' hend', hend, hend']
        · simp [hpaid hend, hfailed' hend', hend, hend']
        · simp [hfailed hend, hpaid' hend', hend, hend']
        · simp [hfailed hend, hfailed' hend', hend, hend']

namespace Demo

/-- A customer books and opens a payment by card. -/
def byCard : Store :=
  Final (exec dates) (Store.start [])
    [⟨0, .create (villa "2025-07-01" "2025-07-05") 1⟩,
      ⟨1, .initiatePayment (fun _ => some true) (.created "pi_1") 0 .stripe 1 none "SR"⟩]

/-- The intent of that payment, captured in full. -/
def intent : PaymentIntent := ⟨"pi_1", 20680000⟩

/-- The columns of the payment that decide what the deliveries do. -/
private theorem byCard_awaits : ∃ payment, AwaitsIntent byCard "pi_1" 0 payment ∧
    payment.bookingId = 0 := by
  have hfound : (byCard.payments.findWhere (·.stripePaymentId = some "pi_1")).map
      (fun found => (found.1, found.2.method, found.2.status, found.2.bookingId)) =
        some (0, .stripe, .pending, 0) := by
    decide +kernel
  have hbooking : byCard.bookings[0]?.map Booking.status = some .pending := by decide +kernel
  obtain ⟨⟨id, payment⟩, hfind, hcolumns⟩ := Option.map_eq_some_iff.mp hfound
  simp only [Prod.mk.injEq] at hcolumns
  obtain ⟨rfl, hmethod, hstatus, hid⟩ := hcolumns
  exact ⟨payment, ⟨hfind, hmethod, hstatus, hid ▸ hbooking⟩, hid⟩

end Demo

/-- The card is declined at first, and a second attempt succeeds. -/
theorem deliveries_settle_iff_retry :
    ∃ payment, AwaitsIntent Demo.byCard Demo.intent.id 0 payment ∧
      (Captured (afterDeliveries Demo.dates Demo.byCard Demo.intent
          [.failed 2 0, .succeeded 3, .succeeded 4]) 0 payment.bookingId Demo.intent ↔
        EndsInSuccess [.failed 2 0, .succeeded 3, .succeeded 4] ∧
          Demo.intent.amountReceived < 10 ^ 12) := by
  obtain ⟨payment, hawaits, -⟩ := Demo.byCard_awaits
  exact ⟨payment, hawaits, (deliveries_settle_iff Demo.dates hawaits
    ⟨.succeeded 3, by simp, rfl⟩).1⟩

/-- **A failure that is delivered late** undoes the success: the customer has paid, the
booking is confirmed and the payment failed. -/
theorem lateFailure_unsettles :
    ∃ payment, AwaitsIntent Demo.byCard Demo.intent.id 0 payment ∧
      (∃ d ∈ [Delivery.succeeded 2, .failed 3 0], d.isSuccess = true) ∧
      ¬ Captured (afterDeliveries Demo.dates Demo.byCard Demo.intent
        [.succeeded 2, .failed 3 0]) 0 payment.bookingId Demo.intent := by
  obtain ⟨payment, hawaits, hid⟩ := Demo.byCard_awaits
  refine ⟨payment, hawaits, ⟨.succeeded 2, by simp, rfl⟩, ?_⟩
  have hstatuses : statuses (afterDeliveries Demo.dates Demo.byCard Demo.intent
      [.succeeded 2, .failed 3 0]) 0 0 = (some .failed, some .confirmed) := by
    decide +kernel
  rintro ⟨⟨p, hp, hpaid, -⟩, -⟩
  have hfailed := congrArg Prod.fst hstatuses
  rw [statuses, hp, Option.map_some, Option.some.injEq, hpaid] at hfailed
  cases hfailed

end StayRide
