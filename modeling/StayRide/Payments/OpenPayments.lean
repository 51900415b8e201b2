import StayRide.Payments.RefundLedger

/-!
# The payments of one booking

Two invariants that tie the payments of a booking together.

* A booking should have at most one *live* payment: created, pending, partially
  paid or paid.  `initiatePayment` means to ensure this, but looks for a pending
  payment only, and a confirmation or a captured intent brings a failed or refunded
  payment back next to a newer one.  `oneLivePayment_along_iff` says which
  histories keep the invariant.
* A booking that waits for its payment should have a payment *in progress*, since
  no job ever cancels it.  A rejection and a failed intent close a payment without
  looking at its booking.  `noStuckReservation_along_iff` says which histories keep
  this invariant: those that close no payment which is the only one in progress of a
  booking that waits.
-/

namespace StayRide

open Lib

variable (lib : DateLib)

/-! ## One live payment -/

/-- The statuses of a payment that money is, or may come, behind. -/
def PaymentStatus.isLive : PaymentStatus → Bool
  | .created | .pending | .partiallyPaid | .paid => true
  | _ => false

/-- Two payments are not live payments of one booking. -/
def Payment.NotBothLive (p q : Payment) : Prop :=
  p.bookingId = q.bookingId → ¬ (p.status.isLive = true ∧ q.status.isLive = true)

theorem Payment.NotBothLive.symm (p q : Payment) (h : p.NotBothLive q) : q.NotBothLive p :=
  fun hid hlive => h hid.symm hlive.symm

/-- No booking has two live payments. -/
def OneLivePayment (payments : Table Payment) : Prop :=
  Table.PairwiseRows Payment.NotBothLive payments

/-- None of the payments of the booking whose keys satisfy `sel` is live. -/
def NoneLive (payments : Table Payment) (sel : PaymentId → Prop) (bookingId : BookingId) :
    Prop :=
  ∀ (id : PaymentId) (q : Payment), payments[id]? = some q → sel id →
    q.bookingId = bookingId → q.status.isLive = false

/-- The condition on a call: it opens, confirms or captures a payment only where no
other payment of the booking is live. -/
def OpensAlone (store : Store) (r : Request) : Prop :=
  match r.call with
  | .initiatePayment settings _ bookingId method customerId _ _ =>
      payableBooking store settings bookingId method customerId ≠ none →
        NoneLive store.payments (fun _ => True) bookingId
  | .confirmManual paymentId _ data =>
      ∀ payment amount, confirmablePayment store paymentId data = some (payment, amount) →
        NoneLive store.payments (· ≠ paymentId) payment.bookingId
  | .handleStripeWebhook (.paymentIntentSucceeded intent) =>
      ∀ paymentId payment amount,
        capturedPayment store intent = some (paymentId, payment, amount) →
          NoneLive store.payments (· ≠ paymentId) payment.bookingId
  | _ => True

section Live

variable {payments : Table Payment}

/-- A payment that becomes live must be the only one. -/
private theorem oneLive_update_iff (h : OneLivePayment payments) {paymentId : PaymentId}
    {p : Payment} (hp : payments[paymentId]? = some p) {f : Payment → Payment}
    (hid : (f p).bookingId = p.bookingId) (hlive : (f p).status.isLive = true) :
    OneLivePayment (payments.updateById paymentId f) ↔
      NoneLive payments (· ≠ paymentId) p.bookingId := by
  rw [OneLivePayment, Table.PairwiseRows.updateById_iff Payment.NotBothLive.symm h]
  constructor
  · intro hrow i q hq hi hbooking
    refine Bool.of_not_eq_true fun hq' => ?_
    exact hrow p hp i q hi hq (hid.trans hbooking.symm) ⟨hlive, hq'⟩
  · intro hnone row hrow i q hi hq hbooking hboth
    obtain rfl : p = row := Option.some.inj (hp.symm.trans hrow)
    have hdead := hnone i q hq hi (hbooking.symm.trans hid)
    rw [hboth.2] at hdead
    cases hdead

/-- A payment that does not become live disturbs nobody. -/
private theorem oneLive_update (h : OneLivePayment payments) (paymentId : PaymentId)
    {f : Payment → Payment} (hdead : ∀ p, (f p).status.isLive = false) :
    OneLivePayment (payments.updateById paymentId f) := by
  refine (Table.PairwiseRows.updateById_iff Payment.NotBothLive.symm h paymentId f).mpr ?_
  intro p _ i q _ _ _ hboth
  rw [hdead p] at hboth
  cases hboth.1

private theorem oneLive_insert_iff (h : OneLivePayment payments) {row : Payment}
    (hlive : row.status.isLive = true) :
    OneLivePayment (payments.insertRow row) ↔
      NoneLive payments (fun _ => True) row.bookingId := by
  rw [OneLivePayment, Table.PairwiseRows.insertRow_iff Payment.NotBothLive.symm h]
  constructor
  · intro hrow i q hq _ hbooking
    exact Bool.of_not_eq_true fun hq' => hrow i q hq hbooking.symm ⟨hlive, hq'⟩
  · intro hnone i q hq hbooking hboth
    have hdead := hnone i q hq trivial hbooking.symm
    rw [hboth.2] at hdead
    cases hdead

/-- Failing payments disturbs nobody. -/
private theorem oneLive_asFailed (h : OneLivePayment payments)
    (sel : PaymentId → Payment → Bool) :
    OneLivePayment (payments.updateWhere sel Payment.asFailed) := by
  refine Table.PairwiseRows.updateWhere h sel Payment.asFailed fun i j p q hpq => ?_
  cases sel i p with
  | true =>
      rintro - ⟨hlive, -⟩
      cases hlive
  | false =>
      cases sel j q with
      | true =>
          rintro - ⟨-, hlive⟩
          cases hlive
      | false => exact hpq

end Live

/-- **One call** keeps at most one live payment per booking exactly when it opens
alone. -/
theorem oneLivePayment_exec_iff {store : Store} (h : OneLivePayment store.payments)
    (r : Request) : OneLivePayment (exec lib store r).payments ↔ OpensAlone store r := by
  rw [exec_payments]
  obtain ⟨now, call⟩ := r
  cases call with
  | initiatePayment settings stripe bookingId method customerId phone reference =>
      simp only [paymentEffectOf, OpensAlone]
      cases payableBooking store settings bookingId method customerId with
      | none => exact iff_of_true h (fun hne => absurd rfl hne)
      | some booking =>
          obtain ⟨hid, -, hstatus⟩ := openedPayment_eq stripe bookingId booking method
            customerId phone reference now
          have hlive : (openedPayment stripe bookingId booking method customerId phone
              reference now).status.isLive = true := by
            rcases hstatus with hs | hs <;> rw [hs] <;> rfl
          rw [forall_prop_of_true (Option.some_ne_none booking), PaymentEffect.apply,
            oneLive_insert_iff h hlive, hid]
  | confirmManual paymentId adminId data =>
      simp only [paymentEffectOf, OpensAlone]
      cases hc : confirmablePayment store paymentId data with
      | none => exact iff_of_true h (fun _ _ hfound => by cases hfound)
      | some found =>
          obtain ⟨payment, amount⟩ := found
          obtain ⟨hp, -, -⟩ := confirmablePayment_eq_some hc
          simp only [PaymentEffect.apply, Option.some.injEq, Prod.mk.injEq]
          rw [oneLive_update_iff h hp rfl (by simp only [Payment.asConfirmed]; split <;> rfl)]
          constructor
          · rintro hnone _ _ ⟨rfl, rfl⟩
            exact hnone
          · intro hnone
            exact hnone payment amount ⟨rfl, rfl⟩
  | handleStripeWebhook event =>
      cases event with
      | paymentIntentSucceeded intent =>
          simp only [paymentEffectOf, OpensAlone]
          cases hc : capturedPayment store intent with
          | none => exact iff_of_true h (fun _ _ _ hfound => by cases hfound)
          | some found =>
              obtain ⟨paymentId, payment, amount⟩ := found
              obtain ⟨hp, -, -⟩ := capturedPayment_eq_some hc
              simp only [PaymentEffect.apply, Option.some.injEq, Prod.mk.injEq]
              rw [oneLive_update_iff h hp rfl rfl]
              constructor
              · rintro hnone _ _ _ ⟨rfl, rfl, rfl⟩
                exact hnone
              · intro hnone
                exact hnone paymentId payment amount ⟨rfl, rfl, rfl⟩
      | paymentIntentPaymentFailed intent => exact iff_of_true (oneLive_asFailed h _) trivial
      | invalidSignature | chargeRefunded | otherType => exact iff_of_true h trivial
  | rejectPayment paymentId adminId reason =>
      exact iff_of_true (oneLive_update h paymentId fun _ => rfl) trivial
  | processRefund stripe paymentId adminId amount =>
      simp only [paymentEffectOf]
      refine iff_of_true ?_ trivial
      cases refundablePayment store stripe paymentId amount with
      | none => exact h
      | some found => exact oneLive_update h paymentId fun _ => rfl
  | create | cancel | complete | assignConcierge | startCheckin | collectDeposit
  | confirmCheckin | startCheckout | confirmCheckout | autoCompleteBookings
  | cancelExpiredPendingBookings => exact iff_of_true h trivial

/-- **Which histories keep at most one live payment per booking.**  From the empty
tables, no state of a history has two live payments of one booking if and only if
every call of the history opens alone. -/
theorem oneLivePayment_along_iff (assignments : Table ConciergeAssignment)
    (rs : List Request) :
    Along (exec lib) (fun s => OneLivePayment s.payments) (Store.start assignments) rs ↔
      Guarded (exec lib) OpensAlone (Store.start assignments) rs := by
  refine along_iff_guarded (J := fun _ => True)
    (P := fun s : Store => OneLivePayment s.payments) (fun _ _ _ => trivial)
    (fun s r _ hs => oneLivePayment_exec_iff lib hs r) trivial ?_ rs
  exact Table.pairwiseRows_nil Payment.NotBothLive

/-- Stripe is down when a customer opens a payment by card; they try again in cash. -/
def Demo.secondAttempt : List Request :=
  [⟨0, .create (Demo.villa "2025-07-01" "2025-07-05") 1⟩,
    ⟨1, .initiatePayment (fun _ => some true) .rejected 0 .stripe 1 none "SR"⟩,
    ⟨2, Demo.payCash 0 1⟩]

/-- **The second attempt opens a second payment**: the first one, which threw, is still
there as created. -/
theorem secondAttempt_two_live :
    ¬ Along (exec Demo.dates) (fun s => OneLivePayment s.payments) (Store.start [])
      Demo.secondAttempt := by
  intro h
  have hrows : (Final (exec Demo.dates) (Store.start [])
      Demo.secondAttempt).payments.map (fun p => (p.bookingId, p.status)) =
        [(0, .created), (0, .pending)] := by
    decide +kernel
  obtain ⟨p, hp, hcreated⟩ := Option.map_eq_some_iff.mp
    ((List.getElem?_map ..).symm.trans (congrArg (·[0]?) hrows))
  obtain ⟨q, hq, hpending⟩ := Option.map_eq_some_iff.mp
    ((List.getElem?_map ..).symm.trans (congrArg (·[1]?) hrows))
  simp only [Prod.mk.injEq] at hcreated hpending
  refine h.last 0 1 p q (by decide) hp hq (hcreated.1.trans hpending.1.symm) ?_
  rw [hcreated.2, hpending.2]
  exact ⟨rfl, rfl⟩

/-! ## No stuck reservation -/

/-- The statuses of a payment that waits for money. -/
def PaymentStatus.isInProgress : PaymentStatus → Bool
  | .pending | .partiallyPaid => true
  | _ => false

/-- Some payment of the booking, among those satisfying `sel`, is in progress. -/
def InProgressBy (payments : Table Payment) (sel : PaymentId → Payment → Prop)
    (bookingId : BookingId) : Prop :=
  Table.SomeRow
    (fun id p => sel id p ∧ p.bookingId = bookingId ∧ p.status.isInProgress = true) payments

/-- Some payment of the booking is in progress. -/
def InProgress (payments : Table Payment) (bookingId : BookingId) : Prop :=
  InProgressBy payments (fun _ _ => True) bookingId

/-- Every booking that waits for its payment has one in progress. -/
def NoStuckReservation (calendar : Calendar) (payments : Table Payment) : Prop :=
  ∀ (id : BookingId) (stay : Stay), calendar[id]? = some stay →
    stay.status = .paymentPending → InProgress payments id

/-- The payments satisfying `sel` keep the booking going, if it waits for its
payment. -/
def StillInProgressBy (store : Store) (sel : PaymentId → Payment → Prop)
    (bookingId : BookingId) : Prop :=
  ∀ b, store.bookings[bookingId]? = some b → b.status = .paymentPending →
    InProgressBy store.payments sel bookingId

/-- The condition on a call: it closes no payment that is the only one in progress of a
booking that waits. -/
def ClosesNoneAlone (store : Store) (r : Request) : Prop :=
  match r.call with
  | .rejectPayment paymentId _ _ =>
      ∀ p, store.payments[paymentId]? = some p →
        StillInProgressBy store (fun i _ => i ≠ paymentId) p.bookingId
  | .handleStripeWebhook (.paymentIntentPaymentFailed intent) =>
      ∀ (paymentId : PaymentId) (p : Payment), store.payments[paymentId]? = some p →
        p.stripePaymentId = some intent.id →
          StillInProgressBy store (fun _ q => q.stripePaymentId ≠ some intent.id) p.bookingId
  | _ => True

section Stuck

variable {store : Store} {payments : Table Payment} {bookingId : BookingId}

/-- After the update of one payment, that payment or another one is in progress. -/
private theorem inProgress_updateById_iff {paymentId : PaymentId} {p : Payment}
    (hp : payments[paymentId]? = some p) (f : Payment → Payment) :
    InProgress (payments.updateById paymentId f) bookingId ↔
      ((f p).bookingId = bookingId ∧ (f p).status.isInProgress = true) ∨
        InProgressBy payments (fun i _ => i ≠ paymentId) bookingId := by
  refine (Table.someRow_updateById_iff hp f).trans ?_
  simp only [true_and]
  exact Iff.rfl

/-- Closing a payment of another booking, or one that is not in progress, leaves the
payments of the booking in progress. -/
private theorem inProgress_updateById (h : InProgress payments bookingId)
    {paymentId : PaymentId} {p : Payment} (hp : payments[paymentId]? = some p)
    (hnot : p.bookingId = bookingId → p.status.isInProgress = false) (f : Payment → Payment) :
    InProgress (payments.updateById paymentId f) bookingId := by
  obtain ⟨i, q, hq, -, hbooking, hprogress⟩ := h
  refine (inProgress_updateById_iff hp f).mpr (Or.inr ⟨i, q, hq, ?_, hbooking, hprogress⟩)
  rintro rfl
  obtain rfl : p = q := Option.some.inj (hp.symm.trans hq)
  rw [hnot hbooking] at hprogress
  cases hprogress

/-- Settling a payment confirms its booking: a booking that waits afterwards is another
one, and keeps its payments in progress. -/
private theorem inProgress_of_settled (h : InProgress payments bookingId)
    {paymentId : PaymentId} {p : Payment} (hp : payments[paymentId]? = some p)
    {calendar : Calendar} {stay : Stay}
    (hstay : ((Effect.move p.bookingId .confirmed).apply calendar)[bookingId]? = some stay)
    (hwaits : stay.status = .paymentPending) (f : Payment → Payment) :
    InProgress (payments.updateById paymentId f) bookingId := by
  refine inProgress_updateById h hp (fun hid => ?_) f
  obtain ⟨old, -, rfl⟩ := Table.getElem?_updateById_eq_some.mp hstay
  rw [if_pos hid.symm] at hwaits
  cases hwaits

/-- After payments have failed, the ones in progress are among the others. -/
private theorem inProgress_asFailed_iff (sel : Payment → Bool) :
    InProgress (payments.updateWhere (fun _ p => sel p) Payment.asFailed) bookingId ↔
      InProgressBy payments (fun _ p => sel p = false) bookingId := by
  have hfailed : ∀ (i : PaymentId) (p : Payment),
      ¬ (True ∧ p.asFailed.bookingId = bookingId ∧ p.asFailed.status.isInProgress = true) := by
    rintro i p ⟨-, -, hprogress⟩
    cases hprogress
  refine (Table.someRow_updateWhere_iff hfailed).trans ?_
  simp only [true_and]
  exact Iff.rfl

/-- What a call that opens no payment must ensure: the bookings that wait are the ones
that waited before. -/
private theorem noStuck_of_kept {r : Request} (htarget : r.call.target ≠ some .paymentPending)
    {payments' : Table Payment}
    (hkept : ∀ (id : BookingId) (stay : Stay),
      ((effectOf lib store r).apply store.calendar)[id]? = some stay →
        store.calendar[id]? = some stay → stay.status = .paymentPending →
          InProgress payments' id) :
    NoStuckReservation ((effectOf lib store r).apply store.calendar) payments' := by
  intro id stay hstay hwaits
  rcases Effect.getElem?_apply_or_gives hstay with hold | hgives
  · exact hkept id stay hstay hold hwaits
  · rw [hwaits] at hgives
    exact absurd (target_of_gives lib hgives) htarget

theorem noStuck_initiatePayment (h : NoStuckReservation store.calendar store.payments)
    (now : Time) (settings : PaymentMethod → Option Bool) (stripe : StripeReply)
    (bookingId : BookingId) (method : PaymentMethod) (customerId : UserId)
    (phone : Option String) (reference : String) :
    let r : Request :=
      ⟨now, .initiatePayment settings stripe bookingId method customerId phone reference⟩
    NoStuckReservation ((effectOf lib store r).apply store.calendar)
      ((paymentEffectOf store r).apply store.payments) := by
  dsimp only
  simp only [effectOf, paymentEffectOf]
  cases payableBooking store settings bookingId method customerId with
  | none => exact h
  | some booking =>
      have hold : ∀ id, InProgress store.payments id → InProgress
          (store.payments.insertRow (openedPayment stripe bookingId booking method customerId
            phone reference now)) id :=
        fun id hid => Table.someRow_insertRow_iff.mpr (Or.inl hid)
      cases hmanual : method.isManual with
      | false =>
          simp only [Bool.false_eq_true, if_false]
          intro id stay hstay hwaits
          exact hold id (h id stay hstay hwaits)
      | true =>
          simp only [if_true]
          intro id stay hstay hwaits
          obtain ⟨old, hrow, rfl⟩ := Table.getElem?_updateById_eq_some.mp hstay
          by_cases hid : id = bookingId
          · -- The booking waits for the payment just opened.
            subst hid
            refine Table.someRow_insertRow_iff.mpr (Or.inr ⟨trivial, ?_⟩)
            cases method with
            | stripe | paypal => cases hmanual
            | orangeMoney | mtnMomo | cash | other => exact ⟨rfl, rfl⟩
          · rw [if_neg hid] at hwaits
            exact hold id (h id old hrow hwaits)

theorem noStuck_confirmManual (h : NoStuckReservation store.calendar store.payments)
    (now : Time) (paymentId : PaymentId) (adminId : UserId) (data : ConfirmPaymentDto) :
    let r : Request := ⟨now, .confirmManual paymentId adminId data⟩
    NoStuckReservation ((effectOf lib store r).apply store.calendar)
      ((paymentEffectOf store r).apply store.payments) := by
  dsimp only
  refine noStuck_of_kept lib (by simp [Call.target]) fun id stay hstay hold hwaits => ?_
  have hbefore := h id stay hold hwaits
  simp only [effectOf] at hstay
  simp only [paymentEffectOf]
  cases hc : confirmablePayment store paymentId data with
  | none => exact hbefore
  | some found =>
      obtain ⟨payment, amount⟩ := found
      obtain ⟨hp, -, -⟩ := confirmablePayment_eq_some hc
      simp only [hc] at hstay
      by_cases hshort : data.amountReceived < payment.amountExpected.toRat
      · simp only [hshort, if_true]
        by_cases hid : payment.bookingId = id
        · -- A partially paid payment is in progress.
          exact (inProgress_updateById_iff hp _).mpr (Or.inl ⟨hid, rfl⟩)
        · exact inProgress_updateById hbefore hp (fun heq => absurd heq hid) _
      · -- The booking of a payment that is paid in full no longer waits.
        simp only [hshort, if_false] at hstay ⊢
        exact inProgress_of_settled hbefore hp hstay hwaits _

theorem noStuck_stripeSuccess (h : NoStuckReservation store.calendar store.payments)
    (now : Time) (intent : PaymentIntent) :
    let r : Request := ⟨now, .handleStripeWebhook (.paymentIntentSucceeded intent)⟩
    NoStuckReservation ((effectOf lib store r).apply store.calendar)
      ((paymentEffectOf store r).apply store.payments) := by
  dsimp only
  refine noStuck_of_kept lib (by simp [Call.target]) fun id stay hstay hold hwaits => ?_
  have hbefore := h id stay hold hwaits
  simp only [effectOf] at hstay
  simp only [paymentEffectOf]
  cases hc : capturedPayment store intent with
  | none => exact hbefore
  | some found =>
      obtain ⟨paymentId, payment, amount⟩ := found
      obtain ⟨hp, -, -⟩ := capturedPayment_eq_some hc
      simp only [hc] at hstay
      exact inProgress_of_settled hbefore hp hstay hwaits _

theorem noStuck_processRefund (h : NoStuckReservation store.calendar store.payments)
    (now : Time) (stripe : StripeReply) (paymentId : PaymentId) (adminId : UserId)
    (amount : Option ℚ) :
    let r : Request := ⟨now, .processRefund stripe paymentId adminId amount⟩
    NoStuckReservation ((effectOf lib store r).apply store.calendar)
      ((paymentEffectOf store r).apply store.payments) := by
  dsimp only
  refine noStuck_of_kept lib (by simp [Call.target]) fun id stay _ hold hwaits => ?_
  have hbefore := h id stay hold hwaits
  simp only [paymentEffectOf]
  cases hr : refundablePayment store stripe paymentId amount with
  | none => exact hbefore
  | some found =>
      -- What is refunded was paid, and so not in progress.
      obtain ⟨hp, hpaid, -⟩ := refundablePayment_eq_some hr
      exact inProgress_updateById hbefore hp (fun _ => by rw [hpaid]; rfl) _

theorem noStuck_rejectPayment_iff (h : NoStuckReservation store.calendar store.payments)
    (now : Time) (paymentId : PaymentId) (adminId : UserId) (reason : Option String) :
    NoStuckReservation store.calendar
        (store.payments.updateById paymentId (Payment.asRejected adminId reason now)) ↔
      ClosesNoneAlone store ⟨now, .rejectPayment paymentId adminId reason⟩ := by
  constructor
  · intro hafter p hp b hb hwaits
    have hprogress := hafter p.bookingId b.stay (getElem?_calendar_of_some hb) hwaits
    rcases (inProgress_updateById_iff hp _).mp hprogress with ⟨-, hself⟩ | hother
    · cases hself
    · exact hother
  · intro hguard id stay hstay hwaits
    have hbefore := h id stay hstay hwaits
    cases hp : store.payments[paymentId]? with
    | none =>
        rw [Table.updateById_of_none hp]
        exact hbefore
    | some p =>
        by_cases hid : p.bookingId = id
        · obtain ⟨b, hb, rfl⟩ := getElem?_calendar_eq_some.mp hstay
          subst hid
          exact (inProgress_updateById_iff hp _).mpr (Or.inr (hguard p hp b hb hwaits))
        · exact inProgress_updateById hbefore hp (fun heq => absurd heq hid) _

theorem noStuck_stripeFailure_iff (h : NoStuckReservation store.calendar store.payments)
    (now : Time) (intent : PaymentIntent) :
    NoStuckReservation store.calendar
        (store.payments.updateWhere (fun _ p => p.stripePaymentId = some intent.id)
          Payment.asFailed) ↔
      ClosesNoneAlone store ⟨now, .handleStripeWebhook (.paymentIntentPaymentFailed intent)⟩ := by
  have hothers : ∀ id, InProgress (store.payments.updateWhere
        (fun _ p => decide (p.stripePaymentId = some intent.id)) Payment.asFailed) id ↔
      InProgressBy store.payments (fun _ q => q.stripePaymentId ≠ some intent.id) id := by
    intro id
    rw [inProgress_asFailed_iff fun p => decide (p.stripePaymentId = some intent.id)]
    simp only [decide_eq_false_iff_not, ne_eq]
  constructor
  · intro hafter paymentId p _ _ b hb hwaits
    exact (hothers p.bookingId).mp
      (hafter p.bookingId b.stay (getElem?_calendar_of_some hb) hwaits)
  · intro hguard id stay hstay hwaits
    rw [hothers]
    obtain ⟨i, q, hq, -, hbooking, hprogress⟩ := h id stay hstay hwaits
    by_cases hintent : q.stripePaymentId = some intent.id
    · obtain ⟨b, hb, rfl⟩ := getElem?_calendar_eq_some.mp hstay
      subst hbooking
      exact hguard i q hq hintent b hb hwaits
    · exact ⟨i, q, hq, hintent, hbooking, hprogress⟩

end Stuck

/-- **One call** leaves no reservation stuck exactly when it closes no payment that a
booking waits for. -/
theorem noStuck_exec_iff {store : Store}
    (h : NoStuckReservation store.calendar store.payments) (r : Request) :
    NoStuckReservation (exec lib store r).calendar (exec lib store r).payments ↔
      ClosesNoneAlone store r := by
  rw [exec_calendar, exec_payments]
  obtain ⟨now, call⟩ := r
  cases call with
  | rejectPayment paymentId adminId reason =>
      exact noStuck_rejectPayment_iff h now paymentId adminId reason
  | handleStripeWebhook event =>
      cases event with
      | paymentIntentPaymentFailed intent => exact noStuck_stripeFailure_iff h now intent
      | paymentIntentSucceeded intent =>
          exact iff_of_true (noStuck_stripeSuccess lib h now intent) trivial
      | invalidSignature | chargeRefunded | otherType => exact iff_of_true h trivial
  | initiatePayment settings stripe bookingId method customerId phone reference =>
      exact iff_of_true (noStuck_initiatePayment lib h now settings stripe bookingId method
        customerId phone reference) trivial
  | confirmManual paymentId adminId data =>
      exact iff_of_true (noStuck_confirmManual lib h now paymentId adminId data) trivial
  | processRefund stripe paymentId adminId amount =>
      exact iff_of_true (noStuck_processRefund lib h now stripe paymentId adminId amount) trivial
  | create | cancel | complete | assignConcierge | startCheckin | collectDeposit
  | confirmCheckin | startCheckout | confirmCheckout | autoCompleteBookings
  | cancelExpiredPendingBookings =>
      refine iff_of_true (noStuck_of_kept lib (by simp [Call.target]) ?_) trivial
      intro id stay _ hold hwaits
      exact h id stay hold hwaits

/-- **Which histories leave no reservation stuck.**  From the empty tables, in every
state of a history each booking that waits for its payment has one in progress if and
only if no call of the history closes the only payment in progress of such a
booking. -/
theorem noStuckReservation_along_iff (assignments : Table ConciergeAssignment)
    (rs : List Request) :
    Along (exec lib) (fun s => NoStuckReservation s.calendar s.payments)
        (Store.start assignments) rs ↔
      Guarded (exec lib) ClosesNoneAlone (Store.start assignments) rs := by
  refine along_iff_guarded (J := fun _ => True)
    (P := fun s : Store => NoStuckReservation s.calendar s.payments)
    (fun _ _ _ => trivial) (fun s r _ hs => noStuck_exec_iff lib hs r) trivial ?_ rs
  intro id stay hstay
  cases hstay

/-- A payment in cash is opened and then rejected. -/
def Demo.rejection : List Request :=
  [⟨0, .create (Demo.villa "2025-07-01" "2025-07-05") 1⟩, ⟨1, Demo.payCash 0 1⟩,
    ⟨2, .rejectPayment 0 5 none⟩]

/-- **The rejection leaves the reservation stuck**: its booking waits for a payment, and
there is none. -/
theorem rejection_stuck :
    ¬ Along (exec Demo.dates) (fun s => NoStuckReservation s.calendar s.payments)
      (Store.start []) Demo.rejection := by
  intro h
  have hwaits : (Final (exec Demo.dates) (Store.start [])
      Demo.rejection).calendar[0]?.map Stay.status = some .paymentPending := by
    decide +kernel
  have hpayments : (Final (exec Demo.dates) (Store.start [])
      Demo.rejection).payments.map Payment.status = [.failed] := by
    decide +kernel
  obtain ⟨stay, hstay, hstatus⟩ := Option.map_eq_some_iff.mp hwaits
  obtain ⟨i, p, hp, -, -, hprogress⟩ := h.last 0 stay hstay hstatus
  have hfailed : p.status ∈ [PaymentStatus.failed] :=
    hpayments ▸ List.mem_map_of_mem (List.mem_of_getElem? hp)
  rw [List.mem_singleton.mp hfailed] at hprogress
  cases hprogress

end StayRide
