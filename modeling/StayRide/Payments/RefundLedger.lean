import StayRide.Lib.Ledger
import StayRide.Payments.Coverage
import StayRide.System.Histories

/-!
# Refunds against receipts

The store is put next to a ledger of the money that really moves: every manual
confirmation is a receipt, every successful `PaymentIntent` a capture that counts
once however often it is delivered, every successful refund a payout.  The books
are `Balanced` when no payment pays out more than it received, and none more than
once.

The code does not keep them balanced: the one check of `processRefund` is the
status `PAID`, which a redelivered webhook or another confirmation sets again
after a refund, and the amount of a refund has no upper bound.
`balanced_along` proves that nothing else is wrong: the books stay balanced in
every history whose accepted refunds are the first ones of their payments and ask
for no more than the amount recorded, and whose confirmed amounts have at most
two decimals, so that the column stores what was received.
-/

namespace StayRide

open Lib

variable (lib : DateLib)

/-! ## The books -/

/-- The money a capture brings. -/
def PaymentIntent.value (intent : PaymentIntent) : ℚ :=
  intent.amountReceived / 100

theorem PaymentIntent.value_nonneg (intent : PaymentIntent) : 0 ≤ intent.value := by
  unfold PaymentIntent.value
  positivity

/-- The store and the ledger of what has been moved. -/
structure Books where
  store : Store
  ledger : Ledger PaymentId PaymentIntent

/-- The money a call moves: nothing, unless the call is a confirmation, a refund or a
capture and returns. -/
def movementOf (store : Store) (r : Request) : Ledger PaymentId PaymentIntent :=
  match r.call with
  | .confirmManual paymentId adminId data =>
      if (confirmManual paymentId adminId data r.now).succeeds store then
        [(paymentId, .receipt data.amountReceived)]
      else []
  | .processRefund stripe paymentId adminId amount =>
      match store.payments[paymentId]? with
      | some payment =>
          if (processRefund stripe paymentId adminId amount r.now).succeeds store then
            [(paymentId, .payout (refundAmount amount payment))]
          else []
      | none => []
  | .handleStripeWebhook (.paymentIntentSucceeded intent) =>
      match store.payments.findWhere (·.stripePaymentId = some intent.id) with
      | some (paymentId, _) =>
          if (handleStripeSuccess intent r.now).succeeds store then
            [(paymentId, .capture intent)]
          else []
      | none => []
  | _ => []

/-- Run one call and enter what it moves. -/
def Books.exec (books : Books) (r : Request) : Books :=
  ⟨StayRide.exec lib books.store r, books.ledger ++ movementOf books.store r⟩

/-- The money received on a payment. -/
def Books.received (books : Books) (paymentId : PaymentId) : ℚ :=
  books.ledger.received PaymentIntent.value paymentId

/-- No payment pays out more than it received, and none more than once. -/
def Balanced (books : Books) : Prop :=
  ∀ paymentId, (books.ledger.payouts paymentId).sum ≤ books.received paymentId ∧
    (books.ledger.payouts paymentId).length ≤ 1

/-- The validation of the request bodies: amounts are not negative. -/
def Request.Validated (r : Request) : Prop :=
  match r.call with
  | .confirmManual _ _ data => 0 ≤ data.amountReceived
  | .processRefund _ _ _ amount => ∀ q, amount = some q → 0 ≤ q
  | _ => True

/-- The condition on a call: a confirmed amount has at most two decimals; a refund of
a paid payment is its first, and asks for no more than the amount recorded. -/
def RefundsWithinReceipts (store : Store) (r : Request) : Prop :=
  match r.call with
  | .confirmManual _ _ data => ∃ cents : ℤ, data.amountReceived * 10 ^ 2 = cents
  | .processRefund _ paymentId _ amount =>
      ∀ p, store.payments[paymentId]? = some p → p.status = .paid →
        p.refundedAmount = none ∧ ∀ q, amount = some q → q ≤ p.amountReceived.toRat
  | _ => True

/-! ## The invariant -/

/-- The columns of a payment that are about money moved. -/
def Payment.money (p : Payment) : Amount × Option Amount :=
  (p.amountReceived, p.refundedAmount)

/-- The columns are backed by the ledger. -/
structure Accounted (books : Books) : Prop where
  receipts_nonneg : ∀ paymentId, 0 ≤ (books.ledger.receipts paymentId).sum
  /-- What is recorded as received was received. -/
  recorded_le : ∀ (paymentId : PaymentId) (p : Payment),
    books.store.payments[paymentId]? = some p →
      p.amountReceived.toRat ≤ books.received paymentId
  /-- Without a recorded refund there was none. -/
  unrefunded : ∀ paymentId,
    (∀ p, books.store.payments[paymentId]? = some p → p.refundedAmount = none) →
      books.ledger.payouts paymentId = []
  balanced : Balanced books

theorem Accounted.received_nonneg {books : Books} (h : Accounted books)
    (paymentId : PaymentId) : 0 ≤ books.received paymentId := by
  have hcaptures : 0 ≤ ∑ intent ∈ books.ledger.captures paymentId, intent.value :=
    Finset.sum_nonneg fun intent _ => intent.value_nonneg
  exact add_nonneg (h.receipts_nonneg paymentId) hcaptures

/-- Nothing moves, and the money columns of every payment stay, a new payment
having received nothing. -/
theorem Accounted.quiet {books : Books} (h : Accounted books) {store' : Store}
    (hrows : ∀ paymentId : PaymentId,
      store'.payments[paymentId]?.map Payment.money =
          books.store.payments[paymentId]?.map Payment.money ∨
        books.store.payments[paymentId]? = none ∧
          store'.payments[paymentId]?.map Payment.money = some (Decimal.zero, none)) :
    Accounted ⟨store', books.ledger⟩ := by
  refine ⟨h.receipts_nonneg, ?_, ?_, h.balanced⟩
  · intro paymentId p hp
    rcases hrows paymentId with hsame | ⟨-, hnew⟩
    · rw [hp, Option.map_some] at hsame
      obtain ⟨old, hold, hmoney⟩ := Option.map_eq_some_iff.mp hsame.symm
      have hreceived : old.amountReceived = p.amountReceived := congrArg Prod.fst hmoney
      rw [← hreceived]
      exact h.recorded_le paymentId old hold
    · rw [hp, Option.map_some, Option.some.injEq] at hnew
      have hzero : p.amountReceived = Decimal.zero := congrArg Prod.fst hnew
      rw [hzero, Decimal.toRat_zero]
      exact h.received_nonneg paymentId
  · intro paymentId hnone
    refine h.unrefunded paymentId fun old hold => ?_
    rcases hrows paymentId with hsame | ⟨habsent, -⟩
    · rw [hold, Option.map_some] at hsame
      obtain ⟨p, hp, hmoney⟩ := Option.map_eq_some_iff.mp hsame
      have hrefunded : p.refundedAmount = old.refundedAmount := congrArg Prod.snd hmoney
      rw [← hrefunded]
      exact hnone p hp
    · rw [hold] at habsent
      cases habsent

/-- Money comes in on one payment, and the column records no more than that. -/
theorem Accounted.receive {books : Books} (h : Accounted books) {paymentId : PaymentId}
    {p : Payment} (hp : books.store.payments[paymentId]? = some p) {f : Payment → Payment}
    {store' : Store} (hstore : store'.payments = books.store.payments.updateById paymentId f)
    {ledger' : Ledger PaymentId PaymentIntent}
    (hkeeps : (f p).refundedAmount = p.refundedAmount)
    (hnonneg : ∀ i, 0 ≤ (ledger'.receipts i).sum)
    (hpayouts : ∀ i, ledger'.payouts i = books.ledger.payouts i)
    (hgrows : ∀ i, books.received i ≤ (Books.mk store' ledger').received i)
    (hrecorded : (f p).amountReceived.toRat ≤ (Books.mk store' ledger').received paymentId) :
    Accounted ⟨store', ledger'⟩ := by
  refine ⟨hnonneg, ?_, ?_, ?_⟩
  · intro i q hq
    rw [hstore] at hq
    obtain ⟨old, hold, rfl⟩ := Table.getElem?_updateById_eq_some.mp hq
    by_cases hi : i = paymentId
    · subst hi
      rw [hp, Option.some.injEq] at hold
      rw [if_pos rfl, ← hold]
      exact hrecorded
    · rw [if_neg hi]
      exact (h.recorded_le i old hold).trans (hgrows i)
  · intro i hnone
    rw [hpayouts]
    refine h.unrefunded i fun old hold => ?_
    have hrow : store'.payments[i]? = some (if i = paymentId then f old else old) := by
      rw [hstore, Table.getElem?_updateById, hold, Option.map_some]
    have hnew := hnone _ hrow
    by_cases hi : i = paymentId
    · subst hi
      rw [hp, Option.some.injEq] at hold
      rw [if_pos rfl, ← hold, hkeeps] at hnew
      rw [← hold]
      exact hnew
    · rw [if_neg hi] at hnew
      exact hnew
  · intro i
    rw [hpayouts]
    exact ⟨(h.balanced i).1.trans (hgrows i), (h.balanced i).2⟩

/-- The first payout of a payment, of no more than it records. -/
theorem Accounted.payOut {books : Books} (h : Accounted books) {paymentId : PaymentId}
    {p : Payment} (hp : books.store.payments[paymentId]? = some p) {f : Payment → Payment}
    {store' : Store} (hstore : store'.payments = books.store.payments.updateById paymentId f)
    (hkeeps : (f p).amountReceived = p.amountReceived)
    (hmarks : (f p).refundedAmount ≠ none)
    (hfirst : p.refundedAmount = none) {amount : ℚ}
    (hamount : amount ≤ p.amountReceived.toRat) :
    Accounted ⟨store', books.ledger ++ [(paymentId, .payout amount)]⟩ := by
  have hreceived : ∀ i, (Books.mk store' (books.ledger ++ [(paymentId, .payout amount)])).received
      i = books.received i := fun i => Ledger.received_payout _ _ _ _ _
  have hempty : books.ledger.payouts paymentId = [] := by
    refine h.unrefunded paymentId fun q hq => ?_
    rw [hp, Option.some.injEq] at hq
    rw [← hq]
    exact hfirst
  refine ⟨fun i => ?_, ?_, ?_, ?_⟩
  · rw [Ledger.receipts_payout]
    exact h.receipts_nonneg i
  · intro i q hq
    rw [hreceived]
    rw [hstore] at hq
    obtain ⟨old, hold, rfl⟩ := Table.getElem?_updateById_eq_some.mp hq
    by_cases hi : i = paymentId
    · subst hi
      rw [hp, Option.some.injEq] at hold
      rw [if_pos rfl, ← hold, hkeeps]
      exact h.recorded_le i p hp
    · rw [if_neg hi]
      exact h.recorded_le i old hold
  · intro i hnone
    have hi : paymentId ≠ i := by
      rintro rfl
      exact hmarks (hnone (f p) (by
        rw [hstore, Table.getElem?_updateById, hp, Option.map_some, if_pos rfl]))
    rw [Ledger.payouts_payout, if_neg hi, List.append_nil]
    refine h.unrefunded i fun old hold => hnone old ?_
    rw [hstore, Table.getElem?_updateById, hold, Option.map_some, if_neg (Ne.symm hi)]
  · intro i
    rw [hreceived, Ledger.payouts_payout]
    by_cases hi : paymentId = i
    · subst hi
      rw [hempty, if_pos rfl]
      refine ⟨?_, by simp⟩
      rw [List.nil_append, List.sum_singleton]
      exact hamount.trans (h.recorded_le paymentId p hp)
    · rw [if_neg hi, List.append_nil]
      exact h.balanced i

/-! ## One call -/

section Step

variable {books : Books} (h : Accounted books) (now : Time)
include h

theorem accounted_confirmManual (paymentId : PaymentId) (adminId : UserId)
    (data : ConfirmPaymentDto)
    (hvalid : Request.Validated ⟨now, .confirmManual paymentId adminId data⟩)
    (hguard : RefundsWithinReceipts books.store ⟨now, .confirmManual paymentId adminId data⟩) :
    Accounted (books.exec lib ⟨now, .confirmManual paymentId adminId data⟩) := by
  unfold Books.exec
  have hpayments := exec_payments lib books.store ⟨now, .confirmManual paymentId adminId data⟩
  simp only [movementOf, confirmManual_succeeds]
  simp only [paymentEffectOf] at hpayments
  cases hc : confirmablePayment books.store paymentId data with
  | none =>
      rw [hc] at hpayments
      simp only [Option.isSome_none, Bool.false_eq_true, if_false, List.append_nil]
      exact h.quiet fun i => Or.inl (by rw [hpayments]; rfl)
  | some found =>
      obtain ⟨payment, amount⟩ := found
      obtain ⟨hp, -, hamount⟩ := confirmablePayment_eq_some hc
      rw [hc] at hpayments
      simp only [Option.isSome_some, if_true]
      obtain ⟨cents, hcents⟩ := hguard
      have hnonneg : 0 ≤ data.amountReceived := hvalid
      have hstep : ∀ i, (0 : ℚ) ≤ if paymentId = i then data.amountReceived else 0 := by
        intro i
        split
        · exact hnonneg
        · exact le_rfl
      refine h.receive hp hpayments rfl (fun i => ?_) (fun i => Ledger.payouts_receipt _ _ _ _)
        (fun i => ?_) ?_
      · rw [Ledger.receipts_receipt, List.sum_append]
        refine add_nonneg (h.receipts_nonneg i) ?_
        by_cases hi : paymentId = i <;> simp [hi, hnonneg]
      · show books.received i ≤ Ledger.received _ _ i
        rw [Ledger.received_receipt]
        exact le_add_of_nonneg_right (hstep i)
      · show amount.toRat ≤ Ledger.received _ _ paymentId
        -- The column stores the confirmed amount unrounded.
        rw [Ledger.received_receipt, if_pos rfl, Decimal.toRat_eq_of_scale hcents hamount]
        exact le_add_of_nonneg_left (h.received_nonneg paymentId)

theorem accounted_processRefund (stripe : StripeReply) (paymentId : PaymentId)
    (adminId : UserId) (amount : Option ℚ)
    (hguard : RefundsWithinReceipts books.store
      ⟨now, .processRefund stripe paymentId adminId amount⟩) :
    Accounted (books.exec lib ⟨now, .processRefund stripe paymentId adminId amount⟩) := by
  unfold Books.exec
  have hpayments := exec_payments lib books.store
    ⟨now, .processRefund stripe paymentId adminId amount⟩
  simp only [movementOf, processRefund_succeeds]
  simp only [paymentEffectOf] at hpayments
  cases hr : refundablePayment books.store stripe paymentId amount with
  | none =>
      rw [hr] at hpayments
      have hnothing : (match books.store.payments[paymentId]? with
          | some payment =>
              if (none : Option (Payment × Amount)).isSome then
                [(paymentId, Movement.payout (refundAmount amount payment))]
              else []
          | none => ([] : Ledger PaymentId PaymentIntent)) = [] := by
        cases books.store.payments[paymentId]? <;> rfl
      rw [hnothing, List.append_nil]
      exact h.quiet fun i => Or.inl (by rw [hpayments]; rfl)
  | some found =>
      obtain ⟨payment, refunded⟩ := found
      obtain ⟨hp, hpaid, -⟩ := refundablePayment_eq_some hr
      rw [hr] at hpayments
      simp only [hp, Option.isSome_some, if_true]
      obtain ⟨hfirst, hbound⟩ := hguard payment hp hpaid
      have hamount : refundAmount amount payment ≤ payment.amountReceived.toRat := by
        unfold refundAmount
        cases amount with
        | none => exact le_rfl
        | some q =>
            dsimp only
            split
            · exact le_rfl
            · exact hbound q rfl
      exact h.payOut hp hpayments rfl (Option.some_ne_none refunded) hfirst hamount

theorem accounted_stripeSuccess (intent : PaymentIntent) :
    Accounted
      (books.exec lib ⟨now, .handleStripeWebhook (.paymentIntentSucceeded intent)⟩) := by
  unfold Books.exec
  have hpayments := exec_payments lib books.store
    ⟨now, .handleStripeWebhook (.paymentIntentSucceeded intent)⟩
  simp only [movementOf, handleStripeSuccess_succeeds]
  simp only [paymentEffectOf] at hpayments
  cases hf : books.store.payments.findWhere (·.stripePaymentId = some intent.id) with
  | none =>
      simp only [capturedPayment, hf] at hpayments
      rw [List.append_nil]
      exact h.quiet fun i => Or.inl (by rw [hpayments]; rfl)
  | some found =>
      obtain ⟨paymentId, payment⟩ := found
      cases hc : capturedPayment books.store intent with
      | none =>
          simp only [hc] at hpayments
          simp only [reduceCtorEq, decide_false, Option.isSome_none, Bool.or_self,
            Bool.false_eq_true, if_false, List.append_nil]
          exact h.quiet fun i => Or.inl (by rw [hpayments]; rfl)
      | some captured =>
          obtain ⟨paymentId', payment', amount⟩ := captured
          obtain ⟨hp, -, hamount⟩ := capturedPayment_eq_some hc
          have hsame : paymentId' = paymentId := by
            simp only [capturedPayment, hf, Option.map_eq_some_iff, Prod.mk.injEq] at hc
            obtain ⟨a, -, hid, -⟩ := hc
            exact hid.symm
          subst hsame
          simp only [hc] at hpayments
          simp only [Option.isSome_some, Bool.or_true, if_true]
          refine h.receive hp hpayments rfl (fun i => ?_)
            (fun i => Ledger.payouts_capture _ _ _ _) (fun i => ?_) ?_
          · rw [Ledger.receipts_capture]
            exact h.receipts_nonneg i
          · exact Ledger.received_le_capture _ _ _ PaymentIntent.value_nonneg intent
          · show amount.toRat ≤ _
            rw [hamount]
            exact Ledger.value_le_received_capture _ _ PaymentIntent.value_nonneg intent
              (h.receipts_nonneg paymentId')

/-- A call that moves nothing and changes no money column. -/
private theorem accounted_quiet {r : Request} (hmoves : movementOf books.store r = [])
    (hrows : ∀ paymentId : PaymentId,
      ((paymentEffectOf books.store r).apply books.store.payments)[paymentId]?.map
          Payment.money = books.store.payments[paymentId]?.map Payment.money ∨
        books.store.payments[paymentId]? = none ∧
          ((paymentEffectOf books.store r).apply books.store.payments)[paymentId]?.map
            Payment.money = some (Decimal.zero, none)) :
    Accounted (books.exec lib r) := by
  unfold Books.exec
  rw [hmoves, List.append_nil]
  refine h.quiet fun paymentId => ?_
  rw [exec_payments]
  exact hrows paymentId

theorem accounted_initiatePayment (settings : PaymentMethod → Option Bool)
    (stripe : StripeReply) (bookingId : BookingId) (method : PaymentMethod)
    (customerId : UserId) (phone : Option String) (reference : String) :
    Accounted (books.exec lib
      ⟨now, .initiatePayment settings stripe bookingId method customerId phone reference⟩) := by
  refine accounted_quiet lib h rfl fun paymentId => ?_
  simp only [paymentEffectOf]
  cases payableBooking books.store settings bookingId method customerId with
  | none => exact Or.inl rfl
  | some booking =>
      -- The new payment has received and refunded nothing.
      have hmoney : (openedPayment stripe bookingId booking method customerId phone reference
          now).money = (Decimal.zero, none) := by
        cases method <;> cases stripe <;> rfl
      rw [PaymentEffect.apply, Table.insertRow]
      rcases Nat.lt_trichotomy paymentId books.store.payments.length with hlt | rfl | hgt
      · rw [List.getElem?_append_left hlt]
        exact Or.inl rfl
      · refine Or.inr ⟨List.getElem?_eq_none le_rfl, ?_⟩
        rw [List.getElem?_concat_length, Option.map_some, hmoney]
      · rw [List.getElem?_eq_none (by simp; omega), List.getElem?_eq_none (by omega)]
        exact Or.inl rfl

theorem accounted_rejectPayment (paymentId : PaymentId) (adminId : UserId)
    (reason : Option String) :
    Accounted (books.exec lib ⟨now, .rejectPayment paymentId adminId reason⟩) := by
  have hmoney : ∀ p : Payment, (p.asRejected adminId reason now).money = p.money :=
    fun _ => rfl
  refine accounted_quiet lib h rfl fun i => Or.inl ?_
  rw [← List.getElem?_map, ← List.getElem?_map]
  exact congrArg (·[i]?) (Table.map_updateById_of_eq hmoney _ paymentId)

theorem accounted_stripeFailure (intent : PaymentIntent) :
    Accounted
      (books.exec lib ⟨now, .handleStripeWebhook (.paymentIntentPaymentFailed intent)⟩) := by
  have hmoney : ∀ p : Payment, p.asFailed.money = p.money := fun _ => rfl
  refine accounted_quiet lib h rfl fun i => Or.inl ?_
  rw [← List.getElem?_map, ← List.getElem?_map]
  exact congrArg (·[i]?) (Table.map_updateWhere_of_eq hmoney _ _)

end Step

/-- **One call** keeps the columns backed by the ledger. -/
theorem accounted_exec {books : Books} (h : Accounted books) {r : Request}
    (hvalid : r.Validated) (hguard : RefundsWithinReceipts books.store r) :
    Accounted (books.exec lib r) := by
  obtain ⟨now, call⟩ := r
  cases call with
  | initiatePayment => exact accounted_initiatePayment lib h now _ _ _ _ _ _ _
  | confirmManual => exact accounted_confirmManual lib h now _ _ _ hvalid hguard
  | rejectPayment => exact accounted_rejectPayment lib h now _ _ _
  | processRefund => exact accounted_processRefund lib h now _ _ _ _ hguard
  | handleStripeWebhook event =>
      cases event with
      | paymentIntentSucceeded intent => exact accounted_stripeSuccess lib h now intent
      | paymentIntentPaymentFailed intent => exact accounted_stripeFailure lib h now intent
      | invalidSignature | chargeRefunded | otherType =>
          exact accounted_quiet lib h rfl fun _ => Or.inl rfl
  | create | cancel | complete | assignConcierge | startCheckin | collectDeposit
  | confirmCheckin | startCheckout | confirmCheckout | autoCompleteBookings
  | cancelExpiredPendingBookings => exact accounted_quiet lib h rfl fun _ => Or.inl rfl

/-! ## Histories -/

/-- Before the first payment the books are in order. -/
private theorem accounted_start {store : Store} (hstore : store.payments = []) :
    Accounted ⟨store, []⟩ := by
  refine ⟨fun _ => le_rfl, ?_, fun _ _ => rfl, fun paymentId => ⟨?_, Nat.zero_le 1⟩⟩
  · intro paymentId p hp
    rw [hstore] at hp
    cases hp
  · show (0 : ℚ) ≤ Ledger.received _ [] paymentId
    simp [Ledger.received, Ledger.receipts, Ledger.captures]

/-- **The refund bound.**  From a store without payments, in every history of validated
requests whose refunds stay within the receipts, no state has a payment that paid out
more than it received or more than once. -/
theorem balanced_along (store : Store) (hstore : store.payments = []) (rs : List Request)
    (hvalid : ∀ r ∈ rs, r.Validated)
    (hguard : Guarded (Books.exec lib)
      (fun books r => RefundsWithinReceipts books.store r) ⟨store, []⟩ rs) :
    Along (Books.exec lib) Balanced ⟨store, []⟩ rs := by
  have hrun : Along (Books.exec lib) Accounted ⟨store, []⟩ rs := by
    refine Guarded.along (fun books r h hr => ?_) (accounted_start hstore)
      (hguard.and_labels hvalid)
    exact accounted_exec lib h hr.1 hr.2
  exact hrun.mono fun books h => h.balanced

/-- A customer pays for a stay in two instalments and gets the second one back. -/
def Demo.instalments : List Request :=
  [⟨0, .create (Demo.villa "2025-07-01" "2025-07-05") 1⟩, ⟨1, Demo.payCash 0 1⟩,
    ⟨2, Demo.confirm 0 100000⟩, ⟨3, Demo.confirm 0 206800⟩,
    ⟨4, .processRefund .notConfigured 0 5 (some 6800)⟩]

theorem balanced_along_instalments :
    (Store.start []).payments = [] ∧ (∀ r ∈ Demo.instalments, r.Validated) ∧
      Along (Books.exec Demo.dates) Balanced ⟨Store.start [], []⟩ Demo.instalments := by
  have hvalid : ∀ r ∈ Demo.instalments, r.Validated := by
    simp [Demo.instalments, Request.Validated, Demo.payCash, Demo.confirm]
  have hrefund : (Final (Books.exec Demo.dates) ⟨Store.start [], []⟩
      (Demo.instalments.take 4)).store.payments[0]?.map Payment.money =
        some (⟨20680000, by decide⟩, none) := by
    decide +kernel
  refine ⟨rfl, hvalid, balanced_along Demo.dates (Store.start []) rfl Demo.instalments hvalid
    ⟨trivial, trivial, ⟨10000000, by norm_num⟩, ⟨20680000, by norm_num⟩, ?_, trivial⟩⟩
  intro p hp _
  have hmoney : p.money = (⟨20680000, by decide⟩, none) := by
    have hmapped := congrArg (Option.map Payment.money) hp
    exact Option.some.inj (hmapped.symm.trans hrefund)
  have hreceived : p.amountReceived = ⟨20680000, by decide⟩ := congrArg Prod.fst hmoney
  refine ⟨congrArg Prod.snd hmoney, fun q hq => ?_⟩
  rw [← Option.some.inj hq, hreceived]
  decide +kernel

/-- A stay is paid by card and refunded; Stripe delivers the success a second time, and
the payment is refunded again. -/
def Demo.redelivery : List Request :=
  [⟨0, .create (Demo.villa "2025-07-01" "2025-07-05") 1⟩,
    ⟨1, .initiatePayment (fun _ => some true) (.created "pi_1") 0 .stripe 1 none "SR"⟩,
    ⟨2, .handleStripeWebhook (.paymentIntentSucceeded ⟨"pi_1", 20680000⟩)⟩,
    ⟨3, .processRefund (.created "re_1") 0 5 none⟩,
    ⟨4, .handleStripeWebhook (.paymentIntentSucceeded ⟨"pi_1", 20680000⟩)⟩,
    ⟨5, .processRefund (.created "re_2") 0 5 none⟩]

/-- **The redelivered webhook lets the money go twice.** -/
theorem redelivery_pays_out_twice :
    ¬ Along (Books.exec Demo.dates) Balanced ⟨Store.start [], []⟩ Demo.redelivery := by
  intro h
  have hpayouts : (Final (Books.exec Demo.dates) ⟨Store.start [], []⟩
      Demo.redelivery).ledger.payouts 0 = [206800, 206800] := by
    decide +kernel
  have hlength := (h.last 0).2
  rw [hpayouts] at hlength
  exact absurd hlength (by decide)

end StayRide
