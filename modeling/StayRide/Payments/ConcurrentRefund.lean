import StayRide.Lib.Interleaving
import StayRide.Payments.RefundLedger

/-!
# `processRefund`, step by step, and the refunds at Stripe

Concurrent calls of `processRefund` for one payment by card.  A call reads the
payment, asks Stripe for the refund and then records it in a transaction; each of
these is an await of its own, and an awaited call may be rejected.  Next to the store
stands what Stripe has refunded on the intent (`RefundDesk.issued`, in hundredths).

Stripe's refunds and the books match when no call is in progress, as long as

* Stripe accepts a refund only where the payment is still paid and no other accepted
  refund waits to be recorded, and
* no transaction fails after Stripe has accepted.

This is `refunds_match`.  Nothing in the code ensures either: two calls that both find
the payment paid both refund at Stripe and record the amount of one
(`two_refunds_recorded_as_one`).

`refund_alone` connects the steps with the method.
-/

namespace StayRide

open Lib

/-- A call of `processRefund` for the payment: its arguments, and Stripe's answer. -/
structure RefundCall where
  stripe : StripeReply
  adminId : UserId
  amount : Option ℚ

/-- Where a call is: before the await of this name, or finished. -/
inductive RefundPc
  | read
  | atStripe (payment : Payment)
  | transaction (payment : Payment)
  | reload
  | done (result : Except HttpException (Option Payment))

/-- Stripe accepts the refund. -/
def RefundCall.accepted (call : RefundCall) : Bool :=
  match call.stripe with
  | .created _ => true
  | _ => false

/-- The store, and what Stripe has refunded on the intent of the payment. -/
structure RefundDesk where
  store : Store
  issued : ℤ

/-- `Math.round(refundAmount * 100)`, the amount that Stripe is asked for. -/
def stripeUnits (refundAmount : ℚ) : ℤ :=
  round (refundAmount * 100)

/-- A value of the column has a whole number of hundredths. -/
theorem stripeUnits_toRat (amount : Amount) : stripeUnits amount.toRat = amount.units := by
  have hcents : amount.toRat * 100 = (amount.units : ℚ) := by
    rw [← Decimal.toRat_mul_scale]
    norm_num
  rw [stripeUnits, hcents, round_intCast]

/-- Payments that are refunded at Stripe. -/
def Payment.byCard (p : Payment) : Bool :=
  p.method = .stripe ∧ (textOrNull p.stripePaymentId).isSome

section Steps

variable (paymentId : PaymentId) (call : RefundCall)

/-- The transaction that records a refund. -/
def Store.recordRefund (store : Store) (payment : Payment) (refunded : Amount) (now : Time) :
    Store :=
  { store with
    payments := store.payments.updateById paymentId
      (Payment.asRefunded refunded call.adminId now)
    bookings := store.bookings.updateById payment.bookingId (Booking.withStatus .refunded) }

/-- One step of a call. -/
def refundStep (attempt : Attempt) (desk : RefundDesk) (pc : RefundPc) :
    Option (RefundDesk × RefundPc) :=
  match pc, attempt with
  | .read, .succeeds _ =>
      match desk.store.payments[paymentId]? with
      | none => some (desk, .done (.error (.notFound "Paiement introuvable")))
      | some payment =>
          if payment.status ≠ .paid then some (desk, .done (.error
            (.badRequest "Seuls les paiements confirmés peuvent être remboursés")))
          else if payment.byCard then some (desk, .atStripe payment)
          else some (desk, .transaction payment)
  | .atStripe payment, .succeeds _ =>
      match call.stripe with
      | .created _ =>
          some (⟨desk.store, desk.issued + stripeUnits (refundAmount call.amount payment)⟩,
            .transaction payment)
      | _ => some (desk, .done (.error .clientError))
  | .transaction payment, .succeeds now =>
      match (Decimal.ofRat (refundAmount call.amount payment) : Option Amount) with
      | some refunded =>
          some (⟨desk.store.recordRefund paymentId call payment refunded now, desk.issued⟩,
            .reload)
      | none => some (desk, .done (.error .queryFailed))
  | .reload, .succeeds _ =>
      let updated := desk.store.payments[paymentId]?
      some (⟨{ desk.store with
          events := desk.store.events ++ [.paymentRefunded paymentId updated] }, desk.issued⟩,
        .done (.ok updated))
  | .atStripe _, .fails => some (desk, .done (.error .clientError))
  | .read, .fails | .transaction _, .fails | .reload, .fails =>
      some (desk, .done (.error .queryFailed))
  | .done _, _ => none

/-- The steps of a call in a row are the method. -/
theorem refund_solo (desk : RefundDesk) (now : Time) :
    let method := processRefund call.stripe paymentId call.adminId call.amount now
    (solo (refundStep paymentId call (.succeeds now)) 4 desk .read).1.store =
        method.storeAfter desk.store ∧
      (solo (refundStep paymentId call (.succeeds now)) 4 desk .read).2 =
        .done (method.outcome desk.store) := by
  dsimp only
  unfold ServiceM.storeAfter ServiceM.outcome processRefund refundAtStripe
  cases hp : desk.store.payments[paymentId]? with
  | none => simp [solo, refundStep, hp]
  | some payment =>
      by_cases hpaid : payment.status = .paid
      swap
      · simp [solo, refundStep, hp, hpaid]
      by_cases hcard : payment.method = .stripe ∧ (textOrNull payment.stripePaymentId).isSome
      · cases hstripe : call.stripe with
        | notConfigured | rejected =>
            simp [solo, refundStep, hp, hpaid, Payment.byCard, hcard, hstripe]
        | created refundId =>
            cases hamount : (Decimal.ofRat (refundAmount call.amount payment) : Option Amount) with
            | none =>
                simp [solo, refundStep, hp, hpaid, Payment.byCard, hcard, hstripe, hamount,
                  Service.run_toColumn_none _ hamount]
            | some refunded =>
                simp [solo, refundStep, hp, hpaid, Payment.byCard, hcard, hstripe, hamount,
                  Service.run_toColumn_some _ hamount, Store.recordRefund]
      · cases hamount : (Decimal.ofRat (refundAmount call.amount payment) : Option Amount) with
        | none =>
            simp [solo, refundStep, hp, hpaid, Payment.byCard, hcard, hamount,
              Service.run_toColumn_none _ hamount]
        | some refunded =>
            simp [solo, refundStep, hp, hpaid, Payment.byCard, hcard, hamount,
              Service.run_toColumn_some _ hamount, Store.recordRefund]

/-- What a step can do, with what it found. -/
inductive RefundStep (attempt : Attempt) (desk : RefundDesk) :
    RefundPc → RefundDesk → RefundPc → Prop
  | read (payment : Payment) : RefundStep attempt desk .read desk (.atStripe payment)
  | readOther (payment : Payment) (hp : desk.store.payments[paymentId]? = some payment)
      (hcard : payment.byCard = false) :
      RefundStep attempt desk .read desk (.transaction payment)
  | accept (payment : Payment) (haccepts : call.accepted = true) (hattempt : attempt ≠ .fails) :
      RefundStep attempt desk (.atStripe payment)
        ⟨desk.store, desk.issued + stripeUnits (refundAmount call.amount payment)⟩
        (.transaction payment)
  | record (payment : Payment) (refunded : Amount) (now : Time)
      (hrefunded : Decimal.ofRat (refundAmount call.amount payment) = some refunded) :
      RefundStep attempt desk (.transaction payment)
        ⟨desk.store.recordRefund paymentId call payment refunded now, desk.issued⟩ .reload
  | fail (payment : Payment) (e : HttpException)
      (hfails : attempt = .fails ∨
        (Decimal.ofRat (refundAmount call.amount payment) : Option Amount) = none) :
      RefundStep attempt desk (.transaction payment) desk (.done (.error e))
  | reload (events : List DomainEvent) (result : Option Payment) :
      RefundStep attempt desk .reload ⟨{ desk.store with events := events }, desk.issued⟩
        (.done (.ok result))
  | stop (pc : RefundPc) (hpc : ∀ payment, pc ≠ .transaction payment) (e : HttpException) :
      RefundStep attempt desk pc desk (.done (.error e))

variable {paymentId call}

/-- **Inversion**: a step is one of the listed ones. -/
theorem refundStep_cases {attempt : Attempt} {desk desk' : RefundDesk} {pc pc' : RefundPc}
    (h : refundStep paymentId call attempt desk pc = some (desk', pc')) :
    RefundStep paymentId call attempt desk pc desk' pc' := by
  unfold refundStep at h
  split at h
  · -- read
    split at h
    · cases h
      exact .stop _ (by simp) _
    · next payment hp =>
        split at h
        · cases h
          exact .stop _ (by simp) _
        · split at h
          · cases h
            exact .read payment
          · next hcard =>
              cases h
              exact .readOther payment hp (Bool.eq_false_of_not_eq_true hcard)
  · -- atStripe
    split at h
    · next refundId hstripe =>
        cases h
        exact .accept _ (by rw [RefundCall.accepted, hstripe]) (by simp)
    · cases h
      exact .stop _ (by simp) _
  · -- transaction
    split at h
    · next refunded hrefunded =>
        cases h
        exact .record _ refunded _ hrefunded
    · next hnone =>
        cases h
        exact .fail _ _ (Or.inr hnone)
  · -- reload
    cases h
    exact .reload _ _
  · cases h
    exact .stop _ (by simp) _
  · cases h
    exact .stop _ (by simp) _
  · cases h
    exact .fail _ _ (Or.inl rfl)
  · cases h
    exact .stop _ (by simp) _
  · cases h

end Steps

/-! ## The system -/

/-- The calls and the desk they share. -/
abbrev RefundConfig (ι : Type) := Config RefundDesk ι RefundPc

/-- A step of a call; nothing else happens. -/
abbrev RefundMove (ι : Type) := Move ι Attempt Empty

/-- The call has not begun or is finished. -/
def RefundPc.isIdle : RefundPc → Bool
  | .read | .done _ => true
  | .atStripe _ | .transaction _ | .reload => false

/-- The refund of the call is to be recorded. -/
def RefundPc.isRecording : RefundPc → Bool
  | .transaction _ => true
  | _ => false

theorem RefundPc.isRecording_iff {pc : RefundPc} :
    pc.isRecording = true ↔ ∃ payment, pc = .transaction payment := by
  cases pc <;> simp [RefundPc.isRecording]

/-- The refund that the books record for the payment. -/
def recordedRefund (store : Store) (paymentId : PaymentId) : ℚ :=
  match store.payments[paymentId]? with
  | some p => if p.status = .refunded then (p.refundedAmount.map Decimal.toRat).getD 0 else 0
  | none => 0

/-- Stripe has refunded what the books record. -/
def RefundsMatch (paymentId : PaymentId) (desk : RefundDesk) : Prop :=
  (desk.issued : ℚ) = 100 * recordedRefund desk.store paymentId

section System

variable (paymentId : PaymentId) {ι : Type} (calls : ι → RefundCall)

/-- The status of the payment. -/
def RefundDesk.status (desk : RefundDesk) : Option PaymentStatus :=
  desk.store.payments[paymentId]?.map Payment.status

/-- The condition on a step from a program point, `free` saying whether a refund may be
accepted: what Stripe has accepted is recorded. -/
def RefundPc.InTurn (call : RefundCall) (attempt : Attempt) (free : Prop) : RefundPc → Prop
  | .atStripe _ => call.accepted = true → attempt ≠ .fails → free
  | .transaction payment => attempt ≠ .fails ∧
      (Decimal.ofRat (refundAmount call.amount payment) : Option Amount).isSome = true
  | .read | .reload | .done _ => True

instance (call : RefundCall) (attempt : Attempt) (free : Prop) [Decidable free] :
    (pc : RefundPc) → Decidable (pc.InTurn call attempt free)
  | .atStripe _ => inferInstanceAs (Decidable (_ → _ → _))
  | .transaction _ => inferInstanceAs (Decidable (_ ∧ _))
  | .read | .reload | .done _ => inferInstanceAs (Decidable True)

/-- The condition on a step of the system: Stripe accepts only where the payment is still
paid and no other accepted refund waits to be recorded. -/
def RecordedInTurn (c : RefundConfig ι) : RefundMove ι → Prop
  | .process i attempt => (c.pc i).InTurn (calls i) attempt
      (c.shared.status paymentId = some .paid ∧ ∀ j, (c.pc j).isRecording = false)
  | .environment e => e.elim

instance [Fintype ι] (c : RefundConfig ι) :
    (move : RefundMove ι) → Decidable (RecordedInTurn paymentId calls c move)
  | .process i attempt => inferInstanceAs (Decidable ((c.pc i).InTurn (calls i) attempt
      (c.shared.status paymentId = some .paid ∧ ∀ j, (c.pc j).isRecording = false)))
  | .environment e => e.elim

variable [DecidableEq ι]

/-- Concurrent calls of `processRefund` for the payment. -/
def refundSystem : RefundConfig ι → RefundMove ι → Option (RefundConfig ι) :=
  interleave (fun i => refundStep paymentId (calls i)) fun e => e.elim

/-- All calls have arrived, none has begun. -/
def refundStart (desk : RefundDesk) : RefundConfig ι :=
  ⟨desk, fun _ => .read⟩

variable {paymentId calls}

/-- **Alone, a call does what `processRefund` does.** -/
theorem refund_alone {c : RefundConfig ι} {i : ι} (hpc : c.pc i = .read) (now : Time) :
    let method := processRefund (calls i).stripe paymentId (calls i).adminId (calls i).amount now
    ∃ n c', replay (refundSystem paymentId calls) c
        (List.replicate n (.process i (.succeeds now))) = some c' ∧
      c'.shared.store = method.storeAfter c.shared.store ∧
      c'.pc i = .done (method.outcome c.shared.store) := by
  obtain ⟨n, hn⟩ := exists_replay_solo (fun i => refundStep paymentId (calls i))
    (fun e : Empty => e.elim) i (.succeeds now) 4 c
  rw [hpc] at hn
  obtain ⟨hstore, hdone⟩ := refund_solo paymentId (calls i) c.shared now
  exact ⟨n, _, hn, hstore, (Function.update_self ..).trans hdone⟩

/-! ## The books against Stripe -/

variable (paymentId calls)

/-- What holds in every state as long as refunds are recorded in turn. -/
structure Tracked (c : RefundConfig ι) : Prop where
  /-- The payment is by card. -/
  card : ∃ p, c.shared.store.payments[paymentId]? = some p ∧ p.byCard = true
  unique : ∀ i j, (c.pc i).isRecording = true → (c.pc j).isRecording = true → i = j
  /-- While a refund waits to be recorded, the payment is paid, and Stripe has made this
  refund only. -/
  waiting : ∀ i payment, c.pc i = .transaction payment →
    c.shared.status paymentId = some .paid ∧
      c.shared.issued = stripeUnits (refundAmount (calls i).amount payment)
  settled : (∀ i, (c.pc i).isRecording = false) → RefundsMatch paymentId c.shared

end System

section Tracked

variable {paymentId : PaymentId} {ι : Type} {calls : ι → RefundCall}

/-- A payment that is not refunded has no refund recorded. -/
private theorem recordedRefund_of_paid {desk : RefundDesk}
    (h : desk.status paymentId = some .paid) : recordedRefund desk.store paymentId = 0 := by
  obtain ⟨p, hp, hpaid⟩ := Option.map_eq_some_iff.mp h
  simp [recordedRefund, hp, hpaid]

/-- `Math.round` and the column round a validated amount alike. -/
private theorem stripeUnits_eq {amount : Option ℚ} {payment : Payment} {refunded : Amount}
    (hvalid : ∀ q, amount = some q → 0 ≤ q)
    (h : Decimal.ofRat (refundAmount amount payment) = some refunded) :
    (stripeUnits (refundAmount amount payment) : ℚ) = 100 * refunded.toRat := by
  have hunits := Decimal.units_of_ofRat h
  have hscale := Decimal.toRat_mul_scale refunded
  have hround : stripeUnits (refundAmount amount payment) = refunded.units := by
    rw [hunits, stripeUnits]
    -- Everything received is a value of the column; a given amount is not negative.
    have hreceived : round (payment.amountReceived.toRat * 100) =
        roundAway (payment.amountReceived.toRat * 10 ^ 2) := by
      rw [Decimal.toRat_mul_scale, roundAway_intCast]
      exact stripeUnits_toRat payment.amountReceived
    unfold refundAmount
    cases amount with
    | none => exact hreceived
    | some q =>
        dsimp only
        split
        · exact hreceived
        · have hpos : 0 ≤ q * 10 ^ 2 := mul_nonneg (hvalid q rfl) (by norm_num)
          rw [roundAway, if_pos hpos]
          norm_num
  rw [hround, ← hscale]
  ring

variable [DecidableEq ι] {c : RefundConfig ι} {i : ι}

/-- A step of a call that neither was recording nor is, and that leaves payments and
refunds alone. -/
theorem Tracked.quiet (h : Tracked paymentId calls c) {desk : RefundDesk} {pc : RefundPc}
    (hpayments : desk.store.payments = c.shared.store.payments)
    (hissued : desk.issued = c.shared.issued) (hold : (c.pc i).isRecording = false)
    (hnew : pc.isRecording = false) :
    Tracked paymentId calls ⟨desk, Function.update c.pc i pc⟩ := by
  have hsame : ∀ j, (Function.update c.pc i pc j).isRecording = (c.pc j).isRecording :=
    (Function.forall_update_iff c.pc fun j p => p.isRecording = (c.pc j).isRecording).mpr
      ⟨hnew.trans hold.symm, fun _ _ => rfl⟩
  have hstatus : desk.status paymentId = c.shared.status paymentId := by
    rw [RefundDesk.status, hpayments, RefundDesk.status]
  refine ⟨?_, fun j k hj hk => ?_, ?_, fun hnone => ?_⟩
  · rw [hpayments]
    exact h.card
  · exact h.unique j k ((hsame j).symm.trans hj) ((hsame k).symm.trans hk)
  · refine (Function.forall_update_iff c.pc fun j p => ∀ payment, p = .transaction payment →
      desk.status paymentId = some .paid ∧
        desk.issued = stripeUnits (refundAmount (calls j).amount payment)).mpr
      ⟨fun payment hpayment => ?_, fun j _ payment hj => ?_⟩
    · rw [hpayment] at hnew
      cases hnew
    · rw [hstatus, hissued]
      exact h.waiting j payment hj
  · have hmatch := h.settled fun j => (hsame j).symm.trans (hnone j)
    rw [RefundsMatch, recordedRefund] at hmatch ⊢
    rw [hpayments, hissued]
    exact hmatch

/-- **One step** that is taken in turn keeps track of the refunds. -/
theorem Tracked.step (hvalid : ∀ i q, (calls i).amount = some q → 0 ≤ q)
    (h : Tracked paymentId calls c) {attempt : Attempt}
    (hguard : (c.pc i).InTurn (calls i) attempt
      (c.shared.status paymentId = some .paid ∧ ∀ j, (c.pc j).isRecording = false))
    {desk : RefundDesk} {pc : RefundPc}
    (hstep : RefundStep paymentId (calls i) attempt c.shared (c.pc i) desk pc) :
    Tracked paymentId calls ⟨desk, Function.update c.pc i pc⟩ := by
  generalize hpc : c.pc i = old at hstep hguard
  cases hstep with
  | read payment => exact h.quiet rfl rfl (by rw [hpc]; rfl) rfl
  | readOther payment hp hcard =>
      obtain ⟨p, hp', hcard'⟩ := h.card
      obtain rfl : payment = p := Option.some.inj (hp.symm.trans hp')
      rw [hcard] at hcard'
      cases hcard'
  | accept payment haccepts hattempt =>
      obtain ⟨hpaid, hnone⟩ := hguard haccepts hattempt
      have honly : ∀ j, (Function.update c.pc i (.transaction payment) j).isRecording = true →
          j = i :=
        (Function.forall_update_iff c.pc fun j p => p.isRecording = true → j = i).mpr
          ⟨fun _ => rfl, fun j _ hj => by rw [hnone j] at hj; cases hj⟩
      refine ⟨h.card, fun j k hj hk => (honly j hj).trans (honly k hk).symm, ?_, fun hnot => ?_⟩
      · -- Nothing was issued before: the payment is paid and no refund waits.
        have hbefore := h.settled hnone
        rw [RefundsMatch, recordedRefund_of_paid hpaid, mul_zero, Int.cast_eq_zero] at hbefore
        refine (Function.forall_update_iff c.pc fun j p => ∀ payment', p = .transaction payment' →
          c.shared.status paymentId = some .paid ∧
            c.shared.issued + stripeUnits (refundAmount (calls i).amount payment) =
              stripeUnits (refundAmount (calls j).amount payment')).mpr
          ⟨fun payment' hself => ?_, fun j _ payment' hj => ?_⟩
        · rw [RefundPc.transaction.injEq] at hself
          rw [hself, hbefore, zero_add]
          exact ⟨hpaid, rfl⟩
        · have hrec := hnone j
          rw [hj] at hrec
          cases hrec
      · have hself := hnot i
        dsimp only at hself
        rw [Function.update_self] at hself
        cases hself
  | record payment refunded now hrefunded =>
      obtain ⟨hpaid, hissued⟩ := h.waiting i payment hpc
      obtain ⟨p, hp, hcard⟩ := h.card
      have hrow : (c.shared.store.recordRefund paymentId (calls i) payment refunded
          now).payments[paymentId]? = some (p.asRefunded refunded (calls i).adminId now) := by
        simp [Store.recordRefund, hp]
      have hnone : ∀ j, (Function.update c.pc i .reload j).isRecording = false := by
        refine (Function.forall_update_iff c.pc fun _ p => p.isRecording = false).mpr
          ⟨rfl, fun j hj => Bool.of_not_eq_true fun hrec => hj ?_⟩
        exact h.unique j i hrec (by rw [hpc]; rfl)
      refine ⟨⟨_, hrow, hcard⟩, fun j k hj => ?_, fun j payment' hj => ?_, fun _ => ?_⟩
      · rw [hnone j] at hj
        cases hj
      · have hrec := hnone j
        rw [RefundPc.isRecording_iff.mpr ⟨payment', hj⟩] at hrec
        cases hrec
      · show (c.shared.issued : ℚ) = _
        rw [hissued, stripeUnits_eq (hvalid i) hrefunded, recordedRefund, hrow]
        rfl
  | fail payment e hfails =>
      obtain ⟨hattempt, hfits⟩ := hguard
      rcases hfails with hfails | hnone
      · exact absurd hfails hattempt
      · rw [hnone] at hfits
        cases hfits
  | reload events result => exact h.quiet rfl rfl (by rw [hpc]; rfl) rfl
  | stop old hnot e =>
      refine h.quiet rfl rfl (Bool.of_not_eq_true fun hrec => ?_) rfl
      obtain ⟨payment, hpayment⟩ := RefundPc.isRecording_iff.mp hrec
      exact hnot payment (hpc ▸ hpayment)

end Tracked

/-! ## Runs of two refunds -/

namespace Demo

/-- A stay was paid by card. -/
def paidByCard : RefundDesk where
  store := Final (exec dates) (Store.start []) (redelivery.take 3)
  issued := 0

/-- Two administrators refund 100000 each, of the 206800 captured. -/
def partRefunds : Fin 2 → RefundCall := fun _ => ⟨.created "re", 5, some 100000⟩

/-- The next call that the call `i` awaits returns. -/
def nextRefund (i : Fin 2) : RefundMove (Fin 2) := .process i (.succeeds 0)

private theorem paidByCard_card :
    ∃ p, paidByCard.store.payments[0]? = some p ∧ p.byCard = true := by
  have hrow : paidByCard.store.payments[0]?.map Payment.byCard = some true := by decide +kernel
  exact Option.map_eq_some_iff.mp hrow

private theorem paidByCard_matches : RefundsMatch 0 paidByCard := by
  have hrecorded : recordedRefund paidByCard.store 0 = 0 := by decide +kernel
  rw [RefundsMatch, hrecorded, mul_zero]
  rfl

end Demo

end StayRide
