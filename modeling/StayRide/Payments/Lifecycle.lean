import StayRide.Payments.RefundLedger

/-!
# The lifecycle of a payment

A payment that is paid should only ever become refunded, a refunded payment
should stay refunded, and an administrator's confirmation should not bring a
failed payment back.  The code checks the status of a payment in two places only:
a confirmation refuses what is already paid, and a refund refuses what is not.
Rejections and the two webhook handlers write whatever status they find.

`paymentLifecycle_iff` says which histories respect the lifecycle: those in which
no rejection and no failed intent meets a paid or refunded payment, no captured
intent meets a refunded one, and no accepted confirmation meets a failed or
refunded one.  The condition is on the call and on the payment it finds; each part
of it is the check that the code leaves out.
-/

namespace StayRide

open Lib

variable (lib : DateLib)

/-! ## The lifecycle -/

/-- What a status may have become: nothing is asked of a payment before it is paid. -/
def PaymentStatus.mayHaveBecome (new old : PaymentStatus) : Bool :=
  match old with
  | .paid => new = .paid || new = .refunded
  | .refunded => new = .refunded
  | _ => true

theorem PaymentStatus.mayHaveBecome_refl (status : PaymentStatus) :
    status.mayHaveBecome status = true := by
  cases status <;> rfl

theorem PaymentStatus.mayHaveBecome_trans {new mid old : PaymentStatus}
    (h : mid.mayHaveBecome old = true) (h' : new.mayHaveBecome mid = true) :
    new.mayHaveBecome old = true := by
  revert h h'
  cases old <;> cases mid <;> cases new <;> decide

/-- A payment and what it has become: paid changes to refunded only, refunded never
changes. -/
def Payment.KeepsSettled (old new : Payment) : Prop :=
  new.status.mayHaveBecome old.status = true

/-- **The lifecycle**, of one call: every payment keeps settled, and no confirmation by
an administrator makes a failed payment paid or partially paid. -/
structure FollowsLifecycle (before after : Table Payment) (call : Call) : Prop where
  settled : Table.Evolves Payment.KeepsSettled before after
  failed : ∀ paymentId adminId data, call = .confirmManual paymentId adminId data →
    ∀ (id : PaymentId) (old new : Payment), before[id]? = some old → old.status = .failed →
      after[id]? = some new → new.status ≠ .paid ∧ new.status ≠ .partiallyPaid

/-- Over a whole history: what a payment has become by a later state. -/
def SettledForGood (store : Store) (rs : List Request) : Prop :=
  ∀ before after : List Request, before ++ after <+: rs →
    Table.Evolves Payment.KeepsSettled (Final (exec lib) store before).payments
      (Final (exec lib) store (before ++ after)).payments

/-- The condition on a call: a payment that it gives a new status has one that allows
it. -/
def LeavesSettledAlone (store : Store) (r : Request) : Prop :=
  match r.call with
  | .confirmManual paymentId _ data =>
      ∀ payment amount, confirmablePayment store paymentId data = some (payment, amount) →
        payment.status ≠ .failed ∧ payment.status ≠ .refunded
  | .rejectPayment paymentId _ _ =>
      ∀ payment, store.payments[paymentId]? = some payment →
        payment.status ≠ .paid ∧ payment.status ≠ .refunded
  | .handleStripeWebhook (.paymentIntentSucceeded intent) =>
      ∀ paymentId payment amount,
        capturedPayment store intent = some (paymentId, payment, amount) →
          payment.status ≠ .refunded
  | .handleStripeWebhook (.paymentIntentPaymentFailed intent) =>
      ∀ (paymentId : PaymentId) (payment : Payment),
        store.payments[paymentId]? = some payment →
          payment.stripePaymentId = some intent.id →
            payment.status ≠ .paid ∧ payment.status ≠ .refunded
  | _ => True

/-! ## One call -/

section Step

variable {store : Store}

private theorem keepsSettled_refl (p : Payment) : p.KeepsSettled p :=
  p.status.mayHaveBecome_refl

private theorem keepsSettled_trans (old mid new : Payment) (h : old.KeepsSettled mid)
    (h' : mid.KeepsSettled new) : old.KeepsSettled new :=
  PaymentStatus.mayHaveBecome_trans h h'

/-- For a call that is no confirmation the lifecycle is about settled payments only. -/
private theorem followsLifecycle_iff_evolves {before after : Table Payment} {call : Call}
    (h : ∀ paymentId adminId data, call ≠ .confirmManual paymentId adminId data) :
    FollowsLifecycle before after call ↔ Table.Evolves Payment.KeepsSettled before after :=
  ⟨fun hf => hf.settled,
    fun he => ⟨he, fun paymentId adminId data hcall => absurd hcall (h paymentId adminId data)⟩⟩

theorem lifecycle_confirmManual_iff (now : Time) (paymentId : PaymentId) (adminId : UserId)
    (data : ConfirmPaymentDto) :
    FollowsLifecycle store.payments
        (exec lib store ⟨now, .confirmManual paymentId adminId data⟩).payments
        (.confirmManual paymentId adminId data) ↔
      LeavesSettledAlone store ⟨now, .confirmManual paymentId adminId data⟩ := by
  rw [exec_payments]
  simp only [paymentEffectOf, LeavesSettledAlone]
  cases hc : confirmablePayment store paymentId data with
  | none =>
      refine iff_of_true ⟨Table.Evolves.refl keepsSettled_refl _, ?_⟩ (fun _ _ h => by cases h)
      intro _ _ _ _ id old new hold hfailed hnew
      obtain rfl : old = new := Option.some.inj (hold.symm.trans hnew)
      rw [hfailed]
      decide
  | some found =>
      obtain ⟨payment, amount⟩ := found
      obtain ⟨hp, hnotPaid, -⟩ := confirmablePayment_eq_some hc
      simp only [Option.some.injEq, Prod.mk.injEq, PaymentEffect.apply]
      generalize hgiven : (if data.amountReceived < payment.amountExpected.toRat then
        PaymentStatus.partiallyPaid else PaymentStatus.paid) = given
      have hreceived : given = .partiallyPaid ∨ given = .paid := by
        rw [← hgiven]
        split
        · exact Or.inl rfl
        · exact Or.inr rfl
      constructor
      · rintro ⟨hsettled, hfailed⟩ p a ⟨rfl, rfl⟩
        have hrow := (Table.evolves_updateById_iff keepsSettled_refl).mp hsettled payment hp
        refine ⟨fun hstatus => ?_, fun hstatus => ?_⟩
        · obtain ⟨hnot, hnot'⟩ := hfailed paymentId adminId data rfl paymentId payment _ hp
            hstatus (by rw [Table.getElem?_updateById, hp, Option.map_some, if_pos rfl])
          exact hreceived.elim hnot' hnot
        · have hbecome : given.mayHaveBecome payment.status = true := hrow
          rw [hstatus] at hbecome
          rcases hreceived with rfl | rfl <;> cases hbecome
      · intro h
        obtain ⟨hnotFailed, hnotRefunded⟩ := h payment amount ⟨rfl, rfl⟩
        refine ⟨(Table.evolves_updateById_iff keepsSettled_refl).mpr fun p hp' => ?_, ?_⟩
        · obtain rfl : payment = p := Option.some.inj (hp.symm.trans hp')
          show given.mayHaveBecome payment.status = true
          cases hstatus : payment.status <;> first | rfl | contradiction
        · intro _ _ _ _ id old new hold hfailed hnew
          obtain ⟨old', hold', rfl⟩ := Table.getElem?_updateById_eq_some.mp hnew
          obtain rfl : old = old' := Option.some.inj (hold.symm.trans hold')
          by_cases hid : id = paymentId
          · subst hid
            obtain rfl : payment = old := Option.some.inj (hp.symm.trans hold)
            exact absurd hfailed hnotFailed
          · rw [if_neg hid, hfailed]
            decide

/-- **One call** follows the lifecycle exactly when it leaves settled payments alone. -/
theorem followsLifecycle_exec_iff (store : Store) (r : Request) :
    FollowsLifecycle store.payments (exec lib store r).payments r.call ↔
      LeavesSettledAlone store r := by
  obtain ⟨now, call⟩ := r
  cases call with
  | confirmManual paymentId adminId data =>
      exact lifecycle_confirmManual_iff lib now paymentId adminId data
  | rejectPayment paymentId adminId reason =>
      rw [followsLifecycle_iff_evolves (by simp), exec_payments]
      simp only [paymentEffectOf, PaymentEffect.apply, LeavesSettledAlone]
      rw [Table.evolves_updateById_iff keepsSettled_refl]
      refine forall₂_congr fun p _ => ?_
      show PaymentStatus.failed.mayHaveBecome p.status = true ↔ _
      cases p.status <;> decide
  | handleStripeWebhook event =>
      rw [followsLifecycle_iff_evolves (by simp), exec_payments]
      cases event with
      | paymentIntentSucceeded intent =>
          simp only [paymentEffectOf, LeavesSettledAlone]
          cases hc : capturedPayment store intent with
          | none =>
              exact iff_of_true (Table.Evolves.refl keepsSettled_refl _) (fun _ _ _ h => by cases h)
          | some found =>
              obtain ⟨paymentId, payment, amount⟩ := found
              obtain ⟨hp, -, -⟩ := capturedPayment_eq_some hc
              simp only [PaymentEffect.apply, Option.some.injEq, Prod.mk.injEq]
              rw [Table.evolves_updateById_iff keepsSettled_refl]
              have hpaid : ∀ p : Payment, p.KeepsSettled (p.asCaptured amount now) ↔
                  p.status ≠ .refunded := by
                intro p
                show PaymentStatus.paid.mayHaveBecome p.status = true ↔ _
                cases p.status <;> decide
              constructor
              · rintro h _ p _ ⟨rfl, rfl, rfl⟩
                exact (hpaid payment).mp (h payment hp)
              · intro h p hp'
                obtain rfl : payment = p := Option.some.inj (hp.symm.trans hp')
                exact (hpaid payment).mpr (h paymentId payment amount ⟨rfl, rfl, rfl⟩)
      | paymentIntentPaymentFailed intent =>
          simp only [paymentEffectOf, PaymentEffect.apply, LeavesSettledAlone]
          rw [Table.evolves_updateWhere_iff keepsSettled_refl]
          simp only [decide_eq_true_eq]
          refine forall₄_congr fun _ p _ _ => ?_
          show PaymentStatus.failed.mayHaveBecome p.status = true ↔ _
          cases p.status <;> decide
      | invalidSignature | chargeRefunded | otherType =>
          exact iff_of_true (Table.Evolves.refl keepsSettled_refl _) trivial
  | processRefund stripe paymentId adminId amount =>
      rw [followsLifecycle_iff_evolves (by simp), exec_payments]
      simp only [paymentEffectOf]
      refine iff_of_true ?_ trivial
      cases hr : refundablePayment store stripe paymentId amount with
      | none => exact Table.Evolves.refl keepsSettled_refl _
      | some found =>
          refine (Table.evolves_updateById_iff keepsSettled_refl).mpr fun p _ => ?_
          show PaymentStatus.refunded.mayHaveBecome p.status = true
          cases p.status <;> rfl
  | initiatePayment settings stripe bookingId method customerId phone reference =>
      rw [followsLifecycle_iff_evolves (by simp), exec_payments]
      simp only [paymentEffectOf]
      refine iff_of_true ?_ trivial
      cases payableBooking store settings bookingId method customerId with
      | none => exact Table.Evolves.refl keepsSettled_refl _
      | some booking => exact Table.Evolves.insertRow keepsSettled_refl _ _
  | create | cancel | complete | assignConcierge | startCheckin | collectDeposit
  | confirmCheckin | startCheckout | confirmCheckout | autoCompleteBookings
  | cancelExpiredPendingBookings =>
      rw [followsLifecycle_iff_evolves (by simp), exec_payments]
      exact iff_of_true (Table.Evolves.refl keepsSettled_refl _) trivial

end Step

/-! ## Histories -/

/-- A history whose calls follow the lifecycle keeps its payments settled. -/
private theorem settled_run {store : Store} {rs : List Request}
    (h : Guarded (exec lib)
      (fun s r => FollowsLifecycle s.payments (exec lib s r).payments r.call) store rs) :
    Table.Evolves Payment.KeepsSettled store.payments (Final (exec lib) store rs).payments := by
  induction rs generalizing store with
  | nil => exact Table.Evolves.refl keepsSettled_refl _
  | cons r rs ih =>
      exact h.1.settled.trans keepsSettled_trans (ih h.2)

/-- **Which histories respect the lifecycle of payments.**  Every call of a history
follows the lifecycle, and every payment stays settled for the rest of it, if and only
if every call of the history leaves settled payments alone. -/
theorem paymentLifecycle_iff (store : Store) (rs : List Request) :
    (Guarded (exec lib)
        (fun s r => FollowsLifecycle s.payments (exec lib s r).payments r.call) store rs ∧
      SettledForGood lib store rs) ↔
      Guarded (exec lib) LeavesSettledAlone store rs := by
  rw [← guarded_congr (followsLifecycle_exec_iff lib)]
  refine ⟨And.left, fun h => ⟨h, ?_⟩⟩
  rintro before after ⟨rest, hrun⟩
  have hafter := (guarded_append.mp (guarded_append.mp (hrun ▸ h)).1).2
  rw [final_append]
  exact settled_run lib hafter

/-- A stay is paid in cash and confirmed, and then the payment is rejected. -/
def Demo.lateRejection : List Request :=
  [⟨0, .create (Demo.villa "2025-07-01" "2025-07-05") 1⟩, ⟨1, Demo.payCash 0 1⟩,
    ⟨2, Demo.confirm 0 206800⟩, ⟨3, .rejectPayment 0 5 none⟩]

/-- **The late rejection takes a paid payment back.** -/
theorem lateRejection_unsettles :
    ¬ (Guarded (exec Demo.dates)
        (fun s r => FollowsLifecycle s.payments (exec Demo.dates s r).payments r.call)
        (Store.start []) Demo.lateRejection ∧
      SettledForGood Demo.dates (Store.start []) Demo.lateRejection) := by
  rintro ⟨-, h⟩
  have hbefore : (Final (exec Demo.dates) (Store.start [])
      (Demo.lateRejection.take 3)).payments[0]?.map Payment.status = some .paid := by
    decide +kernel
  have hafter : (Final (exec Demo.dates) (Store.start [])
      Demo.lateRejection).payments[0]?.map Payment.status = some .failed := by
    decide +kernel
  obtain ⟨old, hold, hpaid⟩ := Option.map_eq_some_iff.mp hbefore
  obtain ⟨new, hnew, hkept⟩ := h (Demo.lateRejection.take 3) (Demo.lateRejection.drop 3)
    (List.prefix_refl _) 0 old hold
  have hfailed : new.status = .failed := by
    have hmapped := congrArg (Option.map Payment.status) hnew
    exact Option.some.inj (hmapped.symm.trans hafter)
  rw [Payment.KeepsSettled, hpaid, hfailed] at hkept
  cases hkept

end StayRide
