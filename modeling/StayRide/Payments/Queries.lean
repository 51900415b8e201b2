import StayRide.Payments.Service

/-!
# Reading payments

`PaymentsService.getPaymentStatus` and `PaymentsService.getUserPayments`.  Both show a payment
to its payer and to nobody else, whatever the role.
-/

namespace StayRide

open Lib Service

def getPaymentStatus (paymentId : PaymentId) (userId : UserId) : Service Payment := do
  let some payment ← findPayment paymentId | throw (.notFound "Paiement introuvable")
  if payment.payerId ≠ userId then
    throw (.forbidden "Accès refusé")
  return payment

/-- At most fifty payments of the user with their keys, the latest first. -/
def getUserPayments (userId : UserId) : Service (List (PaymentId × Payment)) := do
  let payments := (← get).payments
  let latestFirst := (payments.selectWhere (·.payerId = userId)).mergeSort fun x y =>
    decide (y.2.createdAt ≤ x.2.createdAt)
  return latestFirst.take 50

section Queries

variable {store : Store} {paymentId : PaymentId} {userId : UserId} {p : Payment}

/-- What `getPaymentStatus` returns for a stored payment. -/
theorem getPaymentStatus_outcome (hp : store.payments[paymentId]? = some p) :
    (getPaymentStatus paymentId userId).outcome store =
      if p.payerId ≠ userId then .error (.forbidden "Accès refusé") else .ok p := by
  unfold ServiceM.outcome getPaymentStatus
  by_cases h : p.payerId = userId
  · simp [hp, h]
  · simp [hp, h]

theorem getPaymentStatus_storeAfter (paymentId : PaymentId) (userId : UserId) :
    (getPaymentStatus paymentId userId).storeAfter store = store := by
  unfold ServiceM.storeAfter getPaymentStatus
  cases hp : store.payments[paymentId]? with
  | none => simp [hp]
  | some p =>
      by_cases h : p.payerId = userId
      · simp [hp, h]
      · simp [hp, h]

/-- The history of a user with at most fifty payments shows them all. -/
theorem mem_getUserPayments_iff
    (hfew : (store.payments.selectWhere (·.payerId = userId)).length ≤ 50) :
    (∃ shown, (getUserPayments userId).outcome store = .ok shown ∧ (paymentId, p) ∈ shown) ↔
      store.payments[paymentId]? = some p ∧ p.payerId = userId := by
  have hall : ((store.payments.selectWhere (·.payerId = userId)).mergeSort fun x y =>
      decide (y.2.createdAt ≤ x.2.createdAt)).length ≤ 50 := by
    rw [List.length_mergeSort]
    exact hfew
  have hmem : (paymentId, p) ∈ store.payments.selectWhere (·.payerId = userId) ↔
      store.payments[paymentId]? = some p ∧ p.payerId = userId :=
    Table.mem_selectWhere.trans (and_congr_right fun _ => decide_eq_true_iff)
  constructor
  · rintro ⟨shown, hshown, hp⟩
    obtain rfl := Except.ok.inj hshown
    exact hmem.mp (List.mem_mergeSort.mp (List.mem_of_mem_take hp))
  · intro hp
    refine ⟨_, rfl, ?_⟩
    rw [List.take_of_length_le hall]
    exact List.mem_mergeSort.mpr (hmem.mpr hp)

end Queries

end StayRide
