import StayRide.Payments.ConcurrentRefund

/-!
# Amounts sent to Stripe

Three places convert between the francs of the books and the integers that Stripe
counts in.  `createStripeIntent` asks for a hundred units per franc, `handleStripeSuccess`
records a franc per hundred units captured, and `processRefund` asks for a hundred units
per franc again.  They agree with each other: a full refund sends back the integer that
was captured (`refundParams_captured`).

They do not agree with Stripe, for which XAF has no decimals and a unit is a franc.  The
three amounts keep their value exactly for a payment of nothing
(`stripe_amounts_keep_value_iff`); for every other payment a hundred times the amount is
collected.

Amounts are values of the column, with two decimals and at most ten digits before the
point.  A double holds them, and their hundredfold, so precisely that `Math.round` returns
the exact number of hundredths, which is why rational numbers stand for doubles here.
-/

namespace StayRide

open Lib

/-! ## The requests -/

/-- The parameters of `paymentIntents.create`, with the metadata. -/
structure IntentParams where
  amount : ℤ
  currency : String
  bookingId : BookingId
  paymentId : PaymentId
  reference : String
  deriving DecidableEq

/-- What `createStripeIntent` asks Stripe for; the currency of the payment is not read. -/
def intentParams (paymentId : PaymentId) (payment : Payment) : IntentParams where
  amount := stripeUnits payment.amountExpected.toRat
  currency := "xaf"
  bookingId := payment.bookingId
  paymentId := paymentId
  reference := payment.reference

/-- The parameters of `refunds.create`. -/
structure RefundParams where
  paymentIntent : String
  amount : ℤ
  deriving DecidableEq

/-- What `processRefund` asks Stripe for, if it asks at all. -/
def refundParams (amount : Option ℚ) (payment : Payment) : Option RefundParams :=
  if payment.method = .stripe then
    (textOrNull payment.stripePaymentId).map fun intentId =>
      ⟨intentId, stripeUnits (refundAmount amount payment)⟩
  else none

/-- Stripe is asked for the payments by card. -/
theorem refundParams_isSome (amount : Option ℚ) (payment : Payment) :
    (refundParams amount payment).isSome = payment.byCard := by
  unfold refundParams Payment.byCard
  by_cases hmethod : payment.method = .stripe
  · simp [hmethod]
  · simp [hmethod]

/-- The francs that Stripe collects: XAF is a currency without decimals. -/
def PaymentIntent.francs (intent : PaymentIntent) : ℚ :=
  intent.amountReceived

/-! ## A payment by card, from the intent to the refund -/

section RoundTrip

variable (store : Store) (paymentId : PaymentId) (payment : Payment) (intentId : String)
  (now : Time)

/-- A payment by card that gets the intent.  The ids of Stripe are not empty, and no
payment has this one yet. -/
structure GetsIntent : Prop where
  row : store.payments[paymentId]? = some payment
  card : payment.method = .stripe
  fresh : store.payments.findWhere (·.stripePaymentId = some intentId) = none
  named : intentId ≠ ""

/-- The intent, once everything it asked for is captured. -/
def capturedInFull : PaymentIntent :=
  ⟨intentId, (intentParams paymentId payment).amount.toNat⟩

/-- The store after the intent was made and the capture was delivered. -/
def afterCapture : Store :=
  (handleStripeSuccess (capturedInFull paymentId payment intentId) now).storeAfter
    ((createStripeIntent paymentId payment (.created intentId)).storeAfter store)

/-- The amounts keep their value on the way to Stripe and back. -/
structure KeepsValue : Prop where
  /-- Stripe is asked for the amount in francs. -/
  sent : (intentParams paymentId payment).amount = round payment.amountExpected.toRat
  /-- The books record what Stripe collects. -/
  recorded : (afterCapture store paymentId payment intentId now).payments[paymentId]?.map
    (fun captured => captured.amountReceived.toRat) =
      some (capturedInFull paymentId payment intentId).francs
  /-- A refund of everything received sends back the integer that was captured. -/
  refunded : ∀ captured, (afterCapture store paymentId payment intentId now).payments[paymentId]? =
    some captured → ∀ amount, refundAmount amount captured = captured.amountReceived.toRat →
    refundParams amount captured =
      some ⟨intentId, (capturedInFull paymentId payment intentId).amountReceived⟩

variable {store paymentId payment intentId}

/-- An amount that is not negative is captured as its hundredths. -/
theorem capturedInFull_amountReceived (ha : 0 ≤ payment.amountExpected.toRat) :
    ((capturedInFull paymentId payment intentId).amountReceived : ℤ) =
      payment.amountExpected.units := by
  have hzero : (Decimal.zero : Amount).toRat ≤ payment.amountExpected.toRat := by
    rw [Decimal.toRat_zero]
    exact ha
  have hunits : 0 ≤ payment.amountExpected.units := Decimal.toRat_le_toRat.mp hzero
  show (((intentParams paymentId payment).amount.toNat : ℕ) : ℤ) = _
  rw [intentParams, stripeUnits_toRat, Int.toNat_of_nonneg hunits]

/-- The capture records the amount that was expected. -/
theorem afterCapture_row (h : GetsIntent store paymentId payment intentId)
    (ha : 0 ≤ payment.amountExpected.toRat) :
    (afterCapture store paymentId payment intentId now).payments[paymentId]? =
      some ((payment.withIntent intentId).asCaptured payment.amountExpected now) := by
  have hopened : (createStripeIntent paymentId payment (.created intentId)).storeAfter store =
      { store with
        payments := store.payments.updateById paymentId (Payment.withIntent intentId) } := by
    simp [ServiceM.storeAfter, createStripeIntent]
  have hfound : (store.payments.updateById paymentId (Payment.withIntent intentId)).findWhere
      (·.stripePaymentId = some (capturedInFull paymentId payment intentId).id) =
        some (paymentId, payment.withIntent intentId) :=
    Table.findWhere_updateById_of_none h.fresh h.row
      (by simp [Payment.withIntent, capturedInFull])
  have hvalue : ((capturedInFull paymentId payment intentId).amountReceived / 100 : ℚ) =
      payment.amountExpected.toRat := by
    rw [← Int.cast_natCast, capturedInFull_amountReceived ha, ← Decimal.toRat_mul_scale]
    ring
  have hcaptured : capturedPayment ((createStripeIntent paymentId payment
      (.created intentId)).storeAfter store) (capturedInFull paymentId payment intentId) =
      some (paymentId, payment.withIntent intentId, payment.amountExpected) := by
    rw [capturedPayment, hopened, hfound]
    simp only [hvalue, Decimal.ofRat_toRat, Option.map_some]
  rw [afterCapture, handleStripeSuccess_storeAfter, hcaptured, hopened]
  simp only [Table.getElem?_updateById, h.row, Option.map_some, if_true]

/-- **A full refund sends back the integer that was captured.** -/
theorem refundParams_captured (h : GetsIntent store paymentId payment intentId)
    (ha : 0 ≤ payment.amountExpected.toRat) {captured : Payment}
    (hrow : (afterCapture store paymentId payment intentId now).payments[paymentId]? =
      some captured) {amount : Option ℚ}
    (hfull : refundAmount amount captured = captured.amountReceived.toRat) :
    refundParams amount captured =
      some ⟨intentId, (capturedInFull paymentId payment intentId).amountReceived⟩ := by
  rw [afterCapture_row now h ha, Option.some.injEq] at hrow
  subst hrow
  have hmethod : ((payment.withIntent intentId).asCaptured payment.amountExpected now).method =
      .stripe := h.card
  have hid : textOrNull ((payment.withIntent intentId).asCaptured payment.amountExpected
      now).stripePaymentId = some intentId := by
    simp [textOrNull, Payment.asCaptured, Payment.withIntent, Option.filter_some, h.named]
  have hunits : stripeUnits ((payment.withIntent intentId).asCaptured payment.amountExpected
      now).amountReceived.toRat = payment.amountExpected.units := stripeUnits_toRat _
  rw [refundParams, if_pos hmethod, hid, hfull, hunits, capturedInFull_amountReceived ha]
  rfl

/-- **Amounts keep their value only where there is none**: what Stripe is asked for and
what the books record are the francs that are due and collected exactly when nothing is
due. -/
theorem stripe_amounts_keep_value_iff (h : GetsIntent store paymentId payment intentId)
    (ha : 0 ≤ payment.amountExpected.toRat) :
    KeepsValue store paymentId payment intentId now ↔ payment.amountExpected.toRat = 0 := by
  have hunits : payment.amountExpected.toRat * 100 = payment.amountExpected.units := by
    rw [← Decimal.toRat_mul_scale]
    norm_num
  have hfrancs : (capturedInFull paymentId payment intentId).francs =
      payment.amountExpected.toRat * 100 := by
    rw [hunits, PaymentIntent.francs, ← Int.cast_natCast, capturedInFull_amountReceived ha]
  constructor
  · intro hkeeps
    have hrecorded := hkeeps.recorded
    rw [afterCapture_row now h ha, hfrancs, Option.map_some, Option.some.injEq] at hrecorded
    change payment.amountExpected.toRat = payment.amountExpected.toRat * 100 at hrecorded
    linarith
  · intro hzero
    refine ⟨?_, ?_, fun captured hrow amount hfull => refundParams_captured now h ha hrow hfull⟩
    · show stripeUnits payment.amountExpected.toRat = _
      rw [hzero, stripeUnits, zero_mul]
    · rw [afterCapture_row now h ha, hfrancs, hzero, zero_mul]
      exact congrArg some hzero

end RoundTrip

namespace Demo

/-- A payment by card that expects this amount. -/
def cardPayment (amount : Amount) : Payment where
  bookingId := 0
  payerId := 1
  method := .stripe
  status := .created
  amountExpected := amount
  phoneNumber := none
  amountReceived := Decimal.zero
  currency := "XAF"
  reference := "SR-0"
  stripePaymentId := none
  confirmedBy := none
  confirmedAt := none
  notes := none
  refundedAmount := none
  refundedAt := none
  createdAt := 0

def cardStore (amount : Amount) : Store :=
  { Store.start [] with payments := [cardPayment amount] }

theorem cardStore_getsIntent (amount : Amount) :
    GetsIntent (cardStore amount) 0 (cardPayment amount) "pi" :=
  ⟨rfl, rfl, rfl, by decide⟩

/-- Ten thousand francs. -/
def tenThousand : Amount := ⟨1000000, by norm_num⟩

end Demo

section Examples

open Demo

/-- A stay that costs nothing is paid and refunded right. -/
theorem stripe_amounts_keep_value_iff_free :
    KeepsValue (cardStore Decimal.zero) 0 (cardPayment Decimal.zero) "pi" 0 ∧
      ¬ KeepsValue (cardStore tenThousand) 0 (cardPayment tenThousand) "pi" 0 := by
  have hpositive : (cardPayment tenThousand).amountExpected.toRat = 10000 := by
    norm_num [cardPayment, tenThousand, Decimal.toRat]
  constructor
  · exact (stripe_amounts_keep_value_iff 0 (cardStore_getsIntent Decimal.zero)
      (by simp [cardPayment])).mpr (by simp [cardPayment])
  · rw [stripe_amounts_keep_value_iff 0 (cardStore_getsIntent tenThousand)
      (by rw [hpositive]; norm_num), hpositive]
    norm_num

/-- **A hundred times the price.**  A payment of 10000 XAF is sent as a million units,
which Stripe collects as a million francs; the books record 10000. -/
theorem card_charged_hundredfold :
    (intentParams 0 (cardPayment tenThousand)).amount = 1000000 ∧
      (intentParams 0 (cardPayment tenThousand)).currency = "xaf" ∧
      (capturedInFull 0 (cardPayment tenThousand) "pi").francs = 1000000 ∧
      (afterCapture (cardStore tenThousand) 0 (cardPayment tenThousand) "pi" 0).payments.map
        (fun p => p.amountReceived.toRat) = [10000] ∧
      ¬ KeepsValue (cardStore tenThousand) 0 (cardPayment tenThousand) "pi" 0 := by
  have hsent : (intentParams 0 (cardPayment tenThousand)).amount = 1000000 :=
    stripeUnits_toRat tenThousand
  have hrecorded : (afterCapture (cardStore tenThousand) 0 (cardPayment tenThousand) "pi"
      0).payments.map (fun p => p.amountReceived.toRat) = [10000] := by
    decide +kernel
  refine ⟨hsent, rfl, ?_, hrecorded, fun hkeeps => ?_⟩
  · simp [capturedInFull, PaymentIntent.francs, hsent]
  · have hround := hsent.symm.trans hkeeps.sent
    have hfrancs : round (cardPayment tenThousand).amountExpected.toRat = 10000 := by
      decide +kernel
    rw [hfrancs] at hround
    norm_num at hround

end Examples

end StayRide
