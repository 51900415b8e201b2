import StayRide.Payments.RefundLedger

/-!
# Instalments

A partial payment may be confirmed again: `confirmManual` refuses paid payments only.  The
calls would add up to instalments if the amount received were the sum of what the calls
confirmed.  But a call stores its own amount in place of the amount received, and compares
its own amount with the one expected.

Next to the store stand the amounts confirmed so far (`Instalments`).  `instalments_add_up_iff`
says which sequences of successful calls add up: those in which only the last call confirms
any money, an amount that the column stores unrounded and that is not less than what the
payment had received before.
-/

namespace StayRide

open Lib

/-- The arguments of a `confirmManual` for the payment. -/
structure Confirmation where
  adminId : UserId
  data : ConfirmPaymentDto
  now : Time

/-- The store, and the amounts confirmed so far. -/
structure Instalments where
  store : Store
  paid : List ℚ

section Confirmations

variable (paymentId : PaymentId)

/-- One call. -/
def Instalments.confirm (s : Instalments) (c : Confirmation) : Instalments :=
  ⟨(confirmManual paymentId c.adminId c.data c.now).storeAfter s.store,
    s.paid ++ [c.data.amountReceived]⟩

/-- The call succeeds, and confirms an amount that is not negative. -/
def Accepted (s : Instalments) (c : Confirmation) : Prop :=
  (confirmManual paymentId c.adminId c.data c.now).succeeds s.store = true ∧
    0 ≤ c.data.amountReceived

instance (s : Instalments) (c : Confirmation) : Decidable (Accepted paymentId s c) :=
  inferInstanceAs (Decidable (_ ∧ _))

/-- The amount received, as the payment records it. -/
def Instalments.received (s : Instalments) : Option ℚ :=
  s.store.payments[paymentId]?.map fun payment => payment.amountReceived.toRat

/-- Payment and booking show the sum of the amounts. -/
structure ShowsSum (payment : Payment) (booking : Booking) (sum : ℚ) : Prop where
  received : payment.amountReceived.toRat = sum
  complete : payment.status = .paid ∧ booking.status = .confirmed ↔
    payment.amountExpected.toRat ≤ sum
  partly : sum < payment.amountExpected.toRat → payment.status = .partiallyPaid

/-- Once a call was made, the payment and its booking show the sum of the amounts. -/
def AddsUp (s : Instalments) : Prop :=
  s.paid ≠ [] → ∃ payment booking, s.store.payments[paymentId]? = some payment ∧
    s.store.bookings[payment.bookingId]? = some booking ∧ ShowsSum payment booking s.paid.sum

/-- The call does not lower the amount received. -/
def KeepsReceived (s : Instalments) (c : Confirmation) : Prop :=
  ∀ before ∈ s.received paymentId, ∀ after ∈ (s.confirm paymentId c).received paymentId,
    before ≤ after

/-- The first money: nothing was confirmed before, and the amount is a value of the column,
not less than the amount received so far. -/
def FirstMoney (s : Instalments) (c : Confirmation) : Prop :=
  s.paid.sum = 0 ∧ (∃ amount : Amount, amount.toRat = c.data.amountReceived) ∧
    ∀ before ∈ s.received paymentId, before ≤ c.data.amountReceived

/-- The payment and its booking exist. -/
def HasBooking (s : Instalments) : Prop :=
  ∃ payment booking, s.store.payments[paymentId]? = some payment ∧
    s.store.bookings[payment.bookingId]? = some booking

variable {paymentId} {s : Instalments}

/-! ## One call -/

/-- **What an accepted call writes**: its own amount, and the status that this amount
decides. -/
theorem Accepted.rows {c : Confirmation} (h : Accepted paymentId s c) {payment : Payment}
    {booking : Booking} (hp : s.store.payments[paymentId]? = some payment)
    (hb : s.store.bookings[payment.bookingId]? = some booking) :
    ∃ amount, Decimal.ofRat c.data.amountReceived = some amount ∧
      (s.confirm paymentId c).store.payments[paymentId]? = some (payment.asConfirmed
        (if c.data.amountReceived < payment.amountExpected.toRat then .partiallyPaid else .paid)
        amount c.data c.adminId c.now) ∧
      (s.confirm paymentId c).store.bookings[payment.bookingId]? = some
        (if c.data.amountReceived < payment.amountExpected.toRat then booking
          else booking.withStatus .confirmed) := by
  have hsome := h.1
  rw [confirmManual_succeeds, Option.isSome_iff_exists] at hsome
  obtain ⟨⟨found, amount⟩, hfound⟩ := hsome
  obtain ⟨hrow, -, hamount⟩ := confirmablePayment_eq_some hfound
  obtain rfl : found = payment := Option.some.inj (hrow.symm.trans hp)
  refine ⟨amount, hamount, ?_⟩
  rw [Instalments.confirm, confirmManual_storeAfter, hfound]
  by_cases hshort : c.data.amountReceived < found.amountExpected.toRat
  · simp [hshort, hp, hb]
  · simp [hshort, hp, hb]

/-- No call loses the payment or the booking. -/
theorem HasBooking.confirm (h : HasBooking paymentId s) (c : Confirmation) :
    HasBooking paymentId (s.confirm paymentId c) := by
  obtain ⟨payment, booking, hp, hb⟩ := h
  unfold HasBooking
  rw [Instalments.confirm, confirmManual_storeAfter]
  cases hfound : confirmablePayment s.store paymentId c.data with
  | none => exact ⟨payment, booking, hp, hb⟩
  | some found =>
      obtain ⟨found, amount⟩ := found
      obtain ⟨hrow, -, -⟩ := confirmablePayment_eq_some hfound
      obtain rfl : found = payment := Option.some.inj (hrow.symm.trans hp)
      by_cases hshort : c.data.amountReceived < found.amountExpected.toRat
      · simp [hshort, hp, hb, Payment.asConfirmed]
      · simp [hshort, hp, hb, Payment.asConfirmed]

/-- The column stores an amount unrounded if it is the difference of two values of the
column. -/
private theorem toRat_eq_of_add {received amount : Amount} {q : ℚ}
    (hamount : Decimal.ofRat q = some amount) (h : amount.toRat = received.toRat + q) :
    amount.toRat = q := by
  refine Decimal.toRat_eq_of_scale (n := amount.units - received.units) ?_ hamount
  rw [Int.cast_sub, ← Decimal.toRat_mul_scale, ← Decimal.toRat_mul_scale, h]
  ring

/-- **One call, exactly**: the sum is still right after it, and the amount received not
lower, if and only if the call brings the first money. -/
theorem addsUp_confirm_iff {c : Confirmation} (hhas : HasBooking paymentId s)
    (hsum : AddsUp paymentId s) (h : Accepted paymentId s c) :
    AddsUp paymentId (s.confirm paymentId c) ∧ KeepsReceived paymentId s c ↔
      FirstMoney paymentId s c := by
  obtain ⟨payment, booking, hp, hb⟩ := hhas
  obtain ⟨amount, hamount, hp', hb'⟩ := h.rows hp hb
  have hbefore : s.received paymentId = some payment.amountReceived.toRat := by
    rw [Instalments.received, hp, Option.map_some]
  have hafter : (s.confirm paymentId c).received paymentId = some amount.toRat := by
    rw [Instalments.received, hp', Option.map_some]
    rfl
  have hpaid : (s.confirm paymentId c).paid.sum = s.paid.sum + c.data.amountReceived := by
    simp [Instalments.confirm]
  have hkeeps : KeepsReceived paymentId s c ↔ payment.amountReceived.toRat ≤ amount.toRat := by
    simp [KeepsReceived, hbefore, hafter]
  have hnotLess : (∀ before ∈ s.received paymentId, before ≤ c.data.amountReceived) ↔
      payment.amountReceived.toRat ≤ c.data.amountReceived := by
    simp [hbefore]
  rw [FirstMoney, hnotLess, hkeeps]
  constructor
  · rintro ⟨hadds, hle⟩
    obtain ⟨payment', booking', hrow, -, hshows⟩ := hadds (by simp [Instalments.confirm])
    obtain rfl := Option.some.inj (hp'.symm.trans hrow)
    have hreceived : amount.toRat = s.paid.sum + c.data.amountReceived :=
      hshows.received.trans hpaid
    -- What was received before is the sum of the earlier amounts, a value of the column.
    have hexact : amount.toRat = c.data.amountReceived := by
      by_cases hfirst : s.paid = []
      · rw [hreceived, hfirst, List.sum_nil, zero_add]
      · obtain ⟨payment₀, booking₀, hrow₀, -, hshows₀⟩ := hsum hfirst
        rw [← hshows₀.received] at hreceived
        exact toRat_eq_of_add hamount hreceived
    refine ⟨by linarith, ⟨amount, hexact⟩, ?_⟩
    rw [← hexact]
    exact hle
  · rintro ⟨hzero, ⟨amount', hvalue⟩, hle⟩
    have hexact : amount.toRat = c.data.amountReceived := by
      rw [← hvalue, Decimal.ofRat_toRat, Option.some.injEq] at hamount
      rw [← hamount, hvalue]
    refine ⟨fun _ => ⟨_, _, hp', hb', ?_⟩, hexact ▸ hle⟩
    rw [hpaid, hzero, zero_add]
    by_cases hshort : c.data.amountReceived < payment.amountExpected.toRat
    · refine ⟨hexact, ?_, fun _ => ?_⟩
      · simp [hshort, Payment.asConfirmed]
      · simp [hshort, Payment.asConfirmed]
    · refine ⟨hexact, ?_, fun hlt => absurd hlt hshort⟩
      simp [hshort, Payment.asConfirmed, Booking.withStatus, not_lt.mp hshort]

/-! ## Sequences of calls -/

/-- **Instalments add up** after every call of a sequence of successful ones, and none
lowers the amount received, exactly when each call brings the first money: all amounts but
the last are zero. -/
theorem instalments_add_up_iff (store : Store) (payment : Payment) (booking : Booking)
    (hp : store.payments[paymentId]? = some payment)
    (hb : store.bookings[payment.bookingId]? = some booking) (cs : List Confirmation)
    (hcs : Guarded (Instalments.confirm paymentId) (Accepted paymentId) ⟨store, []⟩ cs) :
    Along (Instalments.confirm paymentId) (AddsUp paymentId) ⟨store, []⟩ cs ∧
        Guarded (Instalments.confirm paymentId) (KeepsReceived paymentId) ⟨store, []⟩ cs ↔
      Guarded (Instalments.confirm paymentId) (FirstMoney paymentId) ⟨store, []⟩ cs :=
  along_and_guarded_iff (J := HasBooking paymentId) (H := Accepted paymentId)
    (fun _ c h => h.confirm c) (fun _ _ hhas hsum h => addsUp_confirm_iff hhas hsum h)
    ⟨payment, booking, hp, hb⟩ (fun hne => absurd rfl hne) hcs

end Confirmations

namespace Demo

/-- A stay for 206800 XAF, to be paid in cash. -/
def stayInCash : Store := Final (exec dates) (Store.start []) (instalments.take 2)

/-- An administrator confirms this amount. -/
def confirmation (amount : ℚ) : Confirmation := ⟨5, ⟨amount, "cash", none⟩, 0⟩

/-- An administrator confirms that nothing was received, and then the whole price. -/
def atOnce : List Confirmation := [confirmation 0, confirmation 206800]

/-- The price in two halves. -/
def inHalves : List Confirmation := [confirmation 103400, confirmation 103400]

/-- The payments with the amounts received, and the statuses of the bookings. -/
def paidSoFar (s : Instalments) : List (ℚ × PaymentStatus) × List BookingStatus :=
  (s.store.payments.map fun p => (p.amountReceived.toRat, p.status),
    s.store.bookings.map Booking.status)

end Demo

section Examples

open Demo

/-- Nothing, and then everything. -/
theorem instalments_add_up_iff_at_once :
    Guarded (Instalments.confirm 0) (Accepted 0) ⟨stayInCash, []⟩ atOnce ∧
      Along (Instalments.confirm 0) (AddsUp 0) ⟨stayInCash, []⟩ atOnce ∧
      paidSoFar (Final (Instalments.confirm 0) ⟨stayInCash, []⟩ atOnce) =
        ([(206800, .paid)], [.confirmed]) := by
  have haccepted : Guarded (Instalments.confirm 0) (Accepted 0) ⟨stayInCash, []⟩ atOnce := by
    decide +kernel
  have hrows : (stayInCash.payments[0]?.bind fun payment =>
      stayInCash.bookings[payment.bookingId]?).isSome = true := by
    decide +kernel
  obtain ⟨booking, hbooking⟩ := Option.isSome_iff_exists.mp hrows
  obtain ⟨payment, hp, hb⟩ := Option.bind_eq_some_iff.mp hbooking
  have hbefore : Instalments.received 0 ⟨stayInCash, []⟩ = some 0 := by
    decide +kernel
  have hbetween : ((⟨stayInCash, []⟩ : Instalments).confirm 0 (confirmation 0)).received 0 =
      some 0 := by
    decide +kernel
  refine ⟨haccepted, ((instalments_add_up_iff stayInCash payment booking hp hb atOnce
    haccepted).mpr ⟨⟨rfl, ⟨Decimal.zero, Decimal.toRat_zero⟩, ?_⟩,
      ⟨by decide +kernel, ⟨⟨20680000, by norm_num⟩, by decide +kernel⟩, ?_⟩, trivial⟩).1, ?_⟩
  · intro before hmem
    rw [hbefore, Option.mem_some_iff] at hmem
    exact hmem.symm.le
  · intro before hmem
    rw [hbetween, Option.mem_some_iff] at hmem
    rw [← hmem]
    decide +kernel
  · decide +kernel

/-- **Two halves are not the whole.**  The price is confirmed in two halves; the payment
still shows one of them, partially paid, and the booking is not confirmed. -/
theorem halves_do_not_add_up :
    Guarded (Instalments.confirm 0) (Accepted 0) ⟨stayInCash, []⟩ inHalves ∧
      paidSoFar (Final (Instalments.confirm 0) ⟨stayInCash, []⟩ inHalves) =
        ([(103400, .partiallyPaid)], [.paymentPending]) ∧
      ¬ AddsUp 0 (Final (Instalments.confirm 0) ⟨stayInCash, []⟩ inHalves) := by
  have hreceived : (Final (Instalments.confirm 0) ⟨stayInCash, []⟩ inHalves).received 0 =
      some 103400 := by
    decide +kernel
  have hsum : (Final (Instalments.confirm 0) ⟨stayInCash, []⟩ inHalves).paid.sum = 206800 := by
    decide +kernel
  refine ⟨by decide +kernel, by decide +kernel, fun hadds => ?_⟩
  obtain ⟨payment, booking, hp, -, hshows⟩ := hadds (by decide +kernel)
  rw [Instalments.received, hp, Option.map_some, Option.some.injEq, hshows.received, hsum]
    at hreceived
  norm_num at hreceived

end Examples

end StayRide
