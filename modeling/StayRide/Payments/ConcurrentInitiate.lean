import StayRide.Lib.Interleaving
import StayRide.Payments.RefundLedger

/-!
# `initiatePayment`, step by step, next to the expiry job

Concurrent calls of `initiatePayment`, each await one atomic step, and at any time a
run of `cancelExpiredPendingBookings`, a single `UPDATE` statement.  The job spares a
booking with a pending payment.  A call makes its payment pending only in its last
steps, when its check that the booking is pending is several awaits old, and it does
not check again.  So a job that runs in between cancels a booking that the call then
gives a pending payment, and even sets back to `PAYMENT_PENDING`
(`expired_booking_revived`).

`initiate_spares_expired` says that this is the only way: as long as the job cancels no
booking of a call that has read it and has not made its payment pending yet, no booking
that the job cancelled has a pending payment, and none comes back.

What the job has cancelled is recorded next to the store (`Till.expired`); the code has
no such record.  `initiate_alone` connects the steps with the method.
-/

namespace StayRide

open Lib

/-- A call of `initiatePayment`: its arguments, the settings it finds and what Stripe
answers it. -/
structure InitiateCall where
  settings : PaymentMethod → Option Bool
  stripe : StripeReply
  bookingId : BookingId
  method : PaymentMethod
  customerId : UserId
  phone : Option String
  reference : String

/-- Where a call is: before the await of this name, or finished. -/
inductive InitiatePc
  | validate
  | readBooking
  | findExisting (booking : Booking)
  | insert (booking : Booking)
  | createIntent (paymentId : PaymentId) (saved : Payment)
  | setIntent (paymentId : PaymentId) (saved : Payment) (intentId : String)
  | setPending (paymentId : PaymentId) (saved : Payment) (booking : Booking)
  | setBooking (paymentId : PaymentId) (saved : Payment) (booking : Booking)
  | done (result : Except HttpException (PaymentId × Payment))

section Steps

variable (call : InitiateCall)

/-- The row that the call inserts. -/
def InitiateCall.row (booking : Booking) (now : Time) : Payment :=
  newPayment call.bookingId booking call.method call.customerId call.phone call.reference now

/-- One step of a call. -/
def initiateStep (attempt : Attempt) (store : Store) (pc : InitiatePc) :
    Option (Store × InitiatePc) :=
  match pc, attempt with
  | .validate, .succeeds _ =>
      if call.settings call.method = some true then some (store, .readBooking)
      else some (store, .done (.error (.badRequest
        ("Le mode de paiement " ++ call.method.text ++ " est actuellement désactivé"))))
  | .readBooking, .succeeds _ =>
      match store.bookings[call.bookingId]?.filter (·.customerId = call.customerId) with
      | none => some (store, .done (.error (.notFound "Réservation introuvable")))
      | some booking =>
          if booking.status ≠ .pending then some (store, .done (.error
            (.badRequest "Cette réservation ne nécessite pas de paiement")))
          else some (store, .findExisting booking)
  | .findExisting booking, .succeeds _ =>
      match store.payments.findWhere (Payment.isPendingOf call.bookingId) with
      | some payment => some (store, .done (.ok payment))
      | none => some (store, .insert booking)
  | .insert booking, .succeeds now =>
      let saved := call.row booking now
      let store' := { store with payments := store.payments.insertRow saved }
      match call.method with
      | .stripe => some (store', .createIntent store.payments.length saved)
      | _ => some (store', .setPending store.payments.length saved booking)
  | .createIntent paymentId saved, .succeeds _ =>
      match call.stripe with
      | .notConfigured => some (store, .done (.error (.badRequest "Stripe non configuré")))
      | .rejected => some (store, .done (.error .clientError))
      | .created intentId => some (store, .setIntent paymentId saved intentId)
  | .setIntent paymentId saved intentId, .succeeds _ =>
      some ({ store with
          payments := store.payments.updateById paymentId (Payment.withIntent intentId) },
        .done (.ok (paymentId, saved.withIntent intentId)))
  | .setPending paymentId saved booking, .succeeds _ =>
      let store' :=
        { store with payments := store.payments.updateById paymentId Payment.asPending }
      match call.method with
      | .paypal => some (store', .done (.ok (paymentId, saved.asPending)))
      | _ => some (store', .setBooking paymentId saved booking)
  | .setBooking paymentId saved booking, .succeeds _ =>
      some ({ store with
          bookings := store.bookings.updateById call.bookingId
            (Booking.withStatus .paymentPending)
          events := store.events ++ [.paymentInitiated paymentId saved.asPending booking] },
        .done (.ok (paymentId, saved.asPending)))
  | .createIntent .., .fails => some (store, .done (.error .clientError))
  | .validate, .fails | .readBooking, .fails | .findExisting _, .fails | .insert _, .fails
  | .setIntent .., .fails | .setPending .., .fails | .setBooking .., .fails =>
      some (store, .done (.error .queryFailed))
  | .done _, _ => none

/-- The steps of a call in a row are the method. -/
theorem initiate_solo (store : Store) (now : Time) :
    solo (initiateStep call (.succeeds now)) 8 store .validate =
      ((initiatePayment call.settings call.stripe call.bookingId call.method call.customerId
          call.phone call.reference now).storeAfter store,
        .done ((initiatePayment call.settings call.stripe call.bookingId call.method
          call.customerId call.phone call.reference now).outcome store)) := by
  obtain ⟨settings, stripe, bookingId, method, customerId, phone, reference⟩ := call
  rw [ServiceM.storeAfter, ServiceM.outcome, run_initiatePayment]
  by_cases henabled : settings method = some true
  swap
  · simp [solo, initiateStep, henabled]
  cases hfound : store.bookings[bookingId]?.filter (·.customerId = customerId) with
  | none => simp [solo, initiateStep, henabled, hfound]
  | some booking =>
      by_cases hpending : booking.status = .pending
      swap
      · simp [solo, initiateStep, henabled, hfound, hpending]
      cases hfind : store.payments.findWhere (Payment.isPendingOf bookingId) with
      | some existing => simp [solo, initiateStep, henabled, hfound, hpending, hfind]
      | none =>
          cases method with
          | stripe =>
              cases stripe <;>
                simp [solo, initiateStep, henabled, hfound, hpending, hfind, InitiateCall.row,
                  openedPayment, Store.withOpened, PaymentMethod.isManual]
          | paypal | orangeMoney | mtnMomo | cash | other =>
              simp [solo, initiateStep, henabled, hfound, hpending, hfind, InitiateCall.row,
                openedPayment, Store.withOpened, PaymentMethod.isManual]

/-- What a step can do, with what it found. -/
inductive InitiateStep (store : Store) : InitiatePc → Store → InitiatePc → Prop
  | validate : InitiateStep store .validate store .readBooking
  | readBooking (booking : Booking) (hb : store.bookings[call.bookingId]? = some booking)
      (hpending : booking.status = .pending) :
      InitiateStep store .readBooking store (.findExisting booking)
  | findExisting (booking : Booking) :
      InitiateStep store (.findExisting booking) store (.insert booking)
  | insertForStripe (booking : Booking) (now : Time) :
      InitiateStep store (.insert booking)
        { store with payments := store.payments.insertRow (call.row booking now) }
        (.createIntent store.payments.length (call.row booking now))
  | insert (booking : Booking) (now : Time) :
      InitiateStep store (.insert booking)
        { store with payments := store.payments.insertRow (call.row booking now) }
        (.setPending store.payments.length (call.row booking now) booking)
  | createIntent (paymentId : PaymentId) (saved : Payment) (intentId : String) :
      InitiateStep store (.createIntent paymentId saved) store
        (.setIntent paymentId saved intentId)
  | setIntent (paymentId : PaymentId) (saved : Payment) (intentId : String) :
      InitiateStep store (.setIntent paymentId saved intentId)
        { store with
          payments := store.payments.updateById paymentId (Payment.withIntent intentId) }
        (.done (.ok (paymentId, saved.withIntent intentId)))
  | finishPaypal (paymentId : PaymentId) (saved : Payment) (booking : Booking) :
      InitiateStep store (.setPending paymentId saved booking)
        { store with payments := store.payments.updateById paymentId Payment.asPending }
        (.done (.ok (paymentId, saved.asPending)))
  | setPending (paymentId : PaymentId) (saved : Payment) (booking : Booking) :
      InitiateStep store (.setPending paymentId saved booking)
        { store with payments := store.payments.updateById paymentId Payment.asPending }
        (.setBooking paymentId saved booking)
  | setBooking (paymentId : PaymentId) (saved : Payment) (booking : Booking) :
      InitiateStep store (.setBooking paymentId saved booking)
        { store with
          bookings := store.bookings.updateById call.bookingId
            (Booking.withStatus .paymentPending)
          events := store.events ++ [.paymentInitiated paymentId saved.asPending booking] }
        (.done (.ok (paymentId, saved.asPending)))
  | stop (pc : InitiatePc) (result : Except HttpException (PaymentId × Payment)) :
      InitiateStep store pc store (.done result)

variable {call}

/-- **Inversion**: a step is one of the listed ones. -/
theorem initiateStep_cases {attempt : Attempt} {store store' : Store} {pc pc' : InitiatePc}
    (h : initiateStep call attempt store pc = some (store', pc')) :
    InitiateStep call store pc store' pc' := by
  unfold initiateStep at h
  split at h
  · -- validate
    split at h
    · cases h
      exact .validate
    · cases h
      exact .stop _ _
  · -- readBooking
    split at h
    · cases h
      exact .stop _ _
    · next booking hfound =>
        obtain ⟨hb, -⟩ := Option.filter_eq_some_iff.mp hfound
        split at h
        · cases h
          exact .stop _ _
        · next hpending =>
            cases h
            exact .readBooking booking hb (not_not.mp hpending)
  · -- findExisting
    split at h
    · cases h
      exact .stop _ _
    · cases h
      exact .findExisting _
  · -- insert
    dsimp only at h
    split at h
    · cases h
      exact .insertForStripe _ _
    · cases h
      exact .insert _ _
  · -- createIntent
    split at h
    · cases h
      exact .stop _ _
    · cases h
      exact .stop _ _
    · cases h
      exact .createIntent _ _ _
  · -- setIntent
    cases h
    exact .setIntent _ _ _
  · -- setPending
    dsimp only at h
    split at h
    · cases h
      exact .finishPaypal _ _ _
    · cases h
      exact .setPending _ _ _
  · -- setBooking
    cases h
    exact .setBooking _ _ _
  all_goals
    cases h
    try exact .stop _ _

end Steps

/-! ## The system -/

/-- The store, and which bookings the job has cancelled. -/
structure Till where
  store : Store
  expired : BookingId → Bool

/-- The bookings that the job cancels when it runs now. -/
def Till.expiring (till : Till) (now : Time) : BookingId → Bool :=
  till.store.selected (Booking.isExpired till.store.payments now)

/-- One run of the job. -/
def Till.sweep (till : Till) (now : Time) : Till :=
  ⟨(cancelExpiredPendingBookings now).storeAfter till.store,
    fun id => till.expired id || till.expiring now id⟩

/-- The calls and the till they share. -/
abbrev InitiateConfig (ι : Type) := Config Till ι InitiatePc

/-- A step of a call, or a run of the job. -/
abbrev InitiateMove (ι : Type) := Move ι Attempt Time

section System

variable {ι : Type} (calls : ι → InitiateCall)

/-- A step of a call leaves the record of the job alone. -/
def initiateAct (i : ι) (attempt : Attempt) (till : Till) (pc : InitiatePc) :
    Option (Till × InitiatePc) :=
  (initiateStep (calls i) attempt till.store pc).map
    fun next => (⟨next.1, till.expired⟩, next.2)

def jobStep (now : Time) (till : Till) : Option Till :=
  some (till.sweep now)

variable [DecidableEq ι]

/-- Concurrent calls of `initiatePayment` and runs of the expiry job. -/
def initiateSystem : InitiateConfig ι → InitiateMove ι → Option (InitiateConfig ι) :=
  interleave (initiateAct calls) jobStep

/-- All calls have arrived, none has begun, and the job has cancelled nothing. -/
def initiateStart (store : Store) : InitiateConfig ι :=
  ⟨⟨store, fun _ => false⟩, fun _ => .validate⟩

variable {calls} in
/-- **Alone, a call does what `initiatePayment` does.** -/
theorem initiate_alone {c : InitiateConfig ι} {i : ι} (hpc : c.pc i = .validate) (now : Time) :
    let method := initiatePayment (calls i).settings (calls i).stripe (calls i).bookingId
      (calls i).method (calls i).customerId (calls i).phone (calls i).reference now
    ∃ n, replay (initiateSystem calls) c (List.replicate n (.process i (.succeeds now))) =
      some ⟨⟨method.storeAfter c.shared.store, c.shared.expired⟩,
        Function.update c.pc i (.done (method.outcome c.shared.store))⟩ := by
  obtain ⟨n, hn⟩ := exists_replay_solo (initiateAct calls) jobStep i (.succeeds now) 8 c
  unfold initiateAct at hn
  rw [hpc, solo_part Till.store (fun till store => ⟨store, till.expired⟩) (fun _ _ => rfl)
    (fun _ => rfl) (fun _ _ _ => rfl), initiate_solo] at hn
  exact ⟨n, hn⟩

/-- No booking that the job cancelled has a pending payment, or waits for one. -/
def ExpiredForGood (till : Till) : Prop :=
  ∀ id, till.expired id = true →
    (∀ (paymentId : PaymentId) (p : Payment), till.store.payments[paymentId]? = some p →
      p.bookingId = id → p.status ≠ .pending) ∧
    ∀ b, till.store.bookings[id]? = some b → b.status ≠ .paymentPending

/-- The call has read its booking, and its payment is not pending yet. -/
def InitiatePc.inFlight : InitiatePc → Bool
  | .findExisting _ | .insert _ | .createIntent .. | .setIntent .. | .setPending .. => true
  | .validate | .readBooking | .setBooking .. | .done _ => false

/-- The job cancels no booking of a call in flight. -/
def JobSparesInFlight (c : InitiateConfig ι) : InitiateMove ι → Prop
  | .process _ _ => True
  | .environment now =>
      ∀ i, (c.pc i).inFlight = true → c.shared.expiring now (calls i).bookingId = false

instance [Fintype ι] (c : InitiateConfig ι) :
    (move : InitiateMove ι) → Decidable (JobSparesInFlight calls c move)
  | .process _ _ => inferInstanceAs (Decidable True)
  | .environment now => inferInstanceAs (Decidable (∀ i, (c.pc i).inFlight = true →
      c.shared.expiring now (calls i).bookingId = false))

end System

/-! ## What the calls know -/

/-- Payments stay with their booking, and what is pending stays pending. -/
def Payment.Lasts (p p' : Payment) : Prop :=
  p'.bookingId = p.bookingId ∧ (p.status = .pending → p'.status = .pending)

theorem Payment.Lasts.refl (p : Payment) : p.Lasts p := ⟨rfl, id⟩

/-- The assertion of a call at its program point: from the booking read on, the job has
not cancelled its booking; from the insertion on, the payment is one of the booking; at
the end it is pending. -/
def InitiatePc.Knows (call : InitiateCall) (till : Till) : InitiatePc → Prop
  | .validate | .readBooking | .done _ => True
  | .findExisting _ | .insert _ => till.expired call.bookingId = false
  | .createIntent paymentId _ | .setIntent paymentId _ _ | .setPending paymentId _ _ =>
      till.expired call.bookingId = false ∧
        ∃ p, till.store.payments[paymentId]? = some p ∧ p.bookingId = call.bookingId
  | .setBooking paymentId _ _ =>
      till.expired call.bookingId = false ∧
        ∃ p, till.store.payments[paymentId]? = some p ∧ p.bookingId = call.bookingId ∧
          p.status = .pending

/-- The invariant of the till: what the job cancelled is cancelled, and no payment of it
is pending. -/
def Till.Sound (till : Till) : Prop :=
  ∀ id, till.expired id = true →
    (∀ b, till.store.bookings[id]? = some b → b.status = .cancelled) ∧
    ∀ (paymentId : PaymentId) (p : Payment), till.store.payments[paymentId]? = some p →
      p.bookingId = id → p.status ≠ .pending

theorem Till.Sound.expiredForGood {till : Till} (h : till.Sound) : ExpiredForGood till := by
  intro id hid
  refine ⟨(h id hid).2, fun b hb => ?_⟩
  rw [(h id hid).1 b hb]
  decide

section Knows

variable {call : InitiateCall} {till till' : Till} {pc : InitiatePc}

/-- Knowledge of a call survives where payments last and its booking is not cancelled. -/
theorem InitiatePc.Knows.mono (h : pc.Knows call till)
    (hlasts : Table.Evolves Payment.Lasts till.store.payments till'.store.payments)
    (hexpired : (pc.inFlight = true → till'.expired call.bookingId = till.expired call.bookingId))
    (hsetBooking : ∀ (paymentId : PaymentId) (p : Payment),
      till.store.payments[paymentId]? = some p → p.bookingId = call.bookingId →
        p.status = .pending → till'.expired call.bookingId = till.expired call.bookingId) :
    pc.Knows call till' := by
  have hrow : ∀ paymentId : PaymentId,
      (∃ p, till.store.payments[paymentId]? = some p ∧ p.bookingId = call.bookingId) →
        ∃ p, till'.store.payments[paymentId]? = some p ∧ p.bookingId = call.bookingId := by
    rintro paymentId ⟨p, hp, hid⟩
    obtain ⟨p', hp', hbooking, -⟩ := hlasts paymentId p hp
    exact ⟨p', hp', hbooking.trans hid⟩
  cases pc with
  | validate | readBooking | done => trivial
  | findExisting booking => exact (hexpired rfl).trans h
  | insert booking => exact (hexpired rfl).trans h
  | createIntent paymentId saved => exact ⟨(hexpired rfl).trans h.1, hrow paymentId h.2⟩
  | setIntent paymentId saved intentId => exact ⟨(hexpired rfl).trans h.1, hrow paymentId h.2⟩
  | setPending paymentId saved booking => exact ⟨(hexpired rfl).trans h.1, hrow paymentId h.2⟩
  | setBooking paymentId saved booking =>
      obtain ⟨hlive, p, hp, hid, hpending⟩ := h
      obtain ⟨p', hp', hbooking, hstays⟩ := hlasts paymentId p hp
      exact ⟨(hsetBooking paymentId p hp hid hpending).trans hlive, p', hp',
        hbooking.trans hid, hstays hpending⟩

/-- An update that makes a payment of a spared booking pending. -/
private theorem sound_setPending (h : till.Sound) {paymentId : PaymentId}
    (hlive : till.expired call.bookingId = false)
    (hrow : ∃ p, till.store.payments[paymentId]? = some p ∧ p.bookingId = call.bookingId)
    {f : Payment → Payment} (hf : ∀ p, (f p).bookingId = p.bookingId) :
    Till.Sound ⟨{ till.store with payments := till.store.payments.updateById paymentId f },
      till.expired⟩ := by
  intro id hid
  refine ⟨(h id hid).1, fun i q hq hbooking => ?_⟩
  obtain ⟨q₀, hq₀, rfl⟩ := Table.getElem?_updateById_eq_some.mp hq
  by_cases hi : i = paymentId
  · subst hi
    obtain ⟨p, hp, hpid⟩ := hrow
    obtain rfl : p = q₀ := Option.some.inj (hp.symm.trans hq₀)
    rw [if_pos rfl, hf, hpid] at hbooking
    rw [hbooking, hid] at hlive
    cases hlive
  · rw [if_neg hi] at hbooking ⊢
    exact (h id hid).2 i q₀ hq₀ hbooking

/-- **One step** of a call: the till stays sound, the call knows what its next program
point asks for, payments last, and the record of the job is untouched. -/
theorem Till.Sound.step {store' : Store} {pc' : InitiatePc} (h : till.Sound)
    (hpc : pc.Knows call till) (hstep : InitiateStep call till.store pc store' pc') :
    Till.Sound ⟨store', till.expired⟩ ∧ pc'.Knows call ⟨store', till.expired⟩ ∧
      Table.Evolves Payment.Lasts till.store.payments store'.payments := by
  have hsame := Table.Evolves.refl Payment.Lasts.refl till.store.payments
  have hinsert : ∀ (booking : Booking) (now : Time), till.expired call.bookingId = false →
      Till.Sound ⟨{ till.store with
        payments := till.store.payments.insertRow (call.row booking now) }, till.expired⟩ := by
    intro booking now hlive id hid
    refine ⟨(h id hid).1, fun i q hq hbooking => ?_⟩
    rcases Table.getElem?_insertRow_eq_some.mp hq with hold | ⟨-, rfl⟩
    · exact (h id hid).2 i q hold hbooking
    · -- The new payment is created, not pending.
      exact PaymentStatus.noConfusion
  cases hstep with
  | validate => exact ⟨h, trivial, hsame⟩
  | readBooking booking hb hpending =>
      refine ⟨h, Bool.of_not_eq_true fun hexpired => ?_, hsame⟩
      have hcancelled := (h call.bookingId hexpired).1 booking hb
      rw [hpending] at hcancelled
      cases hcancelled
  | findExisting booking => exact ⟨h, hpc, hsame⟩
  | insertForStripe booking now =>
      exact ⟨hinsert booking now hpc,
        ⟨hpc, call.row booking now, Table.getElem?_insertRow_self _ _, rfl⟩,
        Table.Evolves.insertRow Payment.Lasts.refl _ _⟩
  | insert booking now =>
      exact ⟨hinsert booking now hpc,
        ⟨hpc, call.row booking now, Table.getElem?_insertRow_self _ _, rfl⟩,
        Table.Evolves.insertRow Payment.Lasts.refl _ _⟩
  | createIntent paymentId saved intentId => exact ⟨h, hpc, hsame⟩
  | setIntent paymentId saved intentId =>
      exact ⟨sound_setPending h hpc.1 hpc.2 fun _ => rfl, trivial,
        (Table.evolves_updateById_iff Payment.Lasts.refl).mpr fun p _ => ⟨rfl, fun _ => rfl⟩⟩
  | finishPaypal paymentId saved booking =>
      exact ⟨sound_setPending h hpc.1 hpc.2 fun _ => rfl, trivial,
        (Table.evolves_updateById_iff Payment.Lasts.refl).mpr fun p _ => ⟨rfl, fun _ => rfl⟩⟩
  | setPending paymentId saved booking =>
      obtain ⟨hlive, p, hp, hid⟩ := hpc
      refine ⟨sound_setPending h hlive ⟨p, hp, hid⟩ fun _ => rfl,
        ⟨hlive, p.asPending, ?_, hid, rfl⟩,
        (Table.evolves_updateById_iff Payment.Lasts.refl).mpr fun p _ => ⟨rfl, fun _ => rfl⟩⟩
      rw [Table.getElem?_updateById, hp, Option.map_some, if_pos rfl]
  | setBooking paymentId saved booking =>
      refine ⟨fun id hid => ⟨fun b hb => ?_, (h id hid).2⟩, trivial, hsame⟩
      obtain ⟨b₀, hb₀, rfl⟩ := Table.getElem?_updateById_eq_some.mp hb
      have hne : id ≠ call.bookingId := by
        rintro rfl
        rw [hpc.1] at hid
        cases hid
      rw [if_neg hne]
      exact (h id hid).1 b₀ hb₀
  | stop pc result => exact ⟨h, trivial, hsame⟩

/-- A booking that the job cancels now has no pending payment. -/
private theorem noPending_of_expiring {now : Time} {id : BookingId}
    (h : till.expiring now id = true) (paymentId : PaymentId) (p : Payment)
    (hp : till.store.payments[paymentId]? = some p) (hid : p.bookingId = id) :
    p.status ≠ .pending := by
  rw [Till.expiring, Store.selected, Option.any_eq_true] at h
  obtain ⟨b, -, hexpired⟩ := h
  simp only [Booking.isExpired, Bool.and_eq_true, Bool.not_eq_true', List.any_eq_false,
    decide_eq_true_eq, not_and] at hexpired
  exact fun hpending => hexpired.2 p (List.mem_of_getElem? hp) hpending hid

/-- **One run of the job** keeps the till sound. -/
theorem Till.Sound.sweep (h : till.Sound) (now : Time) : (till.sweep now).Sound := by
  intro id hid
  have hcases : till.expired id = true ∨ till.expiring now id = true :=
    (Bool.or_eq_true _ _).mp hid
  refine ⟨fun b hb => ?_, fun paymentId p hp hbooking => ?_⟩
  · obtain ⟨b₀, hb₀, rfl⟩ := Table.getElem?_updateWhere_eq_some.mp hb
    cases hsel : Booking.isExpired till.store.payments now id b₀ with
    | true => rfl
    | false =>
        -- A booking that this run spares was cancelled by an earlier one.
        refine (h id (hcases.resolve_right ?_)).1 b₀ hb₀
        rw [Till.expiring, Store.selected, hb₀, Option.any_some, hsel]
        exact Bool.false_ne_true
  · rcases hcases with hold | hnew
    · exact (h id hold).2 paymentId p hp hbooking
    · exact noPending_of_expiring hnew paymentId p hp hbooking

end Knows

/-- **The expiry job against initiation.**  As long as the job cancels no booking of a
call that has read it and has not made its payment pending yet, in every reachable state
no booking that the job cancelled has a pending payment or waits for one. -/
theorem initiate_spares_expired {ι : Type} [DecidableEq ι] (calls : ι → InitiateCall)
    (store : Store) (c : InitiateConfig ι)
    (h : Reach (initiateSystem calls) (JobSparesInFlight calls) (initiateStart store) c) :
    ExpiredForGood c.shared := by
  refine (interleave_assertions (I := Till.Sound) (K := fun i till pc => pc.Knows (calls i) till)
    (fun id hid => by cases hid) (fun i => trivial) (fun c i attempt till pc hI hK _ hact => ?_)
    (fun c now till hI hK hguard hsweep => ?_) h).1.expiredForGood
  · obtain ⟨next, hstep, hnext⟩ := Option.map_eq_some_iff.mp hact
    obtain ⟨rfl, rfl⟩ := Prod.mk.injEq .. ▸ hnext
    obtain ⟨hsound, hself, hlasts⟩ := hI.step (hK i) (initiateStep_cases hstep)
    exact ⟨hsound, hself, fun j _ => (hK j).mono hlasts (fun _ => rfl) (fun _ _ _ _ _ => rfl)⟩
  · obtain rfl := Option.some.inj hsweep
    refine ⟨hI.sweep now, fun j => (hK j).mono
      (Table.Evolves.refl Payment.Lasts.refl _) (fun hflight => ?_) ?_⟩
    · show (c.shared.expired _ || c.shared.expiring now _) = _
      rw [hguard j hflight, Bool.or_false]
    · -- A call that is about to set its booking protects it by its pending payment.
      intro paymentId p hp hid hpending
      show (c.shared.expired _ || c.shared.expiring now _) = _
      have hspared : c.shared.expiring now (calls j).bookingId = false :=
        Bool.of_not_eq_true fun hexp => noPending_of_expiring hexp paymentId p hp hid hpending
      rw [hspared, Bool.or_false]

/-! ## Runs next to the job -/

namespace Demo

/-- Two customers have booked and not paid. -/
def twoBookings : Store :=
  Final (exec dates) (Store.start [])
    [⟨0, .create (villa "2025-07-01" "2025-07-03") 1⟩,
      ⟨0, .create (villa "2025-07-03" "2025-07-05") 2⟩]

/-- The first customer opens a payment in cash. -/
def payCashCall : Fin 1 → InitiateCall :=
  fun _ => ⟨fun _ => some true, .notConfigured, 0, .cash, 1, none, "SR"⟩

/-- The next call that the customer's call awaits returns. -/
def nextInitiate : InitiateMove (Fin 1) := .process 0 (.succeeds 0)

/-- The job runs after twenty minutes. -/
def jobRuns : InitiateMove (Fin 1) := .environment (20 * minute)

end Demo

/-- The job runs when the first customer's payment is pending, and cancels the booking of
the second one. -/
theorem initiate_spares_expired_other : ∃ c : InitiateConfig (Fin 1),
    Reach (initiateSystem Demo.payCashCall) (JobSparesInFlight Demo.payCashCall)
      (initiateStart Demo.twoBookings) c ∧
    c.shared.expired 1 = true ∧ ExpiredForGood c.shared := by
  have hrun : (replay (fun c move => if JobSparesInFlight Demo.payCashCall c move then
      initiateSystem Demo.payCashCall c move else none) (initiateStart Demo.twoBookings)
      (List.replicate 5 Demo.nextInitiate ++ [Demo.jobRuns, Demo.nextInitiate])).map
      (fun c => c.shared.expired 1) = some true := by
    decide +kernel
  obtain ⟨c, hreach, hexpired⟩ := exists_reach_of_admitted hrun
  exact ⟨c, hreach, hexpired,
    initiate_spares_expired Demo.payCashCall Demo.twoBookings c hreach⟩

/-- **An expired booking comes back.**  The job runs while the customer's payment is
created and not pending yet; the call then makes it pending and sets the cancelled
booking to `PAYMENT_PENDING`. -/
theorem expired_booking_revived :
    ¬ ∀ c : InitiateConfig (Fin 1), Reach (initiateSystem Demo.payCashCall) (fun _ _ => True)
      (initiateStart Demo.twoBookings) c → ExpiredForGood c.shared := by
  intro h
  have hrun : (replay (initiateSystem Demo.payCashCall) (initiateStart Demo.twoBookings)
      (List.replicate 4 Demo.nextInitiate ++ [Demo.jobRuns, Demo.nextInitiate,
        Demo.nextInitiate])).map (fun c => (c.shared.expired 0,
          c.shared.store.bookings[0]?.map Booking.status)) =
      some (true, some .paymentPending) := by
    decide +kernel
  obtain ⟨c, hreach, hstate⟩ := exists_reach_of_unguarded hrun
  rw [Prod.mk.injEq] at hstate
  obtain ⟨b, hb, hwaits⟩ := Option.map_eq_some_iff.mp hstate.2
  exact (h c hreach 0 hstate.1).2 b hb hwaits

end StayRide
