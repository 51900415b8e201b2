import StayRide.System.Platform

/-!
# Failures during `create`

A creation queries the availability, takes the lock, queries again, computes the price,
inserts the booking in a transaction and, whatever happened since it has the lock,
releases the lock.  Any of these may be rejected.  A failed creation should leave the
bookings as they were.

`Program.trial` runs the program of `create` with an arbitrary pattern of rejected commands
and keeps the commands that were sent; with no rejections it is the method
(`createPriced_alone`).  The lock is released exactly once if it was taken, and never
otherwise (`create_ends`).  The bookings are unchanged by a creation that throws unless
something is rejected *after* the transaction has committed: an error of the `finally`
block replaces the booking that would have been returned, while its row stays
(`create_all_or_nothing_iff`, `release_fails_after_insert`).
-/

namespace StayRide

open Lib

/-! ## A creation whose price may fail -/

namespace Async

/-- `createLocked`, where the promise of `calculatePrice` ends as `pricing` says.  It sends
nothing, so it is not a command. -/
def createLockedPriced (pricing : Except HttpException Unit) (lib : DateLib)
    (dto : CreateBookingDto) (customerId : UserId) (now : Time) :
    Async (BookingId × Booking) := do
  let stillAvailable ← queryAvailability lib dto
  if !stillAvailable then
    throw datesJustTaken
  Program.done pricing
  match newBooking lib dto customerId now with
  | none => throw .queryFailed
  | some booking =>
      let id ← insertBooking booking
      emit (.bookingCreated id booking)
      return (id, booking)

/-- `create`, where the promise of `calculatePrice` ends as `pricing` says. -/
def createPriced (pricing : Except HttpException Unit) (lib : DateLib)
    (dto : CreateBookingDto) (customerId : UserId) (now : Time) :
    Async (BookingId × Booking) := do
  let available ← queryAvailability lib dto
  if !available then
    throw datesTaken
  let lockAcquired ← acquireLock dto.lockKey 600
  if !lockAcquired then
    throw bookingInProgress
  try
    createLockedPriced pricing lib dto customerId now
  finally
    releaseLock dto.lockKey

/-- The price is a placeholder, which never fails. -/
theorem createPriced_ok (lib : DateLib) (dto : CreateBookingDto) (customerId : UserId)
    (now : Time) : createPriced (.ok ()) lib dto customerId now =
      create lib dto customerId now := rfl

/-- **Without failures, a creation is the method.** -/
theorem createPriced_alone (lib : DateLib) (dto : CreateBookingDto) (customerId : UserId)
    (now : Time) (before : Backend) :
    let t := (createPriced (.ok ()) lib dto customerId now).trial Command.handle (fun _ => none)
      before
    let method := StayRide.create lib dto customerId now
    t.data.toStore = method.storeAfter before.toStore ∧
      t.result = method.outcome before.toStore := by
  rw [createPriced_ok]
  exact (implements_create lib dto customerId now).trial before

end Async

/-! ## What was sent -/

/-- The lock was given back. -/
def Sent.isRelease (key : String) : Sent → Bool
  | ⟨.releaseLock released, _⟩ => released = key
  | _ => false

/-- The lock was taken. -/
def Sent.isAcquisition (key : String) : Sent → Bool
  | ⟨.acquireLock taken _, .ok acquired⟩ => acquired && taken = key
  | _ => false

/-- The commands about locks. -/
def Command.isLock : Command → Bool
  | .acquireLock .. | .releaseLock _ => true
  | _ => false

theorem Sent.not_lock {x : Sent} (h : x.1.isLock = false) (key : String) :
    x.isRelease key = false ∧ x.isAcquisition key = false := by
  obtain ⟨c, reply⟩ := x
  cases c with
  | acquireLock | releaseLock => cases h
  | _ => exact ⟨rfl, rfl⟩

/-- The transaction that inserts a booking has committed. -/
def Sent.storesBooking : Sent → Bool
  | ⟨.insertBooking _, .ok _⟩ => true
  | _ => false

/-- How a creation ends. -/
abbrev CreateTrial := Program.Trial Command.Reply HttpException (BookingId × Booking) Backend

/-- The lock is released once if it was taken, and never otherwise. -/
def ReleasesOnce (key : String) (t : CreateTrial) : Prop :=
  t.sent.countP (Sent.isRelease key) = if t.sent.any (Sent.isAcquisition key) then 1 else 0

/-- A creation returns the one pending row by which the table has grown, or throws and
leaves the table alone; it releases the lock once if it has taken it, and never otherwise. -/
structure AllOrNothing (before : Backend) (key : String) (t : CreateTrial) : Prop where
  returned : ∀ id booking, t.result = .ok (id, booking) → booking.status = .pending ∧
    id = before.bookings.length ∧ t.data.bookings = before.bookings.insertRow booking
  thrown : ∀ e, t.result = .error e → t.data.bookings = before.bookings
  released : ReleasesOnce key t

/-- Nothing is rejected once the booking is stored. -/
def NothingFailsAfterInsert (t : CreateTrial) : Prop :=
  t.sent.any Sent.storesBooking = true → t.sent.all Sent.accepted = true

instance (t : CreateTrial) : Decidable (NothingFailsAfterInsert t) :=
  inferInstanceAs (Decidable (_ → _))

/-! ## The ends of a creation -/

/-- The two ways a creation ends: it has stored nothing and throws, or it has stored its
booking and returns it if no command was rejected. -/
inductive CreateEnd (before : Backend) (t : CreateTrial) : Prop
  | refused (hstores : t.sent.any Sent.storesBooking = false)
      (hbookings : t.data.bookings = before.bookings) (e : HttpException)
      (hresult : t.result = .error e)
  | stored (booking : Booking) (hpending : booking.status = .pending)
      (hstores : t.sent.any Sent.storesBooking = true)
      (hbookings : t.data.bookings = before.bookings.insertRow booking)
      (hresult : if t.sent.all Sent.accepted then
          t.result = .ok (before.bookings.length, booking) else ∃ e, t.result = .error e)

section Ends

variable {before : Backend} {t : CreateTrial}

/-- The end decides about the bookings. -/
theorem CreateEnd.iff (h : CreateEnd before t) :
    ((∀ id booking, t.result = .ok (id, booking) → booking.status = .pending ∧
        id = before.bookings.length ∧ t.data.bookings = before.bookings.insertRow booking) ∧
      ∀ e, t.result = .error e → t.data.bookings = before.bookings) ↔
    NothingFailsAfterInsert t := by
  unfold NothingFailsAfterInsert
  cases h with
  | refused hstores hbookings e hresult => simp [hstores, hbookings, hresult]
  | stored booking hpending hstores hbookings hresult =>
      by_cases hall : t.sent.all Sent.accepted = true
      · rw [if_pos hall] at hresult
        refine iff_of_true ⟨?_, ?_⟩ fun _ => hall
        · intro id b hok
          obtain ⟨rfl, rfl⟩ := Prod.mk.inj (Except.ok.inj (hresult.symm.trans hok))
          exact ⟨hpending, rfl, hbookings⟩
        · intro e herror
          rw [hresult] at herror
          cases herror
      · rw [if_neg hall] at hresult
        obtain ⟨e, he⟩ := hresult
        refine iff_of_false (fun hkeeps => ?_) fun hguard => hall (hguard hstores)
        have hsame := congrArg List.length (hbookings.symm.trans (hkeeps.2 e he))
        rw [Table.length_insertRow] at hsame
        omega

/-- Commands that were carried out before and did not touch the bookings. -/
theorem CreateEnd.after {data : Backend} (hdata : data.bookings = before.bookings)
    (h : CreateEnd data t) (sent : List Sent)
    (hsent : ∀ x ∈ sent, x.storesBooking = false ∧ x.accepted = true) :
    CreateEnd before (t.after sent) := by
  have hany : (sent ++ t.sent).any Sent.storesBooking = t.sent.any Sent.storesBooking := by
    rw [List.any_append, List.any_eq_false.mpr fun x hx => by simp [(hsent x hx).1],
      Bool.false_or]
  have hall : (sent ++ t.sent).all Sent.accepted = t.sent.all Sent.accepted := by
    rw [List.all_append, List.all_eq_true.mpr fun x hx => (hsent x hx).2, Bool.true_and]
  cases h with
  | refused hstores hbookings e hresult =>
      exact .refused (hany.trans hstores) (hbookings.trans hdata) e hresult
  | stored booking hpending hstores hbookings hresult =>
      refine .stored booking hpending (hany.trans hstores) ?_ ?_
      · rw [← hdata]
        exact hbookings
      · rw [← hdata]
        show if (sent ++ t.sent).all Sent.accepted then _ else _
        rw [hall]
        exact hresult

/-- The clean-up: an error of its own replaces the result, the bookings stay. -/
theorem CreateEnd.cleanUp (h : CreateEnd before t) {data : Backend} {c : Command}
    {reply : Except HttpException c.Reply} (hdata : data.bookings = t.data.bookings)
    (hc : Sent.storesBooking ⟨c, reply⟩ = false) :
    CreateEnd before ⟨data, reply.bind fun _ => t.result, t.sent ++ [⟨c, reply⟩]⟩ := by
  have hany : (t.sent ++ [(⟨c, reply⟩ : Sent)]).any Sent.storesBooking =
      t.sent.any Sent.storesBooking := by
    rw [List.any_append, List.any_cons, hc, List.any_nil, Bool.or_false, Bool.or_false]
  cases h with
  | refused hstores hbookings e hresult =>
      cases reply with
      | error e' => exact .refused (hany.trans hstores) (hdata.trans hbookings) e' rfl
      | ok r => exact .refused (hany.trans hstores) (hdata.trans hbookings) e hresult
  | stored booking hpending hstores hbookings hresult =>
      refine .stored booking hpending (hany.trans hstores) (hdata.trans hbookings) ?_
      cases reply with
      | error e' => simp [Sent.accepted, Except.isOk, Except.toBool, Except.bind]
      | ok r => simpa [Sent.accepted, Except.isOk, Except.toBool, Except.bind] using hresult

end Ends

/-! ## Every creation -/

section Create

variable (pricing : Except HttpException Unit) (lib : DateLib) (dto : CreateBookingDto)
  (customerId : UserId) (now : Time) (failures : ℕ → Option HttpException) (before : Backend)

/-- A command that does not write the bookings. -/
private theorem reply_bookings (c : Command) (failure : Option HttpException) {s : Backend}
    (h : c.bookingsAfter s = s.bookings) :
    (Program.reply Command.handle failure c s).1.bookings = s.bookings := by
  rw [(Command.reply_tables failure c s).1, h, ite_self]

/-- From the transaction on. -/
private theorem insert_ends {booking : Booking} (hpending : booking.status = .pending) :
    CreateEnd before ((do
      let id ← Async.insertBooking booking
      Async.emit (.bookingCreated id booking)
      return (id, booking) : Async (BookingId × Booking)).trial Command.handle failures
        before) := by
  refine Program.trial_handled_bind Command.handle failures before rfl ?_ ?_
  · intro e
    exact .refused rfl rfl e rfl
  refine Program.trial_handled_bind (Q := fun t => CreateEnd before (t.after _)) Command.handle
    _ _ rfl ?_ ?_
  · -- The event is handed over after the row is stored.
    intro e
    exact .stored booking hpending rfl rfl ⟨e, rfl⟩
  · exact .stored booking hpending rfl rfl rfl

/-- What happens while the creation has the lock. -/
theorem createLocked_ends :
    CreateEnd before ((Async.createLockedPriced pricing lib dto customerId now).trial
      Command.handle failures before) := by
  refine Program.trial_call_bind_cases Command.handle failures before ?_ ?_
  · intro e _
    exact .refused rfl (reply_bookings (.queryAvailability lib dto) _ rfl) e rfl
  intro available _
  refine CreateEnd.after (reply_bookings (.queryAvailability lib dto) (failures 0) rfl) ?_ _
    (by simp [Sent.storesBooking, Sent.accepted, Except.isOk, Except.toBool])
  cases available with
  | false => exact .refused rfl rfl _ rfl
  | true =>
      cases pricing with
      | error e => exact .refused rfl rfl e rfl
      | ok _ =>
          cases hnew : newBooking lib dto customerId now with
          | none => exact .refused rfl rfl _ rfl
          | some booking =>
              obtain ⟨_, _, _, _, _, rfl⟩ := newBooking_eq_some hnew
              exact insert_ends _ _ rfl

/-- While it has the lock, a creation sends no command about locks. -/
theorem createLocked_uses :
    (Async.createLockedPriced pricing lib dto customerId now).Uses
      fun c => c.isLock = false := by
  have hcall : ∀ c : Command, c.isLock = false →
      (Program.call c : Async c.Reply).Uses fun c => c.isLock = false :=
    fun c hc => Program.uses_call hc
  refine .bind (hcall _ rfl) fun _ => .ite (fun _ => trivial) fun _ => ?_
  cases pricing with
  | error e => trivial
  | ok _ =>
      refine .bind (p := fun c : Command => c.isLock = false) trivial fun _ => ?_
      cases newBooking lib dto customerId now with
      | none => trivial
      | some booking => exact .bind (hcall _ rfl) fun _ => .bind (hcall _ rfl) fun _ => trivial

/-- Body and clean-up: the clean-up is the one release. -/
theorem createFinally_ends :
    CreateEnd before ((tryFinally (Async.createLockedPriced pricing lib dto customerId now)
        (Async.releaseLock dto.lockKey)).trial Command.handle failures before) ∧
      ((tryFinally (Async.createLockedPriced pricing lib dto customerId now)
        (Async.releaseLock dto.lockKey)).trial Command.handle failures before).sent.countP
          (Sent.isRelease dto.lockKey) = 1 := by
  rw [Program.trial_tryFinally]
  have huses := createLocked_uses pricing lib dto customerId now
  refine ⟨(createLocked_ends pricing lib dto customerId now failures before).cleanUp
    (reply_bookings (.releaseLock dto.lockKey) _ rfl) rfl, ?_⟩
  have hnone : ((Async.createLockedPriced pricing lib dto customerId now).trial Command.handle
      failures before).sent.countP (Sent.isRelease dto.lockKey) = 0 :=
    List.countP_eq_zero.mpr fun x hx => by
      rw [(Sent.not_lock (huses.of_sent Command.handle hx) dto.lockKey).1]
      exact Bool.false_ne_true
  show List.countP _ (_ ++ _) = 1
  rw [List.countP_append, hnone, Async.releaseLock, Program.trial_call]
  simp [Sent.isRelease]

/-- **How a creation ends**, whatever fails. -/
theorem create_ends :
    CreateEnd before ((Async.createPriced pricing lib dto customerId now).trial Command.handle
        failures before) ∧
      ReleasesOnce dto.lockKey ((Async.createPriced pricing lib dto customerId now).trial
        Command.handle failures before) := by
  refine Program.trial_call_bind_cases
    (Q := fun t => CreateEnd before t ∧ ReleasesOnce dto.lockKey t) Command.handle failures
    before ?_ ?_
  · intro e _
    exact ⟨.refused rfl (reply_bookings (.queryAvailability lib dto) _ rfl) e rfl, rfl⟩
  intro available _
  have hquery := reply_bookings (.queryAvailability lib dto) (failures 0) (s := before) rfl
  cases available with
  | false => exact ⟨.refused rfl hquery _ rfl, rfl⟩
  | true =>
      refine Program.trial_call_bind_cases (Q := fun t => CreateEnd before (t.after _) ∧
        ReleasesOnce dto.lockKey (t.after _)) Command.handle _ _ ?_ ?_
      · intro e _
        exact ⟨.refused rfl ((reply_bookings (.acquireLock dto.lockKey 600) _ rfl).trans hquery) e
          rfl, rfl⟩
      intro acquired _
      have hlock := (reply_bookings (.acquireLock dto.lockKey 600) (failures (0 + 1))
        (s := (Program.reply Command.handle (failures 0) (.queryAvailability lib dto) before).1)
        rfl).trans hquery
      cases acquired with
      | false => exact ⟨.refused rfl hlock _ rfl, rfl⟩
      | true =>
          obtain ⟨hends, hcount⟩ := createFinally_ends pricing lib dto customerId now
            (fun n => failures (n + 1 + 1)) (Program.reply Command.handle (failures (0 + 1))
              (.acquireLock dto.lockKey 600) (Program.reply Command.handle (failures 0)
                (.queryAvailability lib dto) before).1).1
          refine ⟨hends.after hlock [⟨.queryAvailability lib dto, .ok true⟩,
            ⟨.acquireLock dto.lockKey 600, .ok true⟩] ?_, ?_⟩
          · simp [Sent.storesBooking, Sent.accepted, Except.isOk, Except.toBool]
          · show List.countP _ (_ :: _ :: _) = if List.any (_ :: _ :: _) _ then 1 else 0
            rw [List.countP_cons_of_neg (by simp [Sent.isRelease]),
              List.countP_cons_of_neg (by simp [Sent.isRelease]), List.any_cons, List.any_cons]
            simp only [Sent.isAcquisition, decide_true, Bool.and_true, Bool.true_or, Bool.or_true,
              if_true]
            exact hcount

/-- **A creation is all or nothing**, for every request and every pattern of failures,
exactly when nothing is rejected after its booking was stored. -/
theorem create_all_or_nothing_iff :
    AllOrNothing before dto.lockKey ((Async.createPriced pricing lib dto customerId now).trial
        Command.handle failures before) ↔
      NothingFailsAfterInsert ((Async.createPriced pricing lib dto customerId now).trial
        Command.handle failures before) := by
  obtain ⟨hends, hreleases⟩ := create_ends pricing lib dto customerId now failures before
  constructor
  · intro h
    exact hends.iff.mp ⟨h.returned, h.thrown⟩
  · intro h
    obtain ⟨hreturned, hthrown⟩ := hends.iff.mpr h
    exact ⟨hreturned, hthrown, hreleases⟩

end Create

namespace Demo

/-- A platform on which nothing has happened yet. -/
def untouched : Backend := ⟨Store.start [], [], []⟩

/-- The creation of a booking of the car, whose sixth command, the release of the lock, is
rejected. -/
def releaseRejected : CreateTrial :=
  (Async.createPriced (.ok ()) dates clio 1 0).trial Command.handle
    (fun n => if n = 5 then some .clientError else none) untouched

end Demo

/-- **The release of the lock fails after the booking is stored**: the creation throws, and
the booking is in the table. -/
theorem release_fails_after_insert :
    Demo.releaseRejected.data.bookings.map Booking.status = [.pending] ∧
      (∃ e, Demo.releaseRejected.result = .error e) ∧
      ¬ AllOrNothing Demo.untouched Demo.clio.lockKey Demo.releaseRejected := by
  have hstored : Demo.releaseRejected.data.bookings.map Booking.status = [.pending] := by
    decide +kernel
  have hthrown : Demo.releaseRejected.result.isOk = false := by
    decide +kernel
  cases hresult : Demo.releaseRejected.result with
  | ok a =>
      rw [hresult] at hthrown
      cases hthrown
  | error e =>
      refine ⟨hstored, ⟨e, rfl⟩, fun h => ?_⟩
      rw [h.thrown e hresult] at hstored
      cases hstored

end StayRide
