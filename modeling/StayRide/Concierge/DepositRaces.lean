import Mathlib.Logic.Relation
import StayRide.System.Platform

/-!
# Deposit calls that race

Any number of `collectDeposit` and `confirmCheckout` calls on one booking.  Both look
at the deposit status when they check the access and write it later: `collectDeposit`
writes `HELD` if it has seen `PENDING`, and `confirmCheckout` writes back what it has
seen, or `UNDER_REVIEW` for `HELD`.  Between the two awaits the status can change, and
neither update looks again.

`DepositUnchanged` is the condition under which nothing is lost: an update is carried
out only while the stored status is the one its call has seen.  Then the status moves
forward only and one collection at most succeeds.

Two facts about the text of the calls carry the proof: they send no other update of
bookings (`Program.Uses`), and `collectDeposit` does not return before it has written
`HELD` (`Program.Must`).
-/

namespace StayRide

open Lib

/-- A call that writes the deposit columns of a booking. -/
inductive DepositCall
  | collectDeposit (conciergeId : UserId) (proofUrl : Option String)
  | confirmCheckout (conciergeId : UserId)

/-- The call as a request about the booking `bookingId`. -/
def DepositCall.onBooking (bookingId : BookingId) : DepositCall → Call
  | .collectDeposit conciergeId proofUrl => .collectDeposit bookingId conciergeId proofUrl
  | .confirmCheckout conciergeId => .confirmCheckout bookingId conciergeId

def DepositCall.collects : DepositCall → Bool
  | .collectDeposit _ _ => true
  | .confirmCheckout _ => false

/-- The booking and the deposit status its caller has seen, for the two commands that
write a deposit status. -/
def Command.depositRead : Command → Option (BookingId × DepositStatus)
  | .updateBooking id (.depositHeld _ _ _) => some (id, .pending)
  | .updateBooking id (.checkedOut read _) => some (id, read.depositStatus)
  | _ => none

/-- The update that marks the deposit as collected. -/
def Command.HoldsDeposit : Command → Prop
  | .updateBooking _ (.depositHeld _ _ _) => True
  | _ => False

/-- The commands of the deposit calls on one booking: the two updates, reads and
events. -/
inductive Command.OfDeposit (bookingId : BookingId) : Command → Prop
  | hold (conciergeId : UserId) (proofUrl : Option String) (now : Time) :
      OfDeposit bookingId (.updateBooking bookingId (.depositHeld conciergeId proofUrl now))
  | checkOut (read : Booking) (now : Time) :
      OfDeposit bookingId (.updateBooking bookingId (.checkedOut read now))
  | read {c : Command} (h : c.isRead = true) : OfDeposit bookingId c
  | emit (event : DomainEvent) : OfDeposit bookingId (.emit event)

/-- One step forward: `PENDING → HELD → UNDER_REVIEW`. -/
inductive DepositStatus.Advances : DepositStatus → DepositStatus → Prop
  | collect : Advances .pending .held
  | review : Advances .held .underReview

/-- Any number of steps forward. -/
def DepositStatus.Forward : DepositStatus → DepositStatus → Prop :=
  Relation.ReflTransGen DepositStatus.Advances

namespace DepositStatus

/-- From `HELD` on there is no way back. -/
theorem Forward.of_held {status : DepositStatus} (h : Forward .held status) :
    status = .held ∨ status = .underReview := by
  induction h with
  | refl => exact .inl rfl
  | tail _ hstep ih =>
      cases hstep with
      | collect => rcases ih with ih | ih <;> cases ih
      | review => exact .inr rfl

end DepositStatus

/-! ## The system -/

section System

variable {ι : Type} [DecidableEq ι]

abbrev DepositConfig (ι : Type) := Config Backend ι (Async Unit)

/-- The deposit status of a booking, if the booking exists. -/
def Backend.depositStatus (backend : Backend) (bookingId : BookingId) :
    Option DepositStatus :=
  backend.bookings[bookingId]?.map Booking.depositStatus

/-- All calls are about to start; the call `i` writes the time `(calls i).1`. -/
def depositStart (lib : DateLib) (bookingId : BookingId) (calls : ι → Time × DepositCall)
    (backend : Backend) : DepositConfig ι where
  shared := backend
  pc i := Async.program lib (calls i).1 (.booking ((calls i).2.onBooking bookingId))

/-- **The condition**: no update of a deposit status that has changed since the caller
has seen it. -/
def DepositUnchanged (c : DepositConfig ι) : Move ι (Option HttpException) String → Prop
  | .process i none => ∀ cmd ∈ (c.pc i).pending, ∀ seen ∈ cmd.depositRead,
      c.shared.depositStatus seen.1 = some seen.2
  | _ => True

instance (c : DepositConfig ι) (move : Move ι (Option HttpException) String) :
    Decidable (DepositUnchanged c move) :=
  match move with
  | .process i none => inferInstanceAs (Decidable (∀ cmd ∈ (c.pc i).pending,
      ∀ seen ∈ cmd.depositRead, c.shared.depositStatus seen.1 = some seen.2))
  | .process _ (some _) => isTrue trivial
  | .environment _ => isTrue trivial

/-! ## What the text of the calls says -/

theorem uses_validateConciergeAccess (bookingId : BookingId) (conciergeId : UserId) :
    (Async.validateConciergeAccess bookingId conciergeId).Uses
      (Command.OfDeposit bookingId) := by
  refine .bind (Program.uses_call (.read rfl)) fun booking => ?_
  cases booking with
  | none => trivial
  | some booking =>
      refine .bind (Program.uses_call (.read rfl)) fun found => ?_
      cases found <;> trivial

theorem uses_depositCall (lib : DateLib) (now : Time) (bookingId : BookingId)
    (call : DepositCall) :
    (Async.program lib now (.booking (call.onBooking bookingId))).Uses
      (Command.OfDeposit bookingId) := by
  cases call with
  | collectDeposit conciergeId proofUrl =>
      refine .bind (.bind (uses_validateConciergeAccess bookingId conciergeId) fun booking =>
        .ite (fun _ => trivial) fun _ => ?_) fun _ => trivial
      exact .bind (Program.uses_call (.hold conciergeId proofUrl now)) fun _ =>
        Program.uses_call (.read rfl)
  | confirmCheckout conciergeId =>
      refine .bind (.bind (uses_validateConciergeAccess bookingId conciergeId) fun booking => ?_)
        fun _ => trivial
      exact .bind (Program.uses_call (.checkOut booking now)) fun _ =>
        .bind (Program.uses_call (.read rfl)) fun _ =>
          .bind (Program.uses_call (.emit _)) fun _ => trivial

/-- A collection that has returned has written `HELD`. -/
theorem must_collectDeposit (lib : DateLib) (now : Time) (bookingId : BookingId)
    {call : DepositCall} (hcall : call.collects = true) :
    (Async.program lib now (.booking (call.onBooking bookingId))).Must
      Command.HoldsDeposit := by
  cases call with
  | confirmCheckout conciergeId => cases hcall
  | collectDeposit conciergeId proofUrl =>
      refine Program.Must.bind_left (Program.must_bind_right _ fun booking => ?_) _
      by_cases hpending : booking.depositStatus = .pending
      · simp only [hpending, ne_eq, not_true_eq_false, if_false]
        exact (Program.must_call trivial).bind_left _
      · simp only [hpending, ne_eq, not_false_eq_true, if_true]
        trivial

/-! ## One command -/

/-- The status after an update that is carried out. -/
private theorem depositStatus_updateBooking (backend : Backend) (bookingId : BookingId)
    (update : BookingUpdate) :
    (Program.reply Command.handle none (.updateBooking bookingId update)
      backend).1.depositStatus bookingId =
      backend.bookings[bookingId]?.map fun b => (update.apply b).depositStatus := by
  rw [Backend.depositStatus, (Command.reply_tables none _ backend).1, if_pos rfl]
  simp only [Command.bookingsAfter, Table.getElem?_updateById, if_true, Option.map_map]
  rfl

/-- The update that collects finds `PENDING` and leaves `HELD`. -/
theorem depositStatus_of_hold {bookingId : BookingId} {cmd : Command} {backend : Backend}
    (hcmd : cmd.OfDeposit bookingId) (hhold : cmd.HoldsDeposit)
    (hseen : ∀ seen ∈ cmd.depositRead, backend.depositStatus seen.1 = some seen.2) :
    backend.depositStatus bookingId = some .pending ∧
      (Program.reply Command.handle none cmd backend).1.depositStatus bookingId =
        some .held := by
  cases hcmd with
  | hold conciergeId proofUrl now =>
      have hpending : backend.depositStatus bookingId = some .pending := hseen _ rfl
      obtain ⟨b, hb, -⟩ := Option.map_eq_some_iff.mp hpending
      refine ⟨hpending, ?_⟩
      rw [depositStatus_updateBooking, hb]
      rfl
  | checkOut read now => exact hhold.elim
  | emit event => exact hhold.elim
  | read h =>
      cases cmd with
      | updateBooking => cases h
      | _ => exact hhold.elim

/-- A command that finds the status its caller has seen moves it forward, if at all. -/
theorem forward_of_reply {bookingId : BookingId} {cmd : Command} {backend : Backend}
    {failure : Option HttpException} (hcmd : cmd.OfDeposit bookingId)
    (hseen : failure = none →
      ∀ seen ∈ cmd.depositRead, backend.depositStatus seen.1 = some seen.2)
    {status : DepositStatus} (hstatus : backend.depositStatus bookingId = some status) :
    ∃ new, (Program.reply Command.handle failure cmd backend).1.depositStatus bookingId =
      some new ∧ status.Forward new := by
  cases failure with
  | some e => exact ⟨status, hstatus, .refl⟩
  | none =>
      cases hcmd with
      | hold conciergeId proofUrl now =>
          obtain ⟨hpending, hheld⟩ :=
            depositStatus_of_hold (.hold conciergeId proofUrl now) trivial (hseen rfl)
          obtain rfl := Option.some.inj (hstatus.symm.trans hpending)
          exact ⟨.held, hheld, .single .collect⟩
      | checkOut read now =>
          -- The status written is computed from the one read, which is still stored.
          have hread : backend.depositStatus bookingId = some read.depositStatus :=
            hseen rfl _ rfl
          obtain rfl := Option.some.inj (hstatus.symm.trans hread)
          obtain ⟨b, hb, -⟩ := Option.map_eq_some_iff.mp hread
          refine ⟨_, by rw [depositStatus_updateBooking, hb]; rfl, ?_⟩
          show read.depositStatus.Forward
            (if read.depositStatus = .held then .underReview else read.depositStatus)
          by_cases hheld : read.depositStatus = .held
          · rw [if_pos hheld, hheld]
            exact .single .review
          · rw [if_neg hheld]
            exact .refl
      | read h =>
          rw [Command.reply_of_isRead h]
          exact ⟨status, hstatus, .refl⟩
      | emit event => exact ⟨status, hstatus, .refl⟩

/-! ## All interleavings -/

/-- What holds in every state of a run in which no seen status has changed. -/
structure CollectedOnce (bookingId : BookingId) (calls : ι → Time × DepositCall)
    (c : DepositConfig ι) : Prop where
  uses : ∀ i, (c.pc i).Uses (Command.OfDeposit bookingId)
  /-- A collection that needs no update any more has left `HELD` behind. -/
  held : ∀ i, (calls i).2.collects = true → ¬ (c.pc i).Must Command.HoldsDeposit →
    ∃ status, c.shared.depositStatus bookingId = some status ∧
      DepositStatus.Forward .held status
  once : ∀ i j, (calls i).2.collects = true → (calls j).2.collects = true →
    ¬ (c.pc i).Must Command.HoldsDeposit → ¬ (c.pc j).Must Command.HoldsDeposit → i = j

variable {bookingId : BookingId} {calls : ι → Time × DepositCall}

/-- One step of one call. -/
private theorem CollectedOnce.process {c : DepositConfig ι} (h : CollectedOnce bookingId calls c)
    {i : ι} {failure : Option HttpException} {cmd : Command}
    {next : Except HttpException cmd.Reply → Async Unit} (hpc : c.pc i = .await cmd next)
    (hG : DepositUnchanged c (.process i failure)) :
    CollectedOnce bookingId calls
      ⟨(Program.reply Command.handle failure cmd c.shared).1,
        Function.update c.pc i (next (Program.reply Command.handle failure cmd c.shared).2)⟩ := by
  have huses : (Program.await cmd next).Uses (Command.OfDeposit bookingId) := hpc ▸ h.uses i
  have hseen : failure = none →
      ∀ seen ∈ cmd.depositRead, c.shared.depositStatus seen.1 = some seen.2 := by
    rintro rfl
    exact hG cmd (by rw [hpc]; rfl)
  have hforward : ∀ {status}, c.shared.depositStatus bookingId = some status →
      ∃ new, (Program.reply Command.handle failure cmd c.shared).1.depositStatus bookingId =
        some new ∧ status.Forward new := forward_of_reply huses.1 hseen
  -- A call that is past its update after the step was so before, or has just made it.
  have hstep : ¬ (next (Program.reply Command.handle failure cmd c.shared).2).Must
      Command.HoldsDeposit → (c.pc i).Must Command.HoldsDeposit →
        c.shared.depositStatus bookingId = some .pending ∧
          (Program.reply Command.handle failure cmd c.shared).1.depositStatus bookingId =
            some .held := by
    intro hnext hmust
    obtain ⟨hhold, r, hr⟩ := Program.Must.of_not_next (hpc ▸ hmust) hnext
    cases failure with
    | some e => cases hr
    | none => exact depositStatus_of_hold huses.1 hhold (hseen rfl)
  have hkept : ∀ j, (calls j).2.collects = true → ¬ (c.pc j).Must Command.HoldsDeposit →
      ∃ status, (Program.reply Command.handle failure cmd c.shared).1.depositStatus bookingId =
        some status ∧ DepositStatus.Forward .held status := by
    intro j hj hpast
    obtain ⟨status, hstatus, hheld⟩ := h.held j hj hpast
    obtain ⟨new, hnew, hmove⟩ := hforward hstatus
    exact ⟨new, hnew, hheld.trans hmove⟩
  -- While some call is past its update, the status is not `PENDING` and none can follow.
  have hblocked : ∀ j, (calls j).2.collects = true → ¬ (c.pc j).Must Command.HoldsDeposit →
      c.shared.depositStatus bookingId ≠ some .pending := by
    intro j hj hpast hpending
    obtain ⟨status, hstatus, hheld⟩ := h.held j hj hpast
    obtain rfl := Option.some.inj (hpending.symm.trans hstatus)
    rcases hheld.of_held with h | h <;> cases h
  refine ⟨?_, fun j hj => ?_, fun j k hj hk => ?_⟩
  · exact (Function.forall_update_iff c.pc fun _ p => p.Uses (Command.OfDeposit bookingId)).mpr
      ⟨huses.2 _, fun j _ => h.uses j⟩
  · by_cases hji : j = i
    · subst hji
      simp only [Function.update_self]
      intro hnext
      by_cases hmust : (c.pc j).Must Command.HoldsDeposit
      · exact ⟨.held, (hstep hnext hmust).2, .refl⟩
      · exact hkept j hj hmust
    · simp only [Function.update_of_ne hji]
      exact hkept j hj
  · by_cases hji : j = i <;> by_cases hki : k = i
    · exact fun _ _ => hji.trans hki.symm
    · subst hji
      simp only [Function.update_self, Function.update_of_ne hki]
      intro hnext hpast
      by_cases hmust : (c.pc j).Must Command.HoldsDeposit
      · exact absurd (hstep hnext hmust).1 (hblocked k hk hpast)
      · exact h.once j k hj hk hmust hpast
    · subst hki
      simp only [Function.update_self, Function.update_of_ne hji]
      intro hpast hnext
      by_cases hmust : (c.pc k).Must Command.HoldsDeposit
      · exact absurd (hstep hnext hmust).1 (hblocked j hj hpast)
      · exact h.once j k hj hk hpast hmust
    · simp only [Function.update_of_ne hji, Function.update_of_ne hki]
      exact h.once j k hj hk

theorem collectedOnce_of_reach {lib : DateLib} {backend : Backend} {c : DepositConfig ι}
    (h : Reach platform DepositUnchanged (depositStart lib bookingId calls backend) c) :
    CollectedOnce bookingId calls c := by
  refine interleave_invariant ?_ (fun c i failure s p hI hG hstep => ?_)
    (fun c key s hI _ hs => ?_) h
  · have hmust : ∀ i, (calls i).2.collects = true →
        ((depositStart lib bookingId calls backend).pc i).Must Command.HoldsDeposit :=
      fun i hi => must_collectDeposit lib _ bookingId hi
    exact ⟨fun i => uses_depositCall lib _ bookingId _, fun i hi hpast => absurd (hmust i hi) hpast,
      fun i j hi _ hpast _ => absurd (hmust i hi) hpast⟩
  · obtain ⟨cmd, next, hpc, rfl, rfl⟩ := Program.step_eq_some Command.handle hstep
    exact hI.process hpc hG
  · obtain rfl := Option.some.inj hs
    exact ⟨hI.uses, hI.held, hI.once⟩

/-- From any state of such a run on, the status moves forward only. -/
theorem forward_of_reach {c c' : DepositConfig ι} (hc : CollectedOnce bookingId calls c)
    (h : Reach platform DepositUnchanged c c') {b : Booking}
    (hb : c.shared.bookings[bookingId]? = some b) :
    ∃ b', c'.shared.bookings[bookingId]? = some b' ∧
      b.depositStatus.Forward b'.depositStatus := by
  have hinv : CollectedOnce bookingId calls c' ∧
      ∃ status, c'.shared.depositStatus bookingId = some status ∧
        b.depositStatus.Forward status := by
    refine interleave_invariant (I := fun c' => CollectedOnce bookingId calls c' ∧
      ∃ status, c'.shared.depositStatus bookingId = some status ∧
        b.depositStatus.Forward status) ?_ (fun c i failure s p hI hG hstep => ?_)
      (fun c key s hI _ hs => ?_) h
    · exact ⟨hc, b.depositStatus, by rw [Backend.depositStatus, hb]; rfl, .refl⟩
    · obtain ⟨cmd, next, hpc, rfl, rfl⟩ := Program.step_eq_some Command.handle hstep
      obtain ⟨status, hstatus, hmove⟩ := hI.2
      have huses : (Program.await cmd next).Uses (Command.OfDeposit bookingId) :=
        hpc ▸ hI.1.uses i
      have hseen : failure = none →
          ∀ seen ∈ cmd.depositRead, c.shared.depositStatus seen.1 = some seen.2 := by
        intro hf
        subst hf
        exact hG cmd (by rw [hpc]; rfl)
      obtain ⟨new, hnew, hmove'⟩ := forward_of_reply huses.1 hseen hstatus
      exact ⟨hI.1.process hpc hG, new, hnew, hmove.trans hmove'⟩
    · obtain rfl := Option.some.inj hs
      exact ⟨⟨hI.1.uses, hI.1.held, hI.1.once⟩, hI.2⟩
  obtain ⟨-, status, hstatus, hmove⟩ := hinv
  obtain ⟨b', hb', rfl⟩ := Option.map_eq_some_iff.mp hstatus
  exact ⟨b', hb', hmove⟩

/-- **Deposit collected once.**  In every run in which no update finds a deposit status
other than the one its call has seen, the status moves forward only, in particular never
from `HELD` back to `PENDING`, and at most one collection succeeds. -/
theorem deposit_collected_once (lib : DateLib) (bookingId : BookingId)
    (calls : ι → Time × DepositCall) (backend : Backend) {c c' : DepositConfig ι}
    (h : Reach platform DepositUnchanged (depositStart lib bookingId calls backend) c)
    (h' : Reach platform DepositUnchanged c c') :
    (∀ b, c.shared.bookings[bookingId]? = some b →
      ∃ b', c'.shared.bookings[bookingId]? = some b' ∧
        b.depositStatus.Forward b'.depositStatus ∧
        (b.depositStatus = .held → b'.depositStatus ≠ .pending)) ∧
    ∀ i j, (calls i).2.collects = true → (calls j).2.collects = true →
      (c.pc i).returned = true → (c.pc j).returned = true → i = j := by
  have hinv := collectedOnce_of_reach h
  constructor
  · intro b hb
    obtain ⟨b', hb', hmove⟩ := forward_of_reach hinv h' hb
    refine ⟨b', hb', hmove, fun hheld hpending => ?_⟩
    rw [hheld, hpending] at hmove
    rcases hmove.of_held with h | h <;> cases h
  · intro i j hi hj hreturned hreturned'
    exact hinv.once i j hi hj (Program.not_must_of_returned hreturned)
      (Program.not_must_of_returned hreturned')

end System

namespace Demo

/-- The concierge 7 is assigned to the car, and customer 1 has booked it. -/
def rented : Backend where
  toStore := exec dates (Store.start
    [{ conciergeId := 7, resourceType := some .car, propertyId := none, carId := some "clio",
       assignedBy := 5, isActive := true }]) ⟨0, .create clio 1⟩
  inspections := []
  damagesReported := []

/-- Two collections and a check-out, all by the concierge 7. -/
def depositCalls : Fin 3 → Time × DepositCall
  | 0 => (10, .collectDeposit 7 none)
  | 1 => (11, .collectDeposit 7 none)
  | 2 => (12, .confirmCheckout 7)

/-- The call `i` carries out its next command. -/
def nextCommand (i : Fin 3) : Move (Fin 3) (Option HttpException) String :=
  .process i none

end Demo

/-- Both collections look while the status is `PENDING`; the first is carried out, and the
check-out follows. -/
theorem deposit_collected_once_demo : ∃ c c' : DepositConfig (Fin 3),
    Reach platform DepositUnchanged (depositStart Demo.dates 0 Demo.depositCalls Demo.rented)
      c ∧ Reach platform DepositUnchanged c c' ∧
    c.shared.depositStatus 0 = some .held ∧ c'.shared.depositStatus 0 = some .underReview ∧
    (∀ b, c.shared.bookings[0]? = some b → ∃ b', c'.shared.bookings[0]? = some b' ∧
      b.depositStatus.Forward b'.depositStatus ∧
      (b.depositStatus = .held → b'.depositStatus ≠ .pending)) ∧
    ∀ i j, (Demo.depositCalls i).2.collects = true → (Demo.depositCalls j).2.collects = true →
      (c.pc i).returned = true → (c.pc j).returned = true → i = j := by
  have hrun : (replay (fun c move => if DepositUnchanged c move then platform c move else none)
      (depositStart Demo.dates 0 Demo.depositCalls Demo.rented)
      ([0, 0, 1, 1, 0, 0].map Demo.nextCommand)).map (fun c => (c.shared.depositStatus 0,
        (replay (fun c move => if DepositUnchanged c move then platform c move else none) c
          ([2, 2, 2].map Demo.nextCommand)).map fun c' => c'.shared.depositStatus 0)) =
      some (some .held, some (some .underReview)) := by
    decide +kernel
  obtain ⟨c, hc, hstate⟩ := exists_reach_of_admitted hrun
  obtain ⟨hheld, hrest⟩ := Prod.mk.injEq .. ▸ hstate
  obtain ⟨c', hc', hreview⟩ := exists_reach_of_admitted hrest
  exact ⟨c, c', hc, hc', hheld, hreview,
    deposit_collected_once Demo.dates 0 Demo.depositCalls Demo.rented hc hc'⟩

/-- Without the condition: two collections that look before either writes both succeed,
and a check-out that looked before them writes `PENDING` back over `HELD`. -/
theorem deposit_collected_twice : ∃ c c' : DepositConfig (Fin 3),
    Reach platform (fun _ _ => True)
      (depositStart Demo.dates 0 Demo.depositCalls Demo.rented) c ∧
    Reach platform (fun _ _ => True) c c' ∧
    ((c.pc 0).returned = true ∧ (c.pc 1).returned = true) ∧
    c.shared.depositStatus 0 = some .held ∧ c'.shared.depositStatus 0 = some .pending := by
  have hrun : (replay platform (depositStart Demo.dates 0 Demo.depositCalls Demo.rented)
      ([0, 0, 1, 1, 2, 2, 0, 0, 1, 1].map Demo.nextCommand)).map (fun c =>
        ((c.pc 0).returned, (c.pc 1).returned, c.shared.depositStatus 0,
          (replay platform c ([2].map Demo.nextCommand)).map
            fun c' => c'.shared.depositStatus 0)) =
      some (true, true, some .held, some (some .pending)) := by
    decide +kernel
  obtain ⟨c, hc, hstate⟩ := exists_reach_of_unguarded hrun
  simp only [Prod.mk.injEq] at hstate
  obtain ⟨hfirst, hsecond, hheld, hrest⟩ := hstate
  obtain ⟨c', hc', hpending⟩ := exists_reach_of_unguarded hrest
  exact ⟨c, c', hc, hc', ⟨hfirst, hsecond⟩, hheld, hpending⟩

end StayRide
