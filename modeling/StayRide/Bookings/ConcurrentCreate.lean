import StayRide.Bookings.Service
import StayRide.Lib.Interleaving

/-!
# `create`, step by step

Concurrent `BookingsService.create` requests.  Each await of the method is one
atomic step: the availability check, `SET NX` of the lock, the second check, the
insert transaction, and `DEL` of the lock in the `finally` block.  An awaited call
may also be rejected; a rejection inside the `try` block still runs the `finally`
block, and a rejected `DEL` replaces the outcome and leaves the lock behind.  The
environment lets locks expire.

`CreateStep` lists everything a step can do, so that no later proof unfolds
`createStep`.  `create_alone` connects the steps with the method: a request that is
not interrupted does what `create` does.
-/

namespace StayRide

open Lib

/-- A request for a booking. -/
structure CreateRequest where
  dto : CreateBookingDto
  customerId : UserId

/-- What the requests share: the bookings table and Redis, whose locks remember
which request set them. -/
structure Desk (ι : Type) where
  bookings : Table Booking
  redis : Redis ι

abbrev CreateResult := Except HttpException (BookingId × Booking)

/-- Where a request is: before the await of this name, or finished. -/
inductive CreatePc
  | checkAvailability
  | acquireLock
  | recheck
  | insert
  | releaseLock (result : CreateResult)
  | done (result : CreateResult)

/-- The request is between the acquisition and the release of its lock. -/
def CreatePc.inSection : CreatePc → Bool
  | .recheck | .insert | .releaseLock _ => true
  | _ => false

/-- How many awaits are left at most. -/
def CreatePc.rank : CreatePc → ℕ
  | .checkAvailability => 5
  | .acquireLock => 4
  | .recheck => 3
  | .insert => 2
  | .releaseLock _ => 1
  | .done _ => 0

theorem CreatePc.rank_eq_zero {pc : CreatePc} (h : pc.rank = 0) :
    ∃ result, pc = .done result := by
  cases pc with
  | done result => exact ⟨result, rfl⟩
  | checkAvailability | acquireLock | recheck | insert | releaseLock => cases h

/-- The availability check of a request. -/
def CreateRequest.check (lib : DateLib) (r : CreateRequest) (bookings : Table Booking) :
    Except HttpException Bool :=
  checkAvailability lib bookings r.dto.resourceId r.dto.resourceType r.dto.startDate
    r.dto.endDate

/-- The row a request inserts. -/
def CreateRequest.row (lib : DateLib) (r : CreateRequest) (now : Time) : Option Booking :=
  newBooking lib r.dto r.customerId now

/-- The lock of a request. -/
def CreateRequest.lock (r : CreateRequest) : String :=
  Redis.lockName r.dto.lockKey

section Steps

variable {ι : Type} (lib : DateLib) (req : ι → CreateRequest)

/-- One step of request `i`. -/
def createStep (i : ι) (attempt : Attempt) (desk : Desk ι) (pc : CreatePc) :
    Option (Desk ι × CreatePc) :=
  match pc, attempt with
  | .checkAvailability, .succeeds _ =>
      match (req i).check lib desk.bookings with
      | .ok true => some (desk, .acquireLock)
      | .ok false => some (desk, .done (.error datesTaken))
      | .error e => some (desk, .done (.error e))
  | .checkAvailability, .fails => some (desk, .done (.error .queryFailed))
  | .acquireLock, .succeeds _ =>
      let (acquired, redis) := desk.redis.acquireLock (req i).dto.lockKey 600 i
      if acquired then some ({ desk with redis := redis }, .recheck)
      else some ({ desk with redis := redis }, .done (.error bookingInProgress))
  | .acquireLock, .fails => some (desk, .done (.error .clientError))
  | .recheck, .succeeds _ =>
      match (req i).check lib desk.bookings with
      | .ok true => some (desk, .insert)
      | .ok false => some (desk, .releaseLock (.error datesJustTaken))
      | .error e => some (desk, .releaseLock (.error e))
  | .recheck, .fails => some (desk, .releaseLock (.error .queryFailed))
  | .insert, .succeeds now =>
      match (req i).row lib now with
      | some booking =>
          some ({ desk with bookings := desk.bookings.insertRow booking },
            .releaseLock (.ok (desk.bookings.length, booking)))
      | none => some (desk, .releaseLock (.error .queryFailed))
  | .insert, .fails => some (desk, .releaseLock (.error .queryFailed))
  | .releaseLock result, .succeeds _ =>
      some ({ desk with redis := desk.redis.releaseLock (req i).dto.lockKey }, .done result)
  | .releaseLock _, .fails => some (desk, .done (.error .clientError))
  | .done _, _ => none

/-- The time to live of a lock that is held elapses. -/
def expireLock (key : String) (desk : Desk ι) : Option (Desk ι) :=
  match desk.redis (Redis.lockName key) with
  | none => none
  | some _ => some { desk with redis := desk.redis.releaseLock key }

/-- What a step can do, with what it found. -/
inductive CreateStep (i : ι) (attempt : Attempt) (desk : Desk ι) :
    CreatePc → Desk ι → CreatePc → Prop
  | pass (h : (req i).check lib desk.bookings = .ok true) :
      CreateStep i attempt desk .checkAvailability desk .acquireLock
  | refuse (e : HttpException)
      (h : (req i).check lib desk.bookings = .ok false ∧ e = datesTaken ∨
        (req i).check lib desk.bookings = .error e ∨ attempt = .fails) :
      CreateStep i attempt desk .checkAvailability desk (.done (.error e))
  | acquire (hfree : desk.redis (req i).lock = none) :
      CreateStep i attempt desk .acquireLock
        { desk with redis := Function.update desk.redis (req i).lock (some ⟨"1", 600, i⟩) }
        .recheck
  | wait (e : HttpException)
      (h : desk.redis (req i).lock ≠ none ∧ e = bookingInProgress ∨ attempt = .fails) :
      CreateStep i attempt desk .acquireLock desk (.done (.error e))
  | confirm (h : (req i).check lib desk.bookings = .ok true) :
      CreateStep i attempt desk .recheck desk .insert
  | lose (e : HttpException)
      (h : (req i).check lib desk.bookings = .ok false ∧ e = datesJustTaken ∨
        (req i).check lib desk.bookings = .error e ∨ attempt = .fails) :
      CreateStep i attempt desk .recheck desk (.releaseLock (.error e))
  | insert {now : Time} {booking : Booking} (hrow : (req i).row lib now = some booking) :
      CreateStep i attempt desk .insert
        { desk with bookings := desk.bookings.insertRow booking }
        (.releaseLock (.ok (desk.bookings.length, booking)))
  | abort (h : (∃ now, (req i).row lib now = none) ∨ attempt = .fails) :
      CreateStep i attempt desk .insert desk (.releaseLock (.error .queryFailed))
  | release (result : CreateResult) :
      CreateStep i attempt desk (.releaseLock result)
        { desk with redis := Function.update desk.redis (req i).lock none } (.done result)
  | strand (result : CreateResult) (h : attempt = .fails) :
      CreateStep i attempt desk (.releaseLock result) desk (.done (.error .clientError))

/-- **Inversion**: a step is one of the listed ones. -/
theorem createStep_cases {i : ι} {attempt : Attempt} {desk desk' : Desk ι}
    {pc pc' : CreatePc} (h : createStep lib req i attempt desk pc = some (desk', pc')) :
    CreateStep lib req i attempt desk pc desk' pc' := by
  cases pc with
  | checkAvailability =>
      cases attempt with
      | fails =>
          cases h
          exact .refuse _ (Or.inr (Or.inr rfl))
      | succeeds now =>
          simp only [createStep] at h
          split at h
          · next hcheck =>
              cases h
              exact .pass hcheck
          · next hcheck =>
              cases h
              exact .refuse _ (Or.inl ⟨hcheck, rfl⟩)
          · next e hcheck =>
              cases h
              exact .refuse e (Or.inr (Or.inl hcheck))
  | acquireLock =>
      cases attempt with
      | fails =>
          cases h
          exact .wait _ (Or.inr rfl)
      | succeeds now =>
          simp only [createStep] at h
          cases hlock : desk.redis (req i).lock with
          | none =>
              rw [Redis.acquireLock_of_free hlock] at h
              cases h
              exact .acquire hlock
          | some entry =>
              rw [Redis.acquireLock_of_taken hlock] at h
              cases h
              exact .wait _ (Or.inl ⟨by rw [hlock]; exact Option.some_ne_none _, rfl⟩)
  | recheck =>
      cases attempt with
      | fails =>
          cases h
          exact .lose _ (Or.inr (Or.inr rfl))
      | succeeds now =>
          simp only [createStep] at h
          split at h
          · next hcheck =>
              cases h
              exact .confirm hcheck
          · next hcheck =>
              cases h
              exact .lose _ (Or.inl ⟨hcheck, rfl⟩)
          · next e hcheck =>
              cases h
              exact .lose e (Or.inr (Or.inl hcheck))
  | insert =>
      cases attempt with
      | fails =>
          cases h
          exact .abort (Or.inr rfl)
      | succeeds now =>
          simp only [createStep] at h
          split at h
          · next booking hrow =>
              cases h
              exact .insert hrow
          · next hrow =>
              cases h
              exact .abort (Or.inl ⟨now, hrow⟩)
  | releaseLock result =>
      cases attempt with
      | fails =>
          cases h
          exact .strand result rfl
      | succeeds now =>
          cases h
          exact .release result
  | done result => cases h

/-- Every step brings a request nearer to its end. -/
theorem CreateStep.rank_lt {lib : DateLib} {req : ι → CreateRequest} {i : ι}
    {attempt : Attempt} {desk desk' : Desk ι} {pc pc' : CreatePc}
    (h : CreateStep lib req i attempt desk pc desk' pc') :
    pc'.rank < pc.rank := by
  cases h <;> simp only [CreatePc.rank] <;> omega

/-- An entry of Redis survives a step, unless the step releases its lock. -/
theorem CreateStep.entry_kept {lib : DateLib} {req : ι → CreateRequest} {i : ι}
    {attempt : Attempt} {desk desk' : Desk ι} {pc pc' : CreatePc}
    (h : CreateStep lib req i attempt desk pc desk' pc') {name : String}
    {entry : RedisEntry ι} (hentry : desk.redis name = some entry) :
    desk'.redis name = some entry ∨
      ∃ result, pc = .releaseLock result ∧ name = (req i).lock := by
  cases h with
  | acquire hfree =>
      have hne : name ≠ (req i).lock := by
        rintro rfl
        rw [hfree] at hentry
        cases hentry
      exact Or.inl ((Function.update_of_ne hne ..).trans hentry)
  | release result =>
      by_cases hname : name = (req i).lock
      · exact Or.inr ⟨result, rfl, hname⟩
      · exact Or.inl ((Function.update_of_ne hname ..).trans hentry)
  | pass | refuse | wait | confirm | lose | insert | abort | strand => exact Or.inl hentry

/-- While an entry is there, no request gets past the acquisition of that lock. -/
theorem CreateStep.of_taken {lib : DateLib} {req : ι → CreateRequest} {i : ι}
    {attempt : Attempt} {desk desk' : Desk ι} {pc' : CreatePc}
    (h : CreateStep lib req i attempt desk .acquireLock desk' pc') {entry : RedisEntry ι}
    (hentry : desk.redis (req i).lock = some entry) :
    pc'.inSection = false ∧ desk' = desk := by
  cases h with
  | acquire hfree =>
      rw [hentry] at hfree
      cases hfree
  | wait => exact ⟨rfl, rfl⟩

/-- The expiry of a lock leaves the others alone. -/
theorem expireLock_of_ne {key key' : String} {desk desk' : Desk ι}
    (h : expireLock key desk = some desk') (hne : key' ≠ key) :
    desk'.redis (Redis.lockName key') = desk.redis (Redis.lockName key') := by
  unfold expireLock at h
  split at h
  · cases h
  · cases h
    exact Redis.releaseLock_of_ne desk.redis hne

/-- A request that is not finished can take a step. -/
theorem createStep_enabled (i : ι) (attempt : Attempt) (desk : Desk ι) {pc : CreatePc}
    (h : pc.rank ≠ 0) :
    ∃ desk' pc', createStep lib req i attempt desk pc = some (desk', pc') := by
  suffices hsome : (createStep lib req i attempt desk pc).isSome by
    obtain ⟨next, hnext⟩ := Option.isSome_iff_exists.mp hsome
    exact ⟨next.1, next.2, hnext⟩
  cases pc with
  | done result => exact absurd rfl h
  | releaseLock result => cases attempt <;> rfl
  | checkAvailability | acquireLock | recheck | insert =>
      cases attempt with
      | fails => rfl
      | succeeds now =>
          simp only [createStep]
          split <;> rfl

/-- What the steps of a request that nothing interrupts come to. -/
theorem create_solo {i : ι} (now : Time) (desk : Desk ι) (store : Store)
    (hbookings : store.bookings = desk.bookings)
    (hlocked : store.redis.Locked (req i).dto.lockKey ↔ desk.redis.Locked (req i).dto.lockKey) :
    solo (createStep lib req i (.succeeds now)) 5 desk .checkAvailability =
      ({ desk with bookings :=
          ((create lib (req i).dto (req i).customerId now).storeAfter store).bookings },
        .done ((create lib (req i).dto (req i).customerId now).outcome store)) := by
  have hcheck_eq : checkAvailability lib store.bookings (req i).dto.resourceId
      (req i).dto.resourceType (req i).dto.startDate (req i).dto.endDate =
        (req i).check lib desk.bookings := by
    rw [hbookings]
    rfl
  have hrow_eq : newBooking lib (req i).dto (req i).customerId now = (req i).row lib now := rfl
  rw [create_storeAfter, create_outcome, createdBooking, hcheck_eq, hrow_eq]
  cases hcheck : (req i).check lib desk.bookings with
  | error e => simp [solo, createStep, hcheck, hbookings]
  | ok free =>
      cases free with
      | false => simp [solo, createStep, hcheck, hbookings]
      | true =>
          by_cases hfree : desk.redis (Redis.lockName (req i).dto.lockKey) = none
          · have hnot : ¬ store.redis.Locked (req i).dto.lockKey := by
              rw [hlocked]
              exact fun h => h hfree
            -- The lock that the request takes is released at its end.
            have hreleased := Redis.releaseLock_of_acquired hfree ⟨"1", 600, i⟩
            cases hrow : (req i).row lib now with
            | none =>
                simp [solo, createStep, hcheck, hnot, hrow, hbookings,
                  Redis.acquireLock_of_free hfree, hreleased]
            | some booking =>
                simp [solo, createStep, hcheck, hnot, hrow, hbookings,
                  Redis.acquireLock_of_free hfree, hreleased]
          · have hyes : store.redis.Locked (req i).dto.lockKey := hlocked.mpr hfree
            obtain ⟨entry, hentry⟩ := Option.ne_none_iff_exists'.mp hfree
            simp [solo, createStep, hcheck, hyes, hbookings, Redis.acquireLock_of_taken hentry]

end Steps

/-! ## The system -/

/-- The requests at the desk. -/
abbrev CreateConfig (ι : Type) := Config (Desk ι) ι CreatePc

/-- A step of a request, or the expiry of the lock with this key. -/
abbrev CreateMove (ι : Type) := Move ι Attempt String

section System

variable {ι : Type} [DecidableEq ι] (lib : DateLib) (req : ι → CreateRequest)

/-- Concurrent `create` requests. -/
def createSystem : CreateConfig ι → CreateMove ι → Option (CreateConfig ι) :=
  interleave (createStep lib req) expireLock

/-- All requests have arrived, none has begun. -/
def createStart (desk : Desk ι) : CreateConfig ι :=
  ⟨desk, fun _ => .checkAvailability⟩

/-! The moves of a request that nothing stops. -/

variable {lib req} {c : CreateConfig ι} {i : ι} (now : Time)

theorem createSystem_check (hpc : c.pc i = .checkAvailability)
    (h : (req i).check lib c.shared.bookings = .ok true) :
    createSystem lib req c (.process i (.succeeds now)) =
      some ⟨c.shared, Function.update c.pc i .acquireLock⟩ := by
  refine interleave_process ?_
  simp only [createStep, hpc, h]

theorem createSystem_acquire (hpc : c.pc i = .acquireLock)
    (h : c.shared.redis (req i).lock = none) :
    createSystem lib req c (.process i (.succeeds now)) =
      some ⟨{ c.shared with
          redis := Function.update c.shared.redis (req i).lock (some ⟨"1", 600, i⟩) },
        Function.update c.pc i .recheck⟩ := by
  refine interleave_process ?_
  simp only [createStep, hpc, Redis.acquireLock_of_free h, if_true]
  rfl

theorem createSystem_recheck (hpc : c.pc i = .recheck)
    (h : (req i).check lib c.shared.bookings = .ok true) :
    createSystem lib req c (.process i (.succeeds now)) =
      some ⟨c.shared, Function.update c.pc i .insert⟩ := by
  refine interleave_process ?_
  simp only [createStep, hpc, h]

theorem createSystem_insert (hpc : c.pc i = .insert) {booking : Booking}
    (h : (req i).row lib now = some booking) :
    createSystem lib req c (.process i (.succeeds now)) =
      some ⟨{ c.shared with bookings := c.shared.bookings.insertRow booking },
        Function.update c.pc i (.releaseLock (.ok (c.shared.bookings.length, booking)))⟩ := by
  refine interleave_process ?_
  simp only [createStep, hpc, h]

/-- **Alone, a request does what `create` does.**  From its first await on, a request
that is not interrupted reaches its end with the outcome of `create`, having added the
rows that `create` adds, and leaves Redis as it found it. -/
theorem create_alone (hpc : c.pc i = .checkAvailability) (store : Store)
    (hbookings : store.bookings = c.shared.bookings)
    (hlocked : store.redis.Locked (req i).dto.lockKey ↔
      c.shared.redis.Locked (req i).dto.lockKey) :
    ∃ n c', replay (createSystem lib req) c
        (List.replicate n (.process i (.succeeds now))) = some c' ∧
      c'.pc i = .done ((create lib (req i).dto (req i).customerId now).outcome store) ∧
      c'.shared.bookings =
        ((create lib (req i).dto (req i).customerId now).storeAfter store).bookings ∧
      c'.shared.redis = c.shared.redis := by
  obtain ⟨n, hn⟩ := exists_replay_solo (createStep lib req) expireLock i (.succeeds now) 5 c
  rw [hpc, create_solo lib req now c.shared store hbookings hlocked] at hn
  exact ⟨n, _, hn, Function.update_self .., rfl, rfl⟩

end System

end StayRide
