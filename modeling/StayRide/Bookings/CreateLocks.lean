import StayRide.Bookings.ConcurrentCreate

/-!
# Who owns a lock

The lock of `create` is meant to be held by one request at a time, from `SET NX` to
`DEL`.  Redis guarantees that a key that is set is not set again, but `DEL` removes
the key whoever set it, and the key may expire under a request that is still at
work.  `owned_reach` is the invariant that everything about the locks rests on: as
long as no lock expires under a request at work, the entry under the lock of a
request at work is its own.  `lock_ownership` draws the consequences, and
`expired_lock_removed_by_stranger` shows the run that breaks them when a lock does
expire.
-/

namespace StayRide

open Lib

section Locks

variable {ι : Type} (lib : DateLib) (req : ι → CreateRequest)

/-- No lock expires under a request at work. -/
def ExpiresOnlyIdle (c : CreateConfig ι) : CreateMove ι → Prop
  | .process _ _ => True
  | .environment key => ∀ i, (c.pc i).inSection = true → (req i).dto.lockKey ≠ key

/-- The entry under the lock of every request at work is its own. -/
def Owned (c : CreateConfig ι) : Prop :=
  ∀ i, (c.pc i).inSection = true →
    ∃ entry, c.shared.redis (req i).lock = some entry ∧ entry.setBy = i

variable {req}

/-- Whatever stands under the lock of a request at work was set by it. -/
theorem Owned.setBy_eq {c : CreateConfig ι} (h : Owned req c) {i : ι}
    (hi : (c.pc i).inSection = true) {entry : RedisEntry ι}
    (hentry : c.shared.redis (req i).lock = some entry) : entry.setBy = i := by
  obtain ⟨own, hown, howner⟩ := h i hi
  rw [hentry, Option.some.injEq] at hown
  rw [hown]
  exact howner

/-- Two requests at work have different locks. -/
theorem Owned.lock_ne {c : CreateConfig ι} (h : Owned req c) {i j : ι} (hij : i ≠ j)
    (hi : (c.pc i).inSection = true) (hj : (c.pc j).inSection = true) :
    (req i).lock ≠ (req j).lock := by
  intro hlock
  obtain ⟨entry, hentry, howner⟩ := h i hi
  rw [hlock] at hentry
  exact hij (howner.symm.trans (h.setBy_eq hj hentry))

variable [DecidableEq ι]

/-- A step of a request keeps the entries of the requests at work. -/
theorem Owned.step {lib : DateLib} {c : CreateConfig ι} (h : Owned req c) {i : ι}
    {attempt : Attempt} {desk : Desk ι} {pc : CreatePc}
    (hstep : CreateStep lib req i attempt c.shared (c.pc i) desk pc) :
    Owned req ⟨desk, Function.update c.pc i pc⟩ := by
  refine (Function.forall_update_iff c.pc fun k p => p.inSection = true →
    ∃ entry, desk.redis (req k).lock = some entry ∧ entry.setBy = k).mpr
      ⟨fun hi => ?_, fun k hki hk => ?_⟩
  · -- A request at work has just acquired its lock, or was at work before.
    generalize hpc : c.pc i = old at hstep
    cases hstep with
    | acquire => exact ⟨⟨"1", 600, i⟩, Function.update_self .., rfl⟩
    | pass | refuse | wait | release | strand => cases hi
    | confirm | lose | insert | abort => exact h i (by rw [hpc]; rfl)
  · obtain ⟨entry, hentry, howner⟩ := h k hk
    rcases hstep.entry_kept hentry with hkept | ⟨result, hpc, hlock⟩
    · exact ⟨entry, hkept, howner⟩
    · exact absurd hlock (h.lock_ne hki hk (by rw [hpc]; rfl))

/-- **Ownership**: as long as no lock expires under a request at work, the entry under
the lock of every request at work is its own. -/
theorem owned_reach {desk : Desk ι} {c : CreateConfig ι}
    (h : Reach (createSystem lib req) (ExpiresOnlyIdle req) (createStart desk) c) :
    Owned req c := by
  refine interleave_invariant (fun i hi => ?_) (fun c i a s p hI _ hact => ?_)
    (fun c key s hI hG henv => ?_) h
  · cases hi
  · exact hI.step (createStep_cases lib req hact)
  · intro i hi
    obtain ⟨entry, hentry, howner⟩ := hI i hi
    exact ⟨entry, (expireLock_of_ne henv (hG i hi)).trans hentry, howner⟩

/-- **Lock ownership.**  As long as no lock expires under a request at work:

* a request about to release its lock finds its own entry or none there;
* while an entry is there, no request gets past the acquisition of that lock;
* an entry goes away only by the release of the request that set it, or by expiry. -/
theorem lock_ownership (req : ι → CreateRequest) (desk : Desk ι) (c : CreateConfig ι)
    (h : Reach (createSystem lib req) (ExpiresOnlyIdle req) (createStart desk) c) :
    (∀ i result entry, c.pc i = .releaseLock result →
      c.shared.redis (req i).lock = some entry → entry.setBy = i) ∧
    (∀ j attempt entry c', c.shared.redis (req j).lock = some entry →
      c.pc j = .acquireLock → createSystem lib req c (.process j attempt) = some c' →
        (c'.pc j).inSection = false ∧ c'.shared = c.shared) ∧
    (∀ key entry move c', c.shared.redis (Redis.lockName key) = some entry →
      createSystem lib req c move = some c' →
        c'.shared.redis (Redis.lockName key) = some entry ∨ move = .environment key ∨
          ∃ result attempt, move = .process entry.setBy attempt ∧
            c.pc entry.setBy = .releaseLock result) := by
  have howned := owned_reach lib h
  refine ⟨?_, ?_, ?_⟩
  · intro i result entry hpc hentry
    exact howned.setBy_eq (by rw [hpc]; rfl) hentry
  · intro j attempt entry c' hentry hpc hstep
    obtain ⟨next, hact, rfl⟩ := Option.map_eq_some_iff.mp hstep
    have hcases := createStep_cases lib req hact
    rw [hpc] at hcases
    show (Function.update c.pc j next.2 j).inSection = false ∧ next.1 = c.shared
    rw [Function.update_self]
    exact hcases.of_taken hentry
  · intro key entry move c' hentry hstep
    cases move with
    | environment key' =>
        obtain ⟨desk', henv, rfl⟩ := Option.map_eq_some_iff.mp hstep
        by_cases hkey : key = key'
        · exact Or.inr (Or.inl (by rw [hkey]))
        · exact Or.inl ((expireLock_of_ne henv hkey).trans hentry)
    | process j attempt =>
        obtain ⟨next, hact, rfl⟩ := Option.map_eq_some_iff.mp hstep
        rcases (createStep_cases lib req hact).entry_kept hentry with
          hkept | ⟨result, hpc, hlock⟩
        · exact Or.inl hkept
        · -- The request that releases the lock has set the entry.
          rw [hlock] at hentry
          have howner : entry.setBy = j := howned.setBy_eq (by rw [hpc]; rfl) hentry
          rw [howner]
          exact Or.inr (Or.inr ⟨result, attempt, rfl, hpc⟩)

end Locks

/-! ## Runs of two requests -/

namespace Demo

/-- Two customers want the same days of the same house. -/
def rush (i : Fin 2) : CreateRequest :=
  ⟨villa "2025-07-01" "2025-07-05", i⟩

/-- No bookings, no locks. -/
def emptyDesk : Desk (Fin 2) := ⟨[], Redis.empty⟩

/-- The next call that request `i` awaits returns. -/
def next (i : Fin 2) : CreateMove (Fin 2) := .process i (.succeeds 0)

end Demo

/-- Request 0 has acquired the lock and is about to release it; request 1 has passed its
first check. -/
theorem lock_ownership_rush : ∃ c,
    Reach (createSystem Demo.dates Demo.rush) (ExpiresOnlyIdle Demo.rush)
      (createStart Demo.emptyDesk) c ∧
    (c.pc 0).rank = 1 ∧
    (∀ i result entry, c.pc i = .releaseLock result →
      c.shared.redis (Demo.rush i).lock = some entry → entry.setBy = i) := by
  have hrun : (replay (createSystem Demo.dates Demo.rush) (createStart Demo.emptyDesk)
      ([0, 1, 0, 0, 0].map Demo.next)).map (fun c => (c.pc 0).rank) = some 1 := by
    decide +kernel
  have hidle : ∀ move ∈ [0, 1, 0, 0, 0].map Demo.next, ∀ c, ExpiresOnlyIdle Demo.rush c move :=
    List.forall_mem_map.mpr fun _ _ _ => trivial
  obtain ⟨c, hreach, hrank⟩ := exists_reach_of_replay hidle hrun
  exact ⟨c, hreach, hrank, (lock_ownership Demo.dates Demo.rush Demo.emptyDesk c hreach).1⟩

/-- **An expired lock is released by a stranger.**  The lock of request 0 expires while it
is at work, request 1 acquires the lock, and request 0 is about to release the lock of
request 1. -/
theorem expired_lock_removed_by_stranger :
    ¬ ∀ c, Reach (createSystem Demo.dates Demo.rush) (fun _ _ => True)
      (createStart Demo.emptyDesk) c →
        ∀ i result entry, c.pc i = .releaseLock result →
          c.shared.redis (Demo.rush i).lock = some entry → entry.setBy = i := by
  intro h
  have hrun : (replay (createSystem Demo.dates Demo.rush) (createStart Demo.emptyDesk)
      [Demo.next 0, Demo.next 1, Demo.next 0, .environment (Demo.rush 0).dto.lockKey,
        Demo.next 1, Demo.next 0, Demo.next 0]).map
        (fun c => ((c.pc 0).rank, (c.shared.redis (Demo.rush 0).lock).map RedisEntry.setBy)) =
      some (1, some 1) := by
    decide +kernel
  obtain ⟨c, hreach, hstate⟩ := exists_reach_of_unguarded hrun
  rw [Prod.mk.injEq] at hstate
  obtain ⟨entry, hentry, howner⟩ := Option.map_eq_some_iff.mp hstate.2
  cases hpc : c.pc 0 with
  | releaseLock result =>
      have howned := h c hreach 0 result entry hpc hentry
      rw [howner] at howned
      cases howned
  | checkAvailability | acquireLock | recheck | insert | done =>
      rw [hpc] at hstate
      cases hstate.1

end StayRide
