import Mathlib.Data.Nat.Notation
import Mathlib.Logic.Function.Basic

/-!
# Redis and the distributed locks

`config/redis.service.ts`: the commands `SET key value EX ttl NX` and `DEL key`
and the two lock operations built from them.

Every entry carries, besides its value and its time to live, the identity of
the client that created it.  No operation reads that field: it is an auxiliary
variable that statements about lock ownership refer to.
-/

namespace StayRide

/-- An entry of the store. -/
structure RedisEntry (ω : Type) where
  value : String
  ttlSeconds : ℕ
  /-- Auxiliary: who created the entry. -/
  setBy : ω

/-- The key-value store; absent keys have no entry. -/
abbrev Redis (ω : Type) := String → Option (RedisEntry ω)

namespace Redis

variable {ω : Type}

/-- The store without entries. -/
def empty : Redis ω := fun _ => none

/-- `SET key value EX ttl NX`: creates the entry unless the key exists; the
answer says whether it did. -/
def setNx (store : Redis ω) (key value : String) (ttlSeconds : ℕ) (client : ω) :
    Bool × Redis ω :=
  match store key with
  | some _ => (false, store)
  | none => (true, Function.update store key (some ⟨value, ttlSeconds, client⟩))

/-- `DEL key`, unconditionally. -/
def del (store : Redis ω) (key : String) : Redis ω :=
  Function.update store key none

/-- The Redis key of a lock. -/
def lockName (key : String) : String :=
  "lock:" ++ key

theorem lockName_injective : Function.Injective lockName := by
  intro key key' h
  exact (String.append_right_inj "lock:").mp h

def acquireLock (store : Redis ω) (key : String) (ttlSeconds : ℕ) (client : ω) :
    Bool × Redis ω :=
  store.setNx (lockName key) "1" ttlSeconds client

def releaseLock (store : Redis ω) (key : String) : Redis ω :=
  store.del (lockName key)

/-- The lock on `key` is taken. -/
def Locked (store : Redis ω) (key : String) : Prop :=
  store (lockName key) ≠ none

instance (store : Redis ω) (key : String) : Decidable (store.Locked key) :=
  match h : store (lockName key) with
  | none => isFalse fun hl => hl h
  | some _ => isTrue (by simp [Locked, h])

/-! ## What the lock operations do -/

/-- A free lock is acquired and then belongs to the caller. -/
theorem acquireLock_of_free {store : Redis ω} {key : String}
    (h : store (lockName key) = none) (ttlSeconds : ℕ) (client : ω) :
    store.acquireLock key ttlSeconds client =
      (true, Function.update store (lockName key) (some ⟨"1", ttlSeconds, client⟩)) := by
  simp [acquireLock, setNx, h]

/-- A taken lock is refused and the store is left alone. -/
theorem acquireLock_of_taken {store : Redis ω} {key : String} {entry : RedisEntry ω}
    (h : store (lockName key) = some entry) (ttlSeconds : ℕ) (client : ω) :
    store.acquireLock key ttlSeconds client = (false, store) := by
  simp [acquireLock, setNx, h]

theorem releaseLock_of_ne (store : Redis ω) {key key' : String} (h : key' ≠ key) :
    store.releaseLock key (lockName key') = store (lockName key') := by
  simp [releaseLock, del, Function.update_of_ne (lockName_injective.ne h)]

/-- Taking a free lock and releasing it leaves the store as it was. -/
theorem releaseLock_of_acquired {store : Redis ω} {key : String}
    (h : store (lockName key) = none) (entry : RedisEntry ω) :
    Redis.releaseLock (Function.update store (lockName key) (some entry)) key = store := by
  rw [releaseLock, del, Function.update_idem, ← h, Function.update_eq_self]

end Redis

end StayRide
