import Mathlib.Data.Option.Basic
import Mathlib.Logic.Function.Basic
import Mathlib.Data.Int.Order.Basic

/-!
# Maps whose entries expire

A key-value store with times to live: an entry holds a value and, if it is to expire, the time
from which on it is gone.  The operations are those of such a store: read, write, write unless
present, delete.

Several maps can live in one, each under names of its own.  `Shows` says that a map of the
names is what the one map holds under them; operations under a name act on it as on a map of
its own, and operations under other keys leave it alone.
-/

namespace StayRide.Lib

universe u v

/-- A value and the time from which on it is gone. -/
structure ExpiringEntry (ν : Type v) where
  value : ν
  expires : Option ℤ

abbrev Expiring (κ : Type u) (ν : Type v) := κ → Option (ExpiringEntry ν)

def ExpiringEntry.isLive {ν : Type v} (entry : ExpiringEntry ν) (now : ℤ) : Bool :=
  entry.expires.all fun time => now < time

namespace Expiring

variable {κ : Type u} {ν : Type v}

def empty : Expiring κ ν := fun _ => none

/-- The value under a key, if there is one now. -/
def get (m : Expiring κ ν) (now : ℤ) (key : κ) : Option ν :=
  ((m key).filter fun entry => entry.isLive now).map ExpiringEntry.value

variable [DecidableEq κ]

def set (m : Expiring κ ν) (key : κ) (value : ν) (expires : Option ℤ) : Expiring κ ν :=
  Function.update m key (some ⟨value, expires⟩)

def del (m : Expiring κ ν) (key : κ) : Expiring κ ν :=
  Function.update m key none

/-- Write unless present; the answer says whether it was written. -/
def setNx (m : Expiring κ ν) (now : ℤ) (key : κ) (value : ν) (expires : Option ℤ) :
    Bool × Expiring κ ν :=
  if (m.get now key).isSome then (false, m) else (true, m.set key value expires)

/-! ## Maps inside a map -/

universe u' v'

variable {κ' : Type u'} {ν' : Type v'}

/-- The two entries hold related values and expire together. -/
def SameEntry (R : ν → ν' → Prop) (entry : ExpiringEntry ν) (entry' : ExpiringEntry ν') : Prop :=
  R entry.value entry'.value ∧ entry.expires = entry'.expires

/-- What `m` holds under the names is what `m'` holds. -/
def Shows (name : κ' → κ) (R : ν → ν' → Prop) (m : Expiring κ ν) (m' : Expiring κ' ν') : Prop :=
  ∀ key, Option.Rel (SameEntry R) (m (name key)) (m' key)

namespace Shows

variable {name : κ' → κ} {R : ν → ν' → Prop} {m : Expiring κ ν} {m' : Expiring κ' ν'}

omit [DecidableEq κ] in
theorem empty : Shows name R (Expiring.empty : Expiring κ ν) Expiring.empty :=
  fun _ => .none

omit [DecidableEq κ] in
/-- Values that are read are related. -/
theorem get (h : Shows name R m m') (now : ℤ) (key : κ') :
    Option.Rel R (m.get now (name key)) (m'.get now key) := by
  have hentry := h key
  unfold Expiring.get
  cases hm : m (name key) with
  | none =>
      cases hm' : m' key with
      | none => exact .none
      | some entry' =>
          rw [hm, hm'] at hentry
          cases hentry
  | some entry =>
      cases hm' : m' key with
      | none =>
          rw [hm, hm'] at hentry
          cases hentry
      | some entry' =>
          rw [hm, hm'] at hentry
          cases hentry with
          | some hsame =>
              have hlive : entry'.isLive now = entry.isLive now := by
                rw [ExpiringEntry.isLive, ExpiringEntry.isLive, hsame.2]
              simp only [Option.filter, hlive]
              by_cases hnow : entry.isLive now = true
              · rw [if_pos hnow, if_pos hnow]
                exact .some hsame.1
              · rw [if_neg hnow, if_neg hnow]
                exact .none

omit [DecidableEq κ] in
theorem isSome_get (h : Shows name R m m') (now : ℤ) (key : κ') :
    (m.get now (name key)).isSome = (m'.get now key).isSome := by
  have hvalues := h.get now key
  generalize m.get now (name key) = value at hvalues
  generalize m'.get now key = value' at hvalues
  cases hvalues <;> rfl

/-- What happens under another key does not show. -/
theorem update_other (h : Shows name R m m') {other : κ} (hother : ∀ key, name key ≠ other)
    (entry : Option (ExpiringEntry ν)) : Shows name R (Function.update m other entry) m' := by
  intro key
  rw [Function.update_of_ne (hother key)]
  exact h key

variable [DecidableEq κ']

theorem update (hname : Function.Injective name) (h : Shows name R m m') (key : κ')
    {entry : Option (ExpiringEntry ν)} {entry' : Option (ExpiringEntry ν')}
    (hentry : Option.Rel (SameEntry R) entry entry') :
    Shows name R (Function.update m (name key) entry) (Function.update m' key entry') := by
  intro key'
  by_cases hkey : key' = key
  · subst hkey
    rw [Function.update_self, Function.update_self]
    exact hentry
  · rw [Function.update_of_ne (hname.ne hkey), Function.update_of_ne hkey]
    exact h key'

end Shows

end Expiring

end StayRide.Lib
