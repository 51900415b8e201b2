import StayRide.Common.Utils

/-!
# Service calls

A call of a service is a computation in `ServiceM σ`: it reads and writes the
store `σ` and may throw, and what it wrote before it threw stays written.  The
calls are not transactions.

Where calls interleave, they do so at their awaits, and `Attempt` says how the
awaited call ends.
-/

namespace StayRide

/-- A call that works on the store `σ`. -/
abbrev ServiceM (σ α : Type) := EStateM HttpException σ α

namespace ServiceM

variable {σ α β : Type}

/-- The store a call leaves behind, whether it returned or threw. -/
def storeAfter (call : ServiceM σ α) (store : σ) : σ :=
  match call.run store with
  | .ok _ store' => store'
  | .error _ store' => store'

/-- What a call returns or throws. -/
def outcome (call : ServiceM σ α) (store : σ) : Except HttpException α :=
  match call.run store with
  | .ok a _ => .ok a
  | .error e _ => .error e

/-- The call returns. -/
def succeeds (call : ServiceM σ α) (store : σ) : Bool :=
  match call.run store with
  | .ok _ _ => true
  | .error _ _ => false

theorem outcome_eq_ok_iff {call : ServiceM σ α} {store : σ} {a : α} :
    call.outcome store = .ok a ↔ ∃ store', call.run store = .ok a store' := by
  unfold outcome
  cases call.run store with
  | ok a' store' => simp
  | error e store' => simp

theorem succeeds_iff {call : ServiceM σ α} {store : σ} :
    call.succeeds store = true ↔ ∃ a store', call.run store = .ok a store' := by
  unfold succeeds
  cases call.run store with
  | ok a store' => simp
  | error e store' => simp

variable (store : σ)

@[simp] theorem run_throw (e : HttpException) :
    (throw e : ServiceM σ α).run store = .error e store := rfl

@[simp] theorem run_map (f : α → β) (call : ServiceM σ α) :
    (f <$> call : ServiceM σ β).run store =
      match call.run store with
      | .ok a store' => .ok (f a) store'
      | .error e store' => .error e store' := by
  simp only [Functor.map, EStateM.map, EStateM.run]
  cases call store <;> rfl

@[simp] theorem storeAfter_map (f : α → β) (call : ServiceM σ α) :
    (f <$> call : ServiceM σ β).storeAfter store = call.storeAfter store := by
  unfold storeAfter
  rw [run_map]
  cases call.run store <;> rfl

/-- `try body finally cleanup`: the clean-up runs in any case, and an error of its
own replaces the outcome of the body. -/
theorem run_tryFinally (body : ServiceM σ α) (cleanup : ServiceM σ Unit) :
    (tryFinally body cleanup : ServiceM σ α).run store =
      match body.run store with
      | .ok a store₁ =>
          match cleanup.run store₁ with
          | .ok _ store₂ => .ok a store₂
          | .error e store₂ => .error e store₂
      | .error e store₁ =>
          match cleanup.run store₁ with
          | .ok _ store₂ => .error e store₂
          | .error e' store₂ => .error e' store₂ := by
  simp only [tryFinally, MonadFinally.tryFinally', Functor.map, EStateM.map, EStateM.run]
  cases body store with
  | ok a store₁ =>
      dsimp only
      cases cleanup store₁ <;> rfl
  | error e store₁ =>
      dsimp only
      cases cleanup store₁ <;> rfl

end ServiceM

/-- The awaited call returns, at some time, or is rejected. -/
inductive Attempt
  | succeeds (now : Time)
  | fails
  deriving DecidableEq

end StayRide
