import Mathlib.Algebra.BigOperators.Group.Finset.Basic
import Mathlib.Algebra.Order.BigOperators.Group.Finset
import Mathlib.Algebra.Order.Ring.Rat
import Mathlib.Data.Finset.Dedup
import Mathlib.Tactic.Linarith
import Mathlib.Tactic.Ring

/-!
# Ledgers of accounts

A ledger is the list of the money movements of many accounts, oldest first.
There are two kinds of receipts: a `receipt` counts every time it is entered, and
a `capture` is identified by a key and counts once however often it is entered,
which is how deliveries that may be repeated are accounted for.

`received` and `payouts` read one account.  The lemmas say how one more entry
changes them; everything else about ledgers follows from these.
-/

namespace StayRide.Lib

universe u v

/-- A movement of money on an account. -/
inductive Movement (κ : Type u)
  | receipt (amount : ℚ)
  | capture (key : κ)
  | payout (amount : ℚ)
  deriving DecidableEq

/-- A list of movements, each with the account it belongs to. -/
abbrev Ledger (ι : Type v) (κ : Type u) := List (ι × Movement κ)

namespace Ledger

variable {ι : Type v} {κ : Type u} [DecidableEq ι]

/-- The receipts of an account. -/
def receipts (ledger : Ledger ι κ) (account : ι) : List ℚ :=
  ledger.filterMap fun
    | (i, .receipt amount) => if i = account then some amount else none
    | _ => none

/-- The payouts of an account. -/
def payouts (ledger : Ledger ι κ) (account : ι) : List ℚ :=
  ledger.filterMap fun
    | (i, .payout amount) => if i = account then some amount else none
    | _ => none

/-- The keys of the captures of an account, each once. -/
def captures [DecidableEq κ] (ledger : Ledger ι κ) (account : ι) : Finset κ :=
  (ledger.filterMap fun
    | (i, .capture key) => if i = account then some key else none
    | _ => none).toFinset

/-- The money received on an account, captures being worth `value`. -/
def received [DecidableEq κ] (value : κ → ℚ) (ledger : Ledger ι κ) (account : ι) : ℚ :=
  (ledger.receipts account).sum + ∑ key ∈ ledger.captures account, value key

/-! ## One more entry -/

section Entry

variable (ledger : Ledger ι κ) (i account : ι)

theorem payouts_payout (amount : ℚ) :
    payouts (ledger ++ [(i, .payout amount)]) account =
      ledger.payouts account ++ if i = account then [amount] else [] := by
  by_cases h : i = account <;> simp [payouts, h]

@[simp] theorem payouts_receipt (amount : ℚ) :
    payouts (ledger ++ [(i, .receipt amount)]) account = ledger.payouts account := by
  simp [payouts]

@[simp] theorem payouts_capture (key : κ) :
    payouts (ledger ++ [(i, .capture key)]) account = ledger.payouts account := by
  simp [payouts]

theorem receipts_receipt (amount : ℚ) :
    receipts (ledger ++ [(i, .receipt amount)]) account =
      ledger.receipts account ++ if i = account then [amount] else [] := by
  by_cases h : i = account <;> simp [receipts, h]

@[simp] theorem receipts_capture (key : κ) :
    receipts (ledger ++ [(i, .capture key)]) account = ledger.receipts account := by
  simp [receipts]

@[simp] theorem receipts_payout (amount : ℚ) :
    receipts (ledger ++ [(i, .payout amount)]) account = ledger.receipts account := by
  simp [receipts]

variable [DecidableEq κ]

theorem captures_capture (key : κ) :
    captures (ledger ++ [(i, .capture key)]) account =
      if i = account then insert key (ledger.captures account) else ledger.captures account := by
  by_cases h : i = account
  · ext k
    simp [captures, h]
  · simp [captures, h]

@[simp] theorem captures_receipt (amount : ℚ) :
    captures (ledger ++ [(i, .receipt amount)]) account = ledger.captures account := by
  simp [captures]

@[simp] theorem captures_payout (amount : ℚ) :
    captures (ledger ++ [(i, .payout amount)]) account = ledger.captures account := by
  simp [captures]

variable (value : κ → ℚ)

theorem received_receipt (amount : ℚ) :
    received value (ledger ++ [(i, .receipt amount)]) account =
      received value ledger account + if i = account then amount else 0 := by
  unfold received
  rw [receipts_receipt, captures_receipt, List.sum_append]
  by_cases h : i = account
  · simp only [h, if_true, List.sum_singleton]
    ring
  · simp [h]

@[simp] theorem received_payout (amount : ℚ) :
    received value (ledger ++ [(i, .payout amount)]) account = received value ledger account := by
  unfold received
  rw [receipts_payout, captures_payout]

variable {value} (hvalue : ∀ key, 0 ≤ value key)
include hvalue

/-- A capture takes nothing away from what was received. -/
theorem received_le_capture (key : κ) :
    received value ledger account ≤
      received value (ledger ++ [(i, .capture key)]) account := by
  unfold received
  rw [receipts_capture, captures_capture]
  refine add_le_add_right ?_ _
  split
  · exact Finset.sum_le_sum_of_subset_of_nonneg (Finset.subset_insert _ _)
      fun k _ _ => hvalue k
  · exact le_rfl

/-- A capture counts at least once. -/
theorem value_le_received_capture (key : κ) (h : 0 ≤ (ledger.receipts account).sum) :
    value key ≤ received value (ledger ++ [(account, .capture key)]) account := by
  unfold received
  rw [receipts_capture, captures_capture, if_pos rfl]
  have hone : value key ≤ ∑ k ∈ insert key (ledger.captures account), value k :=
    Finset.single_le_sum (fun k _ => hvalue k) (Finset.mem_insert_self _ _)
  linarith

end Entry

end Ledger

end StayRide.Lib
