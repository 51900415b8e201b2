import Mathlib.Algebra.Order.Round
import Mathlib.Algebra.Order.Floor.Ring
import Mathlib.Tactic.Linarith
import Mathlib.Tactic.Ring

/-!
# Rounded shares of whole amounts

`round` rounds to the nearest integer, halves upwards.  It preserves the order, and it
commutes with adding an integer; so it does not increase a distance that is at most an
integer (`round_le_round_add`).

Two computations with whole amounts are built on it.  `remainder share n` takes a rounded
share off `n`, `surcharge rate n` puts a rounded percentage on top.  Both preserve the order
of the amounts, although the rounded part of the first one is subtracted: for two whole
amounts the rounded shares are never further apart than the amounts.
-/

namespace StayRide.Lib

variable {α : Type*} [Field α] [LinearOrder α] [IsStrictOrderedRing α] [FloorRing α]

theorem round_le_round {x y : α} (h : x ≤ y) : round x ≤ round y := by
  rw [round_eq, round_eq]
  exact Int.floor_mono (by linarith)

theorem round_nonneg {x : α} (h : 0 ≤ x) : 0 ≤ round x := by
  simpa using round_le_round h

theorem round_le_round_add {x y : α} {n : ℤ} (h : y ≤ x + n) : round y ≤ round x + n := by
  rw [← round_add_intCast]
  exact round_le_round h

/-! ## Taking a share off -/

/-- What is left of a whole amount when a rounded share is taken off. -/
def remainder (share : α) (n : ℤ) : ℤ :=
  n - round (n * share)

section Remainder

variable {share share' : α} {n m : ℤ}

theorem remainder_nonneg (hshare : share ≤ 1) (hn : 0 ≤ n) : 0 ≤ remainder share n := by
  have hn' : (0 : α) ≤ n := Int.cast_nonneg hn
  have hle : (n : α) * share ≤ (0 : α) + n := by
    rw [zero_add]
    exact mul_le_of_le_one_right hn' hshare
  have hround := round_le_round_add hle
  rw [round_zero, zero_add] at hround
  exact sub_nonneg.mpr hround

/-- **The rest grows with the amount**: the share of `m` exceeds the share of `n` by at
most `m - n`, before and after rounding. -/
theorem remainder_le_remainder (hshare : share ≤ 1) (h : n ≤ m) :
    remainder share n ≤ remainder share m := by
  have hgap : (0 : α) ≤ (m - n : ℤ) := Int.cast_nonneg (sub_nonneg.mpr h)
  have hshares : (m : α) * share ≤ n * share + (m - n : ℤ) := by
    have hgapshare := mul_le_of_le_one_right hgap hshare
    push_cast at hgapshare ⊢
    linarith
  have hround := round_le_round_add hshares
  unfold remainder
  omega

theorem remainder_anti (hn : 0 ≤ n) (h : share ≤ share') :
    remainder share' n ≤ remainder share n := by
  have hn' : (0 : α) ≤ n := Int.cast_nonneg hn
  have hround := round_le_round (mul_le_mul_of_nonneg_left h hn')
  unfold remainder
  omega

/-- The rest is the exact rest up to a half. -/
theorem abs_remainder_sub_le (share : α) (n : ℤ) :
    |(remainder share n : α) - n * (1 - share)| ≤ 1 / 2 := by
  have heq : (remainder share n : α) - n * (1 - share) = n * share - round (n * share) := by
    unfold remainder
    push_cast
    ring
  rw [heq]
  exact abs_sub_round _

end Remainder

/-! ## Putting a percentage on top -/

/-- A whole amount with a rounded percentage of it on top. -/
def surcharge (rate : α) (n : ℤ) : ℤ :=
  n + round (n * rate)

section Surcharge

variable {rate rate' : α} {n m : ℤ}

theorem surcharge_le_surcharge (hrate : 0 ≤ rate) (h : n ≤ m) :
    surcharge rate n ≤ surcharge rate m := by
  have hround := round_le_round (mul_le_mul_of_nonneg_right (Int.cast_le.mpr h) hrate)
  unfold surcharge
  omega

theorem surcharge_mono_rate (hn : 0 ≤ n) (h : rate ≤ rate') :
    surcharge rate n ≤ surcharge rate' n := by
  have hn' : (0 : α) ≤ n := Int.cast_nonneg hn
  have hround := round_le_round (mul_le_mul_of_nonneg_left h hn')
  unfold surcharge
  omega

/-- **Two roundings in a row**: an amount that is exact up to `ε`, with a rounded percentage
on top. -/
theorem abs_surcharge_sub_le {value ε : α} (hrate : 0 ≤ rate) (h : |(n : α) - value| ≤ ε) :
    |(surcharge rate n : α) - value * (1 + rate)| ≤ ε * (1 + rate) + 1 / 2 := by
  have hfactor : 0 ≤ 1 + rate := by linarith
  have heq : (surcharge rate n : α) - value * (1 + rate) =
      (n - value) * (1 + rate) + (round (n * rate) - n * rate) := by
    unfold surcharge
    push_cast
    ring
  have hfirst : |((n : α) - value) * (1 + rate)| ≤ ε * (1 + rate) := by
    rw [abs_mul, abs_of_nonneg hfactor]
    exact mul_le_mul_of_nonneg_right h hfactor
  have hsecond : |(round (n * rate) : α) - n * rate| ≤ 1 / 2 := by
    rw [abs_sub_comm]
    exact abs_sub_round _
  rw [heq]
  exact (abs_add_le _ _).trans (add_le_add hfirst hsecond)

end Surcharge

end StayRide.Lib
