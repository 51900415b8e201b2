import Mathlib.Data.Int.ConditionallyCompleteOrder
import Mathlib.Data.Rat.Floor
import Mathlib.Tactic.FieldSimp
import Mathlib.Tactic.Linarith
import Mathlib.Tactic.Positivity
import StayRide.Lib.Rounding

/-!
# Fixed-point columns

The values a database column `decimal(precision, scale)` can hold: an integer
number of units of `10 ^ -scale` with at most `precision` digits.  A number is
stored by rounding it to the scale, halves away from zero, and is refused when
the rounded value has too many digits.

Rounding is monotone and leaves the values of the column alone; these two facts
are all that comparisons of stored amounts with unrounded ones need.
-/

namespace StayRide.Lib

/-- Round to an integer, halves away from zero. -/
def roundAway (x : ℚ) : ℤ :=
  if 0 ≤ x then round x else -round (-x)

@[simp] theorem roundAway_intCast (n : ℤ) : roundAway (n : ℚ) = n := by
  unfold roundAway
  split
  · exact round_intCast n
  · rw [← Int.cast_neg, round_intCast, neg_neg]

/-- Rounding preserves the order. -/
theorem roundAway_mono : Monotone roundAway := by
  intro x y hxy
  unfold roundAway
  by_cases hx : 0 ≤ x
  · simpa [hx, hx.trans hxy] using round_le_round hxy
  · have hneg : 0 ≤ round (-x) := round_nonneg (by linarith)
    by_cases hy : 0 ≤ y
    · have hpos : 0 ≤ round y := round_nonneg hy
      simp only [hx, hy, if_true, if_false]
      omega
    · simpa [hx, hy] using round_le_round (neg_le_neg hxy)

/-- A value of a column `decimal(precision, scale)`. -/
structure Decimal (precision scale : ℕ) where
  /-- The value in units of `10 ^ -scale`. -/
  units : ℤ
  /-- The column holds at most `precision` digits. -/
  bounded : |units| < 10 ^ precision
  deriving DecidableEq

namespace Decimal

variable {p s : ℕ}

/-- The number a column value stands for. -/
def toRat (d : Decimal p s) : ℚ :=
  d.units / 10 ^ s

/-- Store a number: round it to the scale; `none` is a numeric overflow.
Irreducible, because unfolding it would have Lean compute `10 ^ p`. -/
@[irreducible] def ofRat (q : ℚ) : Option (Decimal p s) :=
  let units := roundAway (q * 10 ^ s)
  if h : |units| < 10 ^ p then some ⟨units, h⟩ else none

/-- The column value zero. -/
def zero : Decimal p s :=
  ⟨0, by simp⟩

@[simp] theorem toRat_zero : (zero : Decimal p s).toRat = 0 := by
  simp [toRat, zero]

theorem toRat_mul_scale (d : Decimal p s) : d.toRat * 10 ^ s = d.units := by
  unfold toRat
  field_simp

/-- Stored units are the rounded units. -/
theorem units_of_ofRat {q : ℚ} {d : Decimal p s} (h : ofRat q = some d) :
    d.units = roundAway (q * 10 ^ s) := by
  unfold ofRat at h
  dsimp only at h
  split at h
  · cases h
    rfl
  · cases h

/-- A number is refused exactly when its rounded units have too many digits. -/
theorem ofRat_eq_none_iff {q : ℚ} :
    (ofRat q : Option (Decimal p s)) = none ↔ 10 ^ p ≤ |roundAway (q * 10 ^ s)| := by
  unfold ofRat
  dsimp only
  split
  · next h => exact iff_of_false (by simp) (not_le.mpr h)
  · next h => exact iff_of_true rfl (not_lt.mp h)

/-- An integer fits if it has room before the point. -/
theorem ofRat_intCast_eq_none_iff {n : ℤ} :
    (ofRat (n : ℚ) : Option (Decimal p s)) = none ↔ (10 ^ p : ℤ) ≤ |n| * 10 ^ s := by
  have hunits : roundAway ((n : ℚ) * 10 ^ s) = n * 10 ^ s := by
    rw [← roundAway_intCast (n * 10 ^ s)]
    push_cast
    rfl
  have hpos : (0 : ℤ) ≤ 10 ^ s := by positivity
  rw [ofRat_eq_none_iff, hunits, abs_mul, abs_of_nonneg hpos]

/-- Column values are ordered as their units. -/
theorem toRat_le_toRat {d e : Decimal p s} : d.toRat ≤ e.toRat ↔ d.units ≤ e.units := by
  have hpos : (0 : ℚ) < 10 ^ s := by positivity
  unfold toRat
  rw [div_le_div_iff_of_pos_right hpos]
  exact Int.cast_le

/-- **Rounding does not cross a column value from above**: a number at least a
value of the column is still at least that value once stored. -/
theorem toRat_le_of_le {q : ℚ} {d e : Decimal p s} (hle : e.toRat ≤ q)
    (hq : ofRat q = some d) : e.toRat ≤ d.toRat := by
  rw [toRat_le_toRat, units_of_ofRat hq, ← roundAway_intCast e.units,
    ← toRat_mul_scale]
  exact roundAway_mono (mul_le_mul_of_nonneg_right hle (by positivity))

/-- A number with at most `scale` decimals is stored unrounded. -/
theorem toRat_eq_of_scale {q : ℚ} {d : Decimal p s} {n : ℤ}
    (hn : q * 10 ^ s = n) (hq : ofRat q = some d) : d.toRat = q := by
  have hunits := units_of_ofRat hq
  rw [hn, roundAway_intCast] at hunits
  unfold toRat
  rw [hunits, ← hn]
  field_simp

/-- A value of the column is stored as it is. -/
theorem ofRat_toRat (d : Decimal p s) : ofRat d.toRat = some d := by
  have hunits : roundAway (d.toRat * 10 ^ s) = d.units := by
    rw [toRat_mul_scale, roundAway_intCast]
  cases h : (ofRat d.toRat : Option (Decimal p s)) with
  | none =>
      rw [ofRat_eq_none_iff, hunits] at h
      exact absurd d.bounded (not_lt.mpr h)
  | some e =>
      have heq : e.units = d.units := (units_of_ofRat h).trans hunits
      obtain ⟨units, _⟩ := e
      obtain ⟨units', _⟩ := d
      subst heq
      rfl

end Decimal

end StayRide.Lib
