import StayRide.Lib.Decimal

/-!
# Numbers that need not be finite

The results of JavaScript's arithmetic, with exact finite numbers: a division by zero gives
an infinite number or no number at all, and both survive what is computed from them.

A column `numeric(precision, scale)` takes a finite number that fits and `NaN`; it refuses
an infinite one.

`JsScalar` has the values that are no objects, for code that hands them through or looks at
whether they count as true.
-/

namespace StayRide.Lib

inductive JsNumber
  | finite (q : ℚ)
  | infinite (negative : Bool)
  | nan
  deriving DecidableEq

namespace JsNumber

/-- `a / b` -/
def quotient (a b : ℚ) : JsNumber :=
  if b = 0 then if a = 0 then .nan else .infinite (a < 0) else .finite (a / b)

/-- `x * n` -/
def scale (x : JsNumber) (n : ℚ) : JsNumber :=
  match x with
  | .finite q => .finite (q * n)
  | .infinite negative => if n = 0 then .nan else .infinite (negative != decide (n < 0))
  | .nan => .nan

/-- `x - n` -/
def subtract (x : JsNumber) (n : ℚ) : JsNumber :=
  match x with
  | .finite q => .finite (q - n)
  | .infinite negative => .infinite negative
  | .nan => .nan

/-- `x * y` -/
def times (x : JsNumber) : JsNumber → JsNumber
  | .finite n => x.scale n
  | .infinite negative =>
      match x with
      | .finite q => scale (.infinite negative) q
      | .infinite negative' => .infinite (negative' != negative)
      | .nan => .nan
  | .nan => .nan

/-- `Math.round(x)` -/
def mathRound : JsNumber → JsNumber
  | .finite q => .finite (round q)
  | .infinite negative => .infinite negative
  | .nan => .nan

/-- Nothing finite comes out of a division by zero. -/
theorem mathRound_scale_quotient_eq_finite_iff {a b n q : ℚ} :
    mathRound (scale (quotient a b) n) = .finite q ↔ b ≠ 0 ∧ (round (a / b * n) : ℚ) = q := by
  unfold quotient
  by_cases hb : b = 0
  · refine iff_of_false ?_ fun h => h.1 hb
    rw [if_pos hb]
    by_cases ha : a = 0
    · simp [ha, scale, mathRound]
    · by_cases hn : n = 0
      · simp [ha, hn, scale, mathRound]
      · simp [ha, hn, scale, mathRound]
  · rw [if_neg hb]
    simp [scale, mathRound, hb]

theorem subtract_eq_finite_iff {x : JsNumber} {n q : ℚ} :
    x.subtract n = .finite (q - n) ↔ x = .finite q := by
  cases x <;> simp [subtract]

/-- A product with a number other than zero can be divided by it. -/
theorem times_eq_finite_iff {x : JsNumber} {n q : ℚ} (hn : n ≠ 0) :
    x.times (.finite n) = .finite (q * n) ↔ x = .finite q := by
  cases x <;> simp [times, scale, hn]

end JsNumber

inductive JsScalar
  | undefined
  | null
  | number (n : JsNumber)
  | text (s : String)
  deriving DecidableEq

/-- Whether a value counts as true. -/
def JsScalar.truthy : JsScalar → Bool
  | .undefined | .null => false
  | .number n => n ≠ .finite 0 && n ≠ .nan
  | .text s => s ≠ ""

/-- What a column `numeric(precision, scale)` holds. -/
inductive NumericColumn (p s : ℕ)
  | number (d : Decimal p s)
  | nan
  deriving DecidableEq

/-- Store a number; `none` when the database refuses it. -/
def JsNumber.toNumeric {p s : ℕ} : JsNumber → Option (NumericColumn p s)
  | .finite q => (Decimal.ofRat q).map .number
  | .infinite _ => none
  | .nan => some .nan

/-- A number is stored where there was one. -/
theorem toNumeric_eq_number_iff {p s : ℕ} {x : JsNumber} {d : Decimal p s} :
    x.toNumeric = some (.number d) ↔ ∃ q, x = .finite q ∧ Decimal.ofRat q = some d := by
  cases x <;> simp [JsNumber.toNumeric]

end StayRide.Lib
