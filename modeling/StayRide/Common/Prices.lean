import StayRide.Common.Utils
import StayRide.Lib.Rounding

/-!
# Prices in whole francs

The two price computations of `common/utils` for whole amounts and any fractional
percentages.  The price is a rounded discount off the base price and a rounded commission
on top of what is left, so it is `surcharge` after `remainder` (`Terms.price_eq`); the
order of two prices and the distance from the price without rounding follow from what
these two do.
-/

namespace StayRide

open Lib

/-- The terms of a stay in whole francs, with a discount of at most everything. -/
structure Terms where
  pricePerNight : ℕ
  nights : ℕ
  cleaningFee : ℕ
  commissionRate : ℚ
  discountPct : ℚ
  depositAmount : ℚ
  commissionRate_nonneg : 0 ≤ commissionRate
  discountPct_nonneg : 0 ≤ discountPct
  discountPct_le : discountPct ≤ 100

namespace Terms

def params (t : Terms) : BookingPriceParams where
  pricePerNight := t.pricePerNight
  nights := t.nights
  cleaningFee := t.cleaningFee
  commissionRate := t.commissionRate
  discountPct := t.discountPct
  depositAmount := t.depositAmount

def price (t : Terms) : PriceCalculation :=
  calculateBookingPrice t.params

/-- What the stay costs before discount, fee and commission. -/
def base (t : Terms) : ℤ :=
  t.pricePerNight * t.nights

/-- What the owner gets. -/
def subtotal (t : Terms) : ℤ :=
  remainder (t.discountPct / 100) t.base + t.cleaningFee

/-- The price without any rounding. -/
def unrounded (t : Terms) : ℚ :=
  (t.base * (1 - t.discountPct / 100) + t.cleaningFee) * (1 + t.commissionRate / 100)

/-- Nothing costs more and no discount is larger under the first terms. -/
structure AtMost (t t' : Terms) : Prop where
  pricePerNight : t.pricePerNight ≤ t'.pricePerNight
  nights : t.nights ≤ t'.nights
  cleaningFee : t.cleaningFee ≤ t'.cleaningFee
  commissionRate : t.commissionRate ≤ t'.commissionRate
  discountPct : t'.discountPct ≤ t.discountPct

variable (t t' : Terms)

/-- **The price in whole francs**: nothing but the discount and the commission is
rounded. -/
theorem price_eq :
    t.price =
      { basePrice := t.base
        nights := t.nights
        cleaningFee := t.cleaningFee
        platformFee := (round (t.subtotal * (t.commissionRate / 100)) : ℤ)
        discountAmount := (round (t.base * (t.discountPct / 100)) : ℤ)
        depositAmount := t.depositAmount
        total := surcharge (t.commissionRate / 100) t.subtotal
        ownerPayout := t.subtotal } := by
  have hbase : round ((t.pricePerNight : ℚ) * ((t.nights : ℤ) : ℚ)) = t.base := by
    unfold base
    exact_mod_cast round_intCast (α := ℚ) ((t.pricePerNight : ℤ) * t.nights)
  have hsubtotal : (t.base : ℚ) - round (t.base * (t.discountPct / 100)) + t.cleaningFee =
      t.subtotal := by
    unfold subtotal remainder
    push_cast
    rfl
  have htotal : (t.subtotal : ℚ) + round (t.subtotal * (t.commissionRate / 100)) =
      surcharge (t.commissionRate / 100) t.subtotal := by
    unfold surcharge
    push_cast
    rfl
  simp only [price, calculateBookingPrice, params, hbase, hsubtotal, htotal,
    PriceCalculation.mk.injEq, true_and]
  rw [← htotal]
  ring

theorem base_nonneg : 0 ≤ t.base :=
  mul_nonneg (Int.natCast_nonneg _) (Int.natCast_nonneg _)

theorem rate_nonneg : 0 ≤ t.commissionRate / 100 :=
  div_nonneg t.commissionRate_nonneg (by norm_num)

theorem share_nonneg : 0 ≤ t.discountPct / 100 :=
  div_nonneg t.discountPct_nonneg (by norm_num)

theorem share_le_one : t.discountPct / 100 ≤ 1 := by
  rw [div_le_one (by norm_num)]
  exact t.discountPct_le

theorem subtotal_nonneg : 0 ≤ t.subtotal :=
  add_nonneg (remainder_nonneg t.share_le_one t.base_nonneg) (Int.natCast_nonneg _)

variable {t t'}

theorem AtMost.base_le (h : t.AtMost t') : t.base ≤ t'.base :=
  mul_le_mul (Int.ofNat_le.mpr h.pricePerNight) (Int.ofNat_le.mpr h.nights)
    (Int.natCast_nonneg _) (Int.natCast_nonneg _)

/-- A larger base with a smaller discount leaves more. -/
theorem AtMost.subtotal_le (h : t.AtMost t') : t.subtotal ≤ t'.subtotal := by
  have hshare : t'.discountPct / 100 ≤ t.discountPct / 100 :=
    div_le_div_of_nonneg_right h.discountPct (by norm_num)
  have hremainder :=
    calc remainder (t.discountPct / 100) t.base
        ≤ remainder (t.discountPct / 100) t'.base :=
          remainder_le_remainder t.share_le_one h.base_le
      _ ≤ remainder (t'.discountPct / 100) t'.base := remainder_anti t'.base_nonneg hshare
  exact add_le_add hremainder (Int.ofNat_le.mpr h.cleaningFee)

theorem AtMost.total_le (h : t.AtMost t') : t.price.total ≤ t'.price.total := by
  have hrate : t.commissionRate / 100 ≤ t'.commissionRate / 100 :=
    div_le_div_of_nonneg_right h.commissionRate (by norm_num)
  have hsurcharge :=
    calc surcharge (t.commissionRate / 100) t.subtotal
        ≤ surcharge (t.commissionRate / 100) t'.subtotal :=
          surcharge_le_surcharge t.rate_nonneg h.subtotal_le
      _ ≤ surcharge (t'.commissionRate / 100) t'.subtotal :=
          surcharge_mono_rate t'.subtotal_nonneg hrate
  rw [price_eq, price_eq]
  exact Int.cast_le.mpr hsurcharge

variable (t)

/-- The discount costs at most a half, with commission; the commission another half. -/
theorem abs_total_sub_le :
    |t.price.total - t.unrounded| ≤ 1 / 2 * (1 + t.commissionRate / 100) + 1 / 2 := by
  have hsubtotal : |(t.subtotal : ℚ) -
      (t.base * (1 - t.discountPct / 100) + t.cleaningFee)| ≤ 1 / 2 := by
    unfold subtotal
    push_cast
    rw [add_sub_add_right_eq_sub]
    exact abs_remainder_sub_le _ _
  rw [price_eq]
  exact abs_surcharge_sub_le t.rate_nonneg hsubtotal

end Terms

/-- A rental is a stay without cleaning. -/
theorem calculateCarRentalPrice_eq (p : CarPriceParams) :
    calculateCarRentalPrice p =
      calculateBookingPrice
        { pricePerNight := p.pricePerDay
          nights := p.days
          cleaningFee := 0
          commissionRate := p.commissionRate
          discountPct := p.discountPct
          depositAmount := p.depositAmount } := by
  simp only [calculateCarRentalPrice, calculateBookingPrice, add_zero]

/-- **Prices are monotone and bounded.**  The discount is part of the base price, the owner
gets what is left and the fee, the total follows the terms, and rounding changes it by at
most a half with commission and another half; and a rental is a stay without cleaning. -/
theorem prices_monotone_and_bounded :
    (∀ t : Terms,
      0 ≤ t.price.discountAmount ∧ t.price.discountAmount ≤ t.price.basePrice ∧
      0 ≤ t.price.platformFee ∧
      t.price.ownerPayout =
        t.price.basePrice - t.price.discountAmount + t.price.cleaningFee ∧
      0 ≤ t.price.ownerPayout ∧
      |t.price.total - (t.price.basePrice * (1 - t.discountPct / 100) + t.cleaningFee) *
          (1 + t.commissionRate / 100)| ≤ 1 / 2 * (1 + t.commissionRate / 100) + 1 / 2) ∧
    (∀ t t' : Terms, t.AtMost t' → t.price.total ≤ t'.price.total) ∧
    ∀ p : CarPriceParams,
      calculateCarRentalPrice p =
        calculateBookingPrice
          { pricePerNight := p.pricePerDay
            nights := p.days
            cleaningFee := 0
            commissionRate := p.commissionRate
            discountPct := p.discountPct
            depositAmount := p.depositAmount } := by
  refine ⟨fun t => ?_, fun t t' h => h.total_le, calculateCarRentalPrice_eq⟩
  have hbase : (0 : ℚ) ≤ t.base := Int.cast_nonneg t.base_nonneg
  have hsubtotal : (0 : ℚ) ≤ t.subtotal := Int.cast_nonneg t.subtotal_nonneg
  have hremainder : 0 ≤ remainder (t.discountPct / 100) t.base :=
    remainder_nonneg t.share_le_one t.base_nonneg
  have hclose := t.abs_total_sub_le
  unfold Terms.unrounded at hclose
  rw [Terms.price_eq] at hclose ⊢
  refine ⟨?_, ?_, ?_, ?_, hsubtotal, hclose⟩
  · exact Int.cast_nonneg (round_nonneg (mul_nonneg hbase t.share_nonneg))
  · exact Int.cast_le.mpr (sub_nonneg.mp hremainder)
  · exact Int.cast_nonneg (round_nonneg (mul_nonneg hsubtotal t.rate_nonneg))
  · show (t.subtotal : ℚ) = _
    unfold Terms.subtotal remainder
    push_cast
    ring

end StayRide
