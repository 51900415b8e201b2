import StayRide.Loyalty.Coupons

/-!
# The discount of a coupon

What `validateCoupon` returns for a coupon that it accepts.  The discount is meant to be
part of the booking amount and at most the cap of the coupon.  It is computed from the row
as it stands: a fixed discount may exceed the booking, a percentage may exceed 100, and a
cap that the driver returns as the number 0 counts as no cap.

`coupon_discount_bounded_iff` says for which rows the discount is within its bounds.
-/

namespace StayRide

open Lib

/-- The discount before the cap. -/
def Coupon.fullDiscount (bookingAmount : ℚ) (c : Coupon) : ℚ :=
  match c.type with
  | .percentage => (round (bookingAmount * (c.value / 100)) : ℚ)
  | .other => c.value

section Discounts

variable (lib : LoyaltyLib)

/-- The checks of `validateCoupon` on a coupon that it has found. -/
structure Coupon.Accepted (store : LoyaltyStore) (couponId : CouponId) (userId : UserId)
    (bookingAmount : ℚ) (c : Coupon) : Prop where
  uses : ∀ cap, c.userCap lib = some cap → store.usages couponId userId < cap
  amount : ∀ least, c.minBookingAmt.filter lib.amountIsTrue = some least →
    least ≤ bookingAmount

/-- The cap that the code applies. -/
def Coupon.appliedCap (c : Coupon) : Option ℚ :=
  c.maxDiscountAmt.filter lib.amountIsTrue

/-- The cap that the code takes for none. -/
def Coupon.ignoredCap (c : Coupon) : Option ℚ :=
  c.maxDiscountAmt.filter fun most => !lib.amountIsTrue most

/-- The row gives a discount within the bounds. -/
@[mk_iff] structure Coupon.KeepsBounds (bookingAmount : ℚ) (c : Coupon) : Prop where
  nonneg : 0 ≤ c.fullDiscount bookingAmount
  /-- The discount is part of the booking, or a cap in its place is. -/
  le : c.fullDiscount bookingAmount ≤ bookingAmount ∨
    ∃ most, c.appliedCap lib = some most ∧ most ≤ bookingAmount
  cap_nonneg : ∀ most, c.appliedCap lib = some most → 0 ≤ most
  ignored_idle : ∀ most, c.ignoredCap lib = some most → c.fullDiscount bookingAmount ≤ most

/-- The end of `validateCoupon` accepts a coupon where the least amount is reached. -/
theorem Coupon.price_valid_iff (bookingAmount : ℚ) (c : Coupon) (r : CouponCheck) :
    (c.price lib bookingAmount = r ∧ r.valid = true) ↔
      (∀ least, c.minBookingAmt.filter lib.amountIsTrue = some least →
          least ≤ bookingAmount) ∧
        r = ⟨true, c.discount lib bookingAmount, none⟩ := by
  unfold Coupon.price
  cases hleast : c.minBookingAmt.filter lib.amountIsTrue with
  | none =>
      constructor
      · rintro ⟨rfl, -⟩
        exact ⟨by simp, rfl⟩
      · rintro ⟨-, rfl⟩
        exact ⟨rfl, rfl⟩
  | some least =>
      by_cases hshort : bookingAmount < least
      · simp only [hshort, if_true]
        constructor
        · rintro ⟨rfl, hvalid⟩
          cases hvalid
        · rintro ⟨hreached, -⟩
          exact absurd (hreached least rfl) (not_le.mpr hshort)
      · simp only [hshort, if_false]
        constructor
        · rintro ⟨rfl, -⟩
          exact ⟨fun least' h => Option.some.inj h ▸ not_lt.mp hshort, rfl⟩
        · rintro ⟨-, rfl⟩
          exact ⟨rfl, rfl⟩

/-- **What `validateCoupon` accepts**, and what it returns then. -/
theorem validateCoupon_valid_iff {store : LoyaltyStore} {code : String} {userId : UserId}
    {bookingAmount : ℚ} {now : Time} {couponId : CouponId} {c : Coupon}
    (hfound : store.coupons.findWhere (Coupon.isOpen (lib.toUpperCase code) now) =
      some (couponId, c)) (r : CouponCheck) :
    ((validateCoupon lib code userId bookingAmount now).outcome store = .ok r ∧
        r.valid = true) ↔
      c.Accepted lib store couponId userId bookingAmount ∧
        r = ⟨true, c.discount lib bookingAmount, none⟩ := by
  have hpriced := c.price_valid_iff lib bookingAmount r
  cases hcap : c.userCap lib with
  | none =>
      have houtcome : (validateCoupon lib code userId bookingAmount now).outcome store =
          .ok (c.price lib bookingAmount) := by
        simp [ServiceM.outcome, validateCoupon, hfound, hcap]
      rw [houtcome, Except.ok.injEq, hpriced]
      refine and_congr_left fun _ => ⟨fun h => ⟨fun cap hcap' => ?_, h⟩, fun h => h.amount⟩
      rw [hcap] at hcap'
      cases hcap'
  | some cap =>
      by_cases hused : cap ≤ store.usages couponId userId
      · have houtcome : (validateCoupon lib code userId bookingAmount now).outcome store =
            .ok (.refused "Vous avez déjà utilisé ce code") := by
          simp [ServiceM.outcome, validateCoupon, hfound, hcap, hused]
        rw [houtcome, Except.ok.injEq]
        constructor
        · rintro ⟨rfl, hvalid⟩
          cases hvalid
        · rintro ⟨haccepted, -⟩
          exact absurd (haccepted.uses cap hcap) (not_lt.mpr hused)
      · have houtcome : (validateCoupon lib code userId bookingAmount now).outcome store =
            .ok (c.price lib bookingAmount) := by
          simp [ServiceM.outcome, validateCoupon, hfound, hcap, hused]
        rw [houtcome, Except.ok.injEq, hpriced]
        refine and_congr_left fun _ => ⟨fun h => ⟨fun cap' hcap' => ?_, h⟩, fun h => h.amount⟩
        rw [hcap] at hcap'
        rw [← Option.some.inj hcap']
        exact not_le.mp hused

/-- The bounds, and what they ask of the row. -/
theorem Coupon.discount_bounded_iff (bookingAmount : ℚ) (c : Coupon) :
    (0 ≤ c.discount lib bookingAmount ∧ c.discount lib bookingAmount ≤ bookingAmount ∧
        ∀ most, c.maxDiscountAmt = some most → c.discount lib bookingAmount ≤ most) ↔
      c.KeepsBounds lib bookingAmount := by
  have hdiscount : c.discount lib bookingAmount =
      (c.appliedCap lib).elim (c.fullDiscount bookingAmount)
        (min (c.fullDiscount bookingAmount)) := by
    unfold Coupon.discount Coupon.appliedCap
    cases c.maxDiscountAmt.filter lib.amountIsTrue <;> rfl
  rw [hdiscount, Coupon.keepsBounds_iff]
  unfold Coupon.appliedCap Coupon.ignoredCap
  cases c.maxDiscountAmt with
  | none => simp
  | some most =>
      cases htrue : lib.amountIsTrue most with
      | true =>
          simp only [Option.filter_some, htrue, if_true, Option.elim_some, le_min_iff, min_le_iff,
            Option.some.injEq, forall_eq', le_refl, or_true, and_true, exists_eq_left',
            Bool.not_true, Bool.false_eq_true, if_false, reduceCtorEq, IsEmpty.forall_iff,
            implies_true]
          tauto
      | false => simp [Option.filter_some, htrue]

end Discounts

namespace Demo

/-- 5000 XAF off any booking. -/
def fixedCoupon : Coupon :=
  { lastUse with code := "FETE", type := .other, value := 5000 }

/-- Tables with one coupon. -/
def withCoupon (c : Coupon) : LoyaltyStore :=
  { oneCoupon with coupons := [c] }

end Demo

end StayRide
