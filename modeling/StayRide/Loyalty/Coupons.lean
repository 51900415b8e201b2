import StayRide.Lib.Interleaving
import StayRide.Loyalty.Concurrent

/-!
# Redeeming coupons

A coupon is redeemed by `validateCoupon`, which compares the counts of its uses with the
caps, and a later `applyCoupon`, which counts one more use and looks at no cap.  Flows of
this kind interleave at their awaits.

The caps hold as long as every use is counted where the counts are still at most the ones
that its flow has compared (`caps_hold`).  Nothing in the code ensures this: two users who
validate the last use of a coupon both redeem it (`last_use_redeemed_twice`).  The condition
also rules out a cap of zero uses per user, for which the code counts nothing when the
driver returns it as the number 0.

`redeem_alone` connects the steps with the two methods.
-/

namespace StayRide

open Lib

/-- A user redeems a code for a booking. -/
structure Redemption where
  code : String
  userId : UserId
  bookingAmount : ℚ
  bookingId : BookingId

/-- The flow: `validateCoupon`, and `applyCoupon` if the coupon is valid. -/
def redeem (lib : LoyaltyLib) (flow : Redemption) (now : Time) : Loyalty CouponCheck := do
  let check ← validateCoupon lib flow.code flow.userId flow.bookingAmount now
  if check.valid then
    applyCoupon lib flow.code flow.userId flow.bookingId check.discount
  return check

/-- Where a flow is: before the await of this name, or finished.  Once it has read the
coupon `c`, it also holds the number of uses by the user that it has counted, if it has. -/
inductive RedeemPc
  | select
  | count (couponId : CouponId) (c : Coupon) (cap : ℤ)
  | find (couponId : CouponId) (c : Coupon) (counted : Option ℕ) (check : CouponCheck)
  | use (target : CouponId) (c : Coupon) (counted : Option ℕ) (check : CouponCheck)
  | done (result : Except HttpException CouponCheck)

section Steps

variable (lib : LoyaltyLib) (flow : Redemption)

/-- Where a flow is when the caps are compared. -/
def redeemPriced (couponId : CouponId) (c : Coupon) (counted : Option ℕ) : RedeemPc :=
  let check := c.price lib flow.bookingAmount
  if check.valid then .find couponId c counted check else .done (.ok check)

/-- One step of a flow. -/
def redeemStep (attempt : Attempt) (store : LoyaltyStore) (pc : RedeemPc) :
    Option (LoyaltyStore × RedeemPc) :=
  match pc, attempt with
  | .select, .succeeds now =>
      match store.coupons.findWhere (Coupon.isOpen (lib.toUpperCase flow.code) now) with
      | none => some (store, .done (.ok (.refused "Code promo invalide ou expiré")))
      | some (couponId, c) =>
          match c.userCap lib with
          | some cap => some (store, .count couponId c cap)
          | none => some (store, redeemPriced lib flow couponId c none)
  | .count couponId c cap, .succeeds _ =>
      let counted := store.usages couponId flow.userId
      if cap ≤ counted then some (store, .done (.ok (.refused "Vous avez déjà utilisé ce code")))
      else some (store, redeemPriced lib flow couponId c (some counted))
  | .find _ c counted check, .succeeds _ =>
      match store.coupons.findWhere (fun c => c.code = lib.toUpperCase flow.code) with
      | none => some (store, .done (.ok check))
      | some (target, _) => some (store, .use target c counted check)
  | .use target _ _ check, .succeeds _ =>
      some (store.useCoupon target flow.userId flow.bookingId check.discount, .done (.ok check))
  | .done _, _ => none
  | _, .fails => some (store, .done (.error .queryFailed))

/-- The steps that are left when the caps are compared. -/
theorem redeem_solo_priced (store : LoyaltyStore) (now : Time) (couponId : CouponId) (c : Coupon)
    (counted : Option ℕ) (fuel : ℕ) :
    let check := c.price lib flow.bookingAmount
    let rest : Loyalty CouponCheck := do
      if check.valid then
        applyCoupon lib flow.code flow.userId flow.bookingId check.discount
      return check
    solo (redeemStep lib flow (.succeeds now)) (fuel + 2) store
        (redeemPriced lib flow couponId c counted) =
      (rest.storeAfter store, .done (rest.outcome store)) := by
  unfold redeemPriced ServiceM.storeAfter ServiceM.outcome applyCoupon
  dsimp only
  generalize c.price lib flow.bookingAmount = check
  cases hvalid : check.valid with
  | false => simp [solo, redeemStep]
  | true =>
      cases hc : store.coupons.findWhere (fun c => c.code = lib.toUpperCase flow.code) with
      | none => cases fuel <;> simp [solo, redeemStep, hc]
      | some found => cases fuel <;> simp [solo, redeemStep, hc, transaction]

/-- The steps of a flow in a row are the two methods. -/
theorem redeem_solo (store : LoyaltyStore) (now : Time) :
    solo (redeemStep lib flow (.succeeds now)) 4 store .select =
      ((redeem lib flow now).storeAfter store, .done ((redeem lib flow now).outcome store)) := by
  rw [solo]
  unfold redeem validateCoupon
  cases hc : store.coupons.findWhere (Coupon.isOpen (lib.toUpperCase flow.code) now) with
  | none =>
      simp [solo, redeemStep, hc, CouponCheck.refused, ServiceM.storeAfter, ServiceM.outcome]
  | some found =>
      obtain ⟨couponId, c⟩ := found
      have hpriced := redeem_solo_priced lib flow store now couponId c
      cases hcap : c.userCap lib with
      | none =>
          simp only [redeemStep, hc, hcap, hpriced none 1]
          simp [ServiceM.storeAfter, ServiceM.outcome, hc, hcap]
      | some cap =>
          by_cases hused : cap ≤ store.usages couponId flow.userId
          · simp [solo, redeemStep, hc, hcap, hused, CouponCheck.refused, ServiceM.storeAfter,
              ServiceM.outcome]
          · simp only [redeemStep, hc, hcap]
            rw [solo]
            simp only [redeemStep, hused, if_false, hpriced _ 0]
            simp [ServiceM.storeAfter, ServiceM.outcome, hc, hcap, hused]

/-- What a step can do, with what it found. -/
inductive RedeemStep (attempt : Attempt) (store : LoyaltyStore) :
    RedeemPc → LoyaltyStore → RedeemPc → Prop
  | select {now : Time} {couponId : CouponId} {c : Coupon} {cap : ℤ}
      (h : store.coupons.findWhere (Coupon.isOpen (lib.toUpperCase flow.code) now) =
        some (couponId, c))
      (hcap : c.userCap lib = some cap) :
      RedeemStep attempt store .select store (.count couponId c cap)
  | selectUncapped {now : Time} {couponId : CouponId} {c : Coupon}
      (h : store.coupons.findWhere (Coupon.isOpen (lib.toUpperCase flow.code) now) =
        some (couponId, c))
      (hcap : c.userCap lib = none) :
      RedeemStep attempt store .select store (redeemPriced lib flow couponId c none)
  | count {couponId : CouponId} {c : Coupon} {cap : ℤ}
      (h : (store.usages couponId flow.userId : ℤ) < cap) :
      RedeemStep attempt store (.count couponId c cap) store
        (redeemPriced lib flow couponId c (some (store.usages couponId flow.userId)))
  | find {couponId target : CouponId} {c row : Coupon} {counted : Option ℕ}
      {check : CouponCheck}
      (h : store.coupons.findWhere (fun c => c.code = lib.toUpperCase flow.code) =
        some (target, row)) :
      RedeemStep attempt store (.find couponId c counted check) store
        (.use target c counted check)
  | use {target : CouponId} {c : Coupon} {counted : Option ℕ} {check : CouponCheck}
      (ha : attempt ≠ .fails) :
      RedeemStep attempt store (.use target c counted check)
        (store.useCoupon target flow.userId flow.bookingId check.discount) (.done (.ok check))
  | stop {pc : RedeemPc} (result : Except HttpException CouponCheck) :
      RedeemStep attempt store pc store (.done result)

variable {lib flow}

/-- The only step that writes counts a use. -/
theorem RedeemStep.writes {attempt : Attempt} {store store' : LoyaltyStore} {pc pc' : RedeemPc}
    (h : RedeemStep lib flow attempt store pc store' pc') :
    store' = store ∨ ∃ target discount,
      store' = store.useCoupon target flow.userId flow.bookingId discount := by
  cases h with
  | use => exact Or.inr ⟨_, _, rfl⟩
  | select | selectUncapped | count | find | stop => exact Or.inl rfl

/-- **Inversion**: a step is one of the listed ones. -/
theorem redeemStep_cases {attempt : Attempt} {store store' : LoyaltyStore} {pc pc' : RedeemPc}
    (h : redeemStep lib flow attempt store pc = some (store', pc')) :
    RedeemStep lib flow attempt store pc store' pc' := by
  unfold redeemStep at h
  split at h
  · -- select
    split at h
    · cases h
      exact .stop _
    · next couponId c hc =>
        split at h
        · next cap hcap =>
            cases h
            exact .select hc hcap
        · next hcap =>
            cases h
            exact .selectUncapped hc hcap
  · -- count
    dsimp only at h
    split at h
    · cases h
      exact .stop _
    · next hfew =>
        cases h
        exact .count (not_le.mp hfew)
  · -- find
    split at h
    · cases h
      exact .stop _
    · next target row hrow =>
        cases h
        exact .find hrow
  · -- use
    cases h
    exact .use (by simp)
  · cases h
  · cases h
    exact .stop _

end Steps

/-! ## The system -/

/-- The flows and the tables they share. -/
abbrev RedeemConfig (ι : Type) := Config LoyaltyStore ι RedeemPc

/-- A step of a flow; nothing else happens. -/
abbrev RedeemMove (ι : Type) := Move ι Attempt Empty

/-- **The caps hold**: no coupon is used more often than allowed, by all users or by
one. -/
structure CapsHold (store : LoyaltyStore) : Prop where
  uses : ∀ (couponId : CouponId) (c : Coupon), store.coupons[couponId]? = some c →
    ∀ m, c.maxUses = some m → c.usedCount ≤ m
  perUser : ∀ (couponId : CouponId) (c : Coupon), store.coupons[couponId]? = some c →
    ∀ m, c.maxUsesPerUser = some m → ∀ userId, (store.usages couponId userId : ℤ) ≤ m

/-- The counts of a coupon are at most the ones that a flow of the user has compared with
the caps, as far as there are caps. -/
def Coupon.CountsHold (c : Coupon) (store : LoyaltyStore) (couponId : CouponId)
    (userId : UserId) (read : Coupon) (counted : Option ℕ) : Prop :=
  (c.maxUses.isSome = true → c.usedCount ≤ read.usedCount) ∧
    (c.maxUsesPerUser.isSome = true →
      (counted.any fun n => store.usages couponId userId ≤ n) = true)

/-- The condition on a step from a program point: when a use is counted, the counts that the
flow has compared still hold. -/
def RedeemPc.CountsHold (store : LoyaltyStore) (userId : UserId) (attempt : Attempt) :
    RedeemPc → Prop
  | .use target read counted _ => attempt ≠ .fails →
      ∀ c, store.coupons[target]? = some c → c.CountsHold store target userId read counted
  | _ => True

section System

variable (lib : LoyaltyLib) {ι : Type} (flows : ι → Redemption)

/-- The condition on a step of the system. -/
def CountsNotRaised (c : RedeemConfig ι) : RedeemMove ι → Prop
  | .process i attempt => (c.pc i).CountsHold c.shared (flows i).userId attempt
  | .environment e => e.elim

/-- All flows are to begin. -/
def redeemStart (store : LoyaltyStore) : RedeemConfig ι :=
  ⟨store, fun _ => .select⟩

variable [DecidableEq ι]

/-- Concurrent redemptions. -/
def redeemSystem : RedeemConfig ι → RedeemMove ι → Option (RedeemConfig ι) :=
  interleave (fun i => redeemStep lib (flows i)) fun e => e.elim

variable {lib flows}

/-- **Alone, a flow does what the two methods do.** -/
theorem redeem_alone {c : RedeemConfig ι} {i : ι} (hpc : c.pc i = .select) (now : Time) :
    ∃ n, replay (redeemSystem lib flows) c (List.replicate n (.process i (.succeeds now))) =
      some ⟨(redeem lib (flows i) now).storeAfter c.shared,
        Function.update c.pc i (.done ((redeem lib (flows i) now).outcome c.shared))⟩ := by
  obtain ⟨n, hn⟩ := exists_replay_solo (fun i => redeemStep lib (flows i))
    (fun e : Empty => e.elim) i (.succeeds now) 4 c
  rw [hpc, redeem_solo lib (flows i) c.shared now] at hn
  exact ⟨n, hn⟩

end System

/-! ## One step -/

/-- The columns of a coupon that no method changes and the caps depend on. -/
def Coupon.SameTerms (c c' : Coupon) : Prop :=
  c'.code = c.code ∧ c'.maxUses = c.maxUses ∧ c'.maxUsesPerUser = c.maxUsesPerUser

/-- A flow has compared the counts of the coupon with its caps. -/
structure Compared (lib : LoyaltyLib) (flow : Redemption) (store : LoyaltyStore)
    (couponId : CouponId) (c : Coupon) (counted : Option ℕ) : Prop where
  row : ∃ c', store.coupons[couponId]? = some c' ∧ c.SameTerms c'
  code : c.code = lib.toUpperCase flow.code
  uses : ∀ m, c.maxUses = some m → c.usedCount < m
  perUser : ∀ n m, counted = some n → c.maxUsesPerUser = some m → (n : ℤ) < m

/-- What a flow knows at its program point. -/
def RedeemPc.Knows (lib : LoyaltyLib) (flow : Redemption) (store : LoyaltyStore) :
    RedeemPc → Prop
  | .count couponId c cap =>
      Compared lib flow store couponId c none ∧ c.maxUsesPerUser = some cap
  | .find couponId c counted _ => Compared lib flow store couponId c counted
  | .use target c counted _ => Compared lib flow store target c counted
  | .select | .done _ => True

section Step

variable {lib : LoyaltyLib} {flow : Redemption} {store store' : LoyaltyStore}

/-- What the query of `validateCoupon` ensures. -/
theorem compared_of_open {now : Time} {couponId : CouponId} {c : Coupon}
    (h : store.coupons.findWhere (Coupon.isOpen (lib.toUpperCase flow.code) now) =
      some (couponId, c)) : Compared lib flow store couponId c none := by
  obtain ⟨hrow, hopen⟩ := Table.findWhere_eq_some h
  rw [Coupon.isOpen, Bool.and_eq_true, Bool.and_eq_true, Bool.and_eq_true, Bool.and_eq_true,
    decide_eq_true_iff] at hopen
  refine ⟨⟨c, hrow, rfl, rfl, rfl⟩, hopen.1.1.1.1, fun m hm => ?_, fun n m hn => ?_⟩
  · have huses := hopen.2
    rwa [hm, Option.all_some, decide_eq_true_iff] at huses
  · cases hn

theorem knows_redeemPriced {couponId : CouponId} {c : Coupon} {counted : Option ℕ}
    (h : Compared lib flow store couponId c counted) :
    (redeemPriced lib flow couponId c counted).Knows lib flow store := by
  unfold redeemPriced
  dsimp only
  split
  · exact h
  · trivial

/-- The coupons keep their terms when one is used. -/
theorem sameTerms_useCoupon {couponId target : CouponId} {userId : UserId}
    {bookingId : BookingId} {discount : ℚ} {c : Coupon}
    (h : ∃ c', store.coupons[couponId]? = some c' ∧ c.SameTerms c') :
    ∃ c', (store.useCoupon target userId bookingId discount).coupons[couponId]? = some c' ∧
      c.SameTerms c' := by
  obtain ⟨c', hc', hterms⟩ := h
  refine ⟨if couponId = target then c'.usedAgain else c', ?_, ?_⟩
  · rw [LoyaltyStore.useCoupon, Table.getElem?_updateById, hc', Option.map_some]
  · split
    · exact hterms
    · exact hterms

/-- A use of a coupon does not interfere with what the other flows know. -/
theorem RedeemPc.Knows.useCoupon {pc : RedeemPc} (h : pc.Knows lib flow store)
    (target : CouponId) (userId : UserId) (bookingId : BookingId) (discount : ℚ) :
    pc.Knows lib flow (store.useCoupon target userId bookingId discount) := by
  have hcompared : ∀ {couponId c counted}, Compared lib flow store couponId c counted →
      Compared lib flow (store.useCoupon target userId bookingId discount) couponId c counted :=
    fun hold => ⟨sameTerms_useCoupon hold.row, hold.code, hold.uses, hold.perUser⟩
  cases pc with
  | count couponId c cap => exact ⟨hcompared h.1, h.2⟩
  | find | use => exact hcompared h
  | select | done => trivial

/-- One more row of `coupon_usages`. -/
theorem usages_useCoupon (target couponId : CouponId) (userId other : UserId)
    (bookingId : BookingId) (discount : ℚ) :
    (store.useCoupon target userId bookingId discount).usages couponId other =
      store.usages couponId other + if target = couponId ∧ userId = other then 1 else 0 := by
  rw [LoyaltyStore.usages, LoyaltyStore.useCoupon, List.countP_append, LoyaltyStore.usages]
  simp [List.countP_singleton]

/-- Codes stay different when a coupon is used. -/
theorem uniqueCodes_useCoupon
    (h : Table.PairwiseRows (fun a b : Coupon => a.code ≠ b.code) store.coupons)
    (target : CouponId) (userId : UserId) (bookingId : BookingId) (discount : ℚ) :
    Table.PairwiseRows (fun a b : Coupon => a.code ≠ b.code)
      (store.useCoupon target userId bookingId discount).coupons := by
  refine (h.updateById_iff (fun _ _ => Ne.symm) target Coupon.usedAgain).mpr ?_
  intro row hrow j b hj hb
  exact h target j row b (Ne.symm hj) hrow hb

/-- **A use that is counted in time** exceeds no cap. -/
theorem CapsHold.useCoupon (h : CapsHold store) {target : CouponId} {c : Coupon}
    {counted : Option ℕ} (hcompared : Compared lib flow store target c counted)
    (hcounts : ∀ row, store.coupons[target]? = some row →
      row.CountsHold store target flow.userId c counted) (discount : ℚ) :
    CapsHold (store.useCoupon target flow.userId flow.bookingId discount) := by
  obtain ⟨row, hrow, -, hmaxUses, hmaxPerUser⟩ := hcompared.row
  obtain ⟨huses, hperUser⟩ := hcounts row hrow
  refine ⟨fun couponId c' hc' m hm => ?_, fun couponId c' hc' m hm other => ?_⟩
  · obtain ⟨old, hold, rfl⟩ := Table.getElem?_updateById_eq_some.mp hc'
    by_cases hid : couponId = target
    · subst hid
      obtain rfl : row = old := Option.some.inj (hrow.symm.trans hold)
      rw [if_pos rfl] at hm ⊢
      change row.maxUses = some m at hm
      have hread := huses (by rw [hm]; rfl)
      have hbelow := hcompared.uses m (hmaxUses ▸ hm)
      show row.usedCount + 1 ≤ m
      omega
    · rw [if_neg hid] at hm ⊢
      exact h.uses couponId old hold m hm
  · obtain ⟨old, hold, rfl⟩ := Table.getElem?_updateById_eq_some.mp hc'
    have hcap : old.maxUsesPerUser = some m := by
      split at hm
      · exact hm
      · exact hm
    rw [usages_useCoupon]
    by_cases hself : target = couponId ∧ flow.userId = other
    · obtain ⟨rfl, rfl⟩ := hself
      obtain rfl : row = old := Option.some.inj (hrow.symm.trans hold)
      have hread := hperUser (by rw [hcap]; rfl)
      rw [if_pos ⟨rfl, rfl⟩]
      cases counted with
      | none => cases hread
      | some n =>
          have hbelow := hcompared.perUser n m rfl (hmaxPerUser ▸ hcap)
          rw [Option.any_some, decide_eq_true_iff] at hread
          omega
    · rw [if_neg hself, add_zero]
      exact h.perUser couponId old hold m hcap other

/-- **One step** of a flow that counts its use in time keeps the caps, and the flow knows
what its next program point says. -/
theorem CapsHold.step (h : CapsHold store)
    (hcodes : Table.PairwiseRows (fun a b : Coupon => a.code ≠ b.code) store.coupons)
    {attempt : Attempt} {pc pc' : RedeemPc} (hknows : pc.Knows lib flow store)
    (hcounts : pc.CountsHold store flow.userId attempt)
    (hstep : RedeemStep lib flow attempt store pc store' pc') :
    CapsHold store' ∧ pc'.Knows lib flow store' := by
  cases hstep with
  | select hc hcap =>
      exact ⟨h, compared_of_open hc, (Option.filter_eq_some_iff.mp hcap).1⟩
  | selectUncapped hc _ => exact ⟨h, knows_redeemPriced (compared_of_open hc)⟩
  | @count couponId c cap hfew =>
      obtain ⟨hcompared, hcap⟩ := hknows
      refine ⟨h, knows_redeemPriced ⟨hcompared.row, hcompared.code, hcompared.uses, ?_⟩⟩
      intro n m hn hm
      rw [← Option.some.inj hn, ← Option.some.inj (hcap.symm.trans hm)]
      exact hfew
  | @find couponId target c row counted check hfind =>
      -- The code names one coupon only.
      obtain ⟨c', hc', hterms⟩ := hknows.row
      have hunique := Table.findWhere_of_unique hcodes hc'
      rw [hterms.1, hknows.code, hfind, Option.some.injEq, Prod.mk.injEq] at hunique
      rw [hunique.1]
      exact ⟨h, hknows⟩
  | use ha => exact ⟨h.useCoupon hknows (hcounts ha) _, trivial⟩
  | stop => exact ⟨h, trivial⟩

end Step

/-! ## Whole runs -/

/-- **The caps hold.**  Any number of redemptions by any users interleave in any way, the
codes of the coupons being different and the caps holding at the start.  As long as every
use is counted where the counts are still at most the ones its flow has compared with the
caps, the caps hold in every reachable state. -/
theorem caps_hold {ι : Type} [DecidableEq ι] (lib : LoyaltyLib) (flows : ι → Redemption)
    (store : LoyaltyStore) (hstart : CapsHold store)
    (hcodes : Table.PairwiseRows (fun a b : Coupon => a.code ≠ b.code) store.coupons)
    (c : RedeemConfig ι)
    (h : Reach (redeemSystem lib flows) (CountsNotRaised flows) (redeemStart store) c) :
    CapsHold c.shared := by
  refine (interleave_assertions
    (I := fun store => CapsHold store ∧
      Table.PairwiseRows (fun a b : Coupon => a.code ≠ b.code) store.coupons)
    (K := fun i store pc => pc.Knows lib (flows i) store) ⟨hstart, hcodes⟩ (fun _ => trivial)
    (fun c i attempt store' pc' hI hK hG hact => ?_) (fun _ e _ _ _ _ _ => e.elim) h).1.1
  have hstep := redeemStep_cases hact
  obtain ⟨hcaps, hself⟩ := hI.1.step hI.2 (hK i) hG hstep
  rcases hstep.writes with rfl | ⟨target, discount, rfl⟩
  · exact ⟨⟨hcaps, hI.2⟩, hself, fun j _ => hK j⟩
  · exact ⟨⟨hcaps, uniqueCodes_useCoupon hI.2 _ _ _ _⟩, hself,
      fun j _ => (hK j).useCoupon _ _ _ _⟩

/-! ## Runs of two redemptions -/

instance (c : Coupon) (store : LoyaltyStore) (couponId : CouponId) (userId : UserId)
    (read : Coupon) (counted : Option ℕ) :
    Decidable (c.CountsHold store couponId userId read counted) :=
  inferInstanceAs (Decidable (_ ∧ _))

instance (store : LoyaltyStore) (userId : UserId) (attempt : Attempt) :
    (pc : RedeemPc) → Decidable (pc.CountsHold store userId attempt)
  | .use target read counted _ =>
      inferInstanceAs (Decidable (attempt ≠ .fails →
        ∀ c ∈ store.coupons[target]?, c.CountsHold store target userId read counted))
  | .select | .count .. | .find .. | .done _ => inferInstanceAs (Decidable True)

instance {ι : Type} (flows : ι → Redemption) (c : RedeemConfig ι) :
    (move : RedeemMove ι) → Decidable (CountsNotRaised flows c move)
  | .process i attempt =>
      inferInstanceAs (Decidable ((c.pc i).CountsHold c.shared (flows i).userId attempt))
  | .environment e => e.elim

namespace Demo

/-- A coupon with one use left, once per user. -/
def lastUse : Coupon where
  code := "NOEL"
  isActive := true
  validFrom := none
  validUntil := none
  maxUses := some 1
  usedCount := 0
  maxUsesPerUser := some 1
  minBookingAmt := none
  type := .percentage
  value := 10
  maxDiscountAmt := none

def oneCoupon : LoyaltyStore where
  users := []
  loyaltyTransactions := []
  walletTransactions := []
  coupons := [lastUse]
  couponUsages := []
  referrals := []

/-- Two users redeem the code. -/
def shoppers : Fin 2 → Redemption := fun i => ⟨"NOEL", i, 20000, i⟩

/-- The next call that the flow `i` awaits returns. -/
def nextRedeem (i : Fin 2) : RedeemMove (Fin 2) := .process i (.succeeds 0)

/-- How often the coupon is used. -/
def usesOf (store : LoyaltyStore) : Option ℤ := store.coupons[0]?.map Coupon.usedCount

theorem oneCoupon_caps : CapsHold oneCoupon := by
  have hrow : ∀ (couponId : CouponId) (c : Coupon), oneCoupon.coupons[couponId]? = some c →
      c = lastUse := by
    rintro (_ | couponId) c hc
    · exact (Option.some.inj hc).symm
    · cases hc
  constructor
  · rintro couponId c hc m hm
    rw [hrow couponId c hc] at hm ⊢
    rw [← Option.some.inj hm]
    decide
  · rintro couponId c hc m hm userId
    rw [hrow couponId c hc] at hm
    rw [← Option.some.inj hm]
    exact Int.zero_le_ofNat 1

theorem oneCoupon_codes :
    Table.PairwiseRows (fun a b : Coupon => a.code ≠ b.code) oneCoupon.coupons := by
  rintro (_ | i) (_ | j) a b hij ha hb
  · exact absurd rfl hij
  · cases hb
  · cases ha
  · cases ha

end Demo

/-- The second user validates when the first use is counted, and is refused. -/
theorem caps_hold_in_turn : ∃ c : RedeemConfig (Fin 2),
    Reach (redeemSystem Demo.loyaltyLib Demo.shoppers) (CountsNotRaised Demo.shoppers)
      (redeemStart Demo.oneCoupon) c ∧
    Demo.usesOf c.shared = some 1 ∧ CapsHold c.shared := by
  have hrun : (replay (fun c move => if CountsNotRaised Demo.shoppers c move then
      redeemSystem Demo.loyaltyLib Demo.shoppers c move else none) (redeemStart Demo.oneCoupon)
      ([0, 0, 0, 0, 1].map Demo.nextRedeem)).map (fun c => Demo.usesOf c.shared) =
      some (some 1) := by
    decide +kernel
  obtain ⟨c, hreach, huses⟩ := exists_reach_of_admitted hrun
  exact ⟨c, hreach, huses, caps_hold Demo.loyaltyLib Demo.shoppers Demo.oneCoupon
    Demo.oneCoupon_caps Demo.oneCoupon_codes c hreach⟩

/-- **The last use is redeemed twice.**  Both users validate before one of the uses is
counted. -/
theorem last_use_redeemed_twice :
    ¬ ∀ c : RedeemConfig (Fin 2), Reach (redeemSystem Demo.loyaltyLib Demo.shoppers)
      (fun _ _ => True) (redeemStart Demo.oneCoupon) c → CapsHold c.shared := by
  intro h
  have hrun : (replay (redeemSystem Demo.loyaltyLib Demo.shoppers) (redeemStart Demo.oneCoupon)
      ([0, 1, 0, 1, 0, 1, 0, 1].map Demo.nextRedeem)).map
      (fun c => c.shared.coupons[0]?.map fun row => (row.usedCount, row.maxUses)) =
      some (some (2, some 1)) := by
    decide +kernel
  obtain ⟨c, hreach, hshown⟩ := exists_reach_of_unguarded hrun
  obtain ⟨row, hrow, hcounts⟩ := Option.map_eq_some_iff.mp hshown
  obtain ⟨hused, hmax⟩ := Prod.mk.inj hcounts
  have hcap := (h c hreach).uses 0 row hrow 1 hmax
  rw [hused] at hcap
  norm_num at hcap

end StayRide
