import StayRide.Lib.Run
import StayRide.Loyalty.Concurrent

/-!
# Tiers follow points

The tier of a user is stored, although it is a function of the points: the highest tier
whose threshold the points have reached (`IsTierOf`).  `earnPoints` stores it again,
`spendPoints` does not; and `getUserLoyalty` computes the next threshold from the points
and returns it next to the stored tier.

`tier_follows_points_iff` says which histories of calls keep the three in step: those in
which no `spendPoints` moves the points past a threshold.
-/

namespace StayRide

open Lib

/-! ## The tier of a number of points -/

def LoyaltyTier.rank : LoyaltyTier → ℕ
  | .bronze => 0
  | .silver => 1
  | .gold => 2
  | .platinum => 3

/-- The tier directly above. -/
def LoyaltyTier.next : LoyaltyTier → Option LoyaltyTier
  | .bronze => some .silver
  | .silver => some .gold
  | .gold => some .platinum
  | .platinum => none

/-- The points at which a tier begins. -/
def TierThresholds.threshold (settings : TierThresholds) : LoyaltyTier → ℚ
  | .bronze => 0
  | .silver => orElse settings.silver 500
  | .gold => orElse settings.gold 2000
  | .platinum => orElse settings.platinum 5000

/-- The thresholds are in the order of the tiers. -/
structure TierThresholds.Increasing (settings : TierThresholds) : Prop where
  silver : 0 < settings.threshold .silver
  gold : settings.threshold .silver < settings.threshold .gold
  platinum : settings.threshold .gold < settings.threshold .platinum

instance (settings : TierThresholds) : Decidable settings.Increasing :=
  decidable_of_iff (0 < settings.threshold .silver ∧
      settings.threshold .silver < settings.threshold .gold ∧
      settings.threshold .gold < settings.threshold .platinum)
    ⟨fun h => ⟨h.1, h.2.1, h.2.2⟩, fun h => ⟨h.silver, h.gold, h.platinum⟩⟩

/-- The highest tier whose threshold the points have reached. -/
def IsTierOf (settings : TierThresholds) (points : ℤ) (tier : LoyaltyTier) : Prop :=
  settings.threshold tier ≤ points ∧
    ∀ other, settings.threshold other ≤ points → other.rank ≤ tier.rank

section Tiers

variable {settings : TierThresholds} {points points' : ℤ} {tier : LoyaltyTier}

theorem tierFor_eq (settings : TierThresholds) (points : ℤ) :
    tierFor settings points =
      if settings.threshold .platinum ≤ points then .platinum
      else if settings.threshold .gold ≤ points then .gold
      else if settings.threshold .silver ≤ points then .silver
      else .bronze := rfl

/-- A tier is reached exactly when the computed one is at least as high. -/
theorem threshold_le_iff (hinc : settings.Increasing) (hpoints : 0 ≤ points) :
    settings.threshold tier ≤ points ↔ tier.rank ≤ (tierFor settings points).rank := by
  obtain ⟨hsilver, hgold, hplatinum⟩ := hinc
  have hzero : (0 : ℚ) ≤ points := Int.cast_nonneg hpoints
  have hbronze : settings.threshold .bronze = 0 := rfl
  rw [tierFor_eq]
  -- In every branch the reached tiers are those up to the computed one.
  split_ifs
  all_goals
    cases tier <;> simp only [LoyaltyTier.rank] <;>
      first
        | exact iff_of_true (by linarith) (by omega)
        | exact iff_of_false (by linarith) (by omega)

theorem LoyaltyTier.rank_injective {a b : LoyaltyTier} (h : a.rank = b.rank) : a = b := by
  cases a <;> cases b <;> first | rfl | cases h

/-- **`updateTier` computes the tier of the points.** -/
theorem isTierOf_iff (hinc : settings.Increasing) (hpoints : 0 ≤ points) :
    IsTierOf settings points tier ↔ tier = tierFor settings points := by
  have hreached : ∀ other : LoyaltyTier, settings.threshold other ≤ points ↔
      other.rank ≤ (tierFor settings points).rank := fun _ => threshold_le_iff hinc hpoints
  constructor
  · rintro ⟨hle, hhighest⟩
    have hrank : tier.rank ≤ (tierFor settings points).rank := (hreached tier).mp hle
    have hrank' := hhighest (tierFor settings points) ((hreached _).mpr (le_refl _))
    exact LoyaltyTier.rank_injective (le_antisymm hrank hrank')
  · rintro rfl
    exact ⟨(hreached _).mpr (le_refl _), fun other hother => (hreached other).mp hother⟩

/-- The same thresholds are reached exactly in the same tier. -/
theorem tierFor_eq_iff (hinc : settings.Increasing) (hpoints : 0 ≤ points)
    (hpoints' : 0 ≤ points') :
    tierFor settings points = tierFor settings points' ↔
      ∀ tier, settings.threshold tier ≤ points ↔ settings.threshold tier ≤ points' := by
  constructor
  · intro h tier
    rw [threshold_le_iff hinc hpoints, threshold_le_iff hinc hpoints', h]
  · intro h
    have hle := (threshold_le_iff hinc hpoints').mp
      ((h _).mp ((threshold_le_iff hinc hpoints).mpr (le_refl _)))
    have hge := (threshold_le_iff hinc hpoints).mp
      ((h _).mpr ((threshold_le_iff hinc hpoints').mpr (le_refl _)))
    exact LoyaltyTier.rank_injective (le_antisymm hle hge)

/-- More points, no lower tier. -/
theorem rank_tierFor_le (hinc : settings.Increasing) (hpoints : 0 ≤ points)
    (h : points ≤ points') :
    (tierFor settings points).rank ≤ (tierFor settings points').rank := by
  have hreached := (threshold_le_iff hinc hpoints).mpr (le_refl _)
  exact (threshold_le_iff hinc (hpoints.trans h)).mp
    (hreached.trans (Int.cast_le.mpr h))

/-- The second cascade finds the threshold above the tier of the points. -/
theorem getNextTierThreshold_eq (hinc : settings.Increasing) :
    getNextTierThreshold points settings =
      (tierFor settings points).next.map settings.threshold := by
  obtain ⟨-, hgold, hplatinum⟩ := hinc
  have hcascade : getNextTierThreshold points settings =
      if points < settings.threshold .silver then some (settings.threshold .silver)
      else if points < settings.threshold .gold then some (settings.threshold .gold)
      else if points < settings.threshold .platinum then some (settings.threshold .platinum)
      else none := rfl
  rw [hcascade, tierFor_eq]
  split_ifs
  all_goals
    first
      | rfl
      | exact absurd ‹_› (by linarith)

end Tiers

/-! ## Histories of a user's calls -/

/-- A call for the user: its arguments but the user. -/
inductive PointsCall
  | earn (bookingId : BookingId) (amount : ℚ)
  | spend (bookingId : BookingId) (points : ℚ)
  deriving DecidableEq

section Histories

variable (settings : TierThresholds) (userId : UserId)

/-- The tables after a call. -/
def pointsExec (store : LoyaltyStore) : PointsCall → LoyaltyStore
  | .earn bookingId amount => (earnPoints settings userId bookingId amount).storeAfter store
  | .spend bookingId points => (spendPoints userId bookingId points).storeAfter store

/-- The stored tier is the tier of the points, and the next threshold that `getUserLoyalty`
returns is the one above the tier that it returns. -/
structure TierFollows (store : LoyaltyStore) : Prop where
  tier : ∀ user, store.users[userId]? = some user →
    IsTierOf settings user.loyaltyPoints user.loyaltyTier
  next : ∀ view, (getUserLoyalty settings userId).outcome store = .ok view →
    view.nextTierPoints = view.tier.next.map settings.threshold

/-- A call of `earnPoints` does not lower the tier. -/
def EarnKeepsTier (store : LoyaltyStore) : PointsCall → Prop
  | .earn bookingId amount => ∀ user user', store.users[userId]? = some user →
      (pointsExec settings userId store (.earn bookingId amount)).users[userId]? = some user' →
        user.loyaltyTier.rank ≤ user'.loyaltyTier.rank
  | .spend _ _ => True

/-- A call of `spendPoints` that is not refused moves the points past no threshold. -/
def SpendCrossesNothing (store : LoyaltyStore) : PointsCall → Prop
  | .earn _ _ => True
  | .spend bookingId points => ∀ user, store.users[userId]? = some user →
      (spendPoints userId bookingId points).succeeds store = true →
        ∀ tier, settings.threshold tier ≤ user.loyaltyPoints - points ↔
          settings.threshold tier ≤ user.loyaltyPoints

variable {settings userId} {store : LoyaltyStore} {user : User}

/-- For a user that exists, all that is asked is the computed tier. -/
theorem tierFollows_iff (hinc : settings.Increasing) (hu : store.users[userId]? = some user)
    (hpoints : 0 ≤ user.loyaltyPoints) :
    TierFollows settings userId store ↔
      user.loyaltyTier = tierFor settings user.loyaltyPoints := by
  constructor
  · intro h
    exact (isTierOf_iff hinc hpoints).mp (h.tier user hu)
  · intro h
    refine ⟨fun user' hu' => ?_, fun view hview => ?_⟩
    · obtain rfl : user = user' := Option.some.inj (hu.symm.trans hu')
      exact (isTierOf_iff hinc hpoints).mpr h
    · obtain ⟨store', hrun⟩ := ServiceM.outcome_eq_ok_iff.mp hview
      simp only [getUserLoyalty, EStateM.run_bind, EStateM.run_get, hu, EStateM.run_pure,
        EStateM.Result.ok.injEq] at hrun
      obtain ⟨rfl, -⟩ := hrun
      show getNextTierThreshold user.loyaltyPoints settings =
        user.loyaltyTier.next.map settings.threshold
      rw [h, getNextTierThreshold_eq hinc]

/-- **What `earnPoints` does to its user**: nothing, or it adds points and stores the tier
of the new points. -/
theorem earnPoints_user (settings : TierThresholds)
    (hu : store.users[userId]? = some user) (bookingId : BookingId) (amount : ℚ) :
    (pointsExec settings userId store (.earn bookingId amount)).users[userId]? = some user ∨
      ∃ n : ℤ, 0 < n ∧
        (pointsExec settings userId store (.earn bookingId amount)).users[userId]? =
          some ((user.withPoints (user.loyaltyPoints + n)).withTier
            (tierFor settings (user.loyaltyPoints + n))) := by
  unfold pointsExec ServiceM.storeAfter
  by_cases hfew : calculateLoyaltyPoints amount ≤ 0
  · exact Or.inl (by simpa [earnPoints, hfew] using hu)
  cases htx : store.earn userId bookingId (calculateLoyaltyPoints amount) with
  | none => exact Or.inl (by simpa [earnPoints, transaction, hfew, htx] using hu)
  | some store' =>
      obtain ⟨n, users, hn, rfl, hnone | ⟨u, hu', rfl⟩⟩ := LoyaltyStore.movePoints_eq_some htx
      · rw [hnone.1] at hu
        cases hu
      · obtain rfl : user = u := Option.some.inj (hu.symm.trans hu')
        rw [Int.cast_inj] at hn
        subst hn
        refine Or.inr ⟨_, not_le.mp hfew, ?_⟩
        simp [earnPoints, transaction, updateTier, hfew, htx, LoyaltyStore.setTier,
          Table.getElem?_updateById, hu, User.withPoints, User.withTier,
          LoyaltyTransactionType.signed]

/-- **What `spendPoints` does to its user**: nothing when it is refused, and otherwise it
takes the points, of which the user has enough. -/
theorem spendPoints_user (settings : TierThresholds)
    (hu : store.users[userId]? = some user) (bookingId : BookingId) (points : ℚ) :
    ((spendPoints userId bookingId points).succeeds store = false ∧
        (pointsExec settings userId store (.spend bookingId points)).users[userId]? =
          some user) ∨
      ∃ n : ℤ, points = n ∧ n ≤ user.loyaltyPoints ∧
        (spendPoints userId bookingId points).succeeds store = true ∧
        (pointsExec settings userId store (.spend bookingId points)).users[userId]? =
          some (user.withPoints (user.loyaltyPoints - n)) := by
  unfold pointsExec ServiceM.storeAfter ServiceM.succeeds
  by_cases hshort : (user.loyaltyPoints : ℚ) < points
  · exact Or.inl (by simp [spendPoints, hu, hshort])
  cases htx : store.spend userId bookingId points with
  | none => exact Or.inl (by simp [spendPoints, transaction, hu, hshort, htx])
  | some store' =>
      obtain ⟨n, users, hn, rfl, hnone | ⟨u, hu', rfl⟩⟩ := LoyaltyStore.movePoints_eq_some htx
      · rw [hnone.1] at hu
        cases hu
      · obtain rfl : user = u := Option.some.inj (hu.symm.trans hu')
        have henough : n ≤ user.loyaltyPoints := by
          rw [hn] at hshort
          exact Int.cast_le.mp (not_lt.mp hshort)
        refine Or.inr ⟨n, hn, henough, ?_, ?_⟩
        · simp [spendPoints, transaction, hu, hshort, htx]
        · simp [spendPoints, transaction, hu, hshort, htx, Table.getElem?_updateById,
            LoyaltyTransactionType.signed, sub_eq_add_neg]

/-- The user exists and has not overspent. -/
def HasPoints (userId : UserId) (store : LoyaltyStore) : Prop :=
  ∃ user, store.users[userId]? = some user ∧ 0 ≤ user.loyaltyPoints

theorem HasPoints.exec (h : HasPoints userId store) (call : PointsCall) :
    HasPoints userId (pointsExec settings userId store call) := by
  obtain ⟨user, hu, hpoints⟩ := h
  cases call with
  | earn bookingId amount =>
      rcases earnPoints_user settings hu bookingId amount with hsame | ⟨n, hn, hadded⟩
      · exact ⟨user, hsame, hpoints⟩
      · exact ⟨_, hadded, add_nonneg hpoints hn.le⟩
  | spend bookingId points =>
      rcases spendPoints_user settings hu bookingId points with
        ⟨-, hsame⟩ | ⟨n, -, hn, -, htaken⟩
      · exact ⟨user, hsame, hpoints⟩
      · exact ⟨_, htaken, sub_nonneg.mpr hn⟩

/-- One call: where tier and points agree, they agree afterwards exactly when the call does
not spend past a threshold. -/
theorem tierFollows_exec_iff (hinc : settings.Increasing) (hhas : HasPoints userId store)
    (hfollows : TierFollows settings userId store) (call : PointsCall) :
    TierFollows settings userId (pointsExec settings userId store call) ∧
        EarnKeepsTier settings userId store call ↔
      SpendCrossesNothing settings userId store call := by
  obtain ⟨user, hu, hpoints⟩ := hhas
  have htier := (tierFollows_iff hinc hu hpoints).mp hfollows
  cases call with
  | earn bookingId amount =>
      refine iff_of_true ?_ trivial
      rcases earnPoints_user settings hu bookingId amount with hsame | ⟨n, hn, hadded⟩
      · refine ⟨(tierFollows_iff hinc hsame hpoints).mpr htier, fun u u' hbefore hafter => ?_⟩
        obtain rfl : u = u' := by
          rw [hu] at hbefore
          exact Option.some.inj (hbefore.symm.trans (hsame.symm.trans hafter))
        exact le_refl _
      · have hmore : user.loyaltyPoints ≤ user.loyaltyPoints + n := by omega
        refine ⟨(tierFollows_iff hinc hadded (hpoints.trans hmore)).mpr rfl,
          fun u u' hbefore hafter => ?_⟩
        obtain rfl : user = u := Option.some.inj (hu.symm.trans hbefore)
        obtain rfl := Option.some.inj (hadded.symm.trans hafter)
        rw [htier]
        exact rank_tierFor_le hinc hpoints hmore
  | spend bookingId points =>
      rw [EarnKeepsTier, and_true]
      rcases spendPoints_user settings hu bookingId points with
        ⟨hrefused, hsame⟩ | ⟨n, rfl, hn, htook, htaken⟩
      · refine iff_of_true ((tierFollows_iff hinc hsame hpoints).mpr htier) ?_
        intro u _ hsucceeds
        rw [hrefused] at hsucceeds
        cases hsucceeds
      · have hleft : 0 ≤ user.loyaltyPoints - n := sub_nonneg.mpr hn
        rw [tierFollows_iff hinc htaken hleft]
        show user.loyaltyTier = tierFor settings (user.loyaltyPoints - n) ↔ _
        rw [htier, eq_comm, tierFor_eq_iff hinc hleft hpoints, Int.cast_sub]
        constructor
        · intro hcrosses u hbefore _
          obtain rfl : user = u := Option.some.inj (hu.symm.trans hbefore)
          exact hcrosses
        · intro hcrosses
          exact hcrosses user hu htook

/-- **Tiers follow points** in every state of a history of `earnPoints` and `spendPoints`
that begins with nothing, and `earnPoints` never lowers the tier, exactly when no
`spendPoints` moves the points past a threshold. -/
theorem tier_follows_points_iff (settings : TierThresholds) (hinc : settings.Increasing)
    (userId : UserId) (store : LoyaltyStore) (user : User)
    (hu : store.users[userId]? = some user) (hpoints : user.loyaltyPoints = 0)
    (htier : user.loyaltyTier = .bronze) (calls : List PointsCall) :
    Along (pointsExec settings userId) (TierFollows settings userId) store calls ∧
        Guarded (pointsExec settings userId) (EarnKeepsTier settings userId) store calls ↔
      Guarded (pointsExec settings userId) (SpendCrossesNothing settings userId) store
        calls := by
  have hnonneg : 0 ≤ user.loyaltyPoints := hpoints.ge
  have hbegins : tierFor settings user.loyaltyPoints = .bronze := by
    obtain ⟨hsilver, hgold, hplatinum⟩ := hinc
    rw [tierFor_eq, hpoints, Int.cast_zero, if_neg (by linarith), if_neg (by linarith),
      if_neg (by linarith)]
  have hfollows : TierFollows settings userId store :=
    (tierFollows_iff hinc hu hnonneg).mpr (htier.trans hbegins.symm)
  exact along_and_guarded_iff (J := HasPoints userId) (H := fun _ _ => True)
    (fun _ call h => h.exec call)
    (fun _ call hhas hP _ => tierFollows_exec_iff hinc hhas hP call) ⟨user, hu, hnonneg⟩
    hfollows (guarded_true store calls)

end Histories

namespace Demo

/-- The thresholds that the settings begin with. -/
def standardTiers : TierThresholds := ⟨some 500, some 2000, some 5000⟩

theorem standardTiers_increasing : standardTiers.Increasing := by
  decide +kernel

/-- A new user. -/
def newcomer : LoyaltyStore := oneMember 0 Decimal.zero

/-- A stay for 600 000 XAF, after which points are spent. -/
def saver (points : ℚ) : List PointsCall := [.earn 0 600000, .spend 1 points]

/-- The points and the tier of the only user. -/
def standing (store : LoyaltyStore) : Option (ℤ × LoyaltyTier) :=
  store.users[0]?.map fun u => (u.loyaltyPoints, u.loyaltyTier)

end Demo

section Examples

open Demo

/-- 50 of 600 points are spent, and 550 are enough for `SILVER`. -/
theorem tier_follows_points_iff_saver :
    (Along (pointsExec standardTiers 0) (TierFollows standardTiers 0) newcomer (saver 50) ∧
      Guarded (pointsExec standardTiers 0) (EarnKeepsTier standardTiers 0) newcomer
        (saver 50)) ∧
    standing (Final (pointsExec standardTiers 0) newcomer (saver 50)) =
      some (550, .silver) := by
  refine ⟨(tier_follows_points_iff standardTiers standardTiers_increasing 0 newcomer
    (member 0 Decimal.zero) rfl rfl rfl (saver 50)).mpr ⟨trivial, ?_, trivial⟩,
    by decide +kernel⟩
  intro user hu _ tier
  have hpoints : (Final (pointsExec standardTiers 0) newcomer [.earn 0 600000]).users[0]?.map
      User.loyaltyPoints = some 600 := by decide +kernel
  rw [show user.loyaltyPoints = 600 from
    Option.some.inj ((congrArg (Option.map User.loyaltyPoints) hu).symm.trans hpoints)]
  cases tier <;> norm_num [TierThresholds.threshold, standardTiers, orElse]

/-- **Spent points keep their tier.**  200 of 600 points are spent: 400 points are not enough
for `SILVER`, which stays stored, and its own threshold is returned as the next one.  The
next stay, for 10 000 XAF, lowers the tier. -/
theorem spent_points_keep_tier :
    standing (Final (pointsExec standardTiers 0) newcomer (saver 200)) =
      some (400, .silver) ∧
    ((getUserLoyalty standardTiers 0).outcome
        (Final (pointsExec standardTiers 0) newcomer (saver 200))).map
      (fun view => (view.tier, view.nextTierPoints)) = .ok (.silver, some 500) ∧
    standing (Final (pointsExec standardTiers 0) newcomer (saver 200 ++ [.earn 2 10000])) =
      some (410, .bronze) ∧
    ¬ ∀ calls, Along (pointsExec standardTiers 0) (TierFollows standardTiers 0) newcomer
      calls := by
  have hstanding : standing (Final (pointsExec standardTiers 0) newcomer (saver 200)) =
      some (400, .silver) := by decide +kernel
  refine ⟨hstanding, by decide +kernel, by decide +kernel, fun h => ?_⟩
  obtain ⟨user, hu, huser⟩ := Option.map_eq_some_iff.mp hstanding
  obtain ⟨hpoints, htier⟩ := Prod.mk.inj huser
  have hreached := ((h (saver 200)).last.tier user hu).1
  rw [hpoints, htier] at hreached
  norm_num [TierThresholds.threshold, standardTiers, orElse] at hreached

end Examples

end StayRide
