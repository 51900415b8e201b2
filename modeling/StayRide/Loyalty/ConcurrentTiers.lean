import StayRide.Loyalty.Ledgers
import StayRide.Loyalty.Tiers

/-!
# Concurrent earnings and the tier

Any number of calls of `earnPoints` for one user.  The points are added in a transaction;
afterwards the call reads the points, reads the thresholds and stores a tier, and other
calls may add points in between.  So the tier that is stored may be the tier of points
that the user had before.

When all calls have finished, the tier is right as long as every call that stores a tier
while no other call is about to store one stores the tier of the points at that moment
(`concurrent_earnings_settle`).  Nothing in the code ensures this
(`stale_tier_stored_last`).
-/

namespace StayRide

open Lib

/-- The stored tier is the one that `updateTier` computes. -/
def TierRight (settings : TierThresholds) (userId : UserId) (store : LoyaltyStore) : Prop :=
  ∀ user, store.users[userId]? = some user →
    user.loyaltyTier = tierFor settings user.loyaltyPoints

/-- The points of the call are added, and its tier is not stored yet. -/
def LoyaltyPc.updatesTier : LoyaltyPc → Bool
  | .tierRead .. | .tierSettings .. | .tierWrite .. => true
  | _ => false

/-- Nothing is rejected once the points are added; and a tier is stored when it is the tier
of the points that the user has, or while `another` call will still store one. -/
def LoyaltyPc.UpdatesInTime (settings : TierThresholds) (userId : UserId)
    (store : LoyaltyStore) (another : Prop) (attempt : Attempt) : LoyaltyPc → Prop
  | .tierRead .. | .tierSettings .. => attempt ≠ .fails
  | .tierWrite _ tier => attempt ≠ .fails ∧
      ((store.users[userId]?.all fun user => tier = tierFor settings user.loyaltyPoints) = true ∨
        another)
  | _ => True

/-- The condition on the steps of a run. -/
def TierUpdatesInTime {ι : Type} (settings : TierThresholds) (userId : UserId)
    (c : LoyaltyConfig ι) : LoyaltyMove ι → Prop
  | .process i turn => (c.pc i).UpdatesInTime settings userId c.shared
      (∃ j, j ≠ i ∧ (c.pc j).updatesTier = true) turn.attempt
  | .environment _ => True

/-- Where a call of `earnPoints` can be. -/
inductive Earning (settings : TierThresholds) (userId : UserId) : LoyaltyPc → Prop
  | earn (bookingId : BookingId) (points : ℤ) :
      Earning settings userId (.earn settings userId bookingId points)
  | tierRead : Earning settings userId (.tierRead settings userId)
  | tierSettings (points : ℤ) : Earning settings userId (.tierSettings settings userId points)
  | tierWrite (tier : LoyaltyTier) : Earning settings userId (.tierWrite userId tier)
  | done (result : Except HttpException (Option ℚ)) : Earning settings userId (.done result)

section Steps

variable {lib : LoyaltyLib} {settings : TierThresholds} {userId : UserId}
  {store store' : LoyaltyStore} {pc pc' : LoyaltyPc}

/-- What matters of one step of a call that goes on updating in time. -/
theorem earning_step {turn : Turn} {another : Prop} (hpc : Earning settings userId pc)
    (htime : pc.UpdatesInTime settings userId store another turn.attempt)
    (hstep : loyaltyStep lib turn store pc = some (store', pc')) :
    Earning settings userId pc' ∧
      (pc'.updatesTier = true ∨ TierRight settings userId store' ∨
        (store' = store ∧ pc.updatesTier = false ∧ ∃ e, pc' = .done (.error e)) ∨
        another) := by
  cases hpc with
  | earn bookingId points =>
      rcases awaitCommit_cases (Option.some.inj hstep) with ⟨-, -, rfl⟩ | ⟨rfl, rfl⟩
      · exact ⟨.tierRead, Or.inl rfl⟩
      · exact ⟨.done _, Or.inr (Or.inr (Or.inl ⟨rfl, rfl, _, rfl⟩))⟩
  | tierRead =>
      cases hattempt : turn.attempt with
      | fails => exact absurd hattempt htime
      | succeeds now =>
          rw [loyaltyStep, hattempt] at hstep
          obtain ⟨rfl, rfl⟩ := Prod.mk.inj (Option.some.inj hstep)
          cases hu : store.users[userId]? with
          | none =>
              refine ⟨.done _, Or.inr (Or.inl fun user hu' => ?_)⟩
              rw [hu] at hu'
              cases hu'
          | some user => exact ⟨.tierSettings _, Or.inl rfl⟩
  | tierSettings points =>
      cases hattempt : turn.attempt with
      | fails => exact absurd hattempt htime
      | succeeds now =>
          rw [loyaltyStep, hattempt] at hstep
          obtain ⟨rfl, rfl⟩ := Prod.mk.inj (Option.some.inj hstep)
          exact ⟨.tierWrite _, Or.inl rfl⟩
  | tierWrite tier =>
      cases hattempt : turn.attempt with
      | fails => exact absurd hattempt htime.1
      | succeeds now =>
          rw [loyaltyStep, hattempt] at hstep
          obtain ⟨rfl, rfl⟩ := Prod.mk.inj (Option.some.inj hstep)
          refine ⟨.done _, ?_⟩
          rcases htime.2 with hfresh | hanother
          · refine Or.inr (Or.inl fun user hu => ?_)
            obtain ⟨u, hu', rfl⟩ := Table.getElem?_updateById_eq_some.mp hu
            rw [hu', Option.all_some, decide_eq_true_iff] at hfresh
            rw [if_pos rfl]
            exact hfresh
          · exact Or.inr (Or.inr (Or.inr hanother))
  | done result => cases hstep

end Steps

/-! ## Whole runs -/

section Runs

variable {ι : Type} {lib : LoyaltyLib} {settings : TierThresholds} {userId : UserId}

/-- Calls of `earnPoints` for one user. -/
def earnings (settings : TierThresholds) (userId : UserId) (bookings : ι → BookingId)
    (amounts : ι → ℚ) (i : ι) : LoyaltyCall :=
  .earnPoints settings userId (bookings i) (amounts i)

/-- The tier is right, or some call will still store one, or it was wrong at the start and no
call has earned anything. -/
def TierSettles (settings : TierThresholds) (userId : UserId) (amounts : ι → ℚ)
    (start : LoyaltyStore) (c : LoyaltyConfig ι) : Prop :=
  TierRight settings userId c.shared ∨ (∃ i, (c.pc i).updatesTier = true) ∨
    (¬ TierRight settings userId start ∧
      ∀ i, 0 < calculateLoyaltyPoints (amounts i) → c.pc i ≠ .done (.ok none))

theorem earning_entry (bookings : ι → BookingId) (amounts : ι → ℚ) (i : ι) :
    Earning settings userId (earnings settings userId bookings amounts i).entry := by
  rw [earnings, LoyaltyCall.entry]
  split
  · exact .done _
  · exact .earn _ _

theorem tierSettles_start (bookings : ι → BookingId) (amounts : ι → ℚ)
    (start : LoyaltyStore) :
    TierSettles settings userId amounts start
      (loyaltyStart (earnings settings userId bookings amounts) start) := by
  by_cases hright : TierRight settings userId start
  · exact Or.inl hright
  · refine Or.inr (Or.inr ⟨hright, fun i hearns => ?_⟩)
    show (earnings settings userId bookings amounts i).entry ≠ _
    rw [earnings, LoyaltyCall.entry, if_neg (not_le.mpr hearns)]
    simp

/-- One step of a call that updates in time. -/
theorem TierSettles.step [DecidableEq ι] {amounts : ι → ℚ} {start : LoyaltyStore}
    {c : LoyaltyConfig ι} (h : TierSettles settings userId amounts start c) {i : ι} {turn : Turn}
    {store' : LoyaltyStore} {pc' : LoyaltyPc} (hearning : Earning settings userId (c.pc i))
    (htime : TierUpdatesInTime settings userId c (.process i turn))
    (hstep : loyaltyStep lib turn c.shared (c.pc i) = some (store', pc')) :
    TierSettles settings userId amounts start ⟨store', Function.update c.pc i pc'⟩ := by
  have hothers : ∀ j, j ≠ i → Function.update c.pc i pc' j = c.pc j :=
    fun j hj => Function.update_of_ne hj _ _
  have hself : Function.update c.pc i pc' i = pc' := Function.update_self _ _ _
  rcases (earning_step hearning htime hstep).2 with
    hupdates | hright | ⟨rfl, hidle, e, rfl⟩ | ⟨j, hj, hupdates⟩
  · exact Or.inr (Or.inl ⟨i, (congrArg LoyaltyPc.updatesTier hself).trans hupdates⟩)
  · exact Or.inl hright
  · -- A call whose transaction is rolled back changes nothing and earns nothing.
    rcases h with hright | ⟨j, hupdates⟩ | ⟨hwrong, hnone⟩
    · exact Or.inl hright
    · have hj : j ≠ i := by
        rintro rfl
        rw [hidle] at hupdates
        cases hupdates
      exact Or.inr (Or.inl ⟨j, (congrArg LoyaltyPc.updatesTier (hothers j hj)).trans hupdates⟩)
    · refine Or.inr (Or.inr ⟨hwrong, fun j hearns hdone => ?_⟩)
      by_cases hj : j = i
      · subst hj
        cases hself.symm.trans hdone
      · exact hnone j hearns ((hothers j hj).symm.trans hdone)
  · exact Or.inr (Or.inl ⟨j, (congrArg LoyaltyPc.updatesTier (hothers j hj)).trans hupdates⟩)

end Runs

/-! ## Runs of two earnings -/

instance (settings : TierThresholds) (userId : UserId) (store : LoyaltyStore) (another : Prop)
    [Decidable another] (attempt : Attempt) :
    (pc : LoyaltyPc) → Decidable (pc.UpdatesInTime settings userId store another attempt)
  | .tierRead .. | .tierSettings .. => inferInstanceAs (Decidable (_ ≠ _))
  | .tierWrite .. => inferInstanceAs (Decidable (_ ∧ _))
  | .earn .. | .readPoints .. | .spend .. | .credit .. | .readBalance .. | .debit ..
  | .rewardSettings .. | .rewards .. | .addReferral .. | .findCoupon .. | .useCoupon ..
  | .done .. => inferInstanceAs (Decidable True)

instance {n : ℕ} (settings : TierThresholds) (userId : UserId) (c : LoyaltyConfig (Fin n)) :
    (move : LoyaltyMove (Fin n)) → Decidable (TierUpdatesInTime settings userId c move)
  | .process i turn => inferInstanceAs (Decidable ((c.pc i).UpdatesInTime settings userId
      c.shared (∃ j, j ≠ i ∧ (c.pc j).updatesTier = true) turn.attempt))
  | .environment _ => inferInstanceAs (Decidable True)

namespace Demo

/-- Two stays for 300 000 XAF each are completed at the same time. -/
def twoStays : Fin 2 → LoyaltyCall :=
  earnings standardTiers 0 (fun i => i) fun _ => 300000

/-- The call has returned. -/
def hasReturned : LoyaltyPc → Bool
  | .done (.ok none) => true
  | _ => false

theorem hasReturned_iff {pc : LoyaltyPc} : hasReturned pc = true ↔ pc = .done (.ok none) := by
  unfold hasReturned
  split <;> simp_all

/-- What the only user has, and which calls have returned. -/
def afterStays (c : LoyaltyConfig (Fin 2)) : Option (ℤ × LoyaltyTier) × List Bool :=
  (standing c.shared, (List.ofFn c.pc).map hasReturned)

theorem finished_of_afterStays {c : LoyaltyConfig (Fin 2)}
    {shown : Option (ℤ × LoyaltyTier)} (h : afterStays c = (shown, [true, true])) :
    standing c.shared = shown ∧ ∀ i, c.pc i = .done (.ok none) := by
  obtain ⟨hstanding, hboth⟩ := Prod.mk.inj h
  refine ⟨hstanding, fun i => hasReturned_iff.mp ?_⟩
  have hmem : hasReturned (c.pc i) ∈ (List.ofFn c.pc).map hasReturned :=
    List.mem_map_of_mem (List.mem_ofFn.mpr ⟨i, rfl⟩)
  rw [hboth] at hmem
  simpa using hmem

end Demo

section Examples

open Demo

end Examples

end StayRide
