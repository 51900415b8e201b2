import StayRide.Loyalty.Ledgers

/-!
# Overdrafts

`spendPoints` and `debitWallet` check that the user has enough, and subtract in a
transaction of their own.  Between the two awaits the balance may have been lowered by
another call, and the `UPDATE` neither checks it again nor runs into a constraint of the
column: two debits that both find the same money both take it (`money_debited_twice`).

No balance falls below zero as long as every transaction that subtracts commits where the
balance is at least the one its call has read.  This is `no_overdraft`; what is credited or
earned in between does no harm.
-/

namespace StayRide

open Lib

/-- Neither the wallet nor the points of the user are overdrawn. -/
def User.Solvent (u : User) : Prop :=
  0 ≤ u.balance ∧ 0 ≤ u.loyaltyPoints

/-- **No overdraft**, of any user. -/
def NoOverdraft (store : LoyaltyStore) : Prop :=
  ∀ (userId : UserId) (u : User), store.users[userId]? = some u → u.Solvent

/-- The amounts of a call are positive. -/
def LoyaltyCall.Positive : LoyaltyCall → Prop
  | .earnPoints _ _ _ amount => 0 < amount
  | .spendPoints _ _ points => 0 < points
  | .creditWallet _ amount _ _ | .debitWallet _ amount _ => 0 < amount
  | .processReferral settings _ _ =>
      0 < orElse settings.referrer 5000 ∧ 0 < orElse settings.referred 2500
  | .applyCoupon .. => True

/-- The condition on a step from a program point: when the transaction of `spendPoints` or
`debitWallet` commits, the user still has at least what the call has read. -/
def LoyaltyPc.ReadHolds (store : LoyaltyStore) (attempt : Attempt) : LoyaltyPc → Prop
  | .spend userId _ _ read => attempt ≠ .fails →
      (store.users[userId]?.all fun u => read ≤ u.loyaltyPoints) = true
  | .debit userId _ _ read => attempt ≠ .fails →
      (store.users[userId]?.all fun u => read ≤ u.balance) = true
  | _ => True

/-- The condition on a step of the system. -/
def BalanceNotLowered {ι : Type} (c : LoyaltyConfig ι) : LoyaltyMove ι → Prop
  | .process i turn => (c.pc i).ReadHolds c.shared turn.attempt
  | .environment e => e.elim

/-! ## One step -/

/-- What a call has made sure of: it adds nothing negative, and it subtracts no more than
it has read. -/
def LoyaltyPc.Checked : LoyaltyPc → Prop
  | .earn _ _ _ points => 0 ≤ points
  | .spend _ _ points read => points ≤ read
  | .credit _ amount _ _ => 0 ≤ amount
  | .debit _ amount _ read => amount ≤ read
  | .rewardSettings r | .rewards r _ _ => 0 ≤ r.referrerReward ∧ 0 ≤ r.referredReward
  | _ => True

theorem LoyaltyCall.Positive.checked {call : LoyaltyCall} (h : call.Positive) :
    call.entry.Checked := by
  cases call with
  | earnPoints settings userId bookingId amount =>
      rw [LoyaltyCall.entry]
      split
      · trivial
      · next hpos => exact (not_le.mp hpos).le
  | spendPoints | debitWallet | applyCoupon => trivial
  | creditWallet => exact le_of_lt h
  | processReferral => exact ⟨h.1.le, h.2.le⟩

theorem rewardsPaid_checked {r : Referral}
    (h : 0 ≤ r.referrerReward ∧ 0 ≤ r.referredReward) (first second : Option Bool) :
    (rewardsPaid r first second).Checked :=
  rewardsPaid_of (P := LoyaltyPc.Checked) trivial trivial (fun _ _ => h) first second

section Step

variable {lib : LoyaltyLib} {store store' : LoyaltyStore}

/-- The update of one user. -/
private theorem NoOverdraft.updateById (h : NoOverdraft store) {userId : UserId} {u' : User}
    (hu' : u'.Solvent) :
    ∀ (id : UserId) (u : User),
      (store.users.updateById userId fun _ => u')[id]? = some u → u.Solvent := by
  intro id u hu
  obtain ⟨u₀, hu₀, rfl⟩ := Table.getElem?_updateById_eq_some.mp hu
  split
  · exact hu'
  · exact h id u₀ hu₀

theorem NoOverdraft.movePoints (h : NoOverdraft store) {type : LoyaltyTransactionType}
    {reason : String} {userId : UserId} {bookingId : BookingId} {points : ℚ}
    (henough : ∀ n : ℤ, points = n → ∀ u, store.users[userId]? = some u →
      0 ≤ u.loyaltyPoints + type.signed n)
    (hmove : store.movePoints type reason userId bookingId points = some store') :
    NoOverdraft store' := by
  obtain ⟨n, users, hn, rfl, ⟨-, rfl⟩ | ⟨u, hu, rfl⟩⟩ := LoyaltyStore.movePoints_eq_some hmove
  · exact h
  · exact h.updateById ⟨(h userId u hu).1, henough n hn u hu⟩

/-- Rounding a balance that is not negative does not make it negative. -/
theorem NoOverdraft.moveMoney (h : NoOverdraft store) {type : WalletTransactionType}
    {userId : UserId} {amount : ℚ} {reason : String} {bookingId : Option BookingId}
    (henough : ∀ u, store.users[userId]? = some u → 0 ≤ u.balance + type.signed amount)
    (hmove : store.moveMoney lib type userId amount reason bookingId = some store') :
    NoOverdraft store' := by
  obtain ⟨u, balance, hu, hbalance, rfl⟩ := LoyaltyStore.moveMoney_eq_some hmove
  have hzero : (Decimal.zero : Amount).toRat ≤ u.walletBalance.toRat + type.signed amount := by
    rw [Decimal.toRat_zero]
    exact henough u hu
  have hnonneg := Decimal.toRat_le_of_le hzero hbalance
  rw [Decimal.toRat_zero] at hnonneg
  exact h.updateById ⟨hnonneg, (h userId u hu).2⟩

/-- What is credited leaves no wallet overdrawn. -/
theorem NoOverdraft.credit (h : NoOverdraft store) {userId : UserId} {amount : ℚ}
    {reason : String} {bookingId : Option BookingId} (hamount : 0 ≤ amount)
    (hmove : store.credit lib userId amount reason bookingId = some store') :
    NoOverdraft store' := by
  refine NoOverdraft.moveMoney h (fun u hu => ?_) hmove
  exact add_nonneg (h userId u hu).1 hamount

theorem NoOverdraft.setTier (h : NoOverdraft store) (userId : UserId) (tier : LoyaltyTier) :
    NoOverdraft (store.setTier userId tier) := by
  intro id u hu
  obtain ⟨u₀, hu₀, rfl⟩ := Table.getElem?_updateById_eq_some.mp hu
  split
  · exact h id u₀ hu₀
  · exact h id u₀ hu₀

/-- **One step** that is taken where what was read still holds overdraws nothing. -/
theorem NoOverdraft.step (h : NoOverdraft store) {attempt : Attempt} {pc pc' : LoyaltyPc}
    (hchecked : pc.Checked) (hread : pc.ReadHolds store attempt)
    (hstep : LoyaltyStep lib attempt store pc store' pc') :
    NoOverdraft store' ∧ pc'.Checked := by
  cases hstep with
  | earn _ htx =>
      refine ⟨h.movePoints (fun n hn u hu => ?_) htx, trivial⟩
      rw [← Int.cast_inj.mp hn]
      exact add_nonneg (h _ u hu).2 hchecked
  | @spend userId bookingId points read _ ha htx =>
      refine ⟨h.movePoints (fun n hn u hu => ?_) htx, trivial⟩
      have hstill := hread ha
      rw [hu, Option.all_some, decide_eq_true_iff] at hstill
      have hn_le : n ≤ read := by
        rw [LoyaltyPc.Checked, hn] at hchecked
        exact Int.cast_le.mp hchecked
      rw [LoyaltyTransactionType.signed]
      omega
  | credit _ htx => exact ⟨h.credit hchecked htx, trivial⟩
  | @debit userId amount reason read _ ha htx =>
      refine ⟨h.moveMoney (fun u hu => ?_) htx, trivial⟩
      have hstill := hread ha
      rw [hu, Option.all_some, decide_eq_true_iff] at hstill
      rw [WalletTransactionType.signed, ← sub_eq_add_neg, sub_nonneg]
      exact le_trans hchecked hstill
  | rewardReferrer _ htx => exact ⟨h.credit hchecked.1 htx, rewardsPaid_checked hchecked _ _⟩
  | rewardReferred _ _ htx => exact ⟨h.credit hchecked.2 htx, rewardsPaid_checked hchecked _ _⟩
  | referrerRefused | referredRefused => exact ⟨h, rewardsPaid_checked hchecked _ _⟩
  | tierWrite => exact ⟨h.setTier _ _, trivial⟩
  | readPoints _ henough | readBalance _ henough => exact ⟨h, henough⟩
  | rewardSettings => exact ⟨h, hchecked⟩
  | useCoupon | addReferral | tierRead | tierSettings | findCoupon | stop => exact ⟨h, trivial⟩

end Step

/-! ## Whole runs -/

/-- **No overdraft.**  Any number of calls with positive amounts interleave in any way,
starting where no user is overdrawn.  As long as every transaction of `spendPoints` and
`debitWallet` commits where the balance is at least the one that its call has read, no
user is overdrawn in any reachable state. -/
theorem no_overdraft {ι : Type} [DecidableEq ι] (lib : LoyaltyLib) (calls : ι → LoyaltyCall)
    (hpositive : ∀ i, (calls i).Positive) (store : LoyaltyStore) (hstart : NoOverdraft store)
    (c : LoyaltyConfig ι)
    (h : Reach (loyaltySystem lib) BalanceNotLowered (loyaltyStart calls store) c) :
    NoOverdraft c.shared := by
  refine (interleave_assertions (I := NoOverdraft) (K := fun _ _ pc => pc.Checked)
    hstart (fun i => (hpositive i).checked) (fun c i turn store' pc' hI hK hG hact => ?_)
    (fun _ e _ _ _ _ _ => e.elim) h).1
  obtain ⟨hsolvent, hself⟩ := hI.step (hK i) hG (loyaltyStep_cases hact)
  exact ⟨hsolvent, hself, fun j _ => hK j⟩

/-! ## Runs of two debits -/

instance (store : LoyaltyStore) (attempt : Attempt) :
    (pc : LoyaltyPc) → Decidable (pc.ReadHolds store attempt)
  | .spend .. | .debit .. => inferInstanceAs (Decidable (_ → _))
  | .earn .. | .tierRead .. | .tierSettings .. | .tierWrite .. | .readPoints .. | .credit ..
  | .readBalance .. | .rewardSettings .. | .rewards .. | .addReferral .. | .findCoupon ..
  | .useCoupon .. | .done .. => inferInstanceAs (Decidable True)

instance {ι : Type} (c : LoyaltyConfig ι) :
    (move : LoyaltyMove ι) → Decidable (BalanceNotLowered c move)
  | .process i turn => inferInstanceAs (Decidable ((c.pc i).ReadHolds c.shared turn.attempt))
  | .environment e => e.elim

namespace Demo

/-- Two debits of 300. -/
def debits : Fin 2 → LoyaltyCall := fun _ => .debitWallet 0 300 "Réservation"

theorem oneMember_noOverdraft : NoOverdraft (oneMember 0 ⟨50000, by decide⟩) := by
  rintro (_ | userId) u hu
  · rw [← Option.some.inj hu]
    exact ⟨by decide +kernel, le_refl 0⟩
  · cases hu

end Demo

/-- The second debit reads the wallet when the first one is made, and is refused. -/
theorem no_overdraft_in_turn : ∃ c : LoyaltyConfig (Fin 2),
    Reach (loyaltySystem Demo.loyaltyLib) BalanceNotLowered
      (loyaltyStart Demo.debits (Demo.oneMember 0 ⟨50000, by decide⟩)) c ∧
    Demo.holdings c.shared 0 = some (0, 20000) ∧ NoOverdraft c.shared := by
  have hrun : (replay (fun c move => if BalanceNotLowered c move then
      loyaltySystem Demo.loyaltyLib c move else none)
      (loyaltyStart Demo.debits (Demo.oneMember 0 ⟨50000, by decide⟩))
      [Demo.nextTurn 0, Demo.nextTurn 0, Demo.nextTurn 1]).map
      (fun c => Demo.holdings c.shared 0) = some (some (0, 20000)) := by
    decide +kernel
  obtain ⟨c, hreach, hholdings⟩ := exists_reach_of_admitted hrun
  refine ⟨c, hreach, hholdings, no_overdraft Demo.loyaltyLib Demo.debits (fun _ => ?_) _
    Demo.oneMember_noOverdraft c hreach⟩
  show (0 : ℚ) < 300
  norm_num

/-- **The money is debited twice.**  Both debits of 300 find the 500 in the wallet. -/
theorem money_debited_twice :
    ¬ ∀ c : LoyaltyConfig (Fin 2), Reach (loyaltySystem Demo.loyaltyLib) (fun _ _ => True)
      (loyaltyStart Demo.debits (Demo.oneMember 0 ⟨50000, by decide⟩)) c →
      NoOverdraft c.shared := by
  intro h
  have hrun : (replay (loyaltySystem Demo.loyaltyLib)
      (loyaltyStart Demo.debits (Demo.oneMember 0 ⟨50000, by decide⟩))
      [Demo.nextTurn 0, Demo.nextTurn 1, Demo.nextTurn 0, Demo.nextTurn 1]).map
      (fun c => Demo.holdings c.shared 0) = some (some (0, -10000)) := by
    decide +kernel
  obtain ⟨c, hreach, hholdings⟩ := exists_reach_of_unguarded hrun
  obtain ⟨u, hu, hshown⟩ := Option.map_eq_some_iff.mp hholdings
  have hsolvent := (h c hreach 0 u hu).1
  rw [User.balance, Decimal.toRat, (Prod.mk.inj hshown).2] at hsolvent
  norm_num at hsolvent

end StayRide
