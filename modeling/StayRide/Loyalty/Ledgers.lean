import StayRide.Lib.Journal
import StayRide.Loyalty.Concurrent

/-!
# The ledgers of the loyalty service balance

Points, wallets and the use of coupons are columns that the service keeps as running
totals, and every transaction that changes one of them enters the change in a ledger.
Under any interleaving of calls, with any transaction rolled back, the totals are the
totals at the start plus what the ledgers say (`ledgers_balance`); the rows of the wallet
also show the balance they lead to, in the order in which they are committed.

The wallet is a column with two decimals and rounds what it is given.  An amount with
more decimals is entered as one amount and changes the wallet by another
(`small_debit_unbalanced`), so the theorem is about amounts with at most two decimals;
points are whole numbers, and the database refuses others.  The columns of the ledger are
not declared in the repository, and all that is asked of them is that they keep such
amounts as they are (`LoyaltyLib.KeepsCents`).
-/

namespace StayRide

open Lib

/-! ## The three ledgers -/

/-- A row of `loyalty_transactions` adds what was earned and subtracts what was spent. -/
def pointsPosting : Posting LoyaltyTransaction ℤ where
  account row := row.userId
  delta row := row.type.signed row.points

/-- A row of `wallet_transactions` adds credits and subtracts debits. -/
def walletPosting : Posting WalletTransaction ℚ where
  account row := row.userId
  delta row := row.type.signed row.amount

/-- A row of `coupon_usages` is one use of its coupon. -/
def usagePosting : Posting CouponUsage ℤ where
  account row := row.couponId
  delta _ := 1

/-- The money in the wallet of a user. -/
def User.balance (u : User) : ℚ :=
  u.walletBalance.toRat

/-- **The ledgers balance**: since `start`, the totals have changed by what has been
entered, and the rows of the wallet show the balance at which they arrived. -/
structure LedgersBalance (start store : LoyaltyStore) : Prop where
  points : ∃ rows, store.loyaltyTransactions = start.loyaltyTransactions ++ rows ∧
    pointsPosting.Balanced User.loyaltyPoints start.users store.users rows
  wallet : ∃ rows, store.walletTransactions = start.walletTransactions ++ rows ∧
    walletPosting.Balanced User.balance start.users store.users rows ∧
    walletPosting.Running User.balance WalletTransaction.balanceAfter start.users rows
  coupons : ∃ rows, store.couponUsages = start.couponUsages ++ rows ∧
    usagePosting.Balanced Coupon.usedCount start.coupons store.coupons rows

theorem LedgersBalance.refl (store : LoyaltyStore) : LedgersBalance store store :=
  ⟨⟨[], by simp, Posting.balanced_refl _⟩,
    ⟨[], by simp, Posting.balanced_refl _, Posting.running_nil⟩,
    ⟨[], by simp, Posting.balanced_refl _⟩⟩

/-! ## Amounts -/

/-- The amount has at most two decimals. -/
def IsCents (amount : ℚ) : Prop :=
  ∃ n : ℤ, amount * 10 ^ 2 = n

theorem isCents_toRat (amount : Amount) : IsCents amount.toRat :=
  ⟨amount.units, amount.toRat_mul_scale⟩

theorem IsCents.signed {amount : ℚ} (h : IsCents amount) (type : WalletTransactionType) :
    IsCents (type.signed amount) := by
  obtain ⟨n, hn⟩ := h
  cases type with
  | credit => exact ⟨n, hn⟩
  | debit => exact ⟨-n, by rw [WalletTransactionType.signed, neg_mul, hn, Int.cast_neg]⟩

theorem IsCents.add {a b : ℚ} (ha : IsCents a) (hb : IsCents b) : IsCents (a + b) := by
  obtain ⟨m, hm⟩ := ha
  obtain ⟨n, hn⟩ := hb
  exact ⟨m + n, by rw [add_mul, hm, hn, Int.cast_add]⟩

/-- The ledger of the wallet keeps amounts with at most two decimals as they are. -/
structure LoyaltyLib.KeepsCents (lib : LoyaltyLib) : Prop where
  amount : ∀ q, IsCents q → lib.amountColumn q = q
  balance : ∀ q, IsCents q → lib.balanceColumn q = q

/-- The amounts of a call have at most two decimals. -/
def LoyaltyCall.InCents : LoyaltyCall → Prop
  | .creditWallet _ amount _ _ | .debitWallet _ amount _ => IsCents amount
  | .processReferral settings _ _ =>
      IsCents (orElse settings.referrer 5000) ∧ IsCents (orElse settings.referred 2500)
  | .earnPoints .. | .spendPoints .. | .applyCoupon .. => True

/-- The amounts that a call still has to move have at most two decimals. -/
def LoyaltyPc.InCents : LoyaltyPc → Prop
  | .credit _ amount _ _ | .readBalance _ amount _ | .debit _ amount _ _ => IsCents amount
  | .rewardSettings r | .rewards r _ _ => IsCents r.referrerReward ∧ IsCents r.referredReward
  | _ => True

theorem LoyaltyCall.InCents.entry {call : LoyaltyCall} (h : call.InCents) :
    call.entry.InCents := by
  cases call with
  | earnPoints settings userId bookingId amount =>
      rw [LoyaltyCall.entry]
      split <;> trivial
  | spendPoints | applyCoupon => trivial
  | creditWallet | debitWallet | processReferral => exact h

theorem rewardsPaid_inCents {r : Referral}
    (h : IsCents r.referrerReward ∧ IsCents r.referredReward) (first second : Option Bool) :
    (rewardsPaid r first second).InCents :=
  rewardsPaid_of (P := LoyaltyPc.InCents) trivial trivial (fun _ _ => h) first second

/-! ## One step -/

section Step

variable {lib : LoyaltyLib} {start store store' : LoyaltyStore}

/-- Points are entered as they are earned or spent; the wallets and the coupons stay. -/
theorem LedgersBalance.movePoints (h : LedgersBalance start store)
    {type : LoyaltyTransactionType} {reason : String} {userId : UserId} {bookingId : BookingId}
    {points : ℚ} (hmove : store.movePoints type reason userId bookingId points = some store') :
    LedgersBalance start store' := by
  obtain ⟨n, users, -, rfl, husers⟩ := LoyaltyStore.movePoints_eq_some hmove
  obtain ⟨rows, hrows, hbalanced⟩ := h.points
  obtain ⟨walletRows, hwalletRows, hwallet, hrunning⟩ := h.wallet
  refine ⟨⟨rows ++ [⟨userId, type, n, reason, bookingId⟩], ?_, ?_⟩,
    ⟨walletRows, hwalletRows, ?_, hrunning⟩, h.coupons⟩
  · rw [hrows, List.append_assoc]
  · rcases husers with ⟨hnone, rfl⟩ | ⟨u, hu, rfl⟩
    · exact hbalanced.post_absent _ hnone
    · refine hbalanced.post ⟨userId, type, n, reason, bookingId⟩ _ fun row hrow => ?_
      rw [← Option.some.inj (hu.symm.trans hrow)]
      rfl
  · rcases husers with ⟨-, rfl⟩ | ⟨u, hu, rfl⟩
    · exact hwallet
    · refine hwallet.keep fun row hrow => ?_
      rw [← Option.some.inj (hu.symm.trans hrow)]
      rfl

/-- An amount with at most two decimals is entered as it changes the wallet, with the
balance it leads to; the points and the coupons stay. -/
theorem LedgersBalance.moveMoney (hlib : lib.KeepsCents) (h : LedgersBalance start store)
    {type : WalletTransactionType} {userId : UserId} {amount : ℚ} {reason : String}
    {bookingId : Option BookingId} (hcents : IsCents amount)
    (hmove : store.moveMoney lib type userId amount reason bookingId = some store') :
    LedgersBalance start store' := by
  obtain ⟨u, balance, hu, hbalance, rfl⟩ := LoyaltyStore.moveMoney_eq_some hmove
  obtain ⟨pointRows, hpointRows, hpoints⟩ := h.points
  obtain ⟨rows, hrows, hbalanced, hrunning⟩ := h.wallet
  -- The column does not round, and the row holds what was moved.
  have hexact : balance.toRat = u.balance + type.signed amount := by
    obtain ⟨n, hn⟩ := (isCents_toRat u.walletBalance).add (hcents.signed type)
    exact Decimal.toRat_eq_of_scale hn hbalance
  rw [hlib.amount amount hcents, hlib.balance _ (isCents_toRat balance)]
  refine ⟨⟨pointRows, hpointRows, ?_⟩,
    ⟨rows ++ [⟨userId, type, amount, balance.toRat, reason, bookingId⟩], ?_, ?_, ?_⟩, h.coupons⟩
  · refine hpoints.keep fun row hrow => ?_
    rw [← Option.some.inj (hu.symm.trans hrow)]
    rfl
  · rw [hrows, List.append_assoc]
  · refine hbalanced.post ⟨userId, type, amount, balance.toRat, reason, bookingId⟩ _
      fun row hrow => ?_
    rw [← Option.some.inj (hu.symm.trans hrow)]
    exact hexact
  · exact hrunning.post hbalanced _ hu hexact

theorem LedgersBalance.setTier (h : LedgersBalance start store) (userId : UserId)
    (tier : LoyaltyTier) : LedgersBalance start (store.setTier userId tier) := by
  obtain ⟨pointRows, hpointRows, hpoints⟩ := h.points
  obtain ⟨rows, hrows, hbalanced, hrunning⟩ := h.wallet
  exact ⟨⟨pointRows, hpointRows, hpoints.keep fun _ _ => rfl⟩,
    ⟨rows, hrows, hbalanced.keep fun _ _ => rfl, hrunning⟩, h.coupons⟩

/-- A use is counted as it is entered. -/
theorem LedgersBalance.useCoupon (h : LedgersBalance start store) (couponId : CouponId)
    (userId : UserId) (bookingId : BookingId) (discount : ℚ) :
    LedgersBalance start (store.useCoupon couponId userId bookingId discount) := by
  obtain ⟨rows, hrows, hbalanced⟩ := h.coupons
  refine ⟨h.points, h.wallet, ⟨rows ++ [⟨couponId, userId, bookingId, discount⟩], ?_, ?_⟩⟩
  · rw [LoyaltyStore.useCoupon, hrows, List.append_assoc]
  · exact hbalanced.post ⟨couponId, userId, bookingId, discount⟩ Coupon.usedAgain fun _ _ => rfl

/-- **One step** of a call keeps the ledgers in balance, and the amounts it still has to
move are amounts it was given. -/
theorem LedgersBalance.step (hlib : lib.KeepsCents) (h : LedgersBalance start store)
    {attempt : Attempt} {pc pc' : LoyaltyPc} (hcents : pc.InCents)
    (hstep : LoyaltyStep lib attempt store pc store' pc') :
    LedgersBalance start store' ∧ pc'.InCents := by
  cases hstep with
  | earn _ htx => exact ⟨h.movePoints htx, trivial⟩
  | spend _ htx => exact ⟨h.movePoints htx, trivial⟩
  | credit _ htx => exact ⟨h.moveMoney hlib hcents htx, trivial⟩
  | debit _ htx => exact ⟨h.moveMoney hlib hcents htx, trivial⟩
  | rewardReferrer _ htx =>
      exact ⟨h.moveMoney hlib hcents.1 htx, rewardsPaid_inCents hcents _ _⟩
  | rewardReferred _ _ htx =>
      exact ⟨h.moveMoney hlib hcents.2 htx, rewardsPaid_inCents hcents _ _⟩
  | referrerRefused | referredRefused => exact ⟨h, rewardsPaid_inCents hcents _ _⟩
  | tierWrite => exact ⟨h.setTier _ _, trivial⟩
  | useCoupon => exact ⟨h.useCoupon _ _ _ _, trivial⟩
  | addReferral => exact ⟨⟨h.points, h.wallet, h.coupons⟩, trivial⟩
  | readBalance | rewardSettings => exact ⟨h, hcents⟩
  | tierRead | tierSettings | readPoints | findCoupon | stop => exact ⟨h, trivial⟩

end Step

/-! ## Whole runs -/

/-- **The ledgers balance.**  Any number of calls of the service, with amounts of at most
two decimals, interleave in any way, and any of their transactions may be rolled back.  In
every reachable state the points, the wallets and the uses of the coupons are what they
were at the start plus what has been entered since, and every row of the wallet shows the
balance that the rows of its user up to it lead to. -/
theorem ledgers_balance {ι : Type} [DecidableEq ι] (lib : LoyaltyLib) (hlib : lib.KeepsCents)
    (calls : ι → LoyaltyCall) (hcents : ∀ i, (calls i).InCents) (store : LoyaltyStore)
    (c : LoyaltyConfig ι)
    (h : Reach (loyaltySystem lib) (fun _ _ => True) (loyaltyStart calls store) c) :
    LedgersBalance store c.shared := by
  refine (interleave_assertions (I := LedgersBalance store) (K := fun _ _ pc => pc.InCents)
    (.refl store) (fun i => (hcents i).entry) (fun c i turn store' pc' hI hK _ hact => ?_)
    (fun _ e _ _ _ _ _ => e.elim) h).1
  obtain ⟨hledgers, hself⟩ := hI.step hlib (hK i) (loyaltyStep_cases hact)
  exact ⟨hledgers, hself, fun j _ => hK j⟩

namespace Demo

theorem loyaltyLib_keepsCents : loyaltyLib.KeepsCents := by
  have hround : ∀ q : ℚ, IsCents q → (roundAway (q * 100) : ℚ) / 100 = q := by
    rintro q ⟨n, hn⟩
    have hn' : q * 100 = n := by
      rw [← hn]
      norm_num
    rw [hn', roundAway_intCast, ← hn', mul_div_assoc, div_self (by norm_num), mul_one]
  exact ⟨hround, hround⟩

/-- A user spends money and points and receives money. -/
def spree : Fin 3 → LoyaltyCall
  | 0 => .debitWallet 0 300 "Réservation"
  | 1 => .creditWallet 0 (401 / 2) "Remboursement" none
  | 2 => .spendPoints 0 7 50

theorem spree_inCents : ∀ i, (spree i).InCents
  | 0 => show IsCents 300 from ⟨30000, by norm_num⟩
  | 1 => show IsCents (401 / 2) from ⟨20050, by norm_num⟩
  | 2 => trivial

/-- The next call that the call `i` awaits returns. -/
def nextTurn {n : ℕ} (i : Fin n) : LoyaltyMove (Fin n) := .process i ⟨.succeeds 0, false⟩

/-- The next call that the call `i` awaits is rejected. -/
def failTurn {n : ℕ} (i : Fin n) : LoyaltyMove (Fin n) := .process i ⟨.fails, false⟩

/-- What a user has: points, and money in hundredths. -/
def holdings (store : LoyaltyStore) (userId : UserId) : Option (ℤ × ℤ) :=
  store.users[userId]?.map fun u => (u.loyaltyPoints, u.walletBalance.units)

end Demo

/-- The money arrives between the two steps of the debit; the points are not spent, as the
transaction is rolled back. -/
theorem ledgers_balance_spree : ∃ c : LoyaltyConfig (Fin 3),
    Reach (loyaltySystem Demo.loyaltyLib) (fun _ _ => True)
      (loyaltyStart Demo.spree (Demo.oneMember 80 ⟨50000, by decide⟩)) c ∧
    Demo.holdings c.shared 0 = some (80, 40050) ∧
    LedgersBalance (Demo.oneMember 80 ⟨50000, by decide⟩) c.shared := by
  have hrun : (replay (loyaltySystem Demo.loyaltyLib)
      (loyaltyStart Demo.spree (Demo.oneMember 80 ⟨50000, by decide⟩))
      [Demo.nextTurn 0, Demo.nextTurn 2, Demo.nextTurn 1, Demo.nextTurn 0, Demo.failTurn 2]).map
      (fun c => Demo.holdings c.shared 0) = some (some (80, 40050)) := by
    decide +kernel
  obtain ⟨c, hreach, hholdings⟩ := exists_reach_of_unguarded hrun
  exact ⟨c, hreach, hholdings, ledgers_balance Demo.loyaltyLib Demo.loyaltyLib_keepsCents
    Demo.spree Demo.spree_inCents _ c hreach⟩

/-- **A debit of half a hundredth is entered and not made.**  The wallet rounds 0.995 back
to 1, the ledger rounds 0.005 to 0.01. -/
theorem small_debit_unbalanced :
    ¬ ∀ c : LoyaltyConfig (Fin 1), Reach (loyaltySystem Demo.loyaltyLib) (fun _ _ => True)
      (loyaltyStart (fun _ => .debitWallet 0 (1 / 200) "Réservation")
        (Demo.oneMember 0 ⟨100, by decide⟩)) c →
      LedgersBalance (Demo.oneMember 0 ⟨100, by decide⟩) c.shared := by
  intro h
  have hrun : (replay (loyaltySystem Demo.loyaltyLib)
      (loyaltyStart (fun _ => .debitWallet 0 (1 / 200) "Réservation")
        (Demo.oneMember 0 ⟨100, by decide⟩))
      [Demo.nextTurn (0 : Fin 1), Demo.nextTurn 0]).map
      (fun c => (c.shared.users, c.shared.walletTransactions)) =
      some ([Demo.member 0 ⟨100, by decide⟩],
        [⟨0, .debit, 1 / 100, 1, "Réservation", none⟩]) := by
    decide +kernel
  obtain ⟨c, hreach, hstate⟩ := exists_reach_of_unguarded hrun
  obtain ⟨husers, hrows⟩ := Prod.mk.inj hstate
  obtain ⟨rows, hrows', hbalanced, -⟩ := (h c hreach).wallet
  obtain rfl := hrows.symm.trans hrows'
  have hmember : c.shared.users[0]? = some (Demo.member 0 ⟨100, by decide⟩) := by
    rw [husers]
    rfl
  obtain ⟨row₀, hstart, htotal⟩ := hbalanced 0 _ hmember
  obtain rfl : Demo.member 0 ⟨100, by decide⟩ = row₀ := Option.some.inj hstart
  have hposted : walletPosting.posted
      [⟨0, .debit, 1 / 100, 1, "Réservation", none⟩] 0 = -(1 / 100) := by
    decide +kernel
  rw [hposted] at htotal
  norm_num at htotal

end StayRide
