import StayRide.Auth.Store
import StayRide.Common.Store

/-!
# `LoyaltyService`: points, wallet, referrals and coupons

The tables of the loyalty side, and the methods that work on them.  Points and wallet
are columns of `users`; each has a ledger (`loyalty_transactions`,
`wallet_transactions`) that is written in the transaction that changes the column.

A transaction is a function to `Option LoyaltyStore`: the store it commits, or `none`
when it is rolled back.  The methods are made of transactions and of reads before them;
how their awaits interleave is the subject of `StayRide.Loyalty.Concurrent`.

The tables other than `users` are not declared in the repository.  What depends on the
types of their columns enters as the fields of `LoyaltyLib`; the columns `status`,
`reward_type`, `rewarded_at`, `created_at` and `used_at`, which no method reads, are left
out.
-/

namespace StayRide

open Lib

abbrev CouponId := ℕ

/-! ## Tables -/

inductive LoyaltyTransactionType
  | earn | spend
  deriving DecidableEq, Repr

/-- A row of `loyalty_transactions`. -/
structure LoyaltyTransaction where
  userId : UserId
  type : LoyaltyTransactionType
  points : ℤ
  reason : String
  bookingId : BookingId
  deriving DecidableEq

inductive WalletTransactionType
  | credit | debit
  deriving DecidableEq, Repr

/-- A row of `wallet_transactions`. -/
structure WalletTransaction where
  userId : UserId
  type : WalletTransactionType
  amount : ℚ
  balanceAfter : ℚ
  reason : String
  bookingId : Option BookingId
  deriving DecidableEq

/-- The types of coupons that the code distinguishes. -/
inductive CouponType
  | percentage | other
  deriving DecidableEq, Repr

/-- A row of `coupons`. -/
structure Coupon where
  code : String
  isActive : Bool
  validFrom : Option Time
  validUntil : Option Time
  maxUses : Option ℤ
  usedCount : ℤ
  maxUsesPerUser : Option ℤ
  minBookingAmt : Option ℚ
  type : CouponType
  value : ℚ
  maxDiscountAmt : Option ℚ
  deriving DecidableEq

/-- A row of `coupon_usages`. -/
structure CouponUsage where
  couponId : CouponId
  userId : UserId
  bookingId : BookingId
  discountApplied : ℚ
  deriving DecidableEq

/-- A row of `referrals`. -/
structure Referral where
  referrerId : UserId
  referredId : UserId
  referrerReward : ℚ
  referredReward : ℚ
  deriving DecidableEq

/-- Everything the loyalty side stores. -/
structure LoyaltyStore where
  users : Table User
  loyaltyTransactions : List LoyaltyTransaction
  walletTransactions : List WalletTransaction
  coupons : Table Coupon
  couponUsages : List CouponUsage
  referrals : List Referral
  deriving DecidableEq

/-- What depends on the language and on columns that the repository does not declare. -/
structure LoyaltyLib where
  toUpperCase : String → String
  /-- What the column `amount` of `wallet_transactions` makes of a number. -/
  amountColumn : ℚ → ℚ
  /-- What the column `balance_after` of `wallet_transactions` makes of a number. -/
  balanceColumn : ℚ → ℚ
  /-- Whether `max_uses_per_user`, as the driver returns it, counts as true: a number
  does unless it is zero, a text does unless it is empty. -/
  countIsTrue : ℤ → Bool
  /-- Whether `min_booking_amt` and `max_discount_amt`, as the driver returns them, count
  as true. -/
  amountIsTrue : ℚ → Bool
  /-- The text of `min_booking_amt` in a message. -/
  amountText : ℚ → String

/-- A call of the loyalty service. -/
abbrev Loyalty (α : Type) := ServiceM LoyaltyStore α

/-! ## Transactions -/

/-- A number on its way into a column `integer`: refused unless it is whole and has at
most 32 bits. -/
def toInteger (q : ℚ) : Option ℤ :=
  if q.den = 1 ∧ -2 ^ 31 ≤ q.num ∧ q.num < 2 ^ 31 then some q.num else none

theorem toInteger_eq_some {q : ℚ} {n : ℤ} (h : toInteger q = some n) : q = n := by
  obtain ⟨hwhole, hn⟩ := Option.ite_none_right_eq_some.mp h
  rw [← Option.some.inj hn]
  exact (Rat.coe_int_num_of_den_eq_one hwhole.1).symm

/-- The change of `loyalty_points` that a row stands for. -/
def LoyaltyTransactionType.signed : LoyaltyTransactionType → ℤ → ℤ
  | .earn, points => points
  | .spend, points => -points

/-- The change of `wallet_balance` that a row stands for. -/
def WalletTransactionType.signed : WalletTransactionType → ℚ → ℚ
  | .credit, amount => amount
  | .debit, amount => -amount

def User.withPoints (points : ℤ) (u : User) : User :=
  { u with loyaltyPoints := points }

def User.withBalance (balance : Amount) (u : User) : User :=
  { u with walletBalance := balance }

def User.withTier (tier : LoyaltyTier) (u : User) : User :=
  { u with loyaltyTier := tier }

def Coupon.usedAgain (c : Coupon) : Coupon :=
  { c with usedCount := c.usedCount + 1 }

namespace LoyaltyStore

variable (lib : LoyaltyLib) (store : LoyaltyStore)

/-- The transactions of `earnPoints` and `spendPoints`: change the points and enter the
change.  An unknown user is not noticed. -/
def movePoints (type : LoyaltyTransactionType) (reason : String) (userId : UserId)
    (bookingId : BookingId) (points : ℚ) : Option LoyaltyStore := do
  let points ← toInteger points
  let users ← store.users.tryUpdateById userId fun u =>
    (toInteger (u.loyaltyPoints + type.signed points)).map fun total => u.withPoints total
  some { store with
    users := users
    loyaltyTransactions :=
      store.loyaltyTransactions ++ [⟨userId, type, points, reason, bookingId⟩] }

/-- The transactions of `creditWallet` and `debitWallet`: change the balance, read it
back, and enter the change.  Reading back the balance of an unknown user throws. -/
def moveMoney (type : WalletTransactionType) (userId : UserId) (amount : ℚ) (reason : String)
    (bookingId : Option BookingId) : Option LoyaltyStore := do
  let users ← store.users.tryUpdateById userId fun u =>
    (Decimal.ofRat (u.walletBalance.toRat + type.signed amount)).map fun balance =>
      u.withBalance balance
  let user ← users[userId]?
  some { store with
    users := users
    walletTransactions :=
      store.walletTransactions ++ [⟨userId, type, lib.amountColumn amount,
        lib.balanceColumn user.walletBalance.toRat, reason, bookingId⟩] }

/-- The transaction of `applyCoupon`. -/
def useCoupon (couponId : CouponId) (userId : UserId) (bookingId : BookingId)
    (discount : ℚ) : LoyaltyStore :=
  { store with
    couponUsages := store.couponUsages ++ [⟨couponId, userId, bookingId, discount⟩]
    coupons := store.coupons.updateById couponId Coupon.usedAgain }

def setTier (userId : UserId) (tier : LoyaltyTier) : LoyaltyStore :=
  { store with users := store.users.updateById userId (User.withTier tier) }

def addReferral (referral : Referral) : LoyaltyStore :=
  { store with referrals := store.referrals ++ [referral] }

/-- The rows of `coupon_usages` of a coupon and a user. -/
def usages (couponId : CouponId) (userId : UserId) : ℕ :=
  store.couponUsages.countP fun usage => usage.couponId = couponId && usage.userId = userId

variable {lib store} {store' : LoyaltyStore}

/-- **What a transaction on points does**: it enters a whole number of points, and a user
that exists has that much more or less. -/
theorem movePoints_eq_some {type : LoyaltyTransactionType} {reason : String} {userId : UserId}
    {bookingId : BookingId} {points : ℚ}
    (h : store.movePoints type reason userId bookingId points = some store') :
    ∃ n users, points = (n : ℤ) ∧
      store' = { store with
        users := users
        loyaltyTransactions :=
          store.loyaltyTransactions ++ [⟨userId, type, n, reason, bookingId⟩] } ∧
      ((store.users[userId]? = none ∧ users = store.users) ∨
        ∃ u, store.users[userId]? = some u ∧ users = store.users.updateById userId
          fun _ => u.withPoints (u.loyaltyPoints + type.signed n)) := by
  simp only [movePoints, Option.bind_eq_bind, Option.bind_eq_some_iff, Option.some.injEq] at h
  obtain ⟨n, hn, users, husers, rfl⟩ := h
  refine ⟨n, users, toInteger_eq_some hn, rfl, ?_⟩
  rcases Table.tryUpdateById_eq_some husers with hnone | ⟨u, u', hu, hu', rfl⟩
  · exact Or.inl hnone
  · obtain ⟨total, htotal, rfl⟩ := Option.map_eq_some_iff.mp hu'
    have hsum := toInteger_eq_some htotal
    rw [← Int.cast_add, Int.cast_inj] at hsum
    exact Or.inr ⟨u, hu, by rw [hsum]⟩

/-- **What a transaction on a wallet does**: the user exists, has the rounded new balance,
and the row shows it. -/
theorem moveMoney_eq_some {type : WalletTransactionType} {userId : UserId} {amount : ℚ}
    {reason : String} {bookingId : Option BookingId}
    (h : store.moveMoney lib type userId amount reason bookingId = some store') :
    ∃ u balance, store.users[userId]? = some u ∧
      Decimal.ofRat (u.walletBalance.toRat + type.signed amount) = some balance ∧
      store' = { store with
        users := store.users.updateById userId fun _ => u.withBalance balance
        walletTransactions :=
          store.walletTransactions ++ [⟨userId, type, lib.amountColumn amount,
            lib.balanceColumn balance.toRat, reason, bookingId⟩] } := by
  simp only [moveMoney, Option.bind_eq_bind, Option.bind_eq_some_iff, Option.some.injEq] at h
  obtain ⟨users, husers, user, huser, rfl⟩ := h
  rcases Table.tryUpdateById_eq_some husers with ⟨hnone, rfl⟩ | ⟨u, u', hu, hu', rfl⟩
  · rw [hnone] at huser
    cases huser
  · obtain ⟨balance, hbalance, rfl⟩ := Option.map_eq_some_iff.mp hu'
    obtain ⟨row, -, hrow⟩ := Table.getElem?_updateById_eq_some.mp huser
    rw [if_pos rfl] at hrow
    exact ⟨u, balance, hu, hbalance, by rw [← hrow]; rfl⟩

end LoyaltyStore

/-- `dataSource.transaction`: commit, or roll back and throw. -/
def transaction (tx : LoyaltyStore → Option LoyaltyStore) : Loyalty Unit := do
  match tx (← get) with
  | some store => set store
  | none => throw .queryFailed

/-! ## Points -/

/-- `value || fallback`, for a number that may be missing. -/
def orElse (value : Option ℚ) (fallback : ℚ) : ℚ :=
  match value with
  | some q => if q = 0 then fallback else q
  | none => fallback

/-- The setting `loyalty_tier_thresholds`. -/
structure TierThresholds where
  silver : Option ℚ
  gold : Option ℚ
  platinum : Option ℚ
  deriving DecidableEq

/-- The tier that `updateTier` computes. -/
def tierFor (settings : TierThresholds) (points : ℤ) : LoyaltyTier :=
  if orElse settings.platinum 5000 ≤ points then .platinum
  else if orElse settings.gold 2000 ≤ points then .gold
  else if orElse settings.silver 500 ≤ points then .silver
  else .bronze

def updateTier (settings : TierThresholds) (userId : UserId) : Loyalty Unit := do
  match (← get).users[userId]? with
  | none => return
  | some user => modify fun store => store.setTier userId (tierFor settings user.loyaltyPoints)

/-- 1 point for 1000 XAF. -/
def calculateLoyaltyPoints (amount : ℚ) : ℤ :=
  ⌊amount / 1000⌋

/-- The transaction of `earnPoints`. -/
def LoyaltyStore.earn (store : LoyaltyStore) (userId : UserId) (bookingId : BookingId)
    (points : ℚ) : Option LoyaltyStore :=
  store.movePoints .earn "Réservation complétée" userId bookingId points

/-- The transaction of `spendPoints`. -/
def LoyaltyStore.spend (store : LoyaltyStore) (userId : UserId) (bookingId : BookingId)
    (points : ℚ) : Option LoyaltyStore :=
  store.movePoints .spend "Utilisé pour réservation" userId bookingId points

def earnPoints (settings : TierThresholds) (userId : UserId) (bookingId : BookingId)
    (amount : ℚ) : Loyalty Unit := do
  let points := calculateLoyaltyPoints amount
  if points ≤ 0 then return
  transaction fun store => store.earn userId bookingId points
  updateTier settings userId

/-- A call of `earnPoints` that is not refused enters the points, if there are any. -/
theorem earnPoints_rows {settings : TierThresholds} {userId : UserId} {bookingId : BookingId}
    {amount : ℚ} {store : LoyaltyStore}
    (h : (earnPoints settings userId bookingId amount).succeeds store = true) :
    ((earnPoints settings userId bookingId amount).storeAfter store).loyaltyTransactions =
      store.loyaltyTransactions ++
        if calculateLoyaltyPoints amount ≤ 0 then []
        else [⟨userId, .earn, calculateLoyaltyPoints amount, "Réservation complétée",
          bookingId⟩] := by
  unfold ServiceM.succeeds at h
  unfold ServiceM.storeAfter
  by_cases hfew : calculateLoyaltyPoints amount ≤ 0
  · simp [earnPoints, hfew]
  · cases htx : store.earn userId bookingId (calculateLoyaltyPoints amount) with
    | none => simp [earnPoints, transaction, hfew, htx] at h
    | some store' =>
        obtain ⟨n, users, hn, rfl, -⟩ := LoyaltyStore.movePoints_eq_some htx
        rw [Int.cast_inj] at hn
        subst hn
        cases hu : users[userId]? with
        | none => simp [earnPoints, transaction, updateTier, hfew, htx, hu]
        | some user =>
            simp [earnPoints, transaction, updateTier, hfew, htx, hu, LoyaltyStore.setTier]

/-- The listener of `booking.completed`. -/
def earnPointsOnCompletion (settings : TierThresholds) (bookingId : BookingId)
    (booking : Booking) : Loyalty Unit :=
  earnPoints settings booking.customerId bookingId booking.totalAmount.toRat

/-- Returns the discount: 100 points are 1000 XAF. -/
def spendPoints (userId : UserId) (bookingId : BookingId) (points : ℚ) : Loyalty ℚ := do
  let discount := points * 10
  match (← get).users[userId]? with
  | none => throw (.badRequest "Points insuffisants")
  | some user =>
      if user.loyaltyPoints < points then throw (.badRequest "Points insuffisants")
      transaction fun store => store.spend userId bookingId points
      return discount

/-- The threshold above the points, by a cascade of its own. -/
def getNextTierThreshold (points : ℤ) (thresholds : TierThresholds) : Option ℚ :=
  if points < orElse thresholds.silver 500 then some (orElse thresholds.silver 500)
  else if points < orElse thresholds.gold 2000 then some (orElse thresholds.gold 2000)
  else if points < orElse thresholds.platinum 5000 then some (orElse thresholds.platinum 5000)
  else none

/-- What `getUserLoyalty` returns. -/
structure UserLoyalty where
  points : ℤ
  tier : LoyaltyTier
  walletBalance : Amount
  transactions : List LoyaltyTransaction
  tiers : TierThresholds
  nextTierPoints : Option ℚ
  deriving DecidableEq

/-- The rows are kept in the order of `created_at`, so the latest ones are the last. -/
def getUserLoyalty (settings : TierThresholds) (userId : UserId) : Loyalty UserLoyalty := do
  let store ← get
  match store.users[userId]? with
  | none => throw (.notFound "Utilisateur introuvable")
  | some user =>
      return {
        points := user.loyaltyPoints
        tier := user.loyaltyTier
        walletBalance := user.walletBalance
        transactions :=
          ((store.loyaltyTransactions.filter (·.userId = userId)).reverse).take 20
        tiers := settings
        nextTierPoints := getNextTierThreshold user.loyaltyPoints settings }

/-! ## Wallet -/

/-- The transaction of `creditWallet`. -/
def LoyaltyStore.credit (lib : LoyaltyLib) (store : LoyaltyStore) (userId : UserId)
    (amount : ℚ) (reason : String) (bookingId : Option BookingId) : Option LoyaltyStore :=
  store.moveMoney lib .credit userId amount reason bookingId

/-- The transaction of `debitWallet`; its rows have no booking. -/
def LoyaltyStore.debit (lib : LoyaltyLib) (store : LoyaltyStore) (userId : UserId)
    (amount : ℚ) (reason : String) : Option LoyaltyStore :=
  store.moveMoney lib .debit userId amount reason none

section Wallet

variable (lib : LoyaltyLib)

def creditWallet (userId : UserId) (amount : ℚ) (reason : String)
    (bookingId : Option BookingId) : Loyalty Unit :=
  transaction fun store => store.credit lib userId amount reason bookingId

def debitWallet (userId : UserId) (amount : ℚ) (reason : String) : Loyalty Unit := do
  match (← get).users[userId]? with
  | none => throw (.badRequest "Solde du portefeuille insuffisant")
  | some user =>
      if user.walletBalance.toRat < amount then
        throw (.badRequest "Solde du portefeuille insuffisant")
      transaction fun store => store.debit lib userId amount reason

/-! ## Referrals -/

/-- The settings `referral_reward_referrer` and `referral_reward_referred`. -/
structure ReferralSettings where
  referrer : Option ℚ
  referred : Option ℚ
  deriving DecidableEq

/-- The row that `processReferral` inserts, with the rewards that it pays. -/
def ReferralSettings.referral (settings : ReferralSettings) (referrerId referredId : UserId) :
    Referral :=
  ⟨referrerId, referredId, orElse settings.referrer 5000, orElse settings.referred 2500⟩

/-- The first of the two transactions of `processReferral`. -/
def LoyaltyStore.rewardReferrer (store : LoyaltyStore) (r : Referral) : Option LoyaltyStore :=
  store.credit lib r.referrerId r.referrerReward "Bonus de parrainage" none

/-- The second of the two transactions of `processReferral`. -/
def LoyaltyStore.rewardReferred (store : LoyaltyStore) (r : Referral) : Option LoyaltyStore :=
  store.credit lib r.referredId r.referredReward "Bienvenue — bonus parrainage" none

/-- The two rewards are paid by transactions that run side by side (`Promise.all`): both
run, whether or not the other one is rolled back.  Here the first commits first. -/
def processReferral (settings : ReferralSettings) (referrerId referredId : UserId) :
    Loyalty Unit := do
  let referral := settings.referral referrerId referredId
  let store ← get
  let first := store.rewardReferrer lib referral
  let second := (first.getD store).rewardReferred lib referral
  set (second.getD (first.getD store))
  if first.isNone || second.isNone then throw .queryFailed
  modify fun store => store.addReferral referral

end Wallet

/-! ## Coupons -/

/-- The `WHERE` clause of `validateCoupon`. -/
def Coupon.isOpen (code : String) (now : Time) (c : Coupon) : Bool :=
  c.code = code && c.isActive && c.validFrom.all (· ≤ now) && c.validUntil.all (now ≤ ·) &&
    c.maxUses.all (c.usedCount < ·)

/-- The cap for a single user, where the code looks at it. -/
def Coupon.userCap (lib : LoyaltyLib) (c : Coupon) : Option ℤ :=
  c.maxUsesPerUser.filter lib.countIsTrue

/-- The answer of `validateCoupon`. -/
structure CouponCheck where
  valid : Bool
  discount : ℚ
  message : Option String
  deriving DecidableEq

def CouponCheck.refused (message : String) : CouponCheck :=
  ⟨false, 0, some message⟩

/-- The discount of a coupon that is valid. -/
def Coupon.discount (lib : LoyaltyLib) (bookingAmount : ℚ) (c : Coupon) : ℚ :=
  let discount := match c.type with
    | .percentage => (round (bookingAmount * (c.value / 100)) : ℚ)
    | .other => c.value
  match c.maxDiscountAmt.filter lib.amountIsTrue with
  | some most => min discount most
  | none => discount

/-- The end of `validateCoupon`: the least amount, and the discount. -/
def Coupon.price (lib : LoyaltyLib) (bookingAmount : ℚ) (c : Coupon) : CouponCheck :=
  match c.minBookingAmt.filter lib.amountIsTrue with
  | some least =>
      if bookingAmount < least then
        .refused ("Montant minimum requis: " ++ lib.amountText least ++ " XAF")
      else ⟨true, c.discount lib bookingAmount, none⟩
  | none => ⟨true, c.discount lib bookingAmount, none⟩

def validateCoupon (lib : LoyaltyLib) (code : String) (userId : UserId) (bookingAmount : ℚ)
    (now : Time) : Loyalty CouponCheck := do
  let store ← get
  match store.coupons.findWhere (Coupon.isOpen (lib.toUpperCase code) now) with
  | none => return .refused "Code promo invalide ou expiré"
  | some (couponId, c) =>
      match c.userCap lib with
      | some cap =>
          if cap ≤ store.usages couponId userId then
            return .refused "Vous avez déjà utilisé ce code"
          return c.price lib bookingAmount
      | none => return c.price lib bookingAmount

def applyCoupon (lib : LoyaltyLib) (code : String) (userId : UserId) (bookingId : BookingId)
    (discount : ℚ) : Loyalty Unit := do
  match (← get).coupons.findWhere (fun c => c.code = lib.toUpperCase code) with
  | none => return
  | some (couponId, _) =>
      transaction fun store => some (store.useCoupon couponId userId bookingId discount)

end StayRide
