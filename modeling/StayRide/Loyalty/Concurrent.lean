import StayRide.Lib.Interleaving
import StayRide.Loyalty.Service

/-!
# `LoyaltyService`, step by step

The methods of the loyalty service as processes that interleave at their awaits.  A
`dataSource.transaction` is one step, which commits or is rolled back; every other
awaited statement is a step of its own; any of them may be rejected.  `processReferral`
runs its two transactions side by side, in either order.

A program point is named after the await that comes next, and holds what the method
knows there: its arguments, and what it has read.  The settings a call reads are part of
its arguments, since it reads them once.

`loyaltyStep_cases` says once what a step can do.  `loyalty_alone` connects the steps
with the methods.
-/

namespace StayRide

open Lib

/-- A call, with the settings that it will read. -/
inductive LoyaltyCall
  | earnPoints (settings : TierThresholds) (userId : UserId) (bookingId : BookingId) (amount : ℚ)
  | spendPoints (userId : UserId) (bookingId : BookingId) (points : ℚ)
  | creditWallet (userId : UserId) (amount : ℚ) (reason : String) (bookingId : Option BookingId)
  | debitWallet (userId : UserId) (amount : ℚ) (reason : String)
  | processReferral (settings : ReferralSettings) (referrerId referredId : UserId)
  | applyCoupon (code : String) (userId : UserId) (bookingId : BookingId) (discount : ℚ)

/-- The method that is called; only `spendPoints` returns something. -/
def LoyaltyCall.method (lib : LoyaltyLib) : LoyaltyCall → Loyalty (Option ℚ)
  | .earnPoints settings userId bookingId amount =>
      (fun _ => none) <$> StayRide.earnPoints settings userId bookingId amount
  | .spendPoints userId bookingId points =>
      some <$> StayRide.spendPoints userId bookingId points
  | .creditWallet userId amount reason bookingId =>
      (fun _ => none) <$> StayRide.creditWallet lib userId amount reason bookingId
  | .debitWallet userId amount reason =>
      (fun _ => none) <$> StayRide.debitWallet lib userId amount reason
  | .processReferral settings referrerId referredId =>
      (fun _ => none) <$> StayRide.processReferral lib settings referrerId referredId
  | .applyCoupon code userId bookingId discount =>
      (fun _ => none) <$> StayRide.applyCoupon lib code userId bookingId discount

/-- Where a call is: before the await of this name, or finished. -/
inductive LoyaltyPc
  | earn (settings : TierThresholds) (userId : UserId) (bookingId : BookingId) (points : ℤ)
  | tierRead (settings : TierThresholds) (userId : UserId)
  | tierSettings (settings : TierThresholds) (userId : UserId) (points : ℤ)
  | tierWrite (userId : UserId) (tier : LoyaltyTier)
  | readPoints (userId : UserId) (bookingId : BookingId) (points : ℚ)
  /-- The user had `read` points. -/
  | spend (userId : UserId) (bookingId : BookingId) (points : ℚ) (read : ℤ)
  | credit (userId : UserId) (amount : ℚ) (reason : String) (bookingId : Option BookingId)
  | readBalance (userId : UserId) (amount : ℚ) (reason : String)
  /-- The wallet held `read`. -/
  | debit (userId : UserId) (amount : ℚ) (reason : String) (read : ℚ)
  | rewardSettings (referral : Referral)
  /-- Of each of the two transactions, whether it has ended and has committed. -/
  | rewards (referral : Referral) (first second : Option Bool)
  | addReferral (referral : Referral)
  | findCoupon (code : String) (userId : UserId) (bookingId : BookingId) (discount : ℚ)
  | useCoupon (couponId : CouponId) (userId : UserId) (bookingId : BookingId) (discount : ℚ)
  | done (result : Except HttpException (Option ℚ))

/-- The first await of a call. -/
def LoyaltyCall.entry : LoyaltyCall → LoyaltyPc
  | .earnPoints settings userId bookingId amount =>
      if calculateLoyaltyPoints amount ≤ 0 then .done (.ok none)
      else .earn settings userId bookingId (calculateLoyaltyPoints amount)
  | .spendPoints userId bookingId points => .readPoints userId bookingId points
  | .creditWallet userId amount reason bookingId => .credit userId amount reason bookingId
  | .debitWallet userId amount reason => .readBalance userId amount reason
  | .processReferral settings referrerId referredId =>
      .rewardSettings (settings.referral referrerId referredId)
  | .applyCoupon code userId bookingId discount => .findCoupon code userId bookingId discount

/-- How the awaited call ends, and which of two transactions that run side by side is
the next to end. -/
structure Turn where
  attempt : Attempt
  second : Bool := false

/-- Where `processReferral` is when its transactions have ended as given. -/
def rewardsPaid (referral : Referral) : Option Bool → Option Bool → LoyaltyPc
  | some true, some true => .addReferral referral
  | some _, some _ => .done (.error .queryFailed)
  | first, second => .rewards referral first second

/-- What holds wherever the two rewards can lead. -/
theorem rewardsPaid_of {P : LoyaltyPc → Prop} {r : Referral} (hboth : P (.addReferral r))
    (hfailed : P (.done (.error .queryFailed)))
    (hopen : ∀ first second, P (.rewards r first second)) (first second : Option Bool) :
    P (rewardsPaid r first second) := by
  unfold rewardsPaid
  split
  · exact hboth
  · exact hfailed
  · exact hopen _ _

section Steps

variable (lib : LoyaltyLib)

/-- A transaction is awaited: it commits, or it is rolled back and the call throws. -/
def awaitCommit (attempt : Attempt) (store : LoyaltyStore) (tx : Option LoyaltyStore)
    (next : LoyaltyPc) : LoyaltyStore × LoyaltyPc :=
  match attempt, tx with
  | .succeeds _, some store' => (store', next)
  | _, _ => (store, .done (.error .queryFailed))

/-- A statement that only reads is awaited. -/
def awaitRead (attempt : Attempt) (store : LoyaltyStore) (next : LoyaltyPc) :
    LoyaltyStore × LoyaltyPc :=
  awaitCommit attempt store (some store) next

/-- One of the two transactions of `processReferral` ends; the other one goes on. -/
def awaitReward (turn : Turn) (store : LoyaltyStore) (r : Referral)
    (first second : Option Bool) : LoyaltyStore × LoyaltyPc :=
  let isSecond := first.isSome || (second.isNone && turn.second)
  let tx := if isSecond then store.rewardReferred lib r else store.rewardReferrer lib r
  match turn.attempt, tx with
  | .succeeds _, some store' =>
      (store', if isSecond then rewardsPaid r first (some true)
        else rewardsPaid r (some true) second)
  | _, _ =>
      (store, if isSecond then rewardsPaid r first (some false)
        else rewardsPaid r (some false) second)

/-- One step of a call. -/
def loyaltyStep (turn : Turn) (store : LoyaltyStore) :
    LoyaltyPc → Option (LoyaltyStore × LoyaltyPc)
  | .earn settings userId bookingId points => some <|
      awaitCommit turn.attempt store (store.earn userId bookingId points)
        (.tierRead settings userId)
  | .tierRead settings userId => some <| awaitRead turn.attempt store <|
      match store.users[userId]? with
      | none => .done (.ok none)
      | some user => .tierSettings settings userId user.loyaltyPoints
  | .tierSettings settings userId points => some <|
      awaitRead turn.attempt store (.tierWrite userId (tierFor settings points))
  | .tierWrite userId tier => some <|
      awaitCommit turn.attempt store (some (store.setTier userId tier)) (.done (.ok none))
  | .readPoints userId bookingId points => some <| awaitRead turn.attempt store <|
      match store.users[userId]? with
      | none => .done (.error (.badRequest "Points insuffisants"))
      | some user =>
          if user.loyaltyPoints < points then .done (.error (.badRequest "Points insuffisants"))
          else .spend userId bookingId points user.loyaltyPoints
  | .spend userId bookingId points _ => some <|
      awaitCommit turn.attempt store (store.spend userId bookingId points)
        (.done (.ok (some (points * 10))))
  | .credit userId amount reason bookingId => some <|
      awaitCommit turn.attempt store (store.credit lib userId amount reason bookingId)
        (.done (.ok none))
  | .readBalance userId amount reason => some <| awaitRead turn.attempt store <|
      match store.users[userId]? with
      | none => .done (.error (.badRequest "Solde du portefeuille insuffisant"))
      | some user =>
          if user.walletBalance.toRat < amount then
            .done (.error (.badRequest "Solde du portefeuille insuffisant"))
          else .debit userId amount reason user.walletBalance.toRat
  | .debit userId amount reason _ => some <|
      awaitCommit turn.attempt store (store.debit lib userId amount reason) (.done (.ok none))
  | .rewardSettings r => some <| awaitRead turn.attempt store (.rewards r none none)
  | .rewards r first second => some <| awaitReward lib turn store r first second
  | .addReferral r => some <|
      awaitCommit turn.attempt store (some (store.addReferral r)) (.done (.ok none))
  | .findCoupon code userId bookingId discount => some <| awaitRead turn.attempt store <|
      match store.coupons.findWhere (fun c => c.code = lib.toUpperCase code) with
      | none => .done (.ok none)
      | some (couponId, _) => .useCoupon couponId userId bookingId discount
  | .useCoupon couponId userId bookingId discount => some <|
      awaitCommit turn.attempt store
        (some (store.useCoupon couponId userId bookingId discount)) (.done (.ok none))
  | .done _ => none

/-- What a step can do, with what it found. -/
inductive LoyaltyStep (attempt : Attempt) (store : LoyaltyStore) :
    LoyaltyPc → LoyaltyStore → LoyaltyPc → Prop
  | earn {settings : TierThresholds} {userId : UserId} {bookingId : BookingId} {points : ℤ}
      {store' : LoyaltyStore} (ha : attempt ≠ .fails)
      (h : store.earn userId bookingId points = some store') :
      LoyaltyStep attempt store (.earn settings userId bookingId points) store'
        (.tierRead settings userId)
  | tierRead {settings : TierThresholds} {userId : UserId} {user : User}
      (hu : store.users[userId]? = some user) :
      LoyaltyStep attempt store (.tierRead settings userId) store
        (.tierSettings settings userId user.loyaltyPoints)
  | tierSettings {settings : TierThresholds} {userId : UserId} {points : ℤ} :
      LoyaltyStep attempt store (.tierSettings settings userId points) store
        (.tierWrite userId (tierFor settings points))
  | tierWrite {userId : UserId} {tier : LoyaltyTier} (ha : attempt ≠ .fails) :
      LoyaltyStep attempt store (.tierWrite userId tier) (store.setTier userId tier)
        (.done (.ok none))
  | readPoints {userId : UserId} {bookingId : BookingId} {points : ℚ} {user : User}
      (hu : store.users[userId]? = some user) (h : points ≤ user.loyaltyPoints) :
      LoyaltyStep attempt store (.readPoints userId bookingId points) store
        (.spend userId bookingId points user.loyaltyPoints)
  | spend {userId : UserId} {bookingId : BookingId} {points : ℚ} {read : ℤ}
      {store' : LoyaltyStore} (ha : attempt ≠ .fails)
      (h : store.spend userId bookingId points = some store') :
      LoyaltyStep attempt store (.spend userId bookingId points read) store'
        (.done (.ok (some (points * 10))))
  | credit {userId : UserId} {amount : ℚ} {reason : String} {bookingId : Option BookingId}
      {store' : LoyaltyStore} (ha : attempt ≠ .fails)
      (h : store.credit lib userId amount reason bookingId = some store') :
      LoyaltyStep attempt store (.credit userId amount reason bookingId) store' (.done (.ok none))
  | readBalance {userId : UserId} {amount : ℚ} {reason : String} {user : User}
      (hu : store.users[userId]? = some user) (h : amount ≤ user.walletBalance.toRat) :
      LoyaltyStep attempt store (.readBalance userId amount reason) store
        (.debit userId amount reason user.walletBalance.toRat)
  | debit {userId : UserId} {amount : ℚ} {reason : String} {read : ℚ} {store' : LoyaltyStore}
      (ha : attempt ≠ .fails) (h : store.debit lib userId amount reason = some store') :
      LoyaltyStep attempt store (.debit userId amount reason read) store' (.done (.ok none))
  | rewardSettings {r : Referral} :
      LoyaltyStep attempt store (.rewardSettings r) store (.rewards r none none)
  | rewardReferrer {r : Referral} {second : Option Bool} {store' : LoyaltyStore}
      (ha : attempt ≠ .fails) (h : store.rewardReferrer lib r = some store') :
      LoyaltyStep attempt store (.rewards r none second) store' (rewardsPaid r (some true) second)
  | referrerRefused {r : Referral} {second : Option Bool} :
      LoyaltyStep attempt store (.rewards r none second) store (rewardsPaid r (some false) second)
  | rewardReferred {r : Referral} {first second : Option Bool} {store' : LoyaltyStore}
      (hturn : first.isSome = true ∨ second = none) (ha : attempt ≠ .fails)
      (h : store.rewardReferred lib r = some store') :
      LoyaltyStep attempt store (.rewards r first second) store' (rewardsPaid r first (some true))
  | referredRefused {r : Referral} {first second : Option Bool}
      (hturn : first.isSome = true ∨ second = none) :
      LoyaltyStep attempt store (.rewards r first second) store (rewardsPaid r first (some false))
  | addReferral {r : Referral} (ha : attempt ≠ .fails) :
      LoyaltyStep attempt store (.addReferral r) (store.addReferral r) (.done (.ok none))
  | findCoupon {code : String} {userId : UserId} {bookingId : BookingId} {discount : ℚ}
      {couponId : CouponId} {c : Coupon}
      (h : store.coupons.findWhere (fun c => c.code = lib.toUpperCase code) = some (couponId, c)) :
      LoyaltyStep attempt store (.findCoupon code userId bookingId discount) store
        (.useCoupon couponId userId bookingId discount)
  | useCoupon {couponId : CouponId} {userId : UserId} {bookingId : BookingId} {discount : ℚ}
      (ha : attempt ≠ .fails) :
      LoyaltyStep attempt store (.useCoupon couponId userId bookingId discount)
        (store.useCoupon couponId userId bookingId discount) (.done (.ok none))
  | stop {pc : LoyaltyPc} (result : Except HttpException (Option ℚ)) :
      LoyaltyStep attempt store pc store (.done result)

variable {lib} {store store' : LoyaltyStore} {attempt : Attempt} {pc' : LoyaltyPc}

/-- A transaction that is awaited has committed, or the call has thrown. -/
theorem awaitCommit_cases {tx : Option LoyaltyStore} {next : LoyaltyPc}
    (h : awaitCommit attempt store tx next = (store', pc')) :
    (attempt ≠ .fails ∧ tx = some store' ∧ pc' = next) ∨
      (store' = store ∧ pc' = .done (.error .queryFailed)) := by
  unfold awaitCommit at h
  split at h
  · obtain ⟨rfl, rfl⟩ := Prod.mk.inj h
    exact Or.inl ⟨by simp, rfl, rfl⟩
  · exact Or.inr ⟨(congrArg Prod.fst h).symm, (congrArg Prod.snd h).symm⟩

theorem awaitRead_cases {next : LoyaltyPc} (h : awaitRead attempt store next = (store', pc')) :
    store' = store ∧ (pc' = next ∨ pc' = .done (.error .queryFailed)) := by
  rcases awaitCommit_cases h with ⟨-, hstore, hpc⟩ | ⟨hstore, hpc⟩
  · exact ⟨(Option.some.inj hstore).symm, Or.inl hpc⟩
  · exact ⟨hstore, Or.inr hpc⟩

/-- A reward is paid or refused, where its transaction has not ended yet. -/
theorem awaitReward_cases {turn : Turn} {r : Referral} {first second : Option Bool}
    (h : awaitReward lib turn store r first second = (store', pc')) :
    LoyaltyStep lib turn.attempt store (.rewards r first second) store' pc' := by
  unfold awaitReward at h
  by_cases hsecond : (first.isSome || (second.isNone && turn.second)) = true
  · have hturn : first.isSome = true ∨ second = none := by
      rw [Bool.or_eq_true, Bool.and_eq_true, Option.isNone_iff_eq_none] at hsecond
      exact hsecond.imp_right And.left
    simp only [hsecond, if_true] at h
    split at h
    · next hattempt htx =>
        obtain ⟨rfl, rfl⟩ := Prod.mk.inj h
        exact .rewardReferred hturn (by rw [hattempt]; simp) htx
    · obtain ⟨rfl, rfl⟩ := Prod.mk.inj h
      exact .referredRefused hturn
  · obtain rfl : first = none := by
      cases first with
      | none => rfl
      | some ended => simp at hsecond
    simp only [hsecond, if_false, Bool.false_eq_true] at h
    split at h
    · next hattempt htx =>
        obtain ⟨rfl, rfl⟩ := Prod.mk.inj h
        exact .rewardReferrer (by rw [hattempt]; simp) htx
    · obtain ⟨rfl, rfl⟩ := Prod.mk.inj h
      exact .referrerRefused

/-- **Inversion**: a step is one of the listed ones. -/
theorem loyaltyStep_cases {turn : Turn} {pc : LoyaltyPc}
    (h : loyaltyStep lib turn store pc = some (store', pc')) :
    LoyaltyStep lib turn.attempt store pc store' pc' := by
  cases pc with
  | earn settings userId bookingId points =>
      rcases awaitCommit_cases (Option.some.inj h) with ⟨ha, htx, rfl⟩ | ⟨rfl, rfl⟩
      · exact .earn ha htx
      · exact .stop _
  | tierRead settings userId =>
      obtain ⟨rfl, rfl | rfl⟩ := awaitRead_cases (Option.some.inj h)
      · split
        · exact .stop _
        · next user hu => exact .tierRead hu
      · exact .stop _
  | tierSettings settings userId points =>
      obtain ⟨rfl, rfl | rfl⟩ := awaitRead_cases (Option.some.inj h)
      · exact .tierSettings
      · exact .stop _
  | tierWrite userId tier =>
      rcases awaitCommit_cases (Option.some.inj h) with ⟨ha, htx, rfl⟩ | ⟨rfl, rfl⟩
      · exact Option.some.inj htx ▸ .tierWrite ha
      · exact .stop _
  | readPoints userId bookingId points =>
      obtain ⟨rfl, rfl | rfl⟩ := awaitRead_cases (Option.some.inj h)
      · split
        · exact .stop _
        · next user hu =>
            split
            · exact .stop _
            · next henough => exact .readPoints hu (not_lt.mp henough)
      · exact .stop _
  | spend userId bookingId points read =>
      rcases awaitCommit_cases (Option.some.inj h) with ⟨ha, htx, rfl⟩ | ⟨rfl, rfl⟩
      · exact .spend ha htx
      · exact .stop _
  | credit userId amount reason bookingId =>
      rcases awaitCommit_cases (Option.some.inj h) with ⟨ha, htx, rfl⟩ | ⟨rfl, rfl⟩
      · exact .credit ha htx
      · exact .stop _
  | readBalance userId amount reason =>
      obtain ⟨rfl, rfl | rfl⟩ := awaitRead_cases (Option.some.inj h)
      · split
        · exact .stop _
        · next user hu =>
            split
            · exact .stop _
            · next henough => exact .readBalance hu (not_lt.mp henough)
      · exact .stop _
  | debit userId amount reason read =>
      rcases awaitCommit_cases (Option.some.inj h) with ⟨ha, htx, rfl⟩ | ⟨rfl, rfl⟩
      · exact .debit ha htx
      · exact .stop _
  | rewardSettings r =>
      obtain ⟨rfl, rfl | rfl⟩ := awaitRead_cases (Option.some.inj h)
      · exact .rewardSettings
      · exact .stop _
  | rewards r first second => exact awaitReward_cases (Option.some.inj h)
  | addReferral r =>
      rcases awaitCommit_cases (Option.some.inj h) with ⟨ha, htx, rfl⟩ | ⟨rfl, rfl⟩
      · exact Option.some.inj htx ▸ .addReferral ha
      · exact .stop _
  | findCoupon code userId bookingId discount =>
      obtain ⟨rfl, rfl | rfl⟩ := awaitRead_cases (Option.some.inj h)
      · split
        · exact .stop _
        · next couponId c hc => exact .findCoupon hc
      · exact .stop _
  | useCoupon couponId userId bookingId discount =>
      rcases awaitCommit_cases (Option.some.inj h) with ⟨ha, htx, rfl⟩ | ⟨rfl, rfl⟩
      · exact Option.some.inj htx ▸ .useCoupon ha
      · exact .stop _
  | done result => cases h

end Steps

/-! ## The system -/

/-- The calls and the tables they share. -/
abbrev LoyaltyConfig (ι : Type) := Config LoyaltyStore ι LoyaltyPc

/-- A step of a call; nothing else happens. -/
abbrev LoyaltyMove (ι : Type) := Move ι Turn Empty

section System

variable (lib : LoyaltyLib) {ι : Type}

/-- All calls have arrived, none has begun. -/
def loyaltyStart (calls : ι → LoyaltyCall) (store : LoyaltyStore) : LoyaltyConfig ι :=
  ⟨store, fun i => (calls i).entry⟩

variable [DecidableEq ι]

/-- Concurrent calls of the loyalty service. -/
def loyaltySystem : LoyaltyConfig ι → LoyaltyMove ι → Option (LoyaltyConfig ι) :=
  interleave (fun _ => loyaltyStep lib) fun e => e.elim

/-- The steps of a call in a row are the method. -/
theorem loyalty_solo (call : LoyaltyCall) (store : LoyaltyStore) (now : Time) :
    solo (loyaltyStep lib ⟨.succeeds now, false⟩) 4 store call.entry =
      ((call.method lib).storeAfter store, .done ((call.method lib).outcome store)) := by
  unfold ServiceM.storeAfter ServiceM.outcome
  cases call with
  | earnPoints settings userId bookingId amount =>
      simp only [LoyaltyCall.method, LoyaltyCall.entry, earnPoints]
      by_cases hfew : calculateLoyaltyPoints amount ≤ 0
      · simp [solo, loyaltyStep, hfew]
      · cases htx : store.earn userId bookingId (calculateLoyaltyPoints amount) with
        | none => simp [solo, loyaltyStep, awaitCommit, transaction, hfew, htx]
        | some store' =>
            cases hu : store'.users[userId]? with
            | none =>
                simp [solo, loyaltyStep, awaitCommit, awaitRead, transaction, updateTier, hfew,
                  htx, hu]
            | some user =>
                simp [solo, loyaltyStep, awaitCommit, awaitRead, transaction, updateTier, hfew,
                  htx, hu]
  | spendPoints userId bookingId points =>
      simp only [LoyaltyCall.method, LoyaltyCall.entry, spendPoints]
      cases hu : store.users[userId]? with
      | none => simp [solo, loyaltyStep, awaitRead, awaitCommit, hu]
      | some user =>
          by_cases hshort : (user.loyaltyPoints : ℚ) < points
          · simp [solo, loyaltyStep, awaitRead, awaitCommit, hu, hshort]
          · cases htx : store.spend userId bookingId points with
            | none => simp [solo, loyaltyStep, awaitRead, awaitCommit, transaction, hu, hshort, htx]
            | some store' =>
                simp [solo, loyaltyStep, awaitRead, awaitCommit, transaction, hu, hshort, htx]
  | creditWallet userId amount reason bookingId =>
      simp only [LoyaltyCall.method, LoyaltyCall.entry, creditWallet]
      cases htx : store.credit lib userId amount reason bookingId with
      | none => simp [solo, loyaltyStep, awaitCommit, transaction, htx]
      | some store' => simp [solo, loyaltyStep, awaitCommit, transaction, htx]
  | debitWallet userId amount reason =>
      simp only [LoyaltyCall.method, LoyaltyCall.entry, debitWallet]
      cases hu : store.users[userId]? with
      | none => simp [solo, loyaltyStep, awaitRead, awaitCommit, hu]
      | some user =>
          by_cases hshort : user.walletBalance.toRat < amount
          · simp [solo, loyaltyStep, awaitRead, awaitCommit, hu, hshort]
          · cases htx : store.debit lib userId amount reason with
            | none => simp [solo, loyaltyStep, awaitRead, awaitCommit, transaction, hu, hshort, htx]
            | some store' =>
                simp [solo, loyaltyStep, awaitRead, awaitCommit, transaction, hu, hshort, htx]
  | processReferral settings referrerId referredId =>
      simp only [LoyaltyCall.method, LoyaltyCall.entry, processReferral]
      generalize settings.referral referrerId referredId = r
      cases hfirst : store.rewardReferrer lib r with
      | none =>
          cases hsecond : store.rewardReferred lib r with
          | none =>
              simp [solo, loyaltyStep, awaitRead, awaitCommit, awaitReward, rewardsPaid, hfirst,
                hsecond]
          | some store' =>
              simp [solo, loyaltyStep, awaitRead, awaitCommit, awaitReward, rewardsPaid, hfirst,
                hsecond]
      | some store₁ =>
          cases hsecond : store₁.rewardReferred lib r with
          | none =>
              simp [solo, loyaltyStep, awaitRead, awaitCommit, awaitReward, rewardsPaid, hfirst,
                hsecond]
          | some store₂ =>
              simp [solo, loyaltyStep, awaitRead, awaitCommit, awaitReward, rewardsPaid, hfirst,
                hsecond]
  | applyCoupon code userId bookingId discount =>
      simp only [LoyaltyCall.method, LoyaltyCall.entry, applyCoupon]
      cases hc : store.coupons.findWhere (fun c => c.code = lib.toUpperCase code) with
      | none => simp [solo, loyaltyStep, awaitRead, awaitCommit, hc]
      | some found => simp [solo, loyaltyStep, awaitRead, awaitCommit, transaction, hc]

variable {lib}

/-- **Alone, a call does what the method does.** -/
theorem loyalty_alone {c : LoyaltyConfig ι} {i : ι} {call : LoyaltyCall}
    (hpc : c.pc i = call.entry) (now : Time) :
    ∃ n, replay (loyaltySystem lib) c (List.replicate n (.process i ⟨.succeeds now, false⟩)) =
      some ⟨(call.method lib).storeAfter c.shared,
        Function.update c.pc i (.done ((call.method lib).outcome c.shared))⟩ := by
  obtain ⟨n, hn⟩ := exists_replay_solo (fun _ => loyaltyStep lib)
    (fun e : Empty => e.elim) i ⟨.succeeds now, false⟩ 4 c
  rw [hpc, loyalty_solo lib call c.shared now] at hn
  exact ⟨n, hn⟩

end System

namespace Demo

/-- The ledger of the wallet has the columns of the wallet, and small numbers are read as
numbers. -/
def loyaltyLib : LoyaltyLib where
  toUpperCase := id
  amountColumn q := roundAway (q * 100) / 100
  balanceColumn q := roundAway (q * 100) / 100
  countIsTrue n := n ≠ 0
  amountIsTrue _ := true
  amountText _ := ""

/-- A user with the given points and wallet. -/
def member (points : ℤ) (balance : Amount) : User where
  email := "jean.kamga@example.cm"
  phone := none
  firstName := "Jean"
  lastName := "Kamga"
  avatarUrl := none
  passwordHash := none
  role := .customer
  language := .fr
  isActive := true
  isEmailVerified := true
  emailVerifiedAt := none
  emailVerificationToken := none
  emailVerificationExpires := none
  passwordResetToken := none
  passwordResetExpires := none
  referralCode := none
  referredBy := none
  loyaltyPoints := points
  loyaltyTier := .bronze
  walletBalance := balance

/-- Tables with one user and nothing in the ledgers. -/
def oneMember (points : ℤ) (balance : Amount) : LoyaltyStore where
  users := [member points balance]
  loyaltyTransactions := []
  walletTransactions := []
  coupons := []
  couponUsages := []
  referrals := []

end Demo

end StayRide
