import StayRide.Auth.Calls
import StayRide.Loyalty.Ledgers

/-!
# Rewards for invitations

`AuthService.register` looks up the owner of the referral code, stores both in the new account
and emits `referral.created`.  `LoyaltyService.processReferral` listens to the event, pays both
users and enters the referral.  Nobody waits for the listener: its awaits interleave with the
requests that follow, and with the listeners of other registrations.

A state is the accounts, the tables of the loyalty side, which share the users with them, and
the calls of the listener.  `wallets_hold_rewards`: no wallet ever holds more than its owner's
invitations are worth, and exactly that where every call of the listener has ended well; and an
account is rewarded at most once, with the one who has invited it.

The settings of the rewards stay the same during a run.
-/

namespace StayRide

open Lib AuthM

/-! ## The event -/

/-- The payload of `referral.created`. -/
structure Invitation where
  referrerId : UserId
  referredId : UserId
  deriving DecidableEq

def AuthEvent.invitation : AuthEvent → Option Invitation
  | .referralCreated referrerId referredId => some ⟨referrerId, referredId⟩
  | .emailVerified _ => none

/-- The invitations that the accounts remember, by the user who has invited each of them. -/
def invitations (invitedBy : List (Option UserId)) : List Invitation :=
  invitedBy.zipIdx.filterMap fun entry => entry.1.map fun referrerId => ⟨referrerId, entry.2⟩

/-- The invitation of a new account. -/
def UserEffect.invitations (id : UserId) : UserEffect → List Invitation
  | .add user => (user.referredBy.map fun referrerId => ⟨referrerId, id⟩).toList
  | .none | .update _ _ => []

section Events

variable (lib : AuthLib) (store : AuthStore)

@[simp] theorem events_addToken (token : RefreshToken) :
    (store.addToken token).events = store.events := by
  unfold AuthStore.addToken
  split <;> rfl

theorem events_registeredStore (dto : RegisterDto) (now : Time) :
    ∃ added, (registeredStore lib store dto now).events = store.events ++ added ∧
      added.filterMap AuthEvent.invitation =
        ((registeredUser lib store dto now).referredBy.map fun referrerId =>
          (⟨referrerId, store.users.length⟩ : Invitation)).toList := by
  have hreferred : (registeredUser lib store dto now).referredBy =
      (referrerOf lib store dto).map Prod.fst := rfl
  rw [hreferred]
  unfold registeredStore
  cases referrerOf lib store dto with
  | none => exact ⟨[], (List.append_nil _).symm, rfl⟩
  | some referrer => exact ⟨[.referralCreated referrer.1 store.users.length], rfl, rfl⟩

/-- **What a call emits**: the invitation of the account that it adds, and no other. -/
theorem exec_invitations (r : AuthRequest) :
    ∃ added, (authExec lib store r).events = store.events ++ added ∧
      added.filterMap AuthEvent.invitation =
        (userEffectOf lib store r).invitations store.users.length := by
  obtain ⟨now, call⟩ := r
  have hsame : ∀ {store' : AuthStore}, store'.events = store.events →
      ∃ added, store'.events = store.events ++ added ∧
        added.filterMap AuthEvent.invitation = [] :=
    fun h => ⟨[], by rw [h, List.append_nil], rfl⟩
  cases call with
  | register dto =>
      simp only [authExec, userEffectOf, register_storeAfter]
      split
      · exact hsame rfl
      · split
        · rw [events_addToken]
          exact events_registeredStore lib store dto now
        · exact hsame rfl
  | login dto deviceInfo =>
      simp only [authExec, userEffectOf, login_storeAfter]
      refine hsame ?_
      split
      · rfl
      · exact events_addToken _ _
  | refresh token =>
      simp only [authExec, userEffectOf, refresh_storeAfter, refreshTokens_storeAfter]
      refine hsame ?_
      split
      · rfl
      · split
        · rfl
        · split
          · rfl
          · exact events_addToken _ _
  | logout token =>
      simp only [authExec, userEffectOf, ServiceM.storeAfter, run_logout]
      refine hsame ?_
      cases textOrNull token <;> rfl
  | revokeRefreshToken | revokeAllUserTokens => exact hsame rfl
  | verifyEmail token =>
      simp only [authExec, userEffectOf, ServiceM.storeAfter, run_verifyEmail]
      cases store.users.findWhere fun u => u.emailVerificationToken = some token with
      | none => exact hsame rfl
      | some found =>
          by_cases hv : found.2.isEmailVerified
          · simp only [hv]
            exact hsame rfl
          · simp only [hv]
            exact ⟨[.emailVerified found.1], rfl, rfl⟩
  | forgotPassword email =>
      simp only [authExec, userEffectOf, ServiceM.storeAfter, run_forgotPassword]
      cases store.users.findWhere fun u => u.email = lib.toLowerCase email <;> exact hsame rfl
  | resetPassword token password =>
      simp only [authExec, userEffectOf, ServiceM.storeAfter, run_resetPassword]
      cases store.users.findWhere fun u => u.passwordResetToken = some token <;> exact hsame rfl
  | resendVerification userId =>
      simp only [authExec, userEffectOf, ServiceM.storeAfter, run_resendVerification]
      cases store.users[userId]? with
      | none => exact hsame rfl
      | some user => by_cases hv : user.isEmailVerified <;> simp only [hv] <;> exact hsame rfl

variable {lib store}

/-- An account that is added was invited by somebody who has one. -/
theorem referredBy_lt_length {r : AuthRequest} {user : User}
    (h : userEffectOf lib store r = .add user) {referrerId : UserId}
    (hreferred : user.referredBy = some referrerId) : referrerId < store.users.length := by
  obtain ⟨dto, -, -, -, rfl⟩ := userEffectOf_eq_add h
  obtain ⟨referrer, hfound, rfl⟩ := Option.map_eq_some_iff.mp hreferred
  obtain ⟨code, -, hcode⟩ := Option.bind_eq_some_iff.mp hfound
  obtain ⟨row, hrow, hloaded⟩ := Option.map_eq_some_iff.mp hcode
  rw [← hloaded]
  obtain ⟨hat, -⟩ := Table.findWhere_eq_some hrow
  exact (List.getElem?_eq_some_iff.mp hat).1

end Events

/-! ## The listener -/

/-- A call of `processReferral` as a listener. -/
structure RewardCall where
  invitation : Invitation
  pc : LoyaltyPc

/-- The row that the call is to enter. -/
def RewardCall.referral (settings : ReferralSettings) (call : RewardCall) : Referral :=
  settings.referral call.invitation.referrerId call.invitation.referredId

def RewardCall.start (settings : ReferralSettings) (invitation : Invitation) : RewardCall where
  invitation := invitation
  pc := (LoyaltyCall.processReferral settings invitation.referrerId invitation.referredId).entry

/-- The loyalty side has changed rows of `users`. -/
def AuthStore.withUsers (store : AuthStore) (users : Table User)
    (h : users.length = store.users.length) : AuthStore :=
  { store with
    users := users
    owner_exists := fun i t ht => h ▸ store.owner_exists i t ht }

/-- The accounts and the loyalty side, with the calls of the listener. -/
structure Membership where
  accounts : AuthStore
  loyalty : LoyaltyStore
  calls : Table RewardCall
  /-- There is one table of users. -/
  same_users : loyalty.users = accounts.users

/-- Nobody has an account yet. -/
def Membership.start : Membership where
  accounts := .start []
  loyalty := ⟨[], [], [], [], [], []⟩
  calls := []
  same_users := rfl

/-- A request is served, or a call of the listener makes a step. -/
inductive MembershipTurn
  | request (r : AuthRequest)
  | reward (i : ℕ) (turn : Turn)

/-- A step writes rows of `users`, and neither adds nor removes any. -/
theorem length_users_loyaltyStep {lib : LoyaltyLib} {turn : Turn} {store store' : LoyaltyStore}
    {pc pc' : LoyaltyPc} (h : loyaltyStep lib turn store pc = some (store', pc')) :
    store'.users.length = store.users.length := by
  have hpoints : ∀ {type reason userId bookingId points},
      store.movePoints type reason userId bookingId points = some store' →
        store'.users.length = store.users.length := by
    intro type reason userId bookingId points h
    obtain ⟨n, users, -, rfl, ⟨-, rfl⟩ | ⟨u, -, rfl⟩⟩ := LoyaltyStore.movePoints_eq_some h
    · rfl
    · exact Table.length_updateById _ _ _
  have hmoney : ∀ {type userId amount reason bookingId},
      store.moveMoney lib type userId amount reason bookingId = some store' →
        store'.users.length = store.users.length := by
    intro type userId amount reason bookingId h
    obtain ⟨u, balance, -, -, rfl⟩ := LoyaltyStore.moveMoney_eq_some h
    exact Table.length_updateById _ _ _
  cases loyaltyStep_cases h with
  | earn _ htx => exact hpoints htx
  | spend _ htx => exact hpoints htx
  | credit _ htx => exact hmoney htx
  | debit _ htx => exact hmoney htx
  | rewardReferrer _ htx => exact hmoney htx
  | rewardReferred _ _ htx => exact hmoney htx
  | tierWrite => exact Table.length_updateById _ _ _
  | _ => rfl

section System

variable (lib : AuthLib) (loyaltyLib : LoyaltyLib) (settings : ReferralSettings)

/-- A request is served, and the listener is called for each invitation it has emitted. -/
def Membership.serve (m : Membership) (r : AuthRequest) : Membership :=
  let accounts := authExec lib m.accounts r
  { accounts := accounts
    loyalty := { m.loyalty with users := accounts.users }
    calls := m.calls ++ ((accounts.events.drop m.accounts.events.length).filterMap
      AuthEvent.invitation).map (RewardCall.start settings)
    same_users := rfl }

/-- The next await of a call ends. -/
def Membership.reward (m : Membership) (i : ℕ) (turn : Turn) : Membership :=
  match m.calls[i]? with
  | none => m
  | some call =>
      match h : loyaltyStep loyaltyLib turn m.loyalty call.pc with
      | none => m
      | some (store, pc) =>
          { accounts := m.accounts.withUsers store.users
              ((length_users_loyaltyStep h).trans (congrArg List.length m.same_users))
            loyalty := store
            calls := m.calls.updateById i fun call => { call with pc := pc }
            same_users := rfl }

def Membership.exec (m : Membership) : MembershipTurn → Membership
  | .request r => m.serve lib settings r
  | .reward i turn => m.reward loyaltyLib i turn

/-- What a request leaves. -/
theorem Membership.serve_eq (m : Membership) (r : AuthRequest) :
    (m.serve lib settings r).calls = m.calls ++
        ((userEffectOf lib m.accounts r).invitations m.loyalty.users.length).map
          (RewardCall.start settings) ∧
      (m.serve lib settings r).loyalty =
        { m.loyalty with users := (userEffectOf lib m.accounts r).apply m.loyalty.users } := by
  obtain ⟨added, hevents, hadded⟩ := exec_invitations lib m.accounts r
  rw [m.same_users]
  refine ⟨?_, ?_⟩
  · show m.calls ++ _ = _
    rw [hevents, List.drop_left, hadded]
  · show ({ m.loyalty with users := _ } : LoyaltyStore) = _
    rw [exec_users]

/-- A step of the listener leaves everything, or it is a step of one of its calls. -/
theorem Membership.reward_cases (m : Membership) (i : ℕ) (turn : Turn) :
    m.reward loyaltyLib i turn = m ∨
      ∃ call pc, m.calls[i]? = some call ∧
        loyaltyStep loyaltyLib turn m.loyalty call.pc =
          some ((m.reward loyaltyLib i turn).loyalty, pc) ∧
        (m.reward loyaltyLib i turn).calls =
          m.calls.updateById i fun call => { call with pc := pc } := by
  unfold Membership.reward
  split
  · exact .inl rfl
  · next call hcall =>
      split
      · exact .inl rfl
      · next store pc hstep => exact .inr ⟨call, pc, hcall, hstep, rfl⟩

end System

/-! ## What a call still owes -/

/-- What a referral is worth to a user as the one who has invited. -/
def Referral.forReferrer (r : Referral) (id : UserId) : ℚ :=
  if r.referrerId = id then r.referrerReward else 0

/-- What it is worth to a user as the one who was invited. -/
def Referral.forReferred (r : Referral) (id : UserId) : ℚ :=
  if r.referredId = id then r.referredReward else 0

def Referral.worth (r : Referral) (id : UserId) : ℚ :=
  r.forReferrer id + r.forReferred id

namespace LoyaltyPc

/-- What a call has still to pay to a user. -/
def owes (id : UserId) : LoyaltyPc → ℚ
  | .rewardSettings r => r.worth id
  | .rewards r first second =>
      (if first = none then r.forReferrer id else 0) +
        if second = none then r.forReferred id else 0
  | _ => 0

/-- A statement of the call was rejected. -/
def hasFailed : LoyaltyPc → Bool
  | .rewards _ first second => first = some false || second = some false
  | .done (.error _) => true
  | _ => false

/-- The call has returned. -/
def hasReturned : LoyaltyPc → Bool
  | .done (.ok _) => true
  | _ => false

/-- Where a call can be that pays a referral. -/
inductive Pays (r : Referral) : LoyaltyPc → Prop
  | settings : Pays r (.rewardSettings r)
  | rewards {first second : Option Bool} (h : first = none ∨ second = none) :
      Pays r (.rewards r first second)
  | row : Pays r (.addReferral r)
  | done (result : Except HttpException (Option ℚ)) : Pays r (.done result)

end LoyaltyPc

section Paid

variable (r : Referral) (first second : Option Bool)

theorem owes_rewardsPaid (id : UserId) :
    (rewardsPaid r first second).owes id =
      (if first = none then r.forReferrer id else 0) +
        if second = none then r.forReferred id else 0 := by
  rcases first with - | - | - <;> rcases second with - | - | - <;>
    simp [rewardsPaid, LoyaltyPc.owes]

theorem hasFailed_rewardsPaid :
    (rewardsPaid r first second).hasFailed =
      (decide (first = some false) || decide (second = some false)) := by
  rcases first with - | - | - <;> rcases second with - | - | - <;> rfl

theorem hasReturned_rewardsPaid : (rewardsPaid r first second).hasReturned = false := by
  rcases first with - | - | - <;> rcases second with - | - | - <;> rfl

theorem pays_rewardsPaid : (rewardsPaid r first second).Pays r := by
  rcases first with - | - | - <;> rcases second with - | - | -
  all_goals first
    | exact .rewards (.inl rfl)
    | exact .rewards (.inr rfl)
    | exact .row
    | exact .done _

end Paid

/-! ## One step of the listener -/

/-- What a step of a call leaves: the invitations of the accounts, and what every user has and
is owed, as long as nothing fails. -/
structure RewardStep (r : Referral) (store : LoyaltyStore) (pc : LoyaltyPc)
    (store' : LoyaltyStore) (pc' : LoyaltyPc) : Prop where
  pays : pc'.Pays r
  invitedBy : store'.users.map User.referredBy = store.users.map User.referredBy
  paid : ∀ id user', store'.users[id]? = some user' → ∃ user, store.users[id]? = some user ∧
    user'.balance + pc'.owes id ≤ user.balance + pc.owes id ∧
    (pc'.hasFailed = false → user'.balance + pc'.owes id = user.balance + pc.owes id)
  failed : pc.hasFailed = true → pc'.hasFailed = true
  running : pc.hasReturned = false
  rows : store'.referrals = store.referrals ++ if pc'.hasReturned then [r] else []

section Step

variable {lib : LoyaltyLib} {store store' : LoyaltyStore} {r : Referral} {pc pc' : LoyaltyPc}

/-- A credit adds its amount to the wallet of its user. -/
theorem credit_eq_some {userId : UserId} {amount : ℚ} {reason : String}
    {bookingId : Option BookingId} (hcents : IsCents amount)
    (h : store.credit lib userId amount reason bookingId = some store') :
    store'.users.map User.referredBy = store.users.map User.referredBy ∧
      store'.referrals = store.referrals ∧
      ∀ id user', store'.users[id]? = some user' → ∃ user, store.users[id]? = some user ∧
        user'.balance = user.balance + if userId = id then amount else 0 := by
  obtain ⟨u, balance, hu, hbalance, rfl⟩ := LoyaltyStore.moveMoney_eq_some h
  have hexact : balance.toRat = u.balance + amount := by
    obtain ⟨n, hn⟩ := (isCents_toRat u.walletBalance).add hcents
    exact Decimal.toRat_eq_of_scale hn hbalance
  refine ⟨?_, rfl, ?_⟩
  · refine List.ext_getElem? fun id => ?_
    rw [List.getElem?_map, List.getElem?_map, Table.getElem?_updateById]
    by_cases hid : id = userId
    · subst hid
      rw [hu]
      simp [User.withBalance]
    · simp [hid]
  · intro id user' huser'
    obtain ⟨user, huser, rfl⟩ := Table.getElem?_updateById_eq_some.mp huser'
    refine ⟨user, huser, ?_⟩
    by_cases hid : userId = id
    · subst hid
      rw [hu] at huser
      obtain rfl := Option.some.inj huser
      rw [if_pos rfl, if_pos rfl]
      exact hexact
    · simp [hid, Ne.symm hid]

/-- The next of the two transactions commits, or it is rolled back. -/
theorem awaitReward_open {turn : Turn} {first second : Option Bool}
    (hopen : first = none ∨ second = none)
    (h : awaitReward lib turn store r first second = (store', pc')) :
    (first = none ∧
        (store.rewardReferrer lib r = some store' ∧ pc' = rewardsPaid r (some true) second ∨
          store' = store ∧ pc' = rewardsPaid r (some false) second)) ∨
      (second = none ∧
        (store.rewardReferred lib r = some store' ∧ pc' = rewardsPaid r first (some true) ∨
          store' = store ∧ pc' = rewardsPaid r first (some false))) := by
  unfold awaitReward at h
  by_cases hsecond : (first.isSome || (second.isNone && turn.second)) = true
  · have hnone : second = none := by
      rw [Bool.or_eq_true, Bool.and_eq_true, Option.isNone_iff_eq_none] at hsecond
      rcases hsecond with hfirst | ⟨hnone, -⟩
      · exact hopen.resolve_left (by rintro rfl; cases hfirst)
      · exact hnone
    simp only [hsecond, if_true] at h
    refine .inr ⟨hnone, ?_⟩
    split at h
    · next htx =>
        obtain ⟨rfl, rfl⟩ := Prod.mk.inj h
        exact .inl ⟨htx, rfl⟩
    · obtain ⟨rfl, rfl⟩ := Prod.mk.inj h
      exact .inr ⟨rfl, rfl⟩
  · have hnone : first = none := by
      cases first with
      | none => rfl
      | some ended => simp at hsecond
    simp only [hsecond, if_false, Bool.false_eq_true] at h
    refine .inl ⟨hnone, ?_⟩
    split at h
    · next htx =>
        obtain ⟨rfl, rfl⟩ := Prod.mk.inj h
        exact .inl ⟨htx, rfl⟩
    · obtain ⟨rfl, rfl⟩ := Prod.mk.inj h
      exact .inr ⟨rfl, rfl⟩

theorem Referral.forReferrer_nonneg (h : 0 ≤ r.referrerReward) (id : UserId) :
    0 ≤ r.forReferrer id := by
  unfold Referral.forReferrer
  split
  · exact h
  · exact le_rfl

theorem Referral.forReferred_nonneg (h : 0 ≤ r.referredReward) (id : UserId) :
    0 ≤ r.forReferred id := by
  unfold Referral.forReferred
  split
  · exact h
  · exact le_rfl

/-- A step that writes nothing: it owes as much as before, or it fails. -/
theorem RewardStep.idle (hpays : pc'.Pays r) (hle : ∀ id, pc'.owes id ≤ pc.owes id)
    (heq : pc'.hasFailed = false → ∀ id, pc'.owes id = pc.owes id)
    (hfailed : pc.hasFailed = true → pc'.hasFailed = true) (hrunning : pc.hasReturned = false)
    (hreturned : pc'.hasReturned = false) : RewardStep r store pc store pc' where
  pays := hpays
  invitedBy := rfl
  paid id user huser := ⟨user, huser, add_le_add_right (hle id) _, fun hok => by rw [heq hok id]⟩
  failed := hfailed
  running := hrunning
  rows := by simp [hreturned]

/-- A step that credits what it does not owe any more. -/
theorem RewardStep.credited {userId : UserId} {amount : ℚ} {reason : String}
    {bookingId : Option BookingId} (hcents : IsCents amount)
    (htx : store.credit lib userId amount reason bookingId = some store') (hpays : pc'.Pays r)
    (howes : ∀ id, pc.owes id = pc'.owes id + if userId = id then amount else 0)
    (hfailed : pc.hasFailed = true → pc'.hasFailed = true) (hrunning : pc.hasReturned = false)
    (hreturned : pc'.hasReturned = false) : RewardStep r store pc store' pc' := by
  obtain ⟨hinvited, hreferrals, hbalance⟩ := credit_eq_some hcents htx
  have hpaid : ∀ id user', store'.users[id]? = some user' → ∃ user,
      store.users[id]? = some user ∧ user'.balance + pc'.owes id = user.balance + pc.owes id := by
    intro id user' huser'
    obtain ⟨user, huser, heq⟩ := hbalance id user' huser'
    refine ⟨user, huser, ?_⟩
    rw [heq, howes id]
    ring
  refine ⟨hpays, hinvited, fun id user' huser' => ?_, hfailed, hrunning, ?_⟩
  · obtain ⟨user, huser, heq⟩ := hpaid id user' huser'
    exact ⟨user, huser, heq.le, fun _ => heq⟩
  · rw [hreferrals, hreturned]
    simp

/-- **One step** of a call that pays a referral. -/
theorem rewardStep_of_loyaltyStep {turn : Turn}
    (hcents : IsCents r.referrerReward ∧ IsCents r.referredReward)
    (hnonneg : 0 ≤ r.referrerReward ∧ 0 ≤ r.referredReward) (hpays : pc.Pays r)
    (h : loyaltyStep lib turn store pc = some (store', pc')) :
    RewardStep r store pc store' pc' := by
  have hreferrer := Referral.forReferrer_nonneg hnonneg.1
  have hreferred := Referral.forReferred_nonneg hnonneg.2
  cases hpays with
  | settings =>
      obtain ⟨rfl, rfl | rfl⟩ := awaitRead_cases (Option.some.inj h)
      · have hsame : ∀ id, (LoyaltyPc.rewards r none none).owes id =
            (LoyaltyPc.rewardSettings r).owes id := fun id => by
          simp [LoyaltyPc.owes, Referral.worth]
        exact .idle (.rewards (.inl rfl)) (fun id => (hsame id).le) (fun _ => hsame)
          (fun hfailed => by cases hfailed) rfl rfl
      · exact .idle (.done _) (fun id => add_nonneg (hreferrer id) (hreferred id))
          (fun hok => by cases hok) (fun _ => rfl) rfl rfl
  | rewards hopen =>
      next first second =>
      rcases awaitReward_open hopen (Option.some.inj h) with
        ⟨rfl, ⟨htx, rfl⟩ | ⟨rfl, rfl⟩⟩ | ⟨rfl, ⟨htx, rfl⟩ | ⟨rfl, rfl⟩⟩
      · refine .credited hcents.1 htx (pays_rewardsPaid r _ _) (fun id => ?_) ?_ rfl
          (hasReturned_rewardsPaid r _ _)
        · rw [owes_rewardsPaid]
          simp [LoyaltyPc.owes, Referral.forReferrer, add_comm]
        · rw [hasFailed_rewardsPaid]
          simp [LoyaltyPc.hasFailed]
      · refine .idle (pays_rewardsPaid r _ _) (fun id => ?_) ?_ ?_ rfl
          (hasReturned_rewardsPaid r _ _)
        · rw [owes_rewardsPaid]
          simpa [LoyaltyPc.owes] using hreferrer id
        · rw [hasFailed_rewardsPaid]
          simp
        · rw [hasFailed_rewardsPaid]
          simp
      · refine .credited hcents.2 htx (pays_rewardsPaid r _ _) (fun id => ?_) ?_ rfl
          (hasReturned_rewardsPaid r _ _)
        · rw [owes_rewardsPaid]
          simp [LoyaltyPc.owes, Referral.forReferred]
        · rw [hasFailed_rewardsPaid]
          simp [LoyaltyPc.hasFailed]
      · refine .idle (pays_rewardsPaid r _ _) (fun id => ?_) ?_ ?_ rfl
          (hasReturned_rewardsPaid r _ _)
        · rw [owes_rewardsPaid]
          simpa [LoyaltyPc.owes] using hreferred id
        · rw [hasFailed_rewardsPaid]
          simp
        · rw [hasFailed_rewardsPaid]
          simp
  | row =>
      rcases awaitCommit_cases (Option.some.inj h) with ⟨-, htx, rfl⟩ | ⟨rfl, rfl⟩
      · obtain rfl := Option.some.inj htx
        exact ⟨.done _, rfl, fun id user huser => ⟨user, huser, le_rfl, fun _ => rfl⟩,
          (fun hfailed => by cases hfailed), rfl, rfl⟩
      · exact .idle (.done _) (fun _ => le_rfl) (fun hok => by cases hok) (fun _ => rfl) rfl rfl
  | done result => cases h

end Step

/-! ## Invitations and their worth -/

section Invitations

variable {settings : ReferralSettings}

theorem invitations_append (invitedBy : List (Option UserId)) (referrer : Option UserId) :
    invitations (invitedBy ++ [referrer]) = invitations invitedBy ++
      (referrer.map fun referrerId => (⟨referrerId, invitedBy.length⟩ : Invitation)).toList := by
  unfold invitations
  rw [List.zipIdx_append, List.filterMap_append]
  cases referrer <;> simp

/-- An invitation is remembered by the account of the one who was invited. -/
theorem mem_invitations_iff {invitedBy : List (Option UserId)} {invitation : Invitation} :
    invitation ∈ invitations invitedBy ↔
      invitedBy[invitation.referredId]? = some (some invitation.referrerId) := by
  obtain ⟨referrerId, referredId⟩ := invitation
  simp only [invitations, List.mem_filterMap, Option.map_eq_some_iff, Prod.exists,
    List.mem_zipIdx_iff_getElem?, Invitation.mk.injEq]
  constructor
  · rintro ⟨referrer, id, hat, a, rfl, rfl, rfl⟩
    exact hat
  · intro hat
    exact ⟨_, _, hat, _, rfl, rfl, rfl⟩

/-- Every account is invited once. -/
theorem nodup_invitations (invitedBy : List (Option UserId)) :
    ((invitations invitedBy).map Invitation.referredId).Nodup := by
  have hsub : ((invitations invitedBy).map Invitation.referredId).Sublist
      (invitedBy.zipIdx.map Prod.snd) := by
    unfold invitations
    induction invitedBy.zipIdx with
    | nil => exact .slnil
    | cons entry entries ih =>
        obtain ⟨referrer, id⟩ := entry
        cases referrer with
        | none => exact ih.cons _
        | some a => exact ih.cons_cons _
  refine hsub.nodup ?_
  rw [List.zipIdx_map_snd]
  exact List.nodup_range'

/-- What the invitations that a list of accounts remembers are worth to a user: the reward for
each account invited, and the welcome if the user was invited. -/
theorem sum_worth_invitations (invitedBy : List (Option UserId)) (id : UserId) :
    ((invitations invitedBy).map fun invitation =>
      (settings.referral invitation.referrerId invitation.referredId).worth id).sum =
        orElse settings.referrer 5000 * invitedBy.count (some id) +
          if (invitedBy[id]?).join.isSome then orElse settings.referred 2500 else 0 := by
  induction invitedBy using List.reverseRecOn with
  | nil => simp [invitations]
  | append_singleton invitedBy referrer ih =>
      rw [invitations_append, List.map_append, List.sum_append, ih, List.count_append]
      -- The new account is the one after the last of the others.
      by_cases hid : id = invitedBy.length
      · subst hid
        cases referrer with
        | none => simp
        | some a =>
            by_cases ha : a = invitedBy.length
            · simp [Referral.worth, Referral.forReferrer, Referral.forReferred,
                ReferralSettings.referral, ha, mul_add, add_assoc]
            · simp [Referral.worth, Referral.forReferrer, Referral.forReferred,
                ReferralSettings.referral, ha]
      · have hat : (invitedBy ++ [referrer])[id]?.join = invitedBy[id]?.join := by
          rcases Nat.lt_or_ge id invitedBy.length with hlt | hge
          · rw [List.getElem?_append_left hlt]
          · have hbeyond : (invitedBy ++ [referrer]).length ≤ id := by
              rw [List.length_append]
              exact Nat.lt_of_le_of_ne hge (Ne.symm hid)
            rw [List.getElem?_eq_none hbeyond, List.getElem?_eq_none hge]
        rw [hat]
        cases referrer with
        | none => simp
        | some a =>
            by_cases ha : a = id
            · simp [Referral.worth, Referral.forReferrer, Referral.forReferred,
                ReferralSettings.referral, ha, Ne.symm hid, mul_add, add_right_comm]
            · simp [Referral.worth, Referral.forReferrer, Referral.forReferred,
                ReferralSettings.referral, ha, Ne.symm hid]

end Invitations

/-! ## Whole runs -/

/-- What a call should have paid to a user by now. -/
def RewardCall.due (settings : ReferralSettings) (id : UserId) (call : RewardCall) : ℚ :=
  (call.referral settings).worth id - call.pc.owes id

/-- **The rewards are fair**: the calls are those of the invitations, nobody has more than the
calls should have paid, nor less unless one has failed, and the referrals are those of the
calls that have returned. -/
structure Membership.Fair (settings : ReferralSettings) (m : Membership) : Prop where
  invited : m.calls.map RewardCall.invitation = invitations (m.loyalty.users.map User.referredBy)
  known : ∀ call ∈ m.calls, call.invitation.referrerId < m.loyalty.users.length ∧
    call.invitation.referredId < m.loyalty.users.length
  pays : ∀ call ∈ m.calls, call.pc.Pays (call.referral settings)
  balances : ∀ id user, m.loyalty.users[id]? = some user →
    user.balance ≤ (m.calls.map (RewardCall.due settings id)).sum ∧
      ((∀ call ∈ m.calls, call.pc.hasFailed = false) →
        user.balance = (m.calls.map (RewardCall.due settings id)).sum)
  rows : m.loyalty.referrals.Perm
    ((m.calls.filter (·.pc.hasReturned)).map (RewardCall.referral settings))

/-- The rewards are amounts of at most two decimals, and no debts. -/
structure ReferralSettings.Payable (settings : ReferralSettings) : Prop where
  cents : IsCents (orElse settings.referrer 5000) ∧ IsCents (orElse settings.referred 2500)
  nonneg : 0 ≤ orElse settings.referrer 5000 ∧ 0 ≤ orElse settings.referred 2500

section Runs

variable {lib : AuthLib} {loyaltyLib : LoyaltyLib} {settings : ReferralSettings}
  {m m' : Membership}

theorem owes_of_unknown {pc : LoyaltyPc} {r : Referral} (hpays : pc.Pays r) {id : UserId}
    (hreferrer : r.forReferrer id = 0) (hreferred : r.forReferred id = 0) : pc.owes id = 0 := by
  cases hpays with
  | settings => simp [LoyaltyPc.owes, Referral.worth, hreferrer, hreferred]
  | rewards => simp [LoyaltyPc.owes, hreferrer, hreferred]
  | row | done => rfl

/-- A call is worth nothing to a user who is not one of its two. -/
theorem due_of_unknown {call : RewardCall} (hpays : call.pc.Pays (call.referral settings))
    {id : UserId} (hreferrer : call.invitation.referrerId ≠ id)
    (hreferred : call.invitation.referredId ≠ id) : call.due settings id = 0 := by
  have hfirst : (call.referral settings).forReferrer id = 0 := if_neg hreferrer
  have hsecond : (call.referral settings).forReferred id = 0 := if_neg hreferred
  rw [RewardCall.due, Referral.worth, hfirst, hsecond, owes_of_unknown hpays hfirst hsecond]
  simp

/-- What changes neither the calls nor the columns they are about keeps the rewards fair. -/
theorem Membership.Fair.of_frame (h : m.Fair settings) (hcalls : m'.calls = m.calls)
    (hinvited : m'.loyalty.users.map User.referredBy = m.loyalty.users.map User.referredBy)
    (hbalance : ∀ (id : UserId) (user' : User), m'.loyalty.users[id]? = some user' →
      ∃ user : User, m.loyalty.users[id]? = some user ∧ user'.balance = user.balance)
    (hreferrals : m'.loyalty.referrals = m.loyalty.referrals) : m'.Fair settings := by
  have hlength : m'.loyalty.users.length = m.loyalty.users.length := by
    simpa using congrArg List.length hinvited
  constructor
  · rw [hcalls, hinvited]
    exact h.invited
  · rw [hcalls, hlength]
    exact h.known
  · rw [hcalls]
    exact h.pays
  · intro id user' huser'
    obtain ⟨user, huser, heq⟩ := hbalance id user' huser'
    rw [hcalls, heq]
    exact h.balances id user huser
  · rw [hcalls, hreferrals]
    exact h.rows

/-- A new account, and the call for its invitation. -/
theorem Membership.Fair.add {user : User} (h : m.Fair settings)
    (hbalance : user.balance = 0)
    (hreferrer : ∀ referrerId, user.referredBy = some referrerId →
      referrerId < m.loyalty.users.length)
    (hcalls : m'.calls = m.calls ++
      ((UserEffect.add user).invitations m.loyalty.users.length).map (RewardCall.start settings))
    (husers : m'.loyalty.users = m.loyalty.users.insertRow user)
    (hreferrals : m'.loyalty.referrals = m.loyalty.referrals) : m'.Fair settings := by
  have hnew : ∀ call ∈ ((UserEffect.add user).invitations m.loyalty.users.length).map
      (RewardCall.start settings), ∃ referrerId, user.referredBy = some referrerId ∧
        call = RewardCall.start settings ⟨referrerId, m.loyalty.users.length⟩ := by
    intro call hcall
    obtain ⟨invitation, hinvitation, rfl⟩ := List.mem_map.mp hcall
    obtain ⟨referrerId, hreferred, rfl⟩ :=
      Option.map_eq_some_iff.mp (Option.mem_toList.mp hinvitation)
    exact ⟨referrerId, hreferred, rfl⟩
  have hsum : ∀ id, (m'.calls.map (RewardCall.due settings id)).sum =
      (m.calls.map (RewardCall.due settings id)).sum := by
    intro id
    rw [hcalls, List.map_append, List.sum_append, add_eq_left]
    refine List.sum_eq_zero fun q hq => ?_
    obtain ⟨call, hcall, rfl⟩ := List.mem_map.mp hq
    obtain ⟨referrerId, -, rfl⟩ := hnew call hcall
    exact sub_self _
  constructor
  · rw [hcalls, husers, Table.map_insertRow, List.map_append, h.invited, List.map_map]
    show _ = invitations (_ ++ [user.referredBy])
    rw [invitations_append, List.length_map]
    exact congrArg _ (List.map_id _)
  · rw [hcalls, husers, Table.length_insertRow]
    intro call hcall
    rcases List.mem_append.mp hcall with hold | hcall
    · obtain ⟨hreferrer, hreferred⟩ := h.known call hold
      exact ⟨Nat.lt_succ_of_lt hreferrer, Nat.lt_succ_of_lt hreferred⟩
    · obtain ⟨referrerId, hreferred, rfl⟩ := hnew call hcall
      exact ⟨Nat.lt_succ_of_lt (hreferrer referrerId hreferred), Nat.lt_succ_self _⟩
  · rw [hcalls]
    intro call hcall
    rcases List.mem_append.mp hcall with hold | hcall
    · exact h.pays call hold
    · obtain ⟨referrerId, -, rfl⟩ := hnew call hcall
      exact .settings
  · intro id user' huser'
    rw [husers] at huser'
    rw [hsum]
    rcases Table.getElem?_insertRow_eq_some.mp huser' with hold | ⟨rfl, rfl⟩
    · obtain ⟨hle, heq⟩ := h.balances id user' hold
      refine ⟨hle, fun hok => heq fun call hcall => hok call ?_⟩
      rw [hcalls]
      exact List.mem_append_left _ hcall
    · -- The calls so far are about other users.
      have hzero : (m.calls.map (RewardCall.due settings m.loyalty.users.length)).sum = 0 := by
        refine List.sum_eq_zero fun q hq => ?_
        obtain ⟨call, hcall, rfl⟩ := List.mem_map.mp hq
        obtain ⟨hreferrer, hreferred⟩ := h.known call hcall
        exact due_of_unknown (h.pays call hcall) hreferrer.ne hreferred.ne
      rw [hbalance, hzero]
      exact ⟨le_rfl, fun _ => rfl⟩
  · have hnone : (((UserEffect.add user).invitations m.loyalty.users.length).map
        (RewardCall.start settings)).filter (·.pc.hasReturned) = [] := by
      refine List.filter_eq_nil_iff.mpr fun call hcall => ?_
      obtain ⟨referrerId, -, rfl⟩ := hnew call hcall
      exact Bool.false_ne_true
    rw [hcalls, hreferrals, List.filter_append, hnone, List.append_nil]
    exact h.rows

/-- A request keeps the rewards fair. -/
theorem Membership.Fair.serve (h : m.Fair settings) (r : AuthRequest) :
    (m.serve lib settings r).Fair settings := by
  obtain ⟨hcalls, hloyalty⟩ := m.serve_eq lib settings r
  have husers : (m.serve lib settings r).loyalty.users =
      (userEffectOf lib m.accounts r).apply m.loyalty.users := by rw [hloyalty]
  have hreferrals : (m.serve lib settings r).loyalty.referrals = m.loyalty.referrals := by
    rw [hloyalty]
  cases heffect : userEffectOf lib m.accounts r with
  | none =>
      rw [heffect] at hcalls husers
      refine h.of_frame (hcalls.trans (List.append_nil _)) (congrArg _ husers) ?_ hreferrals
      intro id user huser
      rw [husers] at huser
      exact ⟨user, huser, rfl⟩
  | update target patch =>
      rw [heffect] at hcalls husers
      refine h.of_frame (hcalls.trans (List.append_nil _)) ?_ ?_ hreferrals
      · rw [husers, UserEffect.apply, Table.map_updateById_of_eq]
        exact fun _ => rfl
      · intro id user' huser'
        rw [husers] at huser'
        obtain ⟨user, huser, rfl⟩ := Table.getElem?_updateById_eq_some.mp huser'
        refine ⟨user, huser, ?_⟩
        split <;> rfl
  | add user =>
      rw [heffect] at hcalls husers
      refine h.add ?_ (fun referrerId hreferred => ?_) hcalls husers hreferrals
      · obtain ⟨dto, -, -, -, rfl⟩ := userEffectOf_eq_add heffect
        exact Decimal.toRat_zero
      · rw [m.same_users]
        exact referredBy_lt_length heffect hreferred

/-- **One step** of the listener keeps the rewards fair. -/
theorem Membership.Fair.reward (hsettings : settings.Payable) (h : m.Fair settings) (i : ℕ)
    (turn : Turn) : (m.reward loyaltyLib i turn).Fair settings := by
  rcases m.reward_cases loyaltyLib i turn with hidle | ⟨call, pc, hcall, hstep, hcalls⟩
  · rw [hidle]
    exact h
  have hmem : call ∈ m.calls := List.mem_of_getElem? hcall
  obtain ⟨before, after, hbefore, hafter⟩ :=
    Table.exists_around_updateById hcall fun call => { call with pc := pc }
  rw [hafter] at hcalls
  have hstep := rewardStep_of_loyaltyStep hsettings.cents hsettings.nonneg (h.pays call hmem) hstep
  generalize m.reward loyaltyLib i turn = m' at *
  have hlength : m'.loyalty.users.length = m.loyalty.users.length := by
    simpa using congrArg List.length hstep.invitedBy
  -- The other calls are the same ones.
  have hothers : ∀ {P : RewardCall → Prop}, (∀ call ∈ m.calls, P call) →
      P { call with pc := pc } → ∀ call ∈ m'.calls, P call := by
    intro P hP hthis
    rw [hbefore, Table.forall_mem_around] at hP
    rw [hcalls, Table.forall_mem_around]
    exact ⟨hthis, hP.2⟩
  constructor
  · rw [hstep.invitedBy, ← h.invited, hcalls, hbefore]
    simp
  · rw [hlength]
    exact hothers h.known (h.known call hmem)
  · exact hothers h.pays hstep.pays
  · intro id user' huser'
    obtain ⟨user, huser, hle, heq⟩ := hstep.paid id user' huser'
    obtain ⟨hle₀, heq₀⟩ := h.balances id user huser
    have hsum : (m'.calls.map (RewardCall.due settings id)).sum =
        (m.calls.map (RewardCall.due settings id)).sum + (call.pc.owes id - pc.owes id) := by
      rw [hcalls, hbefore]
      simp only [List.map_append, List.map_cons, List.sum_append, List.sum_cons, RewardCall.due,
        RewardCall.referral]
      ring
    rw [hsum]
    refine ⟨by linarith, fun hok => ?_⟩
    rw [hcalls, Table.forall_mem_around] at hok
    have hso : ∀ c ∈ m.calls, c.pc.hasFailed = false := by
      rw [hbefore, Table.forall_mem_around]
      refine ⟨Bool.eq_false_iff.mpr fun hfailed => ?_, hok.2⟩
      exact Bool.false_ne_true (hok.1.symm.trans (hstep.failed hfailed))
    linarith [heq hok.1, heq₀ hso]
  · have hrows := h.rows
    rw [hbefore, List.filter_append, List.filter_cons_of_neg (by simp [hstep.running]),
      List.map_append] at hrows
    rw [hstep.rows, hcalls, List.filter_append, List.filter_cons]
    by_cases hreturned : pc.hasReturned = true
    · simp only [hreturned, if_true, List.map_append, List.map_cons]
      exact (hrows.append_right _).trans
        ((List.perm_append_singleton _ _).trans List.perm_middle.symm)
    · simp only [hreturned, Bool.false_eq_true, if_false, List.append_nil, List.map_append]
      exact hrows

/-- The rewards are fair after every run. -/
theorem fair_final (hsettings : settings.Payable) (turns : List MembershipTurn) :
    (Final (Membership.exec lib loyaltyLib settings) .start turns).Fair settings := by
  refine final_invariant (I := Membership.Fair settings) (fun m turn hm => ?_) ?_ turns
  · cases turn with
    | request r => exact hm.serve r
    | reward i turn => exact hm.reward hsettings i turn
  · refine ⟨rfl, fun _ hcall => ?_, fun _ hcall => ?_, fun _ _ huser => ?_, .nil⟩
    · cases hcall
    · cases hcall
    · cases huser

theorem owes_nonneg {pc : LoyaltyPc} {r : Referral} (hpays : pc.Pays r)
    (hnonneg : 0 ≤ r.referrerReward ∧ 0 ≤ r.referredReward) (id : UserId) : 0 ≤ pc.owes id := by
  have hreferrer := Referral.forReferrer_nonneg hnonneg.1 id
  have hreferred := Referral.forReferred_nonneg hnonneg.2 id
  cases hpays with
  | settings => exact add_nonneg hreferrer hreferred
  | rewards =>
      refine add_nonneg ?_ ?_
      · split
        · exact hreferrer
        · exact le_rfl
      · split
        · exact hreferred
        · exact le_rfl
  | row | done => exact le_rfl

theorem of_hasReturned {pc : LoyaltyPc} (h : pc.hasReturned = true) :
    pc.hasFailed = false ∧ ∀ id, pc.owes id = 0 := by
  cases pc with
  | done result =>
      cases result with
      | ok => exact ⟨rfl, fun _ => rfl⟩
      | error => cases h
  | _ => cases h

end Runs

/-- What the invitations of a user are worth: a reward for every account that was invited, and
a welcome for an own one that was. -/
def rewardsOf (settings : ReferralSettings) (users : Table User) (id : UserId) (user : User) : ℚ :=
  orElse settings.referrer 5000 * (users.map User.referredBy).count (some id) +
    if user.referredBy.isSome then orElse settings.referred 2500 else 0

section Results

variable {lib : AuthLib} {loyaltyLib : LoyaltyLib} {settings : ReferralSettings}
  {m : Membership}

/-- What the calls are worth to a user. -/
theorem Membership.Fair.sum_worth (h : m.Fair settings) {id : UserId} {user : User}
    (huser : m.loyalty.users[id]? = some user) :
    (m.calls.map fun call => (call.referral settings).worth id).sum =
      rewardsOf settings m.loyalty.users id user := by
  have hcalls : (m.calls.map fun call => (call.referral settings).worth id) =
      (m.calls.map RewardCall.invitation).map fun invitation =>
        (settings.referral invitation.referrerId invitation.referredId).worth id := by
    rw [List.map_map]
    rfl
  rw [hcalls, h.invited, sum_worth_invitations, List.getElem?_map, huser]
  rfl

/-- The account that a call rewards was invited by the user that it rewards. -/
theorem Membership.Fair.invited_by (h : m.Fair settings) {call : RewardCall}
    (hcall : call ∈ m.calls) :
    ∃ user, m.loyalty.users[call.invitation.referredId]? = some user ∧
      user.referredBy = some call.invitation.referrerId := by
  have hmem := List.mem_map_of_mem (f := RewardCall.invitation) hcall
  rw [h.invited, mem_invitations_iff, List.getElem?_map, Option.map_eq_some_iff] at hmem
  exact hmem

/-- **The wallets hold the rewards.**  Requests are served and calls of the listener make their
steps in any order, and any of their statements may be rejected.  No wallet ever holds more than
the invitations of its user are worth; where every call has returned it holds that much.  A
referral is entered at most once for an account, for the user who has invited it, and where
every call has returned it is entered. -/
theorem wallets_hold_rewards (hsettings : settings.Payable) (turns : List MembershipTurn) :
    let m := Final (Membership.exec lib loyaltyLib settings) .start turns
    let returned := ∀ call ∈ m.calls, call.pc.hasReturned = true
    (∀ id user, m.accounts.users[id]? = some user →
      user.balance ≤ rewardsOf settings m.accounts.users id user ∧
        (returned → user.balance = rewardsOf settings m.accounts.users id user)) ∧
    (∀ r ∈ m.loyalty.referrals, ∃ user, m.accounts.users[r.referredId]? = some user ∧
      user.referredBy = some r.referrerId) ∧
    (m.loyalty.referrals.map Referral.referredId).Nodup ∧
    (returned → ∀ id user referrerId, m.accounts.users[id]? = some user →
      user.referredBy = some referrerId →
        settings.referral referrerId id ∈ m.loyalty.referrals) := by
  intro m returned
  have hfair : m.Fair settings := fair_final hsettings turns
  rw [← m.same_users]
  refine ⟨fun id user huser => ⟨?_, fun hreturned => ?_⟩, fun r hr => ?_, ?_,
    fun hreturned id user referrerId huser hreferrer => ?_⟩
  · calc user.balance ≤ (m.calls.map (RewardCall.due settings id)).sum :=
          (hfair.balances id user huser).1
      _ ≤ (m.calls.map fun call => (call.referral settings).worth id).sum :=
          List.sum_le_sum fun call hcall =>
            sub_le_self _ (owes_nonneg (hfair.pays call hcall) hsettings.nonneg id)
      _ = rewardsOf settings m.loyalty.users id user := hfair.sum_worth huser
  · rw [← hfair.sum_worth huser, (hfair.balances id user huser).2 fun call hcall =>
      (of_hasReturned (hreturned call hcall)).1]
    refine congrArg List.sum (List.map_congr_left fun call hcall => ?_)
    rw [RewardCall.due, (of_hasReturned (hreturned call hcall)).2 id, sub_zero]
  · obtain ⟨call, hcall, rfl⟩ := List.mem_map.mp (hfair.rows.mem_iff.mp hr)
    exact hfair.invited_by (List.mem_of_mem_filter hcall)
  · refine ((hfair.rows.map Referral.referredId).nodup_iff).mpr ?_
    rw [List.map_map]
    refine List.Nodup.sublist (List.filter_sublist.map _) ?_
    have hcalls : m.calls.map (Referral.referredId ∘ RewardCall.referral settings) =
        (m.calls.map RewardCall.invitation).map Invitation.referredId := by
      rw [List.map_map]
      rfl
    rw [hcalls, hfair.invited]
    exact nodup_invitations _
  · have hmem : (⟨referrerId, id⟩ : Invitation) ∈ m.calls.map RewardCall.invitation := by
      rw [hfair.invited, mem_invitations_iff, List.getElem?_map, huser, Option.map_some, hreferrer]
    obtain ⟨call, hcall, hinvitation⟩ := List.mem_map.mp hmem
    refine hfair.rows.mem_iff.mpr (List.mem_map.mpr
      ⟨call, List.mem_filter.mpr ⟨hcall, hreturned call hcall⟩, ?_⟩)
    rw [RewardCall.referral, hinvitation]

end Results

namespace Demo

/-- Awa registers with the code of Jean. -/
def awaJoins : RegisterDto :=
  { jean with
    firstName := "Awa"
    email := "awa@example.cm"
    referralCode := some "JXXCC" }

/-- Jean and Awa register, and the listener does its work. -/
def awaIsInvited : List MembershipTurn :=
  [.request ⟨0, .register jean⟩, .request ⟨1, .register awaJoins⟩,
    .reward 0 ⟨.succeeds 1, false⟩, .reward 0 ⟨.succeeds 1, true⟩, .reward 0 ⟨.succeeds 2, false⟩,
    .reward 0 ⟨.succeeds 2, false⟩]

def rewardSettings : ReferralSettings := ⟨some 5000, some 2500⟩

end Demo

section Examples

open Demo

/-- Jean has the reward and Awa the welcome. -/
theorem wallets_hold_rewards_awa :
    (Final (Membership.exec authLib loyaltyLib Demo.rewardSettings) .start
      awaIsInvited).accounts.users.map User.balance = [5000, 2500] ∧
    ((Final (Membership.exec authLib loyaltyLib Demo.rewardSettings) .start
      awaIsInvited).loyalty.referrals.map Referral.referredId).Nodup := by
  refine ⟨by decide +kernel, (wallets_hold_rewards ⟨⟨⟨500000, ?_⟩, ⟨250000, ?_⟩⟩, ?_⟩
    awaIsInvited).2.2.1⟩
  · decide +kernel
  · decide +kernel
  · decide +kernel

end Examples

end StayRide
