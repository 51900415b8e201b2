import StayRide.Auth.AuthService

/-!
# The calls of the accounts side and their effects

`AuthCall` lists the calls of the accounts side, and `authExec` runs one to its end.
What a call does to the two tables is said once, as an effect:

* `userEffectOf` and `exec_users` for the users: a call adds a user, or updates one, or
  leaves the table alone;
* `sessionEffectOf` and `exec_refreshTokens` for the refresh tokens: a call issues a
  token, replaces one by another, revokes tokens, or leaves the table alone.

Invariants of the tables are then proved for the effects.
-/

namespace StayRide

open Lib AuthM

/-- A call of `AuthService` or of `TokenService`, with its arguments. -/
inductive AuthCall
  | register (dto : RegisterDto)
  | login (dto : LoginDto) (deviceInfo : Option DeviceInfo)
  | refresh (refreshToken : String)
  | logout (refreshToken : Option String)
  | revokeRefreshToken (refreshToken : String)
  | revokeAllUserTokens (userId : UserId)
  | verifyEmail (token : String)
  | forgotPassword (email : String)
  | resetPassword (token newPassword : String)
  | resendVerification (userId : UserId)

/-- A call and the time at which it is served. -/
structure AuthRequest where
  now : Time
  call : AuthCall

section Calls

variable (lib : AuthLib) (store : AuthStore)

/-- The store after a call, whether it returned or threw. -/
def authExec (r : AuthRequest) : AuthStore :=
  match r.call with
  | .register dto => (register lib dto r.now).storeAfter store
  | .login dto deviceInfo => (login lib dto deviceInfo r.now).storeAfter store
  | .refresh token => (refresh lib token r.now).storeAfter store
  | .logout token => (logout lib token r.now).storeAfter store
  | .revokeRefreshToken token => (revokeRefreshToken lib token r.now).storeAfter store
  | .revokeAllUserTokens userId => (revokeAllUserTokens userId r.now).storeAfter store
  | .verifyEmail token => (verifyEmail token r.now).storeAfter store
  | .forgotPassword email => (forgotPassword lib email r.now).storeAfter store
  | .resetPassword token password => (resetPassword lib token password r.now).storeAfter store
  | .resendVerification userId => (resendVerification lib userId r.now).storeAfter store

/-! ## Users -/

/-- What a call does to the users. -/
inductive UserEffect
  | none
  | add (user : User)
  | update (id : UserId) (patch : UserPatch)

def UserEffect.apply (users : Table User) : UserEffect → Table User
  | .none => users
  | .add user => users.insertRow user
  | .update id patch => users.updateById id (User.update patch)

def userEffectOf (r : AuthRequest) : UserEffect :=
  match r.call with
  | .register dto =>
      if (store.findUser fun u => u.email = lib.toLowerCase dto.email).isSome then .none
      else if store.AcceptsUser (registeredUser lib store dto r.now) then
        .add (registeredUser lib store dto r.now)
      else .none
  | .verifyEmail token =>
      match store.users.findWhere fun u => u.emailVerificationToken = some token with
      | none => .none
      | some (userId, user) =>
          if user.isEmailVerified then .none
          else .update userId { isEmailVerified := some true, emailVerifiedAt := some r.now }
  | .forgotPassword email =>
      match store.users.findWhere fun u => u.email = lib.toLowerCase email with
      | none => .none
      | some (userId, _) =>
          .update userId
            { passwordResetToken := some (lib.secureToken store.drawn)
              passwordResetExpires := some (r.now + hour) }
  | .resetPassword token password =>
      match store.users.findWhere fun u => u.passwordResetToken = some token with
      | none => .none
      | some (userId, _) =>
          .update userId { passwordHash := some (lib.argon2Hash store.drawn password) }
  | .resendVerification userId =>
      match store.users[userId]? with
      | none => .none
      | some user =>
          if user.isEmailVerified then .none
          else .update userId
            { emailVerificationToken := some (lib.secureToken store.drawn)
              emailVerificationExpires := some (r.now + 24 * hour) }
  | .login _ _ | .refresh _ | .logout _ | .revokeRefreshToken _ | .revokeAllUserTokens _ =>
      .none

/-! ## Refresh tokens -/

/-- What a call does to the refresh tokens. -/
inductive SessionEffect
  | none
  /-- A user logs in. -/
  | issue (token : RefreshToken)
  /-- The token with the key `id` is revoked and replaced. -/
  | rotate (id : TokenId) (token : RefreshToken) (now : Time)
  | revoke (p : TokenId → RefreshToken → Bool) (now : Time)

def SessionEffect.apply (tokens : Table RefreshToken) : SessionEffect → Table RefreshToken
  | .none => tokens
  | .issue token => tokens.insertRow token
  | .rotate id token now =>
      (tokens.updateWhere (fun i _ => i = id) (RefreshToken.revoke now)).insertRow token
  | .revoke p now => tokens.updateWhere p (RefreshToken.revoke now)

/-- A token that the database accepts is issued. -/
def issueEffect (token : RefreshToken) : SessionEffect :=
  if store.Accepts token then .issue token else .none

def sessionEffectOf (r : AuthRequest) : SessionEffect :=
  match r.call with
  | .register dto =>
      if (store.findUser fun u => u.email = lib.toLowerCase dto.email).isSome then .none
      else if store.AcceptsUser (registeredUser lib store dto r.now) then
        let registered := registeredStore lib store dto r.now
        issueEffect registered (issuedRow lib registered store.users.length none r.now)
      else .none
  | .login dto deviceInfo =>
      match loginUser lib store dto with
      | .error _ => .none
      | .ok (userId, _) => issueEffect store (issuedRow lib store userId deviceInfo r.now)
  | .refresh token =>
      match store.findToken (hashToken lib token) with
      | none => .none
      | some stored =>
          if stored.token.revokedAt.isSome then
            .revoke (fun _ t => t.userId = stored.token.userId) r.now
          else if stored.token.expiresAt < r.now then .none
          else
            let revoked := store.revokeWhere (fun id _ => id = stored.id) r.now
            let token := issuedRow lib revoked stored.token.userId none r.now
            if revoked.Accepts token then .rotate stored.id token r.now
            else .revoke (fun id _ => id = stored.id) r.now
  | .logout token =>
      match textOrNull token with
      | none => .none
      | some token => .revoke (fun _ t => t.tokenHash = hashToken lib token) r.now
  | .revokeRefreshToken token => .revoke (fun _ t => t.tokenHash = hashToken lib token) r.now
  | .revokeAllUserTokens userId => .revoke (fun _ t => t.userId = userId) r.now
  | .resetPassword token _ =>
      match store.users.findWhere fun u => u.passwordResetToken = some token with
      | none => .none
      | some (userId, _) => .revoke (fun _ t => t.userId = userId) r.now
  | .verifyEmail _ | .forgotPassword _ | .resendVerification _ => .none

/-! ## The store after a call -/

theorem register_storeAfter (dto : RegisterDto) (now : Time) :
    (register lib dto now).storeAfter store =
      if (store.findUser fun u => u.email = lib.toLowerCase dto.email).isSome then store
      else if store.AcceptsUser (registeredUser lib store dto now) then
        (registeredStore lib store dto now).countDraw.countDraw.addToken
          (issuedRow lib (registeredStore lib store dto now) store.users.length none now)
      else store.countDraw.countDraw.countDraw := by
  rw [← generateTokens_storeAfter lib _ _ (registeredUser lib store dto now)]
  unfold ServiceM.storeAfter
  rw [run_register]
  by_cases hexisting : (store.findUser fun u => u.email = lib.toLowerCase dto.email).isSome
  · rw [if_pos hexisting, if_pos hexisting]
  rw [if_neg hexisting, if_neg hexisting]
  by_cases hnew : store.AcceptsUser (registeredUser lib store dto now)
  · rw [if_pos hnew, if_pos hnew]
    exact ServiceM.storeAfter_map _ _ _
  · rw [if_neg hnew, if_neg hnew]

theorem login_storeAfter (dto : LoginDto) (deviceInfo : Option DeviceInfo) (now : Time) :
    (login lib dto deviceInfo now).storeAfter store =
      match loginUser lib store dto with
      | .error _ => store
      | .ok (userId, _) =>
          store.countDraw.countDraw.addToken (issuedRow lib store userId deviceInfo now) := by
  unfold ServiceM.storeAfter
  rw [run_login]
  cases loginUser lib store dto with
  | error e => rfl
  | ok found =>
      exact (ServiceM.storeAfter_map _ _ _).trans
        (generateTokens_storeAfter lib store found.1 found.2 deviceInfo now)

theorem refreshTokens_storeAfter (refreshToken : String) (now : Time) :
    (refreshTokens lib refreshToken now).storeAfter store =
      match store.findToken (hashToken lib refreshToken) with
      | none => store
      | some stored =>
          if stored.token.revokedAt.isSome then
            store.revokeWhere (fun _ t => t.userId = stored.token.userId) now
          else if stored.token.expiresAt < now then store
          else
            let revoked := store.revokeWhere (fun id _ => id = stored.id) now
            revoked.countDraw.countDraw.addToken
              (issuedRow lib revoked stored.token.userId none now) := by
  unfold ServiceM.storeAfter
  rw [run_refreshTokens]
  cases store.findToken (hashToken lib refreshToken) with
  | none => rfl
  | some stored =>
      by_cases hrevoked : stored.token.revokedAt.isSome
      · simp only [hrevoked, if_true]
      by_cases hexpired : stored.token.expiresAt < now
      · simp only [hrevoked, hexpired, Bool.false_eq_true, if_true, if_false]
      · simp only [hrevoked, hexpired, Bool.false_eq_true, if_false]
        rw [← generateTokens_storeAfter lib _ _ stored.user]
        exact ServiceM.storeAfter_map _ _ _

theorem refresh_storeAfter (refreshToken : String) (now : Time) :
    (refresh lib refreshToken now).storeAfter store =
      (refreshTokens lib refreshToken now).storeAfter store := by
  rw [ServiceM.storeAfter, run_refresh]
  exact ServiceM.storeAfter_map _ _ _

/-! ## The tables after a call -/

/-- Issuing a token adds the accepted row, and nothing else of the tables changes. -/
theorem issued_tables (token : RefreshToken) :
    let after := store.countDraw.countDraw.addToken token
    after.users = store.users ∧
      after.refreshTokens = (issueEffect store token).apply store.refreshTokens ∧
      after.drawn = store.drawn + 2 := by
  intro after
  refine ⟨AuthStore.users_addToken _ token, ?_, AuthStore.drawn_addToken _ token⟩
  by_cases h : store.Accepts token
  · rw [issueEffect, if_pos h]
    exact AuthStore.refreshTokens_addToken
      (show store.countDraw.countDraw.Accepts token from h)
  · rw [issueEffect, if_neg h]
    show (store.countDraw.countDraw.addToken token).refreshTokens = _
    rw [AuthStore.addToken_of_refused (show ¬ store.countDraw.countDraw.Accepts token from h)]
    rfl

theorem registered_tables (dto : RegisterDto) (now : Time) :
    let registered := registeredStore lib store dto now
    registered.users = store.users.insertRow (registeredUser lib store dto now) ∧
      registered.refreshTokens = store.refreshTokens ∧
      registered.drawn = store.drawn + 3 := by
  unfold registeredStore AuthStore.emitReferral
  split <;> exact ⟨rfl, rfl, rfl⟩

/-- The tables after a call are what its effects make of them. -/
theorem exec_tables (r : AuthRequest) :
    (authExec lib store r).users = (userEffectOf lib store r).apply store.users ∧
      (authExec lib store r).refreshTokens =
        (sessionEffectOf lib store r).apply store.refreshTokens ∧
      store.drawn ≤ (authExec lib store r).drawn := by
  obtain ⟨now, call⟩ := r
  cases call with
  | register dto =>
      simp only [authExec, userEffectOf, sessionEffectOf, register_storeAfter]
      split
      · exact ⟨rfl, rfl, le_rfl⟩
      · split
        · obtain ⟨husers, htokens, hdrawn⟩ := registered_tables lib store dto now
          obtain ⟨husers', htokens', hdrawn'⟩ := issued_tables
            (registeredStore lib store dto now)
            (issuedRow lib (registeredStore lib store dto now) store.users.length none now)
          refine ⟨husers'.trans husers, ?_, ?_⟩
          · rw [htokens', htokens]
          · rw [hdrawn', hdrawn]
            exact Nat.le_add_right _ 5
        · exact ⟨rfl, rfl, Nat.le_add_right _ 3⟩
  | login dto deviceInfo =>
      simp only [authExec, userEffectOf, sessionEffectOf, login_storeAfter]
      split
      · exact ⟨rfl, rfl, le_rfl⟩
      · obtain ⟨husers, htokens, hdrawn⟩ := issued_tables store _
        exact ⟨husers, htokens, hdrawn ▸ Nat.le_add_right _ 2⟩
  | refresh token =>
      simp only [authExec, userEffectOf, sessionEffectOf, refresh_storeAfter,
        refreshTokens_storeAfter]
      split
      · exact ⟨rfl, rfl, le_rfl⟩
      · next stored hfound =>
          split
          · exact ⟨rfl, rfl, le_rfl⟩
          · split
            · exact ⟨rfl, rfl, le_rfl⟩
            · obtain ⟨husers, htokens, hdrawn⟩ := issued_tables
                (store.revokeWhere (fun id _ => id = stored.id) now) _
              refine ⟨husers, htokens.trans ?_, hdrawn ▸ Nat.le_add_right _ 2⟩
              unfold issueEffect
              split <;> rfl
  | logout token =>
      simp only [authExec, userEffectOf, sessionEffectOf, ServiceM.storeAfter, run_logout]
      cases textOrNull token <;> exact ⟨rfl, rfl, le_rfl⟩
  | revokeRefreshToken token => exact ⟨rfl, rfl, le_rfl⟩
  | revokeAllUserTokens userId => exact ⟨rfl, rfl, le_rfl⟩
  | verifyEmail token =>
      simp only [authExec, userEffectOf, sessionEffectOf, ServiceM.storeAfter, run_verifyEmail]
      cases store.users.findWhere fun u => u.emailVerificationToken = some token with
      | none => exact ⟨rfl, rfl, le_rfl⟩
      | some found =>
          by_cases hv : found.2.isEmailVerified <;> simp only [hv] <;>
            exact ⟨rfl, rfl, le_rfl⟩
  | forgotPassword email =>
      simp only [authExec, userEffectOf, sessionEffectOf, ServiceM.storeAfter,
        run_forgotPassword]
      cases store.users.findWhere fun u => u.email = lib.toLowerCase email with
      | none => exact ⟨rfl, rfl, le_rfl⟩
      | some found => exact ⟨rfl, rfl, Nat.le_succ _⟩
  | resetPassword token password =>
      simp only [authExec, userEffectOf, sessionEffectOf, ServiceM.storeAfter,
        run_resetPassword]
      cases store.users.findWhere fun u => u.passwordResetToken = some token with
      | none => exact ⟨rfl, rfl, le_rfl⟩
      | some found => exact ⟨rfl, rfl, Nat.le_succ _⟩
  | resendVerification userId =>
      simp only [authExec, userEffectOf, sessionEffectOf, ServiceM.storeAfter,
        run_resendVerification]
      cases store.users[userId]? with
      | none => exact ⟨rfl, rfl, le_rfl⟩
      | some user =>
          by_cases hv : user.isEmailVerified <;> simp only [hv]
          · exact ⟨rfl, rfl, le_rfl⟩
          · exact ⟨rfl, rfl, Nat.le_succ _⟩

/-- **What a call does to the users.** -/
theorem exec_users (r : AuthRequest) :
    (authExec lib store r).users = (userEffectOf lib store r).apply store.users :=
  (exec_tables lib store r).1

/-- **What a call does to the refresh tokens.** -/
theorem exec_refreshTokens (r : AuthRequest) :
    (authExec lib store r).refreshTokens =
      (sessionEffectOf lib store r).apply store.refreshTokens :=
  (exec_tables lib store r).2.1

/-- Draws are only added. -/
theorem drawn_le_exec (r : AuthRequest) : store.drawn ≤ (authExec lib store r).drawn :=
  (exec_tables lib store r).2.2

variable {lib store}

/-- Only a registration adds a user: the one it was asked for, if the database accepts it. -/
theorem userEffectOf_eq_add {r : AuthRequest} {user : User}
    (h : userEffectOf lib store r = .add user) :
    ∃ dto, r.call = .register dto ∧
      ¬ (store.findUser fun u => u.email = lib.toLowerCase dto.email).isSome ∧
      store.AcceptsUser (registeredUser lib store dto r.now) ∧
      user = registeredUser lib store dto r.now := by
  obtain ⟨now, call⟩ := r
  cases call with
  | register dto =>
      simp only [userEffectOf] at h
      split at h
      · cases h
      · next hnone =>
          split at h
          · next haccepts => exact ⟨dto, rfl, hnone, haccepts, (UserEffect.add.inj h).symm⟩
          · cases h
  | verifyEmail | resendVerification =>
      simp only [userEffectOf] at h
      split at h
      · cases h
      · split at h <;> cases h
  | forgotPassword | resetPassword =>
      simp only [userEffectOf] at h
      split at h <;> cases h
  | login | refresh | logout | revokeRefreshToken | revokeAllUserTokens => cases h

end Calls

end StayRide
