import StayRide.Auth.ConcurrentRefresh

/-!
# Withdrawing a session

Access is withdrawn in two ways: an administrator deactivates the user
(`UsersController.toggleActive`), or the user logs out.  It is used in three: by logging
in, by refreshing, and by presenting an access token, which `JwtStrategy.validate` checks.

`login` and `validate` ask whether the user is active; `refreshTokens` does not.  A logout
revokes the refresh token that the request carries, for good; the access token stays what
it was, since nothing puts its `jti` on the blacklist and `validate` does not look there.
So a deactivated user can go on refreshing, and a logged-out access token is accepted
until it expires (`withdrawal_fails`).

`withdrawal_iff` says which runs keep the law that neither happens: those in which every
refresh token that is renewed belongs to an active user, and every access token that is
presented after its logout to an inactive one.  In particular a refresh token is dead
after its logout in every run.

`TokenService.validateAccessToken` and the blacklist in Redis are left out: nothing calls
the one, and nothing writes the other.
-/

namespace StayRide

open Lib AuthM

/-! ## Active users -/

namespace AuthStore

variable (store : AuthStore)

/-- The update `{ isActive }`. -/
def setActive (id : UserId) (isActive : Bool) : AuthStore :=
  { store with
    users := store.users.updateById id fun u => { u with isActive := isActive }
    owner_exists := by
      intro i t ht
      rw [Table.length_updateById]
      exact store.owner_exists i t ht }

/-- The user exists and is active. -/
def isActive (id : UserId) : Bool :=
  store.users[id]?.any User.isActive

end AuthStore

/-- `UsersController.toggleActive`.  Its error is a plain `Error`, not an HTTP exception. -/
def toggleActive (store : AuthStore) (id : UserId) : Except String (Bool × AuthStore) :=
  match store.users[id]? with
  | none => .error "Utilisateur introuvable"
  | some user => .ok (!user.isActive, store.setActive id !user.isActive)

/-! ## `JwtStrategy` -/

/-- What `validate` puts into the request. -/
structure RequestUser where
  id : UserId
  email : String
  role : UserRole
  firstName : String
  lastName : String
  jti : String
  deriving DecidableEq

/-- `findOne` with the criterion `{ id, isActive: true }`. -/
def AuthM.findActiveUser (id : UserId) : AuthM (Option User) := do
  return ((← get).users[id]?.filter User.isActive).map User.loaded

/-- `JwtStrategy.validate`; the signature and the expiry of the token are checked before. -/
def validate (payload : JwtPayload) : AuthM RequestUser := do
  match ← findActiveUser payload.sub with
  | none => throw (.unauthorized "Utilisateur introuvable ou inactif")
  | some user =>
      return ⟨payload.sub, user.email, user.role, user.firstName, user.lastName, payload.jti⟩

/-- A logout request: the guard validates the access token, then `AuthService.logout`
serves the refresh token in the body. -/
def logoutRequest (lib : AuthLib) (accessToken : AccessToken) (refreshToken : Option String)
    (now : Time) : AuthM String := do
  let _ ← validate accessToken.payload
  logout lib refreshToken now

section Specs

variable (store : AuthStore)

theorem run_validate (payload : JwtPayload) :
    (validate payload).run store =
      match store.users[payload.sub]?.filter User.isActive with
      | none => .error (.unauthorized "Utilisateur introuvable ou inactif") store
      | some user => .ok ⟨payload.sub, user.email, user.role, user.firstName, user.lastName,
          payload.jti⟩ store := by
  have hfind : (findActiveUser payload.sub).run store =
      .ok ((store.users[payload.sub]?.filter User.isActive).map User.loaded) store := rfl
  unfold validate
  rw [EStateM.run_bind, hfind]
  cases store.users[payload.sub]?.filter User.isActive <;> rfl

/-- An access token is accepted exactly as long as its user is active. -/
theorem succeeds_validate (payload : JwtPayload) :
    (validate payload).succeeds store = store.isActive payload.sub := by
  rw [ServiceM.succeeds, run_validate, AuthStore.isActive]
  cases store.users[payload.sub]? with
  | none => rfl
  | some user => by_cases h : user.isActive <;> simp [Option.filter, h]

theorem storeAfter_validate (payload : JwtPayload) :
    (validate payload).storeAfter store = store := by
  rw [ServiceM.storeAfter, run_validate]
  cases store.users[payload.sub]?.filter User.isActive <;> rfl

theorem run_logoutRequest (lib : AuthLib) (accessToken : AccessToken)
    (refreshToken : Option String) (now : Time) :
    (logoutRequest lib accessToken refreshToken now).run store =
      if store.isActive accessToken.payload.sub then (logout lib refreshToken now).run store
      else .error (.unauthorized "Utilisateur introuvable ou inactif") store := by
  unfold logoutRequest
  rw [EStateM.run_bind, run_validate, AuthStore.isActive]
  cases store.users[accessToken.payload.sub]? with
  | none => rfl
  | some user => by_cases h : user.isActive <;> simp [Option.filter, h]

end Specs

/-! ## The calls -/

/-- A call that opens, uses or withdraws access. -/
inductive AccountCall
  | register (dto : RegisterDto)
  | login (dto : LoginDto) (deviceInfo : Option DeviceInfo)
  | refresh (refreshToken : String)
  | logout (accessToken : AccessToken) (refreshToken : Option String)
  | toggleActive (id : UserId)
  | authenticate (accessToken : AccessToken)

/-- A call and the time at which it is served. -/
structure AccountRequest where
  now : Time
  call : AccountCall

/-- The store, and the pairs of tokens with which somebody has logged out. -/
structure Sessions where
  store : AuthStore
  loggedOut : List (AccessToken × String)

/-- Nobody has logged out yet. -/
def Sessions.start (store : AuthStore) : Sessions := ⟨store, []⟩

section Calls

variable (lib : AuthLib)

/-- The pair of tokens that a logout request withdraws: the request is served, and the
refresh token it carries is one that was issued. -/
def withdrawnBy (store : AuthStore) (accessToken : AccessToken)
    (refreshToken : Option String) (now : Time) : List (AccessToken × String) :=
  match textOrNull refreshToken with
  | none => []
  | some token =>
      if (logoutRequest lib accessToken refreshToken now).succeeds store ∧
          (store.findToken (hashToken lib token)).isSome then [(accessToken, token)]
      else []

/-- The state after a call, whether it returned or threw. -/
def accountExec (s : Sessions) (r : AccountRequest) : Sessions :=
  match r.call with
  | .register dto => { s with store := authExec lib s.store ⟨r.now, .register dto⟩ }
  | .login dto deviceInfo =>
      { s with store := authExec lib s.store ⟨r.now, .login dto deviceInfo⟩ }
  | .refresh token => { s with store := authExec lib s.store ⟨r.now, .refresh token⟩ }
  | .logout accessToken refreshToken =>
      ⟨(logoutRequest lib accessToken refreshToken r.now).storeAfter s.store,
        s.loggedOut ++ withdrawnBy lib s.store accessToken refreshToken r.now⟩
  | .toggleActive id =>
      match toggleActive s.store id with
      | .error _ => s
      | .ok (_, store) => { s with store := store }
  | .authenticate accessToken =>
      { s with store := (validate accessToken.payload).storeAfter s.store }

/-- Tokens are returned for an active user only. -/
def OnlyForActive (store : AuthStore) : Except HttpException AuthResponse → Prop
  | .ok response => store.isActive response.userId = true
  | .error _ => True

instance (store : AuthStore) :
    (outcome : Except HttpException AuthResponse) → Decidable (OnlyForActive store outcome)
  | .ok response => inferInstanceAs (Decidable (store.isActive response.userId = true))
  | .error _ => inferInstanceAs (Decidable True)

/-- **The law of withdrawal**, for one call: tokens are returned for active users only, and
tokens with which somebody has logged out are refused. -/
def WithdrawalKept (s : Sessions) (r : AccountRequest) : Prop :=
  match r.call with
  | .login dto deviceInfo =>
      OnlyForActive s.store ((login lib dto deviceInfo r.now).outcome s.store)
  | .refresh token =>
      OnlyForActive s.store ((refresh lib token r.now).outcome s.store) ∧
        (token ∈ s.loggedOut.map Prod.snd →
          (refresh lib token r.now).succeeds s.store = false)
  | .authenticate accessToken =>
      accessToken ∈ s.loggedOut.map Prod.fst →
        (validate accessToken.payload).succeeds s.store = false
  | .register _ | .logout _ _ | .toggleActive _ => True

instance (s : Sessions) (r : AccountRequest) : Decidable (WithdrawalKept lib s r) := by
  unfold WithdrawalKept
  split <;> infer_instance

/-- The user whose session a refresh renews. -/
def refreshUser (store : AuthStore) (refreshToken : String) (now : Time) : Option UserId :=
  match store.findToken (hashToken lib refreshToken) with
  | none => none
  | some stored =>
      let revoked := store.revokeWhere (fun id _ => id = stored.id) now
      if stored.token.revokedAt.isSome then none
      else if stored.token.expiresAt < now then none
      else if revoked.Accepts (issuedRow lib revoked stored.token.userId none now) then
        some stored.token.userId
      else none

/-- A refresh renews the session of an active user, and an access token that is presented
after its logout belongs to an inactive one. -/
def UserStanding (s : Sessions) (r : AccountRequest) : Prop :=
  match r.call with
  | .refresh token =>
      ∀ userId ∈ refreshUser lib s.store token r.now, s.store.isActive userId = true
  | .authenticate accessToken =>
      accessToken ∈ s.loggedOut.map Prod.fst →
        s.store.isActive accessToken.payload.sub = false
  | .register _ | .login _ _ | .logout _ _ | .toggleActive _ => True

/-! ## What the calls return -/

variable {lib} {store : AuthStore}

/-- `login` checks that the user is active. -/
theorem onlyForActive_login (dto : LoginDto) (deviceInfo : Option DeviceInfo) (now : Time) :
    OnlyForActive store ((login lib dto deviceInfo now).outcome store) := by
  have hactive : ∀ found, loginUser lib store dto = .ok found →
      store.isActive found.1 = true := by
    intro found hfound
    unfold loginUser at hfound
    split at hfound
    · cases hfound
    · next userId user hfind =>
        obtain ⟨hat, -⟩ := Table.findWhere_eq_some hfind
        split at hfound
        · cases hfound
        · by_cases hisActive : user.isActive
          · rw [hisActive] at hfound
            split at hfound
            · cases hfound
            · split at hfound <;> cases hfound
              simp [AuthStore.isActive, hat, hisActive]
          · simp [hisActive] at hfound
  rw [ServiceM.outcome, run_login]
  cases hlogin : loginUser lib store dto with
  | error e => trivial
  | ok found =>
      dsimp only
      rw [ServiceM.run_map]
      cases (generateTokens lib found.1 found.2 deviceInfo now).run store with
      | ok tokens store' => exact hactive found hlogin
      | error e store' => trivial

/-- `refresh` does not: it returns tokens for the user of the token, whoever that is. -/
theorem onlyForActive_refresh_iff (token : String) (now : Time) :
    OnlyForActive store ((refresh lib token now).outcome store) ↔
      ∀ userId ∈ refreshUser lib store token now, store.isActive userId = true := by
  rw [ServiceM.outcome, run_refresh, ServiceM.run_map, run_refreshTokens, refreshUser]
  cases hfound : store.findToken (hashToken lib token) with
  | none => simp [OnlyForActive]
  | some stored =>
      by_cases hrevoked : stored.token.revokedAt.isSome
      · simp [OnlyForActive, hrevoked]
      by_cases hexpired : stored.token.expiresAt < now
      · simp [OnlyForActive, hrevoked, hexpired]
      · simp only [hrevoked, hexpired, if_false, Bool.false_eq_true, ServiceM.run_map,
          run_generateTokens]
        by_cases haccepts : (store.revokeWhere (fun id _ => id = stored.id) now).Accepts
            (issuedRow lib (store.revokeWhere (fun id _ => id = stored.id) now)
              stored.token.userId none now)
        · simp [haccepts, OnlyForActive]
        · simp [haccepts, OnlyForActive]

/-- A refresh with a revoked token throws. -/
theorem refresh_of_revoked {token : String} (now : Time) {id : TokenId} {t : RefreshToken}
    (ht : store.refreshTokens[id]? = some t) (hhash : t.tokenHash = hashToken lib token)
    (hrevoked : t.revokedAt.isSome = true) : (refresh lib token now).succeeds store = false := by
  obtain ⟨user, -, hfound⟩ := AuthStore.findToken_of_row ht
  rw [hhash] at hfound
  rw [ServiceM.succeeds, run_refresh, ServiceM.run_map, run_refreshTokens, hfound]
  simp [hrevoked]

/-! ## Refresh tokens stay revoked -/

/-- The row keeps its hash, and stays revoked if it is. -/
def StaysRevoked (t t' : RefreshToken) : Prop :=
  t'.tokenHash = t.tokenHash ∧ (t.revokedAt.isSome → t'.revokedAt.isSome)

theorem StaysRevoked.refl (t : RefreshToken) : StaysRevoked t t := ⟨rfl, id⟩

theorem evolves_revoke (p : TokenId → RefreshToken → Bool) (now : Time)
    (tokens : Table RefreshToken) :
    Table.Evolves StaysRevoked tokens (tokens.updateWhere p (RefreshToken.revoke now)) :=
  (Table.evolves_updateWhere_iff StaysRevoked.refl).mpr fun _ _ _ _ => ⟨rfl, fun _ => rfl⟩

/-- **One effect**: whatever a call does to the table, revoked rows stay revoked. -/
theorem SessionEffect.evolves (effect : SessionEffect) (tokens : Table RefreshToken) :
    Table.Evolves StaysRevoked tokens (effect.apply tokens) := by
  cases effect with
  | none => exact .refl StaysRevoked.refl tokens
  | issue token => exact .insertRow StaysRevoked.refl tokens token
  | rotate id token now =>
      refine (evolves_revoke _ now tokens).trans ?_ (.insertRow StaysRevoked.refl _ token)
      intro a b c hab hbc
      exact ⟨hbc.1.trans hab.1, fun ha => hbc.2 (hab.2 ha)⟩
  | revoke p now => exact evolves_revoke p now tokens

theorem rowsKept_authExec (r : AuthRequest) : RowsKept store (authExec lib store r) := by
  have hevolves := (sessionEffectOf lib store r).evolves store.refreshTokens
  rw [← exec_refreshTokens] at hevolves
  exact hevolves

theorem storeAfter_logoutRequest (accessToken : AccessToken) (refreshToken : Option String)
    (now : Time) :
    (logoutRequest lib accessToken refreshToken now).storeAfter store =
      if store.isActive accessToken.payload.sub then
        authExec lib store ⟨now, .logout refreshToken⟩
      else store := by
  rw [ServiceM.storeAfter, run_logoutRequest]
  by_cases h : store.isActive accessToken.payload.sub
  · rw [if_pos h, if_pos h]
    rfl
  · rw [if_neg h, if_neg h]

theorem rowsKept_refl (store : AuthStore) : RowsKept store store :=
  Table.Evolves.refl StaysRevoked.refl store.refreshTokens

/-- **One call** keeps the rows of the refresh tokens. -/
theorem rowsKept_accountExec (s : Sessions) (r : AccountRequest) :
    RowsKept s.store (accountExec lib s r).store := by
  unfold accountExec
  cases r.call with
  | register dto => exact rowsKept_authExec _
  | login dto deviceInfo => exact rowsKept_authExec _
  | refresh token => exact rowsKept_authExec _
  | logout accessToken refreshToken =>
      show RowsKept s.store ((logoutRequest lib accessToken refreshToken r.now).storeAfter s.store)
      rw [storeAfter_logoutRequest]
      split
      · exact rowsKept_authExec _
      · exact rowsKept_refl s.store
  | toggleActive id =>
      show RowsKept s.store (match toggleActive s.store id with
        | .error _ => s
        | .ok (_, store) => { s with store := store }).store
      unfold toggleActive
      cases s.store.users[id]? <;> exact rowsKept_refl s.store
  | authenticate accessToken =>
      show RowsKept s.store ((validate accessToken.payload).storeAfter s.store)
      rw [storeAfter_validate]
      exact rowsKept_refl s.store

/-- The refresh token with this value is stored and revoked. -/
def TokenRevoked (lib : AuthLib) (store : AuthStore) (token : String) : Prop :=
  ∃ (id : TokenId) (t : RefreshToken), store.refreshTokens[id]? = some t ∧
    t.tokenHash = hashToken lib token ∧ t.revokedAt.isSome = true

theorem TokenRevoked.mono {store' : AuthStore} {token : String} (h : TokenRevoked lib store token)
    (hkept : RowsKept store store') : TokenRevoked lib store' token := by
  obtain ⟨id, t, ht, hhash, hrevoked⟩ := h
  obtain ⟨t', ht', hhash', hrevoked'⟩ := hkept id t ht
  exact ⟨id, t', ht', hhash'.trans hhash, hrevoked' hrevoked⟩

/-- A logout revokes the refresh token of the pair it withdraws. -/
theorem tokenRevoked_of_withdrawn {accessToken : AccessToken} {refreshToken : Option String}
    {now : Time} {pair : AccessToken × String}
    (h : pair ∈ withdrawnBy lib store accessToken refreshToken now) :
    TokenRevoked lib ((logoutRequest lib accessToken refreshToken now).storeAfter store)
      pair.2 := by
  unfold withdrawnBy at h
  cases htoken : textOrNull refreshToken with
  | none =>
      rw [htoken] at h
      cases h
  | some token =>
      simp only [htoken] at h
      split at h
      · next hserved =>
          obtain rfl := List.mem_singleton.mp h
          obtain ⟨hsucceeds, hissued⟩ := hserved
          have hactive : store.isActive accessToken.payload.sub = true := by
            by_contra hnot
            rw [ServiceM.succeeds, run_logoutRequest, if_neg hnot] at hsucceeds
            cases hsucceeds
          obtain ⟨stored, hfound⟩ := Option.isSome_iff_exists.mp hissued
          obtain ⟨hat, hhash, -⟩ := AuthStore.findToken_eq_some hfound
          refine ⟨stored.id, stored.token.revoke now, ?_, hhash, rfl⟩
          rw [storeAfter_logoutRequest, if_pos hactive, exec_refreshTokens]
          show (SessionEffect.apply store.refreshTokens (match textOrNull refreshToken with
            | none => .none
            | some token =>
                .revoke (fun _ t => t.tokenHash = hashToken lib token) now))[stored.id]? = _
          rw [htoken]
          show (store.refreshTokens.updateWhere _ _)[stored.id]? = _
          rw [Table.getElem?_updateWhere, hat, Option.map_some, if_pos (decide_eq_true hhash)]
      · cases h

/-- The refresh tokens with which somebody has logged out are revoked. -/
def LoggedOutRevoked (lib : AuthLib) (s : Sessions) : Prop :=
  ∀ token ∈ s.loggedOut.map Prod.snd, TokenRevoked lib s.store token

/-- **One call** keeps the logged-out refresh tokens revoked. -/
theorem loggedOutRevoked_accountExec (s : Sessions) (r : AccountRequest)
    (h : LoggedOutRevoked lib s) : LoggedOutRevoked lib (accountExec lib s r) := by
  have hkept : RowsKept s.store (accountExec lib s r).store := rowsKept_accountExec s r
  intro token htoken
  by_cases hold : token ∈ s.loggedOut.map Prod.snd
  · exact (h token hold).mono hkept
  · -- Only a logout adds to the list.
    unfold accountExec at htoken ⊢
    cases hcall : r.call with
    | logout accessToken refreshToken =>
        simp only [hcall, List.map_append, List.mem_append] at htoken ⊢
        obtain ⟨pair, hpair, rfl⟩ := List.mem_map.mp (htoken.resolve_left hold)
        exact tokenRevoked_of_withdrawn hpair
    | register | login | refresh | authenticate =>
        simp only [hcall] at htoken
        exact absurd htoken hold
    | toggleActive id =>
        simp only [hcall] at htoken
        split at htoken <;> exact absurd htoken hold

/-! ## The law over whole runs -/

/-- For one call, where the logged-out refresh tokens are revoked. -/
theorem withdrawalKept_iff {s : Sessions} (h : LoggedOutRevoked lib s) (r : AccountRequest) :
    WithdrawalKept lib s r ↔ UserStanding lib s r := by
  unfold WithdrawalKept UserStanding
  cases r.call with
  | register | logout | toggleActive => exact Iff.rfl
  | login dto deviceInfo => exact iff_true_intro (onlyForActive_login dto deviceInfo r.now)
  | refresh token =>
      have hdead : token ∈ s.loggedOut.map Prod.snd →
          (refresh lib token r.now).succeeds s.store = false := by
        intro htoken
        obtain ⟨id, t, ht, hhash, hrevoked⟩ := h token htoken
        exact refresh_of_revoked r.now ht hhash hrevoked
      exact (and_iff_left hdead).trans (onlyForActive_refresh_iff token r.now)
  | authenticate accessToken =>
      show (_ → (validate accessToken.payload).succeeds s.store = false) ↔ _
      rw [succeeds_validate]

/-- **Session withdrawal.**  A run keeps the law of withdrawal exactly when every refresh
that renews a session does so for an active user, and every access token that is presented
after its logout belongs to a user who is not active. -/
theorem withdrawal_iff (lib : AuthLib) (store : AuthStore) (requests : List AccountRequest) :
    Guarded (accountExec lib) (WithdrawalKept lib) (.start store) requests ↔
      Guarded (accountExec lib) (UserStanding lib) (.start store) requests := by
  refine guarded_congr_invariant loggedOutRevoked_accountExec
    (fun s r hs => withdrawalKept_iff hs r) ?_ requests
  intro token htoken
  cases htoken

end Calls

/-! ## Two runs -/

namespace Demo

/-- The access token that the registration returned. -/
def accessToken : AccessToken :=
  ⟨⟨0, "jean.kamga@example.cm", .customer, authLib.randomUUID 3⟩, 0, authLib.jwtAccessExpires⟩

end Demo

/-- The registration returns the two tokens of the following runs. -/
example : ((register Demo.authLib Demo.jean 0).outcome (AuthStore.start [])).map
    AuthResponse.tokens = .ok ⟨Demo.accessToken, Demo.refreshToken, 900⟩ := by
  decide +kernel

/-- **Access that was withdrawn.**  A deactivated user refreshes; an access token is accepted
after the logout. -/
theorem withdrawal_fails :
    ¬ Guarded (accountExec Demo.authLib) (WithdrawalKept Demo.authLib) (.start (.start []))
      [⟨0, .register Demo.jean⟩, ⟨1, .toggleActive 0⟩, ⟨2, .refresh Demo.refreshToken⟩] ∧
    ¬ Guarded (accountExec Demo.authLib) (WithdrawalKept Demo.authLib) (.start (.start []))
      [⟨0, .register Demo.jean⟩, ⟨1, .logout Demo.accessToken (some Demo.refreshToken)⟩,
        ⟨2, .authenticate Demo.accessToken⟩] := by
  constructor <;> decide +kernel

end StayRide
