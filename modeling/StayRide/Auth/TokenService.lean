import StayRide.Auth.Store

/-!
# `TokenService`

`modules/auth/token.service.ts`: issuing a pair of tokens, rotating a refresh
token, and revoking refresh tokens.  Only the hash of a refresh token is stored.
A refresh token that is presented after it was revoked is taken for stolen, and
all refresh tokens of its user are revoked.

Each method has one equation that says what a run of it does (`run_*`); later
modules use these and never unfold a method.
-/

namespace StayRide

open Lib

/-- What the libraries and the configuration contribute.  The functions of a number
give the `n`-th random value of a run. -/
structure AuthLib where
  /-- `crypto.randomBytes(32).toString('hex')` -/
  secureToken : ℕ → String
  /-- `crypto.randomUUID()` -/
  randomUUID : ℕ → String
  /-- `Math.random().toString(36).slice(2, 7).toUpperCase()` -/
  randomSuffix : ℕ → String
  sha256 : String → String
  /-- `argon2.hash` with the salt of this draw. -/
  argon2Hash : ℕ → String → String
  argon2Verify : (hash password : String) → Bool
  toLowerCase : String → String
  toUpperCase : String → String
  /-- `JWT_ACCESS_EXPIRES`, `15m` unless configured. -/
  jwtAccessExpires : String

/-- A call of a service of the accounts side. -/
abbrev AuthM (α : Type) := ServiceM AuthStore α

namespace AuthM

/-- The next random value. -/
def draw {α : Type} (value : ℕ → α) : AuthM α := do
  let store ← get
  set store.countDraw
  return value store.drawn

def findRefreshToken (tokenHash : String) : AuthM (Option StoredToken) := do
  return (← get).findToken tokenHash

def insertRefreshToken (token : RefreshToken) : AuthM Unit := do
  let store ← get
  if store.Accepts token then
    set (store.addToken token)
  else
    throw .queryFailed

def revokeTokensWhere (p : TokenId → RefreshToken → Bool) (now : Time) : AuthM Unit :=
  modify fun store => store.revokeWhere p now

end AuthM

open AuthM

/-! ## The service -/

/-- The claims of an access token. -/
structure JwtPayload where
  sub : UserId
  email : String
  role : UserRole
  jti : String
  deriving DecidableEq

/-- A signed access token. -/
structure AccessToken where
  payload : JwtPayload
  signedAt : Time
  expiresIn : String
  deriving DecidableEq

/-- What `generateTokens` returns. -/
structure TokenPair where
  accessToken : AccessToken
  refreshToken : String
  expiresIn : ℕ
  deriving DecidableEq

section Service

variable (lib : AuthLib)

def generateSecureToken : AuthM String :=
  draw lib.secureToken

def hashToken (token : String) : String :=
  lib.sha256 token

/-- The row `generateTokens` stores; `setDate(getDate() + 30)` is 30 days of 24 hours. -/
def newRefreshToken (userId : UserId) (value : String) (deviceInfo : Option DeviceInfo)
    (now : Time) : RefreshToken where
  userId := userId
  tokenHash := hashToken lib value
  deviceInfo := deviceInfo.getD {}
  expiresAt := now + 30 * oneDay
  revokedAt := none
  createdAt := now

def generateTokens (userId : UserId) (user : User) (deviceInfo : Option DeviceInfo)
    (now : Time) : AuthM TokenPair := do
  let jti ← draw lib.randomUUID
  let payload : JwtPayload := ⟨userId, user.email, user.role, jti⟩
  let accessToken : AccessToken := ⟨payload, now, lib.jwtAccessExpires⟩
  let refreshTokenValue ← generateSecureToken lib
  insertRefreshToken (newRefreshToken lib userId refreshTokenValue deviceInfo now)
  return ⟨accessToken, refreshTokenValue, 900⟩

def revokeRefreshToken (refreshToken : String) (now : Time) : AuthM Unit :=
  revokeTokensWhere (fun _ t => t.tokenHash = hashToken lib refreshToken) now

/-- The criterion `revokedAt: undefined` is dropped, so the tokens that are already
revoked are updated too. -/
def revokeAllUserTokens (userId : UserId) (now : Time) : AuthM Unit :=
  revokeTokensWhere (fun _ t => t.userId = userId) now

def invalidRefreshToken : HttpException := .unauthorized "Refresh token invalide"

def compromisedSession : HttpException :=
  .unauthorized "Session compromise. Reconnectez-vous."

def expiredSession : HttpException := .unauthorized "Session expirée. Reconnectez-vous."

/-- What `refreshTokens` returns: the user and the new tokens. -/
structure Refreshed where
  userId : UserId
  user : User
  newTokens : TokenPair
  deriving DecidableEq

def refreshTokens (refreshToken : String) (now : Time) : AuthM Refreshed := do
  match ← findRefreshToken (hashToken lib refreshToken) with
  | none => throw invalidRefreshToken
  | some storedToken =>
      if storedToken.token.revokedAt.isSome then
        revokeAllUserTokens storedToken.token.userId now
        throw compromisedSession
      if storedToken.token.expiresAt < now then
        throw expiredSession
      revokeTokensWhere (fun id _ => id = storedToken.id) now
      let newTokens ← generateTokens lib storedToken.token.userId storedToken.user none now
      return ⟨storedToken.token.userId, storedToken.user, newTokens⟩

/-! ## What the methods do -/

variable (store : AuthStore)

@[simp] theorem run_draw {α : Type} (value : ℕ → α) :
    (draw value).run store = .ok (value store.drawn) store.countDraw := rfl

@[simp] theorem run_findRefreshToken (tokenHash : String) :
    (findRefreshToken tokenHash).run store = .ok (store.findToken tokenHash) store := rfl

@[simp] theorem run_revokeTokensWhere (p : TokenId → RefreshToken → Bool) (now : Time) :
    (revokeTokensWhere p now).run store = .ok () (store.revokeWhere p now) := rfl

theorem run_insertRefreshToken (token : RefreshToken) :
    (insertRefreshToken token).run store =
      if store.Accepts token then .ok () (store.addToken token)
      else .error .queryFailed store := by
  unfold insertRefreshToken
  by_cases h : store.Accepts token <;> simp [h]

/-- The row `generateTokens` stores. -/
def issuedRow (userId : UserId) (deviceInfo : Option DeviceInfo) (now : Time) :
    RefreshToken :=
  newRefreshToken lib userId (lib.secureToken (store.drawn + 1)) deviceInfo now

/-- The tokens `generateTokens` returns. -/
def issuedPair (userId : UserId) (user : User) (now : Time) : TokenPair :=
  ⟨⟨⟨userId, user.email, user.role, lib.randomUUID store.drawn⟩, now,
    lib.jwtAccessExpires⟩, lib.secureToken (store.drawn + 1), 900⟩

theorem run_generateTokens (userId : UserId) (user : User) (deviceInfo : Option DeviceInfo)
    (now : Time) :
    (generateTokens lib userId user deviceInfo now).run store =
      if store.Accepts (issuedRow lib store userId deviceInfo now) then
        .ok (issuedPair lib store userId user now)
          (store.countDraw.countDraw.addToken (issuedRow lib store userId deviceInfo now))
      else .error .queryFailed store.countDraw.countDraw := by
  unfold generateTokens generateSecureToken
  have haccepts : store.countDraw.countDraw.Accepts
      (newRefreshToken lib userId (lib.secureToken store.countDraw.drawn) deviceInfo now) ↔
        store.Accepts (issuedRow lib store userId deviceInfo now) := Iff.rfl
  simp only [EStateM.run_bind, run_draw, run_insertRefreshToken, haccepts]
  by_cases h : store.Accepts (issuedRow lib store userId deviceInfo now)
  · rw [if_pos h, if_pos h]
    rfl
  · rw [if_neg h, if_neg h]

/-- A row that the database refuses leaves no trace but the two draws. -/
theorem generateTokens_storeAfter (userId : UserId) (user : User)
    (deviceInfo : Option DeviceInfo) (now : Time) :
    (generateTokens lib userId user deviceInfo now).storeAfter store =
      store.countDraw.countDraw.addToken (issuedRow lib store userId deviceInfo now) := by
  unfold ServiceM.storeAfter
  rw [run_generateTokens]
  by_cases h : store.Accepts (issuedRow lib store userId deviceInfo now)
  · rw [if_pos h]
  · rw [if_neg h, AuthStore.addToken_of_refused (show ¬ store.countDraw.countDraw.Accepts _ from h)]

theorem run_refreshTokens (refreshToken : String) (now : Time) :
    (refreshTokens lib refreshToken now).run store =
      match store.findToken (hashToken lib refreshToken) with
      | none => .error invalidRefreshToken store
      | some stored =>
          if stored.token.revokedAt.isSome then
            .error compromisedSession
              (store.revokeWhere (fun _ t => t.userId = stored.token.userId) now)
          else if stored.token.expiresAt < now then .error expiredSession store
          else
            (Refreshed.mk stored.token.userId stored.user <$>
              generateTokens lib stored.token.userId stored.user none now).run
                (store.revokeWhere (fun id _ => id = stored.id) now) := by
  unfold refreshTokens
  rw [EStateM.run_bind, run_findRefreshToken]
  cases store.findToken (hashToken lib refreshToken) with
  | none => rfl
  | some stored =>
      by_cases hrevoked : stored.token.revokedAt.isSome
      · simp [hrevoked, revokeAllUserTokens]
      by_cases hexpired : stored.token.expiresAt < now
      · simp [hrevoked, hexpired]
      · simp [hrevoked, hexpired]

end Service

end StayRide
