import StayRide.Lib.Table
import StayRide.Common.ServiceM

/-!
# Users, refresh tokens and the store of the accounts side

The tables `users` and `refresh_tokens`, with what TypeORM does between them and
the code:

* columns declared `select: false` are not loaded unless a query names them, so a
  loaded user has no password hash, no tokens and no expiry dates (`User.loaded`);
* an update leaves a column alone when the value given for it is `undefined`
  (`UserPatch`).

The store carries the constraints of the schema that the code relies on: a refresh
token belongs to a user, and no two refresh tokens have the same hash.  Every
operation of this module keeps them, so a store that violates them cannot be built.

Random values are drawn one after the other: the `n`-th draw of a run is a function
of `n` given by `AuthLib`, and the store counts the draws.

The columns `created_at` and `updated_at` of a user and `ip_address` of a refresh token
are left out: no modelled operation reads them.
-/

namespace StayRide

open Lib

/-! ## Entities -/

/-- A row of `users`.  As a loaded object it has `none` in the columns that were not
loaded. -/
structure User where
  email : String
  phone : Option String
  firstName : String
  lastName : String
  avatarUrl : Option String
  passwordHash : Option String
  role : UserRole
  language : Language
  isActive : Bool
  isEmailVerified : Bool
  emailVerifiedAt : Option Time
  emailVerificationToken : Option String
  emailVerificationExpires : Option Time
  passwordResetToken : Option String
  passwordResetExpires : Option Time
  referralCode : Option String
  referredBy : Option UserId
  loyaltyPoints : ℤ
  loyaltyTier : LoyaltyTier
  walletBalance : Amount
  deriving DecidableEq

/-- What `findOne` loads of a user when the query names no columns: everything but the
columns declared `select: false` and the relations. -/
def User.loaded (u : User) : User :=
  { u with
    passwordHash := none
    emailVerificationToken := none
    emailVerificationExpires := none
    passwordResetToken := none
    passwordResetExpires := none
    referredBy := none }

/-- The values of an update of a user; `none` is `undefined`. -/
structure UserPatch where
  passwordHash : Option String := none
  isEmailVerified : Option Bool := none
  emailVerifiedAt : Option Time := none
  emailVerificationToken : Option String := none
  emailVerificationExpires : Option Time := none
  passwordResetToken : Option String := none
  passwordResetExpires : Option Time := none

/-- The row after an update: columns whose value is `undefined` stay as they are. -/
def User.update (patch : UserPatch) (u : User) : User :=
  { u with
    passwordHash := patch.passwordHash <|> u.passwordHash
    isEmailVerified := patch.isEmailVerified.getD u.isEmailVerified
    emailVerifiedAt := patch.emailVerifiedAt <|> u.emailVerifiedAt
    emailVerificationToken := patch.emailVerificationToken <|> u.emailVerificationToken
    emailVerificationExpires :=
      patch.emailVerificationExpires <|> u.emailVerificationExpires
    passwordResetToken := patch.passwordResetToken <|> u.passwordResetToken
    passwordResetExpires := patch.passwordResetExpires <|> u.passwordResetExpires }

/-- JavaScript's `date < now` for a date that may be `undefined`: a comparison with
`undefined` is false. -/
def dateBefore (date : Option Time) (now : Time) : Bool :=
  match date with
  | none => false
  | some t => t < now

/-- The device a session was opened from; `{}` when it is not known. -/
structure DeviceInfo where
  ip : Option String := none
  userAgent : Option String := none
  deriving DecidableEq

/-- A row of `refresh_tokens`. -/
structure RefreshToken where
  userId : UserId
  tokenHash : String
  deviceInfo : DeviceInfo
  expiresAt : Time
  revokedAt : Option Time
  createdAt : Time
  deriving DecidableEq

/-- The update `{ revokedAt: new Date() }`. -/
def RefreshToken.revoke (now : Time) (t : RefreshToken) : RefreshToken :=
  { t with revokedAt := some now }

/-- The mails the accounts side sends. -/
inductive Mail
  | emailVerification (email firstName : String) (language : Language) (token : String)
  | passwordReset (email firstName : String) (language : Language) (token : String)
  deriving DecidableEq

/-- The events the accounts side emits. -/
inductive AuthEvent
  | referralCreated (referrerId referredId : UserId)
  | emailVerified (userId : UserId)
  deriving DecidableEq

/-! ## The store -/

/-- Everything the accounts side stores. -/
structure AuthStore where
  users : Table User
  refreshTokens : Table RefreshToken
  /-- How many random values have been drawn. -/
  drawn : ℕ
  mails : List Mail
  events : List AuthEvent
  /-- The foreign key `user_id`. -/
  owner_exists : ∀ (i : ℕ) (t : RefreshToken), refreshTokens[i]? = some t →
    t.userId < users.length
  /-- The unique index on `token_hash`. -/
  hash_unique : Table.PairwiseRows (fun a b : RefreshToken => a.tokenHash ≠ b.tokenHash)
    refreshTokens

namespace AuthStore

/-- Accounts, and nobody logged in yet. -/
def start (users : Table User) : AuthStore where
  users := users
  refreshTokens := []
  drawn := 0
  mails := []
  events := []
  owner_exists := by
    intro i t ht
    cases ht
  hash_unique := Table.pairwiseRows_nil _

variable (store : AuthStore)

def addUser (user : User) : AuthStore :=
  { store with
    users := store.users.insertRow user
    owner_exists := by
      intro i t ht
      rw [Table.length_insertRow]
      exact Nat.lt_succ_of_lt (store.owner_exists i t ht) }

def updateUser (id : UserId) (patch : UserPatch) : AuthStore :=
  { store with
    users := store.users.updateById id (User.update patch)
    owner_exists := by
      intro i t ht
      rw [Table.length_updateById]
      exact store.owner_exists i t ht }

/-- The database accepts a new refresh token: its user exists and its hash is new. -/
def Accepts (token : RefreshToken) : Prop :=
  token.userId < store.users.length ∧
    ∀ t ∈ store.refreshTokens, t.tokenHash ≠ token.tokenHash

instance (token : RefreshToken) : Decidable (store.Accepts token) :=
  inferInstanceAs (Decidable (_ ∧ _))

/-- Insert a refresh token that the database accepts. -/
def addToken (token : RefreshToken) : AuthStore :=
  if h : store.Accepts token then
    { store with
      refreshTokens := store.refreshTokens.insertRow token
      owner_exists := by
        intro i t ht
        rcases Table.getElem?_insertRow_eq_some.mp ht with hold | ⟨-, rfl⟩
        · exact store.owner_exists i t hold
        · exact h.1
      hash_unique := by
        rw [Table.PairwiseRows.insertRow_iff (fun a b hab => Ne.symm hab) store.hash_unique]
        intro j b hb
        exact (h.2 b (List.mem_of_getElem? hb)).symm }
  else store

/-- Revoke the refresh tokens that satisfy `p`. -/
def revokeWhere (p : TokenId → RefreshToken → Bool) (now : Time) : AuthStore :=
  { store with
    refreshTokens := store.refreshTokens.updateWhere p (RefreshToken.revoke now)
    owner_exists := by
      intro i t ht
      obtain ⟨t₀, ht₀, rfl⟩ := Table.getElem?_updateWhere_eq_some.mp ht
      have hlt := store.owner_exists i t₀ ht₀
      split <;> exact hlt
    hash_unique := by
      refine store.hash_unique.updateWhere p _ fun i j a b hab => ?_
      split <;> split <;> exact hab }

def countDraw : AuthStore :=
  { store with drawn := store.drawn + 1 }

def send (mail : Mail) : AuthStore :=
  { store with mails := store.mails ++ [mail] }

def emit (event : AuthEvent) : AuthStore :=
  { store with events := store.events ++ [event] }

/-! Reading the tables after an operation. -/

@[simp] theorem refreshTokens_revokeWhere (p : TokenId → RefreshToken → Bool) (now : Time) :
    (store.revokeWhere p now).refreshTokens =
      store.refreshTokens.updateWhere p (RefreshToken.revoke now) := rfl

@[simp] theorem users_addToken (token : RefreshToken) :
    (store.addToken token).users = store.users := by
  unfold addToken
  split <;> rfl

@[simp] theorem drawn_addToken (token : RefreshToken) :
    (store.addToken token).drawn = store.drawn := by
  unfold addToken
  split <;> rfl

@[simp] theorem mails_addToken (token : RefreshToken) :
    (store.addToken token).mails = store.mails := by
  unfold addToken
  split <;> rfl

theorem addToken_of_refused {store : AuthStore} {token : RefreshToken}
    (h : ¬ store.Accepts token) : store.addToken token = store := by
  rw [addToken, dif_neg h]

theorem refreshTokens_addToken {store : AuthStore} {token : RefreshToken}
    (h : store.Accepts token) :
    (store.addToken token).refreshTokens = store.refreshTokens.insertRow token := by
  rw [addToken, dif_pos h]

end AuthStore

/-- A refresh token as `findOne` with the relation `user` loads it. -/
structure StoredToken where
  id : TokenId
  token : RefreshToken
  user : User

namespace AuthStore

variable {store : AuthStore}

/-- The refresh token with this hash. -/
def findToken (store : AuthStore) (tokenHash : String) : Option StoredToken :=
  (store.refreshTokens.findWhere fun t => t.tokenHash = tokenHash).bind fun found =>
    store.users[found.2.userId]?.map fun user => ⟨found.1, found.2, user.loaded⟩

theorem findToken_eq_some {tokenHash : String} {stored : StoredToken}
    (h : store.findToken tokenHash = some stored) :
    store.refreshTokens[stored.id]? = some stored.token ∧
      stored.token.tokenHash = tokenHash ∧ stored.token.userId < store.users.length := by
  obtain ⟨⟨id, t⟩, hfind, hrest⟩ := Option.bind_eq_some_iff.mp h
  obtain ⟨user, huser, rfl⟩ := Option.map_eq_some_iff.mp hrest
  obtain ⟨hat, hhash⟩ := Table.findWhere_eq_some hfind
  exact ⟨hat, of_decide_eq_true hhash, store.owner_exists id t hat⟩

/-- Every stored token is found by its hash. -/
theorem findToken_of_row {id : TokenId} {t : RefreshToken}
    (h : store.refreshTokens[id]? = some t) :
    ∃ user, store.users[t.userId]? = some user ∧
      store.findToken t.tokenHash = some ⟨id, t, user.loaded⟩ := by
  have hlt : t.userId < store.users.length := store.owner_exists id t h
  refine ⟨store.users[t.userId], List.getElem?_eq_getElem hlt, ?_⟩
  rw [findToken, Table.findWhere_of_unique store.hash_unique h, Option.bind_some,
    List.getElem?_eq_getElem hlt, Option.map_some]

end AuthStore

end StayRide
