import StayRide.Auth.TokenService

/-!
# `AuthService`

`modules/auth/auth.service.ts`: registration, login, e-mail verification and the
reset of a forgotten password.

`verifyEmail` and `resetPassword` look a user up by a token and compare the expiry
date of the token with the time.  The lookups name no columns, so the expiry date is
not loaded and the comparison is with `undefined`; and they mean to clear the token
by updating it to `undefined`, which updates nothing.  The definitions say so through
`User.loaded` and `UserPatch`.

A mail that cannot be sent is logged and otherwise ignored (`sendEmail` catches
everything), so sending a mail always returns.
-/

namespace StayRide

open Lib AuthM

namespace AuthM

/-- `findOne` without `select`. -/
def findUser (p : User → Bool) : AuthM (Option (UserId × User)) := do
  return ((← get).users.findWhere p).map fun found => (found.1, found.2.loaded)

/-- `findOneOrFail` by key. -/
def findUserById (id : UserId) : AuthM User := do
  match (← get).users[id]? with
  | none => throw .entityNotFound
  | some user => return user.loaded

def updateUser (id : UserId) (patch : UserPatch) : AuthM Unit :=
  modify fun store => store.updateUser id patch

def sendMail (mail : Mail) : AuthM Unit :=
  modify fun store => store.send mail

def emit (event : AuthEvent) : AuthM Unit :=
  modify fun store => store.emit event

end AuthM

/-- The database accepts a new user: the unique columns `email` and `referral_code` are
new. -/
def AuthStore.AcceptsUser (store : AuthStore) (user : User) : Prop :=
  ∀ u ∈ store.users, u.email ≠ user.email ∧
    (user.referralCode = none ∨ u.referralCode ≠ user.referralCode)

instance (store : AuthStore) (user : User) : Decidable (store.AcceptsUser user) :=
  inferInstanceAs (Decidable (∀ u ∈ store.users, _))

/-- Insert a user; the answer is its key. -/
def AuthM.insertUser (user : User) : AuthM UserId := do
  let store ← get
  if store.AcceptsUser user then
    set (store.addUser user)
    return store.users.length
  else
    throw .queryFailed

/-! ## Requests and responses -/

structure RegisterDto where
  firstName : String
  lastName : String
  email : String
  phone : Option String := none
  password : String
  language : Option Language := none
  referralCode : Option String := none

structure LoginDto where
  email : String
  password : String

/-- What `register`, `login` and `refresh` return.  `referredBy` is the relation of this
name, where it is loaded. -/
structure AuthResponse where
  userId : UserId
  user : User
  referredBy : Option (UserId × User)
  tokens : TokenPair
  deriving DecidableEq

/-- The object without `passwordHash`, `passwordResetToken` and
`emailVerificationToken`. -/
def sanitizeUser (user : User) : User :=
  { user with
    passwordHash := none
    passwordResetToken := none
    emailVerificationToken := none }

/-- The columns the query of `login` names. -/
def User.selectedForLogin (u : User) : User :=
  { u with
    avatarUrl := none
    emailVerifiedAt := none
    emailVerificationToken := none
    emailVerificationExpires := none
    passwordResetToken := none
    passwordResetExpires := none
    referredBy := none }

/-! ## Registration and sessions -/

section Sessions

variable (lib : AuthLib)

/-- `generateReferralCode` with the random suffix of draw `n`: three letters of the name
and the suffix. -/
def referralCodeOf (name : String) (n : ℕ) : String :=
  let letters := (lib.toUpperCase (String.ofList (name.toList.take 3))).toList.map fun c =>
    if 'A' ≤ c ∧ c ≤ 'Z' then c else 'X'
  String.ofList letters ++ lib.randomSuffix n

def generateReferralCode (name : String) : AuthM String :=
  draw (referralCodeOf lib name)

def emailTaken : HttpException := .conflict "Un compte existe déjà avec cet email"

/-- The row `register` stores. -/
def newUser (dto : RegisterDto) (passwordHash emailVerificationToken referralCode : String)
    (referredBy : Option UserId) (now : Time) : User where
  email := lib.toLowerCase dto.email
  phone := dto.phone
  firstName := dto.firstName
  lastName := dto.lastName
  avatarUrl := none
  passwordHash := some passwordHash
  role := .customer
  language := dto.language.getD .fr
  isActive := true
  isEmailVerified := false
  emailVerifiedAt := none
  emailVerificationToken := some emailVerificationToken
  emailVerificationExpires := some (now + 24 * hour)
  passwordResetToken := none
  passwordResetExpires := none
  referralCode := some referralCode
  referredBy := referredBy
  loyaltyPoints := 0
  loyaltyTier := .bronze
  walletBalance := Decimal.zero

/-- The user who owns the referral code of the request, if one is given. -/
def findReferrer (dto : RegisterDto) : AuthM (Option (UserId × User)) :=
  match textOrNull dto.referralCode with
  | none => pure none
  | some code => findUser fun u => u.referralCode = some (lib.toUpperCase code)

/-- The event of a registration with a referrer. -/
def emitReferral (referredBy : Option (UserId × User)) (userId : UserId) : AuthM Unit :=
  match referredBy with
  | none => pure ()
  | some referrer => emit (.referralCreated referrer.1 userId)

def register (dto : RegisterDto) (now : Time) : AuthM AuthResponse := do
  let existing ← findUser fun u => u.email = lib.toLowerCase dto.email
  if existing.isSome then
    throw emailTaken
  let passwordHash ← draw fun n => lib.argon2Hash n dto.password
  let emailVerificationToken ← generateSecureToken lib
  let referredBy ← findReferrer lib dto
  let referralCode ← generateReferralCode lib dto.firstName
  let user := newUser lib dto passwordHash emailVerificationToken referralCode
    (referredBy.map Prod.fst) now
  let userId ← insertUser user
  sendMail (.emailVerification user.email user.firstName user.language
    emailVerificationToken)
  emitReferral referredBy userId
  let tokens ← generateTokens lib userId user none now
  return ⟨userId, sanitizeUser user, referredBy, tokens⟩

def badCredentials : HttpException := .unauthorized "Email ou mot de passe incorrect"

def accountSuspended : HttpException :=
  .unauthorized "Compte suspendu. Contactez le support."

/-- `findOne` by e-mail address with the columns of `login`. -/
def AuthM.findUserForLogin (email : String) : AuthM (Option (UserId × User)) := do
  return ((← get).users.findWhere fun u => u.email = email).map fun found =>
    (found.1, found.2.selectedForLogin)

def login (dto : LoginDto) (deviceInfo : Option DeviceInfo) (now : Time) :
    AuthM AuthResponse := do
  match ← findUserForLogin (lib.toLowerCase dto.email) with
  | none => throw badCredentials
  | some (userId, user) =>
      match textOrNull user.passwordHash with
      | none => throw badCredentials
      | some passwordHash =>
          if !user.isActive then
            throw accountSuspended
          if !lib.argon2Verify passwordHash dto.password then
            throw badCredentials
          let tokens ← generateTokens lib userId user deviceInfo now
          return ⟨userId, sanitizeUser user, none, tokens⟩

def refresh (refreshToken : String) (now : Time) : AuthM AuthResponse := do
  let refreshed ← refreshTokens lib refreshToken now
  return ⟨refreshed.userId, sanitizeUser refreshed.user, none, refreshed.newTokens⟩

def logout (refreshToken : Option String) (now : Time) : AuthM String := do
  match textOrNull refreshToken with
  | none => return "Déconnecté"
  | some token =>
      revokeRefreshToken lib token now
      return "Déconnecté"

end Sessions

/-! ## One-time tokens -/

section OneTimeTokens

variable (lib : AuthLib)

def invalidToken : HttpException := .badRequest "Token invalide"

def expiredToken : HttpException := .badRequest "Token expiré. Demandez un nouveau."

def verifyEmail (token : String) (now : Time) : AuthM String := do
  match ← findUser fun u => u.emailVerificationToken = some token with
  | none => throw invalidToken
  | some (userId, user) =>
      if dateBefore user.emailVerificationExpires now then
        throw expiredToken
      if user.isEmailVerified then
        return "Email déjà vérifié"
      updateUser userId
        { isEmailVerified := some true
          emailVerifiedAt := some now
          emailVerificationToken := none
          emailVerificationExpires := none }
      emit (.emailVerified userId)
      return "Email vérifié avec succès"

def resetMailSent : String := "Si ce compte existe, un email a été envoyé."

def forgotPassword (email : String) (now : Time) : AuthM String := do
  match ← findUser fun u => u.email = lib.toLowerCase email with
  | none => return resetMailSent
  | some (userId, user) =>
      let resetToken ← generateSecureToken lib
      updateUser userId
        { passwordResetToken := some resetToken
          passwordResetExpires := some (now + hour) }
      sendMail (.passwordReset user.email user.firstName user.language resetToken)
      return resetMailSent

def invalidOrExpiredToken : HttpException := .badRequest "Token invalide ou expiré"

def resetPassword (token newPassword : String) (now : Time) : AuthM String := do
  match ← findUser fun u => u.passwordResetToken = some token with
  | none => throw invalidOrExpiredToken
  | some (userId, user) =>
      if dateBefore user.passwordResetExpires now then
        throw invalidOrExpiredToken
      let passwordHash ← draw fun n => lib.argon2Hash n newPassword
      updateUser userId
        { passwordHash := some passwordHash
          passwordResetToken := none
          passwordResetExpires := none }
      revokeAllUserTokens userId now
      return "Mot de passe modifié. Reconnectez-vous."

def resendVerification (userId : UserId) (now : Time) : AuthM String := do
  let user ← findUserById userId
  if user.isEmailVerified then
    return "Email déjà vérifié"
  let token ← generateSecureToken lib
  updateUser userId
    { emailVerificationToken := some token
      emailVerificationExpires := some (now + 24 * hour) }
  sendMail (.emailVerification user.email user.firstName user.language token)
  return "Email de vérification renvoyé"

end OneTimeTokens

/-! ## What the methods do -/

section Runs

variable (lib : AuthLib) (store : AuthStore)

/-- What `findUser` finds. -/
def AuthStore.findUser (p : User → Bool) : Option (UserId × User) :=
  (store.users.findWhere p).map fun found => (found.1, found.2.loaded)

@[simp] theorem run_findUser (p : User → Bool) :
    (findUser p).run store = .ok (store.findUser p) store := rfl

@[simp] theorem run_updateUser (id : UserId) (patch : UserPatch) :
    (updateUser id patch).run store = .ok () (store.updateUser id patch) := rfl

@[simp] theorem run_sendMail (mail : Mail) :
    (sendMail mail).run store = .ok () (store.send mail) := rfl

@[simp] theorem run_emit_event (event : AuthEvent) :
    (AuthM.emit event).run store = .ok () (store.emit event) := rfl

@[simp] theorem run_insertUser (user : User) :
    (insertUser user).run store =
      if store.AcceptsUser user then .ok store.users.length (store.addUser user)
      else .error .queryFailed store := by
  unfold insertUser
  by_cases h : store.AcceptsUser user <;> simp [h]

/-- The user `findReferrer` finds. -/
def referrerOf (dto : RegisterDto) : Option (UserId × User) :=
  (textOrNull dto.referralCode).bind fun code =>
    store.findUser fun u => u.referralCode = some (lib.toUpperCase code)

@[simp] theorem run_findReferrer (dto : RegisterDto) :
    (findReferrer lib dto).run store = .ok (referrerOf lib store dto) store := by
  unfold findReferrer referrerOf
  cases textOrNull dto.referralCode <;> rfl

/-- The store after the event of a registration. -/
def AuthStore.emitReferral (referredBy : Option (UserId × User)) (userId : UserId) :
    AuthStore :=
  match referredBy with
  | none => store
  | some referrer => store.emit (.referralCreated referrer.1 userId)

@[simp] theorem run_emitReferral (referredBy : Option (UserId × User)) (userId : UserId) :
    (emitReferral referredBy userId).run store =
      .ok () (store.emitReferral referredBy userId) := by
  cases referredBy <;> rfl

/-- The user `register` stores: its password is hashed with the salt of the next draw,
its verification token is the draw after that. -/
def registeredUser (dto : RegisterDto) (now : Time) : User :=
  newUser lib dto (lib.argon2Hash store.drawn dto.password)
    (lib.secureToken (store.drawn + 1)) (referralCodeOf lib dto.firstName (store.drawn + 2))
    ((referrerOf lib store dto).map Prod.fst) now

/-- The store when `register` has stored its user, sent the mail and emitted the event. -/
def registeredStore (dto : RegisterDto) (now : Time) : AuthStore :=
  let user := registeredUser lib store dto now
  ((store.countDraw.countDraw.countDraw.addUser user).send
    (.emailVerification user.email user.firstName user.language
      (lib.secureToken (store.drawn + 1)))).emitReferral (referrerOf lib store dto)
        store.users.length

theorem run_register (dto : RegisterDto) (now : Time) :
    (register lib dto now).run store =
      if (store.findUser fun u => u.email = lib.toLowerCase dto.email).isSome then
        .error emailTaken store
      else if store.AcceptsUser (registeredUser lib store dto now) then
        ((fun tokens => AuthResponse.mk store.users.length
            (sanitizeUser (registeredUser lib store dto now)) (referrerOf lib store dto)
            tokens) <$>
          generateTokens lib store.users.length (registeredUser lib store dto now) none
            now).run (registeredStore lib store dto now)
      else .error .queryFailed store.countDraw.countDraw.countDraw := by
  unfold register generateSecureToken generateReferralCode
  by_cases hexisting : (store.findUser fun u => u.email = lib.toLowerCase dto.email).isSome
  · simp [hexisting]
  · have haccepts : store.countDraw.countDraw.countDraw.AcceptsUser (newUser lib dto
        (lib.argon2Hash store.drawn dto.password) (lib.secureToken store.countDraw.drawn)
        (referralCodeOf lib dto.firstName store.countDraw.countDraw.drawn)
        ((referrerOf lib store.countDraw.countDraw dto).map Prod.fst) now) ↔
          store.AcceptsUser (registeredUser lib store dto now) := Iff.rfl
    by_cases hnew : store.AcceptsUser (registeredUser lib store dto now)
    · simp only [bind_pure_comp, EStateM.run_bind, run_findUser, hexisting,
        Bool.false_eq_true, if_false, run_draw, run_findReferrer, run_insertUser, haccepts,
        hnew, if_true, run_sendMail, run_emitReferral, ServiceM.run_map]
      rfl
    · simp [hexisting, haccepts, hnew]

/-- The user `login` lets in, or what it throws. -/
def loginUser (dto : LoginDto) : Except HttpException (UserId × User) :=
  match store.users.findWhere fun u => u.email = lib.toLowerCase dto.email with
  | none => .error badCredentials
  | some (userId, user) =>
      match textOrNull user.passwordHash with
      | none => .error badCredentials
      | some passwordHash =>
          if !user.isActive then .error accountSuspended
          else if !lib.argon2Verify passwordHash dto.password then .error badCredentials
          else .ok (userId, user.selectedForLogin)

theorem run_login (dto : LoginDto) (deviceInfo : Option DeviceInfo) (now : Time) :
    (login lib dto deviceInfo now).run store =
      match loginUser lib store dto with
      | .error e => .error e store
      | .ok (userId, user) =>
          (AuthResponse.mk userId (sanitizeUser user) none <$>
            generateTokens lib userId user deviceInfo now).run store := by
  unfold login loginUser
  have hfind : (findUserForLogin (lib.toLowerCase dto.email)).run store =
      .ok ((store.users.findWhere fun u => u.email = lib.toLowerCase dto.email).map
        fun found => (found.1, found.2.selectedForLogin)) store := rfl
  rw [EStateM.run_bind, hfind]
  cases store.users.findWhere fun u => u.email = lib.toLowerCase dto.email with
  | none => rfl
  | some found =>
      have hhash : found.2.selectedForLogin.passwordHash = found.2.passwordHash := rfl
      have hactive : found.2.selectedForLogin.isActive = found.2.isActive := rfl
      cases hpassword : textOrNull found.2.passwordHash with
      | none => simp [hhash, hpassword]
      | some passwordHash =>
          by_cases hisActive : found.2.isActive
          · by_cases hverify : lib.argon2Verify passwordHash dto.password <;>
              simp [hhash, hactive, hpassword, hisActive, hverify]
          · simp [hhash, hactive, hpassword, hisActive]

theorem run_refresh (refreshToken : String) (now : Time) :
    (refresh lib refreshToken now).run store =
      ((fun refreshed : Refreshed => AuthResponse.mk refreshed.userId
        (sanitizeUser refreshed.user) none refreshed.newTokens) <$>
          refreshTokens lib refreshToken now).run store := by
  unfold refresh
  simp

theorem run_logout (refreshToken : Option String) (now : Time) :
    (logout lib refreshToken now).run store =
      match textOrNull refreshToken with
      | none => .ok "Déconnecté" store
      | some token => .ok "Déconnecté"
          (store.revokeWhere (fun _ t => t.tokenHash = hashToken lib token) now) := by
  unfold logout
  cases textOrNull refreshToken <;> rfl

/-- The expiry date is not loaded, so `verifyEmail` never finds a token expired. -/
theorem run_verifyEmail (token : String) (now : Time) :
    (verifyEmail token now).run store =
      match store.users.findWhere fun u => u.emailVerificationToken = some token with
      | none => .error invalidToken store
      | some (userId, user) =>
          if user.isEmailVerified then .ok "Email déjà vérifié" store
          else .ok "Email vérifié avec succès"
            ((store.updateUser userId { isEmailVerified := some true, emailVerifiedAt := some now
              }).emit (.emailVerified userId)) := by
  unfold verifyEmail
  rw [EStateM.run_bind, run_findUser, AuthStore.findUser]
  cases store.users.findWhere fun u => u.emailVerificationToken = some token with
  | none => rfl
  | some found =>
      have hexpires : found.2.loaded.emailVerificationExpires = none := rfl
      have hverified : found.2.loaded.isEmailVerified = found.2.isEmailVerified := rfl
      by_cases hv : found.2.isEmailVerified <;>
        simp [hexpires, hverified, hv, dateBefore]

theorem run_forgotPassword (email : String) (now : Time) :
    (forgotPassword lib email now).run store =
      match store.users.findWhere fun u => u.email = lib.toLowerCase email with
      | none => .ok resetMailSent store
      | some (userId, user) =>
          .ok resetMailSent ((store.countDraw.updateUser userId
            { passwordResetToken := some (lib.secureToken store.drawn)
              passwordResetExpires := some (now + hour) }).send
            (.passwordReset user.email user.firstName user.language
              (lib.secureToken store.drawn))) := by
  unfold forgotPassword generateSecureToken
  rw [EStateM.run_bind, run_findUser, AuthStore.findUser]
  cases store.users.findWhere fun u => u.email = lib.toLowerCase email <;> rfl

/-- The expiry date is not loaded, so `resetPassword` accepts every token that is
stored, and the token stays stored. -/
theorem run_resetPassword (token newPassword : String) (now : Time) :
    (resetPassword lib token newPassword now).run store =
      match store.users.findWhere fun u => u.passwordResetToken = some token with
      | none => .error invalidOrExpiredToken store
      | some (userId, _) =>
          .ok "Mot de passe modifié. Reconnectez-vous."
            ((store.countDraw.updateUser userId
              { passwordHash := some (lib.argon2Hash store.drawn newPassword) }).revokeWhere
                (fun _ t => t.userId = userId) now) := by
  unfold resetPassword revokeAllUserTokens
  rw [EStateM.run_bind, run_findUser, AuthStore.findUser]
  cases store.users.findWhere fun u => u.passwordResetToken = some token with
  | none => rfl
  | some found =>
      have hexpires : found.2.loaded.passwordResetExpires = none := rfl
      simp [hexpires, dateBefore]

theorem run_resendVerification (userId : UserId) (now : Time) :
    (resendVerification lib userId now).run store =
      match store.users[userId]? with
      | none => .error .entityNotFound store
      | some user =>
          if user.isEmailVerified then .ok "Email déjà vérifié" store
          else .ok "Email de vérification renvoyé" ((store.countDraw.updateUser userId
            { emailVerificationToken := some (lib.secureToken store.drawn)
              emailVerificationExpires := some (now + 24 * hour) }).send
            (.emailVerification user.email user.firstName user.language
              (lib.secureToken store.drawn))) := by
  unfold resendVerification generateSecureToken findUserById
  cases huser : store.users[userId]? with
  | none => simp [huser]
  | some user =>
      have hverified : user.loaded.isEmailVerified = user.isEmailVerified := rfl
      by_cases hv : user.isEmailVerified
      · simp [huser, hverified, hv]
      · simp only [bind_pure_comp, bind_assoc, EStateM.run_bind, EStateM.run_get, huser,
          pure_bind, hverified, hv, Bool.false_eq_true, if_false, run_draw, run_updateUser,
          ServiceM.run_map, run_sendMail]
        rfl

end Runs

/-! ## Data for examples -/

namespace Demo

/-- Random values that are all different, and no cryptography. -/
def authLib : AuthLib where
  secureToken n := String.ofList (List.replicate n 'a')
  randomUUID n := String.ofList (List.replicate n 'b')
  randomSuffix n := String.ofList (List.replicate n 'C')
  sha256 := id
  argon2Hash _ password := password
  argon2Verify hash password := hash = password
  toLowerCase := id
  toUpperCase := id
  jwtAccessExpires := "15m"

theorem secureToken_injective : Function.Injective authLib.secureToken := by
  intro m n h
  have hlist : List.replicate m 'a' = List.replicate n 'a' := String.ofList_injective h
  have hlength := congrArg List.length hlist
  rwa [List.length_replicate, List.length_replicate] at hlength

def jean : RegisterDto where
  firstName := "Jean"
  lastName := "Kamga"
  email := "jean.kamga@example.cm"
  password := "motdepasse123"

end Demo

end StayRide
