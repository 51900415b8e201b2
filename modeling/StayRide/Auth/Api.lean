import StayRide.Auth.Withdrawal

/-!
# Requests, guards and roles

A request to the accounts side passes the guards before its handler runs.  `JwtAuthGuard`
lets public endpoints pass, and otherwise wants an access token that the server has signed
and that has not expired, of a user who is active now (`JwtStrategy.validate`).  `RolesGuard`
compares the role with the ones that the endpoint asks for; an administrator always passes.
The role is the one in the table, not the one in the token.

`Site` is the store with the access tokens that were signed so far.  A signature is taken to
be what it is for: a token is accepted if it was signed here.  For every run of requests,
whoever sends them and whatever they carry:

* a handler that is guarded acts for a user who is active, with the role that the user has at
  that moment, and who has registered, logged in or refreshed at most one lifetime of an
  access token ago (`handlers_act_for_sessions`);
* the role and the active flag of a user change only in requests of administrators
  (`standing_changed_by_admin`).

`UsersController.getAllUsers` is left out here; its listing changes nothing.
-/

namespace StayRide

open Lib AuthM

/-! ## Guards -/

def UserRole.text : UserRole → String
  | .customer => "CUSTOMER"
  | .owner => "OWNER"
  | .concierge => "CONCIERGE"
  | .admin => "ADMIN"

/-- What `jsonwebtoken` reads in `expiresIn`, in seconds. -/
structure JwtLib where
  seconds : String → ℤ

/-- The claims `iat` and `exp` are whole seconds. -/
def AccessToken.expired (jwt : JwtLib) (now : Time) (token : AccessToken) : Bool :=
  token.signedAt / 1000 + jwt.seconds token.expiresIn ≤ now / 1000

def invalidBearer : HttpException := .unauthorized "Token invalide ou expiré"

/-- `JwtAuthGuard.canActivate` for an endpoint that is not public: `passport-jwt` checks the
signature and the expiry, and then asks the strategy. -/
def jwtAuthGuard (jwt : JwtLib) (issued : List AccessToken) (bearer : Option AccessToken)
    (now : Time) : AuthM RequestUser :=
  match bearer with
  | none => throw invalidBearer
  | some token =>
      if token ∈ issued ∧ token.expired jwt now = false then validate token.payload
      else throw invalidBearer

/-- `RolesGuard.canActivate`. -/
def rolesGuard (requiredRoles : List UserRole) (user : Option RequestUser) :
    Except HttpException Unit :=
  if requiredRoles.isEmpty then .ok ()
  else
    match user with
    | none => .error (.forbidden "Accès refusé")
    | some user =>
        if user.role = .admin then .ok ()
        else if user.role ∈ requiredRoles then .ok ()
        else .error (.forbidden ("Accès refusé. Rôle requis : " ++
          String.intercalate " ou " (requiredRoles.map UserRole.text)))

/-! ## Endpoints -/

/-- The endpoints marked `@Public()`. -/
inductive PublicEndpoint
  | register (dto : RegisterDto)
  | login (dto : LoginDto) (deviceInfo : Option DeviceInfo)
  | refresh (refreshToken : String)
  | verifyEmail (token : String)
  | forgotPassword (email : String)
  | resetPassword (token password : String)

/-- The endpoints behind `JwtAuthGuard`.  The body of `changeRole` is not validated; a role
that is absent is `undefined`. -/
inductive GuardedEndpoint
  | logout (refreshToken : Option String)
  | resendVerification
  | getMe
  | toggleActive (id : UserId)
  | changeRole (id : UserId) (role : Option String)

/-- `@Roles(...)`; `[]` where there is no such mark. -/
def GuardedEndpoint.roles : GuardedEndpoint → List UserRole
  | .toggleActive _ => [.admin]
  | .changeRole _ _ => [.admin]
  | .logout _ | .resendVerification | .getMe => []

/-- A request; `bearer` is the token of its `Authorization` header. -/
inductive Endpoint
  | anyone (endpoint : PublicEndpoint)
  | guarded (endpoint : GuardedEndpoint)

structure ApiRequest where
  now : Time
  bearer : Option AccessToken
  endpoint : Endpoint

/-! ## Handlers -/

/-- The members of the enumeration type of the column `role`. -/
def UserRole.ofText (text : String) : Option UserRole :=
  [UserRole.customer, .owner, .concierge, .admin].find? (·.text = text)

def AuthStore.setRole (store : AuthStore) (id : UserId) (role : UserRole) : AuthStore :=
  { store with
    users := store.users.updateById id fun u => { u with role := role }
    owner_exists := by
      intro i t ht
      rw [Table.length_updateById]
      exact store.owner_exists i t ht }

/-- `UsersController.changeRole`.  A role that is `undefined` sets nothing, and the database
refuses a text that is no role. -/
def changeRole (id : UserId) (role : Option String) : AuthM Unit :=
  match role with
  | none => pure ()
  | some text =>
      match UserRole.ofText text with
      | none => throw .queryFailed
      | some role => modify fun store => store.setRole id role

/-- The columns the query of `getMe` names. -/
def User.selectedForMe (u : User) : User :=
  { u with
    passwordHash := none
    emailVerifiedAt := none
    emailVerificationToken := none
    emailVerificationExpires := none
    passwordResetToken := none
    passwordResetExpires := none
    referredBy := none }

inductive ApiReply
  | session (response : AuthResponse)
  | message (text : String)
  | profile (user : Option User)
  | toggled (isActive : Bool)
  | success

/-- What a handler throws: `toggleActive` throws a plain `Error`. -/
inductive ApiError
  | http (e : HttpException)
  | plain (message : String)

/-- The reply of a handler that calls a service. -/
def answer {α : Type} (reply : α → ApiReply) (call : AuthM α) (store : AuthStore) :
    Except ApiError ApiReply × AuthStore :=
  match call.run store with
  | .ok a store' => (.ok (reply a), store')
  | .error e store' => (.error (.http e), store')

section Handlers

variable (lib : AuthLib) (now : Time) (store : AuthStore)

def handlePublic : PublicEndpoint → Except ApiError ApiReply × AuthStore
  | .register dto => answer .session (register lib dto now) store
  | .login dto deviceInfo => answer .session (login lib dto deviceInfo now) store
  | .refresh token => answer .session (refresh lib token now) store
  | .verifyEmail token => answer .message (verifyEmail token now) store
  | .forgotPassword email => answer .message (forgotPassword lib email now) store
  | .resetPassword token password => answer .message (resetPassword lib token password now) store

def handleGuarded (user : RequestUser) : GuardedEndpoint → Except ApiError ApiReply × AuthStore
  | .logout refreshToken => answer .message (logout lib refreshToken now) store
  | .resendVerification => answer .message (resendVerification lib user.id now) store
  | .getMe => (.ok (.profile (store.users[user.id]?.map User.selectedForMe)), store)
  | .toggleActive id =>
      match toggleActive store id with
      | .error message => (.error (.plain message), store)
      | .ok (isActive, store') => (.ok (.toggled isActive), store')
  | .changeRole id role => answer (fun _ => .success) (changeRole id role) store

end Handlers

/-! ## The site -/

/-- The accounts side, with the access tokens signed so far. -/
structure Site where
  store : AuthStore
  issued : List AccessToken

/-- The access token of a reply. -/
def signedIn : Except ApiError ApiReply → List AccessToken
  | .ok (.session response) => [response.tokens.accessToken]
  | _ => []

section Serve

variable (lib : AuthLib) (jwt : JwtLib)

/-- The guards of an endpoint that asks for these roles: the user the handler acts for. -/
def letPass (site : Site) (now : Time) (bearer : Option AccessToken)
    (requiredRoles : List UserRole) : Except HttpException RequestUser :=
  match (jwtAuthGuard jwt site.issued bearer now).outcome site.store with
  | .error e => .error e
  | .ok user =>
      match rolesGuard requiredRoles (some user) with
      | .error e => .error e
      | .ok _ => .ok user

/-- One request: the guards, then the handler. -/
def serve (site : Site) (r : ApiRequest) : Except ApiError ApiReply × Site :=
  match r.endpoint with
  | .anyone endpoint =>
      let result := handlePublic lib r.now site.store endpoint
      (result.1, ⟨result.2, site.issued ++ signedIn result.1⟩)
  | .guarded endpoint =>
      match letPass jwt site r.now r.bearer endpoint.roles with
      | .error e => (.error (.http e), site)
      | .ok user =>
          let result := handleGuarded lib r.now site.store user endpoint
          (result.1, ⟨result.2, site.issued ++ signedIn result.1⟩)

/-- The site after some requests. -/
def siteAfter (site : Site) (rs : List ApiRequest) : Site :=
  Final (fun s r => (serve lib jwt s r).2) site rs

end Serve

/-! ## What the guards check -/

section Guards

variable {jwt : JwtLib} {site : Site} {now : Time} {bearer : Option AccessToken}
  {requiredRoles : List UserRole} {user : RequestUser}

theorem rolesGuard_eq_ok {roles : List UserRole} {u : Unit}
    (h : rolesGuard roles (some user) = .ok u) :
    roles = [] ∨ user.role = .admin ∨ user.role ∈ roles := by
  unfold rolesGuard at h
  split at h
  · next hempty => exact .inl (List.isEmpty_iff.mp hempty)
  · dsimp only at h
    split at h
    · next hadmin => exact .inr (.inl hadmin)
    · split at h
      · next hrole => exact .inr (.inr hrole)
      · cases h

/-- A token that the guard accepts was signed here, has not expired, and belongs to a user
who is active. -/
theorem jwtAuthGuard_eq_ok {issued : List AccessToken} {store : AuthStore}
    (h : (jwtAuthGuard jwt issued bearer now).outcome store = .ok user) :
    ∃ token u, bearer = some token ∧ token ∈ issued ∧ token.expired jwt now = false ∧
      token.payload.sub = user.id ∧ store.users[user.id]? = some u ∧ u.isActive = true ∧
      user.role = u.role := by
  obtain ⟨store', hrun⟩ := ServiceM.outcome_eq_ok_iff.mp h
  cases bearer with
  | none => cases hrun
  | some token =>
      simp only [jwtAuthGuard] at hrun
      split at hrun
      · next hsigned =>
          rw [run_validate] at hrun
          split at hrun
          · cases hrun
          · next u hu =>
              obtain ⟨hrow, hactive⟩ := Option.filter_eq_some_iff.mp hu
              injection hrun with hresult
              subst hresult
              exact ⟨token, u, rfl, hsigned.1, hsigned.2, rfl, hrow, hactive, rfl⟩
      · cases hrun

theorem letPass_eq_ok (h : letPass jwt site now bearer requiredRoles = .ok user) :
    (jwtAuthGuard jwt site.issued bearer now).outcome site.store = .ok user ∧
      (requiredRoles = [] ∨ user.role = .admin ∨ user.role ∈ requiredRoles) := by
  unfold letPass at h
  split at h
  · cases h
  · next u hguard =>
      split at h
      · cases h
      · next hroles =>
          obtain rfl := Except.ok.inj h
          exact ⟨hguard, rolesGuard_eq_ok hroles⟩

end Guards

/-! ## Whom the tokens are for -/

section Sessions

variable {lib : AuthLib} {store : AuthStore} {now : Time}

/-- The access token is for this user and was signed now. -/
def SignedFor (lib : AuthLib) (now : Time) (userId : UserId) (token : AccessToken) : Prop :=
  token.payload.sub = userId ∧ token.signedAt = now ∧ token.expiresIn = lib.jwtAccessExpires

theorem signedFor_of_generateTokens {userId : UserId} {user : User}
    {deviceInfo : Option DeviceInfo} {pair : TokenPair} {store' : AuthStore}
    (h : (generateTokens lib userId user deviceInfo now).run store = .ok pair store') :
    SignedFor lib now userId pair.accessToken := by
  rw [run_generateTokens] at h
  split at h
  · injection h with hpair
    subst hpair
    exact ⟨rfl, rfl, rfl⟩
  · cases h

/-- The tokens that a call returns are for the user that it returns. -/
theorem signedFor_of_session {α : Type} {f : TokenPair → α} {userId : UserId} {user : User}
    {deviceInfo : Option DeviceInfo} {a : α} {store' : AuthStore}
    (h : (f <$> generateTokens lib userId user deviceInfo now).run store = .ok a store') :
    ∃ pair, a = f pair ∧ SignedFor lib now userId pair.accessToken := by
  rw [ServiceM.run_map] at h
  cases hrun : (generateTokens lib userId user deviceInfo now).run store with
  | error e store₁ =>
      rw [hrun] at h
      cases h
  | ok pair store₁ =>
      rw [hrun] at h
      injection h with ha
      exact ⟨pair, ha.symm, signedFor_of_generateTokens hrun⟩

theorem signedFor_register {dto : RegisterDto} {response : AuthResponse} {store' : AuthStore}
    (h : (register lib dto now).run store = .ok response store') :
    SignedFor lib now response.userId response.tokens.accessToken := by
  rw [run_register] at h
  split at h
  · cases h
  · split at h
    · obtain ⟨pair, rfl, hsigned⟩ := signedFor_of_session h
      exact hsigned
    · cases h

theorem signedFor_login {dto : LoginDto} {deviceInfo : Option DeviceInfo}
    {response : AuthResponse} {store' : AuthStore}
    (h : (login lib dto deviceInfo now).run store = .ok response store') :
    SignedFor lib now response.userId response.tokens.accessToken := by
  rw [run_login] at h
  split at h
  · cases h
  · obtain ⟨pair, rfl, hsigned⟩ := signedFor_of_session h
    exact hsigned

theorem signedFor_refresh {token : String} {response : AuthResponse} {store' : AuthStore}
    (h : (refresh lib token now).run store = .ok response store') :
    SignedFor lib now response.userId response.tokens.accessToken := by
  rw [run_refresh, ServiceM.run_map, run_refreshTokens] at h
  split at h
  · next a store₁ hrun =>
      injection h with hresponse
      subst hresponse
      split at hrun
      · cases hrun
      · split at hrun
        · cases hrun
        · split at hrun
          · cases hrun
          · obtain ⟨pair, rfl, hsigned⟩ := signedFor_of_session hrun
            exact hsigned
  · cases h

/-- A reply with a session comes from a service call that returned it. -/
theorem answer_eq_session {α : Type} {reply : α → ApiReply} {call : AuthM α}
    {response : AuthResponse} (h : (answer reply call store).1 = .ok (.session response)) :
    ∃ a store', call.run store = .ok a store' ∧ reply a = .session response := by
  unfold answer at h
  cases hrun : call.run store with
  | ok a store' =>
      rw [hrun] at h
      exact ⟨a, store', rfl, Except.ok.inj h⟩
  | error e store' =>
      rw [hrun] at h
      cases h

/-- Only the three public endpoints that open or renew a session return one. -/
theorem signedFor_handlePublic {endpoint : PublicEndpoint} {response : AuthResponse}
    (h : (handlePublic lib now store endpoint).1 = .ok (.session response)) :
    SignedFor lib now response.userId response.tokens.accessToken := by
  cases endpoint with
  | register dto =>
      obtain ⟨a, store', hrun, ha⟩ := answer_eq_session h
      obtain rfl := ApiReply.session.inj ha
      exact signedFor_register hrun
  | login dto deviceInfo =>
      obtain ⟨a, store', hrun, ha⟩ := answer_eq_session h
      obtain rfl := ApiReply.session.inj ha
      exact signedFor_login hrun
  | refresh token =>
      obtain ⟨a, store', hrun, ha⟩ := answer_eq_session h
      obtain rfl := ApiReply.session.inj ha
      exact signedFor_refresh hrun
  | verifyEmail | forgotPassword | resetPassword =>
      obtain ⟨a, store', hrun, ha⟩ := answer_eq_session h
      cases ha

theorem handleGuarded_ne_session {user : RequestUser} {endpoint : GuardedEndpoint}
    {response : AuthResponse} :
    (handleGuarded lib now store user endpoint).1 ≠ .ok (.session response) := by
  intro h
  cases endpoint with
  | logout | resendVerification | changeRole =>
      obtain ⟨a, store', hrun, ha⟩ := answer_eq_session h
      cases ha
  | getMe => cases h
  | toggleActive id =>
      simp only [handleGuarded] at h
      split at h <;> cases h

theorem signedFor_serve {jwt : JwtLib} {site : Site} {r : ApiRequest} {response : AuthResponse}
    (h : (serve lib jwt site r).1 = .ok (.session response)) :
    SignedFor lib r.now response.userId response.tokens.accessToken := by
  unfold serve at h
  split at h
  · exact signedFor_handlePublic h
  · split at h
    · cases h
    · exact absurd h handleGuarded_ne_session

theorem mem_signedIn {result : Except ApiError ApiReply} {token : AccessToken}
    (h : token ∈ signedIn result) :
    ∃ response, result = .ok (.session response) ∧ token = response.tokens.accessToken := by
  unfold signedIn at h
  split at h
  · next response => exact ⟨response, rfl, List.mem_singleton.mp h⟩
  · cases h

theorem issued_serve (lib : AuthLib) (jwt : JwtLib) (site : Site) (r : ApiRequest) :
    (serve lib jwt site r).2.issued = site.issued ++ signedIn (serve lib jwt site r).1 := by
  unfold serve
  split
  · rfl
  · split
    · exact (List.append_nil _).symm
    · rfl

end Sessions

/-! ## Every guarded handler acts for a session -/

theorem lt_add_of_seconds {a b l : ℤ} (h : a / 1000 < b / 1000 + l) : a < b + 1000 * l := by
  omega

/-- **Guarded handlers act for sessions.**  If the guards let a request pass after the
requests `rs`, then the user it is served for is active and has the role that the guards saw,
and one of the requests `rs` has returned the token of the request to this very user, less
than one lifetime of an access token ago. -/
theorem handlers_act_for_sessions (lib : AuthLib) (jwt : JwtLib) {site : Site}
    (hstart : site.issued = []) (rs : List ApiRequest) {now : Time}
    {bearer : Option AccessToken} {requiredRoles : List UserRole} {user : RequestUser}
    (h : letPass jwt (siteAfter lib jwt site rs) now bearer requiredRoles = .ok user) :
    (∃ u, (siteAfter lib jwt site rs).store.users[user.id]? = some u ∧ u.isActive = true ∧
      user.role = u.role) ∧
    ∃ before r after response, rs = before ++ r :: after ∧
      (serve lib jwt (siteAfter lib jwt site before) r).1 = .ok (.session response) ∧
      response.userId = user.id ∧ bearer = some response.tokens.accessToken ∧
      now < r.now + 1000 * jwt.seconds lib.jwtAccessExpires := by
  obtain ⟨hguard, -⟩ := letPass_eq_ok h
  obtain ⟨token, u, hbearer, hissued, hexpired, hsub, hu, hactive, hrole⟩ :=
    jwtAuthGuard_eq_ok hguard
  refine ⟨⟨u, hu, hactive, hrole⟩, ?_⟩
  have hsigned := exists_adding_step (issued_serve lib jwt) hissued
  rw [hstart] at hsigned
  obtain hnone | ⟨before, r, after, hrs, hadded⟩ := hsigned
  · cases hnone
  · obtain ⟨response, hresponse, rfl⟩ := mem_signedIn hadded
    obtain ⟨hfor, hat, hlifetime⟩ := signedFor_serve hresponse
    refine ⟨before, r, after, response, hrs, hresponse, hfor.symm.trans hsub, hbearer, ?_⟩
    rw [AccessToken.expired, hat, hlifetime, decide_eq_false_iff_not] at hexpired
    -- Both times are rounded down to seconds, and the one is a lifetime before the other.
    exact lt_add_of_seconds (not_le.mp hexpired)

/-! ## Roles and active flags -/

/-- What an administrator decides about a user. -/
def User.standing (u : User) : UserRole × Bool :=
  (u.role, u.isActive)

/-- The standing of everybody; who has not registered yet has the standing of new users. -/
def standingIn (users : Table User) (id : UserId) : UserRole × Bool :=
  (users[id]?.map User.standing).getD (.customer, true)

/-- The user whose standing the endpoint is there to change. -/
def GuardedEndpoint.target : GuardedEndpoint → Option UserId
  | .toggleActive id => some id
  | .changeRole id _ => some id
  | .logout _ | .resendVerification | .getMe => none

/-- The service call behind a public endpoint. -/
def PublicEndpoint.call : PublicEndpoint → AuthCall
  | .register dto => .register dto
  | .login dto deviceInfo => .login dto deviceInfo
  | .refresh token => .refresh token
  | .verifyEmail token => .verifyEmail token
  | .forgotPassword email => .forgotPassword email
  | .resetPassword token password => .resetPassword token password

section Standing

variable {lib : AuthLib} {store : AuthStore} {now : Time}

theorem standingIn_updateById_of_eq {users : Table User} {f : User → User}
    (hf : ∀ u, (f u).standing = u.standing) (i : UserId) :
    standingIn (users.updateById i f) = standingIn users := by
  funext id
  unfold standingIn
  rw [← List.getElem?_map, Table.map_updateById_of_eq hf users i, List.getElem?_map]

theorem standingIn_updateById_of_ne {users : Table User} {f : User → User} {i id : UserId}
    (hid : id ≠ i) : standingIn (users.updateById i f) id = standingIn users id := by
  simp only [standingIn, Table.getElem?_updateById, if_neg hid, Option.map_id_fun']
  rfl

/-- A new user with the standing of new users changes nobody's. -/
theorem standingIn_insertRow {users : Table User} {user : User}
    (huser : user.standing = (.customer, true)) :
    standingIn (users.insertRow user) = standingIn users := by
  funext id
  unfold standingIn
  rcases Nat.lt_trichotomy id users.length with hlt | rfl | hgt
  · rw [Table.insertRow, List.getElem?_append_left hlt]
  · rw [Table.getElem?_insertRow_self, List.getElem?_eq_none (le_refl _), Option.map_some, huser]
    rfl
  · rw [List.getElem?_eq_none (by rw [Table.length_insertRow]; exact hgt),
      List.getElem?_eq_none hgt.le]

/-- The calls of the accounts side decide nothing about anybody: they add customers who are
active, and update other columns. -/
theorem standingIn_authExec (r : AuthRequest) :
    standingIn (authExec lib store r).users = standingIn store.users := by
  rw [exec_users]
  cases heffect : userEffectOf lib store r with
  | none => rfl
  | update i patch =>
      refine standingIn_updateById_of_eq ?_ i
      exact fun _ => rfl
  | add user =>
      refine standingIn_insertRow ?_
      obtain ⟨dto, -, -, -, rfl⟩ := userEffectOf_eq_add heffect
      rfl

theorem snd_answer {α : Type} (reply : α → ApiReply) (call : AuthM α) :
    (answer reply call store).2 = call.storeAfter store := by
  unfold answer ServiceM.storeAfter
  cases call.run store <;> rfl

theorem snd_handlePublic (endpoint : PublicEndpoint) :
    (handlePublic lib now store endpoint).2 = authExec lib store ⟨now, endpoint.call⟩ := by
  cases endpoint <;> exact snd_answer _ _

/-- A guarded handler changes nobody's standing but that of its target. -/
theorem target_of_standing_ne {user : RequestUser} {endpoint : GuardedEndpoint} {id : UserId}
    (h : standingIn (handleGuarded lib now store user endpoint).2.users id ≠
      standingIn store.users id) : endpoint.target = some id := by
  cases endpoint with
  | logout token =>
      refine absurd ?_ h
      rw [handleGuarded, snd_answer]
      exact congrFun (standingIn_authExec ⟨now, .logout token⟩) id
  | resendVerification =>
      refine absurd ?_ h
      rw [handleGuarded, snd_answer]
      exact congrFun (standingIn_authExec ⟨now, .resendVerification user.id⟩) id
  | getMe => exact absurd rfl h
  | toggleActive i =>
      refine congrArg some (not_ne_iff.mp fun hi => h ?_)
      simp only [handleGuarded, toggleActive]
      cases store.users[i]? with
      | none => rfl
      | some u => exact standingIn_updateById_of_ne hi.symm
  | changeRole i role =>
      refine congrArg some (not_ne_iff.mp fun hi => h ?_)
      rw [handleGuarded, snd_answer]
      cases role with
      | none => rfl
      | some text =>
          simp only [changeRole]
          cases UserRole.ofText text with
          | none => rfl
          | some role => exact standingIn_updateById_of_ne hi.symm

/-- The guards of the two endpoints that change a standing let administrators pass only. -/
theorem role_eq_admin {jwt : JwtLib} {site : Site} {bearer : Option AccessToken}
    {endpoint : GuardedEndpoint} {user : RequestUser} {id : UserId}
    (htarget : endpoint.target = some id)
    (h : letPass jwt site now bearer endpoint.roles = .ok user) : user.role = .admin := by
  have hroles : endpoint.roles = [.admin] := by
    cases endpoint with
    | logout | resendVerification | getMe => cases htarget
    | toggleActive | changeRole => rfl
  obtain hnone | hadmin | hmem := hroles ▸ (letPass_eq_ok h).2
  · cases hnone
  · exact hadmin
  · exact List.mem_singleton.mp hmem

theorem standingIn_of_letPass {jwt : JwtLib} {site : Site} {bearer : Option AccessToken}
    {requiredRoles : List UserRole} {user : RequestUser}
    (h : letPass jwt site now bearer requiredRoles = .ok user) :
    standingIn site.store.users user.id = (user.role, true) := by
  obtain ⟨-, u, -, -, -, -, hu, hactive, hrole⟩ := jwtAuthGuard_eq_ok (letPass_eq_ok h).1
  rw [standingIn, hu, Option.map_some, Option.getD_some, User.standing, hactive, hrole]

/-- A request that changes a standing is one of an administrator about its target. -/
theorem admin_of_serve {jwt : JwtLib} {site : Site} {r : ApiRequest} {id : UserId}
    (h : standingIn (serve lib jwt site r).2.store.users id ≠
      standingIn site.store.users id) :
    ∃ endpoint admin, r.endpoint = .guarded endpoint ∧ endpoint.target = some id ∧
      letPass jwt site r.now r.bearer endpoint.roles = .ok admin ∧ admin.role = .admin := by
  unfold serve at h
  split at h
  · next endpoint _ =>
      refine absurd ?_ h
      show standingIn (handlePublic lib r.now site.store endpoint).2.users id = _
      rw [snd_handlePublic, standingIn_authExec]
  · next endpoint hguarded =>
      split at h
      · exact absurd rfl h
      · next admin hpass =>
          have htarget := target_of_standing_ne h
          exact ⟨endpoint, admin, hguarded, htarget, hpass, role_eq_admin htarget hpass⟩

end Standing

/-- **Standings are changed by administrators.**  If the role or the active flag of a user is
not what it was before the requests `rs`, then one of them was about this user and was sent
by somebody who was an active administrator when it was served. -/
theorem standing_changed_by_admin (lib : AuthLib) (jwt : JwtLib) {site : Site}
    {rs : List ApiRequest} {id : UserId}
    (h : standingIn (siteAfter lib jwt site rs).store.users id ≠
      standingIn site.store.users id) :
    ∃ before r after endpoint admin, rs = before ++ r :: after ∧
      r.endpoint = .guarded endpoint ∧ endpoint.target = some id ∧
      letPass jwt (siteAfter lib jwt site before) r.now r.bearer endpoint.roles = .ok admin ∧
      standingIn (siteAfter lib jwt site before).store.users admin.id = (.admin, true) := by
  obtain ⟨before, r, after, hrs, -, hchange⟩ :=
    exists_changing_step (fun s : Site => standingIn s.store.users id) h
  obtain ⟨endpoint, admin, hguarded, htarget, hpass, hadmin⟩ := admin_of_serve hchange
  exact ⟨before, r, after, endpoint, admin, hrs, hguarded, htarget, hpass,
    hadmin ▸ standingIn_of_letPass hpass⟩

/-! ## Two runs -/

namespace Demo

def jwtLib : JwtLib := ⟨fun _ => 900⟩

/-- Jean registers. -/
def jeanRegisters : ApiRequest := ⟨0, none, .anyone (.register jean)⟩

/-- An administrator, with the password of Jean. -/
def adele : User :=
  { registeredUser authLib (AuthStore.start []) jean 0 with
    email := "adele@example.cm"
    firstName := "Adèle"
    role := .admin }

def adeleToken : AccessToken :=
  ⟨⟨0, "adele@example.cm", .admin, authLib.randomUUID 0⟩, 0, authLib.jwtAccessExpires⟩

/-- Adèle logs in, Jean registers, and Adèle makes Jean an owner. -/
def promotion : List ApiRequest :=
  [⟨0, none, .anyone (.login ⟨"adele@example.cm", jean.password⟩ none)⟩, jeanRegisters,
    ⟨60000, some adeleToken, .guarded (.changeRole 1 (some "OWNER"))⟩]

end Demo

section Examples

open Demo

/-- Jean asks for the profile fourteen minutes after the registration. -/
theorem handlers_act_for_sessions_me :
    ∃ user, letPass jwtLib (siteAfter authLib jwtLib ⟨AuthStore.start [], []⟩ [jeanRegisters])
        840000 (some accessToken) (GuardedEndpoint.roles .getMe) = .ok user ∧
      ∃ before r after response, [jeanRegisters] = before ++ r :: after ∧
        (serve authLib jwtLib (siteAfter authLib jwtLib ⟨AuthStore.start [], []⟩ before) r).1 =
          .ok (.session response) ∧
        response.userId = user.id ∧ some accessToken = some response.tokens.accessToken ∧
        840000 < r.now + 1000 * jwtLib.seconds authLib.jwtAccessExpires := by
  have hpass : letPass jwtLib (siteAfter authLib jwtLib ⟨AuthStore.start [], []⟩ [jeanRegisters])
      840000 (some accessToken) (GuardedEndpoint.roles .getMe) =
        .ok ⟨0, jean.email, .customer, jean.firstName, jean.lastName, authLib.randomUUID 3⟩ := by
    decide +kernel
  exact ⟨_, hpass, (handlers_act_for_sessions authLib jwtLib rfl _ hpass).2⟩

theorem standing_changed_by_admin_promotion :
    standingIn (siteAfter authLib jwtLib ⟨AuthStore.start [adele], []⟩ promotion).store.users 1 =
      (.owner, true) ∧
    ∃ before r after endpoint admin, promotion = before ++ r :: after ∧
      r.endpoint = .guarded endpoint ∧ endpoint.target = some 1 ∧
      letPass jwtLib (siteAfter authLib jwtLib ⟨AuthStore.start [adele], []⟩ before) r.now r.bearer
        endpoint.roles = .ok admin ∧
      standingIn (siteAfter authLib jwtLib ⟨AuthStore.start [adele], []⟩ before).store.users
        admin.id = (.admin, true) := by
  have hafter : standingIn
      (siteAfter authLib jwtLib ⟨AuthStore.start [adele], []⟩ promotion).store.users 1 =
        (.owner, true) := by
    decide +kernel
  refine ⟨hafter, standing_changed_by_admin authLib jwtLib ?_⟩
  rw [hafter]
  decide +kernel

end Examples

end StayRide
