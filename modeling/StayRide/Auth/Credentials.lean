import StayRide.Auth.Api

/-!
# Which password opens a session

Seen from outside, an account is an address, the password that was last set for it, whether
it is active, and the link of the last reset mail sent to the address.  `Account` is this
view, and `watch` keeps a book of accounts beside the site, from requests, replies and mails
alone:

* a registration that succeeds opens an account with the password of the request;
* a mail with a reset link replaces the link of its address;
* a reset that succeeds sets the password of the account that has the link.  The link stays
  as it is: the code does not clear it;
* `toggleActive` replies with the new state of the account.

The table of users with its salted hashes refines the book (`booked_of_run`), and so
`login_follows_book`: after any run of requests, a login opens a session of an account
exactly if the account has this address and this password and is active.

Of the libraries this takes that `argon2.verify` accepts the hashed password and no other,
that a hash is not the empty text, and that no two refresh tokens drawn have the same hash.
-/

namespace StayRide

open Lib AuthM

/-! ## The libraries -/

structure AuthLib.Sound (lib : AuthLib) : Prop where
  verify_hash : ∀ n password guess,
    lib.argon2Verify (lib.argon2Hash n password) guess = decide (guess = password)
  hash_ne_empty : ∀ n password, lib.argon2Hash n password ≠ ""
  tokens_differ : Function.Injective fun n => hashToken lib (lib.secureToken n)

/-! ## Accounts, seen from outside -/

structure Account where
  email : String
  password : String
  isActive : Bool
  link : Option String
  deriving DecidableEq

/-- Address and link of a reset mail. -/
def Mail.resetLink : Mail → Option (String × String)
  | .passwordReset email _ _ token => some (email, token)
  | .emailVerification _ _ _ _ => none

/-- A reset link arrives at its address. -/
def receive (book : Table Account) (mail : String × String) : Table Account :=
  book.updateWhere (fun _ a => a.email = mail.1) fun a => { a with link := some mail.2 }

/-- What a request and its reply say about the accounts. -/
def observe (lib : AuthLib) (book : Table Account) (endpoint : Endpoint)
    (reply : Except ApiError ApiReply) : Table Account :=
  match endpoint, reply with
  | .anyone (.register dto), .ok _ =>
      book.insertRow ⟨lib.toLowerCase dto.email, dto.password, true, none⟩
  | .anyone (.resetPassword token password), .ok _ =>
      match book.findWhere fun a => a.link = some token with
      | none => book
      | some (id, _) => book.updateById id fun a => { a with password := password }
  | .guarded (.toggleActive id), .ok (.toggled isActive) =>
      book.updateById id fun a => { a with isActive := isActive }
  | _, _ => book

/-- The site, and the book that an observer keeps. -/
structure Watched where
  site : Site
  book : Table Account

/-- The reset mails sent between two stores. -/
def resetMails (before after : AuthStore) : List (String × String) :=
  (after.mails.drop before.mails.length).filterMap Mail.resetLink

def watch (lib : AuthLib) (jwt : JwtLib) (w : Watched) (r : ApiRequest) : Watched :=
  let result := serve lib jwt w.site r
  ⟨result.2, (resetMails w.site.store result.2.store).foldl receive
    (observe lib w.book r.endpoint result.1)⟩

/-- Nobody has registered. -/
def watchStart : Watched := ⟨⟨AuthStore.start [], []⟩, []⟩

/-! ## The database accepts the refresh tokens -/

/-- The refresh tokens in the store are ones that were drawn. -/
def HashesDrawn (lib : AuthLib) (store : AuthStore) : Prop :=
  ∀ t ∈ store.refreshTokens, ∃ n < store.drawn, t.tokenHash = hashToken lib (lib.secureToken n)

namespace HashesDrawn

variable {lib : AuthLib} {store : AuthStore}

theorem mono (h : HashesDrawn lib store) {store' : AuthStore}
    (htokens : store'.refreshTokens = store.refreshTokens) (hdrawn : store.drawn ≤ store'.drawn) :
    HashesDrawn lib store' := by
  intro t ht
  rw [htokens] at ht
  obtain ⟨n, hn, hhash⟩ := h t ht
  exact ⟨n, Nat.lt_of_lt_of_le hn hdrawn, hhash⟩

theorem revokeWhere (h : HashesDrawn lib store) (p : TokenId → RefreshToken → Bool)
    (now : Time) : HashesDrawn lib (store.revokeWhere p now) := by
  intro t ht
  obtain ⟨i, hi⟩ := List.mem_iff_getElem?.mp ht
  obtain ⟨t₀, ht₀, rfl⟩ := Table.getElem?_updateWhere_eq_some.mp hi
  obtain ⟨n, hn, hhash⟩ := h t₀ (List.mem_of_getElem? ht₀)
  refine ⟨n, hn, ?_⟩
  split <;> exact hhash

theorem issue (h : HashesDrawn lib store) (userId : UserId) (deviceInfo : Option DeviceInfo)
    (now : Time) : HashesDrawn lib
      (store.countDraw.countDraw.addToken (issuedRow lib store userId deviceInfo now)) := by
  have hcounted : HashesDrawn lib store.countDraw.countDraw := h.mono rfl (Nat.le_add_right _ 2)
  by_cases haccepts : store.countDraw.countDraw.Accepts (issuedRow lib store userId deviceInfo now)
  · intro t ht
    rw [AuthStore.refreshTokens_addToken haccepts] at ht
    rw [AuthStore.drawn_addToken]
    rcases List.mem_append.mp ht with hold | hnew
    · exact hcounted t hold
    · exact ⟨store.drawn + 1, Nat.lt_succ_self _, by rw [List.mem_singleton.mp hnew]; rfl⟩
  · rw [AuthStore.addToken_of_refused haccepts]
    exact hcounted

/-- The refresh token that is about to be drawn is new. -/
theorem accepts (hlib : lib.Sound) (h : HashesDrawn lib store) {userId : UserId}
    (huser : userId < store.users.length) (deviceInfo : Option DeviceInfo) (now : Time) :
    store.Accepts (issuedRow lib store userId deviceInfo now) := by
  refine ⟨huser, fun t ht hsame => ?_⟩
  obtain ⟨n, hn, hhash⟩ := h t ht
  have hdraw : n = store.drawn + 1 := hlib.tokens_differ (hhash.symm.trans hsame)
  omega

theorem authExec (h : HashesDrawn lib store) (r : AuthRequest) :
    HashesDrawn lib (authExec lib store r) := by
  obtain ⟨now, call⟩ := r
  cases call with
  | register dto =>
      simp only [StayRide.authExec, register_storeAfter]
      split
      · exact h
      · split
        · obtain ⟨-, htokens, hdrawn⟩ := registered_tables lib store dto now
          exact (h.mono htokens (hdrawn ▸ Nat.le_add_right _ 3)).issue _ _ _
        · exact h.mono rfl (Nat.le_add_right _ 3)
  | login dto deviceInfo =>
      simp only [StayRide.authExec, login_storeAfter]
      split
      · exact h
      · exact h.issue _ _ _
  | refresh token =>
      simp only [StayRide.authExec, refresh_storeAfter, refreshTokens_storeAfter]
      split
      · exact h
      · split
        · exact h.revokeWhere _ _
        · split
          · exact h
          · exact (h.revokeWhere _ _).issue _ _ _
  | logout token =>
      simp only [StayRide.authExec, ServiceM.storeAfter, run_logout]
      cases textOrNull token with
      | none => exact h
      | some token => exact h.revokeWhere _ _
  | revokeRefreshToken token => exact h.revokeWhere _ _
  | revokeAllUserTokens userId => exact h.revokeWhere _ _
  | verifyEmail token =>
      simp only [StayRide.authExec, ServiceM.storeAfter, run_verifyEmail]
      cases store.users.findWhere fun u => u.emailVerificationToken = some token with
      | none => exact h
      | some found =>
          by_cases hv : found.2.isEmailVerified <;> simp only [hv] <;>
            exact h.mono rfl (Nat.le_refl _)
  | forgotPassword email =>
      simp only [StayRide.authExec, ServiceM.storeAfter, run_forgotPassword]
      cases store.users.findWhere fun u => u.email = lib.toLowerCase email with
      | none => exact h
      | some found => exact h.mono rfl (Nat.le_succ _)
  | resetPassword token password =>
      simp only [StayRide.authExec, ServiceM.storeAfter, run_resetPassword]
      cases store.users.findWhere fun u => u.passwordResetToken = some token with
      | none => exact h
      | some found => exact (h.revokeWhere _ _).mono rfl (Nat.le_succ _)
  | resendVerification userId =>
      simp only [StayRide.authExec, ServiceM.storeAfter, run_resendVerification]
      cases store.users[userId]? with
      | none => exact h
      | some user =>
          by_cases hv : user.isEmailVerified <;> simp only [hv]
          · exact h
          · exact h.mono rfl (Nat.le_succ _)

end HashesDrawn

/-! ## Addresses are unique -/

/-- No two users have one address. -/
def EmailsUnique (users : Table User) : Prop :=
  Table.PairwiseRows (fun a b : User => a.email ≠ b.email) users

section Emails

variable {lib : AuthLib} {users : Table User}

theorem EmailsUnique.updateById (h : EmailsUnique users) (id : UserId) {f : User → User}
    (hf : ∀ u, (f u).email = u.email) : EmailsUnique (users.updateById id f) := by
  refine (Table.PairwiseRows.updateById_iff (fun a b => Ne.symm) h id f).mpr ?_
  intro u hu j other hj hother
  rw [hf]
  exact h id j u other hj.symm hu hother

theorem EmailsUnique.authExec {store : AuthStore} (h : EmailsUnique store.users)
    (r : AuthRequest) : EmailsUnique (authExec lib store r).users := by
  rw [exec_users]
  cases heffect : userEffectOf lib store r with
  | none => exact h
  | update id patch =>
      refine h.updateById id ?_
      exact fun _ => rfl
  | add user =>
      obtain ⟨dto, -, hnone, -, rfl⟩ := userEffectOf_eq_add heffect
      refine (Table.PairwiseRows.insertRow_iff (fun a b => Ne.symm) h _).mpr ?_
      intro j other hother hsame
      rw [Option.not_isSome_iff_eq_none, AuthStore.findUser, Option.map_eq_none_iff] at hnone
      have hmiss := Table.findWhere_eq_none.mp hnone j other hother
      exact of_decide_eq_false hmiss hsame.symm

end Emails

/-! ## Reset mails -/

section Mails

variable (lib : AuthLib) (store : AuthStore)

/-- The reset mails that a call sends. -/
def resetMailsOf : AuthCall → List (String × String)
  | .forgotPassword email =>
      match store.users.findWhere fun u => u.email = lib.toLowerCase email with
      | none => []
      | some (_, user) => [(user.email, lib.secureToken store.drawn)]
  | _ => []

theorem mails_registeredStore (dto : RegisterDto) (now : Time) :
    ∃ sent, (registeredStore lib store dto now).mails = store.mails ++ sent ∧
      sent.filterMap Mail.resetLink = [] := by
  unfold registeredStore AuthStore.emitReferral
  split <;> exact ⟨[.emailVerification _ _ _ _], rfl, rfl⟩

/-- Mails are added, and only `forgotPassword` adds one with a reset link. -/
theorem exec_mails (r : AuthRequest) :
    ∃ sent, (authExec lib store r).mails = store.mails ++ sent ∧
      sent.filterMap Mail.resetLink = resetMailsOf lib store r.call := by
  obtain ⟨now, call⟩ := r
  have hquiet : ∀ store' : AuthStore, store'.mails = store.mails →
      ∃ sent, store'.mails = store.mails ++ sent ∧ sent.filterMap Mail.resetLink = [] :=
    fun store' h => ⟨[], by rw [h, List.append_nil], rfl⟩
  cases call with
  | register dto =>
      simp only [authExec, register_storeAfter]
      split
      · exact hquiet _ rfl
      · split
        · obtain ⟨sent, hsent, hlinks⟩ := mails_registeredStore lib store dto now
          exact ⟨sent, (AuthStore.mails_addToken _ _).trans hsent, hlinks⟩
        · exact hquiet _ rfl
  | login dto deviceInfo =>
      simp only [authExec, login_storeAfter]
      split
      · exact hquiet _ rfl
      · exact hquiet _ (AuthStore.mails_addToken _ _)
  | refresh token =>
      simp only [authExec, refresh_storeAfter, refreshTokens_storeAfter]
      split
      · exact hquiet _ rfl
      · split
        · exact hquiet _ rfl
        · split
          · exact hquiet _ rfl
          · exact hquiet _ (AuthStore.mails_addToken _ _)
  | logout token =>
      simp only [authExec, ServiceM.storeAfter, run_logout]
      cases textOrNull token <;> exact hquiet _ rfl
  | revokeRefreshToken token => exact hquiet _ rfl
  | revokeAllUserTokens userId => exact hquiet _ rfl
  | verifyEmail token =>
      simp only [authExec, ServiceM.storeAfter, run_verifyEmail]
      cases store.users.findWhere fun u => u.emailVerificationToken = some token with
      | none => exact hquiet _ rfl
      | some found =>
          by_cases hv : found.2.isEmailVerified <;> simp only [hv] <;> exact hquiet _ rfl
  | forgotPassword email =>
      simp only [authExec, ServiceM.storeAfter, run_forgotPassword, resetMailsOf]
      cases store.users.findWhere fun u => u.email = lib.toLowerCase email with
      | none => exact hquiet _ rfl
      | some found => exact ⟨[.passwordReset _ _ _ _], rfl, rfl⟩
  | resetPassword token password =>
      simp only [authExec, ServiceM.storeAfter, run_resetPassword]
      cases store.users.findWhere fun u => u.passwordResetToken = some token <;>
        exact hquiet _ rfl
  | resendVerification userId =>
      simp only [authExec, ServiceM.storeAfter, run_resendVerification]
      cases store.users[userId]? with
      | none => exact hquiet _ rfl
      | some user =>
          by_cases hv : user.isEmailVerified <;> simp only [hv]
          · exact hquiet _ rfl
          · exact ⟨[.emailVerification _ _ _ _], rfl, rfl⟩

theorem resetMails_authExec (r : AuthRequest) :
    resetMails store (authExec lib store r) = resetMailsOf lib store r.call := by
  obtain ⟨sent, hsent, hlinks⟩ := exec_mails lib store r
  rw [resetMails, hsent, List.drop_left, hlinks]

end Mails

/-! ## The users refine the book -/

/-- The row is one of the account. -/
structure Stands (lib : AuthLib) (u : User) (a : Account) : Prop where
  email : u.email = a.email
  isActive : u.isActive = a.isActive
  link : u.passwordResetToken = a.link
  password : ∃ hash, textOrNull u.passwordHash = some hash ∧
    ∀ guess, lib.argon2Verify hash guess = decide (guess = a.password)

section Refinement

variable {lib : AuthLib} {store : AuthStore} {book : Table Account}

theorem AuthLib.Sound.password_hash (hlib : lib.Sound) (n : ℕ) (password : String) :
    ∃ hash, textOrNull (some (lib.argon2Hash n password)) = some hash ∧
      ∀ guess, lib.argon2Verify hash guess = decide (guess = password) := by
  refine ⟨lib.argon2Hash n password, ?_, hlib.verify_hash n password⟩
  simp [textOrNull, hlib.hash_ne_empty n password]

/-- Updates of other columns do not show. -/
theorem Stands.update {u : User} {a : Account} (h : Stands lib u a) {patch : UserPatch}
    (hpassword : patch.passwordHash = none) (hlink : patch.passwordResetToken = none) :
    Stands lib (u.update patch) a where
  email := h.email
  isActive := h.isActive
  link := by
    rw [User.update, hlink]
    exact h.link
  password := by
    rw [User.update, hpassword]
    exact h.password

theorem Stands.register (hlib : lib.Sound) (dto : RegisterDto) (now : Time) :
    Stands lib (registeredUser lib store dto now)
      ⟨lib.toLowerCase dto.email, dto.password, true, none⟩ :=
  ⟨rfl, rfl, rfl, hlib.password_hash _ _⟩

/-- The endpoints that the observer learns something from. -/
def Endpoint.tells : Endpoint → Bool
  | .anyone (.register _) | .anyone (.resetPassword _ _) | .guarded (.toggleActive _) => true
  | _ => false

theorem observe_of_not_tells {endpoint : Endpoint} (h : endpoint.tells = false)
    (reply : Except ApiError ApiReply) : observe lib book endpoint reply = book := by
  unfold observe
  split
  · cases h
  · cases h
  · cases h
  · rfl

/-- A registration that stores a user succeeds: the refresh token is accepted too. -/
theorem matches_register (hlib : lib.Sound)
    (hrows : Table.Matches (Stands lib) store.users book) (hhashes : HashesDrawn lib store)
    (dto : RegisterDto) (now : Time) :
    Table.Matches (Stands lib) (authExec lib store ⟨now, .register dto⟩).users
      (observe lib book (.anyone (.register dto))
        (handlePublic lib now store (.register dto)).1) := by
  rw [exec_users]
  simp only [userEffectOf, handlePublic, answer, run_register]
  by_cases hexisting : (store.findUser fun u => u.email = lib.toLowerCase dto.email).isSome
  · simp only [if_pos hexisting]
    exact hrows
  by_cases hnew : store.AcceptsUser (registeredUser lib store dto now)
  · obtain ⟨husers, htokens, hdrawn⟩ := registered_tables lib store dto now
    have hregistered : HashesDrawn lib (registeredStore lib store dto now) :=
      hhashes.mono htokens (hdrawn ▸ Nat.le_add_right _ 3)
    have hexists : store.users.length < (registeredStore lib store dto now).users.length := by
      rw [husers, Table.length_insertRow]
      exact Nat.lt_succ_self _
    simp only [if_neg hexisting, if_pos hnew, ServiceM.run_map, run_generateTokens,
      if_pos (hregistered.accepts hlib hexists none now)]
    exact hrows.insertRow (.register hlib dto now)
  · simp only [if_neg hexisting, if_neg hnew]
    exact hrows

/-- A reset link goes to the account that `forgotPassword` has found. -/
theorem matches_receive (hrows : Table.Matches (Stands lib) store.users book)
    (hemails : EmailsUnique store.users) {id : UserId} {user : User}
    (huser : store.users[id]? = some user) {patch : UserPatch} {token : String}
    (hpassword : patch.passwordHash = none) (hlink : patch.passwordResetToken = some token) :
    Table.Matches (Stands lib) (store.users.updateById id (User.update patch))
      (receive book (user.email, token)) := by
  refine hrows.of_rows (Table.getElem?_updateById store.users id · _)
    (Table.getElem?_updateWhere book _ _) ?_
  intro i u a hu ha hstands
  have hkey : i = id ↔ a.email = user.email := by
    rw [← hstands.email]
    constructor
    · rintro rfl
      rw [Option.some.inj (hu.symm.trans huser)]
    · intro hsame
      by_contra hne
      exact hemails i id u user hne hu huser hsame
  by_cases hi : i = id
  · rw [if_pos hi, if_pos (decide_eq_true (hkey.mp hi))]
    refine ⟨hstands.email, hstands.isActive, ?_, ?_⟩
    · rw [User.update, hlink]
      rfl
    · rw [User.update, hpassword]
      exact hstands.password
  · rw [if_neg hi, if_neg (fun h => hi (hkey.mpr (of_decide_eq_true h)))]
    exact hstands

theorem matches_resetPassword (hlib : lib.Sound)
    (hrows : Table.Matches (Stands lib) store.users book) (token password : String)
    (now : Time) :
    Table.Matches (Stands lib) (authExec lib store ⟨now, .resetPassword token password⟩).users
      (observe lib book (.anyone (.resetPassword token password))
        (handlePublic lib now store (.resetPassword token password)).1) := by
  have hlinks : ∀ u a, Stands lib u a →
      decide (u.passwordResetToken = some token) = decide (a.link = some token) :=
    fun u a h => by rw [h.link]
  rw [exec_users]
  simp only [userEffectOf, handlePublic, answer, run_resetPassword]
  cases hfind : store.users.findWhere fun u => u.passwordResetToken = some token with
  | none => exact hrows
  | some found =>
      obtain ⟨a, ha, -⟩ := hrows.findWhere_some hlinks hfind
      simp only [observe, ha]
      refine hrows.updateById found.1 fun u a _ _ hstands => ?_
      exact ⟨hstands.email, hstands.isActive, hstands.link, hlib.password_hash _ _⟩

theorem matches_forgotPassword (hrows : Table.Matches (Stands lib) store.users book)
    (hemails : EmailsUnique store.users) (email : String) (now : Time) :
    Table.Matches (Stands lib) (authExec lib store ⟨now, .forgotPassword email⟩).users
      ((resetMailsOf lib store (.forgotPassword email)).foldl receive book) := by
  rw [exec_users]
  simp only [userEffectOf, resetMailsOf]
  cases hfind : store.users.findWhere fun u => u.email = lib.toLowerCase email with
  | none => exact hrows
  | some found =>
      exact matches_receive hrows hemails (Table.findWhere_eq_some hfind).1 rfl rfl

theorem matches_verifyEmail (hrows : Table.Matches (Stands lib) store.users book)
    (token : String) (now : Time) :
    Table.Matches (Stands lib) (authExec lib store ⟨now, .verifyEmail token⟩).users book := by
  rw [exec_users]
  simp only [userEffectOf]
  split
  · exact hrows
  · split
    · exact hrows
    · exact hrows.updateById_left _ fun u a h => h.update rfl rfl

theorem matches_resendVerification (hrows : Table.Matches (Stands lib) store.users book)
    (userId : UserId) (now : Time) :
    Table.Matches (Stands lib) (authExec lib store ⟨now, .resendVerification userId⟩).users
      book := by
  rw [exec_users]
  simp only [userEffectOf]
  split
  · exact hrows
  · split
    · exact hrows
    · exact hrows.updateById_left _ fun u a h => h.update rfl rfl

/-- A public request. -/
theorem matches_public (hlib : lib.Sound) (hrows : Table.Matches (Stands lib) store.users book)
    (hemails : EmailsUnique store.users) (hhashes : HashesDrawn lib store)
    (endpoint : PublicEndpoint) (now : Time) :
    Table.Matches (Stands lib) (authExec lib store ⟨now, endpoint.call⟩).users
      ((resetMailsOf lib store endpoint.call).foldl receive
        (observe lib book (.anyone endpoint) (handlePublic lib now store endpoint).1)) := by
  cases endpoint with
  | register dto => exact matches_register hlib hrows hhashes dto now
  | login | refresh =>
      rw [observe_of_not_tells rfl, exec_users]
      exact hrows
  | verifyEmail token =>
      rw [observe_of_not_tells rfl]
      exact matches_verifyEmail hrows token now
  | forgotPassword email =>
      rw [observe_of_not_tells rfl]
      exact matches_forgotPassword hrows hemails email now
  | resetPassword token password => exact matches_resetPassword hlib hrows token password now

/-- What the observer's book is tied to. -/
structure Booked (lib : AuthLib) (w : Watched) : Prop where
  rows : Table.Matches (Stands lib) w.site.store.users w.book
  emails : EmailsUnique w.site.store.users
  hashes : HashesDrawn lib w.site.store

/-- Where nothing is sent and no refresh token changes hands. -/
theorem Booked.of_users {w : Watched} (h : Booked lib w) {store' : AuthStore}
    {issued : List AccessToken} {book' : Table Account}
    (htokens : store'.refreshTokens = w.site.store.refreshTokens)
    (hdrawn : store'.drawn = w.site.store.drawn) (hmails : store'.mails = w.site.store.mails)
    (hrows : Table.Matches (Stands lib) store'.users book') (hemails : EmailsUnique store'.users) :
    Booked lib ⟨⟨store', issued⟩, (resetMails w.site.store store').foldl receive book'⟩ := by
  refine ⟨?_, hemails, h.hashes.mono htokens hdrawn.ge⟩
  rw [resetMails, hmails, List.drop_length]
  exact hrows

/-- A service call that tells the observer nothing. -/
theorem Booked.of_call {w : Watched} (h : Booked lib w) {issued : List AccessToken}
    {r : AuthRequest} (hmails : resetMailsOf lib w.site.store r.call = [])
    (hrows : Table.Matches (Stands lib) (StayRide.authExec lib w.site.store r).users w.book) :
    Booked lib ⟨⟨StayRide.authExec lib w.site.store r, issued⟩,
      (resetMails w.site.store (StayRide.authExec lib w.site.store r)).foldl receive w.book⟩ := by
  refine ⟨?_, h.emails.authExec r, h.hashes.authExec r⟩
  rw [resetMails_authExec, hmails]
  exact hrows

/-- A guarded request that the guards have let pass. -/
theorem Booked.guarded {w : Watched} (h : Booked lib w) (now : Time) (user : RequestUser)
    (issued : List AccessToken) (endpoint : GuardedEndpoint) :
    let result := handleGuarded lib now w.site.store user endpoint
    Booked lib ⟨⟨result.2, issued⟩, (resetMails w.site.store result.2).foldl receive
      (observe lib w.book (.guarded endpoint) result.1)⟩ := by
  intro result
  cases endpoint with
  | logout token =>
      have hstore : result.2 = authExec lib w.site.store ⟨now, .logout token⟩ := snd_answer _ _
      rw [observe_of_not_tells rfl, hstore]
      exact h.of_call rfl (by rw [exec_users]; exact h.rows)
  | resendVerification =>
      have hstore : result.2 = authExec lib w.site.store ⟨now, .resendVerification user.id⟩ :=
        snd_answer _ _
      rw [observe_of_not_tells rfl, hstore]
      exact h.of_call rfl (matches_resendVerification h.rows user.id now)
  | getMe => exact h.of_users rfl rfl rfl h.rows h.emails
  | toggleActive id =>
      simp only [result, handleGuarded, toggleActive]
      cases w.site.store.users[id]? with
      | none => exact h.of_users rfl rfl rfl h.rows h.emails
      | some u =>
          refine h.of_users rfl rfl rfl ?_ (h.emails.updateById id fun _ => rfl)
          refine h.rows.updateById id fun u a _ _ hstands => ?_
          exact ⟨hstands.email, rfl, hstands.link, hstands.password⟩
  | changeRole id role =>
      have hstore : result.2 = (changeRole id role).storeAfter w.site.store := snd_answer _ _
      rw [observe_of_not_tells rfl, hstore]
      cases role with
      | none => exact h.of_users rfl rfl rfl h.rows h.emails
      | some text =>
          simp only [changeRole]
          cases UserRole.ofText text with
          | none => exact h.of_users rfl rfl rfl h.rows h.emails
          | some role =>
              refine h.of_users rfl rfl rfl ?_ (h.emails.updateById id fun _ => rfl)
              refine h.rows.updateById_left id fun u a hstands => ?_
              exact ⟨hstands.email, hstands.isActive, hstands.link, hstands.password⟩

theorem Booked.watch (hlib : lib.Sound) {jwt : JwtLib} {w : Watched} (h : Booked lib w)
    (r : ApiRequest) : Booked lib (watch lib jwt w r) := by
  obtain ⟨now, bearer, endpoint⟩ := r
  cases endpoint with
  | anyone endpoint =>
      have hstore : (serve lib jwt w.site ⟨now, bearer, .anyone endpoint⟩).2.store =
          authExec lib w.site.store ⟨now, endpoint.call⟩ := snd_handlePublic endpoint
      refine ⟨?_, hstore ▸ h.emails.authExec _, hstore ▸ h.hashes.authExec _⟩
      simp only [StayRide.watch, hstore, resetMails_authExec]
      exact matches_public hlib h.rows h.emails h.hashes endpoint now
  | guarded endpoint =>
      simp only [StayRide.watch, serve]
      cases letPass jwt w.site now bearer endpoint.roles with
      | error e =>
          have hsilent : observe lib w.book (.guarded endpoint) (.error (.http e)) = w.book := by
            cases endpoint <;> rfl
          rw [hsilent]
          exact h.of_users rfl rfl rfl h.rows h.emails
      | ok user => exact h.guarded now user _ endpoint

/-- **The users refine the book**, after any run of requests. -/
theorem booked_of_run (hlib : lib.Sound) (jwt : JwtLib) (rs : List ApiRequest) :
    Booked lib (Final (StayRide.watch lib jwt) watchStart rs) := by
  refine final_invariant (I := Booked lib) (fun w r h => h.watch hlib r) ?_ rs
  exact ⟨Table.Matches.nil, Table.pairwiseRows_nil _, fun t ht => absurd ht List.not_mem_nil⟩

end Refinement

/-! ## Logging in -/

section Login

variable {lib : AuthLib}

/-- The user whom a login finds is the one whose account has the address and the password. -/
theorem Booked.loginUser_iff {w : Watched} (h : Booked lib w) (dto : LoginDto) (id : UserId) :
    (∃ user, loginUser lib w.site.store dto = .ok (id, user)) ↔
      ∃ a, w.book[id]? = some a ∧ a.email = lib.toLowerCase dto.email ∧
        a.password = dto.password ∧ a.isActive = true := by
  unfold loginUser
  cases hfind : w.site.store.users.findWhere fun u => u.email = lib.toLowerCase dto.email with
  | none =>
      refine iff_of_false (fun ⟨_, hok⟩ => by cases hok) ?_
      rintro ⟨a, ha, hemail, -, -⟩
      obtain ⟨u, hu, hstands⟩ := h.rows.exists_left ha
      have hmiss := Table.findWhere_eq_none.mp hfind id u hu
      exact of_decide_eq_false hmiss (hstands.email.trans hemail)
  | some found =>
      obtain ⟨i, u⟩ := found
      obtain ⟨hu, hfound⟩ := Table.findWhere_eq_some hfind
      have hemail : u.email = lib.toLowerCase dto.email := of_decide_eq_true hfound
      obtain ⟨a, ha, hstands⟩ := h.rows.exists_right hu
      obtain ⟨hash, hhash, hverify⟩ := hstands.password
      have hfinds : (∃ b, w.book[id]? = some b ∧ b.email = lib.toLowerCase dto.email ∧
          b.password = dto.password ∧ b.isActive = true) ↔
            i = id ∧ a.password = dto.password ∧ a.isActive = true := by
        constructor
        · rintro ⟨b, hb, hsame, hpassword, hactive⟩
          have hid : i = id := by
            obtain ⟨u', hu', hstands'⟩ := h.rows.exists_left hb
            by_contra hne
            exact h.emails i id u u' hne hu hu'
              (hemail.trans (hstands'.email.trans hsame).symm)
          subst hid
          obtain rfl := Option.some.inj (ha.symm.trans hb)
          exact ⟨rfl, hpassword, hactive⟩
        · rintro ⟨rfl, hpassword, hactive⟩
          exact ⟨a, ha, hstands.email.symm.trans hemail, hpassword, hactive⟩
      rw [hfinds]
      simp only [hhash, hstands.isActive, hverify, Bool.not_eq_eq_eq_not, Bool.not_true]
      cases hactive : a.isActive with
      | false => simp
      | true =>
          by_cases hpassword : dto.password = a.password
          · simp [hpassword]
          · simp [hpassword, Ne.symm hpassword]

/-- A login that finds its user succeeds: the database accepts the new refresh token. -/
theorem Booked.login_iff (hlib : lib.Sound) {w : Watched} (h : Booked lib w) {jwt : JwtLib}
    (now : Time) (bearer : Option AccessToken) (dto : LoginDto) (deviceInfo : Option DeviceInfo)
    (id : UserId) :
    (∃ response, (serve lib jwt w.site ⟨now, bearer, .anyone (.login dto deviceInfo)⟩).1 =
        .ok (.session response) ∧ response.userId = id) ↔
      ∃ user, loginUser lib w.site.store dto = .ok (id, user) := by
  simp only [serve, handlePublic, answer, run_login]
  cases hlogin : loginUser lib w.site.store dto with
  | error e =>
      refine iff_of_false ?_ (fun ⟨_, hok⟩ => by cases hok)
      rintro ⟨response, hresponse, -⟩
      cases hresponse
  | ok found =>
      obtain ⟨i, user⟩ := found
      have hexists : i < w.site.store.users.length := by
        obtain ⟨a, ha, -⟩ := (h.loginUser_iff dto i).mp ⟨user, hlogin⟩
        rw [h.rows.length_eq]
        exact (List.getElem?_eq_some_iff.mp ha).1
      simp only [ServiceM.run_map, run_generateTokens,
        if_pos (h.hashes.accepts hlib hexists deviceInfo now)]
      constructor
      · rintro ⟨response, hresponse, rfl⟩
        obtain rfl := ApiReply.session.inj (Except.ok.inj hresponse)
        exact ⟨user, rfl⟩
      · rintro ⟨user', hfound⟩
        obtain ⟨rfl, -⟩ := Prod.mk.inj (Except.ok.inj hfound)
        exact ⟨_, rfl, rfl⟩

end Login

/-- **Logins follow the book.**  After any run of requests, a login opens a session of an
account exactly if the account has this address, its password is the one that was last set,
by the registration or through a reset link, and it is active. -/
theorem login_follows_book (lib : AuthLib) (hlib : lib.Sound) (jwt : JwtLib)
    (rs : List ApiRequest) (now : Time) (bearer : Option AccessToken) (dto : LoginDto)
    (deviceInfo : Option DeviceInfo) (id : UserId) :
    let w := Final (watch lib jwt) watchStart rs
    (∃ response, (serve lib jwt w.site ⟨now, bearer, .anyone (.login dto deviceInfo)⟩).1 =
        .ok (.session response) ∧ response.userId = id) ↔
      ∃ a, w.book[id]? = some a ∧ a.email = lib.toLowerCase dto.email ∧
        a.password = dto.password ∧ a.isActive = true := by
  intro w
  have h : Booked lib w := booked_of_run hlib jwt rs
  exact (h.login_iff hlib now bearer dto deviceInfo id).trans (h.loginUser_iff dto id)

/-! ## A run -/

namespace Demo

/-- Hashes that show the password, and are not empty. -/
def hashingLib : AuthLib :=
  { authLib with
    argon2Hash := fun _ password => "$argon2id$" ++ password
    argon2Verify := fun hash password => hash = "$argon2id$" ++ password }

theorem hashingLib_sound : hashingLib.Sound where
  verify_hash _ password guess := by
    exact decide_eq_decide.mpr ((String.append_right_inj _).trans eq_comm)
  hash_ne_empty _ password := by
    intro h
    have hlength := congrArg String.length h
    rw [hashingLib, String.length_append] at hlength
    exact absurd hlength (by simp)
  tokens_differ := secureToken_injective

/-- Jean registers, forgets the password, and sets a new one with the link of the mail. -/
def newPassword : List ApiRequest :=
  [jeanRegisters, ⟨1000, none, .anyone (.forgotPassword jean.email)⟩,
    ⟨2000, none, .anyone (.resetPassword (hashingLib.secureToken 5) "nouveauMotdepasse123")⟩]

/-- The account of Jean after that. -/
def jeanBooked : Account :=
  ⟨jean.email, "nouveauMotdepasse123", true, some (hashingLib.secureToken 5)⟩

end Demo

section Examples

open Demo

theorem login_follows_book_newPassword :
    let w := Final (watch hashingLib jwtLib) watchStart newPassword
    hashingLib.Sound ∧
      (∃ response, (serve hashingLib jwtLib w.site ⟨3000, none,
        .anyone (.login ⟨jean.email, "nouveauMotdepasse123"⟩ none)⟩).1 =
          .ok (.session response) ∧ response.userId = 0) := by
  intro w
  have hbook : w.book[0]? = some jeanBooked := by decide +kernel
  refine ⟨hashingLib_sound, (login_follows_book hashingLib hashingLib_sound jwtLib newPassword
    3000 none _ none 0).mpr ⟨jeanBooked, hbook, rfl, rfl, rfl⟩⟩

end Examples

end StayRide
