import StayRide.Auth.AuthService

/-!
# What the responses tell

`register`, `login` and `refresh` return a user.  `sanitizeUser` removes the password hash
and the two one-time tokens from it, one level deep.  The user that `register` saved has the
referrer attached as the relation `referredBy`, and this object is returned too.

No response has a hash or a one-time token in it, because the referrer was loaded without the
columns declared `select: false` (`response_hidesSecrets`).  But the referrer's e-mail address,
phone number, last name, points and wallet are returned: the response is a function of what
is public about the others exactly when the registration has no referrer
(`register_private_iff`).
-/

namespace StayRide

open Lib

/-! ## Private columns -/

/-- A user without the private columns: e-mail address, phone number, last name, points,
wallet, one-time tokens and their expiry dates. -/
def User.publicPart (u : User) : User :=
  { u with
    email := ""
    phone := none
    lastName := ""
    emailVerificationToken := none
    emailVerificationExpires := none
    passwordResetToken := none
    passwordResetExpires := none
    loyaltyPoints := 0
    walletBalance := Decimal.zero }

/-- The two stores differ in private columns of users only, and draw the same random values.
Nothing is asked of the sessions. -/
structure SamePublic (store store' : AuthStore) : Prop where
  users : store'.users.map User.publicPart = store.users.map User.publicPart
  drawn : store'.drawn = store.drawn

/-- The users in a response, at any depth: the referrer is loaded without relations. -/
def AuthResponse.users (r : AuthResponse) : List User :=
  r.user :: r.referredBy.toList.map Prod.snd

/-- No user in the response has a password hash or a one-time token. -/
def AuthResponse.HidesSecrets (r : AuthResponse) : Prop :=
  ∀ u ∈ r.users, u.passwordHash = none ∧ u.passwordResetToken = none ∧
    u.emailVerificationToken = none

/-- The calls that open a session. -/
inductive OpeningCall
  | register (dto : RegisterDto)
  | login (dto : LoginDto) (deviceInfo : Option DeviceInfo)
  | refresh (refreshToken : String)

section Responses

variable (lib : AuthLib)

def OpeningCall.run (now : Time) : OpeningCall → AuthM AuthResponse
  | .register dto => StayRide.register lib dto now
  | .login dto deviceInfo => StayRide.login lib dto deviceInfo now
  | .refresh refreshToken => StayRide.refresh lib refreshToken now

variable {lib}

/-! ## Hashes and one-time tokens -/

/-- A sanitized user and a referrer that was loaded have no secrets. -/
private theorem hidesSecrets_of_sanitized {r : AuthResponse} {user : User}
    (huser : r.user = sanitizeUser user) (hreferrer : ∀ found ∈ r.referredBy,
      ∃ u : User, found.2 = u.loaded) : r.HidesSecrets := by
  intro u hu
  rcases List.mem_cons.mp hu with rfl | hreferred
  · rw [huser]
    exact ⟨rfl, rfl, rfl⟩
  · obtain ⟨found, hfound, rfl⟩ := List.mem_map.mp hreferred
    obtain ⟨loaded, hloaded⟩ := hreferrer found (Option.mem_toList.mp hfound)
    rw [hloaded]
    exact ⟨rfl, rfl, rfl⟩

/-- A referrer is loaded. -/
theorem referrerOf_loaded {store : AuthStore} {dto : RegisterDto} {found : UserId × User}
    (h : referrerOf lib store dto = some found) : ∃ u : User, found.2 = u.loaded := by
  obtain ⟨code, -, hcode⟩ := Option.bind_eq_some_iff.mp h
  obtain ⟨row, -, rfl⟩ := Option.map_eq_some_iff.mp hcode
  exact ⟨row.2, rfl⟩

/-! ## A registration -/

section Registration

variable (lib) (store : AuthStore) (dto : RegisterDto) (now : Time)

/-- The response of a registration that succeeds. -/
def registration : AuthResponse :=
  ⟨store.users.length, sanitizeUser (registeredUser lib store dto now),
    referrerOf lib store dto,
    issuedPair lib (registeredStore lib store dto now) store.users.length
      (registeredUser lib store dto now) now⟩

/-- What a registration needs: the e-mail address and the referral code are new, and so is the
hash of the refresh token. -/
structure CanRegister : Prop where
  fresh : (store.findUser fun u => u.email = lib.toLowerCase dto.email).isSome = false
  accepted : store.AcceptsUser (registeredUser lib store dto now)
  issued : (registeredStore lib store dto now).Accepts (issuedRow lib
    (registeredStore lib store dto now) store.users.length none now)

/-- **A complete registration.** -/
theorem register_eq_ok_iff {r : AuthResponse} :
    (register lib dto now).outcome store = .ok r ↔
      CanRegister lib store dto now ∧ r = registration lib store dto now := by
  unfold ServiceM.outcome
  rw [run_register]
  by_cases hfresh : (store.findUser fun u => u.email = lib.toLowerCase dto.email).isSome = true
  · rw [if_pos hfresh]
    refine iff_of_false (by simp) fun h => ?_
    rw [h.1.fresh] at hfresh
    cases hfresh
  rw [if_neg hfresh]
  by_cases haccepted : store.AcceptsUser (registeredUser lib store dto now)
  swap
  · rw [if_neg haccepted]
    exact iff_of_false (by simp) fun h => haccepted h.1.accepted
  rw [if_pos haccepted, ServiceM.run_map, run_generateTokens]
  by_cases hissued : (registeredStore lib store dto now).Accepts (issuedRow lib
      (registeredStore lib store dto now) store.users.length none now)
  · rw [if_pos hissued]
    constructor
    · intro h
      exact ⟨⟨Bool.eq_false_of_not_eq_true hfresh, haccepted, hissued⟩, (Except.ok.inj h).symm⟩
    · rintro ⟨-, rfl⟩
      rfl
  · rw [if_neg hissued]
    exact iff_of_false (by simp) fun h => hissued h.1.issued

end Registration

/-- What a call returns that ends with `return`. -/
private theorem eq_of_run_map_eq_ok {α : Type} {f : α → AuthResponse} {call : AuthM α}
    {store store' : AuthStore} {r : AuthResponse}
    (h : (f <$> call : AuthM AuthResponse).run store = .ok r store') : ∃ a, r = f a := by
  rw [ServiceM.run_map] at h
  cases hcall : call.run store with
  | error e after =>
      rw [hcall] at h
      cases h
  | ok a after =>
      rw [hcall] at h
      cases h
      exact ⟨a, rfl⟩

/-- **No response has a secret in it.** -/
theorem response_hidesSecrets {call : OpeningCall} {now : Time} {store : AuthStore}
    {r : AuthResponse} (h : (call.run lib now).outcome store = .ok r) : r.HidesSecrets := by
  cases call with
  | register dto =>
      obtain ⟨-, rfl⟩ := (register_eq_ok_iff lib store dto now).mp h
      exact hidesSecrets_of_sanitized rfl fun found hfound => referrerOf_loaded hfound
  | login dto deviceInfo =>
      obtain ⟨store', hrun⟩ := ServiceM.outcome_eq_ok_iff.mp h
      rw [OpeningCall.run, run_login] at hrun
      cases hlogin : loginUser lib store dto with
      | error e =>
          rw [hlogin] at hrun
          cases hrun
      | ok found =>
          rw [hlogin] at hrun
          obtain ⟨tokens, rfl⟩ := eq_of_run_map_eq_ok hrun
          exact hidesSecrets_of_sanitized rfl fun _ hnone => by cases hnone
  | refresh refreshToken =>
      obtain ⟨store', hrun⟩ := ServiceM.outcome_eq_ok_iff.mp h
      rw [OpeningCall.run, run_refresh] at hrun
      obtain ⟨refreshed, rfl⟩ := eq_of_run_map_eq_ok hrun
      exact hidesSecrets_of_sanitized rfl fun _ hnone => by cases hnone

/-! ## Two registrations -/

section TwoRuns

variable {store store' : AuthStore} {dto : RegisterDto} {now : Time}

/-- Referral codes are public, so the same user is the referrer. -/
theorem SamePublic.referrerId (h : SamePublic store store') :
    (referrerOf lib store' dto).map Prod.fst = (referrerOf lib store dto).map Prod.fst := by
  unfold referrerOf AuthStore.findUser
  cases textOrNull dto.referralCode with
  | none => rfl
  | some code =>
      have hfind : ∀ users : Table User,
          (users.findWhere fun u => u.referralCode = some (lib.toUpperCase code)).map Prod.fst =
            (Table.findWhere (users.map User.publicPart) fun u =>
              u.referralCode = some (lib.toUpperCase code)).map Prod.fst := by
        intro users
        rw [Table.findWhere_map, Option.map_map]
        rfl
      simp only [Option.bind_some, Option.map_map, Function.comp_def]
      calc (store'.users.findWhere _).map Prod.fst = _ := hfind store'.users
        _ = _ := by rw [h.users]
        _ = _ := (hfind store.users).symm

theorem SamePublic.length_eq (h : SamePublic store store') :
    store'.users.length = store.users.length := by
  have hlength := congrArg List.length h.users
  rwa [List.length_map, List.length_map] at hlength

/-- The same user is stored. -/
theorem SamePublic.registeredUser_eq (h : SamePublic store store') :
    registeredUser lib store' dto now = registeredUser lib store dto now := by
  rw [registeredUser, registeredUser, h.drawn, h.referrerId]

/-- What a registration has changed when it comes to the tokens. -/
private theorem registeredStore_spec (lib : AuthLib) (store : AuthStore) (dto : RegisterDto)
    (now : Time) :
    (registeredStore lib store dto now).drawn = store.drawn + 3 ∧
      (registeredStore lib store dto now).users.length = store.users.length + 1 ∧
      (registeredStore lib store dto now).refreshTokens = store.refreshTokens := by
  have hlength := Table.length_insertRow store.users (registeredUser lib store dto now)
  unfold registeredStore AuthStore.emitReferral
  cases referrerOf lib store dto with
  | none => exact ⟨rfl, hlength, rfl⟩
  | some referrer => exact ⟨rfl, hlength, rfl⟩

/-- The responses differ in the referrer only. -/
theorem SamePublic.registration_eq (h : SamePublic store store') :
    registration lib store' dto now =
      { registration lib store dto now with referredBy := referrerOf lib store' dto } := by
  have htokens : issuedPair lib (registeredStore lib store' dto now) store'.users.length
      (registeredUser lib store' dto now) now =
        issuedPair lib (registeredStore lib store dto now) store.users.length
          (registeredUser lib store dto now) now := by
    rw [issuedPair, issuedPair, (registeredStore_spec lib store' dto now).1,
      (registeredStore_spec lib store dto now).1, h.drawn, h.length_eq, h.registeredUser_eq]
  rw [registration, htokens, h.length_eq, h.registeredUser_eq]
  rfl

/-- The columns that must be new in a registration. -/
def User.keys (u : User) : String × Option String :=
  (u.email, u.referralCode)

/-- A registration that succeeds also does with other private columns, if the e-mail addresses
and the sessions are the same. -/
theorem CanRegister.congr (hcan : CanRegister lib store dto now) (h : SamePublic store store')
    (hkeys : store'.users.map User.keys = store.users.map User.keys)
    (htokens : store'.refreshTokens = store.refreshTokens) : CanRegister lib store' dto now := by
  obtain ⟨hdrawn, hlength, hsessions⟩ := registeredStore_spec lib store dto now
  obtain ⟨hdrawn', hlength', hsessions'⟩ := registeredStore_spec lib store' dto now
  have hrow : issuedRow lib (registeredStore lib store' dto now) store'.users.length none now =
      issuedRow lib (registeredStore lib store dto now) store.users.length none now := by
    rw [issuedRow, issuedRow, hdrawn, hdrawn', h.drawn, h.length_eq]
  refine ⟨?_, ?_, ?_⟩
  · have hfind : ∀ s : AuthStore,
        (s.findUser fun u => u.email = lib.toLowerCase dto.email).isSome =
          (Table.findWhere (s.users.map User.keys) fun key =>
            key.1 = lib.toLowerCase dto.email).isSome := by
      intro s
      rw [Table.findWhere_map, AuthStore.findUser, Option.isSome_map, Option.isSome_map]
      rfl
    rw [hfind, hkeys, ← hfind]
    exact hcan.fresh
  · have haccepts : ∀ (s : AuthStore) (user : User), s.AcceptsUser user ↔
        ∀ key ∈ s.users.map User.keys, key.1 ≠ user.email ∧
          (user.referralCode = none ∨ key.2 ≠ user.referralCode) := by
      intro s user
      rw [List.forall_mem_map]
      rfl
    rw [haccepts, hkeys, ← haccepts, h.registeredUser_eq]
    exact hcan.accepted
  · rw [hrow, AuthStore.Accepts, hlength', hsessions', htokens, h.length_eq, ← hlength,
      ← hsessions]
    exact hcan.issued

/-- A user with another last name. -/
def User.renamed (u : User) : User :=
  { u with lastName := u.lastName ++ "-" }

/-- The store in which this user has another last name. -/
def AuthStore.rename (store : AuthStore) (id : UserId) : AuthStore :=
  { store with
    users := store.users.updateById id User.renamed
    owner_exists := by
      intro i t ht
      rw [Table.length_updateById]
      exact store.owner_exists i t ht }

theorem samePublic_rename (store : AuthStore) (id : UserId) :
    SamePublic store (store.rename id) where
  users := Table.map_updateById_of_eq (f := User.renamed) (fun _ => rfl) store.users id
  drawn := rfl

/-- The referrer is loaded with the last name. -/
theorem referrerOf_rename_ne {found : UserId × User}
    (h : referrerOf lib store dto = some found) :
    referrerOf lib (store.rename found.1) dto ≠ some found := by
  obtain ⟨code, hcode, hfound⟩ := Option.bind_eq_some_iff.mp h
  obtain ⟨⟨id, user⟩, hfind, rfl⟩ := Option.map_eq_some_iff.mp hfound
  have hrenamed : referrerOf lib (store.rename id) dto = some (id, user.renamed.loaded) := by
    have hrow : (store.users.updateWhere (fun i _ => i = id) User.renamed).findWhere
        (fun u => u.referralCode = some (lib.toUpperCase code)) = some (id, _) :=
      Table.findWhere_updateWhere (f := User.renamed) (fun _ => rfl) hfind
    rw [← Table.updateById_eq_updateWhere, if_pos (decide_eq_true rfl)] at hrow
    rw [referrerOf, hcode, Option.bind_some, AuthStore.findUser]
    show ((store.users.updateById id User.renamed).findWhere _).map _ = _
    rw [hrow]
    rfl
  intro hsame
  have hname := congrArg (Option.map fun found : UserId × User => found.2.lastName)
    (hrenamed.symm.trans hsame)
  have hlength := congrArg String.length (Option.some.inj hname)
  simp [User.loaded, User.renamed, String.length_append] at hlength

/-- **A registration tells nothing private about others** exactly when it has no referrer; and
no response that opens a session has a secret in it. -/
theorem register_private_iff (lib : AuthLib) (dto : RegisterDto) (now : Time) (store : AuthStore)
    (r : AuthResponse) (h : (register lib dto now).outcome store = .ok r) :
    ((∀ store' r', SamePublic store store' → (register lib dto now).outcome store' = .ok r' →
        r' = r) ↔ referrerOf lib store dto = none) ∧
      ∀ (call : OpeningCall) (now : Time) (store : AuthStore) (r : AuthResponse),
        (call.run lib now).outcome store = .ok r → r.HidesSecrets := by
  obtain ⟨hcan, rfl⟩ := (register_eq_ok_iff lib store dto now).mp h
  refine ⟨⟨fun hsame => ?_, fun hnone store' r' hpublic hr' => ?_⟩,
    fun call now store r hr => response_hidesSecrets hr⟩
  · -- Another last name of the referrer shows in the response.
    cases hfound : referrerOf lib store dto with
    | none => rfl
    | some found =>
        have hpublic := samePublic_rename store found.1
        have hkeys := Table.map_updateById_of_eq (f := User.renamed) (g := User.keys)
          (fun _ => rfl) store.users found.1
        have hequal := hsame _ _ hpublic ((register_eq_ok_iff lib _ dto now).mpr
          ⟨hcan.congr hpublic hkeys rfl, rfl⟩)
        have hreferrer := congrArg AuthResponse.referredBy hequal
        exact absurd (hreferrer.trans hfound) (referrerOf_rename_ne hfound)
  · obtain ⟨-, rfl⟩ := (register_eq_ok_iff lib store' dto now).mp hr'
    have hnone' : referrerOf lib store' dto = none := by
      have hids : (referrerOf lib store' dto).map Prod.fst =
          (referrerOf lib store dto).map Prod.fst := hpublic.referrerId
      rw [hnone, Option.map_none, Option.map_eq_none_iff] at hids
      exact hids
    rw [hpublic.registration_eq, hnone', ← hnone]
    rfl

end TwoRuns

end Responses

namespace Demo

/-- A user with 5000 francs in the wallet. -/
def awa : User :=
  { newUser authLib ⟨"Awa", "Ngo", "awa.ngo@example.cm", some "+237690000000", "secret", none, none⟩
      "hash" "token" "AWA1" none 0 with
    walletBalance := ⟨500000, by norm_num⟩ }

def withAwa : AuthStore := AuthStore.start [awa]

/-- The registration that names the code of this user. -/
def invited : RegisterDto := { jean with referralCode := some "AWA1" }

/-- E-mail address, last name, phone number and wallet of the referrer, as the response shows
them. -/
def shownReferrer (r : AuthResponse) : Option (String × String × Option String × ℚ) :=
  r.referredBy.map fun found =>
    (found.2.email, found.2.lastName, found.2.phone, found.2.walletBalance.toRat)

end Demo

section Examples

open Demo

/-- A registration without a referral code tells nothing about the other user. -/
theorem register_private_iff_alone :
    (register authLib jean 0).outcome withAwa = .ok (registration authLib withAwa jean 0) ∧
      ∀ store' r', SamePublic withAwa store' →
        (register authLib jean 0).outcome store' = .ok r' →
          r' = registration authLib withAwa jean 0 := by
  have hregistered : (register authLib jean 0).outcome withAwa =
      .ok (registration authLib withAwa jean 0) := by
    decide +kernel
  exact ⟨hregistered, (register_private_iff authLib jean 0 withAwa _ hregistered).1.mpr rfl⟩

/-- **The referrer is in the response**: e-mail address, last name, phone number and wallet.
With another last name of the referrer the same registration returns something else. -/
theorem referrer_in_response :
    ((register authLib invited 0).outcome withAwa).map shownReferrer =
        .ok (some ("awa.ngo@example.cm", "Ngo", some "+237690000000", 5000)) ∧
      SamePublic withAwa (withAwa.rename 0) ∧
      ¬ ∀ r r', (register authLib invited 0).outcome withAwa = .ok r →
        (register authLib invited 0).outcome (withAwa.rename 0) = .ok r' → r' = r := by
  have hbefore : (register authLib invited 0).outcome withAwa =
      .ok (registration authLib withAwa invited 0) := by
    decide +kernel
  have hafter : (register authLib invited 0).outcome (withAwa.rename 0) =
      .ok (registration authLib (withAwa.rename 0) invited 0) := by
    decide +kernel
  have hshown : shownReferrer (registration authLib (withAwa.rename 0) invited 0) ≠
      shownReferrer (registration authLib withAwa invited 0) := by
    decide +kernel
  refine ⟨by decide +kernel, samePublic_rename withAwa 0, fun h => ?_⟩
  exact hshown (congrArg shownReferrer (h _ _ hbefore hafter))

end Examples

end StayRide
