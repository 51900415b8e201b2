import StayRide.Lib.Run
import StayRide.Auth.Calls

/-!
# One-time tokens

The tokens that are mailed to a user: one to verify an e-mail address, valid for 24
hours, one to reset a password, valid for an hour and meant to be used once.  A run is
recorded: which tokens were issued and which were used, and when.

The stored expiry dates are right (`TokensOk`): a stored token was issued, and the
date stored with it is the time of issue plus the lifetime of its kind.  But nothing
compares them with the clock, and nothing removes a token that was used.  So what
`verifyEmail` and `resetPassword` promise holds in the runs in which the callers keep
to it themselves (`oneTime_along`), and fails in others
(`reset_token_used_late_and_twice`).
-/

namespace StayRide

open Lib

/-! ## Issue and use of tokens -/

inductive TokenKind
  | emailVerification | passwordReset
  deriving DecidableEq

/-- How long a token of this kind is valid. -/
def TokenKind.lifetime : TokenKind → Time
  | .emailVerification => 24 * hour
  | .passwordReset => hour

/-- The columns of a token of this kind. -/
def User.tokenOf (u : User) : TokenKind → Option String
  | .emailVerification => u.emailVerificationToken
  | .passwordReset => u.passwordResetToken

def User.expiresOf (u : User) : TokenKind → Option Time
  | .emailVerification => u.emailVerificationExpires
  | .passwordReset => u.passwordResetExpires

def UserPatch.tokenOf (patch : UserPatch) : TokenKind → Option String
  | .emailVerification => patch.emailVerificationToken
  | .passwordReset => patch.passwordResetToken

def UserPatch.expiresOf (patch : UserPatch) : TokenKind → Option Time
  | .emailVerification => patch.emailVerificationExpires
  | .passwordReset => patch.passwordResetExpires

theorem User.tokenOf_update (patch : UserPatch) (u : User) (kind : TokenKind) :
    (u.update patch).tokenOf kind = (patch.tokenOf kind <|> u.tokenOf kind) := by
  cases kind <;> rfl

theorem User.expiresOf_update (patch : UserPatch) (u : User) (kind : TokenKind) :
    (u.update patch).expiresOf kind = (patch.expiresOf kind <|> u.expiresOf kind) := by
  cases kind <;> rfl

/-- A token of this kind was issued, or used, at this time. -/
structure TokenEvent where
  kind : TokenKind
  token : String
  time : Time
  deriving DecidableEq

/-- The tokens an effect on the users stores. -/
def UserEffect.issued (now : Time) : UserEffect → List TokenEvent
  | .none => []
  | .add user => [.emailVerification, .passwordReset].filterMap fun kind =>
      (user.tokenOf kind).map fun token => ⟨kind, token, now⟩
  | .update _ patch => [.emailVerification, .passwordReset].filterMap fun kind =>
      (patch.tokenOf kind).map fun token => ⟨kind, token, now⟩

/-- Some user was not verified before and is afterwards. -/
def turnsVerified (before after : Table User) : Bool :=
  (before.zip after).any fun pair => !pair.1.isEmailVerified && pair.2.isEmailVerified

section Record

variable (lib : AuthLib)

/-- The token a call uses: `verifyEmail` when it turns a user verified, `resetPassword`
when it accepts the token. -/
def usedBy (store : AuthStore) (r : AuthRequest) : List TokenEvent :=
  match r.call with
  | .verifyEmail token =>
      if turnsVerified store.users (authExec lib store r).users then
        [⟨.emailVerification, token, r.now⟩]
      else []
  | .resetPassword token password =>
      if (resetPassword lib token password r.now).succeeds store then
        [⟨.passwordReset, token, r.now⟩]
      else []
  | _ => []

/-- The reset token a call presents. -/
def presentedBy (r : AuthRequest) : List String :=
  match r.call with
  | .resetPassword token _ => [token]
  | _ => []

/-- The store of a run, the tokens issued and used so far, and the reset tokens that
were presented. -/
structure Recorded where
  store : AuthStore
  issued : List TokenEvent
  used : List TokenEvent
  presented : List String

/-- A call, recorded. -/
def recordedExec (s : Recorded) (r : AuthRequest) : Recorded where
  store := authExec lib s.store r
  issued := s.issued ++ (userEffectOf lib s.store r).issued r.now
  used := s.used ++ usedBy lib s.store r
  presented := s.presented ++ presentedBy r

/-- Accounts, and nothing recorded yet. -/
def Recorded.start (users : Table User) : Recorded := ⟨AuthStore.start users, [], [], []⟩

/-! ## What is promised -/

/-- No token is issued twice. -/
def IssuedOnce (s : Recorded) : Prop :=
  (s.issued.map TokenEvent.token).Nodup

/-- A token is used only after it was issued, and before its lifetime has passed. -/
def UsedInTime (s : Recorded) : Prop :=
  ∀ use ∈ s.used, ∃ issue ∈ s.issued, issue.kind = use.kind ∧ issue.token = use.token ∧
    use.time ≤ issue.time + use.kind.lifetime

/-- The reset tokens among the used ones. -/
def resetTokens (used : List TokenEvent) : List String :=
  used.filterMap fun use => if use.kind = .passwordReset then some use.token else none

/-- A reset token is accepted at most once. -/
def ResetOnce (s : Recorded) : Prop :=
  (resetTokens s.used).Nodup

instance (s : Recorded) : Decidable (UsedInTime s) :=
  inferInstanceAs (Decidable (∀ use ∈ s.used, _))

instance (s : Recorded) : Decidable (ResetOnce s) :=
  inferInstanceAs (Decidable (List.Nodup _))

/-- The stored date has not passed. -/
def InDate (date : Option Time) (now : Time) : Prop :=
  ∃ expires ∈ date, now ≤ expires

instance (date : Option Time) (now : Time) : Decidable (InDate date now) :=
  match date with
  | none => isFalse fun ⟨_, hmem, _⟩ => Option.not_mem_none _ hmem
  | some expires =>
      decidable_of_iff (now ≤ expires)
        ⟨fun h => ⟨expires, rfl, h⟩, fun ⟨_, hmem, h⟩ => Option.mem_some_iff.mp hmem ▸ h⟩

/-- What the callers have to keep to.  A reset token is presented for the first time, and
before the date stored with it has passed; the verification token of a user who is not
verified yet is presented before its date has passed. -/
def Punctual (s : Recorded) (r : AuthRequest) : Prop :=
  match r.call with
  | .verifyEmail token =>
      ∀ found ∈ s.store.users.findWhere fun u => u.emailVerificationToken = some token,
        found.2.isEmailVerified = false → InDate found.2.emailVerificationExpires r.now
  | .resetPassword token _ => token ∉ s.presented ∧
      ∀ found ∈ s.store.users.findWhere fun u => u.passwordResetToken = some token,
        InDate found.2.passwordResetExpires r.now
  | _ => True

/-! ## What a call issues -/

/-- The expiry dates an effect stores next to the tokens it stores. -/
def UserEffect.Dated (now : Time) : UserEffect → Prop
  | .none => True
  | .add user => ∀ kind token, user.tokenOf kind = some token →
      user.expiresOf kind = some (now + kind.lifetime)
  | .update _ patch => ∀ kind,
      (patch.tokenOf kind = Option.none ∧ patch.expiresOf kind = Option.none) ∨
      ∃ token, patch.tokenOf kind = some token ∧
        patch.expiresOf kind = some (now + kind.lifetime)

/-- A call stores the right dates. -/
theorem userEffectOf_dated (store : AuthStore) (r : AuthRequest) :
    (userEffectOf lib store r).Dated r.now := by
  obtain ⟨now, call⟩ := r
  cases call with
  | register dto =>
      simp only [userEffectOf]
      split
      · trivial
      · split
        · intro kind token htoken
          cases kind with
          | emailVerification => rfl
          | passwordReset => cases htoken
        · trivial
  | verifyEmail token =>
      simp only [userEffectOf]
      split
      · trivial
      · split
        · trivial
        · intro kind
          exact Or.inl (by cases kind <;> exact ⟨rfl, rfl⟩)
  | forgotPassword email =>
      simp only [userEffectOf]
      split
      · trivial
      · intro kind
        cases kind with
        | emailVerification => exact Or.inl ⟨rfl, rfl⟩
        | passwordReset => exact Or.inr ⟨_, rfl, rfl⟩
  | resetPassword token password =>
      simp only [userEffectOf]
      split
      · trivial
      · intro kind
        exact Or.inl (by cases kind <;> exact ⟨rfl, rfl⟩)
  | resendVerification userId =>
      simp only [userEffectOf]
      split
      · trivial
      · split
        · trivial
        · intro kind
          cases kind with
          | emailVerification => exact Or.inr ⟨_, rfl, rfl⟩
          | passwordReset => exact Or.inl ⟨rfl, rfl⟩
  | login | refresh | logout | revokeRefreshToken | revokeAllUserTokens => trivial

/-- A call issues at most one token, and draws it. -/
theorem userEffectOf_issued (store : AuthStore) (r : AuthRequest) :
    (userEffectOf lib store r).issued r.now = [] ∨
      ∃ kind n, store.drawn ≤ n ∧ n < (authExec lib store r).drawn ∧
        (userEffectOf lib store r).issued r.now = [⟨kind, lib.secureToken n, r.now⟩] := by
  obtain ⟨now, call⟩ := r
  cases call with
  | register dto =>
      by_cases hexisting :
          (store.findUser fun u => u.email = lib.toLowerCase dto.email).isSome
      · exact Or.inl (by simp only [userEffectOf, if_pos hexisting, UserEffect.issued])
      by_cases hnew : store.AcceptsUser (registeredUser lib store dto now)
      · refine Or.inr ⟨.emailVerification, store.drawn + 1, Nat.le_succ _, ?_, ?_⟩
        · show store.drawn + 1 < ((register lib dto now).storeAfter store).drawn
          rw [register_storeAfter, if_neg hexisting, if_pos hnew, AuthStore.drawn_addToken]
          show store.drawn + 1 < (registeredStore lib store dto now).drawn + 2
          rw [(registered_tables lib store dto now).2.2]
          omega
        · simp only [userEffectOf, if_neg hexisting, if_pos hnew]
          rfl
      · exact Or.inl (by
          simp only [userEffectOf, if_neg hexisting, if_neg hnew, UserEffect.issued])
  | verifyEmail token =>
      simp only [userEffectOf]
      split
      · exact Or.inl rfl
      · split <;> exact Or.inl rfl
  | forgotPassword email =>
      simp only [userEffectOf, authExec, ServiceM.storeAfter, run_forgotPassword]
      cases store.users.findWhere fun u => u.email = lib.toLowerCase email with
      | none => exact Or.inl rfl
      | some found => exact Or.inr ⟨.passwordReset, store.drawn, le_rfl, Nat.lt_succ_self _, rfl⟩
  | resetPassword token password =>
      simp only [userEffectOf]
      split <;> exact Or.inl rfl
  | resendVerification userId =>
      simp only [userEffectOf, authExec, ServiceM.storeAfter, run_resendVerification]
      cases store.users[userId]? with
      | none => exact Or.inl rfl
      | some user =>
          by_cases hv : user.isEmailVerified <;> simp only [hv]
          · exact Or.inl rfl
          · exact Or.inr ⟨.emailVerification, store.drawn, le_rfl, Nat.lt_succ_self _, rfl⟩
  | login | refresh | logout | revokeRefreshToken | revokeAllUserTokens => exact Or.inl rfl

/-! ## The invariant of the record -/

/-- What holds of the record in every state of a run. -/
structure TokensOk (s : Recorded) : Prop where
  /-- The issued tokens were drawn. -/
  drawn : ∀ issue ∈ s.issued, ∃ n < s.store.drawn, issue.token = lib.secureToken n
  once : IssuedOnce s
  /-- A stored token was issued, and the date stored with it is right. -/
  stored : ∀ (id : UserId) (u : User), s.store.users[id]? = some u → ∀ kind token,
    u.tokenOf kind = some token → ∃ issue ∈ s.issued, issue.kind = kind ∧
      issue.token = token ∧ u.expiresOf kind = some (issue.time + kind.lifetime)
  /-- An accepted reset token was presented. -/
  presented : ∀ token ∈ resetTokens s.used, token ∈ s.presented

/-- The tokens a new row or an update stores are issued. -/
theorem mem_issued {tokenOf : TokenKind → Option String} {kind : TokenKind} {token : String}
    (h : tokenOf kind = some token) (now : Time) :
    TokenEvent.mk kind token now ∈ [TokenKind.emailVerification, .passwordReset].filterMap
      fun kind => (tokenOf kind).map fun token => ⟨kind, token, now⟩ := by
  refine List.mem_filterMap.mpr ⟨kind, ?_, by rw [h, Option.map_some]⟩
  cases kind <;> simp

/-- An effect that stores the right dates keeps the stored tokens in order. -/
theorem stored_apply {users : Table User} {issued : List TokenEvent} {now : Time}
    {effect : UserEffect} (hdated : effect.Dated now)
    (h : ∀ (id : UserId) (u : User), users[id]? = some u → ∀ kind token,
      u.tokenOf kind = some token → ∃ issue ∈ issued, issue.kind = kind ∧
        issue.token = token ∧ u.expiresOf kind = some (issue.time + kind.lifetime))
    (id : UserId) (u : User) (hu : (effect.apply users)[id]? = some u) (kind : TokenKind)
    (token : String) (htoken : u.tokenOf kind = some token) :
    ∃ issue ∈ issued ++ effect.issued now, issue.kind = kind ∧ issue.token = token ∧
      u.expiresOf kind = some (issue.time + kind.lifetime) := by
  have hold : ∀ (u₀ : User), users[id]? = some u₀ → u₀.tokenOf kind = some token →
      ∃ issue ∈ issued ++ effect.issued now, issue.kind = kind ∧ issue.token = token ∧
        u₀.expiresOf kind = some (issue.time + kind.lifetime) := by
    intro u₀ hu₀ ht
    obtain ⟨issue, hmem, hrest⟩ := h id u₀ hu₀ kind token ht
    exact ⟨issue, List.mem_append_left _ hmem, hrest⟩
  cases effect with
  | none => exact hold u hu htoken
  | add user =>
      rcases Table.getElem?_insertRow_eq_some.mp hu with hu₀ | ⟨-, rfl⟩
      · exact hold u hu₀ htoken
      · exact ⟨⟨kind, token, now⟩, List.mem_append_right _ (mem_issued htoken now), rfl, rfl,
          hdated kind token htoken⟩
  | update target patch =>
      obtain ⟨u₀, hu₀, rfl⟩ := Table.getElem?_updateById_eq_some.mp hu
      by_cases hid : id = target
      · rw [if_pos hid] at htoken ⊢
        rw [User.tokenOf_update] at htoken
        rw [User.expiresOf_update]
        rcases hdated kind with ⟨hnone, hnodate⟩ | ⟨fresh, hfresh, hdate⟩
        · rw [hnone] at htoken
          rw [hnodate]
          exact hold u₀ hu₀ htoken
        · rw [hfresh] at htoken
          obtain rfl : fresh = token := Option.some.inj htoken
          rw [hdate]
          exact ⟨⟨kind, fresh, now⟩, List.mem_append_right _ (mem_issued hfresh now), rfl,
            rfl, rfl⟩
      · rw [if_neg hid] at htoken ⊢
        exact hold u₀ hu₀ htoken

theorem turnsVerified_self (users : Table User) : turnsVerified users users = false := by
  unfold turnsVerified
  induction users with
  | nil => rfl
  | cons u users ih =>
      rw [List.zip_cons_cons, List.any_cons, ih, Bool.or_false]
      cases u.isEmailVerified <;> rfl

theorem resetTokens_singleton_nodup (use : TokenEvent) : (resetTokens [use]).Nodup := by
  by_cases hkind : use.kind = .passwordReset <;> simp [resetTokens, hkind]

/-- `verifyEmail` uses no token when it writes no user. -/
theorem usedBy_verifyEmail_of_none {store : AuthStore} {token : String} {now : Time}
    (h : userEffectOf lib store ⟨now, .verifyEmail token⟩ = .none) :
    usedBy lib store ⟨now, .verifyEmail token⟩ = [] := by
  have husers : (authExec lib store ⟨now, .verifyEmail token⟩).users = store.users := by
    rw [exec_users, h]
    rfl
  simp only [usedBy, husers, turnsVerified_self, Bool.false_eq_true, if_false]

/-- A call of a punctual caller uses at most one token, which is stored, and in time. -/
theorem usedBy_of_punctual {s : Recorded} {r : AuthRequest} (h : Punctual s r) :
    usedBy lib s.store r = [] ∨ ∃ use, usedBy lib s.store r = [use] ∧
      (∃ (id : UserId) (u : User) (expires : Time), s.store.users[id]? = some u ∧
        u.tokenOf use.kind = some use.token ∧ u.expiresOf use.kind = some expires ∧
        use.time ≤ expires) ∧
      ∀ token ∈ resetTokens [use], token ∉ s.presented ∧ token ∈ presentedBy r := by
  obtain ⟨now, call⟩ := r
  cases call with
  | verifyEmail token =>
      cases hfind : s.store.users.findWhere (fun u => u.emailVerificationToken = some token) with
      | none =>
          refine Or.inl (usedBy_verifyEmail_of_none lib ?_)
          simp only [userEffectOf, hfind]
      | some found =>
          obtain ⟨hat, htoken⟩ := Table.findWhere_eq_some hfind
          cases hverified : found.2.isEmailVerified with
          | true =>
              refine Or.inl (usedBy_verifyEmail_of_none lib ?_)
              simp only [userEffectOf, hfind, hverified, if_true]
          | false =>
              obtain ⟨expires, hexpires, hle⟩ := h found hfind hverified
              simp only [usedBy]
              split
              · refine Or.inr ⟨_, rfl, ⟨found.1, found.2, expires, hat, ?_, hexpires, hle⟩, ?_⟩
                · exact of_decide_eq_true htoken
                · intro token htoken
                  cases htoken
              · exact Or.inl rfl
  | resetPassword token password =>
      obtain ⟨hfirst, hin⟩ := h
      simp only [usedBy]
      split
      · next hsucceeds =>
          rw [ServiceM.succeeds, run_resetPassword] at hsucceeds
          cases hfind : s.store.users.findWhere (fun u => u.passwordResetToken = some token) with
          | none =>
              rw [hfind] at hsucceeds
              cases hsucceeds
          | some found =>
              obtain ⟨hat, htoken⟩ := Table.findWhere_eq_some hfind
              obtain ⟨expires, hexpires, hle⟩ := hin found hfind
              refine Or.inr ⟨_, rfl, ⟨found.1, found.2, expires, hat, ?_, hexpires, hle⟩, ?_⟩
              · exact of_decide_eq_true htoken
              · intro token' htoken'
                obtain rfl : token' = token := List.mem_singleton.mp htoken'
                exact ⟨hfirst, List.mem_singleton_self _⟩
      · exact Or.inl rfl
  | register | login | refresh | logout | revokeRefreshToken | revokeAllUserTokens
  | forgotPassword | resendVerification => exact Or.inl rfl

/-- The same, for the tokens used: each is stored and in date, and the reset token was not
presented before. -/
theorem used_of_punctual {s : Recorded} {r : AuthRequest} (h : Punctual s r) :
    (∀ use ∈ usedBy lib s.store r, ∃ (id : UserId) (u : User) (expires : Time),
      s.store.users[id]? = some u ∧ u.tokenOf use.kind = some use.token ∧
        u.expiresOf use.kind = some expires ∧ use.time ≤ expires) ∧
    (resetTokens (usedBy lib s.store r)).Nodup ∧
    ∀ token ∈ resetTokens (usedBy lib s.store r),
      token ∉ s.presented ∧ token ∈ presentedBy r := by
  rcases usedBy_of_punctual lib h with hnone | ⟨use, hone, hlive, hreset⟩
  · rw [hnone]
    exact ⟨fun use huse => absurd huse List.not_mem_nil, List.nodup_nil,
      fun token htoken => absurd htoken List.not_mem_nil⟩
  · rw [hone]
    exact ⟨fun use' huse' => List.mem_singleton.mp huse' ▸ hlive,
      resetTokens_singleton_nodup use, hreset⟩

/-- The invariant of the record, without what the callers have to keep to. -/
theorem TokensOk.issued_step (hdraws : Function.Injective lib.secureToken) {s : Recorded}
    (h : TokensOk lib s) (r : AuthRequest) :
    (∀ issue ∈ (recordedExec lib s r).issued,
      ∃ n < (recordedExec lib s r).store.drawn, issue.token = lib.secureToken n) ∧
      IssuedOnce (recordedExec lib s r) := by
  have hle := drawn_le_exec lib s.store r
  have hbefore : ∀ issue ∈ s.issued,
      ∃ n < (recordedExec lib s r).store.drawn, issue.token = lib.secureToken n := by
    intro issue hissue
    obtain ⟨n, hn, htoken⟩ := h.drawn issue hissue
    exact ⟨n, lt_of_lt_of_le hn hle, htoken⟩
  rcases userEffectOf_issued lib s.store r with hnone | ⟨kind, n, hge, hlt, hone⟩
  · have hissued : (recordedExec lib s r).issued = s.issued := by
      show s.issued ++ _ = s.issued
      rw [hnone, List.append_nil]
    exact ⟨by rw [hissued]; exact hbefore, by rw [IssuedOnce, hissued]; exact h.once⟩
  · have hissued : (recordedExec lib s r).issued =
        s.issued ++ [⟨kind, lib.secureToken n, r.now⟩] := by
      show s.issued ++ _ = _
      rw [hone]
    rw [IssuedOnce, hissued, List.map_append, List.nodup_append]
    refine ⟨fun issue hissue => ?_, h.once, List.nodup_singleton _, ?_⟩
    · rcases List.mem_append.mp hissue with hold | hnew
      · exact hbefore issue hold
      · rw [List.mem_singleton.mp hnew]
        exact ⟨n, hlt, rfl⟩
    · -- The new token comes from a later draw than every token issued before.
      intro token hmem fresh hfresh heq
      obtain ⟨issue, hissue, rfl⟩ := List.mem_map.mp hmem
      obtain ⟨m, hm, htoken⟩ := h.drawn issue hissue
      rw [List.map_singleton, List.mem_singleton] at hfresh
      have hsame : m = n := hdraws (htoken.symm.trans (heq.trans hfresh))
      omega

/-- What is promised of the tokens: none is issued twice, none is used late, and no
reset token is accepted twice. -/
structure OneTime (s : Recorded) : Prop where
  issuedOnce : IssuedOnce s
  usedInTime : UsedInTime s
  resetOnce : ResetOnce s

/-- The stored tokens stay in order. -/
theorem TokensOk.stored_step {s : Recorded} (h : TokensOk lib s) (r : AuthRequest)
    (id : UserId) (u : User) (hu : (recordedExec lib s r).store.users[id]? = some u)
    (kind : TokenKind) (token : String) (htoken : u.tokenOf kind = some token) :
    ∃ issue ∈ (recordedExec lib s r).issued, issue.kind = kind ∧ issue.token = token ∧
      u.expiresOf kind = some (issue.time + kind.lifetime) := by
  rw [show (recordedExec lib s r).store.users = _ from exec_users lib s.store r] at hu
  exact stored_apply (userEffectOf_dated lib s.store r) h.stored id u hu kind token htoken

/-- **One call** of a punctual caller keeps the record in order. -/
theorem TokensOk.step (hdraws : Function.Injective lib.secureToken) {s : Recorded}
    {r : AuthRequest} (h : TokensOk lib s) (hpunctual : Punctual s r) :
    TokensOk lib (recordedExec lib s r) := by
  obtain ⟨hdrawn, honce⟩ := h.issued_step lib hdraws r
  obtain ⟨-, -, hreset⟩ := used_of_punctual lib hpunctual
  refine ⟨hdrawn, honce, h.stored_step lib r, fun token htoken => ?_⟩
  rw [recordedExec, resetTokens, List.filterMap_append] at htoken
  rcases List.mem_append.mp htoken with hold | hnew
  · exact List.mem_append_left _ (h.presented token hold)
  · exact List.mem_append_right _ (hreset token hnew).2

/-- A token that is used in time keeps the promise: the date stored with it is the time of
its issue plus its lifetime. -/
theorem UsedInTime.step {s : Recorded} {r : AuthRequest} (hok : TokensOk lib s)
    (h : UsedInTime s) (hpunctual : Punctual s r) : UsedInTime (recordedExec lib s r) := by
  obtain ⟨hlive, -, -⟩ := used_of_punctual lib hpunctual
  intro use huse
  rcases List.mem_append.mp huse with hold | hnew
  · obtain ⟨issue, hissue, hrest⟩ := h use hold
    exact ⟨issue, List.mem_append_left _ hissue, hrest⟩
  · obtain ⟨id, u, expires, hu, htoken, hexpires, hle⟩ := hlive use hnew
    obtain ⟨issue, hissue, hkind, hsame, hdate⟩ := hok.stored id u hu _ _ htoken
    rw [hexpires, Option.some.injEq] at hdate
    exact ⟨issue, List.mem_append_left _ hissue, hkind, hsame, hdate ▸ hle⟩

/-- Every reset token accepted before was presented before, and this one was not. -/
theorem ResetOnce.step {s : Recorded} {r : AuthRequest} (hok : TokensOk lib s)
    (h : ResetOnce s) (hpunctual : Punctual s r) : ResetOnce (recordedExec lib s r) := by
  obtain ⟨-, hnodup, hreset⟩ := used_of_punctual lib hpunctual
  rw [ResetOnce, recordedExec, resetTokens, List.filterMap_append, List.nodup_append]
  refine ⟨h, hnodup, fun old hold new hnew heq => ?_⟩
  rw [heq] at hold
  exact (hreset new hnew).1 (hok.presented new hold)

/-- **One-time tokens of punctual callers.**  If every caller presents a reset token for
the first time, and reset and verification tokens no later than the date stored with
them, then in every state of the run no token was issued twice, every token that was
used had been issued no longer ago than its lifetime, and no reset token was accepted
twice. -/
theorem oneTime_along (hdraws : Function.Injective lib.secureToken) (users : Table User)
    (husers : ∀ u ∈ users, ∀ kind, u.tokenOf kind = none) (requests : List AuthRequest)
    (hpunctual : Guarded (recordedExec lib) Punctual (Recorded.start users) requests) :
    Along (recordedExec lib) OneTime (Recorded.start users) requests := by
  have hstart : TokensOk lib (Recorded.start users) ∧ OneTime (Recorded.start users) := by
    refine ⟨⟨fun issue hissue => ?_, List.nodup_nil, fun id u hu kind token htoken => ?_,
      fun use huse => ?_⟩, ⟨List.nodup_nil, fun use huse => ?_, List.nodup_nil⟩⟩
    · cases hissue
    · rw [husers u (List.mem_of_getElem? hu) kind] at htoken
      cases htoken
    · cases huse
    · cases huse
  have hall : Along (recordedExec lib) (fun s => TokensOk lib s ∧ OneTime s)
      (Recorded.start users) requests := by
    refine Guarded.along (I := fun s => TokensOk lib s ∧ OneTime s) (fun s r hI hG => ?_)
      hstart hpunctual
    have hok := hI.1.step lib hdraws hG
    exact ⟨hok, hok.once, hI.2.usedInTime.step lib hI.1 hG, hI.2.resetOnce.step lib hI.1 hG⟩
  exact hall.mono fun s hs => hs.2

end Record

/-! ## Two runs -/

namespace Demo

/-- The verification token is used after an hour, the reset token after half an hour. -/
def punctualRun : List AuthRequest :=
  [⟨0, .register jean⟩, ⟨hour, .verifyEmail (authLib.secureToken 1)⟩,
    ⟨2 * hour, .forgotPassword jean.email⟩,
    ⟨2 * hour + 30 * minute, .resetPassword (authLib.secureToken 5) "nouveauMotdepasse123"⟩]

/-- The verification token is used after two days, the reset token after two hours, and
once more. -/
def lateRun : List AuthRequest :=
  [⟨0, .register jean⟩, ⟨48 * hour, .verifyEmail (authLib.secureToken 1)⟩,
    ⟨50 * hour, .forgotPassword jean.email⟩,
    ⟨52 * hour, .resetPassword (authLib.secureToken 5) "nouveauMotdepasse123"⟩,
    ⟨53 * hour, .resetPassword (authLib.secureToken 5) "motdepasse456"⟩]

end Demo

theorem oneTime_along_punctualRun :
    Function.Injective Demo.authLib.secureToken ∧
    Guarded (recordedExec Demo.authLib) Punctual (Recorded.start []) Demo.punctualRun ∧
    Along (recordedExec Demo.authLib) OneTime (Recorded.start []) Demo.punctualRun := by
  have husers : ∀ u ∈ ([] : Table User), ∀ kind, u.tokenOf kind = none := by
    intro u hu
    cases hu
  have hpunctual : Guarded (recordedExec Demo.authLib) Punctual (Recorded.start [])
      Demo.punctualRun := by
    refine ⟨trivial, ?_, trivial, ⟨?_, ?_⟩, trivial⟩
    · show ∀ found ∈ Table.findWhere (α := User) _ _, found.2.isEmailVerified = false →
        InDate found.2.emailVerificationExpires hour
      decide +kernel
    · decide +kernel
    · show ∀ found ∈ Table.findWhere (α := User) _ _,
        InDate found.2.passwordResetExpires (2 * hour + 30 * minute)
      decide +kernel
  exact ⟨Demo.secureToken_injective, hpunctual,
    oneTime_along Demo.authLib Demo.secureToken_injective [] husers Demo.punctualRun hpunctual⟩

/-- **Tokens are accepted late, and reset tokens twice.** -/
theorem reset_token_used_late_and_twice :
    Function.Injective Demo.authLib.secureToken ∧
    (Demo.lateRun.map AuthRequest.now).Pairwise (· ≤ ·) ∧
    let s := Final (recordedExec Demo.authLib) (Recorded.start []) Demo.lateRun
    ¬ UsedInTime s ∧ ¬ ResetOnce s := by
  refine ⟨Demo.secureToken_injective, by decide, ?_, ?_⟩
  · decide +kernel
  · decide +kernel

end StayRide
