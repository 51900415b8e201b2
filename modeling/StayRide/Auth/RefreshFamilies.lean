import StayRide.Lib.Run
import StayRide.Auth.Calls

/-!
# Families of refresh tokens

Every login starts a chain of refresh tokens: each refresh revokes the token it is
given and issues the next one of the chain.  To speak of chains, a run is traced: next
to the store it keeps, for every refresh token, the first token of its chain, its
*family*.  Nothing the code does depends on the trace, and `trace_token` says that the
tokens in it are the stored ones.

`families_step` is the invariant, for one effect on the tokens: a family has at most
one token that is not revoked, and all its tokens belong to one user.
`refresh_families` is the statement about whole runs, with the reuse of a revoked token.
-/

namespace StayRide

open Lib

/-- A refresh token with the first token of its chain. -/
structure Session where
  token : RefreshToken
  family : TokenId

def Session.revoke (now : Time) (s : Session) : Session :=
  { s with token := s.token.revoke now }

/-- The trace after an effect: an issued token starts a family, a token that replaces
another one joins its family. -/
def SessionEffect.trace (sessions : Table Session) : SessionEffect → Table Session
  | .none => sessions
  | .issue token => sessions.insertRow ⟨token, sessions.length⟩
  | .rotate id token now =>
      (sessions.updateWhere (fun i _ => i = id) (Session.revoke now)).insertRow
        ⟨token, (sessions[id]?.map Session.family).getD sessions.length⟩
  | .revoke p now => sessions.updateWhere (fun i s => p i s.token) (Session.revoke now)

/-- The traced tokens are the stored ones. -/
theorem SessionEffect.trace_token (sessions : Table Session) (effect : SessionEffect) :
    (effect.trace sessions).map Session.token =
      effect.apply (sessions.map Session.token) := by
  cases effect with
  | none => rfl
  | issue token => exact Table.map_insertRow _ _
  | rotate id token now =>
      have hrevoked : (sessions.updateWhere (fun i _ => i = id) (Session.revoke now)).map
          Session.token = Table.updateWhere (sessions.map Session.token) (fun i _ => i = id)
            (RefreshToken.revoke now) :=
        Table.map_updateWhere (fun _ _ _ => rfl) (fun _ => rfl)
      rw [SessionEffect.trace, Table.map_insertRow, hrevoked]
      rfl
  | revoke p now => exact Table.map_updateWhere (fun _ _ _ => rfl) (fun _ => rfl)

/-! ## The invariant of the families -/

/-- At most one token of a family is not revoked. -/
def SingleLive (sessions : Table Session) : Prop :=
  sessions.PairwiseRows fun a b =>
    a.family = b.family → a.token.revokedAt.isSome ∨ b.token.revokedAt.isSome

/-- Every token belongs to the user of its family. -/
def OwnedByFamily (sessions : Table Session) : Prop :=
  ∀ (i : TokenId) (s : Session), sessions[i]? = some s →
    ∃ root, sessions[s.family]? = some root ∧ root.family = s.family ∧
      root.token.userId = s.token.userId

/-- A token is replaced only while it is not revoked, and by a token of its user. -/
def SessionEffect.Sound (tokens : Table RefreshToken) : SessionEffect → Prop
  | .rotate id token _ => ∃ t, tokens[id]? = some t ∧ t.revokedAt.isSome = false ∧
      token.userId = t.userId
  | .none | .issue _ | .revoke _ _ => True

theorem issueEffect_sound (store : AuthStore) (token : RefreshToken)
    (tokens : Table RefreshToken) : (issueEffect store token).Sound tokens := by
  unfold issueEffect
  split <;> trivial

theorem sessionEffectOf_sound (lib : AuthLib) (store : AuthStore) (r : AuthRequest) :
    (sessionEffectOf lib store r).Sound store.refreshTokens := by
  obtain ⟨now, call⟩ := r
  cases call with
  | register dto =>
      simp only [sessionEffectOf]
      split
      · trivial
      · split
        · exact issueEffect_sound _ _ _
        · trivial
  | login dto deviceInfo =>
      simp only [sessionEffectOf]
      split
      · trivial
      · exact issueEffect_sound _ _ _
  | refresh token =>
      simp only [sessionEffectOf]
      split
      · trivial
      · next stored hfound =>
          obtain ⟨hat, -, -⟩ := AuthStore.findToken_eq_some hfound
          split
          · trivial
          · next hlive =>
              split
              · trivial
              · split
                · exact ⟨stored.token, hat, Bool.eq_false_of_not_eq_true hlive, rfl⟩
                · trivial
  | logout token =>
      simp only [sessionEffectOf]
      split <;> trivial
  | resetPassword token password =>
      simp only [sessionEffectOf]
      split <;> trivial
  | revokeRefreshToken | revokeAllUserTokens | verifyEmail | forgotPassword
  | resendVerification => trivial

/-- What a sweep of revocations leaves of a session. -/
theorem getElem?_revoked {sessions : Table Session} {p : TokenId → Session → Bool}
    {now : Time} {i : TokenId} {s : Session}
    (h : (sessions.updateWhere p (Session.revoke now))[i]? = some s) :
    ∃ old, sessions[i]? = some old ∧ s.family = old.family ∧
      s.token.userId = old.token.userId ∧
      (old.token.revokedAt.isSome ∨ p i old = true → s.token.revokedAt.isSome) := by
  obtain ⟨old, hold, rfl⟩ := Table.getElem?_updateWhere_eq_some.mp h
  refine ⟨old, hold, ?_⟩
  by_cases hp : p i old
  · rw [if_pos hp]
    exact ⟨rfl, rfl, fun _ => rfl⟩
  · rw [if_neg hp]
    exact ⟨rfl, rfl, fun h => h.resolve_right hp⟩

/-- Revoking tokens keeps the families. -/
theorem SingleLive.updateWhere {sessions : Table Session} (h : SingleLive sessions)
    (p : TokenId → Session → Bool) (now : Time) :
    SingleLive (sessions.updateWhere p (Session.revoke now)) := by
  intro i j a b hij ha hb hfamily
  obtain ⟨a₀, ha₀, hfa, -, hra⟩ := getElem?_revoked ha
  obtain ⟨b₀, hb₀, hfb, -, hrb⟩ := getElem?_revoked hb
  rw [hfa, hfb] at hfamily
  exact (h i j a₀ b₀ hij ha₀ hb₀ hfamily).imp (fun hr => hra (Or.inl hr))
    fun hr => hrb (Or.inl hr)

theorem OwnedByFamily.updateWhere {sessions : Table Session} (h : OwnedByFamily sessions)
    (p : TokenId → Session → Bool) (now : Time) :
    OwnedByFamily (sessions.updateWhere p (Session.revoke now)) := by
  intro i s hs
  obtain ⟨old, hold, hfamily, howner, -⟩ := getElem?_revoked hs
  obtain ⟨root, hroot, hrootFamily, hrootOwner⟩ := h i old hold
  refine ⟨if p s.family root then root.revoke now else root, ?_, ?_, ?_⟩
  · rw [Table.getElem?_updateWhere, hfamily, hroot, Option.map_some]
  · split <;> exact hrootFamily.trans hfamily.symm
  · split <;> exact hrootOwner.trans howner.symm

/-- The family of a token is the key of a token. -/
theorem OwnedByFamily.family_lt {sessions : Table Session} (h : OwnedByFamily sessions)
    {i : TokenId} {s : Session} (hs : sessions[i]? = some s) :
    s.family < sessions.length := by
  obtain ⟨root, hroot, -⟩ := h i s hs
  exact (List.getElem?_eq_some_iff.mp hroot).1

/-- A new session keeps the families when all others of its family are revoked. -/
theorem SingleLive.insertRow {sessions : Table Session} (h : SingleLive sessions)
    {new : Session} (hrevoked : ∀ (j : TokenId) (b : Session), sessions[j]? = some b →
      b.family = new.family → b.token.revokedAt.isSome) :
    SingleLive (sessions.insertRow new) := by
  have hsymm : ∀ a b : Session,
      (a.family = b.family → a.token.revokedAt.isSome ∨ b.token.revokedAt.isSome) →
        b.family = a.family → b.token.revokedAt.isSome ∨ a.token.revokedAt.isSome :=
    fun a b hab hba => (hab hba.symm).symm
  refine (Table.PairwiseRows.insertRow_iff hsymm h new).mpr fun j b hb hfamily => ?_
  exact Or.inr (hrevoked j b hb hfamily.symm)

/-- A new session keeps the owners when it starts a family or joins one of its user. -/
theorem OwnedByFamily.insertRow {sessions : Table Session} (h : OwnedByFamily sessions)
    {new : Session} (hnew : ∃ root, (sessions.insertRow new)[new.family]? = some root ∧
      root.family = new.family ∧ root.token.userId = new.token.userId) :
    OwnedByFamily (sessions.insertRow new) := by
  intro i s hs
  rcases Table.getElem?_insertRow_eq_some.mp hs with hold | ⟨-, rfl⟩
  · obtain ⟨root, hroot, hrest⟩ := h i s hold
    exact ⟨root, Table.getElem?_insertRow_of_some new hroot, hrest⟩
  · exact hnew

/-- **One effect** keeps the families: at most one token of each is not revoked, and
all belong to one user. -/
theorem families_step {sessions : Table Session} (hsingle : SingleLive sessions)
    (howned : OwnedByFamily sessions) {effect : SessionEffect}
    (hsound : effect.Sound (sessions.map Session.token)) :
    SingleLive (effect.trace sessions) ∧ OwnedByFamily (effect.trace sessions) := by
  cases effect with
  | none => exact ⟨hsingle, howned⟩
  | issue token =>
      refine ⟨hsingle.insertRow fun j b hb hfamily => ?_, howned.insertRow ?_⟩
      · have hlt := howned.family_lt hb
        rw [hfamily] at hlt
        exact absurd hlt (Nat.lt_irrefl _)
      · exact ⟨_, Table.getElem?_insertRow_self _ _, rfl, rfl⟩
  | rotate id token now =>
      obtain ⟨t, ht, hlive, howner⟩ := hsound
      rw [List.getElem?_map, Option.map_eq_some_iff] at ht
      obtain ⟨old, hold, rfl⟩ := ht
      have hfamily : (sessions[id]?.map Session.family).getD sessions.length = old.family := by
        rw [hold]
        rfl
      rw [SessionEffect.trace, hfamily]
      refine ⟨(hsingle.updateWhere _ now).insertRow fun j b hb hsame => ?_,
        (howned.updateWhere _ now).insertRow ?_⟩
      · -- Another token of the family was revoked before; the replaced one is now.
        obtain ⟨b₀, hb₀, hfb, -, hrevoked⟩ := getElem?_revoked hb
        refine hrevoked ?_
        by_cases hj : j = id
        · exact Or.inr (decide_eq_true hj)
        · refine Or.inl ((hsingle j id b₀ old hj hb₀ hold (hfb.symm.trans hsame)).resolve_right ?_)
          rw [hlive]
          exact Bool.false_ne_true
      · obtain ⟨root, hroot, hrootFamily, hrootOwner⟩ :=
          howned.updateWhere (fun i _ => i = id) now id (old.revoke now) (by
            rw [Table.getElem?_updateWhere, hold, Option.map_some, if_pos (decide_eq_true rfl)])
        exact ⟨root, Table.getElem?_insertRow_of_some _ hroot, hrootFamily,
          hrootOwner.trans howner.symm⟩
  | revoke p now => exact ⟨hsingle.updateWhere _ now, howned.updateWhere _ now⟩

/-! ## Runs -/

/-- The store of a run, and its trace. -/
structure Traced where
  store : AuthStore
  sessions : Table Session

section Runs

variable (lib : AuthLib)

/-- A call, traced. -/
def tracedExec (s : Traced) (r : AuthRequest) : Traced :=
  ⟨authExec lib s.store r, (sessionEffectOf lib s.store r).trace s.sessions⟩

/-- Accounts, and nobody logged in yet. -/
def Traced.start (users : Table User) : Traced := ⟨AuthStore.start users, []⟩

/-- What every state of a run satisfies: the trace is one of the stored tokens, and the
families are in order. -/
structure FamiliesOk (s : Traced) : Prop where
  trace_eq : s.sessions.map Session.token = s.store.refreshTokens
  single : SingleLive s.sessions
  owned : OwnedByFamily s.sessions

theorem FamiliesOk.step {s : Traced} (h : FamiliesOk s) (r : AuthRequest) :
    FamiliesOk (tracedExec lib s r) := by
  have hsound := sessionEffectOf_sound lib s.store r
  rw [← h.trace_eq] at hsound
  obtain ⟨hsingle, howned⟩ := families_step h.single h.owned hsound
  refine ⟨?_, hsingle, howned⟩
  show ((sessionEffectOf lib s.store r).trace s.sessions).map Session.token =
    (authExec lib s.store r).refreshTokens
  rw [SessionEffect.trace_token, h.trace_eq, exec_refreshTokens]

theorem familiesOk_run (users : Table User) (requests : List AuthRequest) :
    FamiliesOk (Final (tracedExec lib) (Traced.start users) requests) := by
  refine final_invariant (fun s r h => h.step lib r) ?_ requests
  refine ⟨rfl, Table.pairwiseRows_nil _, fun i s hs => ?_⟩
  cases hs

/-- The token under this key is revoked. -/
def IsRevoked (tokens : Table RefreshToken) (id : TokenId) : Prop :=
  ∃ t, tokens[id]? = some t ∧ t.revokedAt.isSome

theorem IsRevoked.updateWhere {tokens : Table RefreshToken} {id : TokenId}
    (h : IsRevoked tokens id) (p : TokenId → RefreshToken → Bool) (now : Time) :
    IsRevoked (tokens.updateWhere p (RefreshToken.revoke now)) id := by
  obtain ⟨t, ht, hrevoked⟩ := h
  refine ⟨if p id t then t.revoke now else t, ?_, ?_⟩
  · rw [Table.getElem?_updateWhere, ht, Option.map_some]
  · split
    · rfl
    · exact hrevoked

theorem IsRevoked.insertRow {tokens : Table RefreshToken} {id : TokenId}
    (h : IsRevoked tokens id) (token : RefreshToken) :
    IsRevoked (tokens.insertRow token) id := by
  obtain ⟨t, ht, hrevoked⟩ := h
  exact ⟨t, Table.getElem?_insertRow_of_some token ht, hrevoked⟩

/-- A revoked token stays revoked. -/
theorem IsRevoked.apply {tokens : Table RefreshToken} {id : TokenId}
    (h : IsRevoked tokens id) (effect : SessionEffect) : IsRevoked (effect.apply tokens) id := by
  cases effect with
  | none => exact h
  | issue token => exact h.insertRow token
  | rotate old token now => exact (h.updateWhere _ now).insertRow token
  | revoke p now => exact h.updateWhere p now

theorem isRevoked_run {s : Traced} {id : TokenId} (h : IsRevoked s.store.refreshTokens id)
    (requests : List AuthRequest) :
    IsRevoked (Final (tracedExec lib) s requests).store.refreshTokens id := by
  refine final_invariant (I := fun s : Traced => IsRevoked s.store.refreshTokens id)
    (fun s r h => ?_) h requests
  show IsRevoked (authExec lib s.store r).refreshTokens id
  rw [exec_refreshTokens]
  exact h.apply _

/-- Revoking the tokens of a user revokes these and no others. -/
theorem getElem?_revokeUser (userId : UserId) (now : Time) {tokens : Table RefreshToken}
    {id : TokenId} {t : RefreshToken} (ht : tokens[id]? = some t) :
    let after := tokens.updateWhere (fun _ t => t.userId = userId) (RefreshToken.revoke now)
    if t.userId = userId then IsRevoked after id else after[id]? = some t := by
  by_cases howner : t.userId = userId
  · rw [if_pos howner]
    refine ⟨t.revoke now, ?_, rfl⟩
    rw [Table.getElem?_updateWhere, ht, Option.map_some, if_pos (decide_eq_true howner)]
  · rw [if_neg howner, Table.getElem?_updateWhere, ht, Option.map_some,
      if_neg (by rwa [decide_eq_true_iff])]

/-- What the reuse of a revoked token does: the call throws, and of the refresh tokens
exactly those of its user are revoked. -/
theorem refreshTokens_of_revoked {store : AuthStore} {id : TokenId} {t : RefreshToken}
    (ht : store.refreshTokens[id]? = some t) (hrevoked : t.revokedAt.isSome) {value : String}
    (hvalue : hashToken lib value = t.tokenHash) (now : Time) :
    (refreshTokens lib value now).run store =
      .error compromisedSession (store.revokeWhere (fun _ t' => t'.userId = t.userId) now) := by
  obtain ⟨user, -, hfound⟩ := AuthStore.findToken_of_row ht
  rw [run_refreshTokens, hvalue, hfound]
  exact if_pos hrevoked

/-- **Families of refresh tokens.**  In every state of every run of calls:

* each family has at most one token that is not revoked;
* every token belongs to the user of its family;
* a token that is revoked stays revoked in every continuation of the run;
* a revoked token that is presented to `refreshTokens` makes the call throw; no token is
  issued, all tokens of its user are revoked afterwards, and those of the other users
  are as they were. -/
theorem refresh_families (users : Table User) (requests : List AuthRequest) :
    let s := Final (tracedExec lib) (Traced.start users) requests
    s.sessions.map Session.token = s.store.refreshTokens ∧
    SingleLive s.sessions ∧ OwnedByFamily s.sessions ∧
    (∀ id later, IsRevoked s.store.refreshTokens id →
      IsRevoked (Final (tracedExec lib) s later).store.refreshTokens id) ∧
    ∀ (id : TokenId) (t : RefreshToken) (value : String) (now : Time),
      s.store.refreshTokens[id]? = some t → t.revokedAt.isSome →
      hashToken lib value = t.tokenHash →
        let call := refreshTokens lib value now
        let after := (call.storeAfter s.store).refreshTokens
        call.outcome s.store = .error compromisedSession ∧
        after.length = s.store.refreshTokens.length ∧
        ∀ (j : TokenId) (t' : RefreshToken), s.store.refreshTokens[j]? = some t' →
          if t'.userId = t.userId then IsRevoked after j else after[j]? = some t' := by
  intro s
  have hok := familiesOk_run lib users requests
  refine ⟨hok.trace_eq, hok.single, hok.owned, fun id later h => isRevoked_run lib h later, ?_⟩
  intro id t value now ht hrevoked hvalue call after
  have hrun : call.run s.store = _ := refreshTokens_of_revoked lib ht hrevoked hvalue now
  have hafter : after = s.store.refreshTokens.updateWhere
      (fun _ t' => t'.userId = t.userId) (RefreshToken.revoke now) := by
    show (call.storeAfter s.store).refreshTokens = _
    rw [ServiceM.storeAfter, hrun]
    rfl
  refine ⟨?_, ?_, fun j t' ht' => ?_⟩
  · rw [ServiceM.outcome, hrun]
  · rw [hafter, Table.length_updateWhere]
  · rw [hafter]
    exact getElem?_revokeUser t.userId now ht'

end Runs

end StayRide
