import StayRide.Auth.Calls
import StayRide.Lib.Interleaving

/-!
# `refreshTokens`, step by step

Concurrent calls of `TokenService.refreshTokens` that present the same refresh token.
Each await is one atomic step: the lookup by hash, the update that revokes the token
(or, for a token that is revoked already, all tokens of its user), and the insertion of
the successor.  An awaited call may also be rejected, which ends the call.

The update that revokes the token does not ask whether it is revoked by now.  So two
calls that both look the token up before one of them revokes it both issue a successor
(`two_calls_both_refresh`).  `refresh_single_use`: at most one call succeeds, and at most
one successor is created, as long as no call looks the token up while another one is
between its lookup and its revocation.

`refresh_alone` connects the steps with the method: a call that is not interrupted does
what `refreshTokens` does.
-/

namespace StayRide

open Lib

/-- Where a call is: before the await of this name, or finished. -/
inductive RefreshPc
  | lookup
  | revokeAll (userId : UserId)
  | revoke (stored : StoredToken)
  | insert (stored : StoredToken)
  | done (result : Except HttpException Refreshed)

/-- The call has not come to its insertion yet. -/
def RefreshPc.beforeInsert : RefreshPc → Bool
  | .lookup | .revokeAll _ | .revoke _ => true
  | .insert _ | .done _ => false

section Steps

variable (lib : AuthLib) (token : String)

/-- One step of a call. -/
def refreshStep (attempt : Attempt) (store : AuthStore) (pc : RefreshPc) :
    Option (AuthStore × RefreshPc) :=
  match pc, attempt with
  | .lookup, .succeeds now =>
      match store.findToken (hashToken lib token) with
      | none => some (store, .done (.error invalidRefreshToken))
      | some stored =>
          if stored.token.revokedAt.isSome then some (store, .revokeAll stored.token.userId)
          else if stored.token.expiresAt < now then
            some (store, .done (.error expiredSession))
          else some (store, .revoke stored)
  | .revokeAll userId, .succeeds now =>
      some (store.revokeWhere (fun _ t => t.userId = userId) now,
        .done (.error compromisedSession))
  | .revoke stored, .succeeds now =>
      some (store.revokeWhere (fun id _ => id = stored.id) now, .insert stored)
  | .insert stored, .succeeds now =>
      match (generateTokens lib stored.token.userId stored.user none now).run store with
      | .ok newTokens store' =>
          some (store', .done (.ok ⟨stored.token.userId, stored.user, newTokens⟩))
      | .error e store' => some (store', .done (.error e))
  -- The new values are drawn before the insertion that fails.
  | .insert _, .fails => some (store.countDraw.countDraw, .done (.error .queryFailed))
  | .lookup, .fails | .revokeAll _, .fails | .revoke _, .fails =>
      some (store, .done (.error .queryFailed))
  | .done _, _ => none

/-- What a step can do, with what it found. -/
inductive RefreshStep (store : AuthStore) : RefreshPc → AuthStore → RefreshPc → Prop
  | pass (stored : StoredToken) (hfound : store.findToken (hashToken lib token) = some stored)
      (hlive : stored.token.revokedAt.isSome = false) :
      RefreshStep store .lookup store (.revoke stored)
  | reuse (stored : StoredToken)
      (hfound : store.findToken (hashToken lib token) = some stored) :
      RefreshStep store .lookup store (.revokeAll stored.token.userId)
  | revokeAll (userId : UserId) (now : Time) :
      RefreshStep store (.revokeAll userId)
        (store.revokeWhere (fun _ t => t.userId = userId) now)
        (.done (.error compromisedSession))
  | revoke (stored : StoredToken) (now : Time) :
      RefreshStep store (.revoke stored)
        (store.revokeWhere (fun id _ => id = stored.id) now) (.insert stored)
  | insert (stored : StoredToken) (now : Time) (newTokens : TokenPair)
      (haccepts : store.Accepts (issuedRow lib store stored.token.userId none now)) :
      RefreshStep store (.insert stored)
        (store.countDraw.countDraw.addToken
          (issuedRow lib store stored.token.userId none now))
        (.done (.ok ⟨stored.token.userId, stored.user, newTokens⟩))
  | refuse (stored : StoredToken) (e : HttpException) :
      RefreshStep store (.insert stored) store.countDraw.countDraw (.done (.error e))
  | stop (pc : RefreshPc) (hpc : pc.beforeInsert = true) (e : HttpException) :
      RefreshStep store pc store (.done (.error e))

/-- **Inversion**: a step is one of the listed ones. -/
theorem refreshStep_cases {attempt : Attempt} {store store' : AuthStore} {pc pc' : RefreshPc}
    (h : refreshStep lib token attempt store pc = some (store', pc')) :
    RefreshStep lib token store pc store' pc' := by
  cases pc with
  | lookup =>
      cases attempt with
      | fails =>
          cases h
          exact .stop _ rfl _
      | succeeds now =>
          simp only [refreshStep] at h
          split at h
          · cases h
            exact .stop _ rfl _
          · next stored hfound =>
              split at h
              · cases h
                exact .reuse stored hfound
              · next hlive =>
                  split at h
                  · cases h
                    exact .stop _ rfl _
                  · cases h
                    exact .pass stored hfound (Bool.eq_false_of_not_eq_true hlive)
  | revokeAll userId =>
      cases attempt with
      | fails =>
          cases h
          exact .stop _ rfl _
      | succeeds now =>
          cases h
          exact .revokeAll userId now
  | revoke stored =>
      cases attempt with
      | fails =>
          cases h
          exact .stop _ rfl _
      | succeeds now =>
          cases h
          exact .revoke stored now
  | insert stored =>
      cases attempt with
      | fails =>
          cases h
          exact .refuse stored _
      | succeeds now =>
          simp only [refreshStep, run_generateTokens] at h
          by_cases haccepts : store.Accepts (issuedRow lib store stored.token.userId none now)
          · rw [if_pos haccepts] at h
            cases h
            exact .insert stored now _ haccepts
          · rw [if_neg haccepts] at h
            cases h
            exact .refuse stored _
  | done result => cases h

end Steps

/-! ## The system -/

/-- The calls and the store they share. -/
abbrev RefreshConfig (ι : Type) := Config AuthStore ι RefreshPc

/-- A step of a call; nothing else happens. -/
abbrev RefreshMove (ι : Type) := Move ι Attempt Empty

section System

variable {ι : Type} [DecidableEq ι] (lib : AuthLib) (token : String)

/-- Concurrent `refreshTokens` calls that present `token`. -/
def refreshSystem : RefreshConfig ι → RefreshMove ι → Option (RefreshConfig ι) :=
  interleave (fun _ => refreshStep lib token) fun e => e.elim

/-- All calls have arrived, none has begun. -/
def refreshStart (store : AuthStore) : RefreshConfig ι :=
  ⟨store, fun _ => .lookup⟩

variable {lib token} {c : RefreshConfig ι} {i : ι}

/-- What the steps of a call that nothing interrupts come to. -/
theorem refresh_solo (store : AuthStore) (now : Time) :
    solo (refreshStep lib token (.succeeds now)) 3 store .lookup =
      ((refreshTokens lib token now).storeAfter store,
        .done ((refreshTokens lib token now).outcome store)) := by
  rw [ServiceM.outcome, ServiceM.storeAfter, run_refreshTokens]
  cases hfound : store.findToken (hashToken lib token) with
  | none => simp [solo, refreshStep, hfound]
  | some stored =>
      by_cases hrevoked : stored.token.revokedAt.isSome
      · simp [solo, refreshStep, hfound, hrevoked]
      by_cases hexpired : stored.token.expiresAt < now
      · simp [solo, refreshStep, hfound, hrevoked, hexpired]
      · cases hrun : (generateTokens lib stored.token.userId stored.user none now).run
            (store.revokeWhere (fun id _ => id = stored.id) now) with
        | ok newTokens store' => simp [solo, refreshStep, hfound, hrevoked, hexpired, hrun]
        | error e store' => simp [solo, refreshStep, hfound, hrevoked, hexpired, hrun]

/-- **Alone, a call does what `refreshTokens` does.** -/
theorem refresh_alone (hpc : c.pc i = .lookup) (now : Time) :
    ∃ n c', replay (refreshSystem lib token) c
        (List.replicate n (.process i (.succeeds now))) = some c' ∧
      c'.pc i = .done ((refreshTokens lib token now).outcome c.shared) ∧
      c'.shared = (refreshTokens lib token now).storeAfter c.shared := by
  obtain ⟨n, hn⟩ := exists_replay_solo (fun _ : ι => refreshStep lib token)
    (fun e : Empty => e.elim) i (.succeeds now) 3 c
  rw [hpc, refresh_solo] at hn
  exact ⟨n, _, hn, Function.update_self .., rfl⟩

/-! ## Single use -/

def RefreshPc.isLookup : RefreshPc → Bool
  | .lookup => true
  | _ => false

/-- The call is about to revoke the token. -/
def RefreshPc.isRevoking : RefreshPc → Bool
  | .revoke _ => true
  | _ => false

/-- The token is not looked up while another call is about to revoke it. -/
def NoLookupBeforeRevoke (c : RefreshConfig ι) : RefreshMove ι → Prop
  | .process i _ => (c.pc i).isLookup = true → ∀ j, (c.pc j).isRevoking = false
  | .environment e => e.elim

instance [Fintype ι] (c : RefreshConfig ι) :
    (move : RefreshMove ι) → Decidable (NoLookupBeforeRevoke c move)
  | .process i _ => inferInstanceAs
      (Decidable ((c.pc i).isLookup = true → ∀ j, (c.pc j).isRevoking = false))
  | .environment e => e.elim

/-- The call has passed its lookup and has not failed since. -/
def RefreshPc.holds : RefreshPc → Bool
  | .revoke _ | .insert _ | .done (.ok _) => true
  | .lookup | .revokeAll _ | .done (.error _) => false

/-- The call has succeeded. -/
def RefreshPc.isOk : RefreshPc → Bool
  | .done (.ok _) => true
  | _ => false

theorem RefreshPc.isOk_iff {pc : RefreshPc} :
    pc.isOk = true ↔ ∃ refreshed, pc = .done (.ok refreshed) := by
  constructor
  · intro h
    cases pc with
    | done result =>
        cases result with
        | ok refreshed => exact ⟨refreshed, rfl⟩
        | error e => cases h
    | lookup | revokeAll | revoke | insert => cases h
  · rintro ⟨refreshed, rfl⟩
    rfl

theorem RefreshPc.holds_of_isOk {pc : RefreshPc} (h : pc.isOk = true) : pc.holds = true := by
  obtain ⟨refreshed, rfl⟩ := RefreshPc.isOk_iff.mp h
  rfl

/-- What a call knows of the token with this hash: a call about to revoke it knows its
row, and a call past the revocation knows that it is revoked. -/
def RefreshPc.Knows (store : AuthStore) (tokenHash : String) : RefreshPc → Prop
  | .revoke stored => ∃ t, store.refreshTokens[stored.id]? = some t ∧ t.tokenHash = tokenHash
  | .insert _ | .done (.ok _) => ∃ (id : TokenId) (t : RefreshToken),
      store.refreshTokens[id]? = some t ∧ t.tokenHash = tokenHash ∧ t.revokedAt.isSome
  | .lookup | .revokeAll _ | .done (.error _) => True

/-- Rows keep their hashes, and revoked rows stay revoked. -/
def RowsKept (store store' : AuthStore) : Prop :=
  ∀ (id : TokenId) (t : RefreshToken), store.refreshTokens[id]? = some t →
    ∃ t', store'.refreshTokens[id]? = some t' ∧ t'.tokenHash = t.tokenHash ∧
      (t.revokedAt.isSome → t'.revokedAt.isSome)

end System

section Rows

variable {store : AuthStore}

theorem rowsKept_revokeWhere (p : TokenId → RefreshToken → Bool) (now : Time) :
    RowsKept store (store.revokeWhere p now) := by
  intro id t ht
  refine ⟨if p id t then t.revoke now else t, ?_, ?_, ?_⟩
  · rw [AuthStore.refreshTokens_revokeWhere, Table.getElem?_updateWhere, ht, Option.map_some]
  · split <;> rfl
  · split
    · exact fun _ => rfl
    · exact fun hrevoked => hrevoked

theorem rowsKept_addToken {row : RefreshToken} (h : store.Accepts row) :
    RowsKept store (store.countDraw.countDraw.addToken row) := by
  intro id t ht
  refine ⟨t, ?_, rfl, fun hrevoked => hrevoked⟩
  rw [AuthStore.refreshTokens_addToken (show store.countDraw.countDraw.Accepts row from h)]
  exact Table.getElem?_insertRow_of_some row ht

theorem RefreshPc.Knows.mono {store' : AuthStore} {tokenHash : String} {pc : RefreshPc}
    (h : pc.Knows store tokenHash) (hkept : RowsKept store store') :
    pc.Knows store' tokenHash := by
  have hrevoked : (∃ (id : TokenId) (t : RefreshToken), store.refreshTokens[id]? = some t ∧
      t.tokenHash = tokenHash ∧ t.revokedAt.isSome) →
      ∃ (id : TokenId) (t : RefreshToken), store'.refreshTokens[id]? = some t ∧
        t.tokenHash = tokenHash ∧ t.revokedAt.isSome := by
    rintro ⟨id, t, ht, hhash, hr⟩
    obtain ⟨t', ht', hhash', hr'⟩ := hkept id t ht
    exact ⟨id, t', ht', hhash'.trans hhash, hr' hr⟩
  cases pc with
  | lookup | revokeAll => trivial
  | revoke stored =>
      obtain ⟨t, ht, hhash⟩ := h
      obtain ⟨t', ht', hhash', -⟩ := hkept stored.id t ht
      exact ⟨t', ht', hhash'.trans hhash⟩
  | insert stored => exact hrevoked h
  | done result =>
      cases result with
      | ok refreshed => exact hrevoked h
      | error e => trivial

/-- A token that is found alive is not one that a call has revoked. -/
theorem not_knows_of_live {tokenHash : String} {stored : StoredToken}
    (hfound : store.findToken tokenHash = some stored)
    (hlive : stored.token.revokedAt.isSome = false) :
    ¬ ∃ (id : TokenId) (t : RefreshToken), store.refreshTokens[id]? = some t ∧
      t.tokenHash = tokenHash ∧ t.revokedAt.isSome := by
  rintro ⟨id, t, ht, rfl, hrevoked⟩
  obtain ⟨user, -, hrow⟩ := AuthStore.findToken_of_row ht
  rw [hfound, Option.some.injEq] at hrow
  rw [hrow, hrevoked] at hlive
  cases hlive

end Rows

section SingleUse

variable {ι : Type} (lib : AuthLib) (token : String) (start : AuthStore)

/-- What holds in every state as long as the token is not looked up before a revocation. -/
structure SingleUse (c : RefreshConfig ι) : Prop where
  unique : ∀ i j, (c.pc i).holds = true → (c.pc j).holds = true → i = j
  knows : ∀ i, (c.pc i).Knows c.shared (hashToken lib token)
  /-- Nothing is created but the token of the call that succeeded. -/
  created : c.shared.refreshTokens.length = start.refreshTokens.length ∨
    c.shared.refreshTokens.length = start.refreshTokens.length + 1 ∧
      ∃ i, (c.pc i).isOk = true

variable {lib token start}

/-- Where the token is found alive and no call is about to revoke it, no call holds it. -/
theorem SingleUse.idle_of_live {c : RefreshConfig ι} (h : SingleUse lib token start c)
    {stored : StoredToken} (hfound : c.shared.findToken (hashToken lib token) = some stored)
    (hlive : stored.token.revokedAt.isSome = false)
    (hguard : ∀ j, (c.pc j).isRevoking = false) (k : ι) : (c.pc k).holds = false := by
  have hk := h.knows k
  have hnone := hguard k
  have hnot := not_knows_of_live hfound hlive
  cases hpc : c.pc k with
  | lookup | revokeAll => rfl
  | revoke stored' =>
      rw [hpc] at hnone
      cases hnone
  | insert stored' =>
      rw [hpc] at hk
      exact absurd hk hnot
  | done result =>
      rw [hpc] at hk
      cases result with
      | ok refreshed => exact absurd hk hnot
      | error e => rfl

variable [DecidableEq ι]

/-- What the calls know survives a step of one of them. -/
theorem SingleUse.knows_update {c : RefreshConfig ι} (h : SingleUse lib token start c) {i : ι}
    {store : AuthStore} {pc : RefreshPc} (hkept : RowsKept c.shared store)
    (hpc : pc.Knows store (hashToken lib token)) :
    ∀ k, (Function.update c.pc i pc k).Knows store (hashToken lib token) :=
  (Function.forall_update_iff c.pc fun _ p => p.Knows _ _).mpr
    ⟨hpc, fun k _ => (h.knows k).mono hkept⟩

/-- A call that held the token before is the only one that holds it afterwards. -/
theorem SingleUse.unique_update {c : RefreshConfig ι} (h : SingleUse lib token start c)
    {i : ι} {pc : RefreshPc} (hheld : pc.holds = true → (c.pc i).holds = true) :
    ∀ k l, (Function.update c.pc i pc k).holds = true →
      (Function.update c.pc i pc l).holds = true → k = l := by
  have hbefore : ∀ k, (Function.update c.pc i pc k).holds = true → (c.pc k).holds = true :=
    (Function.forall_update_iff c.pc fun k p => p.holds = true → (c.pc k).holds = true).mpr
      ⟨hheld, fun k _ hk => hk⟩
  exact fun k l hk hl => h.unique k l (hbefore k hk) (hbefore l hl)

/-- A step of a call that has not succeeded, and that creates nothing. -/
theorem SingleUse.created_update {c : RefreshConfig ι} (h : SingleUse lib token start c)
    {i : ι} (hnot : (c.pc i).isOk = false) (pc : RefreshPc) :
    c.shared.refreshTokens.length = start.refreshTokens.length ∨
      c.shared.refreshTokens.length = start.refreshTokens.length + 1 ∧
        ∃ k, (Function.update c.pc i pc k).isOk = true := by
  refine h.created.imp_right fun hone => ⟨hone.1, ?_⟩
  obtain ⟨k, hk⟩ := hone.2
  have hki : k ≠ i := by
    rintro rfl
    rw [hnot] at hk
    cases hk
  exact ⟨k, by rw [Function.update_of_ne hki]; exact hk⟩

/-- A step that keeps the rows and gets no hold of the token keeps the single use. -/
theorem SingleUse.quiet {c : RefreshConfig ι} (h : SingleUse lib token start c) {i : ι}
    {store : AuthStore} {pc : RefreshPc} (hkept : RowsKept c.shared store)
    (hlength : store.refreshTokens.length = c.shared.refreshTokens.length)
    (hpc : pc.Knows store (hashToken lib token))
    (hheld : pc.holds = true → (c.pc i).holds = true) (hnot : (c.pc i).isOk = false) :
    SingleUse lib token start ⟨store, Function.update c.pc i pc⟩ := by
  refine ⟨h.unique_update hheld, h.knows_update hkept hpc, ?_⟩
  show store.refreshTokens.length = _ ∨ store.refreshTokens.length = _ ∧ _
  rw [hlength]
  exact h.created_update hnot pc

/-- **One step** of a call keeps the single use. -/
theorem SingleUse.step {c : RefreshConfig ι} (h : SingleUse lib token start c) {i : ι}
    (hguard : (c.pc i).isLookup = true → ∀ j, (c.pc j).isRevoking = false) {store : AuthStore}
    {pc : RefreshPc} (hstep : RefreshStep lib token c.shared (c.pc i) store pc) :
    SingleUse lib token start ⟨store, Function.update c.pc i pc⟩ := by
  have hsame : RowsKept c.shared c.shared := fun id t ht => ⟨t, ht, rfl, fun hr => hr⟩
  have hself := h.knows i
  generalize hpc : c.pc i = old at hstep hself
  cases hstep with
  | pass stored hfound hlive =>
      have hidle := h.idle_of_live hfound hlive (hguard (by rw [hpc]; rfl))
      have honly : ∀ k, (Function.update c.pc i (.revoke stored) k).holds = true → k = i :=
        (Function.forall_update_iff c.pc fun k p => p.holds = true → k = i).mpr
          ⟨fun _ => rfl, fun k _ hk => by rw [hidle k] at hk; cases hk⟩
      obtain ⟨hat, hhash, -⟩ := AuthStore.findToken_eq_some hfound
      exact ⟨fun k l hk hl => (honly k hk).trans (honly l hl).symm,
        h.knows_update hsame ⟨stored.token, hat, hhash⟩,
        h.created_update (by rw [hpc]; rfl) _⟩
  | reuse stored hfound =>
      exact h.quiet hsame rfl trivial (fun h => by cases h) (by rw [hpc]; rfl)
  | revokeAll userId now =>
      exact h.quiet (rowsKept_revokeWhere _ now) (Table.length_updateWhere _ _ _) trivial
        (fun h => by cases h) (by rw [hpc]; rfl)
  | revoke stored now =>
      obtain ⟨t, ht, hhash⟩ := hself
      refine h.quiet (rowsKept_revokeWhere _ now) (Table.length_updateWhere _ _ _)
        ⟨stored.id, t.revoke now, ?_, hhash, rfl⟩ (fun _ => by rw [hpc]; rfl) (by rw [hpc]; rfl)
      rw [AuthStore.refreshTokens_revokeWhere, Table.getElem?_updateWhere, ht, Option.map_some,
        if_pos (decide_eq_true rfl)]
  | insert stored now newTokens haccepts =>
      have hkept := rowsKept_addToken haccepts
      refine ⟨h.unique_update fun _ => by rw [hpc]; rfl, h.knows_update hkept (hself.mono hkept),
        Or.inr ⟨?_, i, ?_⟩⟩
      · -- No other call has succeeded: this one holds the token.
        have hnone : c.shared.refreshTokens.length = start.refreshTokens.length := by
          refine h.created.resolve_right ?_
          rintro ⟨-, k, hk⟩
          have hki : k = i :=
            h.unique k i (RefreshPc.holds_of_isOk hk) (by rw [hpc]; rfl)
          rw [hki, hpc] at hk
          cases hk
        rw [AuthStore.refreshTokens_addToken
          (show c.shared.countDraw.countDraw.Accepts _ from haccepts), Table.length_insertRow,
          ← hnone]
        rfl
      · show (Function.update c.pc i _ i).isOk = true
        rw [Function.update_self]
        rfl
  | refuse stored e =>
      exact h.quiet hsame rfl trivial (fun h => by cases h) (by rw [hpc]; rfl)
  | stop old hbefore e =>
      refine h.quiet hsame rfl trivial (fun h => by cases h) ?_
      rw [hpc]
      cases old with
      | lookup | revokeAll | revoke => rfl
      | insert | done => cases hbefore

/-- **Single use.**  As long as the token is not looked up while another call is about to
revoke it, at most one call succeeds, and at most one refresh token is created. -/
theorem refresh_single_use (lib : AuthLib) (token : String) (start : AuthStore)
    (c : RefreshConfig ι)
    (h : Reach (refreshSystem lib token) NoLookupBeforeRevoke (refreshStart start) c) :
    (∀ i j r r', c.pc i = .done (.ok r) → c.pc j = .done (.ok r') → i = j) ∧
      c.shared.refreshTokens.length ≤ start.refreshTokens.length + 1 := by
  have hsingle : SingleUse lib token start c := by
    refine interleave_invariant ⟨fun i j hi => (by cases hi), fun _ => trivial, Or.inl rfl⟩
      (fun c i a s p hI hG hact => ?_) (fun c e s _ _ _ => e.elim) h
    exact hI.step hG (refreshStep_cases lib token hact)
  refine ⟨fun i j r r' hi hj => ?_, ?_⟩
  · exact hsingle.unique i j (by rw [hi]; rfl) (by rw [hj]; rfl)
  · rcases hsingle.created with hnone | ⟨hone, -⟩
    · exact hnone.le.trans (Nat.le_succ _)
    · exact hone.le

end SingleUse

/-! ## Runs of two calls -/

namespace Demo

/-- A user has just registered; the refresh token is the fourth draw. -/
def loggedIn : AuthStore := authExec authLib (AuthStore.start []) ⟨0, .register jean⟩

def refreshToken : String := authLib.secureToken 4

/-- The next call that the call `i` awaits returns. -/
def nextRefresh (i : Fin 2) : RefreshMove (Fin 2) := .process i (.succeeds hour)

end Demo

/-- The second call looks the token up when the first one has revoked it. -/
theorem refresh_single_use_in_turn : ∃ c : RefreshConfig (Fin 2),
    Reach (refreshSystem Demo.authLib Demo.refreshToken) NoLookupBeforeRevoke
      (refreshStart Demo.loggedIn) c ∧
    (c.pc 0).isOk = true ∧
    (∀ i j r r', c.pc i = .done (.ok r) → c.pc j = .done (.ok r') → i = j) := by
  have hrun : (replay (fun c move => if NoLookupBeforeRevoke c move then
      refreshSystem Demo.authLib Demo.refreshToken c move else none)
      (refreshStart Demo.loggedIn) [Demo.nextRefresh 0, Demo.nextRefresh 0, Demo.nextRefresh 1,
        Demo.nextRefresh 0, Demo.nextRefresh 1]).map (fun c => (c.pc 0).isOk) = some true := by
    decide +kernel
  obtain ⟨c, hreach, hok⟩ := exists_reach_of_admitted hrun
  exact ⟨c, hreach, hok,
    (refresh_single_use Demo.authLib Demo.refreshToken Demo.loggedIn c hreach).1⟩

/-- **Two calls both refresh.**  Both look the token up before one of them revokes it. -/
theorem two_calls_both_refresh :
    ¬ ∀ c : RefreshConfig (Fin 2), Reach (refreshSystem Demo.authLib Demo.refreshToken)
      (fun _ _ => True) (refreshStart Demo.loggedIn) c →
        (∀ i j r r', c.pc i = .done (.ok r) → c.pc j = .done (.ok r') → i = j) ∧
          c.shared.refreshTokens.length ≤ Demo.loggedIn.refreshTokens.length + 1 := by
  intro h
  have hrun : (replay (refreshSystem Demo.authLib Demo.refreshToken)
      (refreshStart Demo.loggedIn) [Demo.nextRefresh 0, Demo.nextRefresh 1, Demo.nextRefresh 0,
        Demo.nextRefresh 1, Demo.nextRefresh 0, Demo.nextRefresh 1]).map
      (fun c => ((c.pc 0).isOk, (c.pc 1).isOk)) = some (true, true) := by
    decide +kernel
  obtain ⟨c, hreach, hstate⟩ := exists_reach_of_unguarded hrun
  rw [Prod.mk.injEq] at hstate
  obtain ⟨r, hr⟩ := RefreshPc.isOk_iff.mp hstate.1
  obtain ⟨r', hr'⟩ := RefreshPc.isOk_iff.mp hstate.2
  exact absurd ((h c hreach).1 0 1 r r' hr hr') (by decide)

end StayRide
