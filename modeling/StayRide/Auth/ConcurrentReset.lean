import Mathlib.Data.Fintype.Basic
import StayRide.Auth.ConcurrentRefresh

/-!
# `resetPassword` and `refreshTokens` at the same time

Any number of `refreshTokens` calls, each with a token of its own, interleaved with any
number of `resetPassword` calls.  The steps of a refresh are those of
`StayRide.Auth.ConcurrentRefresh`; the steps of a reset are the lookup of the user, the
hashing of the new password, the update of the user and the revocation of all tokens of
the user.

The revocation reaches the rows that are there when it is carried out.  A refresh that
has found its token alive before and inserts the successor afterwards leaves a token
that works (`refresh_survives_reset`).  `reset_revokes_all`: when no refresh of the user
is between its lookup and its insertion at the moment of the revocation, then from the
end of the reset on the user has no unrevoked token, whatever refreshes come later.
-/

namespace StayRide

open Lib

/-! ## The steps of a reset -/

/-- Where a reset is: before the await of this name, or at its end. -/
inductive ResetPc
  | lookup
  | hash (userId : UserId)
  | update (userId : UserId) (passwordHash : String)
  | revokeAll (userId : UserId)
  | finished (userId : UserId)
  | failed (e : HttpException)

section Reset

variable (lib : AuthLib) (token newPassword : String)

/-- One step of a reset. -/
def resetStep (attempt : Attempt) (store : AuthStore) (pc : ResetPc) :
    Option (AuthStore × ResetPc) :=
  match pc, attempt with
  | .lookup, .succeeds now =>
      match store.findUser fun u => u.passwordResetToken = some token with
      | none => some (store, .failed invalidOrExpiredToken)
      | some (userId, user) =>
          if dateBefore user.passwordResetExpires now then
            some (store, .failed invalidOrExpiredToken)
          else some (store, .hash userId)
  | .hash userId, .succeeds _ =>
      some (store.countDraw, .update userId (lib.argon2Hash store.drawn newPassword))
  | .update userId passwordHash, .succeeds _ =>
      some (store.updateUser userId
        { passwordHash := some passwordHash
          passwordResetToken := none
          passwordResetExpires := none }, .revokeAll userId)
  | .revokeAll userId, .succeeds now =>
      some (store.revokeWhere (fun _ t => t.userId = userId) now, .finished userId)
  | .lookup, .fails | .hash _, .fails | .update _ _, .fails | .revokeAll _, .fails =>
      some (store, .failed .queryFailed)
  | .finished _, _ | .failed _, _ => none

/-- What a reset that is at its end returned. -/
def ResetPc.result : ResetPc → Option (Except HttpException String)
  | .finished _ => some (.ok "Mot de passe modifié. Reconnectez-vous.")
  | .failed e => some (.error e)
  | .lookup | .hash _ | .update _ _ | .revokeAll _ => none

/-- **Alone, a reset does what `resetPassword` does.** -/
theorem reset_solo (store : AuthStore) (now : Time) :
    (solo (resetStep lib token newPassword (.succeeds now)) 4 store .lookup).1 =
        (resetPassword lib token newPassword now).storeAfter store ∧
      (solo (resetStep lib token newPassword (.succeeds now)) 4 store .lookup).2.result =
        some ((resetPassword lib token newPassword now).outcome store) := by
  rw [ServiceM.outcome, ServiceM.storeAfter, run_resetPassword]
  cases hfound : store.users.findWhere fun u => u.passwordResetToken = some token with
  | none => simp [solo, resetStep, AuthStore.findUser, hfound, ResetPc.result]
  | some found =>
      have hexpires : found.2.loaded.passwordResetExpires = none := rfl
      simp [solo, resetStep, AuthStore.findUser, hfound, hexpires, dateBefore, ResetPc.result]

/-- A reset changes no refresh token before it revokes those of the user, and that is the
step that finishes it. -/
theorem refreshTokens_resetStep {attempt : Attempt} {store store' : AuthStore}
    {pc pc' : ResetPc} (h : resetStep lib token newPassword attempt store pc = some (store', pc')) :
    (store'.refreshTokens = store.refreshTokens ∧ ∀ userId, pc' ≠ .finished userId) ∨
      ∃ userId now, pc = .revokeAll userId ∧ pc' = .finished userId ∧
        store' = store.revokeWhere (fun _ t => t.userId = userId) now := by
  cases attempt with
  | fails => cases pc <;> cases h <;> exact Or.inl ⟨rfl, fun _ h => by cases h⟩
  | succeeds now =>
      cases pc with
      | lookup =>
          simp only [resetStep] at h
          split at h
          · cases h
            exact Or.inl ⟨rfl, fun _ h => by cases h⟩
          · split at h <;> cases h <;> exact Or.inl ⟨rfl, fun _ h => by cases h⟩
      | hash userId | update userId passwordHash =>
          cases h
          exact Or.inl ⟨rfl, fun _ h => by cases h⟩
      | revokeAll userId =>
          cases h
          exact Or.inr ⟨userId, now, rfl, rfl, rfl⟩
      | finished userId | failed e => cases h

end Reset

/-! ## The system -/

/-- A call of the system. -/
inductive SessionCall
  | refresh (token : String)
  | reset (token newPassword : String)

/-- Where a call of the system is. -/
inductive SessionPc
  | refresh (pc : RefreshPc)
  | reset (pc : ResetPc)

/-- One step of a call. -/
def sessionStep (lib : AuthLib) (call : SessionCall) (attempt : Attempt) (store : AuthStore)
    (pc : SessionPc) : Option (AuthStore × SessionPc) :=
  match call, pc with
  | .refresh token, .refresh pc =>
      (refreshStep lib token attempt store pc).map fun next => (next.1, .refresh next.2)
  | .reset token newPassword, .reset pc =>
      (resetStep lib token newPassword attempt store pc).map fun next => (next.1, .reset next.2)
  | .refresh _, .reset _ | .reset _ _, .refresh _ => none

/-- The calls and the store they share. -/
abbrev SessionConfig (ι : Type) := Config AuthStore ι SessionPc

/-- A step of a call; nobody logs in or registers in the meantime. -/
abbrev SessionMove (ι : Type) := Move ι Attempt Empty

section System

variable {ι : Type} [DecidableEq ι] (lib : AuthLib) (calls : ι → SessionCall)

def sessionSystem : SessionConfig ι → SessionMove ι → Option (SessionConfig ι) :=
  interleave (fun i => sessionStep lib (calls i)) fun e => e.elim

/-- Where a call begins. -/
def SessionCall.begin : SessionCall → SessionPc
  | .refresh _ => .refresh .lookup
  | .reset _ _ => .reset .lookup

/-- All calls have arrived, none has begun. -/
def sessionStart (store : AuthStore) : SessionConfig ι :=
  ⟨store, fun i => (calls i).begin⟩

end System

/-- The refresh has found a token of the user alive and has not inserted the successor. -/
def SessionPc.Rotates (userId : UserId) : SessionPc → Prop
  | .refresh (.revoke stored) | .refresh (.insert stored) => stored.token.userId = userId
  | .refresh .lookup | .refresh (.revokeAll _) | .refresh (.done _) | .reset _ => False

instance (userId : UserId) : (pc : SessionPc) → Decidable (pc.Rotates userId)
  | .refresh (.revoke stored) | .refresh (.insert stored) =>
      inferInstanceAs (Decidable (stored.token.userId = userId))
  | .refresh .lookup | .refresh (.revokeAll _) | .refresh (.done _) | .reset _ =>
      inferInstanceAs (Decidable False)

/-- The user whose tokens the call is about to revoke as the last step of a reset. -/
def SessionPc.resets : SessionPc → Option UserId
  | .reset (.revokeAll userId) => some userId
  | _ => none

/-- A reset does not revoke the tokens of a user while a refresh rotates one of them. -/
def NoRotationAtReset {ι : Type} (c : SessionConfig ι) : SessionMove ι → Prop
  | .process i _ => ∀ userId ∈ (c.pc i).resets, ∀ j, ¬ (c.pc j).Rotates userId
  | .environment e => e.elim

instance {ι : Type} [Fintype ι] (c : SessionConfig ι) :
    (move : SessionMove ι) → Decidable (NoRotationAtReset c move)
  | .process i _ => inferInstanceAs
      (Decidable (∀ userId ∈ (c.pc i).resets, ∀ j, ¬ (c.pc j).Rotates userId))
  | .environment e => e.elim

/-! ## Revoked tokens stay the only ones -/

/-- The user has no unrevoked refresh token. -/
def AllRevoked (store : AuthStore) (userId : UserId) : Prop :=
  ∀ (id : TokenId) (t : RefreshToken), store.refreshTokens[id]? = some t →
    t.userId = userId → t.revokedAt.isSome = true

section AllRevoked

variable {store : AuthStore} {userId : UserId}

theorem AllRevoked.revokeWhere (h : AllRevoked store userId)
    (p : TokenId → RefreshToken → Bool) (now : Time) :
    AllRevoked (store.revokeWhere p now) userId := by
  intro id t ht howner
  obtain ⟨t₀, ht₀, rfl⟩ := Table.getElem?_updateWhere_eq_some.mp ht
  by_cases hp : p id t₀
  · rw [if_pos hp]
    rfl
  · rw [if_neg hp] at howner ⊢
    exact h id t₀ ht₀ howner

theorem allRevoked_revokeAll (now : Time) :
    AllRevoked (store.revokeWhere (fun _ t => t.userId = userId) now) userId := by
  intro id t ht howner
  obtain ⟨t₀, -, rfl⟩ := Table.getElem?_updateWhere_eq_some.mp ht
  by_cases hp : t₀.userId = userId
  · rw [if_pos (decide_eq_true hp)]
    rfl
  · rw [if_neg (mt of_decide_eq_true hp)] at howner
    exact absurd howner hp

/-- A token of another user makes no difference. -/
theorem AllRevoked.addToken (h : AllRevoked store userId) {row : RefreshToken}
    (haccepts : store.Accepts row) (hother : row.userId ≠ userId) :
    AllRevoked (store.countDraw.countDraw.addToken row) userId := by
  intro id t ht howner
  rw [AuthStore.refreshTokens_addToken
    (show store.countDraw.countDraw.Accepts row from haccepts)] at ht
  rcases Table.getElem?_insertRow_eq_some.mp ht with hold | ⟨-, rfl⟩
  · exact h id t hold howner
  · exact absurd howner hother

/-- A token of the user is not found alive. -/
theorem AllRevoked.ne_of_live (h : AllRevoked store userId) {tokenHash : String}
    {stored : StoredToken} (hfound : store.findToken tokenHash = some stored)
    (hlive : stored.token.revokedAt.isSome = false) : stored.token.userId ≠ userId := by
  intro howner
  obtain ⟨hat, -, -⟩ := AuthStore.findToken_eq_some hfound
  rw [h stored.id stored.token hat howner] at hlive
  cases hlive

/-- **One step** of a refresh brings no live token to a user who has none, and starts no
rotation of one, provided that it is not rotating one already. -/
theorem AllRevoked.refreshStep (h : AllRevoked store userId) {lib : AuthLib} {token : String}
    {store' : AuthStore} {pc pc' : RefreshPc} (hidle : ¬ (SessionPc.refresh pc).Rotates userId)
    (hstep : RefreshStep lib token store pc store' pc') :
    AllRevoked store' userId ∧ ¬ (SessionPc.refresh pc').Rotates userId := by
  cases hstep with
  | pass stored hfound hlive => exact ⟨h, h.ne_of_live hfound hlive⟩
  | reuse stored hfound => exact ⟨h, not_false⟩
  | revokeAll owner now => exact ⟨h.revokeWhere _ now, not_false⟩
  | revoke stored now => exact ⟨h.revokeWhere _ now, hidle⟩
  | insert stored now newTokens haccepts => exact ⟨h.addToken haccepts hidle, not_false⟩
  | refuse stored e => exact ⟨h, not_false⟩
  | stop pc hpc e => exact ⟨h, not_false⟩

end AllRevoked

/-! ## Revocation beats refresh -/

section Main

variable {ι : Type} [DecidableEq ι]

/-- A user whose reset has finished has no live token, and none is on its way. -/
def ResetHolds (c : SessionConfig ι) : Prop :=
  ∀ i userId, c.pc i = .reset (.finished userId) →
    AllRevoked c.shared userId ∧ ∀ j, ¬ (c.pc j).Rotates userId

/-- A step of a refresh. -/
theorem ResetHolds.refresh {c : SessionConfig ι} (h : ResetHolds c) {lib : AuthLib}
    {token : String} {i : ι} {store : AuthStore} {pc pc' : RefreshPc}
    (hpc : c.pc i = .refresh pc) (hstep : RefreshStep lib token c.shared pc store pc') :
    ResetHolds ⟨store, Function.update c.pc i (.refresh pc')⟩ := by
  intro k userId (hk : Function.update c.pc i (.refresh pc') k = .reset (.finished userId))
  have hki : k ≠ i := by
    rintro rfl
    rw [Function.update_self] at hk
    cases hk
  rw [Function.update_of_ne hki] at hk
  obtain ⟨hrevoked, hidle⟩ := h k userId hk
  have hself : ¬ (SessionPc.refresh pc).Rotates userId := hpc ▸ hidle i
  obtain ⟨hrevoked', hself'⟩ := hrevoked.refreshStep hself hstep
  exact ⟨hrevoked', (Function.forall_update_iff c.pc fun _ p => ¬ p.Rotates userId).mpr
    ⟨hself', fun j _ => hidle j⟩⟩

/-- A step of a reset. -/
theorem ResetHolds.reset {c : SessionConfig ι} (h : ResetHolds c) {lib : AuthLib}
    {token newPassword : String} {i : ι} {attempt : Attempt} {store : AuthStore}
    {pc pc' : ResetPc} (hpc : c.pc i = .reset pc)
    (hguard : ∀ userId ∈ (c.pc i).resets, ∀ j, ¬ (c.pc j).Rotates userId)
    (hstep : resetStep lib token newPassword attempt c.shared pc = some (store, pc')) :
    ResetHolds ⟨store, Function.update c.pc i (.reset pc')⟩ := by
  have hrotates : ∀ userId, (∀ j, ¬ (c.pc j).Rotates userId) →
      ∀ j, ¬ (Function.update c.pc i (.reset pc') j).Rotates userId := fun userId hidle =>
    (Function.forall_update_iff c.pc fun _ p => ¬ p.Rotates userId).mpr
      ⟨not_false, fun j _ => hidle j⟩
  have hbefore : ∀ userId, AllRevoked c.shared userId → AllRevoked store userId := by
    intro userId hall
    rcases refreshTokens_resetStep lib token newPassword hstep with
      ⟨hsame, -⟩ | ⟨owner, now, -, -, rfl⟩
    · intro id t ht
      rw [hsame] at ht
      exact hall id t ht
    · exact hall.revokeWhere _ now
  intro k userId (hk : Function.update c.pc i (.reset pc') k = .reset (.finished userId))
  by_cases hki : k = i
  · -- The reset has finished with this step: it has revoked what there is.
    subst hki
    rw [Function.update_self] at hk
    obtain rfl := SessionPc.reset.inj hk
    rcases refreshTokens_resetStep lib token newPassword hstep with
      ⟨-, hnot⟩ | ⟨owner, now, rfl, howner, rfl⟩
    · exact absurd rfl (hnot userId)
    · obtain rfl := ResetPc.finished.inj howner
      exact ⟨allRevoked_revokeAll now, hrotates userId (hguard userId (by rw [hpc]; rfl))⟩
  · rw [Function.update_of_ne hki] at hk
    obtain ⟨hrevoked, hidle⟩ := h k userId hk
    exact ⟨hbefore userId hrevoked, hrotates userId hidle⟩

/-- **One step** of any call. -/
theorem ResetHolds.step {c : SessionConfig ι} (h : ResetHolds c) {lib : AuthLib}
    {call : SessionCall} {i : ι} {attempt : Attempt} {store : AuthStore} {pc : SessionPc}
    (hguard : ∀ userId ∈ (c.pc i).resets, ∀ j, ¬ (c.pc j).Rotates userId)
    (hstep : sessionStep lib call attempt c.shared (c.pc i) = some (store, pc)) :
    ResetHolds ⟨store, Function.update c.pc i pc⟩ := by
  cases hpc : c.pc i with
  | refresh old =>
      rw [hpc] at hstep
      cases call with
      | refresh token =>
          obtain ⟨next, hnext, heq⟩ := Option.map_eq_some_iff.mp hstep
          cases heq
          exact h.refresh hpc (refreshStep_cases lib token hnext)
      | reset token newPassword => cases hstep
  | reset old =>
      rw [hpc] at hstep
      cases call with
      | refresh token => cases hstep
      | reset token newPassword =>
          obtain ⟨next, hnext, heq⟩ := Option.map_eq_some_iff.mp hstep
          cases heq
          exact h.reset hpc hguard hnext

/-- **Revocation beats refresh.**  In every run in which no reset revokes the tokens of a
user while a refresh of that user is between its lookup and its insertion, a user whose
reset has finished has no unrevoked refresh token. -/
theorem reset_revokes_all (lib : AuthLib) (calls : ι → SessionCall) (store : AuthStore)
    (c : SessionConfig ι)
    (h : Reach (sessionSystem lib calls) NoRotationAtReset (sessionStart calls store) c)
    (i : ι) (userId : UserId) (hi : c.pc i = .reset (.finished userId)) :
    AllRevoked c.shared userId := by
  have hinv : ResetHolds c := by
    refine interleave_invariant ?_ (fun c i a s p hI hG hact => hI.step hG hact)
      (fun c e s _ _ _ => e.elim) h
    intro k owner hk
    have hbegin : (calls k).begin = .reset (.finished owner) := hk
    cases hcall : calls k with
    | refresh token => rw [hcall] at hbegin; cases hbegin
    | reset token newPassword => rw [hcall] at hbegin; cases hbegin
  exact (hinv i userId hi).1

end Main

/-! ## Runs of one refresh and one reset -/

namespace Demo

/-- The user who has just registered has asked for a reset; its token is the next draw. -/
def resetRequested : AuthStore := authExec authLib loggedIn ⟨hour, .forgotPassword jean.email⟩

/-- A refresh of the session that the registration opened, and the reset. -/
def sessionCalls : Fin 2 → SessionCall
  | 0 => .refresh refreshToken
  | 1 => .reset (authLib.secureToken 5) "correct horse"

/-- The next call that the call `i` awaits returns. -/
def nextSession (i : Fin 2) : SessionMove (Fin 2) := .process i (.succeeds (2 * hour))

end Demo

/-- The user whose reset has finished. -/
def SessionPc.resetOf : SessionPc → Option UserId
  | .reset (.finished userId) => some userId
  | _ => none

theorem SessionPc.resetOf_eq_some {pc : SessionPc} {userId : UserId}
    (h : pc.resetOf = some userId) : pc = .reset (.finished userId) := by
  cases pc with
  | refresh pc => cases h
  | reset pc =>
      cases pc with
      | finished owner =>
          cases h
          rfl
      | lookup | hash | update | revokeAll | failed => cases h

/-- The call is at its end. -/
def SessionPc.ended : SessionPc → Bool
  | .refresh (.done _) | .reset (.finished _) | .reset (.failed _) => true
  | _ => false

/-- The refresh is over when the reset revokes: its successor is revoked with the rest. -/
theorem reset_revokes_all_after_refresh : ∃ c : SessionConfig (Fin 2),
    Reach (sessionSystem Demo.authLib Demo.sessionCalls) NoRotationAtReset
      (sessionStart Demo.sessionCalls Demo.resetRequested) c ∧
    c.shared.refreshTokens.length = 2 ∧ AllRevoked c.shared 0 := by
  have hrun : (replay (fun c move => if NoRotationAtReset c move then
      sessionSystem Demo.authLib Demo.sessionCalls c move else none)
      (sessionStart Demo.sessionCalls Demo.resetRequested)
      [Demo.nextSession 1, Demo.nextSession 0, Demo.nextSession 1, Demo.nextSession 0,
        Demo.nextSession 1, Demo.nextSession 0, Demo.nextSession 1]).map
      (fun c => (c.shared.refreshTokens.length, (c.pc 1).resetOf)) = some (2, some 0) := by
    decide +kernel
  obtain ⟨c, hreach, hstate⟩ := exists_reach_of_admitted hrun
  rw [Prod.mk.injEq] at hstate
  exact ⟨c, hreach, hstate.1, reset_revokes_all Demo.authLib Demo.sessionCalls
    Demo.resetRequested c hreach 1 0 (SessionPc.resetOf_eq_some hstate.2)⟩

/-- **A refresh survives the reset.**  It has revoked its token when the reset revokes all,
and inserts the successor after it. -/
theorem refresh_survives_reset :
    ¬ ∀ c : SessionConfig (Fin 2), Reach (sessionSystem Demo.authLib Demo.sessionCalls)
      (fun _ _ => True) (sessionStart Demo.sessionCalls Demo.resetRequested) c →
        (∀ i, (c.pc i).ended = true) → ∀ i userId, c.pc i = .reset (.finished userId) →
          AllRevoked c.shared userId := by
  intro h
  have hrun : (replay (sessionSystem Demo.authLib Demo.sessionCalls)
      (sessionStart Demo.sessionCalls Demo.resetRequested)
      [Demo.nextSession 1, Demo.nextSession 0, Demo.nextSession 1, Demo.nextSession 0,
        Demo.nextSession 1, Demo.nextSession 1, Demo.nextSession 0]).map
      (fun c => ((c.pc 0).ended, (c.pc 1).resetOf,
        c.shared.refreshTokens[1]?.map fun t => (t.userId, t.revokedAt))) =
      some (true, some 0, some (0, none)) := by
    decide +kernel
  obtain ⟨c, hreach, hstate⟩ := exists_reach_of_unguarded hrun
  simp only [Prod.mk.injEq] at hstate
  obtain ⟨hended, hreset, hrow⟩ := hstate
  have hpc := SessionPc.resetOf_eq_some hreset
  obtain ⟨t, ht, hfields⟩ := Option.map_eq_some_iff.mp hrow
  rw [Prod.mk.injEq] at hfields
  have hall : ∀ i, (c.pc i).ended = true :=
    Fin.forall_fin_two.mpr ⟨hended, by rw [hpc]; rfl⟩
  have hrevoked := h c hreach hall 1 0 hpc 1 t ht hfields.1
  rw [hfields.2] at hrevoked
  cases hrevoked

end StayRide
