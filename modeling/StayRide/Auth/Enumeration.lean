import StayRide.Auth.AuthService

/-!
# Which accounts exist

`forgotPassword` answers the same whether there is an account or not.  For an account it
draws a token, stores it and sends a mail; a mail that the transport rejects is logged, so
that the answer does not tell (`forgotPasswordVia_outcome`).

`login` answers a wrong password as it answers an unknown address.  But it looks at
`isActive` before it looks at the password, and says so: with a wrong password the answer
tells exactly whether the address belongs to a suspended account that has a password
(`login_outcome_of_wrong`).
-/

namespace StayRide

open Lib AuthM

/-! ## Mails that are not delivered -/

namespace AuthM

/-- `transporter.sendMail`: the mail is delivered, or the promise is rejected. -/
def deliver (reply : Except HttpException Unit) (mail : Mail) : AuthM Unit :=
  match reply with
  | .ok () => sendMail mail
  | .error e => throw e

/-- What the transport rejects is logged. -/
def sendEmail (reply : Except HttpException Unit) (mail : Mail) : AuthM Unit :=
  tryCatch (deliver reply mail) fun _ => pure ()

end AuthM

/-- The text of `forgotPassword`, for any way of sending a mail. -/
def forgotPasswordVia (lib : AuthLib) (send : Mail → AuthM Unit) (email : String) (now : Time) :
    AuthM String := do
  match ← findUser fun u => u.email = lib.toLowerCase email with
  | none => return resetMailSent
  | some (userId, user) =>
      let resetToken ← generateSecureToken lib
      updateUser userId
        { passwordResetToken := some resetToken
          passwordResetExpires := some (now + hour) }
      send (.passwordReset user.email user.firstName user.language resetToken)
      return resetMailSent

/-- Where every mail is delivered this is `forgotPassword`. -/
theorem forgotPasswordVia_delivered (lib : AuthLib) :
    forgotPasswordVia lib (sendEmail (.ok ())) = forgotPassword lib := rfl

/-! ## What an answer depends on -/

namespace AuthStore

variable (lib : AuthLib) (store : AuthStore)

/-- The account with this e-mail address. -/
def accountOf (email : String) : Option User :=
  (store.users.findWhere fun u => u.email = lib.toLowerCase email).map Prod.snd

/-- The password is the one of the account. -/
def passwordCorrect (dto : LoginDto) : Bool :=
  (store.accountOf lib dto.email).any fun user =>
    (textOrNull user.passwordHash).any fun hash => lib.argon2Verify hash dto.password

/-- The address belongs to a suspended account that has a password. -/
def suspended (email : String) : Bool :=
  (store.accountOf lib email).any fun user =>
    (textOrNull user.passwordHash).isSome && !user.isActive

end AuthStore

section Answers

variable {lib : AuthLib} {store : AuthStore}

/-- A mail that is rejected does not surface. -/
theorem run_sendEmail (store : AuthStore) (reply : Except HttpException Unit) (mail : Mail) :
    ∃ store', (sendEmail reply mail).run store = .ok () store' := by
  cases reply with
  | ok u => exact ⟨store.send mail, rfl⟩
  | error e => exact ⟨store, rfl⟩

/-- **The answer of `forgotPassword`** is always the same. -/
theorem forgotPasswordVia_outcome (reply : Except HttpException Unit) (email : String)
    (now : Time) :
    (forgotPasswordVia lib (sendEmail reply) email now).outcome store = .ok resetMailSent := by
  rw [ServiceM.outcome_eq_ok_iff, forgotPasswordVia, EStateM.run_bind, run_findUser]
  cases store.findUser fun u => u.email = lib.toLowerCase email with
  | none => exact ⟨store, rfl⟩
  | some found =>
      simp only [generateSecureToken, EStateM.run_bind, run_draw, run_updateUser]
      generalize store.countDraw.updateUser found.1 _ = updated
      obtain ⟨store', hsent⟩ := run_sendEmail updated reply (.passwordReset found.2.email
        found.2.firstName found.2.language (lib.secureToken store.drawn))
      refine ⟨store', ?_⟩
      rw [hsent]
      rfl

/-- With a wrong password nobody is let in. -/
theorem loginUser_of_wrong {dto : LoginDto} (hwrong : store.passwordCorrect lib dto = false) :
    loginUser lib store dto =
      .error (if store.suspended lib dto.email then accountSuspended else badCredentials) := by
  unfold AuthStore.passwordCorrect AuthStore.accountOf at hwrong
  unfold loginUser AuthStore.suspended AuthStore.accountOf
  -- In the order of the method: the account, its password, whether it is active.
  cases hfind : store.users.findWhere fun u => u.email = lib.toLowerCase dto.email with
  | none => rfl
  | some found =>
      rw [hfind, Option.map_some, Option.any_some] at hwrong
      cases hhash : textOrNull found.2.passwordHash with
      | none => simp [hhash]
      | some hash =>
          rw [hhash, Option.any_some] at hwrong
          by_cases hactive : found.2.isActive = true
          · simp [hhash, hactive, hwrong]
          · simp [hhash, hactive]

theorem login_outcome_of_wrong {dto : LoginDto} (hwrong : store.passwordCorrect lib dto = false)
    (deviceInfo : Option DeviceInfo) (now : Time) :
    (login lib dto deviceInfo now).outcome store =
      .error (if store.suspended lib dto.email then accountSuspended else badCredentials) := by
  unfold ServiceM.outcome
  rw [run_login, loginUser_of_wrong hwrong]

end Answers

/-- **No account enumeration, but for suspended accounts.**  Whatever the two tables are,
`forgotPassword` answers the same.  A password that is wrong in both is answered the same
exactly if the address is that of a suspended account with a password in both, or in
neither. -/
theorem accounts_hidden_iff (lib : AuthLib) (store store' : AuthStore) (dto : LoginDto)
    (hwrong : store.passwordCorrect lib dto = false)
    (hwrong' : store'.passwordCorrect lib dto = false) :
    (∀ (email : String) (reply reply' : Except HttpException Unit) (now now' : Time),
      (forgotPasswordVia lib (sendEmail reply) email now).outcome store =
        (forgotPasswordVia lib (sendEmail reply') email now').outcome store') ∧
    ∀ (device device' : Option DeviceInfo) (now now' : Time),
      (login lib dto device now).outcome store = (login lib dto device' now').outcome store' ↔
        store.suspended lib dto.email = store'.suspended lib dto.email := by
  constructor
  · intro email reply reply' now now'
    rw [forgotPasswordVia_outcome, forgotPasswordVia_outcome]
  · intro device device' now now'
    rw [login_outcome_of_wrong hwrong, login_outcome_of_wrong hwrong', Except.error.injEq]
    have hdiffer : accountSuspended ≠ badCredentials := by decide
    cases store.suspended lib dto.email with
    | false =>
        cases store'.suspended lib dto.email with
        | false => exact iff_of_true rfl rfl
        | true => exact iff_of_false hdiffer.symm Bool.false_ne_true
    | true =>
        cases store'.suspended lib dto.email with
        | false => exact iff_of_false hdiffer Bool.false_ne_true.symm
        | true => exact iff_of_true rfl rfl

namespace Demo

/-- The account of a registration. -/
def jeanAccount : User :=
  newUser authLib jean "motdepasse123" "token" "JEA1" none 0

/-- Jean is registered. -/
def withJean : AuthStore := AuthStore.start [jeanAccount]

/-- Jean's account is suspended. -/
def jeanSuspended : AuthStore := AuthStore.start [{ jeanAccount with isActive := false }]

/-- Somebody tries a password. -/
def guess : LoginDto := ⟨"jean.kamga@example.cm", "password"⟩

end Demo

section Examples

open Demo

/-- A wrong password for an account in use is answered as an unknown address. -/
theorem accounts_hidden_iff_jean :
    withJean.passwordCorrect authLib guess = false ∧
      (login authLib guess none 0).outcome withJean =
        (login authLib guess none 0).outcome (AuthStore.start []) := by
  have hwrong : withJean.passwordCorrect authLib guess = false := by decide +kernel
  have hunknown : (AuthStore.start []).passwordCorrect authLib guess = false := by decide +kernel
  have hsame := (accounts_hidden_iff authLib withJean (AuthStore.start []) guess hwrong
    hunknown).2 none none 0 0
  exact ⟨hwrong, hsame.mpr (by decide +kernel)⟩

/-- **A suspended account shows**: a wrong password is answered otherwise than for an
unknown address. -/
theorem suspended_account_shows :
    jeanSuspended.passwordCorrect authLib guess = false ∧
      (AuthStore.start []).passwordCorrect authLib guess = false ∧
      (login authLib guess none 0).outcome jeanSuspended = .error accountSuspended ∧
      (login authLib guess none 0).outcome (AuthStore.start []) = .error badCredentials ∧
      accountSuspended ≠ badCredentials := by
  decide +kernel

end Examples

end StayRide
