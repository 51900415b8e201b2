import StayRide.Loyalty.Concurrent

/-!
# The reward of a referral

One call of `processReferral`: it reads the settings, pays the two rewards in transactions
that run side by side, and inserts the row of `referrals`.  Any of the four can be
rejected, and either transaction can end first (`ReferralEnding`).

The reward is paid as a whole or not at all exactly when the two transactions end alike and
the row is inserted where they commit (`referral_all_or_nothing_iff`).  Nothing undoes a
transaction whose partner is rolled back, nor the two when the row is not inserted.
-/

namespace StayRide

open Lib

/-- How the awaited statements of a call end, and which transaction ends first. -/
structure ReferralEnding where
  settings : Attempt
  referrer : Attempt
  referred : Attempt
  insertion : Attempt
  referredFirst : Bool

namespace ReferralEnding

/-- The inputs of the steps in their order. -/
def turns (e : ReferralEnding) : List Turn :=
  [⟨e.settings, false⟩,
    ⟨if e.referredFirst then e.referred else e.referrer, e.referredFirst⟩,
    ⟨if e.referredFirst then e.referrer else e.referred, false⟩,
    ⟨e.insertion, false⟩]

end ReferralEnding

/-- What a user's wallet shows: the balance and the entries. -/
def LoyaltyStore.wallet (store : LoyaltyStore) (userId : UserId) :
    Option Amount × List WalletTransaction :=
  (store.users[userId]?.map User.walletBalance,
    store.walletTransactions.filter (·.userId = userId))

/-- A transaction that may be rejected: what it leaves, and whether it has committed. -/
def tryCommit (attempt : Attempt) (store : LoyaltyStore) (tx : Option LoyaltyStore) :
    LoyaltyStore × Bool :=
  match attempt, tx with
  | .succeeds _, some store' => (store', true)
  | _, _ => (store, false)

/-- Two transactions, one after the other: what they leave, and which have committed. -/
def tryBoth (first second : Attempt) (tx tx' : LoyaltyStore → Option LoyaltyStore)
    (store : LoyaltyStore) : LoyaltyStore × Bool × Bool :=
  let one := tryCommit first store (tx store)
  let two := tryCommit second one.1 (tx' one.1)
  (two.1, one.2, two.2)

section Referrals

variable (lib : LoyaltyLib) (r : Referral) (store : LoyaltyStore)

/-- Both wallets are credited with their rewards, in some order. -/
def BothCredited (store' : LoyaltyStore) : Prop :=
  ∃ first, (store.rewardReferrer lib r = some first ∧
      first.rewardReferred lib r = some store') ∨
    (store.rewardReferred lib r = some first ∧ first.rewardReferrer lib r = some store')

/-- Both wallets are credited and the row is added. -/
def Rewarded (store' : LoyaltyStore) : Prop :=
  ∃ credited, BothCredited lib r store credited ∧ store' = credited.addReferral r

/-- No wallet has changed, and no row was added. -/
def Unrewarded (store' : LoyaltyStore) : Prop :=
  (∀ userId, store'.wallet userId = store.wallet userId) ∧ store'.referrals = store.referrals

/-- What the two transactions leave, and whether the referrer's and the other one's have
committed. -/
def ReferralEnding.pay (e : ReferralEnding) : LoyaltyStore × Bool × Bool :=
  if e.referredFirst then
    let paid := tryBoth e.referred e.referrer (fun store => store.rewardReferred lib r)
      (fun store => store.rewardReferrer lib r) store
    (paid.1, paid.2.2, paid.2.1)
  else
    tryBoth e.referrer e.referred (fun store => store.rewardReferrer lib r)
      (fun store => store.rewardReferred lib r) store

/-- The transactions end alike, and the row is inserted where they commit. -/
def ReferralEnding.EndsAlike (e : ReferralEnding) : Prop :=
  e.settings = .fails ∨
    ((e.pay lib r store).2.1 = (e.pay lib r store).2.2 ∧
      ((e.pay lib r store).2.1 = true → e.insertion ≠ .fails))

/-- The tables and the end of a call alone. -/
def runReferral (settings : ReferralSettings) (referrerId referredId : UserId)
    (e : ReferralEnding) : LoyaltyStore × LoyaltyPc :=
  play (loyaltyStep lib) e.turns store
    (LoyaltyCall.processReferral settings referrerId referredId).entry

variable {lib r store}

/-- The next of the two transactions ends. -/
theorem awaitReward_eq (turn : Turn) (first second : Option Bool) :
    awaitReward lib turn store r first second =
      let isSecond := first.isSome || (second.isNone && turn.second)
      let ended := tryCommit turn.attempt store
        (if isSecond then store.rewardReferred lib r else store.rewardReferrer lib r)
      (ended.1, if isSecond then rewardsPaid r first (some ended.2)
        else rewardsPaid r (some ended.2) second) := by
  simp only [awaitReward, tryCommit]
  generalize (if (first.isSome || (second.isNone && turn.second)) = true then
    store.rewardReferred lib r else store.rewardReferrer lib r) = tx
  cases turn.attempt with
  | fails => rfl
  | succeeds now => cases tx <;> rfl

theorem play_rewards (turn : Turn) (rest : List Turn) (first second : Option Bool) :
    play (loyaltyStep lib) (turn :: rest) store (.rewards r first second) =
      play (loyaltyStep lib) rest (awaitReward lib turn store r first second).1
        (awaitReward lib turn store r first second).2 := rfl

theorem rewardsPaid_none (first : Bool) :
    rewardsPaid r (some first) none = .rewards r (some first) none := by
  cases first <;> rfl

/-- Both transactions have ended; the row is inserted where both have committed. -/
theorem play_rewardsPaid (turn : Turn) (first second : Bool) :
    play (loyaltyStep lib) [turn] store (rewardsPaid r (some first) (some second)) =
      if first = true ∧ second = true then
        if turn.attempt = .fails then (store, .done (.error .queryFailed))
        else (store.addReferral r, .done (.ok none))
      else (store, .done (.error .queryFailed)) := by
  obtain ⟨attempt, _⟩ := turn
  cases first <;> cases second <;> cases attempt <;> rfl

/-- **The call as a whole.** -/
theorem runReferral_eq (settings : ReferralSettings) (referrerId referredId : UserId)
    (e : ReferralEnding) (hr : settings.referral referrerId referredId = r) :
    runReferral lib store settings referrerId referredId e =
      if e.settings = .fails then (store, .done (.error .queryFailed))
      else if (e.pay lib r store).2.1 = true ∧ (e.pay lib r store).2.2 = true then
        if e.insertion = .fails then ((e.pay lib r store).1, .done (.error .queryFailed))
        else ((e.pay lib r store).1.addReferral r, .done (.ok none))
      else ((e.pay lib r store).1, .done (.error .queryFailed)) := by
  obtain ⟨atSettings, atReferrer, atReferred, atInsertion, referredFirst⟩ := e
  have hentry : (LoyaltyCall.processReferral settings referrerId referredId).entry =
      .rewardSettings r := congrArg LoyaltyPc.rewardSettings hr
  rw [runReferral, hentry]
  cases atSettings with
  | fails => rfl
  | succeeds now =>
      rw [if_neg (by simp)]
      cases referredFirst with
      | false =>
          show play (loyaltyStep lib)
            [⟨atReferrer, false⟩, ⟨atReferred, false⟩, ⟨atInsertion, false⟩] store
            (.rewards r none none) = _
          rw [play_rewards, awaitReward_eq]
          show play (loyaltyStep lib) [⟨atReferred, false⟩, ⟨atInsertion, false⟩] _
            (rewardsPaid r (some _) none) = _
          rw [rewardsPaid_none, play_rewards, awaitReward_eq]
          exact play_rewardsPaid _ _ _
      | true =>
          show play (loyaltyStep lib)
            [⟨atReferred, true⟩, ⟨atReferrer, false⟩, ⟨atInsertion, false⟩] store
            (.rewards r none none) = _
          rw [play_rewards, awaitReward_eq]
          show play (loyaltyStep lib) [⟨atReferrer, false⟩, ⟨atInsertion, false⟩] _
            (.rewards r none (some _)) = _
          rw [play_rewards, awaitReward_eq]
          exact play_rewardsPaid _ _ _

/-! ## All or nothing -/

theorem tryCommit_cases (attempt : Attempt) (store : LoyaltyStore) (tx : Option LoyaltyStore) :
    ((tryCommit attempt store tx).2 = true ∧ tx = some (tryCommit attempt store tx).1) ∨
      ((tryCommit attempt store tx).2 = false ∧ (tryCommit attempt store tx).1 = store) := by
  cases attempt with
  | fails => exact Or.inr ⟨rfl, rfl⟩
  | succeeds now =>
      cases tx with
      | none => exact Or.inr ⟨rfl, rfl⟩
      | some store' => exact Or.inl ⟨rfl, rfl⟩

/-- The transaction enters one row into the ledger of the wallets. -/
def EntersOne (tx : LoyaltyStore → Option LoyaltyStore) : Prop :=
  ∀ store store', tx store = some store' → ∃ row,
    store'.walletTransactions = store.walletTransactions ++ [row] ∧
      store'.referrals = store.referrals

theorem entersOne_credit (lib : LoyaltyLib) (userId : UserId) (amount : ℚ) (reason : String) :
    EntersOne fun store => store.credit lib userId amount reason none := by
  intro store store' h
  obtain ⟨u, balance, -, -, rfl⟩ := LoyaltyStore.moveMoney_eq_some h
  exact ⟨_, rfl, rfl⟩

/-- Two of them in a row leave the referrals alone. -/
theorem EntersOne.referrals_two {tx tx' : LoyaltyStore → Option LoyaltyStore}
    (htx : EntersOne tx) (htx' : EntersOne tx') {store one two : LoyaltyStore}
    (hone : tx store = some one) (htwo : tx' one = some two) :
    two.referrals = store.referrals := by
  obtain ⟨-, -, hfirst⟩ := htx store one hone
  obtain ⟨-, -, hsecond⟩ := htx' one two htwo
  exact hsecond.trans hfirst

/-- What two transactions can do: both commit, or neither does, or one of them is entered
alone. -/
theorem tryBoth_cases {tx tx' : LoyaltyStore → Option LoyaltyStore} (htx : EntersOne tx)
    (htx' : EntersOne tx') (first second : Attempt) (store : LoyaltyStore) :
    ∃ rows, (tryBoth first second tx tx' store).1.walletTransactions =
        store.walletTransactions ++ rows ∧
      (tryBoth first second tx tx' store).1.referrals = store.referrals ∧
      (((tryBoth first second tx tx' store).2 = (true, true) ∧ rows ≠ [] ∧
          ∃ one, tx store = some one ∧
            tx' one = some (tryBoth first second tx tx' store).1) ∨
        ((tryBoth first second tx tx' store).2 = (false, false) ∧
          (tryBoth first second tx tx' store).1 = store) ∨
        ((tryBoth first second tx tx' store).2.1 ≠ (tryBoth first second tx tx' store).2.2 ∧
          rows ≠ [])) := by
  have hone := tryCommit_cases first store (tx store)
  unfold tryBoth
  dsimp only
  generalize tryCommit first store (tx store) = one at hone ⊢
  have htwo := tryCommit_cases second one.1 (tx' one.1)
  generalize tryCommit second one.1 (tx' one.1) = two at htwo ⊢
  obtain ⟨mid, paid⟩ := one
  obtain ⟨last, paid'⟩ := two
  dsimp only at hone htwo ⊢
  rcases hone with ⟨rfl, hcommit⟩ | ⟨rfl, rfl⟩
  · obtain ⟨row, hrow, hreferrals⟩ := htx store mid hcommit
    rcases htwo with ⟨rfl, hcommit'⟩ | ⟨rfl, rfl⟩
    · obtain ⟨row', hrow', hreferrals'⟩ := htx' mid last hcommit'
      refine ⟨[row, row'], ?_, hreferrals'.trans hreferrals,
        Or.inl ⟨rfl, by simp, mid, hcommit, hcommit'⟩⟩
      rw [hrow', hrow, List.append_assoc]
      rfl
    · exact ⟨[row], hrow, hreferrals, Or.inr (Or.inr ⟨by simp, by simp⟩)⟩
  · rcases htwo with ⟨rfl, hcommit'⟩ | ⟨rfl, rfl⟩
    · obtain ⟨row', hrow', hreferrals'⟩ := htx' mid last hcommit'
      exact ⟨[row'], hrow', hreferrals', Or.inr (Or.inr ⟨by simp, by simp⟩)⟩
    · exact ⟨[], (List.append_nil _).symm, rfl, Or.inr (Or.inl ⟨rfl, rfl⟩)⟩

/-- The same for the two rewards. -/
theorem ReferralEnding.pay_cases (e : ReferralEnding) (lib : LoyaltyLib) (r : Referral)
    (store : LoyaltyStore) :
    ∃ rows, (e.pay lib r store).1.walletTransactions = store.walletTransactions ++ rows ∧
      (e.pay lib r store).1.referrals = store.referrals ∧
      (((e.pay lib r store).2 = (true, true) ∧ rows ≠ [] ∧
          BothCredited lib r store (e.pay lib r store).1) ∨
        ((e.pay lib r store).2 = (false, false) ∧ (e.pay lib r store).1 = store) ∨
        ((e.pay lib r store).2.1 ≠ (e.pay lib r store).2.2 ∧ rows ≠ [])) := by
  have hreferrer : EntersOne fun store => store.rewardReferrer lib r :=
    entersOne_credit lib _ _ _
  have hreferred : EntersOne fun store => store.rewardReferred lib r :=
    entersOne_credit lib _ _ _
  unfold ReferralEnding.pay
  split
  · obtain ⟨rows, hrows, hreferrals, hcases⟩ :=
      tryBoth_cases hreferred hreferrer e.referred e.referrer store
    refine ⟨rows, hrows, hreferrals, ?_⟩
    rcases hcases with ⟨hboth, hne, one, hcommit⟩ | ⟨hnone, hsame⟩ | ⟨hone, hne⟩
    · exact Or.inl ⟨by simp [hboth], hne, one, Or.inr hcommit⟩
    · exact Or.inr (Or.inl ⟨by simp [hnone], hsame⟩)
    · exact Or.inr (Or.inr ⟨hone.symm, hne⟩)
  · obtain ⟨rows, hrows, hreferrals, hcases⟩ :=
      tryBoth_cases hreferrer hreferred e.referrer e.referred store
    refine ⟨rows, hrows, hreferrals, ?_⟩
    rcases hcases with ⟨hboth, hne, one, hcommit⟩ | hcases
    · exact Or.inl ⟨hboth, hne, one, Or.inl hcommit⟩
    · exact Or.inr hcases

/-- A row in the ledger of the wallets shows in the wallet that it is about. -/
theorem not_unrewarded {store' : LoyaltyStore} {rows : List WalletTransaction}
    (hrows : store'.walletTransactions = store.walletTransactions ++ rows)
    (hne : rows ≠ []) : ¬ Unrewarded store store' := by
  intro h
  obtain ⟨row, rest, rfl⟩ := List.exists_cons_of_ne_nil hne
  have hledger := congrArg (fun wallet => wallet.2.length) (h.1 row.userId)
  simp [LoyaltyStore.wallet, hrows] at hledger

/-- Without the row nothing is rewarded. -/
theorem not_rewarded {store' : LoyaltyStore} (hcredited : store'.referrals = store.referrals) :
    ¬ Rewarded lib r store store' := by
  rintro ⟨credited, ⟨first, hcredits⟩, rfl⟩
  have hkept : credited.referrals = store.referrals := by
    rcases hcredits with ⟨hone, htwo⟩ | ⟨hone, htwo⟩
    · exact (entersOne_credit lib _ _ _).referrals_two (entersOne_credit lib _ _ _) hone htwo
    · exact (entersOne_credit lib _ _ _).referrals_two (entersOne_credit lib _ _ _) hone htwo
  simp [LoyaltyStore.addReferral, hkept] at hcredited

/-- **The reward of a referral is paid as a whole or not at all** exactly when the two
transactions end alike and the row is inserted where they commit; and the call ends. -/
theorem referral_all_or_nothing_iff (lib : LoyaltyLib) (settings : ReferralSettings)
    (referrerId referredId : UserId) (store : LoyaltyStore) (e : ReferralEnding) :
    (∃ result, (runReferral lib store settings referrerId referredId e).2 = .done result) ∧
      ((Rewarded lib (settings.referral referrerId referredId) store
            (runReferral lib store settings referrerId referredId e).1 ∨
          Unrewarded store (runReferral lib store settings referrerId referredId e).1) ↔
        e.EndsAlike lib (settings.referral referrerId referredId) store) := by
  rw [runReferral_eq settings referrerId referredId e rfl]
  generalize settings.referral referrerId referredId = r
  obtain ⟨rows, hrows, hreferrals, hcases⟩ := e.pay_cases lib r store
  unfold ReferralEnding.EndsAlike
  generalize e.pay lib r store = paid at hrows hreferrals hcases ⊢
  by_cases hsettings : e.settings = .fails
  · rw [if_pos hsettings]
    exact ⟨⟨_, rfl⟩, iff_of_true (Or.inr ⟨fun _ => rfl, rfl⟩) (Or.inl hsettings)⟩
  rw [if_neg hsettings]
  have hhalf : rows ≠ [] → ¬ (Rewarded lib r store paid.1 ∨ Unrewarded store paid.1) :=
    fun hne h => h.elim (not_rewarded hreferrals) (not_unrewarded hrows hne)
  rcases hcases with ⟨hboth, hne, hcredited⟩ | ⟨hneither, hsame⟩ | ⟨hone, hne⟩
  · -- Both have committed, and it depends on the row.
    rw [hboth, if_pos ⟨rfl, rfl⟩]
    by_cases hinsertion : e.insertion = .fails
    · rw [if_pos hinsertion]
      refine ⟨⟨_, rfl⟩, iff_of_false (hhalf hne) ?_⟩
      rintro (hfails | ⟨-, hinserted⟩)
      · exact hsettings hfails
      · exact hinserted rfl hinsertion
    · rw [if_neg hinsertion]
      exact ⟨⟨_, rfl⟩, iff_of_true (Or.inl ⟨paid.1, hcredited, rfl⟩)
        (Or.inr ⟨rfl, fun _ => hinsertion⟩)⟩
  · rw [hneither, if_neg (by simp)]
    refine ⟨⟨_, rfl⟩, iff_of_true (Or.inr ?_) (Or.inr ⟨rfl, fun h => by cases h⟩)⟩
    show Unrewarded store paid.1
    rw [hsame]
    exact ⟨fun _ => rfl, rfl⟩
  · have hnot : ¬ (paid.2.1 = true ∧ paid.2.2 = true) :=
      fun h => hone (h.1.trans h.2.symm)
    rw [if_neg hnot]
    refine ⟨⟨_, rfl⟩, iff_of_false (hhalf hne) ?_⟩
    rintro (hfails | ⟨halike, -⟩)
    · exact hsettings hfails
    · exact hone halike

end Referrals

namespace Demo

/-- Two users with empty wallets. -/
def twoMembers : LoyaltyStore :=
  { oneMember 0 Decimal.zero with users := [member 0 Decimal.zero, member 0 Decimal.zero] }

/-- The transaction for the referred user is rolled back. -/
def halfPaid : ReferralEnding := ⟨.succeeds 0, .succeeds 0, .fails, .succeeds 0, false⟩

end Demo

/-- **Half a reward.**  The transaction for the referred user is rolled back: the referrer has
5000 XAF, the referred user nothing, and there is no row. -/
theorem referral_half_paid :
    ((runReferral Demo.loyaltyLib Demo.twoMembers ⟨none, none⟩ 0 1 Demo.halfPaid).1.wallet 0 =
        (some ⟨500000, by decide⟩,
          [⟨0, .credit, 5000, 5000, "Bonus de parrainage", none⟩]) ∧
      (runReferral Demo.loyaltyLib Demo.twoMembers ⟨none, none⟩ 0 1 Demo.halfPaid).1.wallet 1 =
        (some Decimal.zero, []) ∧
      (runReferral Demo.loyaltyLib Demo.twoMembers ⟨none, none⟩ 0 1
        Demo.halfPaid).1.referrals = []) ∧
    ¬ ∀ e : ReferralEnding,
      Rewarded Demo.loyaltyLib ⟨0, 1, 5000, 2500⟩ Demo.twoMembers
          (runReferral Demo.loyaltyLib Demo.twoMembers ⟨none, none⟩ 0 1 e).1 ∨
        Unrewarded Demo.twoMembers
          (runReferral Demo.loyaltyLib Demo.twoMembers ⟨none, none⟩ 0 1 e).1 := by
  refine ⟨by decide +kernel, fun h => ?_⟩
  have hrows : (runReferral Demo.loyaltyLib Demo.twoMembers ⟨none, none⟩ 0 1
      Demo.halfPaid).1.walletTransactions = Demo.twoMembers.walletTransactions ++
        [⟨0, .credit, 5000, 5000, "Bonus de parrainage", none⟩] := by decide +kernel
  have hreferrals : (runReferral Demo.loyaltyLib Demo.twoMembers ⟨none, none⟩ 0 1
      Demo.halfPaid).1.referrals = Demo.twoMembers.referrals := by decide +kernel
  exact (h Demo.halfPaid).elim (not_rewarded hreferrals) (not_unrewarded hrows (by simp))

end StayRide
