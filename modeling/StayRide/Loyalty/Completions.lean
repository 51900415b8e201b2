import StayRide.Loyalty.Concurrent
import StayRide.System.Histories

/-!
# Points for completed bookings

A completed booking of 1000 XAF or more should earn its customer points, once.  Points
are entered by the listener of `booking.completed`, which keeps no record of the bookings
it has seen.  Three calls complete bookings: `complete` and `confirmCheckout` emit the
event whatever the status of the booking is, `autoCompleteBookings` emits none.

The history of the platform is the one of `StayRide.System.Calls`, with the loyalty
tables next to the store: after each call the events it has emitted are handled.
`Platform.completed` records which bookings have ever been completed.

`pointsOnce_along_iff` says which histories give every booking its points exactly once:
those in which a booking worth points is completed for the first time by a call that emits
the event, and never by such a call again.
-/

namespace StayRide

open Lib

/-! ## The platform -/

/-- A listener of the loyalty service gets the event.  An event without a booking makes it
throw before it writes. -/
def onEvent (settings : TierThresholds) (loyalty : LoyaltyStore) : DomainEvent → LoyaltyStore
  | .bookingCompleted id (some b) => (earnPointsOnCompletion settings id b).storeAfter loyalty
  | _ => loyalty

/-- The event is handled to the end: the database refuses nothing. -/
def isHandled (settings : TierThresholds) (loyalty : LoyaltyStore) : DomainEvent → Bool
  | .bookingCompleted id (some b) => (earnPointsOnCompletion settings id b).succeeds loyalty
  | _ => true

/-- The booking is there and completed. -/
def Store.isCompleted (store : Store) (id : BookingId) : Bool :=
  store.bookings[id]?.any fun b => b.status = .completed

/-- The store, the loyalty tables, and the bookings that have ever been completed. -/
structure Platform where
  store : Store
  loyalty : LoyaltyStore
  completed : BookingId → Bool

/-- Nothing is booked and nothing is entered. -/
def Platform.start (assignments : Table ConciergeAssignment) (users : Table User) : Platform where
  store := Store.start assignments
  loyalty := ⟨users, [], [], [], [], []⟩
  completed _ := false

section Exec

variable (lib : DateLib) (settings : Time → TierThresholds)

/-- The events that a call emits. -/
def emitted (store : Store) (r : Request) : List DomainEvent :=
  (exec lib store r).events.drop store.events.length

/-- Run one call to completion and handle its events. -/
def platformExec (p : Platform) (r : Request) : Platform where
  store := exec lib p.store r
  loyalty := (emitted lib p.store r).foldl (onEvent (settings r.now)) p.loyalty
  completed id := p.completed id || (exec lib p.store r).isCompleted id

/-- Every event that the call emits is handled to the end. -/
def AllHandled (p : Platform) (r : Request) : Prop :=
  (emitted lib p.store r).all (isHandled (settings r.now) p.loyalty) = true

end Exec

/-! ## Exactly once -/

/-- What `loyalty_transactions` says was earned for a booking: who, and how many points. -/
def LoyaltyStore.earnedFor (loyalty : LoyaltyStore) (id : BookingId) : List (UserId × ℤ) :=
  (loyalty.loyaltyTransactions.filter fun row => row.type = .earn && row.bookingId = id).map
    fun row => (row.userId, row.points)

/-- What a completed booking should earn. -/
def Booking.reward (b : Booking) : List (UserId × ℤ) :=
  if 1000 ≤ b.totalAmount.toRat then
    [(b.customerId, calculateLoyaltyPoints b.totalAmount.toRat)]
  else []

def Platform.rewardOf (p : Platform) (id : BookingId) : List (UserId × ℤ) :=
  (p.store.bookings[id]?.map Booking.reward).getD []

/-- **Exactly once**: every booking that has ever been completed and is worth points has one
row, for its customer and its points; nothing else has one. -/
def PointsOnce (p : Platform) : Prop :=
  ∀ id, p.loyalty.earnedFor id = if p.completed id then p.rewardOf id else []

/-- The booking that a call completes and announces. -/
def announced (store : Store) (r : Request) : Option (BookingId × Booking) :=
  match r.call with
  | .complete bookingId =>
      store.bookings[bookingId]?.map fun b => (bookingId, b.asCompleted r.now)
  | .confirmCheckout bookingId conciergeId =>
      (accessibleBooking store bookingId conciergeId).map fun b =>
        (bookingId, b.asCheckedOut r.now b)
  | _ => none

/-- The condition on a call: it announces no booking worth points that has been completed
before, and if it is the scheduler, it completes no other ones. -/
def AnnouncedOnce (p : Platform) (r : Request) : Prop :=
  (∀ id b, announced p.store r = some (id, b) →
    b.totalAmount.toRat < 1000 ∨ p.completed id = false) ∧
  ∀ today, r.call = .autoCompleteBookings today →
    ∀ id b, p.store.bookings[id]? = some b → b.isOver today = true →
      b.totalAmount.toRat < 1000 ∨ p.completed id = true

/-! ## What a call announces -/

/-- The columns of a booking that decide its reward. -/
def Booking.SameReward (b b' : Booking) : Prop :=
  b'.customerId = b.customerId ∧ b'.totalAmount = b.totalAmount

theorem Booking.SameReward.reward_eq {b b' : Booking} (h : b.SameReward b') :
    b'.reward = b.reward := by
  rw [Booking.reward, h.1, h.2, Booking.reward]

theorem unwritten_reward : Unwritten fun b => (b.customerId, b.totalAmount) where
  withStatus _ _ := rfl
  asCancelled _ _ _ := rfl
  asCompleted _ _ := rfl
  withDepositHeld _ _ _ _ := rfl
  asCheckedIn _ _ := rfl
  asCheckedOut _ _ _ := rfl

/-- The completed booking that an event carries. -/
def DomainEvent.completion : DomainEvent → Option (BookingId × Booking)
  | .bookingCompleted id (some b) => some (id, b)
  | _ => none

/-- What a call does besides moving bookings: the columns behind a reward stay, and of the
events that it emits the completions are what it announces. -/
structure Announces (before after : Store) (completion : Option (BookingId × Booking)) :
    Prop where
  kept : Table.Evolves Booking.SameReward before.bookings after.bookings
  events : ∃ new, after.events = before.events ++ new ∧
    new.filterMap DomainEvent.completion = completion.toList

private theorem noCompletion_of_quiet {before after : Store}
    (h : after.events = before.events) :
    ∃ new, after.events = before.events ++ new ∧
      new.filterMap DomainEvent.completion = (none : Option (BookingId × Booking)).toList :=
  ⟨[], by rw [h, List.append_nil], rfl⟩

/-- Of the events that a call emits the completions are what it announces. -/
theorem exec_completions (lib : DateLib) (store : Store) (r : Request) :
    ∃ new, (exec lib store r).events = store.events ++ new ∧
      new.filterMap DomainEvent.completion = (announced store r).toList := by
  obtain ⟨now, call⟩ := r
  cases call with
  | create dto customerId =>
      simp only [exec, announced, create_storeAfter]
      cases createdBooking store lib dto customerId now with
      | none => exact noCompletion_of_quiet rfl
      | some booking => exact ⟨_, rfl, rfl⟩
  | cancel bookingId user reason =>
      simp only [exec, announced, cancel_storeAfter]
      cases cancellableBooking store bookingId user with
      | none => exact noCompletion_of_quiet rfl
      | some booking => exact ⟨_, rfl, rfl⟩
  | complete bookingId =>
      simp only [exec, announced, complete_storeAfter]
      cases hb : store.bookings[bookingId]? with
      | none => exact ⟨_, rfl, rfl⟩
      | some booking => exact ⟨_, rfl, rfl⟩
  | initiatePayment settings stripe bookingId method customerId phone reference =>
      simp only [exec, announced, initiatePayment_storeAfter]
      cases payableBooking store settings bookingId method customerId with
      | none => exact noCompletion_of_quiet rfl
      | some booking =>
          cases method.isManual with
          | true => exact ⟨_, rfl, rfl⟩
          | false => exact noCompletion_of_quiet rfl
  | confirmManual paymentId adminId data =>
      simp only [exec, announced, confirmManual_storeAfter]
      cases confirmablePayment store paymentId data with
      | none => exact noCompletion_of_quiet rfl
      | some found =>
          by_cases hshort : data.amountReceived < found.1.amountExpected.toRat
          · simp only [hshort, if_true]
            exact ⟨_, rfl, rfl⟩
          · simp only [hshort, if_false]
            exact ⟨_, rfl, rfl⟩
  | rejectPayment paymentId adminId reason =>
      simp only [exec, announced, rejectPayment_storeAfter]
      cases store.payments[paymentId]? with
      | none => exact noCompletion_of_quiet rfl
      | some payment => exact ⟨_, rfl, rfl⟩
  | processRefund stripe paymentId adminId amount =>
      simp only [exec, announced, processRefund_storeAfter]
      cases refundablePayment store stripe paymentId amount with
      | none => exact noCompletion_of_quiet rfl
      | some found => exact ⟨_, rfl, rfl⟩
  | handleStripeWebhook event =>
      cases event with
      | paymentIntentSucceeded intent =>
          simp only [exec, announced, handleStripeWebhook_storeAfter,
            handleStripeSuccess_storeAfter]
          cases capturedPayment store intent with
          | none => exact noCompletion_of_quiet rfl
          | some found => exact ⟨_, rfl, rfl⟩
      | paymentIntentPaymentFailed intent => exact noCompletion_of_quiet rfl
      | invalidSignature | chargeRefunded | otherType => exact noCompletion_of_quiet rfl
  | assignConcierge conciergeId resourceType resourceId assignedBy =>
      obtain ⟨assignments, h⟩ := assignConcierge_storeAfter store conciergeId resourceType
        resourceId assignedBy
      simp only [exec, announced, h]
      exact noCompletion_of_quiet rfl
  | startCheckin bookingId conciergeId =>
      simp only [exec, announced, startCheckin_storeAfter]
      exact noCompletion_of_quiet rfl
  | collectDeposit bookingId conciergeId proofUrl =>
      simp only [exec, announced, collectDeposit_storeAfter]
      cases accessibleBooking store bookingId conciergeId with
      | none => exact noCompletion_of_quiet rfl
      | some booking =>
          by_cases hdeposit : booking.depositStatus = .pending
          · simp only [hdeposit, if_true]
            exact noCompletion_of_quiet rfl
          · simp only [hdeposit, if_false]
            exact noCompletion_of_quiet rfl
  | confirmCheckin bookingId conciergeId =>
      simp only [exec, announced, confirmCheckin_storeAfter]
      cases accessibleBooking store bookingId conciergeId with
      | none => exact noCompletion_of_quiet rfl
      | some booking => exact ⟨_, rfl, rfl⟩
  | startCheckout bookingId conciergeId =>
      simp only [exec, announced, startCheckout_storeAfter]
      exact noCompletion_of_quiet rfl
  | confirmCheckout bookingId conciergeId =>
      simp only [exec, announced, confirmCheckout_storeAfter]
      cases hb : accessibleBooking store bookingId conciergeId with
      | none => exact noCompletion_of_quiet rfl
      | some booking => exact ⟨_, rfl, rfl⟩
  | autoCompleteBookings today =>
      simp only [exec, announced, autoCompleteBookings_storeAfter]
      exact noCompletion_of_quiet rfl
  | cancelExpiredPendingBookings =>
      simp only [exec, announced, cancelExpiredPendingBookings_storeAfter]
      exact noCompletion_of_quiet rfl

/-- **Refinement**: what a call announces. -/
theorem exec_announces (lib : DateLib) (store : Store) (r : Request) :
    Announces store (exec lib store r) (announced store r) := by
  refine ⟨fun id b hb => ?_, exec_completions lib store r⟩
  obtain ⟨b', hb', hsame⟩ :=
    Table.Evolves.of_map (map_bookings_exec lib unwritten_reward store r) id b hb
  exact ⟨b', hb', Prod.mk.inj hsame⟩

/-! ## What a call completes -/

/-- The scheduler selects the booking. -/
def swept (store : Store) (call : Call) (id : BookingId) : Bool :=
  match call with
  | .autoCompleteBookings today => store.selected (fun _ b => b.isOver today) id
  | _ => false

/-- The call completes the booking. -/
def completes (store : Store) (r : Request) (id : BookingId) : Bool :=
  (announced store r).any (fun found => found.1 = id) || swept store r.call id

theorem isCompleted_eq_calendar (store : Store) (id : BookingId) :
    store.isCompleted id = store.calendar[id]?.any fun stay => stay.status = .completed := by
  rw [Store.isCompleted, getElem?_calendar, Option.any_map]
  rfl

/-- A booking that is moved to completed is completed. -/
private theorem any_completed_move (calendar : Calendar) (moved id : BookingId) :
    (((Effect.move moved .completed).apply calendar)[id]?.any fun stay =>
        stay.status = .completed) =
      if id = moved then calendar[id]?.isSome
      else calendar[id]?.any fun stay => stay.status = .completed := by
  rw [Effect.apply, Table.getElem?_updateById]
  by_cases hid : id = moved
  · cases calendar[id]? <;> simp [hid]
  · cases calendar[id]? <;> simp [hid]

private theorem any_completed_sweep (calendar : Calendar) (selected : BookingId → Bool)
    (id : BookingId) :
    (((Effect.sweep selected .completed).apply calendar)[id]?.any fun stay =>
        stay.status = .completed) =
      if selected id then calendar[id]?.isSome
      else calendar[id]?.any fun stay => stay.status = .completed := by
  rw [Effect.apply, Table.getElem?_updateWhere]
  cases hsel : selected id with
  | true => cases calendar[id]? <;> simp
  | false => cases calendar[id]? <;> simp

/-- Calls with another target complete nothing. -/
theorem isCompleted_of_target {lib : DateLib} {store : Store} {r : Request} {id : BookingId}
    (htarget : r.call.target ≠ some .completed)
    (h : (exec lib store r).isCompleted id = true) : store.isCompleted id = true := by
  rw [isCompleted_eq_calendar, exec_calendar] at h
  obtain ⟨stay, hstay, hstatus⟩ := (Option.any_eq_true _ _).mp h
  rw [decide_eq_true_iff] at hstatus
  rcases Effect.getElem?_apply_or_gives hstay with hold | hgives
  · rw [isCompleted_eq_calendar, hold, Option.any_some, decide_eq_true_iff]
    exact hstatus
  · rw [hstatus] at hgives
    exact absurd (target_of_gives lib hgives) htarget

/-- A booking is completed after a call that completes it, and after any other call only if
it was before. -/
def CompletesExactly (before after : Store) (completes : Bool) (id : BookingId) : Prop :=
  (completes = true → after.isCompleted id = true) ∧
    (after.isCompleted id = true → before.isCompleted id = true ∨ completes = true)

/-- Calls that move one booking to completed. -/
private theorem completesExactly_move {lib : DateLib} {store : Store} {r : Request}
    {moved : BookingId} (heffect : effectOf lib store r = .move moved .completed)
    (hcompletes : ∀ id, completes store r id = (decide (id = moved) && store.bookings[id]?.isSome))
    (id : BookingId) :
    CompletesExactly store (exec lib store r) (completes store r id) id := by
  have hafter : (exec lib store r).isCompleted id =
      if id = moved then store.bookings[id]?.isSome else store.isCompleted id := by
    rw [isCompleted_eq_calendar, exec_calendar, heffect, any_completed_move,
      isCompleted_eq_calendar, getElem?_calendar, Option.isSome_map]
  rw [CompletesExactly, hafter, hcompletes]
  by_cases hid : id = moved
  · rw [if_pos hid, decide_eq_true hid, Bool.true_and]
    exact ⟨fun h => h, Or.inr⟩
  · rw [if_neg hid, decide_eq_false hid, Bool.false_and]
    exact ⟨fun h => absurd h Bool.false_ne_true, Or.inl⟩

/-- **Which bookings are completed** after a call: what it completes, and nothing else that
was not completed before. -/
theorem completesExactly_exec (lib : DateLib) (store : Store) (r : Request) (id : BookingId) :
    CompletesExactly store (exec lib store r) (completes store r id) id := by
  by_cases htarget : r.call.target = some .completed
  swap
  · -- No other call announces or sweeps.
    have hnone : completes store r id = false := by
      obtain ⟨now, call⟩ := r
      cases call with
      | complete | confirmCheckout | autoCompleteBookings => exact absurd rfl htarget
      | _ => rfl
    rw [hnone]
    exact ⟨fun h => absurd h Bool.false_ne_true, fun h => Or.inl (isCompleted_of_target htarget h)⟩
  obtain ⟨now, call⟩ := r
  cases call with
  | complete bookingId =>
      refine completesExactly_move rfl (fun id => ?_) id
      by_cases hid : id = bookingId
      · subst hid
        cases hb : store.bookings[id]? <;> simp [completes, announced, swept, hb]
      · have hid' : bookingId ≠ id := Ne.symm hid
        cases hb : store.bookings[bookingId]? <;>
          simp [completes, announced, swept, hb, hid, hid']
  | confirmCheckout bookingId conciergeId =>
      cases hb : accessibleBooking store bookingId conciergeId with
      | none =>
          have hkept : exec lib store ⟨now, .confirmCheckout bookingId conciergeId⟩ = store := by
            simp only [exec, confirmCheckout_storeAfter, hb]
          rw [CompletesExactly, hkept]
          simp [completes, announced, swept, hb]
      | some booking =>
          have hrow := bookings_of_accessible store bookingId conciergeId hb
          have heffect : effectOf lib store ⟨now, .confirmCheckout bookingId conciergeId⟩ =
              .move bookingId .completed := by
            simp only [effectOf, hb]
          refine completesExactly_move heffect (fun id => ?_) id
          by_cases hid : id = bookingId
          · subst hid
            simp [completes, announced, swept, hb, hrow]
          · have hid' : bookingId ≠ id := Ne.symm hid
            simp [completes, announced, swept, hb, hid, hid']
  | autoCompleteBookings today =>
      have hafter : (exec lib store ⟨now, .autoCompleteBookings today⟩).isCompleted id =
          if store.selected (fun _ b => b.isOver today) id then store.bookings[id]?.isSome
          else store.isCompleted id := by
        rw [isCompleted_eq_calendar, exec_calendar, effectOf, any_completed_sweep,
          isCompleted_eq_calendar, getElem?_calendar, Option.isSome_map]
      have hcompletes : completes store ⟨now, .autoCompleteBookings today⟩ id =
          store.selected (fun _ b => b.isOver today) id := rfl
      rw [CompletesExactly, hafter, hcompletes]
      cases hsel : store.selected (fun _ b => b.isOver today) id with
      | false =>
          rw [if_neg Bool.false_ne_true]
          exact ⟨fun h => absurd h Bool.false_ne_true, Or.inl⟩
      | true =>
          rw [if_pos rfl]
          obtain ⟨b, hb, -⟩ := (Option.any_eq_true _ _).mp hsel
          exact ⟨fun _ => by rw [hb]; rfl, fun _ => Or.inr rfl⟩
  | handleStripeWebhook event => cases event <;> cases htarget
  | _ => cases htarget

/-! ## What is earned -/

theorem calculateLoyaltyPoints_nonpos_iff {amount : ℚ} :
    calculateLoyaltyPoints amount ≤ 0 ↔ amount < 1000 := by
  rw [calculateLoyaltyPoints, ← Int.lt_add_one_iff, zero_add, Int.floor_lt, Int.cast_one,
    div_lt_one (by norm_num)]

theorem Booking.reward_eq_nil_iff {b : Booking} :
    b.reward = [] ↔ b.totalAmount.toRat < 1000 := by
  unfold Booking.reward
  split
  · next h => simpa using h
  · next h => simpa using h

/-- What is earned for each booking when a completion is handled. -/
theorem earnedFor_of_handled {settings : TierThresholds} {bookingId : BookingId} {b : Booking}
    {loyalty : LoyaltyStore}
    (h : (earnPointsOnCompletion settings bookingId b).succeeds loyalty = true)
    (id : BookingId) :
    ((earnPointsOnCompletion settings bookingId b).storeAfter loyalty).earnedFor id =
      loyalty.earnedFor id ++ if bookingId = id then b.reward else [] := by
  rw [earnPointsOnCompletion] at h ⊢
  rw [LoyaltyStore.earnedFor, earnPoints_rows h, List.filter_append, List.map_append,
    LoyaltyStore.earnedFor, Booking.reward]
  congr 1
  by_cases hfew : calculateLoyaltyPoints b.totalAmount.toRat ≤ 0
  · have hsmall := calculateLoyaltyPoints_nonpos_iff.mp hfew
    simp [hfew, hsmall]
  · have hlarge : 1000 ≤ b.totalAmount.toRat :=
      not_lt.mp fun h => hfew (calculateLoyaltyPoints_nonpos_iff.mpr h)
    by_cases hid : bookingId = id
    · simp [hfew, hlarge, hid]
    · simp [hfew, hid]

/-- Only completions reach the ledger. -/
theorem foldl_onEvent (settings : TierThresholds) (loyalty : LoyaltyStore)
    (events : List DomainEvent) :
    events.foldl (onEvent settings) loyalty =
      (events.filterMap DomainEvent.completion).foldl
        (fun loyalty found => (earnPointsOnCompletion settings found.1 found.2).storeAfter loyalty)
        loyalty := by
  induction events generalizing loyalty with
  | nil => rfl
  | cons event events ih =>
      rw [List.foldl_cons, ih]
      unfold onEvent
      split
      · rfl
      · next hother =>
          have hnone : event.completion = none := by
            unfold DomainEvent.completion
            split
            · next id b => exact absurd rfl (hother id b)
            · rfl
          rw [List.filterMap_cons_none hnone]

section Step

variable {lib : DateLib} {settings : Time → TierThresholds} {p : Platform} {r : Request}

theorem filterMap_emitted :
    (emitted lib p.store r).filterMap DomainEvent.completion = (announced p.store r).toList := by
  obtain ⟨new, hevents, hnew⟩ := (exec_announces lib p.store r).events
  rw [emitted, hevents, List.drop_left, hnew]

/-- The booking that a call announces is the one it finds. -/
theorem announced_eq_some {id : BookingId} {b : Booking} (h : announced p.store r = some (id, b)) :
    ∃ old, p.store.bookings[id]? = some old ∧ old.SameReward b := by
  unfold announced at h
  split at h
  · obtain ⟨old, hold, hfound⟩ := Option.map_eq_some_iff.mp h
    obtain ⟨rfl, rfl⟩ := Prod.mk.inj hfound
    exact ⟨old, hold, rfl, rfl⟩
  · obtain ⟨old, hold, hfound⟩ := Option.map_eq_some_iff.mp h
    obtain ⟨rfl, rfl⟩ := Prod.mk.inj hfound
    exact ⟨old, bookings_of_accessible _ _ _ hold, rfl, rfl⟩
  · cases h

/-- **What a call adds to the ledger**: the reward of the booking that it announces. -/
theorem earnedFor_platformExec (hhandled : AllHandled lib settings p r) (id : BookingId) :
    (platformExec lib settings p r).loyalty.earnedFor id = p.loyalty.earnedFor id ++
      if (announced p.store r).any (fun found => found.1 = id) then p.rewardOf id else [] := by
  rw [platformExec, foldl_onEvent, filterMap_emitted]
  cases hann : announced p.store r with
  | none => simp
  | some found =>
      obtain ⟨bookingId, b⟩ := found
      have hsucceeds : (earnPointsOnCompletion (settings r.now) bookingId b).succeeds p.loyalty =
          true := by
        have hmem : (bookingId, b) ∈ (emitted lib p.store r).filterMap DomainEvent.completion := by
          rw [filterMap_emitted, hann]
          exact List.mem_singleton_self _
        obtain ⟨event, hevent, hcompletion⟩ := List.mem_filterMap.mp hmem
        have hthis := List.all_eq_true.mp hhandled event hevent
        unfold DomainEvent.completion at hcompletion
        split at hcompletion
        · cases hcompletion
          exact hthis
        · cases hcompletion
      obtain ⟨old, hold, hsame⟩ := announced_eq_some hann
      simp only [Option.toList_some, List.foldl_cons, List.foldl_nil, Option.any_some,
        decide_eq_true_eq]
      rw [earnedFor_of_handled hsucceeds]
      congr 1
      by_cases hid : bookingId = id
      · subst hid
        rw [if_pos rfl, if_pos rfl, Platform.rewardOf, hold, Option.map_some, Option.getD_some]
        exact hsame.reward_eq
      · rw [if_neg hid, if_neg hid]

/-- What `completed` records: everything that is completed now, and only bookings. -/
structure Platform.Recorded (p : Platform) : Prop where
  current : ∀ id, p.store.isCompleted id = true → p.completed id = true
  booked : ∀ id, p.completed id = true → ∃ b, p.store.bookings[id]? = some b

/-- A booking that is completed by a call is there before the call. -/
private theorem exists_of_completes {id : BookingId} (h : completes p.store r id = true) :
    ∃ b, p.store.bookings[id]? = some b := by
  rcases Bool.or_eq_true_iff.mp h with hann | hswept
  · obtain ⟨⟨bookingId, b⟩, hfound, hid⟩ := (Option.any_eq_true _ _).mp hann
    obtain ⟨old, hold, -⟩ := announced_eq_some hfound
    rw [decide_eq_true_iff] at hid
    exact ⟨old, hid ▸ hold⟩
  · unfold swept at hswept
    split at hswept
    · obtain ⟨b, hb, -⟩ := (Option.any_eq_true _ _).mp hswept
      exact ⟨b, hb⟩
    · cases hswept

/-- What has ever been completed after a call. -/
theorem completed_platformExec (hrecorded : p.Recorded) (id : BookingId) :
    (platformExec lib settings p r).completed id = (p.completed id || completes p.store r id) := by
  obtain ⟨hthen, honly⟩ := completesExactly_exec lib p.store r id
  rw [platformExec, Bool.eq_iff_iff, Bool.or_eq_true, Bool.or_eq_true]
  constructor
  · rintro (hbefore | hnow)
    · exact Or.inl hbefore
    · exact (honly hnow).imp_left (hrecorded.current id)
  · exact Or.imp_right hthen

theorem Platform.Recorded.step (h : p.Recorded) : (platformExec lib settings p r).Recorded := by
  constructor
  · intro id hid
    exact Bool.or_eq_true_iff.mpr (Or.inr hid)
  · intro id hid
    rw [completed_platformExec h, Bool.or_eq_true] at hid
    have hbooked : ∃ b, p.store.bookings[id]? = some b :=
      hid.elim (h.booked id) exists_of_completes
    obtain ⟨b, hb⟩ := hbooked
    obtain ⟨b', hb', -⟩ := (exec_announces lib p.store r).kept id b hb
    exact ⟨b', hb'⟩

/-- The rewards of bookings that were there stay. -/
theorem rewardOf_platformExec {id : BookingId} {b : Booking}
    (hb : p.store.bookings[id]? = some b) :
    (platformExec lib settings p r).rewardOf id = p.rewardOf id := by
  obtain ⟨b', hb', hsame⟩ := (exec_announces lib p.store r).kept id b hb
  rw [Platform.rewardOf, platformExec, hb', Platform.rewardOf, hb, Option.map_some,
    Option.map_some, hsame.reward_eq]

/-- One booking: its rows are the ones it should have exactly when it is worth nothing, or
is not completed by the call, or is announced where it had not been completed before. -/
private theorem once_iff {α : Type} {rows : List α} {before announces completes : Bool}
    (hann : announces = true → completes = true) :
    ((if before then rows else []) ++ (if announces then rows else []) =
        if before || completes then rows else []) ↔
      (completes = true → rows = [] ∨ before = !announces) := by
  cases before <;> cases announces <;> cases completes <;> simp_all

/-- A booking is worth nothing when it is below 1000. -/
private theorem rewardOf_eq_nil_iff {id : BookingId} {b : Booking}
    (hb : p.store.bookings[id]? = some b) :
    p.rewardOf id = [] ↔ b.totalAmount.toRat < 1000 := by
  rw [Platform.rewardOf, hb, Option.map_some, Option.getD_some, Booking.reward_eq_nil_iff]

/-- The condition, booking by booking. -/
private theorem announcedOnce_iff :
    AnnouncedOnce p r ↔ ∀ id, completes p.store r id = true →
      p.rewardOf id = [] ∨
        p.completed id = !(announced p.store r).any fun found => found.1 = id := by
  constructor
  · rintro ⟨hann, hswept⟩ id hid
    rcases Bool.or_eq_true_iff.mp hid with hfound | hsel
    · rw [hfound]
      obtain ⟨⟨bookingId, b⟩, hb, heq⟩ := (Option.any_eq_true _ _).mp hfound
      rw [decide_eq_true_iff] at heq
      subst heq
      obtain ⟨old, hold, hsame⟩ := announced_eq_some hb
      rw [rewardOf_eq_nil_iff hold, ← hsame.2]
      exact hann bookingId b hb
    · unfold swept at hsel
      split at hsel
      · next today hcall =>
          have hnone : announced p.store r = none := by rw [announced, hcall]
          obtain ⟨b, hb, hover⟩ := (Option.any_eq_true _ _).mp hsel
          rw [rewardOf_eq_nil_iff hb, hnone]
          exact hswept today hcall id b hb hover
      · cases hsel
  · intro h
    refine ⟨fun id b hb => ?_, fun today hcall id b hb hover => ?_⟩
    · have hfound : ((announced p.store r).any fun found => found.1 = id) = true := by
        rw [hb, Option.any_some, decide_eq_true_iff]
      have hid := h id (Bool.or_eq_true_iff.mpr (Or.inl hfound))
      obtain ⟨old, hold, hsame⟩ := announced_eq_some hb
      rw [rewardOf_eq_nil_iff hold, ← hsame.2, hfound] at hid
      exact hid
    · have hnone : announced p.store r = none := by rw [announced, hcall]
      have hsel : swept p.store r.call id = true := by
        rw [hcall]
        exact (Option.any_eq_true _ _).mpr ⟨b, hb, hover⟩
      have hid := h id (Bool.or_eq_true_iff.mpr (Or.inr hsel))
      rw [rewardOf_eq_nil_iff hb, hnone] at hid
      exact hid

/-- **One call** gives the points exactly once if and only if the condition holds. -/
theorem pointsOnce_step_iff (hrecorded : p.Recorded) (honce : PointsOnce p)
    (hhandled : AllHandled lib settings p r) :
    PointsOnce (platformExec lib settings p r) ↔ AnnouncedOnce p r := by
  rw [PointsOnce, announcedOnce_iff]
  refine forall_congr' fun id => ?_
  rw [earnedFor_platformExec hhandled, completed_platformExec hrecorded, honce id]
  have hann : ((announced p.store r).any fun found => found.1 = id) = true →
      completes p.store r id = true := fun h => Bool.or_eq_true_iff.mpr (Or.inl h)
  rw [← once_iff hann]
  cases hc : (p.completed id || completes p.store r id) with
  | false => rw [if_neg Bool.false_ne_true, if_neg Bool.false_ne_true]
  | true =>
      rw [Bool.or_eq_true] at hc
      obtain ⟨b, hb⟩ := hc.elim (hrecorded.booked id) exists_of_completes
      rw [rewardOf_platformExec hb]

end Step

/-! ## Whole histories -/

/-- **Points exactly once.**  In a history in which every event is handled to the end,
every completed booking has its points exactly once after every call, if and only if every
call meets the condition: it announces no booking worth points that has been completed
before, and the scheduler completes no booking worth points for the first time. -/
theorem pointsOnce_along_iff (lib : DateLib) (settings : Time → TierThresholds)
    (assignments : Table ConciergeAssignment) (users : Table User) (rs : List Request)
    (hhandled : Guarded (platformExec lib settings) (AllHandled lib settings)
      (Platform.start assignments users) rs) :
    Along (platformExec lib settings) PointsOnce (Platform.start assignments users) rs ↔
      Guarded (platformExec lib settings) AnnouncedOnce (Platform.start assignments users) rs := by
  refine along_iff_guarded_assuming (J := Platform.Recorded) (H := AllHandled lib settings)
    (fun p r h => h.step) (fun p r h hP hH => pointsOnce_step_iff h hP hH) ?_ ?_ hhandled
  · constructor
    · intro id hid
      cases hid
    · intro id hid
      cases hid
  · intro id
    rfl

instance (lib : DateLib) (settings : Time → TierThresholds) (p : Platform) (r : Request) :
    Decidable (AllHandled lib settings p r) :=
  inferInstanceAs (Decidable (_ = true))

namespace Demo

/-- The thresholds of the default settings. -/
def thresholds : Time → TierThresholds := fun _ => ⟨some 500, some 2000, some 5000⟩

/-- Two users, and a concierge. -/
def opening : Platform :=
  Platform.start [caretaker] [member 0 Decimal.zero, member 0 Decimal.zero]

/-- A stay of user 1 is booked, paid in cash and begun. -/
def stay : List Request :=
  [⟨0, .create (villa "2025-07-01" "2025-07-05") 1⟩, ⟨1, payCash 0 1⟩, ⟨2, confirm 0 206800⟩,
    ⟨3, .confirmCheckin 0 9⟩]

end Demo

/-- The concierge checks the guests out, and the booking earns 206 points. -/
theorem pointsOnce_along_iff_checkout :
    (Along (platformExec Demo.dates Demo.thresholds) PointsOnce Demo.opening
        (Demo.stay ++ [⟨4, .confirmCheckout 0 9⟩]) ↔
      Guarded (platformExec Demo.dates Demo.thresholds) AnnouncedOnce Demo.opening
        (Demo.stay ++ [⟨4, .confirmCheckout 0 9⟩])) ∧
    (Final (platformExec Demo.dates Demo.thresholds) Demo.opening
      (Demo.stay ++ [⟨4, .confirmCheckout 0 9⟩])).loyalty.earnedFor 0 = [(1, 206)] := by
  refine ⟨pointsOnce_along_iff Demo.dates Demo.thresholds _ _ _ ?_, ?_⟩
  · decide +kernel
  · decide +kernel

/-- **The scheduler completes without points.**  The guests leave without a check-out, and
the night after the booking is completed; no points are entered for it. -/
theorem scheduler_forgets_points :
    ¬ ∀ rs : List Request,
      Guarded (platformExec Demo.dates Demo.thresholds) (AllHandled Demo.dates Demo.thresholds)
        Demo.opening rs →
      PointsOnce (Final (platformExec Demo.dates Demo.thresholds) Demo.opening rs) := by
  intro h
  have honce := h (Demo.stay ++ [⟨4, .autoCompleteBookings 20275⟩]) (by decide +kernel) 0
  have hnone : (Final (platformExec Demo.dates Demo.thresholds) Demo.opening
      (Demo.stay ++ [⟨4, .autoCompleteBookings 20275⟩])).loyalty.earnedFor 0 = [] := by
    decide +kernel
  have howed : (if (Final (platformExec Demo.dates Demo.thresholds) Demo.opening
      (Demo.stay ++ [⟨4, .autoCompleteBookings 20275⟩])).completed 0 then
        (Final (platformExec Demo.dates Demo.thresholds) Demo.opening
          (Demo.stay ++ [⟨4, .autoCompleteBookings 20275⟩])).rewardOf 0 else []) =
      [(1, 206)] := by
    decide +kernel
  rw [hnone, howed] at honce
  cases honce

end StayRide
