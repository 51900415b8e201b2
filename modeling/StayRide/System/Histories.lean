import StayRide.Lib.Run
import StayRide.System.Calls

/-!
# Histories of bookings

What arbitrary histories of complete calls do to the bookings table.

* `noDoubleBooking_along_iff`: a history keeps the calendar free of double
  bookings if and only if no call of it advances a released booking whose days
  another booking has taken meanwhile.  The availability check of `create` is
  enough for everything else; what it cannot cover is a confirmation, check-in,
  check-out or completion that comes after the cancellation and the resale.
* `lifecycle_iff`: a history moves every booking along the workflow if and only
  if each call that advances a booking finds it in the status before, or already
  in the status it gives, and no rejected booking is cancelled.

Both conditions are on the calls and on the store they find; neither is checked
by the code.
-/

namespace StayRide

open Lib

variable (lib : DateLib)

/-! ## Data for runs -/

namespace Demo

def customer (id : UserId) : CurrentUser := ⟨id, .customer⟩

/-- Concierge 9 looks after the house. -/
def caretaker : ConciergeAssignment := ⟨9, some .property, some "villa", none, 5, true⟩

/-- A customer opens a payment in cash. -/
def payCash (bookingId : BookingId) (customerId : UserId) : Call :=
  .initiatePayment (fun _ => some true) .notConfigured bookingId .cash customerId none "SR"

/-- Administrator 5 confirms an amount. -/
def confirm (paymentId : PaymentId) (amount : ℚ) : Call :=
  .confirmManual paymentId 5 { amountReceived := amount, reference := "SR" }

end Demo

/-! ## No double booking -/

/-- The booking still blocks its days, or no other booking has taken them. -/
def DatesStillFree (store : Store) (id : BookingId) : Prop :=
  ∀ b, store.bookings[id]? = some b → b.status ∈ excludedStatuses →
    ∀ (other : BookingId) (taken : Booking), other ≠ id →
      store.bookings[other]? = some taken → taken.status ∉ excludedStatuses →
        b.stay.SameResource taken.stay → Disjoint b.stay.range taken.stay.range

/-- The call advances no booking whose days are taken. -/
def AdvancesOnlyFree (store : Store) (r : Request) : Prop :=
  ∀ id status, advances store r.call = some (id, status) → DatesStillFree store id

theorem Routine.revivesOnlyFree {store : Store} {call : Call} {effect : Effect}
    (h : Routine store call effect) : effect.RevivesOnlyFree store.calendar := by
  cases h with
  | keep | book | finish | expire => trivial
  | cancel | refund =>
      intro stay _ _ hblocks
      cases hblocks
  | @await id b hb hpending =>
      intro stay hstay hreleased
      -- A pending booking is not released.
      rw [getElem?_calendar, hb, Option.map_some, Option.some.injEq] at hstay
      have hstatus : stay.status = .pending := by rw [← hstay]; exact hpending
      rw [hstatus] at hreleased
      cases hreleased

/-- Advancing revives nothing that is taken exactly when the days are free. -/
theorem revivesOnlyFree_move_iff {store : Store} {id : BookingId} {status : BookingStatus}
    (hblocks : status.blocksDates = true) :
    (Effect.move id status).RevivesOnlyFree store.calendar ↔ DatesStillFree store id := by
  constructor
  · intro h b hb hreleased other taken hne htaken hlive hres
    refine h b.stay (by simp [hb]) (blocksDates_eq_false.mpr hreleased) hblocks other taken.stay
      hne (by simp [htaken]) ?_ hres
    exact Bool.of_not_eq_false fun h => hlive (blocksDates_eq_false.mp h)
  · intro h stay hstay hreleased _ other taken hne htaken hlive hres
    obtain ⟨b, hb, rfl⟩ := getElem?_calendar_eq_some.mp hstay
    obtain ⟨b', hb', rfl⟩ := getElem?_calendar_eq_some.mp htaken
    refine h b hb (blocksDates_eq_false.mp hreleased) other b' hne hb' (fun hmem => ?_) hres
    have hfalse : b'.status.blocksDates = false := blocksDates_eq_false.mpr hmem
    rw [show b'.stay.status = b'.status from rfl, hfalse] at hlive
    cases hlive

theorem revivesOnlyFree_effectOf_iff (store : Store) (r : Request) :
    (effectOf lib store r).RevivesOnlyFree store.calendar ↔ AdvancesOnlyFree store r := by
  cases h : advances store r.call with
  | none =>
      refine iff_of_true (routine_of_not_advances lib h).revivesOnlyFree ?_
      intro id status hadv
      rw [h] at hadv
      cases hadv
  | some target =>
      obtain ⟨id, status⟩ := target
      have hblocks : status.blocksDates = true := by
        rcases status_of_advances h with rfl | rfl | rfl <;> rfl
      rw [effectOf_of_advances lib h, revivesOnlyFree_move_iff hblocks]
      constructor
      · intro hfree id' status' hadv
        rw [h, Option.some.injEq, Prod.mk.injEq] at hadv
        rw [← hadv.1]
        exact hfree
      · intro hfree
        exact hfree id status h

/-- **Which histories double-book.**  From a calendar without double bookings, every
state of a history is free of them if and only if every call of the history advances
only bookings whose days are free. -/
theorem noDoubleBooking_along_iff (store : Store) (h : NoDoubleBooking store.calendar)
    (rs : List Request) :
    Along (exec lib) (fun s => NoDoubleBooking s.calendar) store rs ↔
      Guarded (exec lib) AdvancesOnlyFree store rs := by
  refine along_iff_guarded (J := fun _ => True) (P := fun s : Store => NoDoubleBooking s.calendar)
    (fun _ _ _ => trivial) (fun s r _ hs => ?_) trivial h rs
  rw [exec_calendar, Effect.noDoubleBooking_apply_iff (effectOf_sound lib s r) hs,
    revivesOnlyFree_effectOf_iff]

/-- A history that keeps its calendar: two customers book days next to each other and
the first one pays. -/
theorem noDoubleBooking_along_iff_neighbours :
    NoDoubleBooking (Store.start []).calendar ∧
      (Along (exec Demo.dates) (fun s => NoDoubleBooking s.calendar) (Store.start [])
          [⟨0, .create (Demo.villa "2025-07-01" "2025-07-03") 1⟩,
            ⟨1, .create (Demo.villa "2025-07-03" "2025-07-05") 2⟩,
            ⟨2, Demo.payCash 0 1⟩, ⟨3, Demo.confirm 0 107800⟩] ↔
        Guarded (exec Demo.dates) AdvancesOnlyFree (Store.start [])
          [⟨0, .create (Demo.villa "2025-07-01" "2025-07-03") 1⟩,
            ⟨1, .create (Demo.villa "2025-07-03" "2025-07-05") 2⟩,
            ⟨2, Demo.payCash 0 1⟩, ⟨3, Demo.confirm 0 107800⟩]) :=
  ⟨Table.pairwiseRows_nil _,
    noDoubleBooking_along_iff Demo.dates (Store.start []) (Table.pairwiseRows_nil _) _⟩

/-- A stay is booked, its payment opened, the booking cancelled, the days sold to
another customer, and then the first payment confirmed. -/
def Demo.resale : List Request :=
  [⟨0, .create (Demo.villa "2025-07-01" "2025-07-05") 1⟩,
    ⟨1, Demo.payCash 0 1⟩,
    ⟨2, .cancel 0 (Demo.customer 1) none⟩,
    ⟨3, .create (Demo.villa "2025-07-01" "2025-07-05") 2⟩,
    ⟨4, Demo.confirm 0 206800⟩]

/-- **The late confirmation double-books.** -/
theorem resale_double_books :
    ¬ Along (exec Demo.dates) (fun s => NoDoubleBooking s.calendar) (Store.start [])
      Demo.resale := by
  intro h
  refine not_noDoubleBooking_of_clash 0 1 20270 (by decide) ?_ h.last
  decide +kernel

/-! ## The workflow -/

/-- The statuses from which a call may give a booking the status `target`: the one
before it in the workflow, or `target` itself. -/
def BookingStatus.readyFor (target : BookingStatus) (status : BookingStatus) : Bool :=
  match target with
  | .confirmed => status = .pending || status = .paymentPending || status = .confirmed
  | .active => status = .confirmed || status = .active
  | .completed => status = .active || status = .completed
  | _ => true

/-- The call advances only a booking that is ready for it, and cancels no rejected
one. -/
def OnSchedule (store : Store) (r : Request) : Prop :=
  (∀ id status, advances store r.call = some (id, status) →
    ∀ b, store.bookings[id]? = some b → status.readyFor b.status = true) ∧
  (∀ id user reason, r.call = .cancel id user reason →
    ∀ b, cancellableBooking store id user = some b → b.status ≠ .rejected)

/-- Once released, a booking stays released: it keeps its status or is refunded. -/
def ReleasedForGood (store : Store) (rs : List Request) : Prop :=
  ∀ before after : List Request, before ++ after <+: rs →
    ∀ (id : BookingId) (stay : Stay),
      (Final (exec lib) store before).calendar[id]? = some stay →
      stay.status ∈ excludedStatuses →
        ∃ stay', (Final (exec lib) store (before ++ after)).calendar[id]? = some stay' ∧
          (stay'.status = stay.status ∨ stay'.status = .refunded)

/-- For a move it is enough to look at the booking that is moved. -/
private theorem alongWorkflow_move_iff {store : Store} {id : BookingId}
    {status : BookingStatus} :
    (Effect.move id status).AlongWorkflow store.calendar ↔
      ∀ b, store.bookings[id]? = some b →
        status = b.status ∨ b.status.mayBecome status = true := by
  constructor
  · intro h b hb
    exact h b.stay (by simp [hb])
  · intro h stay hstay
    obtain ⟨b, hb, rfl⟩ := getElem?_calendar_eq_some.mp hstay
    exact h b hb

/-- Readiness is what the workflow asks of the calls that advance a booking. -/
private theorem readyFor_iff {target status : BookingStatus}
    (h : target = .confirmed ∨ target = .active ∨ target = .completed) :
    (target = status ∨ status.mayBecome target = true) ↔ target.readyFor status = true := by
  rcases h with rfl | rfl | rfl <;> cases status <;> decide

/-- Of the routine effects only the cancellation of a rejected booking leaves the
workflow. -/
theorem Routine.alongWorkflow_iff {store : Store} {call : Call} {effect : Effect}
    (h : Routine store call effect) :
    (∀ id user reason, call = .cancel id user reason →
      ∀ b, cancellableBooking store id user = some b →
        effect = .move id .cancelled → b.status ≠ .rejected) ↔
      effect.AlongWorkflow store.calendar := by
  cases h with
  | keep => exact iff_of_true (by simp) trivial
  | book => exact iff_of_true (by simp) trivial
  | @cancel id user reason b hcall hb =>
      obtain ⟨hrow, hcompleted, hrefunded⟩ := cancellableBooking_eq_some hb
      rw [alongWorkflow_move_iff]
      constructor
      · intro hnot b' hb'
        have hrejected := hnot id user reason hcall b hb rfl
        rw [hrow, Option.some.injEq] at hb'
        subst hb'
        cases hs : b.status <;> simp_all [BookingStatus.mayBecome, BookingStatus.isTerminal]
      · intro hmove id' user' reason' hcall' b' hb' _ hrejected
        rw [hcall, Call.cancel.injEq] at hcall'
        obtain ⟨rfl, rfl, rfl⟩ := hcall'
        rw [hb, Option.some.injEq] at hb'
        subst hb'
        have hmoved := hmove b hrow
        rw [hrejected] at hmoved
        revert hmoved
        decide
  | @await id b hb hpending =>
      refine iff_of_true (by simp) (alongWorkflow_move_iff.mpr fun b' hb' => ?_)
      rw [hb, Option.some.injEq] at hb'
      rw [← hb', hpending]
      decide
  | refund id =>
      refine iff_of_true (by simp) (alongWorkflow_move_iff.mpr fun b _ => ?_)
      cases b.status <;> decide
  | finish hactive =>
      refine iff_of_true (by simp) fun id stay hstay hsel => ?_
      obtain ⟨b, hb, rfl⟩ := getElem?_calendar_eq_some.mp hstay
      rw [show b.stay.status = b.status from rfl, hactive id b hb hsel]
      decide
  | expire hpending =>
      refine iff_of_true (by simp) fun id stay hstay hsel => ?_
      obtain ⟨b, hb, rfl⟩ := getElem?_calendar_eq_some.mp hstay
      rw [show b.stay.status = b.status from rfl, hpending id b hb hsel]
      decide

/-- **One call** follows the workflow exactly when it is on schedule. -/
theorem followsWorkflow_exec_iff (store : Store) (r : Request) :
    FollowsWorkflow store.calendar (exec lib store r).calendar ↔ OnSchedule store r := by
  rw [exec_calendar, Effect.followsWorkflow_apply_iff (effectOf_sound lib store r)]
  cases h : advances store r.call with
  | none =>
      rw [← (routine_of_not_advances lib h).alongWorkflow_iff]
      constructor
      · intro hcancel
        refine ⟨fun id status hadv => ?_, fun id user reason hcall b hb => ?_⟩
        · rw [h] at hadv
          cases hadv
        · refine hcancel id user reason hcall b hb ?_
          simp only [effectOf, hcall, hb]
      · intro hschedule id user reason hcall b hb _
        exact hschedule.2 id user reason hcall b hb
  | some target =>
      obtain ⟨id, status⟩ := target
      rw [effectOf_of_advances lib h, alongWorkflow_move_iff]
      constructor
      · intro hmove
        refine ⟨fun id' status' hadv b hb => ?_, fun id' user reason hcall => ?_⟩
        · rw [h, Option.some.injEq, Prod.mk.injEq] at hadv
          obtain ⟨rfl, rfl⟩ := hadv
          exact (readyFor_iff (status_of_advances h)).mp (hmove b hb)
        · rw [hcall] at h
          cases h
      · intro hschedule b hb
        exact (readyFor_iff (status_of_advances h)).mpr (hschedule.1 id status h b hb)

/-- One step along the workflow keeps a released stay released. -/
private theorem released_step {before after : Calendar} (h : FollowsWorkflow before after)
    {id : BookingId} {stay : Stay} (hstay : before[id]? = some stay)
    (hreleased : stay.status ∈ excludedStatuses) :
    ∃ stay', after[id]? = some stay' ∧ stay'.status ∈ excludedStatuses ∧
      (stay'.status = stay.status ∨ stay'.status = .refunded) := by
  obtain ⟨new, hnew, hchange⟩ := h.1 id stay hstay
  have hkept : new.status ∈ excludedStatuses ∧
      (new.status = stay.status ∨ new.status = .refunded) := by
    rcases hchange with heq | hmay
    · rw [heq]
      exact ⟨hreleased, Or.inl rfl⟩
    · revert hreleased hmay
      cases stay.status <;> cases new.status <;> decide
  exact ⟨new, hnew, hkept⟩

/-- A run along the workflow keeps a released stay released. -/
private theorem released_run {store : Store} {rs : List Request}
    (h : Guarded (exec lib)
      (fun s r => FollowsWorkflow s.calendar (exec lib s r).calendar) store rs)
    {id : BookingId} {stay : Stay} (hstay : store.calendar[id]? = some stay)
    (hreleased : stay.status ∈ excludedStatuses) :
    ∃ stay', (Final (exec lib) store rs).calendar[id]? = some stay' ∧
      (stay'.status = stay.status ∨ stay'.status = .refunded) := by
  induction rs generalizing store stay with
  | nil => exact ⟨stay, hstay, Or.inl rfl⟩
  | cons r rs ih =>
      obtain ⟨next, hnext, hstill, hsame⟩ := released_step h.1 hstay hreleased
      obtain ⟨last, hlast, hend⟩ := ih h.2 hnext hstill
      refine ⟨last, hlast, ?_⟩
      rcases hend with hend | hend
      · rw [hend]
        exact hsame
      · exact Or.inr hend

/-- **Which histories follow the workflow.**  Every status change of a history is one
of the workflow, and every booking that it releases stays released, if and only if
every call of the history is on schedule. -/
theorem lifecycle_iff (store : Store) (rs : List Request) :
    (Guarded (exec lib) (fun s r => FollowsWorkflow s.calendar (exec lib s r).calendar)
        store rs ∧ ReleasedForGood lib store rs) ↔
      Guarded (exec lib) OnSchedule store rs := by
  rw [← guarded_congr (followsWorkflow_exec_iff lib)]
  refine ⟨And.left, fun h => ⟨h, ?_⟩⟩
  rintro before after ⟨rest, hrun⟩ id stay hstay hreleased
  have hafter := (guarded_append.mp (guarded_append.mp (hrun ▸ h)).1).2
  rw [final_append]
  exact released_run lib hafter hstay hreleased

/-- A concierge checks in a guest whose booking nobody has confirmed. -/
def Demo.earlyCheckin : List Request :=
  [⟨0, .create (Demo.villa "2025-07-01" "2025-07-05") 1⟩, ⟨1, .confirmCheckin 0 9⟩]

/-- **The early check-in leaves the workflow**: a pending booking becomes active. -/
theorem earlyCheckin_skips_confirmation :
    ¬ Guarded (exec Demo.dates)
      (fun s r => FollowsWorkflow s.calendar (exec Demo.dates s r).calendar)
      (Store.start [Demo.caretaker]) Demo.earlyCheckin := by
  rintro ⟨-, h, -⟩
  have hbefore : (Final (exec Demo.dates) (Store.start [Demo.caretaker])
      (Demo.earlyCheckin.take 1)).calendar[0]?.map Stay.status = some .pending := by
    decide +kernel
  have hafter : (Final (exec Demo.dates) (Store.start [Demo.caretaker])
      Demo.earlyCheckin).calendar[0]?.map Stay.status = some .active := by
    decide +kernel
  obtain ⟨old, hold, hpending⟩ := Option.map_eq_some_iff.mp hbefore
  obtain ⟨new, hnew, hchange⟩ := h.1 0 old hold
  have hactive : new.status = .active := by
    have hmapped := congrArg (Option.map Stay.status) hnew
    exact Option.some.inj (hmapped.symm.trans hafter)
  rw [hpending, hactive] at hchange
  revert hchange
  decide

end StayRide
