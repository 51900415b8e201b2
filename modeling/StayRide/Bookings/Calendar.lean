import Mathlib.Order.CompletePartialOrder
import Mathlib.Order.Interval.Set.Disjoint
import StayRide.Common.Store

/-!
# The calendar: what the booking side is for

An abstract model of the bookings table.  A *stay* is what matters about a
booking for its resource: which property or car, which half-open range of days,
in which status, for how much money.  The calendar is the table of stays.  A
call affects it in one of four ways (`Effect`): not at all, by booking a new
stay, by moving one stay to a status, or by a sweep that moves all selected
stays to a status.

Two things are demanded of a calendar.

* `NoDoubleBooking`: stays that block their dates and share a resource have
  disjoint ranges.  `noDoubleBooking_apply_iff` says exactly when an effect
  keeps it: a move must not revive a released stay whose days are taken.
* `FollowsWorkflow`: a status changes only along the workflow.
  `followsWorkflow_apply_iff` says exactly when an effect does.

The services refine this model: `StayRide.System.Calls` computes the effect of every
call and proves that the bookings table changes accordingly.
-/

namespace StayRide

open Lib

/-! ## Half-open ranges -/

section Ranges

variable {α : Type*} [LinearOrder α] {s₁ e₁ s₂ e₂ : α}

/-- Ranges that share a point overlap in the sense of the two comparisons of an
availability query; the comparisons can only err on the safe side. -/
theorem disjoint_of_not_overlap (h : ¬ (s₁ < e₂ ∧ s₂ < e₁)) :
    Disjoint (Set.Ico s₁ e₁) (Set.Ico s₂ e₂) := by
  rw [Set.disjoint_left]
  rintro d ⟨hs₁, he₁⟩ ⟨hs₂, he₂⟩
  exact h ⟨lt_of_le_of_lt hs₁ he₂, lt_of_le_of_lt hs₂ he₁⟩

/-- For non-empty ranges the comparisons are exact. -/
theorem disjoint_iff_not_overlap (h₁ : s₁ < e₁) (h₂ : s₂ < e₂) :
    Disjoint (Set.Ico s₁ e₁) (Set.Ico s₂ e₂) ↔ ¬ (s₁ < e₂ ∧ s₂ < e₁) := by
  refine ⟨?_, disjoint_of_not_overlap⟩
  rintro hdisj ⟨h₁₂, h₂₁⟩
  -- The later of the two first days belongs to both ranges.
  have hfirst : max s₁ s₂ ∈ Set.Ico s₁ e₁ := ⟨le_max_left _ _, max_lt h₁ h₂₁⟩
  have hsecond : max s₁ s₂ ∈ Set.Ico s₂ e₂ := ⟨le_max_right _ _, max_lt h₁₂ h₂⟩
  exact Set.disjoint_left.mp hdisj hfirst hsecond

end Ranges

/-! ## Stays -/

/-- What matters about a booking for its resource. -/
structure Stay where
  propertyId : Option ResourceId
  carId : Option ResourceId
  startDate : Day
  endDate : Day
  status : BookingStatus
  totalAmount : Amount

namespace Stay

/-- The days of the stay. -/
def range (stay : Stay) : Set Day :=
  Set.Ico stay.startDate stay.endDate

/-- The stay is one of this property or car. -/
def isOf (stay : Stay) (resourceType : ResourceType) (resourceId : ResourceId) : Prop :=
  match resourceType with
  | .property => stay.propertyId = some resourceId
  | .car => stay.carId = some resourceId

/-- Two stays of one resource. -/
def SameResource (a b : Stay) : Prop :=
  ∃ resourceType resourceId, a.isOf resourceType resourceId ∧ b.isOf resourceType resourceId

/-- Not both stays claim the same day of the same resource. -/
def Compatible (a b : Stay) : Prop :=
  a.status.blocksDates → b.status.blocksDates → a.SameResource b →
    Disjoint a.range b.range

/-- The same stay in another status. -/
def withStatus (stay : Stay) (status : BookingStatus) : Stay :=
  { stay with status := status }

@[simp] theorem withStatus_status (stay : Stay) (status : BookingStatus) :
    (stay.withStatus status).status = status := rfl

@[simp] theorem withStatus_sameResource {a b : Stay} {status : BookingStatus} :
    (a.withStatus status).SameResource b ↔ a.SameResource b := Iff.rfl

@[simp] theorem sameResource_withStatus {a b : Stay} {status : BookingStatus} :
    a.SameResource (b.withStatus status) ↔ a.SameResource b := Iff.rfl

theorem SameResource.symm {a b : Stay} (h : a.SameResource b) : b.SameResource a := by
  obtain ⟨resourceType, resourceId, ha, hb⟩ := h
  exact ⟨resourceType, resourceId, hb, ha⟩

theorem Compatible.symm (a b : Stay) (h : a.Compatible b) : b.Compatible a := by
  intro hb ha hres
  exact (h ha hb hres.symm).symm

end Stay

/-- The stay of a booking. -/
def Booking.stay (b : Booking) : Stay :=
  ⟨b.propertyId, b.carId, b.startDate, b.endDate, b.status, b.totalAmount⟩

abbrev Calendar := Table Stay

/-- The calendar of a store. -/
def Store.calendar (store : Store) : Calendar :=
  store.bookings.map Booking.stay

@[simp] theorem getElem?_calendar (store : Store) (id : BookingId) :
    store.calendar[id]? = store.bookings[id]?.map Booking.stay := by
  simp [Store.calendar]

theorem getElem?_calendar_eq_some {store : Store} {id : BookingId} {stay : Stay} :
    store.calendar[id]? = some stay ↔
      ∃ b, store.bookings[id]? = some b ∧ b.stay = stay := by
  rw [getElem?_calendar, Option.map_eq_some_iff]

theorem getElem?_calendar_of_some {store : Store} {id : BookingId} {b : Booking}
    (h : store.bookings[id]? = some b) : store.calendar[id]? = some b.stay :=
  getElem?_calendar_eq_some.mpr ⟨b, h, rfl⟩

/-- Stays that block their dates and share a resource have disjoint ranges. -/
def NoDoubleBooking (calendar : Calendar) : Prop :=
  Table.PairwiseRows Stay.Compatible calendar

/-- Both stays claim this day of one property or of one car. -/
def Stay.clashesOn (a b : Stay) (day : Day) : Bool :=
  a.status.blocksDates && b.status.blocksDates &&
    (a.propertyId.isSome && a.propertyId = b.propertyId ||
      a.carId.isSome && a.carId = b.carId) &&
    (a.startDate ≤ day && day < a.endDate && b.startDate ≤ day && day < b.endDate)

/-- Two stays that clash on a day are a double booking. -/
theorem not_noDoubleBooking_of_clash {calendar : Calendar} (i j : BookingId) (day : Day)
    (hij : i ≠ j)
    (h : (calendar[i]?.bind fun a => calendar[j]?.map fun b => a.clashesOn b day) =
      some true) :
    ¬ NoDoubleBooking calendar := by
  intro hfree
  obtain ⟨a, ha, hclash⟩ := Option.bind_eq_some_iff.mp h
  obtain ⟨b, hb, hclash⟩ := Option.map_eq_some_iff.mp hclash
  simp only [Stay.clashesOn, Bool.and_eq_true, Bool.or_eq_true, decide_eq_true_eq] at hclash
  obtain ⟨⟨⟨haLive, hbLive⟩, hres⟩, ⟨⟨hsa, hea⟩, hsb⟩, heb⟩ := hclash
  have hsame : a.SameResource b := by
    rcases hres with ⟨hsome, heq⟩ | ⟨hsome, heq⟩
    · obtain ⟨id, hid⟩ := Option.isSome_iff_exists.mp hsome
      exact ⟨.property, id, hid, heq.symm.trans hid⟩
    · obtain ⟨id, hid⟩ := Option.isSome_iff_exists.mp hsome
      exact ⟨.car, id, hid, heq.symm.trans hid⟩
  have hdisj := hfree i j a b hij ha hb haLive hbLive hsame
  exact Set.disjoint_left.mp hdisj ⟨hsa, hea⟩ ⟨hsb, heb⟩

/-! ## Effects -/

/-- What a call does to the calendar. -/
inductive Effect
  | keep
  | book (stay : Stay)
  | move (id : BookingId) (status : BookingStatus)
  | sweep (selected : BookingId → Bool) (status : BookingStatus)

namespace Effect

def apply (calendar : Calendar) : Effect → Calendar
  | .keep => calendar
  | .book stay => calendar.insertRow stay
  | .move id status => calendar.updateById id fun stay => stay.withStatus status
  | .sweep selected status =>
      calendar.updateWhere (fun id _ => selected id) fun stay => stay.withStatus status

/-- What the code guarantees about the effects of its calls: a new stay is pending
and free of conflicts, and a sweep revives nothing. -/
def Sound (calendar : Calendar) : Effect → Prop
  | .keep => True
  | .book stay => stay.status = .pending ∧
      ∀ (id : BookingId) (other : Stay), calendar[id]? = some other → stay.Compatible other
  | .move _ _ => True
  | .sweep selected status => ∀ (id : BookingId) (stay : Stay), calendar[id]? = some stay →
      selected id → status.blocksDates → stay.status.blocksDates

/-- The effect revives no released stay whose days another stay has taken
meanwhile. -/
def RevivesOnlyFree (calendar : Calendar) : Effect → Prop
  | .move id status => ∀ stay, calendar[id]? = some stay →
      stay.status.blocksDates = false → status.blocksDates = true →
        ∀ (other : BookingId) (taken : Stay), other ≠ id →
          calendar[other]? = some taken → taken.status.blocksDates = true →
            stay.SameResource taken → Disjoint stay.range taken.range
  | _ => True

/-- No effect removes a stay or changes its price. -/
theorem totalAmount_apply {calendar : Calendar} {id : BookingId} {stay : Stay}
    (h : calendar[id]? = some stay) (effect : Effect) :
    ∃ stay', (effect.apply calendar)[id]? = some stay' ∧
      stay'.totalAmount = stay.totalAmount := by
  cases effect with
  | keep => exact ⟨stay, h, rfl⟩
  | book new => exact ⟨stay, Table.getElem?_insertRow_of_some new h, rfl⟩
  | move moved status =>
      refine ⟨if id = moved then stay.withStatus status else stay, ?_, ?_⟩
      · rw [apply, Table.getElem?_updateById, h, Option.map_some]
      · by_cases hid : id = moved
        · rw [if_pos hid]
          rfl
        · rw [if_neg hid]
  | sweep selected status =>
      refine ⟨if selected id then stay.withStatus status else stay, ?_, ?_⟩
      · rw [apply, Table.getElem?_updateWhere, h, Option.map_some]
      · cases hsel : selected id with
        | true => rfl
        | false => rfl

/-- The effect gives the status to some stay. -/
def Gives (status : BookingStatus) : Effect → Prop
  | .keep => False
  | .book stay => stay.status = status
  | .move _ given => given = status
  | .sweep _ given => given = status

/-- After an effect a stay is as it was, or has a status that the effect gives. -/
theorem getElem?_apply_or_gives {calendar : Calendar} {effect : Effect} {id : BookingId}
    {stay : Stay} (h : (effect.apply calendar)[id]? = some stay) :
    calendar[id]? = some stay ∨ effect.Gives stay.status := by
  cases effect with
  | keep => exact Or.inl h
  | book new =>
      rcases Table.getElem?_insertRow_eq_some.mp h with hold | ⟨-, rfl⟩
      · exact Or.inl hold
      · exact Or.inr rfl
  | move moved status =>
      obtain ⟨old, hold, rfl⟩ := Table.getElem?_updateById_eq_some.mp h
      by_cases hid : id = moved
      · rw [if_pos hid]
        exact Or.inr rfl
      · rw [if_neg hid]
        exact Or.inl hold
  | sweep selected status =>
      obtain ⟨old, hold, rfl⟩ := Table.getElem?_updateWhere_eq_some.mp h
      cases hsel : selected id with
      | true => exact Or.inr rfl
      | false => exact Or.inl hold

/-- A sound sweep keeps two compatible stays compatible. -/
private theorem compatible_ite {a b : Stay} {status : BookingStatus} {p q : Bool}
    (hp : p → status.blocksDates → a.status.blocksDates)
    (hq : q → status.blocksDates → b.status.blocksDates) (h : a.Compatible b) :
    (if p then a.withStatus status else a).Compatible
      (if q then b.withStatus status else b) := by
  cases p <;> cases q
  · exact h
  · intro ha hb hres
    exact h ha (hq rfl hb) hres
  · intro ha hb hres
    exact h (hp rfl ha) hb hres
  · intro ha hb hres
    exact h (hp rfl ha) (hq rfl hb) hres

/-- **Exactly the reviving moves double-book.**  A sound effect keeps the calendar
free of double bookings if and only if it revives no stay whose days are
taken. -/
theorem noDoubleBooking_apply_iff {calendar : Calendar} {effect : Effect}
    (hsound : effect.Sound calendar) (h : NoDoubleBooking calendar) :
    NoDoubleBooking (effect.apply calendar) ↔ effect.RevivesOnlyFree calendar := by
  cases effect with
  | keep => exact iff_of_true h trivial
  | book stay =>
      refine iff_of_true ?_ trivial
      exact (Table.PairwiseRows.insertRow_iff Stay.Compatible.symm h stay).mpr hsound.2
  | move id status =>
      rw [NoDoubleBooking, apply, Table.PairwiseRows.updateById_iff Stay.Compatible.symm h]
      constructor
      · intro hmove stay hstay _ hblocks other taken hne htaken htakenBlocks hres
        exact hmove stay hstay other taken hne htaken hblocks htakenBlocks hres
      · intro hfree stay hstay other taken hne htaken hblocks htakenBlocks hres
        -- A stay that already blocked its dates had no conflict before the move.
        cases hold : stay.status.blocksDates with
        | true => exact h id other stay taken (Ne.symm hne) hstay htaken hold htakenBlocks hres
        | false => exact hfree stay hstay hold hblocks other taken hne htaken htakenBlocks hres
  | sweep selected status =>
      refine iff_of_true ?_ trivial
      intro i j a b hij ha hb
      obtain ⟨a₀, ha₀, rfl⟩ := Table.getElem?_updateWhere_eq_some.mp ha
      obtain ⟨b₀, hb₀, rfl⟩ := Table.getElem?_updateWhere_eq_some.mp hb
      exact compatible_ite (hsound i a₀ ha₀) (hsound j b₀ hb₀) (h i j a₀ b₀ hij ha₀ hb₀)

end Effect

/-! ## The workflow -/

/-- A status that a booking leaves for a refund only. -/
def BookingStatus.isTerminal : BookingStatus → Bool
  | .completed | .cancelled | .rejected | .refunded => true
  | _ => false

/-- The workflow: `PENDING → PAYMENT_PENDING → CONFIRMED → ACTIVE → COMPLETED`,
confirmation straight from `PENDING`, cancellation of what is not terminal, and
refund of everything that is not refunded. -/
def BookingStatus.mayBecome : BookingStatus → BookingStatus → Bool
  | .pending, .paymentPending => true
  | .pending, .confirmed => true
  | .paymentPending, .confirmed => true
  | .confirmed, .active => true
  | .active, .completed => true
  | old, .cancelled => !old.isTerminal
  | old, .refunded => old ≠ .refunded
  | _, _ => false

/-- From one calendar to the next every stay keeps its status or changes it along
the workflow, no stay disappears, and new stays are pending. -/
def FollowsWorkflow (before after : Calendar) : Prop :=
  (∀ (id : BookingId) (old : Stay), before[id]? = some old →
    ∃ new, after[id]? = some new ∧
      (new.status = old.status ∨ old.status.mayBecome new.status = true)) ∧
  (∀ (id : BookingId) (new : Stay), before[id]? = none → after[id]? = some new →
    new.status = .pending)

namespace Effect

/-- The effect moves stays only along the workflow. -/
def AlongWorkflow (calendar : Calendar) : Effect → Prop
  | .keep => True
  | .book _ => True
  | .move id status => ∀ stay, calendar[id]? = some stay →
      status = stay.status ∨ stay.status.mayBecome status = true
  | .sweep selected status => ∀ (id : BookingId) (stay : Stay), calendar[id]? = some stay →
      selected id → status = stay.status ∨ stay.status.mayBecome status = true

/-- **Exactly the moves along the workflow follow it.** -/
theorem followsWorkflow_apply_iff {calendar : Calendar} {effect : Effect}
    (hsound : effect.Sound calendar) :
    FollowsWorkflow calendar (effect.apply calendar) ↔ effect.AlongWorkflow calendar := by
  cases effect with
  | keep =>
      refine iff_of_true ⟨fun id old hold => ⟨old, hold, Or.inl rfl⟩, ?_⟩ trivial
      intro id new hnone hnew
      rw [apply, hnone] at hnew
      cases hnew
  | book stay =>
      refine iff_of_true ⟨fun id old hold => ?_, fun id new hnone hnew => ?_⟩ trivial
      · exact ⟨old, Table.getElem?_insertRow_of_some stay hold, Or.inl rfl⟩
      · rcases Table.getElem?_insertRow_eq_some.mp hnew with hold | ⟨_, rfl⟩
        · rw [hnone] at hold
          cases hold
        · exact hsound.1
  | move id status =>
      constructor
      · rintro ⟨hkept, -⟩ stay hstay
        obtain ⟨new, hnew, hchange⟩ := hkept id stay hstay
        simp only [apply, Table.getElem?_updateById, hstay, Option.map_some, if_true,
          Option.some.injEq] at hnew
        rw [← hnew] at hchange
        exact hchange
      · intro hmove
        refine ⟨fun i old hold => ?_, fun i new hnone hnew => ?_⟩
        · refine ⟨if i = id then old.withStatus status else old, by simp [apply, hold], ?_⟩
          by_cases hi : i = id
          · subst hi
            simpa using hmove old hold
          · simp [hi]
        · simp [apply, hnone] at hnew
  | sweep selected status =>
      constructor
      · rintro ⟨hkept, -⟩ id stay hstay hsel
        obtain ⟨new, hnew, hchange⟩ := hkept id stay hstay
        simp only [apply, Table.getElem?_updateWhere, hstay, Option.map_some, hsel, if_true,
          Option.some.injEq] at hnew
        rw [← hnew] at hchange
        exact hchange
      · intro hsweep
        refine ⟨fun i old hold => ?_, fun i new hnone hnew => ?_⟩
        · refine ⟨if selected i then old.withStatus status else old, by simp [apply, hold], ?_⟩
          cases hsel : selected i with
          | false => simp
          | true => simpa using hsweep i old hold hsel
        · simp [apply, hnone] at hnew

end Effect

end StayRide
