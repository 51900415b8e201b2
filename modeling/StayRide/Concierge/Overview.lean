import Mathlib.Data.List.Sort
import StayRide.Bookings.Pricing
import StayRide.Concierge.Service

/-!
# The day of a concierge: `getTodayOverview`

The bookings that begin or end today at a place the concierge is assigned to, and the open
tasks.  The assignments are to properties and to cars, and both kinds of ids are collected;
but both queries ask for the property only, so that a booking of a car is never listed.

`overview_complete_iff` says when nothing is missing: every booking of the day that is
assigned to the concierge is so by its property.
-/

namespace StayRide

open Lib

/-! ## Tasks -/

inductive TaskType
  | checkin | checkout | cleaning | inspection | maintenance | other
  deriving DecidableEq, Repr

inductive TaskStatus
  | todo | inProgress | done | issueReported
  deriving DecidableEq, Repr

inductive TaskPriority
  | low | medium | high | urgent
  deriving DecidableEq, Repr

/-- The order of the members, which is the order of the column. -/
def TaskPriority.rank : TaskPriority → ℕ
  | .low => 0
  | .medium => 1
  | .high => 2
  | .urgent => 3

/-- A row of `tasks`, with the columns that say what is to be done and when. -/
structure Task where
  bookingId : Option BookingId
  assignedTo : UserId
  type : TaskType
  title : String
  priority : TaskPriority
  status : TaskStatus
  dueAt : Option Time

/-- `due_at ASC`: tasks without a date come last. -/
def Task.dueBefore (t other : Task) : Bool :=
  match t.dueAt, other.dueAt with
  | _, none => true
  | none, some _ => false
  | some due, some due' => due ≤ due'

/-- `ORDER BY priority DESC, due_at ASC` -/
def Task.precedes (t other : Task) : Bool :=
  other.priority.rank < t.priority.rank || t.priority = other.priority && t.dueBefore other

/-! ## The overview -/

structure OverviewSummary where
  checkins : ℕ
  checkouts : ℕ
  tasks : ℕ
  deriving DecidableEq

structure Overview where
  checkins : List (BookingId × Booking)
  checkouts : List (BookingId × Booking)
  tasks : List (ℕ × Task)
  summary : OverviewSummary

/-- `start_date = today` and CONFIRMED. -/
def Booking.checksInOn (today : Day) (b : Booking) : Bool :=
  b.startDate = today && b.status = .confirmed

/-- `end_date = today` and CONFIRMED or ACTIVE. -/
def Booking.checksOutOn (today : Day) (b : Booking) : Bool :=
  b.endDate = today && [.confirmed, .active].contains b.status

/-- `property_id IN (...)`, or `1=0` where there are no ids. -/
def Booking.isAtOneOf (propertyIds : List ResourceId) (b : Booking) : Bool :=
  if propertyIds.length ≠ 0 then b.propertyId.any (· ∈ propertyIds) else false

/-- The active assignments of the concierge. -/
def Store.assignmentsOf (store : Store) (conciergeId : UserId) : List ConciergeAssignment :=
  store.assignments.filter fun a => a.conciergeId = conciergeId && a.isActive

def getTodayOverview (lib : CalendarLib) (store : Store) (tasks : Table Task)
    (conciergeId : UserId) (now : Time) : Except HttpException Overview :=
  let today := lib.format now
  let assignments := store.assignmentsOf conciergeId
  let propertyIds := assignments.filterMap fun a => textOrNull a.propertyId
  let carIds := assignments.filterMap fun a => textOrNull a.carId
  if propertyIds.length = 0 ∧ carIds.length = 0 then
    .ok ⟨[], [], [], ⟨0, 0, 0⟩⟩
  else
    match lib.pgDate today with
    | none => .error .queryFailed
    | some today =>
        let checkins := store.bookings.selectWhere fun b =>
          b.checksInOn today && b.isAtOneOf propertyIds
        let checkouts := store.bookings.selectWhere fun b =>
          b.checksOutOn today && b.isAtOneOf propertyIds
        let tasks := (tasks.selectWhere fun t =>
          t.assignedTo = conciergeId && t.status ≠ .done).insertionSort
            fun t other => t.2.precedes other.2
        .ok ⟨checkins, checkouts, tasks, ⟨checkins.length, checkouts.length, tasks.length⟩⟩

/-! ## What it should list -/

/-- The concierge has an active assignment of this kind. -/
def Store.Assigns (store : Store) (conciergeId : UserId) (kind : ConciergeAssignment → Prop) :
    Prop :=
  ∃ a ∈ store.assignments, (a.conciergeId = conciergeId ∧ a.isActive = true) ∧ kind a

/-- The assignment is to the property of the booking. -/
def Booking.AtProperty (b : Booking) (a : ConciergeAssignment) : Prop :=
  ∃ propertyId, a.propertyId = some propertyId ∧ b.propertyId = some propertyId

/-- The assignment is to the car of the booking. -/
def Booking.WithCar (b : Booking) (a : ConciergeAssignment) : Prop :=
  ∃ carId, a.carId = some carId ∧ b.carId = some carId

/-- The booking is at a property or of a car that the concierge is assigned to. -/
def Store.IsAssigned (store : Store) (conciergeId : UserId) (b : Booking) : Prop :=
  store.Assigns conciergeId fun a => b.AtProperty a ∨ b.WithCar a

/-- The overview lists the bookings of the day that are assigned to the concierge, each once,
and counts what it lists. -/
structure Overview.IsComplete (o : Overview) (store : Store) (conciergeId : UserId)
    (today : Day) : Prop where
  checkins : ∀ id b, (id, b) ∈ o.checkins ↔
    store.bookings[id]? = some b ∧ b.checksInOn today = true ∧ store.IsAssigned conciergeId b
  checkouts : ∀ id b, (id, b) ∈ o.checkouts ↔
    store.bookings[id]? = some b ∧ b.checksOutOn today = true ∧ store.IsAssigned conciergeId b
  nodup : (o.checkins.map Prod.fst).Nodup ∧ (o.checkouts.map Prod.fst).Nodup
  summary : o.summary = ⟨o.checkins.length, o.checkouts.length, o.tasks.length⟩

/-! ## What it lists -/

section Overview

variable {lib : CalendarLib} {store : Store} {conciergeId : UserId}

/-- The properties whose bookings are asked for. -/
def Store.propertyIdsOf (store : Store) (conciergeId : UserId) : List ResourceId :=
  (store.assignmentsOf conciergeId).filterMap fun a => textOrNull a.propertyId

theorem mem_propertyIdsOf {propertyId : ResourceId} :
    propertyId ∈ store.propertyIdsOf conciergeId ↔
      propertyId ≠ "" ∧ store.Assigns conciergeId fun a => a.propertyId = some propertyId := by
  simp only [Store.propertyIdsOf, Store.assignmentsOf, List.mem_filterMap, List.mem_filter,
    Bool.and_eq_true, decide_eq_true_eq, textOrNull, Option.filter_eq_some_iff, Store.Assigns]
  constructor
  · rintro ⟨a, hactive, hproperty, hne⟩
    exact ⟨hne, a, hactive.1, hactive.2, hproperty⟩
  · rintro ⟨hne, a, ha, hactive, hproperty⟩
    exact ⟨a, ⟨ha, hactive⟩, hproperty, hne⟩

/-- A booking is asked for if its property, which has an id, is assigned to the concierge. -/
theorem isAtOneOf_iff {b : Booking} :
    b.isAtOneOf (store.propertyIdsOf conciergeId) = true ↔
      b.propertyId ≠ some "" ∧ store.Assigns conciergeId b.AtProperty := by
  have hany : b.isAtOneOf (store.propertyIdsOf conciergeId) = true ↔
      ∃ propertyId, b.propertyId = some propertyId ∧
        propertyId ∈ store.propertyIdsOf conciergeId := by
    unfold Booking.isAtOneOf
    split
    · simp only [Option.any_eq_true, decide_eq_true_eq]
    · next hnone =>
        rw [List.length_eq_zero_iff.mp (not_not.mp hnone)]
        simp
  simp only [hany, mem_propertyIdsOf]
  constructor
  · rintro ⟨propertyId, hb, hne, a, ha, hactive, hproperty⟩
    refine ⟨?_, a, ha, hactive, propertyId, hproperty, hb⟩
    rw [hb, Ne, Option.some.injEq]
    exact hne
  · rintro ⟨hne, a, ha, hactive, propertyId, hproperty, hb⟩
    rw [hb, Ne, Option.some.injEq] at hne
    exact ⟨propertyId, hb, hne, a, ha, hactive, hproperty⟩

/-- **What the overview lists**, the early exit included. -/
theorem getTodayOverview_eq_ok (store : Store) (tasks : Table Task) (conciergeId : UserId)
    {now : Time} {today : Day} (htoday : lib.pgDate (lib.format now) = some today) :
    ∃ o, getTodayOverview lib store tasks conciergeId now = .ok o ∧
      o.checkins = (store.bookings.selectWhere fun b =>
        b.checksInOn today && b.isAtOneOf (store.propertyIdsOf conciergeId)) ∧
      o.checkouts = (store.bookings.selectWhere fun b =>
        b.checksOutOn today && b.isAtOneOf (store.propertyIdsOf conciergeId)) ∧
      o.summary = ⟨o.checkins.length, o.checkouts.length, o.tasks.length⟩ := by
  unfold getTodayOverview
  dsimp only
  split
  · next hnone =>
      -- Without property ids the queries would select nothing.
      have hids : store.propertyIdsOf conciergeId = [] := List.length_eq_zero_iff.mp hnone.1
      have hselect : ∀ p : Booking → Bool, (store.bookings.selectWhere fun b =>
          p b && b.isAtOneOf (store.propertyIdsOf conciergeId)) = [] := by
        intro p
        rw [hids, List.eq_nil_iff_forall_not_mem]
        rintro ⟨id, b⟩ hb
        obtain ⟨-, hlisted⟩ := Table.mem_selectWhere.mp hb
        exact absurd (Bool.and_eq_true_iff.mp hlisted).2 Bool.false_ne_true
      exact ⟨_, rfl, (hselect _).symm, (hselect _).symm, rfl⟩
  · rw [htoday]
    exact ⟨_, rfl, rfl, rfl, rfl⟩

/-- **The concierge's day is complete** exactly if every booking of the day that is assigned
to the concierge is at a property that is. -/
theorem overview_complete_iff (lib : CalendarLib) (store : Store) (tasks : Table Task)
    (conciergeId : UserId) (now : Time) (htoday : IsoDay (lib.localDay now)) :
    (∃ o, getTodayOverview lib store tasks conciergeId now = .ok o ∧
        o.IsComplete store conciergeId (lib.localDay now)) ↔
      ∀ b ∈ store.bookings,
        (b.checksInOn (lib.localDay now) = true ∨ b.checksOutOn (lib.localDay now) = true) →
          store.IsAssigned conciergeId b →
            b.propertyId ≠ some "" ∧ store.Assigns conciergeId b.AtProperty := by
  obtain ⟨o, ho, hcheckins, hcheckouts, hsummary⟩ :=
    getTodayOverview_eq_ok store tasks conciergeId (lib.pgDate_isoText _ htoday)
  -- What is asked for is among what is assigned.
  have hassigned : ∀ b : Booking, store.Assigns conciergeId b.AtProperty →
      store.IsAssigned conciergeId b := by
    rintro b ⟨a, ha, hactive, hat⟩
    exact ⟨a, ha, hactive, Or.inl hat⟩
  have hmem : ∀ (p : Booking → Bool) (id : BookingId) (b : Booking),
      (id, b) ∈ (store.bookings.selectWhere fun b =>
        p b && b.isAtOneOf (store.propertyIdsOf conciergeId)) ↔
      store.bookings[id]? = some b ∧ p b = true ∧ b.propertyId ≠ some "" ∧
        store.Assigns conciergeId b.AtProperty := by
    intro p id b
    rw [Table.mem_selectWhere, Bool.and_eq_true, isAtOneOf_iff]
  constructor
  · rintro ⟨o', ho', hcomplete⟩ b hb hdue hb_assigned
    obtain rfl : o = o' := Except.ok.inj (ho.symm.trans ho')
    obtain ⟨id, hid⟩ := List.mem_iff_getElem?.mp hb
    rcases hdue with hdue | hdue
    · have hlisted := (hcomplete.checkins id b).mpr ⟨hid, hdue, hb_assigned⟩
      rw [hcheckins, hmem] at hlisted
      exact hlisted.2.2
    · have hlisted := (hcomplete.checkouts id b).mpr ⟨hid, hdue, hb_assigned⟩
      rw [hcheckouts, hmem] at hlisted
      exact hlisted.2.2
  · intro hproperties
    refine ⟨o, ho, fun id b => ?_, fun id b => ?_, ?_, hsummary⟩
    · rw [hcheckins, hmem]
      refine and_congr_right fun hid => and_congr_right fun hdue => ?_
      exact ⟨fun h => hassigned b h.2,
        hproperties b (List.mem_of_getElem? hid) (Or.inl hdue)⟩
    · rw [hcheckouts, hmem]
      refine and_congr_right fun hid => and_congr_right fun hdue => ?_
      exact ⟨fun h => hassigned b h.2,
        hproperties b (List.mem_of_getElem? hid) (Or.inr hdue)⟩
    · rw [hcheckins, hcheckouts]
      exact ⟨Table.nodup_selectWhere _ _, Table.nodup_selectWhere _ _⟩

end Overview

namespace Demo

/-- The concierge 5 looks after the house `villa` and the car `clio`. -/
def placesOf5 : Table ConciergeAssignment :=
  [⟨5, some .property, some "villa", none, 9, true⟩, ⟨5, some .car, none, some "clio", 9, true⟩]

/-- A CONFIRMED booking for the first days of July 2025. -/
def confirmedJuly (dto : CreateBookingDto) : Store :=
  let store := (create isoDates.toDateLib dto 1 0).storeAfter (Store.start placesOf5)
  { store with bookings := store.bookings.updateById 0 (Booking.withStatus .confirmed) }

/-- The request of a car for the first days of July 2025. -/
def clioInJuly : CreateBookingDto :=
  { villa "2025-07-01" "2025-07-05" with resourceType := .car, resourceId := "clio" }

/-- Noon of 1 July 2025. -/
def firstOfJuly : Time := 20270 * oneDay + 12 * hour

end Demo

section Examples

open Demo

/-- The arrival at the house is in the overview. -/
theorem overview_complete_iff_villa :
    ∃ o, getTodayOverview isoDates (confirmedJuly (villa "2025-07-01" "2025-07-05")) [] 5
        firstOfJuly = .ok o ∧ o.summary = ⟨1, 0, 0⟩ ∧
      o.IsComplete (confirmedJuly (villa "2025-07-01" "2025-07-05")) 5
        (isoDates.localDay firstOfJuly) := by
  have hrows : ∀ b ∈ (confirmedJuly (villa "2025-07-01" "2025-07-05")).bookings,
      b.propertyId = some "villa" := by
    decide +kernel
  obtain ⟨o, ho, hcomplete⟩ := (overview_complete_iff isoDates
    (confirmedJuly (villa "2025-07-01" "2025-07-05")) [] 5 firstOfJuly (by decide +kernel)).mpr (by
      intro b hb _ _
      have hplace : ⟨5, some .property, some "villa", none, 9, true⟩ ∈
          (confirmedJuly (villa "2025-07-01" "2025-07-05")).assignments := by
        decide +kernel
      rw [hrows b hb]
      exact ⟨by decide, _, hplace, ⟨rfl, rfl⟩, "villa", rfl, hrows b hb⟩)
  refine ⟨o, ho, ?_, hcomplete⟩
  have hcounts : (getTodayOverview isoDates (confirmedJuly (villa "2025-07-01" "2025-07-05")) []
      5 firstOfJuly).map Overview.summary = .ok ⟨1, 0, 0⟩ := by
    decide +kernel
  rw [ho] at hcounts
  exact Except.ok.inj hcounts

/-- **The arrival at the car is not**: the concierge looks after the car, the CONFIRMED
booking begins today, and the overview is empty. -/
theorem car_missing_from_overview :
    ∃ o b, getTodayOverview isoDates (confirmedJuly clioInJuly) [] 5 firstOfJuly = .ok o ∧
      o.checkins = [] ∧ o.checkouts = [] ∧
      (confirmedJuly clioInJuly).bookings[0]? = some b ∧
      b.checksInOn (isoDates.localDay firstOfJuly) = true ∧
      (confirmedJuly clioInJuly).IsAssigned 5 b ∧
      ¬ o.IsComplete (confirmedJuly clioInJuly) 5 (isoDates.localDay firstOfJuly) := by
  have hrow : (confirmedJuly clioInJuly).bookings[0]?.map (fun b =>
      (b.checksInOn (isoDates.localDay firstOfJuly), b.carId)) = some (true, some "clio") := by
    decide +kernel
  have hlengths : (getTodayOverview isoDates (confirmedJuly clioInJuly) [] 5 firstOfJuly).map
      (fun o => (o.checkins.length, o.checkouts.length)) = .ok (0, 0) := by
    decide +kernel
  have hplace : ⟨5, some .car, none, some "clio", 9, true⟩ ∈
      (confirmedJuly clioInJuly).assignments := by
    decide +kernel
  obtain ⟨b, hb, hcolumns⟩ := Option.map_eq_some_iff.mp hrow
  obtain ⟨hdue, hcar⟩ := Prod.mk.inj hcolumns
  obtain ⟨o, ho, hempty⟩ := exists_of_map_eq_ok hlengths
  obtain ⟨hcheckins, hcheckouts⟩ := Prod.mk.inj hempty
  have hassigned : (confirmedJuly clioInJuly).IsAssigned 5 b :=
    ⟨_, hplace, ⟨rfl, rfl⟩, Or.inr ⟨"clio", rfl, hcar⟩⟩
  refine ⟨o, b, ho, List.length_eq_zero_iff.mp hcheckins, List.length_eq_zero_iff.mp hcheckouts,
    hb, hdue, hassigned, fun hcomplete => ?_⟩
  have hlisted := (hcomplete.checkins 0 b).mpr ⟨hb, hdue, hassigned⟩
  rw [List.length_eq_zero_iff.mp hcheckins] at hlisted
  exact List.not_mem_nil hlisted

end Examples

end StayRide
