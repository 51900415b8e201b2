import StayRide.System.Platform

/-!
# The custody of deposits

What a booking says about its resource and its deposit, in its own terms: `Custody` is
the part of a booking that decides who may handle it and where its deposit is, and
`WellKept` is what this part has to satisfy.

* The booking names exactly one resource, the one of its type.
* The deposit is `NONE` exactly when there is none to collect.
* A deposit that has left `PENDING` was collected, at some time, by a concierge with an
  active assignment to the resource.

`CustodyKept` relates two moments: assignments and the terms of a booking stay, and a
deposit that was collected stays collected, although its status may be written back.
Only four commands touch any of this (`custodiesAfter`), and each of them keeps it where
its caller has made sure of what it needs.
-/

namespace StayRide

open Lib

/-- The resource and the deposit of a booking. -/
@[ext] structure Custody where
  resourceType : ResourceType
  propertyId : Option ResourceId
  carId : Option ResourceId
  depositAmount : Amount
  depositStatus : DepositStatus
  collectedAt : Option Time
  collectedBy : Option UserId

def Booking.custody (b : Booking) : Custody where
  resourceType := b.resourceType
  propertyId := b.propertyId
  carId := b.carId
  depositAmount := b.depositAmount
  depositStatus := b.depositStatus
  collectedAt := b.depositCollectedAt
  collectedBy := b.depositCollectedBy

def Backend.custodies (backend : Backend) : Table Custody :=
  backend.bookings.map Booking.custody

namespace Custody

/-- What is agreed when the booking is made and never changes. -/
def terms (x : Custody) : ResourceType × Option ResourceId × Option ResourceId × Amount :=
  (x.resourceType, x.propertyId, x.carId, x.depositAmount)

/-- Exactly one resource is named, by a text that is not empty. -/
def HasResource (x : Custody) : Prop :=
  match x.resourceType with
  | .property => (∃ id, x.propertyId = some id ∧ id ≠ "") ∧ x.carId = none
  | .car => x.propertyId = none ∧ ∃ id, x.carId = some id ∧ id ≠ ""

/-- The table holds an active assignment of the concierge to exactly this resource. -/
def AssignedTo (x : Custody) (assignments : Table ConciergeAssignment)
    (conciergeId : UserId) : Prop :=
  ∃ (k : ℕ) (a : ConciergeAssignment), assignments[k]? = some a ∧
    a.conciergeId = conciergeId ∧ a.isActive = true ∧
    match x.resourceType with
    | .property => ∃ id, x.propertyId = some id ∧ a.propertyId = some id
    | .car => ∃ id, x.carId = some id ∧ a.carId = some id

/-- The deposit was collected by a concierge of the resource. -/
def Collected (x : Custody) (assignments : Table ConciergeAssignment) : Prop :=
  x.collectedAt ≠ none ∧ ∃ conciergeId, x.collectedBy = some conciergeId ∧
    x.AssignedTo assignments conciergeId

/-- The status `status` fits a booking with these terms and this history. -/
structure Fits (x : Custody) (assignments : Table ConciergeAssignment)
    (status : DepositStatus) : Prop where
  none_iff : status = .none ↔ x.depositAmount.toRat = 0
  range : status ∈ [DepositStatus.none, .pending, .held, .underReview]
  collected : status = .held ∨ status = .underReview → x.Collected assignments

/-- What every booking satisfies. -/
structure WellKept (x : Custody) (assignments : Table ConciergeAssignment) : Prop where
  resource : x.HasResource
  status : x.Fits assignments x.depositStatus

/-- The deposit is marked as collected. -/
def hold (conciergeId : UserId) (now : Time) (x : Custody) : Custody :=
  { x with depositStatus := .held, collectedAt := some now, collectedBy := some conciergeId }

/-- The status is written back from one that was seen earlier. -/
def checkOut (seen : DepositStatus) (x : Custody) : Custody :=
  { x with depositStatus := if seen = .held then .underReview else seen }

/-! ## What depends on the terms only -/

variable {x y : Custody} {assignments assignments' : Table ConciergeAssignment}

theorem AssignedTo.mono {conciergeId : UserId} (h : x.AssignedTo assignments conciergeId)
    (hterms : y.terms = x.terms)
    (hkept : ∀ (k : ℕ) (a : ConciergeAssignment), assignments[k]? = some a →
      assignments'[k]? = some a) : y.AssignedTo assignments' conciergeId := by
  obtain ⟨k, a, ha, hconcierge, hactive, hnames⟩ := h
  simp only [terms, Prod.mk.injEq] at hterms
  obtain ⟨htype, hproperty, hcar, -⟩ := hterms
  refine ⟨k, a, hkept k a ha, hconcierge, hactive, ?_⟩
  rw [htype, hproperty, hcar]
  exact hnames

theorem HasResource.congr (h : x.HasResource) (hterms : y.terms = x.terms) :
    y.HasResource := by
  simp only [terms, Prod.mk.injEq] at hterms
  obtain ⟨htype, hproperty, hcar, -⟩ := hterms
  unfold HasResource
  rw [htype, hproperty, hcar]
  exact h

/-- A status that fitted still fits when a collected deposit stays collected. -/
theorem Fits.mono {status : DepositStatus} (h : x.Fits assignments status)
    (hterms : y.terms = x.terms)
    (hcollected : x.Collected assignments → y.Collected assignments') :
    y.Fits assignments' status := by
  simp only [terms, Prod.mk.injEq] at hterms
  obtain ⟨-, -, -, hamount⟩ := hterms
  exact ⟨by rw [hamount]; exact h.none_iff, h.range, fun hs => hcollected (h.collected hs)⟩

/-! ## The three writes -/

/-- The access check admits only concierges of the resource. -/
theorem assignedTo_of_covers {b : Booking} {conciergeId : UserId} {k : ℕ}
    {a : ConciergeAssignment} (hb : b.custody.HasResource) (ha : assignments[k]? = some a)
    (hcovers : a.covers conciergeId b = true) :
    b.custody.AssignedTo assignments conciergeId := by
  unfold HasResource at hb
  simp only [ConciergeAssignment.covers, Bool.and_eq_true, decide_eq_true_eq] at hcovers
  obtain ⟨⟨hconcierge, hactive⟩, hresource⟩ := hcovers
  refine ⟨k, a, ha, hconcierge, hactive, ?_⟩
  cases htype : b.custody.resourceType with
  | property =>
      rw [htype] at hb
      obtain ⟨⟨id, hid, hne⟩, -⟩ := hb
      have hproperty : b.propertyId = some id := hid
      have htext : textOrNull b.propertyId = some id := by simp [textOrNull, hproperty, hne]
      rw [htext] at hresource
      exact ⟨id, hid, by simpa using hresource⟩
  | car =>
      rw [htype] at hb
      obtain ⟨hnone, id, hid, -⟩ := hb
      have hproperty : b.propertyId = none := hnone
      have hcar : b.carId = some id := hid
      have htext : textOrNull b.propertyId = none := by simp [textOrNull, hproperty]
      rw [htext, hcar] at hresource
      exact ⟨id, hid, by simpa using hresource⟩

theorem WellKept.hold (h : x.WellKept assignments) {conciergeId : UserId}
    (hassigned : x.AssignedTo assignments conciergeId) (hamount : x.depositAmount.toRat ≠ 0)
    (now : Time) :
    (x.hold conciergeId now).WellKept assignments ∧
      (x.hold conciergeId now).Collected assignments := by
  have hcollected : (x.hold conciergeId now).Collected assignments :=
    ⟨Option.some_ne_none _, conciergeId, rfl, hassigned.mono rfl fun _ _ => id⟩
  have hfits : (x.hold conciergeId now).Fits assignments .held :=
    ⟨iff_of_false (fun h => nomatch h) hamount, by decide, fun _ => hcollected⟩
  exact ⟨⟨h.resource.congr rfl, hfits⟩, hcollected⟩

theorem Collected.checkOut (h : x.Collected assignments) (seen : DepositStatus) :
    (x.checkOut seen).Collected assignments := by
  obtain ⟨hat, conciergeId, hby, hassigned⟩ := h
  exact ⟨hat, conciergeId, hby, hassigned.mono rfl fun _ _ => id⟩

theorem WellKept.checkOut (h : x.WellKept assignments) {seen : DepositStatus}
    (hseen : x.Fits assignments seen) : (x.checkOut seen).WellKept assignments := by
  have hfits : (x.checkOut seen).Fits assignments seen :=
    hseen.mono rfl fun hc => hc.checkOut seen
  refine ⟨h.resource.congr rfl, ?_⟩
  show (x.checkOut seen).Fits assignments (if seen = .held then .underReview else seen)
  by_cases hheld : seen = .held
  · -- What was held has an amount and was collected, which is all that a review needs.
    rw [if_pos hheld]
    have hamount : ¬ x.depositAmount.toRat = 0 := fun hzero =>
      nomatch hheld.symm.trans (hseen.none_iff.mpr hzero)
    exact ⟨iff_of_false (fun h => nomatch h) hamount, by decide,
      fun _ => hfits.collected (.inl hheld)⟩
  · rw [if_neg hheld]
    exact hfits

/-- The deposit that `create` stores: none for a property, 50000 for a car. -/
private theorem depositAmount_of_newBooking {lib : DateLib} {dto : CreateBookingDto}
    {price : PriceColumns} (h : (calculatePrice lib dto).toColumns = some price) :
    price.depositAmount.toRat = 0 ∨ price.depositAmount.toRat = 50000 := by
  have hdeposit : Decimal.ofRat (calculatePrice lib dto).depositAmount =
      some price.depositAmount := by
    simp only [PriceCalculation.toColumns, Option.bind_eq_bind, Option.bind_eq_some_iff,
      Option.pure_def, Option.some.injEq] at h
    obtain ⟨_, _, _, _, _, _, _, _, _, _, depositAmount, hd, rfl⟩ := h
    exact hd
  cases htype : dto.resourceType with
  | property =>
      simp only [calculatePrice, htype, calculateBookingPrice] at hdeposit
      exact .inl (Decimal.toRat_eq_of_scale (n := 0) (by norm_num) hdeposit)
  | car =>
      simp only [calculatePrice, htype, calculateCarRentalPrice] at hdeposit
      exact .inr (Decimal.toRat_eq_of_scale (n := 5000000) (by norm_num) hdeposit)

/-- A new booking. -/
theorem wellKept_of_newBooking {lib : DateLib} {dto : CreateBookingDto} {customerId : UserId}
    {now : Time} {booking : Booking} (hdto : dto.resourceId ≠ "")
    (h : newBooking lib dto customerId now = some booking)
    (assignments : Table ConciergeAssignment) : booking.custody.WellKept assignments := by
  unfold newBooking at h
  split at h
  swap
  · cases h
  next s e price hs he hprice =>
    obtain rfl := Option.some.inj h
    constructor
    · unfold HasResource
      cases htype : dto.resourceType <;> simp [Booking.custody, bookingRow, htype, hdto]
    · show Fits _ assignments (if 0 < price.depositAmount.toRat then .pending else .none)
      rcases depositAmount_of_newBooking hprice with hamount | hamount
      · rw [if_neg (by rw [hamount]; exact lt_irrefl 0)]
        exact ⟨iff_of_true rfl hamount, by decide, fun h => by rcases h with h | h <;> cases h⟩
      · rw [if_pos (by rw [hamount]; norm_num)]
        have hne : ¬ price.depositAmount.toRat = 0 := by rw [hamount]; norm_num
        exact ⟨iff_of_false (by decide) hne, by decide,
          fun h => by rcases h with h | h <;> cases h⟩

/-- More assignments do no harm. -/
theorem Collected.mono (h : x.Collected assignments)
    (hkept : ∀ (k : ℕ) (a : ConciergeAssignment), assignments[k]? = some a →
      assignments'[k]? = some a) : x.Collected assignments' := by
  obtain ⟨hat, conciergeId, hby, hassigned⟩ := h
  exact ⟨hat, conciergeId, hby, hassigned.mono rfl hkept⟩

end Custody

/-! ## What the commands do -/

/-- The custodies after a command that was carried out: everything but a new booking, a
collection and a check-out leaves them alone. -/
def Command.custodiesAfter (backend : Backend) : Command → Table Custody
  | .insertBooking booking => backend.custodies.insertRow booking.custody
  | .updateBooking id (.depositHeld conciergeId _ now) =>
      backend.custodies.updateById id (Custody.hold conciergeId now)
  | .updateBooking id (.checkedOut read _) =>
      backend.custodies.updateById id (Custody.checkOut read.depositStatus)
  | _ => backend.custodies

theorem Command.custodies_reply (c : Command) (backend : Backend) :
    (Program.reply Command.handle none c backend).1.custodies = c.custodiesAfter backend := by
  rw [Backend.custodies, (reply_tables none c backend).1, if_pos rfl]
  cases c with
  | insertBooking booking => exact Table.map_insertRow backend.bookings booking
  | updateBooking id update =>
      cases update with
      | status | cancelled | completed | checkedIn =>
          refine Table.map_updateById_of_eq ?_ backend.bookings id
          exact fun _ => rfl
      | depositHeld | checkedOut =>
          refine Table.map_updateById ?_ backend.bookings id
          exact fun _ => rfl
  | settle paymentId payment bookingId status =>
      refine Table.map_updateById_of_eq ?_ backend.bookings bookingId
      exact fun _ => rfl
  | autoCompleteBookings | cancelExpiredPendingBookings =>
      refine Table.map_updateWhere_of_eq ?_ backend.bookings _
      exact fun _ => rfl
  | _ => rfl

/-! ## The protocol -/

/-- From one moment to a later one. -/
structure CustodyKept (before after : Backend) : Prop where
  assignments : ∀ (k : ℕ) (a : ConciergeAssignment), before.assignments[k]? = some a →
    after.assignments[k]? = some a
  custodies : ∀ (id : BookingId) (x : Custody), before.custodies[id]? = some x →
    ∃ y, after.custodies[id]? = some y ∧ y.terms = x.terms ∧
      (x.Collected before.assignments → y.Collected after.assignments)

/-- Every booking is well kept, and stays in custody. -/
def custodyProtocol : Protocol Backend where
  inv backend := ∀ (id : BookingId) (x : Custody), backend.custodies[id]? = some x →
    x.WellKept backend.assignments
  rely := CustodyKept
  refl _ := ⟨fun _ _ h => h, fun _ x h => ⟨x, h, rfl, fun h => h⟩⟩
  trans h h' := by
    refine ⟨fun k a ha => h'.assignments k a (h.assignments k a ha), fun id x hx => ?_⟩
    obtain ⟨y, hy, hterms, hcollected⟩ := h.custodies id x hx
    obtain ⟨z, hz, hterms', hcollected'⟩ := h'.custodies id y hy
    exact ⟨z, hz, hterms'.trans hterms, fun hx => hcollected' (hcollected hx)⟩

/-- The command keeps the protocol in this state, whether it is carried out or not. -/
def Command.KeepsCustody (c : Command) (backend : Backend) : Prop :=
  ∀ failure, custodyProtocol.inv (Program.reply Command.handle failure c backend).1 ∧
    CustodyKept backend (Program.reply Command.handle failure c backend).1

namespace Command

variable {c : Command} {backend : Backend}

/-- It is enough to look at the two tables after the command. -/
private theorem keepsCustody_of_tables (hinv : custodyProtocol.inv backend)
    (hassignments : ∀ (k : ℕ) (a : ConciergeAssignment), backend.assignments[k]? = some a →
      (c.assignmentsAfter backend)[k]? = some a)
    (hkept : ∀ (id : BookingId) (y : Custody), (c.custodiesAfter backend)[id]? = some y →
      y.WellKept (c.assignmentsAfter backend))
    (hcustodies : ∀ (id : BookingId) (x : Custody), backend.custodies[id]? = some x →
      ∃ y, (c.custodiesAfter backend)[id]? = some y ∧ y.terms = x.terms ∧
        (x.Collected backend.assignments → y.Collected (c.assignmentsAfter backend))) :
    c.KeepsCustody backend := by
  intro failure
  cases failure with
  | some e => exact ⟨hinv, custodyProtocol.refl backend⟩
  | none =>
      have hc := c.custodies_reply backend
      have ha : (Program.reply handle none c backend).1.assignments =
          c.assignmentsAfter backend := by
        rw [(reply_tables none c backend).2, if_pos rfl]
      refine ⟨fun id y hy => ?_, fun k a h => ?_, fun id x hx => ?_⟩
      · rw [ha]
        exact hkept id y (hc ▸ hy)
      · rw [ha]
        exact hassignments k a h
      · rw [ha, hc]
        exact hcustodies id x hx

/-- The commands that leave the custodies and the assignments alone. -/
def isQuiet : Command → Bool
  | .insertBooking _ | .insertAssignment _ | .updateBooking _ (.depositHeld _ _ _)
  | .updateBooking _ (.checkedOut _ _) => false
  | _ => true

theorem tables_of_isQuiet (h : c.isQuiet = true) (backend : Backend) :
    c.custodiesAfter backend = backend.custodies ∧
      c.assignmentsAfter backend = backend.assignments := by
  cases c with
  | insertBooking | insertAssignment => cases h
  | updateBooking id update =>
      cases update with
      | depositHeld | checkedOut => cases h
      | _ => exact ⟨rfl, rfl⟩
  | _ => exact ⟨rfl, rfl⟩

theorem keepsCustody_of_isQuiet (h : c.isQuiet = true) (hinv : custodyProtocol.inv backend) :
    c.KeepsCustody backend := by
  obtain ⟨hc, ha⟩ := tables_of_isQuiet h backend
  refine keepsCustody_of_tables hinv ?_ ?_ ?_
  · rw [ha]
    exact fun _ _ h => h
  · rw [hc, ha]
    exact hinv
  · rw [hc, ha]
    exact fun _ x hx => ⟨x, hx, rfl, fun h => h⟩

theorem keepsCustody_insertAssignment (hinv : custodyProtocol.inv backend)
    (assignment : ConciergeAssignment) :
    (insertAssignment assignment).KeepsCustody backend := by
  have hassignments : ∀ (k : ℕ) (a : ConciergeAssignment), backend.assignments[k]? = some a →
      (backend.assignments.insertRow assignment)[k]? = some a :=
    fun k a h => Table.getElem?_insertRow_of_some assignment h
  refine keepsCustody_of_tables hinv hassignments (fun id x hx => ?_) fun id x hx => ?_
  · obtain ⟨hresource, hstatus⟩ := hinv id x hx
    exact ⟨hresource, hstatus.mono rfl fun h => h.mono hassignments⟩
  · exact ⟨x, hx, rfl, fun h => h.mono hassignments⟩

theorem keepsCustody_insertBooking (hinv : custodyProtocol.inv backend) {booking : Booking}
    (hnew : booking.custody.WellKept backend.assignments) :
    (insertBooking booking).KeepsCustody backend := by
  refine keepsCustody_of_tables hinv (fun _ _ h => h) (fun id y hy => ?_) fun id x hx => ?_
  · rcases Table.getElem?_insertRow_eq_some.mp hy with hy | ⟨-, rfl⟩
    · exact hinv id y hy
    · exact hnew
  · exact ⟨x, Table.getElem?_insertRow_of_some booking.custody hx, rfl, fun h => h⟩

/-- An update of one row. -/
private theorem keepsCustody_updateRow (hinv : custodyProtocol.inv backend) {id : BookingId}
    {f : Custody → Custody} (hc : c.custodiesAfter backend = backend.custodies.updateById id f)
    (ha : c.assignmentsAfter backend = backend.assignments)
    (hf : ∀ x, backend.custodies[id]? = some x → (f x).WellKept backend.assignments ∧
      (f x).terms = x.terms ∧
      (x.Collected backend.assignments → (f x).Collected backend.assignments)) :
    c.KeepsCustody backend := by
  refine keepsCustody_of_tables hinv (by rw [ha]; exact fun _ _ h => h) ?_ ?_
  · rw [hc, ha]
    intro i y hy
    obtain ⟨x, hx, rfl⟩ := Table.getElem?_updateById_eq_some.mp hy
    by_cases hi : i = id
    · subst hi
      simpa only [if_true] using (hf x hx).1
    · simpa only [if_neg hi] using hinv i x hx
  · rw [hc, ha]
    intro i x hx
    refine ⟨_, Table.getElem?_updateById_eq_some.mpr ⟨x, hx, rfl⟩, ?_⟩
    by_cases hi : i = id
    · subst hi
      simpa only [if_true] using (hf x hx).2
    · rw [if_neg hi]
      exact ⟨rfl, fun h => h⟩

theorem keepsCustody_hold (hinv : custodyProtocol.inv backend) {id : BookingId}
    {conciergeId : UserId} {proofUrl : Option String} {now : Time}
    (hassigned : ∀ x, backend.custodies[id]? = some x →
      x.AssignedTo backend.assignments conciergeId ∧ x.depositAmount.toRat ≠ 0) :
    (updateBooking id (.depositHeld conciergeId proofUrl now)).KeepsCustody backend := by
  refine keepsCustody_updateRow hinv rfl rfl fun x hx => ?_
  obtain ⟨hkept, hcollected⟩ :=
    (hinv id x hx).hold (hassigned x hx).1 (hassigned x hx).2 now
  exact ⟨hkept, rfl, fun _ => hcollected⟩

theorem keepsCustody_checkOut (hinv : custodyProtocol.inv backend) {id : BookingId}
    {read : Booking} {now : Time}
    (hseen : ∀ x, backend.custodies[id]? = some x →
      x.Fits backend.assignments read.depositStatus) :
    (updateBooking id (.checkedOut read now)).KeepsCustody backend := by
  refine keepsCustody_updateRow hinv rfl rfl fun x hx => ?_
  exact ⟨(hinv id x hx).checkOut (hseen x hx), rfl, fun h => h.checkOut _⟩

end Command

end StayRide
