import StayRide.Bookings.CreateLocks

/-!
# Races between `create` requests

Any number of requests for one property or car, in any interleaving, without
expiring locks.  `noDoubleBooking_reach_iff`: the days are never sold twice if and
only if any two requests that could be booked at the start and whose ranges of days
intersect take the same lock.  The key of the lock holds the two dates as texts, so
requests for overlapping but different ranges, or for one range written in two ways,
do not exclude each other, and both checks of both can come before both inserts.
-/

namespace StayRide

open Lib

variable {ι : Type} (lib : DateLib) (req : ι → CreateRequest)

/-- The requests are for one resource, and their texts are the dates of non-empty
ranges of days. -/
structure OneResource (resourceType : ResourceType) (resourceId : ResourceId)
    (first last : ι → Day) : Prop where
  resourceType_eq : ∀ i, (req i).dto.resourceType = resourceType
  resourceId_eq : ∀ i, (req i).dto.resourceId = resourceId
  startDate_eq : ∀ i, lib.pgDate (req i).dto.startDate = some (first i)
  endDate_eq : ∀ i, lib.pgDate (req i).dto.endDate = some (last i)
  nonempty : ∀ i, first i < last i

/-- No lock expires. -/
def NoExpiry (_ : CreateConfig ι) : CreateMove ι → Prop
  | .process _ _ => True
  | .environment _ => False

/-- At the start the request could be booked: its days are available, its lock is free,
and the database accepts its row. -/
def Bookable (desk : Desk ι) (i : ι) : Prop :=
  (req i).check lib desk.bookings = .ok true ∧ desk.redis (req i).lock = none ∧
    ∃ now booking, (req i).row lib now = some booking

section Requests

variable {lib req} {resourceType : ResourceType} {resourceId : ResourceId}
  {first last : ι → Day}

namespace OneResource

variable (h : OneResource lib req resourceType resourceId first last)
include h

/-- The check of a request is the availability of its days. -/
theorem check_eq (i : ι) (bookings : Table Booking) :
    (req i).check lib bookings =
      .ok (isAvailable bookings resourceId resourceType (first i) (last i)) := by
  unfold CreateRequest.check checkAvailability
  rw [h.startDate_eq, h.endDate_eq, h.resourceId_eq, h.resourceType_eq]

/-- The check passes when no booking conflicts. -/
theorem check_eq_true {i : ι} {bookings : Table Booking} :
    (req i).check lib bookings = .ok true ↔
      ∀ (k : ℕ) (b : Booking), bookings[k]? = some b →
        b.conflictsWith resourceId resourceType (first i) (last i) = false := by
  rw [h.check_eq, Except.ok.injEq]
  exact isAvailable_eq_true

/-- More bookings make nothing available. -/
theorem check_of_append {i : ι} {bookings extra : Table Booking}
    (hcheck : (req i).check lib (bookings ++ extra) = .ok true) :
    (req i).check lib bookings = .ok true := by
  rw [h.check_eq_true] at hcheck ⊢
  intro k b hb
  have hlt : k < bookings.length := (List.getElem?_eq_some_iff.mp hb).1
  exact hcheck k b (by rw [List.getElem?_append_left hlt, hb])

/-- The row of a request claims its days. -/
theorem row_eq {i : ι} {now : Time} {booking : Booking}
    (hrow : (req i).row lib now = some booking) :
    booking.startDate = first i ∧ booking.endDate = last i ∧ booking.status = .pending ∧
      booking.isOf resourceType resourceId = true := by
  obtain ⟨s, e, price, hs, he, rfl⟩ := newBooking_eq_some hrow
  rw [h.startDate_eq, Option.some.injEq] at hs
  rw [h.endDate_eq, Option.some.injEq] at he
  refine ⟨hs.symm, he.symm, rfl, ?_⟩
  rw [← h.resourceType_eq i, ← h.resourceId_eq i]
  cases htype : (req i).dto.resourceType <;>
    simp [Booking.isOf, bookingRow, htype]

/-- The database accepts a row whose prices fit their columns. -/
theorem row_ne_none {i : ι} (now : Time)
    (hprice : (calculatePrice lib (req i).dto).toColumns ≠ none) :
    (req i).row lib now ≠ none := by
  obtain ⟨price, hprice⟩ := Option.ne_none_iff_exists'.mp hprice
  rw [CreateRequest.row, newBooking, h.startDate_eq, h.endDate_eq, hprice]
  exact Option.some_ne_none _

/-- The rows of two requests conflict exactly when their days intersect. -/
theorem conflictsWith_iff {i j : ι} {now : Time} {booking : Booking}
    (hrow : (req j).row lib now = some booking) :
    booking.conflictsWith resourceId resourceType (first i) (last i) = true ↔
      ¬ Disjoint (Set.Ico (first i) (last i)) (Set.Ico (first j) (last j)) := by
  obtain ⟨hstart, hend, hstatus, hof⟩ := h.row_eq hrow
  rw [disjoint_iff_not_overlap (h.nonempty i) (h.nonempty j), not_not]
  unfold Booking.conflictsWith
  rw [hstart, hend, hstatus, hof, Bool.and_true, show BookingStatus.pending.blocksDates = true
    from rfl, Bool.true_and, Bool.and_eq_true, decide_eq_true_iff, decide_eq_true_iff]
  exact and_comm

/-- Where two rows stand next to each other without a double booking, their days are
disjoint. -/
theorem disjoint_of_inserted {i j : ι} {ti tj : Time} {bi bj : Booking}
    {bookings : Table Booking} (hrowI : (req i).row lib ti = some bi)
    (hrowJ : (req j).row lib tj = some bj)
    (hfree : NoDoubleBooking (((bookings.insertRow bi).insertRow bj).map Booking.stay)) :
    Disjoint (Set.Ico (first i) (last i)) (Set.Ico (first j) (last j)) := by
  obtain ⟨hstartI, hendI, hstatusI, hofI⟩ := h.row_eq hrowI
  obtain ⟨hstartJ, hendJ, hstatusJ, hofJ⟩ := h.row_eq hrowJ
  have hposI : ((bookings.insertRow bi).insertRow bj)[bookings.length]? = some bi :=
    Table.getElem?_insertRow_of_some bj (Table.getElem?_insertRow_self bookings bi)
  have hposJ : ((bookings.insertRow bi).insertRow bj)[bookings.length + 1]? = some bj := by
    rw [← Table.length_insertRow bookings bi]
    exact Table.getElem?_insertRow_self _ bj
  have hcompatible := hfree bookings.length (bookings.length + 1) bi.stay bj.stay (by omega)
    (by rw [List.getElem?_map, hposI, Option.map_some])
    (by rw [List.getElem?_map, hposJ, Option.map_some])
  have hdisjoint : Disjoint bi.stay.range bj.stay.range := by
    refine hcompatible ?_ ?_ ⟨resourceType, resourceId, ?_, ?_⟩
    · rw [show bi.stay.status = bi.status from rfl, hstatusI]
      rfl
    · rw [show bj.stay.status = bj.status from rfl, hstatusJ]
      rfl
    · exact (bi.stay_isOf resourceType resourceId).mpr hofI
    · exact (bj.stay_isOf resourceType resourceId).mpr hofJ
  rw [show bi.stay.range = Set.Ico bi.startDate bi.endDate from rfl,
    show bj.stay.range = Set.Ico bj.startDate bj.endDate from rfl, hstartI, hendI, hstartJ,
    hendJ] at hdisjoint
  exact hdisjoint

end OneResource

/-- A row inserted where the check passes keeps the calendar. -/
theorem CreateRequest.noDoubleBooking_insertRow {i : ι} {now : Time} {booking : Booking}
    {bookings : Table Booking} (hrow : (req i).row lib now = some booking)
    (hcheck : (req i).check lib bookings = .ok true)
    (hfree : NoDoubleBooking (bookings.map Booking.stay)) :
    NoDoubleBooking ((bookings.insertRow booking).map Booking.stay) := by
  obtain ⟨s, e, price, hs, he, rfl⟩ := newBooking_eq_some hrow
  rw [Table.map_insertRow, NoDoubleBooking,
    Table.PairwiseRows.insertRow_iff Stay.Compatible.symm hfree]
  intro k other hother
  rw [List.getElem?_map, Option.map_eq_some_iff] at hother
  obtain ⟨b, hb, rfl⟩ := hother
  refine bookingRow_compatible ?_ hb
  rw [CreateRequest.check, checkAvailability, hs, he, Except.ok.injEq] at hcheck
  exact hcheck

end Requests

/-! ## The invariant of a race -/

section Race

variable (start : Desk ι)

/-- What holds of a request at its program point, with the bookings as they are. -/
structure RequestOk (bookings : Table Booking) (i : ι) (pc : CreatePc) : Prop where
  /-- A lock that was acquired was free at the start. -/
  free : pc.inSection = true → start.redis (req i).lock = none
  /-- The days of a request that has passed its first check were available at the
  start. -/
  passed : pc = .acquireLock ∨ pc.inSection = true →
    (req i).check lib start.bookings = .ok true
  /-- Where a row is about to be inserted the days are available. -/
  ready : pc = .insert → (∃ now booking, (req i).row lib now = some booking) →
    (req i).check lib bookings = .ok true

/-- What holds in every state of a race in which intersecting requests share a lock. -/
structure Race (c : CreateConfig ι) : Prop where
  owned : Owned req c
  /-- Bookings are only added. -/
  grown : ∃ extra, c.shared.bookings = start.bookings ++ extra
  /-- A lock that was taken at the start stays taken. -/
  kept : ∀ key entry, start.redis (Redis.lockName key) = some entry →
    c.shared.redis (Redis.lockName key) = some entry
  requests : ∀ i, RequestOk lib req start c.shared.bookings i (c.pc i)
  sound : NoDoubleBooking (c.shared.bookings.map Booking.stay)

variable {lib req start} {resourceType : ResourceType} {resourceId : ResourceId}
  {first last : ι → Day}

/-- A request that is done has nothing left to hold. -/
theorem requestOk_done (bookings : Table Booking) (i : ι) (result : CreateResult) :
    RequestOk lib req start bookings i (.done result) where
  free h := by cases h
  passed h := by rcases h with h | h <;> cases h
  ready h := by cases h

/-- A request that leaves the lock section has nothing left to hold but its lock. -/
theorem RequestOk.leave {bookings bookings' : Table Booking} {i : ι} {pc : CreatePc}
    (h : RequestOk lib req start bookings i pc) (hpc : pc.inSection = true)
    (result : CreateResult) : RequestOk lib req start bookings' i (.releaseLock result) where
  free _ := h.free hpc
  passed _ := h.passed (Or.inr hpc)
  ready h := by cases h

/-- Requests that could be booked at the start and want intersecting days share a
lock. -/
def SharedLocks (lib : DateLib) (req : ι → CreateRequest) (start : Desk ι)
    (first last : ι → Day) : Prop :=
  ∀ i j, i ≠ j → Bookable lib req start i → Bookable lib req start j →
    ¬ Disjoint (Set.Ico (first i) (last i)) (Set.Ico (first j) (last j)) →
      (req i).dto.lockKey = (req j).dto.lockKey

/-- A request at work whose row the database accepts could be booked at the start. -/
theorem Race.bookable {c : CreateConfig ι} (h : Race lib req start c) {i : ι}
    (hi : (c.pc i).inSection = true) (hrow : ∃ now booking, (req i).row lib now = some booking) :
    Bookable lib req start i :=
  ⟨(h.requests i).passed (Or.inr hi), (h.requests i).free hi, hrow⟩

/-- An insertion leaves the days of every other request about to insert available. -/
theorem Race.ready_insertRow (hres : OneResource lib req resourceType resourceId first last)
    (hshared : SharedLocks lib req start first last) {c : CreateConfig ι}
    (h : Race lib req start c) {i j : ι} (hij : i ≠ j) (hi : c.pc i = .insert)
    (hj : c.pc j = .insert) {now : Time} {booking : Booking}
    (hrow : (req j).row lib now = some booking)
    (hpriced : ∃ now booking, (req i).row lib now = some booking) :
    (req i).check lib (c.shared.bookings.insertRow booking) = .ok true := by
  have hworkI : (c.pc i).inSection = true := by rw [hi]; rfl
  have hworkJ : (c.pc j).inSection = true := by rw [hj]; rfl
  rw [hres.check_eq_true]
  intro k b hb
  rcases Table.getElem?_insertRow_eq_some.mp hb with hold | ⟨_, rfl⟩
  · exact hres.check_eq_true.mp ((h.requests i).ready hi hpriced) k b hold
  · -- A conflict would make the two requests share a lock that both hold.
    by_contra hconflict
    rw [Bool.not_eq_false, hres.conflictsWith_iff hrow] at hconflict
    have hkey := hshared i j hij (h.bookable hworkI hpriced)
      (h.bookable hworkJ ⟨now, b, hrow⟩) hconflict
    exact h.owned.lock_ne hij hworkI hworkJ (congrArg Redis.lockName hkey)

/-- A lock that is free was free at the start. -/
theorem Race.free_at_start {c : CreateConfig ι} (h : Race lib req start c) {i : ι}
    (hfree : c.shared.redis (req i).lock = none) : start.redis (req i).lock = none := by
  cases hstart : start.redis (req i).lock with
  | none => rfl
  | some entry =>
      have hkept : c.shared.redis (req i).lock = some entry := h.kept _ entry hstart
      rw [hfree] at hkept
      cases hkept

/-- Days that are available now were available at the start. -/
theorem Race.check_at_start (hres : OneResource lib req resourceType resourceId first last)
    {c : CreateConfig ι} (h : Race lib req start c) {i : ι}
    (hcheck : (req i).check lib c.shared.bookings = .ok true) :
    (req i).check lib start.bookings = .ok true := by
  obtain ⟨extra, hextra⟩ := h.grown
  rw [hextra] at hcheck
  exact hres.check_of_append hcheck

variable [DecidableEq ι]

/-- **One step** of a request keeps the race in order. -/
theorem Race.step (hres : OneResource lib req resourceType resourceId first last)
    (hshared : SharedLocks lib req start first last) {c : CreateConfig ι}
    (h : Race lib req start c) {i : ι} {attempt : Attempt} {desk : Desk ι} {pc : CreatePc}
    (hstep : CreateStep lib req i attempt c.shared (c.pc i) desk pc) :
    Race lib req start ⟨desk, Function.update c.pc i pc⟩ := by
  have howned := h.owned.step hstep
  have hself := h.requests i
  -- The step changes the program point of `i` only.
  have hquiet : ∀ {pc' : CreatePc}, RequestOk lib req start c.shared.bookings i pc' →
      ∀ k, RequestOk lib req start c.shared.bookings k (Function.update c.pc i pc' k) := by
    intro pc' hok
    exact (Function.forall_update_iff c.pc fun k p =>
      RequestOk lib req start c.shared.bookings k p).mpr ⟨hok, fun k _ => h.requests k⟩
  -- A lock that was taken at the start is not one that `i` releases.
  have hkept : ∀ key entry, start.redis (Redis.lockName key) = some entry →
      desk.redis (Redis.lockName key) = some entry := by
    intro key entry hentry
    rcases hstep.entry_kept (h.kept key entry hentry) with hkept | ⟨result, hpc, hlock⟩
    · exact hkept
    · have hfree := hself.free (by rw [hpc]; rfl)
      rw [← hlock, hentry] at hfree
      cases hfree
  generalize hpc : c.pc i = old at hstep hself
  cases hstep with
  | pass hcheck =>
      refine ⟨howned, h.grown, hkept, hquiet ?_, h.sound⟩
      exact ⟨fun hk => (by cases hk), fun _ => h.check_at_start hres hcheck,
        fun hk => (by cases hk)⟩
  | refuse | wait | strand | release =>
      exact ⟨howned, h.grown, hkept, hquiet (requestOk_done _ _ _), h.sound⟩
  | acquire hfree =>
      refine ⟨howned, h.grown, hkept, hquiet ?_, h.sound⟩
      exact ⟨fun _ => h.free_at_start hfree, fun _ => hself.passed (Or.inl rfl),
        fun hk => by cases hk⟩
  | confirm hcheck =>
      refine ⟨howned, h.grown, hkept, hquiet ?_, h.sound⟩
      exact ⟨fun _ => hself.free rfl, fun _ => hself.passed (Or.inr rfl), fun _ _ => hcheck⟩
  | lose | abort => exact ⟨howned, h.grown, hkept, hquiet (hself.leave rfl _), h.sound⟩
  | @insert now booking hrow =>
      refine ⟨howned, ?_, hkept, ?_, ?_⟩
      · obtain ⟨extra, hextra⟩ := h.grown
        refine ⟨extra ++ [booking], ?_⟩
        show c.shared.bookings ++ [booking] = _
        rw [hextra, List.append_assoc]
      · refine (Function.forall_update_iff c.pc fun k p => RequestOk lib req start
          (c.shared.bookings.insertRow booking) k p).mpr ⟨hself.leave rfl _, fun k hki => ?_⟩
        refine ⟨(h.requests k).free, (h.requests k).passed, fun hk hpriced => ?_⟩
        exact h.ready_insertRow hres hshared hki hk hpc hrow hpriced
      · exact CreateRequest.noDoubleBooking_insertRow hrow
          (hself.ready rfl ⟨now, booking, hrow⟩) h.sound

theorem race_reach (hres : OneResource lib req resourceType resourceId first last)
    (hshared : SharedLocks lib req start first last)
    (hstart : NoDoubleBooking (start.bookings.map Booking.stay)) {c : CreateConfig ι}
    (h : Reach (createSystem lib req) NoExpiry (createStart start) c) :
    Race lib req start c := by
  refine interleave_invariant ?_ (fun c i a s p hI _ hact => ?_) (fun c key s _ hG _ => ?_) h
  · refine ⟨fun i hi => (by cases hi), ⟨[], (List.append_nil _).symm⟩, fun _ _ h => h,
      fun i => ?_, hstart⟩
    exact ⟨fun hk => (by cases hk), fun hk => (by rcases hk with hk | hk <;> cases hk),
      fun hk => (by cases hk)⟩
  · exact hI.step hres hshared (createStep_cases lib req hact)
  · cases hG

/-- Steps of requests are admitted where locks do not expire. -/
private theorem reach_process {c c' : CreateConfig ι} {i : ι} {a : Attempt}
    (h : Reach (createSystem lib req) NoExpiry (createStart start) c)
    (hstep : createSystem lib req c (.process i a) = some c') :
    Reach (createSystem lib req) NoExpiry (createStart start) c' :=
  Reach.tail h (show NoExpiry c (.process i a) from trivial) hstep

/-- **Two requests that do not share a lock can both insert.**  Both pass their first
check, both acquire their locks, both pass their second check, and both insert. -/
theorem reach_both_inserted {i j : ι} (hij : i ≠ j) (hi : Bookable lib req start i)
    (hj : Bookable lib req start j) (hlock : (req i).lock ≠ (req j).lock) :
    ∃ c bi bj ti tj, Reach (createSystem lib req) NoExpiry (createStart start) c ∧
      (req i).row lib ti = some bi ∧ (req j).row lib tj = some bj ∧
      c.shared.bookings = (start.bookings.insertRow bi).insertRow bj := by
  obtain ⟨hcheckI, hfreeI, ti, bi, hrowI⟩ := hi
  obtain ⟨hcheckJ, hfreeJ, tj, bj, hrowJ⟩ := hj
  have hji : j ≠ i := hij.symm
  have h₁ := reach_process Reach.refl
    (createSystem_check (c := createStart start) 0 rfl hcheckI)
  have h₂ := reach_process h₁ (createSystem_check 0 (i := j) (by simp [hji, createStart]) hcheckJ)
  have h₃ := reach_process h₂ (createSystem_acquire 0 (i := i) (by simp [hij]) hfreeI)
  have h₄ := reach_process h₃ (createSystem_acquire 0 (i := j) (by simp [hji])
    ((Function.update_of_ne hlock.symm ..).trans hfreeJ))
  have h₅ := reach_process h₄ (createSystem_recheck 0 (i := i) (by simp [hij]) hcheckI)
  have h₆ := reach_process h₅ (createSystem_recheck 0 (i := j) (by simp [hji]) hcheckJ)
  have h₇ := reach_process h₆ (createSystem_insert ti (i := i) (by simp [hij]) hrowI)
  have h₈ := reach_process h₇ (createSystem_insert tj (i := j) (by simp [hji]) hrowJ)
  exact ⟨_, bi, bj, ti, tj, h₈, hrowI, hrowJ, rfl⟩

/-- **When concurrent requests never double-book.**  From a calendar without double
bookings, whatever the interleaving, the calendar stays free of them if and only if
requests that could be booked at the start and want intersecting days share a lock. -/
theorem noDoubleBooking_reach_iff (lib : DateLib) (req : ι → CreateRequest)
    (resourceType : ResourceType) (resourceId : ResourceId) (first last : ι → Day)
    (hres : OneResource lib req resourceType resourceId first last) (start : Desk ι)
    (hstart : NoDoubleBooking (start.bookings.map Booking.stay)) :
    (∀ c, Reach (createSystem lib req) NoExpiry (createStart start) c →
      NoDoubleBooking (c.shared.bookings.map Booking.stay)) ↔
      SharedLocks lib req start first last := by
  constructor
  · intro hsafe i j hij hi hj hintersect
    by_contra hkey
    have hlock : (req i).lock ≠ (req j).lock := fun h => hkey (Redis.lockName_injective h)
    obtain ⟨c, bi, bj, ti, tj, hreach, hrowI, hrowJ, hbookings⟩ :=
      reach_both_inserted hij hi hj hlock
    have hfree := hsafe c hreach
    rw [hbookings] at hfree
    exact hintersect (hres.disjoint_of_inserted hrowI hrowJ hfree)
  · intro hshared c hreach
    exact (race_reach hres hshared hstart hreach).sound

end Race

/-! ## Runs of two requests -/

/-- The two requests of `Demo.rush` share their lock, so no interleaving of them
double-books. -/
theorem noDoubleBooking_rush :
    OneResource Demo.dates Demo.rush .property "villa" (fun _ => 20270) (fun _ => 20274) ∧
    NoDoubleBooking (Demo.emptyDesk.bookings.map Booking.stay) ∧
    ∀ c, Reach (createSystem Demo.dates Demo.rush) NoExpiry (createStart Demo.emptyDesk) c →
      NoDoubleBooking (c.shared.bookings.map Booking.stay) := by
  have hres : OneResource Demo.dates Demo.rush .property "villa" (fun _ => 20270)
      (fun _ => 20274) :=
    ⟨fun _ => rfl, fun _ => rfl, by decide, by decide, by decide⟩
  have hempty : NoDoubleBooking (Demo.emptyDesk.bookings.map Booking.stay) :=
    Table.pairwiseRows_nil _
  exact ⟨hres, hempty, (noDoubleBooking_reach_iff Demo.dates Demo.rush .property "villa"
    (fun _ => 20270) (fun _ => 20274) hres Demo.emptyDesk hempty).mpr fun _ _ _ _ _ _ => rfl⟩

/-- One customer wants four days, another one the last two of them. -/
def Demo.overlap (i : Fin 2) : CreateRequest :=
  ⟨Demo.villa (if i = 0 then "2025-07-01" else "2025-07-03") "2025-07-05", i⟩

/-- **Overlapping requests with different texts double-book.** -/
theorem overlap_double_books :
    ¬ ∀ c, Reach (createSystem Demo.dates Demo.overlap) NoExpiry
      (createStart Demo.emptyDesk) c → NoDoubleBooking (c.shared.bookings.map Booking.stay) := by
  intro h
  have hrun : (replay (createSystem Demo.dates Demo.overlap) (createStart Demo.emptyDesk)
      ([0, 1, 0, 1, 0, 1, 0, 1].map Demo.next)).map (fun c =>
        (c.shared.bookings.map Booking.stay)[0]?.bind fun a =>
        (c.shared.bookings.map Booking.stay)[1]?.map fun b => a.clashesOn b 20272) =
      some (some true) := by
    decide +kernel
  have hkept : ∀ move ∈ [0, 1, 0, 1, 0, 1, 0, 1].map Demo.next,
      ∀ c : CreateConfig (Fin 2), NoExpiry c move :=
    List.forall_mem_map.mpr fun _ _ _ => trivial
  obtain ⟨c, hreach, hclash⟩ := exists_reach_of_replay hkept hrun
  exact not_noDoubleBooking_of_clash 0 1 20272 (by decide) hclash (h c hreach)

end StayRide
