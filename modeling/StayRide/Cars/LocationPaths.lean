import StayRide.Cars.Tracking
import StayRide.Lib.JsText
import StayRide.Lib.Run

/-!
# The two paths to a location

`updateLocation` writes the position of a car twice, into Redis and into the table of the logs,
and `getLastLocation` reads Redis first and the table when the entry has expired.  The entry
belongs to the car and the log to the booking; a speed of zero goes to Redis as it is and to
the table as `null`.

The schema of the table is not part of the repository: a `NumberColumn` takes a number or
refuses it, and what it has taken is read back as that number, or as a text for it.

A run is a sequence of calls that succeed, at increasing times; entries of Redis expire, and
the bookings and cars change in between.  The state keeps the calls that were made, last
first.  `location_paths_agree_iff` says when the two paths give the same answer.
-/

namespace StayRide

open Lib

/-! ## Updates -/

/-- A column for numbers. -/
structure NumberColumn where
  /-- What is read back of a number; `none` when the database refuses it. -/
  store : JsNumber → Option JsScalar
  content_of_store : ∀ {x v}, store x = some v → v.content = some x

structure TrackingColumns where
  lat : NumberColumn
  lng : NumberColumn
  speedKmh : NumberColumn

/-- The arguments of `updateLocation`, and the time of the call. -/
structure LocationUpdate where
  carId : ResourceId
  bookingId : BookingId
  customerId : UserId
  lat : JsNumber
  lng : JsNumber
  speed : Option JsNumber
  time : Time
  deriving DecidableEq

namespace LocationUpdate

variable (columns : TrackingColumns) (update : LocationUpdate)

/-- The booking is an active rental of the car by the customer. -/
def isFor (booking : Booking) : Bool :=
  booking.carId = some update.carId && booking.customerId = update.customerId &&
    booking.status = .active && booking.resourceType = .car

def speedValue : JsScalar :=
  match update.speed with
  | none => .undefined
  | some x => .number x

/-- The entry of Redis, as it is read back. -/
def toLocation : CarLocation where
  lat := (JsScalar.number update.lat).throughJson
  lng := (JsScalar.number update.lng).throughJson
  speed := update.speedValue.throughJson
  updatedAt := update.time

/-- `speed || null`, as it is read back. -/
def storedSpeed : Option JsScalar :=
  match update.speed with
  | none => some .null
  | some x => if (JsScalar.number x).truthy then columns.speedKmh.store x else some .null

/-- The row of the table, if the columns take the numbers. -/
def toLog : Option TrackingLog := do
  let lat ← columns.lat.store update.lat
  let lng ← columns.lng.store update.lng
  let speedKmh ← update.storedSpeed columns
  return ⟨update.carId, update.bookingId, lat, lng, speedKmh, update.time⟩

end LocationUpdate

def setCarLocation (carId : ResourceId) (location : CarLocation) (store : TrackingStore) :
    TrackingStore :=
  { store with redis := Function.update store.redis (locationName carId) (some location) }

/-- The call; that it sets the last position in the table of the cars too, which nothing reads,
is left out. -/
def updateLocation (columns : TrackingColumns) (update : LocationUpdate) :
    ServiceM TrackingStore Unit := do
  match (← get).bookings[update.bookingId]?.filter update.isFor with
  | none => throw (.forbidden "Tracking non autorisé pour cette réservation")
  | some _ =>
      modify (setCarLocation update.carId update.toLocation)
      -- A refused log leaves the entry of Redis behind.
      match update.toLog columns with
      | none => throw .queryFailed
      | some log => modify fun store => { store with logs := store.logs.insertRow log }

/-- What a call that succeeds has done. -/
theorem run_updateLocation_eq_ok {columns : TrackingColumns} {update : LocationUpdate}
    {s s' : TrackingStore} (h : (updateLocation columns update).run s = .ok () s') :
    ∃ log, update.toLog columns = some log ∧
      s' = { setCarLocation update.carId update.toLocation s with
        logs := s.logs.insertRow log } := by
  cases hbooking : s.bookings[update.bookingId]?.filter update.isFor with
  | none => simp [updateLocation, hbooking] at h
  | some booking =>
      cases hlog : update.toLog columns with
      | none => simp [updateLocation, hbooking, hlog] at h
      | some log =>
          simp [updateLocation, hbooking, hlog] at h
          exact ⟨log, rfl, h.symm⟩

/-! ## Runs -/

/-- The state, with the calls of `updateLocation` that succeeded, last first. -/
structure TrackedState where
  store : TrackingStore
  history : List LocationUpdate

inductive TrackingEvent
  | update (u : LocationUpdate)
  | expire (name : String)
  | edit (bookings : Table Booking) (cars : List Car)

def trackingStep (columns : TrackingColumns) (s : TrackedState) :
    TrackingEvent → Option TrackedState
  | .update u =>
      match (updateLocation columns u).run s.store with
      | .ok _ store => some ⟨store, u :: s.history⟩
      | .error _ _ => none
  | .expire name =>
      some { s with store := { s.store with redis := Function.update s.store.redis name none } }
  | .edit bookings cars =>
      some { s with store := { s.store with bookings := bookings, cars := cars } }

/-- Later calls have later times. -/
def TimesIncrease (s : TrackedState) : TrackingEvent → Prop
  | .update u => ∀ earlier ∈ s.history, earlier.time < u.time
  | .expire _ | .edit _ _ => True

instance : ∀ s event, Decidable (TimesIncrease s event)
  | s, .update u => inferInstanceAs (Decidable (∀ earlier ∈ s.history, earlier.time < u.time))
  | _, .expire _ => inferInstanceAs (Decidable True)
  | _, .edit _ _ => inferInstanceAs (Decidable True)

/-- The states of runs that begin before any call. -/
abbrev TrackingRun (columns : TrackingColumns) (bookings : Table Booking) (cars : List Car) :
    TrackedState → Prop :=
  Reach (trackingStep columns) TimesIncrease ⟨.silent bookings cars, []⟩

namespace TrackedState

variable (s : TrackedState)

/-- The last update of a car. -/
def lastOfCar (carId : ResourceId) : Option LocationUpdate :=
  s.history.find? fun u => u.carId = carId

/-- The last update of a car for a booking. -/
def lastOf (carId : ResourceId) (bookingId : BookingId) : Option LocationUpdate :=
  s.history.find? fun u => u.carId = carId && u.bookingId = bookingId

end TrackedState

/-- What the state remembers of the calls: a log of each, and in Redis only the last one of a
car. -/
structure UpdatesRecorded (columns : TrackingColumns) (s : TrackedState) : Prop where
  logs : s.history.map (LocationUpdate.toLog columns) = s.store.logs.reverse.map some
  times : s.history.Pairwise fun later earlier => earlier.time < later.time
  entries : ∀ carId location, getCarLocation s.store carId = some location →
    ∃ u, s.lastOfCar carId = some u ∧ location = u.toLocation

/-- The earlier updates of those that a search can find are before the one that it finds. -/
theorem eq_or_rel_of_find? {α : Type*} {r : α → α → Prop} {l : List α} (hl : l.Pairwise r)
    {p : α → Bool} {a b : α} (ha : l.find? p = some a) (hb : b ∈ l) (hp : p b = true) :
    b = a ∨ r a b := by
  induction l with
  | nil => cases hb
  | cons c l ih =>
      obtain ⟨hc, hl⟩ := List.pairwise_cons.mp hl
      cases hpc : p c with
      | true =>
          rw [List.find?_cons_of_pos hpc] at ha
          obtain rfl := Option.some.inj ha
          rcases List.mem_cons.mp hb with rfl | hb
          · exact Or.inl rfl
          · exact Or.inr (hc b hb)
      | false =>
          rw [List.find?_cons_of_neg (by simp [hpc])] at ha
          rcases List.mem_cons.mp hb with rfl | hb
          · rw [hp] at hpc
            cases hpc
          · exact ih hl ha hb

/-- The last by time is found by sorting. -/
theorem head?_insertionSort_of_latest {α : Type*} {time : α → Time} {l : List α} {a : α}
    (ha : a ∈ l) (hlatest : ∀ b ∈ l, b = a ∨ time b < time a) :
    (l.insertionSort fun x y => time y ≤ time x).head? = some a := by
  have : Std.Total fun x y : α => time y ≤ time x := ⟨fun x y => le_total _ _⟩
  have : IsTrans α fun x y : α => time y ≤ time x := ⟨fun x y z hxy hyz => le_trans hyz hxy⟩
  have hsorted := List.pairwise_insertionSort (fun x y : α => time y ≤ time x) l
  have hmem : a ∈ l.insertionSort fun x y => time y ≤ time x := 
    (List.mem_insertionSort _).mpr ha
  cases hsort : l.insertionSort fun x y => time y ≤ time x with
  | nil =>
      rw [hsort] at hmem
      cases hmem
  | cons b rest =>
      rw [hsort] at hsorted hmem
      have hb : b ∈ l := by
        rw [← List.mem_insertionSort fun x y => time y ≤ time x, hsort]
        exact List.mem_cons_self
      rcases hlatest b hb with rfl | hlt
      · rfl
      · rcases List.mem_cons.mp hmem with rfl | hrest
        · rfl
        · exact absurd hlt (not_lt.mpr (List.rel_of_pairwise_cons hsorted hrest))

section UpdatesRecorded

variable {columns : TrackingColumns} {s : TrackedState}

theorem updatesRecorded_start (bookings : Table Booking) (cars : List Car) :
    UpdatesRecorded columns ⟨.silent bookings cars, []⟩ where
  logs := rfl
  times := List.Pairwise.nil
  entries _ _ h := by cases h

theorem getCarLocation_setCarLocation (store : TrackingStore) (carId carId' : ResourceId)
    (location : CarLocation) :
    getCarLocation (setCarLocation carId location store) carId' =
      if carId' = carId then some location else getCarLocation store carId' := by
  simp [getCarLocation, setCarLocation, Function.update_apply, locationName_injective.eq_iff]

/-- **A call is remembered.** -/
theorem UpdatesRecorded.update (h : UpdatesRecorded columns s) {u : LocationUpdate}
    (htime : ∀ earlier ∈ s.history, earlier.time < u.time) {log : TrackingLog}
    (hlog : u.toLog columns = some log) :
    UpdatesRecorded columns
      ⟨{ setCarLocation u.carId u.toLocation s.store with
          logs := s.store.logs.insertRow log }, u :: s.history⟩ where
  logs := by
    rw [List.map_cons, hlog, h.logs, Table.insertRow, List.reverse_append]
    rfl
  times := List.pairwise_cons.mpr ⟨htime, h.times⟩
  entries := by
    intro carId location hentry
    have hentry' : getCarLocation (setCarLocation u.carId u.toLocation s.store) carId =
        some location := hentry
    rw [getCarLocation_setCarLocation] at hentry'
    by_cases hcar : carId = u.carId
    · rw [if_pos hcar] at hentry'
      refine ⟨u, ?_, (Option.some.inj hentry').symm⟩
      rw [TrackedState.lastOfCar, List.find?_cons_of_pos (by simp [hcar])]
    · rw [if_neg hcar] at hentry'
      obtain ⟨u', hlast, hlocation⟩ := h.entries carId location hentry'
      refine ⟨u', ?_, hlocation⟩
      rw [TrackedState.lastOfCar, List.find?_cons_of_neg (by simp [Ne.symm hcar])]
      exact hlast

/-- An entry that expires is forgotten. -/
theorem UpdatesRecorded.expire (h : UpdatesRecorded columns s) (name : String) :
    UpdatesRecorded columns
      { s with
        store := { s.store with redis := Function.update s.store.redis name none } } where
  logs := h.logs
  times := h.times
  entries := by
    intro carId location hentry
    have hentry' : Function.update s.store.redis name none (locationName carId) =
        some location := hentry
    rw [Function.update_apply] at hentry'
    split at hentry'
    · cases hentry'
    · exact h.entries carId location hentry'

/-- **Whole runs**: every reachable state remembers the calls. -/
theorem updatesRecorded_of_run {bookings : Table Booking} {cars : List Car}
    (h : TrackingRun columns bookings cars s) : UpdatesRecorded columns s := by
  refine Reach.invariant (updatesRecorded_start bookings cars) ?_ h
  intro s event s' hs hguard hstep
  cases event with
  | update u =>
      cases hrun : (updateLocation columns u).run s.store with
      | error e store =>
          simp [trackingStep, hrun] at hstep
      | ok _ store =>
          simp only [trackingStep, hrun, Option.some.injEq] at hstep
          obtain ⟨log, hlog, rfl⟩ := run_updateLocation_eq_ok hrun
          rw [← hstep]
          exact hs.update hguard hlog
  | expire name =>
      obtain rfl := Option.some.inj hstep
      exact hs.expire name
  | edit bookings cars =>
      obtain rfl := Option.some.inj hstep
      exact ⟨hs.logs, hs.times, hs.entries⟩

end UpdatesRecorded

/-! ## The two answers -/

/-- What an answer says: `null` and an absent value are the same, and so are a number and a
text for it. -/
structure LocationContent where
  lat : Option JsNumber
  lng : Option JsNumber
  speed : Option JsNumber
  time : Time

def Timestamp.time : Timestamp → Time
  | .isoString time | .date time => time

def LocationPoint.content (point : LocationPoint) : LocationContent where
  lat := point.lat.content
  lng := point.lng.content
  speed := point.speed.content
  time := point.recordedAt.time

/-- The state without the entries of Redis, where the table answers. -/
def TrackingStore.withoutEntries (store : TrackingStore) : TrackingStore :=
  { store with redis := fun _ => none }

/-- The numbers of the update are the same in Redis and in the table. -/
structure LocationUpdate.IsPlain (update : LocationUpdate) : Prop where
  lat_finite : ∃ q, update.lat = .finite q
  lng_finite : ∃ q, update.lng = .finite q
  speed_ne_zero : update.speed ≠ some (.finite 0)
  speed_ne_infinite : ∀ negative, update.speed ≠ some (.infinite negative)

section Answers

variable {columns : TrackingColumns} {u : LocationUpdate} {log : TrackingLog}

theorem toLog_eq_some (h : u.toLog columns = some log) :
    columns.lat.store u.lat = some log.lat ∧ columns.lng.store u.lng = some log.lng ∧
      u.storedSpeed columns = some log.speedKmh ∧ log.carId = u.carId ∧
      log.bookingId = u.bookingId ∧ log.recordedAt = u.time := by
  unfold LocationUpdate.toLog at h
  obtain ⟨lat, hlat, h⟩ := Option.bind_eq_some_iff.mp h
  obtain ⟨lng, hlng, h⟩ := Option.bind_eq_some_iff.mp h
  obtain ⟨speed, hspeed, h⟩ := Option.bind_eq_some_iff.mp h
  obtain rfl := Option.some.inj h
  exact ⟨hlat, hlng, hspeed, rfl, rfl, rfl⟩

/-- JSON keeps the finite numbers. -/
theorem content_throughJson_eq_some_iff (x : JsNumber) :
    (JsScalar.number x).throughJson.content = some x ↔ ∃ q, x = .finite q := by
  cases x with
  | finite q => exact iff_of_true rfl ⟨q, rfl⟩
  | infinite negative => simp [JsScalar.throughJson, JsScalar.content]
  | nan => simp [JsScalar.throughJson, JsScalar.content]

/-- The speed is kept both ways, unless it is zero or infinite. -/
theorem content_speed_eq_iff {v : JsScalar} (hv : u.storedSpeed columns = some v) :
    u.speedValue.throughJson.content = v.content ↔
      u.speed ≠ some (.finite 0) ∧ ∀ negative, u.speed ≠ some (.infinite negative) := by
  unfold LocationUpdate.storedSpeed at hv
  unfold LocationUpdate.speedValue
  cases hspeed : u.speed with
  | none =>
      rw [hspeed] at hv
      obtain rfl := Option.some.inj hv
      simp [JsScalar.throughJson, JsScalar.content]
  | some x =>
      rw [hspeed] at hv
      dsimp only at hv ⊢
      split at hv
      · next htruthy =>
          rw [columns.speedKmh.content_of_store hv, content_throughJson_eq_some_iff]
          cases x with
          | finite q =>
              have hq : q ≠ 0 := by simpa [JsScalar.truthy] using htruthy
              simp [hq]
          | infinite negative => simp
          | nan => simp [JsScalar.truthy] at htruthy
      · next hfalse =>
          obtain rfl := Option.some.inj hv
          cases x with
          | finite q =>
              obtain rfl : q = 0 := by simpa [JsScalar.truthy] using hfalse
              simp [JsScalar.throughJson, JsScalar.content]
          | infinite negative => simp [JsScalar.truthy] at hfalse
          | nan => simp [JsScalar.throughJson, JsScalar.content]

variable {s : TrackedState} {carId : ResourceId} {bookingId : BookingId}

/-- **The table answers** with the last update of the car for the booking. -/
theorem latestLog_of_lastOf (h : UpdatesRecorded columns s)
    (hu : s.lastOf carId bookingId = some u) :
    ∃ log, u.toLog columns = some log ∧ s.store.latestLog carId bookingId = some log := by
  have hmem : ∀ log, log ∈ s.store.logs ↔ ∃ u ∈ s.history, u.toLog columns = some log := by
    intro log
    have hiff : some log ∈ s.history.map (LocationUpdate.toLog columns) ↔ log ∈ s.store.logs := by
      rw [h.logs]
      simp
    rw [← hiff, List.mem_map]
  have hhistory : u ∈ s.history := List.mem_of_find?_eq_some hu
  obtain ⟨hcar, hbooking⟩ : u.carId = carId ∧ u.bookingId = bookingId := by
    simpa using List.find?_some hu
  have hlogged : u.toLog columns ∈ s.store.logs.reverse.map some := by
    rw [← h.logs]
    exact List.mem_map_of_mem hhistory
  obtain ⟨log, -, hlog⟩ := List.mem_map.mp hlogged
  obtain ⟨-, -, -, hlogCar, hlogBooking, htime⟩ := toLog_eq_some hlog.symm
  refine ⟨log, hlog.symm, head?_insertionSort_of_latest ?_ ?_⟩
  · rw [List.mem_filter]
    refine ⟨(hmem log).mpr ⟨u, hhistory, hlog.symm⟩, ?_⟩
    simp [hlogCar, hlogBooking, hcar, hbooking]
  · intro log' hlog'
    obtain ⟨hlog', hwhere⟩ := List.mem_filter.mp hlog'
    obtain ⟨u', hu', htoLog⟩ := (hmem log').mp hlog'
    obtain ⟨-, -, -, hcar', hbooking', htime'⟩ := toLog_eq_some htoLog
    rw [hcar', hbooking'] at hwhere
    rcases eq_or_rel_of_find? h.times hu hu' hwhere with rfl | hlt
    · exact Or.inl (Option.some.inj (htoLog.symm.trans hlog.symm))
    · refine Or.inr ?_
      rw [htime, htime']
      exact hlt

/-- **When the paths agree**, for an entry that has not expired: the last update of the car was
for the booking, and its numbers are the same in Redis and in the table. -/
theorem lastLocation_content_eq_iff (h : UpdatesRecorded columns s)
    (hu : s.lastOf carId bookingId = some u) {location : CarLocation}
    (hentry : getCarLocation s.store carId = some location) :
    (s.store.lastLocation carId bookingId).map LocationPoint.content =
        (s.store.withoutEntries.lastLocation carId bookingId).map LocationPoint.content ↔
      s.lastOfCar carId = some u ∧ u.IsPlain := by
  obtain ⟨u', hlast, rfl⟩ := h.entries carId location hentry
  obtain ⟨log, hlog, hlatest⟩ := latestLog_of_lastOf h hu
  obtain ⟨hlat, hlng, hspeed, -, -, htime⟩ := toLog_eq_some hlog
  have hfast : s.store.lastLocation carId bookingId =
      some ⟨u'.toLocation.lat, u'.toLocation.lng, u'.toLocation.speed, .isoString u'.time⟩ := by
    rw [TrackingStore.lastLocation, hentry]
    rfl
  have hslow : s.store.withoutEntries.lastLocation carId bookingId =
      some ⟨log.lat, log.lng, log.speedKmh, .date log.recordedAt⟩ := by
    have hsame : s.store.withoutEntries.latestLog carId bookingId = some log := hlatest
    have hnone : getCarLocation s.store.withoutEntries carId = none := rfl
    rw [TrackingStore.lastLocation, hnone, hsame]
    rfl
  rw [hfast, hslow, Option.map_some, Option.map_some, Option.some.injEq, LocationPoint.content,
    LocationPoint.content, LocationContent.mk.injEq, columns.lat.content_of_store hlat,
    columns.lng.content_of_store hlng]
  constructor
  · rintro ⟨hsameLat, hsameLng, hsameSpeed, hsameTime⟩
    -- Only the update itself has its time.
    obtain rfl : u = u' := by
      have hcar : u.carId = carId := by
        have hfound := List.find?_some hu
        simp only [Bool.and_eq_true, decide_eq_true_eq] at hfound
        exact hfound.1
      rcases eq_or_rel_of_find? h.times hlast (List.mem_of_find?_eq_some hu)
        (decide_eq_true hcar) with heq | hlt
      · exact heq
      · have htimes : u'.time = u.time := hsameTime.trans htime
        exact absurd hlt (not_lt.mpr htimes.le)
    obtain ⟨hzero, hinfinite⟩ := (content_speed_eq_iff hspeed).mp hsameSpeed
    exact ⟨hlast, (content_throughJson_eq_some_iff _).mp hsameLat,
      (content_throughJson_eq_some_iff _).mp hsameLng, hzero, hinfinite⟩
  · rintro ⟨hlast', hplain⟩
    obtain rfl : u' = u := Option.some.inj (hlast.symm.trans hlast')
    exact ⟨(content_throughJson_eq_some_iff _).mpr hplain.lat_finite,
      (content_throughJson_eq_some_iff _).mpr hplain.lng_finite,
      (content_speed_eq_iff hspeed).mpr ⟨hplain.speed_ne_zero, hplain.speed_ne_infinite⟩,
      htime.symm⟩

/-- A request that is granted, or an administrator's, is answered. -/
theorem getLastLocation_outcome_of_allowed {user : CurrentUser} {store : TrackingStore}
    (h : user.role = .admin ∨ TrackingGranted store.bookings user bookingId) :
    (getLastLocation carId bookingId user.id user.role).outcome store =
      .ok (store.lastLocation carId bookingId) := by
  rcases h with hadmin | hgranted
  · simp [ServiceM.outcome, getLastLocation, validateTrackingAccess, hadmin]
  · exact getLastLocation_outcome_of_granted hgranted carId

end Answers

namespace Demo

/-- Columns that give numbers back as numbers. -/
def doubles : NumberColumn where
  store x := some (.number x)
  content_of_store h := by
    obtain rfl := Option.some.inj h
    rfl

def doubleColumns : TrackingColumns := ⟨doubles, doubles, doubles⟩

/-- The jeep is driven by customer 1. -/
def jeepUpdate (bookingId : BookingId) (lat : ℚ) (speed : Option JsNumber) (time : Time) :
    LocationUpdate :=
  ⟨"jeep", bookingId, 1, .finite lat, .finite 9, speed, time⟩

/-- The rental is over, and the customer rents the jeep again. -/
def jeepOutAgain : Table Booking :=
  jeepOut.updateById 0 (Booking.withStatus .completed) ++ jeepOut

/-- The state after some events, if they are possible in this order. -/
def trackedAfter (events : List TrackingEvent) : Option TrackedState :=
  replay (fun s event => if TimesIncrease s event then trackingStep doubleColumns s event else none)
    ⟨.silent jeepOut fleet, []⟩ events

end Demo

section Examples

open Demo

end Examples

end StayRide
