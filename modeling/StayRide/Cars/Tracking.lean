import Mathlib.Data.List.Sort
import StayRide.Bookings.Queries
import StayRide.Lib.JsNumber

/-!
# Where the cars are: `CarTrackingService`

The position of a rented car is kept twice: the last one in Redis, under a key made of the
car's id, and all of them in `vehicle_tracking_logs`, with the car and the booking.
`getLastLocation` asks Redis first and the table second; `getTrackingHistory` reads the
table.  Car and booking are two arguments of a request, and only the booking is looked at:
a customer must be its customer, an owner is left to "the ownership guard of the
controller", which does not exist.

A customer is entitled to the position of a car during their rental and to the logs of the
rental, an owner to the cars they own and to the logs of their bookings.  A request is
*private* if its answer is the same in any two states that differ only in what the user is
not entitled to.  `tracking_private_iff` says which requests are.
-/

namespace StayRide

open Lib

/-! ## The service -/

/-- A time as `toISOString` writes it into Redis, or as the driver reads it from a column. -/
inductive Timestamp
  | isoString (time : Time)
  | date (time : Time)
  deriving DecidableEq

structure LocationPoint where
  lat : JsScalar
  lng : JsScalar
  speed : JsScalar
  recordedAt : Timestamp
  deriving DecidableEq

/-- What `setCarLocation` leaves in Redis. -/
structure CarLocation where
  lat : JsScalar
  lng : JsScalar
  speed : JsScalar
  updatedAt : Time

/-- A row of `vehicle_tracking_logs`, as the driver returns it. -/
structure TrackingLog where
  carId : ResourceId
  bookingId : BookingId
  lat : JsScalar
  lng : JsScalar
  speedKmh : JsScalar
  recordedAt : Time

structure TrackingStore where
  bookings : Table Booking
  cars : List Car
  redis : String → Option CarLocation
  logs : Table TrackingLog

/-- The Redis key of a car. -/
def locationName (carId : ResourceId) : String :=
  "car:location:" ++ carId

def getCarLocation (store : TrackingStore) (carId : ResourceId) : Option CarLocation :=
  store.redis (locationName carId)

/-- `WHERE booking_id = $1` -/
def TrackingStore.logsOf (store : TrackingStore) (bookingId : BookingId) : List TrackingLog :=
  store.logs.filter fun log => log.bookingId = bookingId

/-- `ORDER BY recorded_at DESC LIMIT 1` of the logs of the car and the booking; of logs with
the same time the one that was inserted first. -/
def TrackingStore.latestLog (store : TrackingStore) (carId : ResourceId)
    (bookingId : BookingId) : Option TrackingLog :=
  ((store.logs.filter fun log => log.carId = carId && log.bookingId = bookingId).insertionSort
    fun log other => other.recordedAt ≤ log.recordedAt).head?

/-- The position that `getLastLocation` returns once access is granted. -/
def TrackingStore.lastLocation (store : TrackingStore) (carId : ResourceId)
    (bookingId : BookingId) : Option LocationPoint :=
  -- The entry in Redis belongs to the car, whatever booking was asked for.
  match getCarLocation store carId with
  | some location =>
      some ⟨location.lat, location.lng, location.speed, .isoString location.updatedAt⟩
  | none =>
      (store.latestLog carId bookingId).map fun log =>
        ⟨log.lat, log.lng, log.speedKmh, .date log.recordedAt⟩

def validateTrackingAccess (bookingId : BookingId) (userId : UserId) (role : UserRole) :
    ServiceM TrackingStore Unit := do
  if role = .admin then
    return
  match (← get).bookings[bookingId]? with
  | none => throw (.forbidden "Réservation introuvable")
  | some booking =>
      -- Nothing is asked of an owner.
      if role = .customer then
        if booking.customerId ≠ userId then
          throw (.forbidden "Accès refusé")
        if booking.status ≠ .active then
          throw (.badRequest "Le tracking n'est disponible que pendant la location")

def getLastLocation (carId : ResourceId) (bookingId : BookingId) (requesterId : UserId)
    (requesterRole : UserRole) : ServiceM TrackingStore (Option LocationPoint) := do
  validateTrackingAccess bookingId requesterId requesterRole
  return (← get).lastLocation carId bookingId

/-- The point of the history for a log; `parseFloat` is that of JavaScript. -/
def TrackingLog.toPoint (parseFloat : JsScalar → JsNumber) (log : TrackingLog) :
    LocationPoint where
  lat := .number (parseFloat log.lat)
  lng := .number (parseFloat log.lng)
  speed := if log.speedKmh.truthy then .number (parseFloat log.speedKmh) else .undefined
  recordedAt := .date log.recordedAt

/-- The owner is not looked at. -/
def getTrackingHistory (parseFloat : JsScalar → JsNumber) (bookingId : BookingId)
    (_ownerId : UserId) : ServiceM TrackingStore (List LocationPoint) := do
  let store ← get
  match store.bookings[bookingId]? with
  | none => throw (.forbidden "Réservation introuvable")
  | some _ =>
      return ((store.logsOf bookingId).insertionSort
        fun log other => log.recordedAt ≤ other.recordedAt).map (TrackingLog.toPoint parseFloat)

/-! ## Who is entitled to what -/

section Entitled

variable (bookings : Table Booking) (cars : List Car) (user : CurrentUser)

/-- The customer has the car now. -/
def Booking.IsActiveRental (b : Booking) (userId : UserId) : Prop :=
  b.resourceType = .car ∧ b.customerId = userId ∧ b.status = .active

/-- The cars whose position a customer or an owner is entitled to. -/
def EntitledCar (carId : ResourceId) : Prop :=
  user.role = .customer ∧ (∃ b ∈ bookings, b.IsActiveRental user.id ∧ b.carId = some carId) ∨
    user.role = .owner ∧ ∃ c ∈ cars, c.id = carId ∧ c.ownerId = user.id

/-- The bookings whose logs a customer or an owner is entitled to. -/
def EntitledLogs (bookingId : BookingId) : Prop :=
  ∃ b, bookings[bookingId]? = some b ∧
    (user.role = .customer ∧ b.IsActiveRental user.id ∨
      user.role = .owner ∧ ∃ c ∈ cars, b.carId = some c.id ∧ c.ownerId = user.id)

/-- The two states differ only in positions that the user is not entitled to. -/
structure AgreeFor (s s' : TrackingStore) : Prop where
  bookings : s'.bookings = s.bookings
  cars : s'.cars = s.cars
  locations : ∀ carId, EntitledCar s.bookings s.cars user carId →
    getCarLocation s' carId = getCarLocation s carId
  logs : ∀ bookingId, EntitledLogs s.bookings s.cars user bookingId →
    s'.logsOf bookingId = s.logsOf bookingId

/-- The answer tells nothing that the user is not entitled to. -/
def Private {α : Type} (call : ServiceM TrackingStore α) : Prop :=
  ∀ s s' : TrackingStore, s.bookings = bookings → s.cars = cars → AgreeFor user s s' →
    call.outcome s' = call.outcome s

/-- Access is granted: there is the booking, and a customer has it now. -/
def TrackingGranted (bookingId : BookingId) : Prop :=
  ∃ b, bookings[bookingId]? = some b ∧
    (user.role = .customer → b.customerId = user.id ∧ b.status = .active)

end Entitled

/-! ## What the answers depend on -/

section Answers

variable {bookings : Table Booking} {cars : List Car} {user : CurrentUser}

/-- The logs of a car and a booking are among those of the booking. -/
theorem latestLog_congr {s s' : TrackingStore} {bookingId : BookingId}
    (h : s'.logsOf bookingId = s.logsOf bookingId) (carId : ResourceId) :
    s'.latestLog carId bookingId = s.latestLog carId bookingId := by
  have hfilter : ∀ store : TrackingStore,
      (store.logs.filter fun log => log.carId = carId && log.bookingId = bookingId) =
        (store.logsOf bookingId).filter fun log => log.carId = carId := by
    intro store
    rw [TrackingStore.logsOf, List.filter_filter]
  rw [TrackingStore.latestLog, hfilter, h, ← hfilter, TrackingStore.latestLog]

theorem lastLocation_congr {s s' : TrackingStore} {carId : ResourceId} {bookingId : BookingId}
    (hcar : getCarLocation s' carId = getCarLocation s carId)
    (hlogs : s'.logsOf bookingId = s.logsOf bookingId) :
    s'.lastLocation carId bookingId = s.lastLocation carId bookingId := by
  rw [TrackingStore.lastLocation, hcar, latestLog_congr hlogs, TrackingStore.lastLocation]

theorem run_validateTrackingAccess_of_granted {s : TrackingStore} {bookingId : BookingId}
    (h : TrackingGranted s.bookings user bookingId) :
    (validateTrackingAccess bookingId user.id user.role).run s = .ok () s := by
  obtain ⟨b, hb, hcustomer⟩ := h
  -- An owner and a concierge pass as soon as there is a booking.
  by_cases hrole : user.role = .customer
  · obtain ⟨hown, hactive⟩ := hcustomer hrole
    simp [validateTrackingAccess, hb, hrole, hown, hactive]
  · by_cases hadmin : user.role = .admin
    · simp [validateTrackingAccess, hadmin]
    · simp [validateTrackingAccess, hb, hrole, hadmin]

/-- A refusal depends on the bookings only. -/
theorem run_validateTrackingAccess_of_refused (hadmin : user.role ≠ .admin)
    {bookingId : BookingId} (h : ¬ TrackingGranted bookings user bookingId) :
    ∃ e, ∀ s : TrackingStore, s.bookings = bookings →
      (validateTrackingAccess bookingId user.id user.role).run s = .error e s := by
  cases hb : bookings[bookingId]? with
  | none =>
      refine ⟨.forbidden "Réservation introuvable", ?_⟩
      rintro s rfl
      simp [validateTrackingAccess, hadmin, hb]
  | some b =>
      have hrole : user.role = .customer := by
        by_contra hrole
        exact h ⟨b, hb, fun hcustomer => absurd hcustomer hrole⟩
      by_cases hown : b.customerId = user.id
      · have hactive : b.status ≠ .active := fun hactive => h ⟨b, hb, fun _ => ⟨hown, hactive⟩⟩
        refine ⟨.badRequest "Le tracking n'est disponible que pendant la location", ?_⟩
        rintro s rfl
        simp [validateTrackingAccess, hb, hrole, hown, hactive]
      · refine ⟨.forbidden "Accès refusé", ?_⟩
        rintro s rfl
        simp [validateTrackingAccess, hb, hrole, hown]

theorem getLastLocation_outcome_of_granted {s : TrackingStore} {bookingId : BookingId}
    (h : TrackingGranted s.bookings user bookingId) (carId : ResourceId) :
    (getLastLocation carId bookingId user.id user.role).outcome s =
      .ok (s.lastLocation carId bookingId) := by
  simp [ServiceM.outcome, getLastLocation, run_validateTrackingAccess_of_granted h]

theorem getLastLocation_outcome_of_refused (hadmin : user.role ≠ .admin)
    {bookingId : BookingId} (h : ¬ TrackingGranted bookings user bookingId)
    (carId : ResourceId) :
    ∃ e, ∀ s : TrackingStore, s.bookings = bookings →
      (getLastLocation carId bookingId user.id user.role).outcome s = .error e := by
  obtain ⟨e, he⟩ := run_validateTrackingAccess_of_refused hadmin h
  refine ⟨e, fun s hs => ?_⟩
  simp [ServiceM.outcome, getLastLocation, he s hs]

variable (parseFloat : JsScalar → JsNumber)

theorem getTrackingHistory_outcome (s : TrackingStore) (bookingId : BookingId)
    (ownerId : UserId) :
    (getTrackingHistory parseFloat bookingId ownerId).outcome s =
      if (s.bookings[bookingId]?).isSome then
        .ok (((s.logsOf bookingId).insertionSort
          fun log other => log.recordedAt ≤ other.recordedAt).map
            (TrackingLog.toPoint parseFloat))
      else .error (.forbidden "Réservation introuvable") := by
  unfold ServiceM.outcome getTrackingHistory
  cases hb : s.bookings[bookingId]? with
  | none => simp [hb]
  | some b => simp [hb]

/-! ## States that a user cannot tell apart -/

/-- No position is known. -/
def TrackingStore.silent (bookings : Table Booking) (cars : List Car) : TrackingStore where
  bookings := bookings
  cars := cars
  redis _ := none
  logs := []

/-- The position of one car is known. -/
def TrackingStore.withLocation (bookings : Table Booking) (cars : List Car)
    (carId : ResourceId) (location : CarLocation) : TrackingStore :=
  { silent bookings cars with
    redis := Function.update (fun _ => none) (locationName carId) (some location) }

/-- One position is logged. -/
def TrackingStore.withLog (bookings : Table Booking) (cars : List Car) (log : TrackingLog) :
    TrackingStore :=
  { silent bookings cars with logs := [log] }

theorem locationName_injective : Function.Injective locationName := by
  intro carId carId' h
  exact (String.append_right_inj "car:location:").mp h

theorem getCarLocation_withLocation (carId carId' : ResourceId) (location : CarLocation) :
    getCarLocation (.withLocation bookings cars carId location) carId' =
      if carId' = carId then some location else none := by
  simp [getCarLocation, TrackingStore.withLocation, Function.update_apply,
    locationName_injective.eq_iff]

theorem agreeFor_withLocation {carId : ResourceId} (h : ¬ EntitledCar bookings cars user carId)
    (location : CarLocation) :
    AgreeFor user (.silent bookings cars) (.withLocation bookings cars carId location) where
  bookings := rfl
  cars := rfl
  locations := by
    intro carId' hcar
    have hne : carId' ≠ carId := by
      rintro rfl
      exact h hcar
    rw [getCarLocation_withLocation, if_neg hne]
    rfl
  logs _ _ := rfl

theorem agreeFor_withLog (log : TrackingLog)
    (h : ¬ EntitledLogs bookings cars user log.bookingId) :
    AgreeFor user (.silent bookings cars) (.withLog bookings cars log) where
  bookings := rfl
  cars := rfl
  locations _ _ := rfl
  logs := by
    intro bookingId hlogs
    have hne : log.bookingId ≠ bookingId := by
      rintro rfl
      exact h hlogs
    simp [TrackingStore.logsOf, TrackingStore.withLog, TrackingStore.silent, hne]

theorem lastLocation_silent (carId : ResourceId) (bookingId : BookingId) :
    (TrackingStore.silent bookings cars).lastLocation carId bookingId = none := rfl

theorem lastLocation_withLocation (bookings : Table Booking) (cars : List Car)
    (carId : ResourceId) (bookingId : BookingId) (location : CarLocation) :
    ((TrackingStore.withLocation bookings cars carId location).lastLocation carId
      bookingId).isSome = true := by
  rw [TrackingStore.lastLocation, getCarLocation_withLocation, if_pos rfl]
  rfl

theorem lastLocation_withLog (bookings : Table Booking) (cars : List Car)
    (log : TrackingLog) :
    ((TrackingStore.withLog bookings cars log).lastLocation log.carId log.bookingId).isSome =
      true := by
  simp [TrackingStore.lastLocation, getCarLocation, TrackingStore.latestLog,
    TrackingStore.withLog, TrackingStore.silent]

/-! ## Privacy -/

/-- The last location is private exactly if it is refused, or if the user is entitled to the
car and to the logs of the booking. -/
theorem private_getLastLocation_iff (hadmin : user.role ≠ .admin) (carId : ResourceId)
    (bookingId : BookingId) :
    Private bookings cars user (getLastLocation carId bookingId user.id user.role) ↔
      (TrackingGranted bookings user bookingId →
        EntitledCar bookings cars user carId ∧ EntitledLogs bookings cars user bookingId) := by
  constructor
  · intro h hgranted
    -- Otherwise a position that the user is not entitled to makes a difference.
    have hanswer : ∀ s' : TrackingStore, s'.bookings = bookings →
        AgreeFor user (.silent bookings cars) s' → s'.lastLocation carId bookingId = none := by
      intro s' hs' hagree
      have hsame := h (.silent bookings cars) s' rfl rfl hagree
      rw [getLastLocation_outcome_of_granted (hs' ▸ hgranted),
        getLastLocation_outcome_of_granted hgranted, Except.ok.injEq] at hsame
      rw [hsame, lastLocation_silent]
    constructor
    · by_contra hcar
      let location : CarLocation := ⟨.null, .null, .null, 0⟩
      have hnone := hanswer _ rfl (agreeFor_withLocation hcar location)
      have hsome := lastLocation_withLocation bookings cars carId bookingId location
      rw [hnone] at hsome
      cases hsome
    · by_contra hlogs
      let log : TrackingLog := ⟨carId, bookingId, .null, .null, .null, 0⟩
      have hnone := hanswer _ rfl (agreeFor_withLog log hlogs)
      have hsome := lastLocation_withLog bookings cars log
      rw [hnone] at hsome
      cases hsome
  · rintro h s s' rfl rfl hagree
    by_cases hgranted : TrackingGranted s.bookings user bookingId
    · obtain ⟨hcar, hlogs⟩ := h hgranted
      rw [getLastLocation_outcome_of_granted (hagree.bookings ▸ hgranted),
        getLastLocation_outcome_of_granted hgranted,
        lastLocation_congr (hagree.locations carId hcar) (hagree.logs bookingId hlogs)]
    · obtain ⟨e, he⟩ := getLastLocation_outcome_of_refused hadmin hgranted carId
      rw [he s' hagree.bookings, he s rfl]

/-- The history is private exactly if there is no booking, or if the user is entitled to its
logs. -/
theorem private_getTrackingHistory_iff (bookingId : BookingId) :
    Private bookings cars user (getTrackingHistory parseFloat bookingId user.id) ↔
      ((bookings[bookingId]?).isSome → EntitledLogs bookings cars user bookingId) := by
  constructor
  · intro h hbooking
    by_contra hlogs
    let log : TrackingLog := ⟨"", bookingId, .null, .null, .null, 0⟩
    have hsame := h _ _ rfl rfl (agreeFor_withLog log hlogs)
    rw [getTrackingHistory_outcome, getTrackingHistory_outcome] at hsame
    simp [TrackingStore.withLog, TrackingStore.silent, TrackingStore.logsOf, hbooking, log]
      at hsame
  · rintro h s s' rfl rfl hagree
    rw [getTrackingHistory_outcome, getTrackingHistory_outcome, hagree.bookings]
    by_cases hbooking : (s.bookings[bookingId]?).isSome
    · rw [hagree.logs bookingId (h hbooking)]
    · rw [if_neg hbooking, if_neg hbooking]

/-- **Tracking privacy.**  For a customer or an owner, the last location is private exactly
if the request is refused or names a car and a booking that the user is entitled to; the
history exactly if there is no such booking or the user is entitled to its logs. -/
theorem tracking_private_iff (bookings : Table Booking) (cars : List Car) (user : CurrentUser)
    (hrole : user.role = .customer ∨ user.role = .owner) (carId : ResourceId)
    (bookingId : BookingId) :
    (Private bookings cars user (getLastLocation carId bookingId user.id user.role) ↔
      (TrackingGranted bookings user bookingId →
        EntitledCar bookings cars user carId ∧ EntitledLogs bookings cars user bookingId)) ∧
    (Private bookings cars user (getTrackingHistory parseFloat bookingId user.id) ↔
      ((bookings[bookingId]?).isSome → EntitledLogs bookings cars user bookingId)) := by
  have hadmin : user.role ≠ .admin := by
    intro hadmin
    rw [hadmin] at hrole
    rcases hrole with h | h <;> cases h
  exact ⟨private_getLastLocation_iff hadmin carId bookingId,
    private_getTrackingHistory_iff parseFloat bookingId⟩

end Answers

namespace Demo

/-- Customer 1 has the jeep. -/
def jeepOut : Table Booking :=
  ((create dates ⟨.car, "jeep", "2025-07-01", "2025-07-05", none, none, none, none, none⟩ 1
    0).storeAfter (Store.start [])).bookings.updateById 0 (Booking.withStatus .active)

/-- The jeep belongs to owner 6, the van to owner 7. -/
def fleet : List Car := [⟨"jeep", 6⟩, ⟨"van", 7⟩]

/-- Where the van is. -/
def vanLocation : CarLocation := ⟨.number (.finite 4), .number (.finite 9), .undefined, 0⟩

/-- Where the jeep was. -/
def jeepLog : TrackingLog := ⟨"jeep", 0, .text "4.0", .text "9.7", .null, 0⟩

theorem jeepOut_row : ∃ b, jeepOut[0]? = some b ∧ b.IsActiveRental 1 ∧ b.carId = some "jeep" := by
  have hrow : jeepOut[0]?.map (fun b => (b.resourceType, b.customerId, b.status, b.carId)) =
      some (.car, 1, .active, some "jeep") := by
    decide +kernel
  obtain ⟨b, hb, hcolumns⟩ := Option.map_eq_some_iff.mp hrow
  simp only [Prod.mk.injEq] at hcolumns
  obtain ⟨htype, hcustomer, hstatus, hcar⟩ := hcolumns
  exact ⟨b, hb, ⟨htype, hcustomer, hstatus⟩, hcar⟩

end Demo

/-- The customer who has the jeep may ask where it is. -/
theorem tracking_private_jeep :
    Private Demo.jeepOut Demo.fleet ⟨1, .customer⟩ (getLastLocation "jeep" 0 1 .customer) ∧
      Private Demo.jeepOut Demo.fleet ⟨1, .customer⟩ (getTrackingHistory (fun _ => .nan) 0 1) := by
  obtain ⟨b, hb, hactive, hcar⟩ := Demo.jeepOut_row
  have hlogs : EntitledLogs Demo.jeepOut Demo.fleet ⟨1, .customer⟩ 0 :=
    ⟨b, hb, Or.inl ⟨rfl, hactive⟩⟩
  have hiff := tracking_private_iff (fun _ => .nan) Demo.jeepOut Demo.fleet ⟨1, .customer⟩
    (Or.inl rfl) "jeep" 0
  refine ⟨hiff.1.mpr fun _ => ⟨Or.inl ⟨rfl, b, List.mem_of_getElem? hb, hactive, hcar⟩, hlogs⟩,
    hiff.2.mpr fun _ => hlogs⟩

/-- **Whose car?**  The customer who has the jeep is told where the van is, and the owner of
the van is told where the jeep has been. -/
theorem tracking_leaks :
    (∃ s s', s.bookings = Demo.jeepOut ∧ s.cars = Demo.fleet ∧ AgreeFor ⟨1, .customer⟩ s s' ∧
      (getLastLocation "van" 0 1 .customer).outcome s = .ok none ∧
      (getLastLocation "van" 0 1 .customer).outcome s' =
        .ok (some ⟨.number (.finite 4), .number (.finite 9), .undefined, .isoString 0⟩)) ∧
    ∃ s s', s.bookings = Demo.jeepOut ∧ s.cars = Demo.fleet ∧ AgreeFor ⟨7, .owner⟩ s s' ∧
      ∀ parseFloat, (getTrackingHistory parseFloat 0 7).outcome s = .ok [] ∧
        (getTrackingHistory parseFloat 0 7).outcome s' =
          .ok [⟨.number (parseFloat (.text "4.0")), .number (parseFloat (.text "9.7")),
            .undefined, .date 0⟩] := by
  have hjeep : ∀ b ∈ Demo.jeepOut, b.carId = some "jeep" := by decide +kernel
  have hbooked : Demo.jeepOut[0]?.isSome := by decide +kernel
  have hcar : ¬ EntitledCar Demo.jeepOut Demo.fleet ⟨1, .customer⟩ "van" := by
    rintro (⟨-, b, hb, -, hvan⟩ | ⟨howner, -⟩)
    · rw [hjeep b hb, Option.some.injEq] at hvan
      exact absurd hvan (by decide)
    · cases howner
  have hlogs : ¬ EntitledLogs Demo.jeepOut Demo.fleet ⟨7, .owner⟩ 0 := by
    rintro ⟨b, hb, ⟨hcustomer, -⟩ | ⟨-, c, hc, hbooked, howned⟩⟩
    · cases hcustomer
    · rw [hjeep b (List.mem_of_getElem? hb), Option.some.injEq] at hbooked
      have howner : ∀ c ∈ Demo.fleet, c.id = "jeep" → c.ownerId ≠ 7 := by decide
      exact howner c hc hbooked.symm howned
  refine ⟨⟨_, _, rfl, rfl, agreeFor_withLocation hcar Demo.vanLocation, ?_, ?_⟩,
    _, _, rfl, rfl, agreeFor_withLog Demo.jeepLog hlogs, fun parseFloat => ⟨?_, ?_⟩⟩
  · decide +kernel
  · decide +kernel
  · exact (getTrackingHistory_outcome parseFloat _ 0 7).trans (if_pos hbooked)
  · exact (getTrackingHistory_outcome parseFloat _ 0 7).trans (if_pos hbooked)

end StayRide
