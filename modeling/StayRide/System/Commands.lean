import StayRide.Lib.Program
import StayRide.System.Calls

/-!
# The commands of the booking side

What a call can await: a statement sent to PostgreSQL, a command sent to Redis, an
event handed to the emitter.  `Command.handle` says what each of them does to the data.
A transaction is one command, because what it writes becomes visible when it commits.

Besides the store of `Common.Store` the calls write the table `vehicle_inspections`,
which no entity declares and nothing reads.
-/

namespace StayRide

open Lib

/-! ## What the calls work on -/

inductive InspectionType
  | preRental | postRental
  deriving DecidableEq

structure InspectionDto where
  type : InspectionType
  condition : String
  fuelLevelPct : ℤ
  mileageKm : ℤ
  damagesFound : Bool
  damageNotes : Option String := none
  photos : Option (List String) := none
  clientSignature : Option String := none

/-- A row of `vehicle_inspections`.  The column `car_id` is always null. -/
structure VehicleInspection where
  bookingId : BookingId
  carId : Option ResourceId
  inspectionType : InspectionType
  inspectedBy : UserId
  condition : String
  fuelLevelPct : ℤ
  mileageKm : ℤ
  damagesFound : Bool
  damageNotes : Option String
  photos : List String
  clientSignature : Option String
  inspectedAt : Time

def InspectionDto.toRow (data : InspectionDto) (bookingId : BookingId) (conciergeId : UserId)
    (now : Time) : VehicleInspection where
  bookingId := bookingId
  carId := none
  inspectionType := data.type
  inspectedBy := conciergeId
  condition := data.condition
  fuelLevelPct := data.fuelLevelPct
  mileageKm := data.mileageKm
  damagesFound := data.damagesFound
  damageNotes := data.damageNotes
  photos := data.photos.getD []
  clientSignature := data.clientSignature
  inspectedAt := now

/-- The store, the inspections, and the events `inspection.damages_found`. -/
structure Backend extends Store where
  inspections : Table VehicleInspection
  damagesReported : List (BookingId × VehicleInspection)

namespace Backend

variable {α β : Type}

/-- A call that works on the store leaves the inspections alone. -/
def onStore (action : Service α) : ServiceM Backend α := fun backend =>
  match action backend.toStore with
  | .ok a store => .ok a { backend with toStore := store }
  | .error e store => .error e { backend with toStore := store }

theorem onStore_apply (action : Service α) (backend : Backend) :
    onStore action backend =
      match action.run backend.toStore with
      | .ok a store => .ok a { backend with toStore := store }
      | .error e store => .error e { backend with toStore := store } := rfl

@[simp] theorem onStore_bind (action : Service α) (f : α → Service β) :
    onStore (action >>= f) = onStore action >>= fun a => onStore (f a) := by
  funext backend
  show (match EStateM.bind action f backend.toStore with
    | .ok a store => .ok a { backend with toStore := store }
    | .error e store => .error e { backend with toStore := store }) =
      EStateM.bind (onStore action) (fun a => onStore (f a)) backend
  simp only [EStateM.bind, onStore]
  cases action backend.toStore <;> rfl

@[simp] theorem onStore_map (f : α → β) (action : Service α) :
    onStore (f <$> action) = f <$> onStore action := by
  rw [map_eq_pure_bind, map_eq_pure_bind, onStore_bind]
  rfl

@[simp] theorem onStore_tryFinally (body : Service α) (cleanup : Service Unit) :
    onStore (tryFinally body cleanup) = tryFinally (onStore body) (onStore cleanup) := by
  unfold tryFinally
  rw [onStore_map]
  refine congrArg (_ <$> ·) ?_
  funext backend
  simp only [onStore, MonadFinally.tryFinally']
  cases body backend.toStore with
  | ok a store => dsimp only; cases cleanup store <;> rfl
  | error e store => dsimp only; cases cleanup store <;> rfl

end Backend

/-! ## Commands -/

/-- The partial updates of `bookings`. -/
inductive BookingUpdate
  | status (status : BookingStatus)
  | cancelled (user : CurrentUser) (reason : Option String)
  | completed (now : Time)
  | depositHeld (conciergeId : UserId) (proofUrl : Option String) (now : Time)
  | checkedIn (now : Time)
  | checkedOut (read : Booking) (now : Time)

def BookingUpdate.apply : BookingUpdate → Booking → Booking
  | .status value => Booking.withStatus value
  | .cancelled user reason => Booking.asCancelled user reason
  | .completed now => Booking.asCompleted now
  | .depositHeld conciergeId proofUrl now => Booking.withDepositHeld conciergeId proofUrl now
  | .checkedIn now => Booking.asCheckedIn now
  | .checkedOut read now => Booking.asCheckedOut read now

/-- The partial updates of `payments`. -/
inductive PaymentUpdate
  | pending
  | intent (intentId : String)
  | confirmed (status : PaymentStatus) (amount : Amount) (dto : ConfirmPaymentDto)
      (adminId : UserId) (now : Time)
  | rejected (adminId : UserId) (reason : Option String) (now : Time)
  | refunded (amount : Amount) (adminId : UserId) (now : Time)
  | captured (amount : Amount) (now : Time)

def PaymentUpdate.apply : PaymentUpdate → Payment → Payment
  | .pending => Payment.asPending
  | .intent intentId => Payment.withIntent intentId
  | .confirmed status amount dto adminId now =>
      Payment.asConfirmed status amount dto adminId now
  | .rejected adminId reason now => Payment.asRejected adminId reason now
  | .refunded amount adminId now => Payment.asRefunded amount adminId now
  | .captured amount now => Payment.asCaptured amount now

/-- What a call can await. -/
inductive Command
  | findBooking (id : BookingId)
  | findPayment (id : PaymentId)
  | findPaymentWhere (p : Payment → Bool)
  | findAssignment (p : ConciergeAssignment → Bool)
  | queryAvailability (lib : DateLib) (dto : CreateBookingDto)
  | acquireLock (key : String) (ttlSeconds : ℕ)
  | releaseLock (key : String)
  | insertBooking (booking : Booking)
  | insertPayment (payment : Payment)
  | insertAssignment (assignment : ConciergeAssignment)
  | saveInspection (inspection : VehicleInspection)
  | updateBooking (id : BookingId) (update : BookingUpdate)
  | updatePayment (id : PaymentId) (update : PaymentUpdate)
  | failPaymentsWhere (p : Payment → Bool)
  /-- The transaction that updates a payment and its booking. -/
  | settle (paymentId : PaymentId) (payment : PaymentUpdate) (bookingId : BookingId)
      (status : BookingStatus)
  | autoCompleteBookings (today : Day)
  | cancelExpiredPendingBookings (now : Time)
  | emit (event : DomainEvent)
  | reportDamages (bookingId : BookingId) (inspection : VehicleInspection)

namespace Command

/-- What a command returns. -/
abbrev Reply : Command → Type
  | .findBooking _ => Option Booking
  | .findPayment _ => Option Payment
  | .findPaymentWhere _ => Option (PaymentId × Payment)
  | .findAssignment _ => Option (ℕ × ConciergeAssignment)
  | .queryAvailability _ _ => Bool
  | .acquireLock _ _ => Bool
  | .insertBooking _ => BookingId
  | .insertPayment _ => PaymentId
  | .insertAssignment _ => ConciergeAssignment
  | .saveInspection _ => VehicleInspection
  | _ => Unit

/-- The commands that look and change nothing. -/
def isRead : Command → Bool
  | .findBooking _ | .findPayment _ | .findPaymentWhere _ | .findAssignment _
  | .queryAvailability _ _ => true
  | _ => false

open Backend

/-- What a command does. -/
def handle : (c : Command) → ServiceM Backend (Reply c)
  | .findBooking id => onStore (Service.findBooking id)
  | .findPayment id => onStore (Service.findPayment id)
  | .findPaymentWhere p => onStore (Service.findPaymentWhere p)
  | .findAssignment p => onStore (do return (← get).assignments.findWhere p)
  | .queryAvailability lib dto =>
      onStore (Service.queryAvailability lib dto.resourceId dto.resourceType dto.startDate
        dto.endDate)
  | .acquireLock key ttlSeconds => onStore (Service.acquireLock key ttlSeconds)
  | .releaseLock key => onStore (Service.releaseLock key)
  | .insertBooking booking => onStore (Service.insertBooking booking)
  | .insertPayment payment => onStore (Service.insertPayment payment)
  | .insertAssignment assignment => onStore do
      modify fun store => { store with assignments := store.assignments.insertRow assignment }
      return assignment
  | .saveInspection inspection => do
      modify fun backend =>
        { backend with inspections := backend.inspections.insertRow inspection }
      return inspection
  | .updateBooking id update => onStore (Service.updateBooking id update.apply)
  | .updatePayment id update => onStore (Service.updatePayment id update.apply)
  | .failPaymentsWhere p => onStore (Service.updatePaymentsWhere p Payment.asFailed)
  | .settle paymentId payment bookingId status => onStore do
      Service.updatePayment paymentId payment.apply
      Service.updateBooking bookingId (Booking.withStatus status)
  | .autoCompleteBookings today => onStore (StayRide.autoCompleteBookings today)
  | .cancelExpiredPendingBookings now => onStore (StayRide.cancelExpiredPendingBookings now)
  | .emit event => onStore (Service.emit event)
  | .reportDamages bookingId inspection =>
      modify fun backend =>
        { backend with damagesReported := backend.damagesReported ++ [(bookingId, inspection)] }

/-! ## What a command does to the two tables that decide who may handle a booking -/

/-- The bookings after a command that was carried out. -/
def bookingsAfter (backend : Backend) : Command → Table Booking
  | .insertBooking booking => backend.bookings.insertRow booking
  | .updateBooking id update => backend.bookings.updateById id update.apply
  | .settle _ _ bookingId status =>
      backend.bookings.updateById bookingId (Booking.withStatus status)
  | .autoCompleteBookings today =>
      backend.bookings.updateWhere (fun _ b => b.isOver today) (Booking.withStatus .completed)
  | .cancelExpiredPendingBookings now =>
      backend.bookings.updateWhere (Booking.isExpired backend.payments now)
        (Booking.withStatus .cancelled)
  | _ => backend.bookings

/-- The assignments after a command that was carried out. -/
def assignmentsAfter (backend : Backend) : Command → Table ConciergeAssignment
  | .insertAssignment assignment => backend.assignments.insertRow assignment
  | _ => backend.assignments

/-- The availability query can fail, and changes nothing then too. -/
theorem onStore_queryAvailability (lib : DateLib) (dto : CreateBookingDto)
    (backend : Backend) :
    onStore (Service.queryAvailability lib dto.resourceId dto.resourceType dto.startDate
        dto.endDate) backend =
      match checkAvailability lib backend.bookings dto.resourceId dto.resourceType
          dto.startDate dto.endDate with
      | .ok free => .ok free backend
      | .error e => .error e backend := by
  rw [onStore_apply]
  cases h : checkAvailability lib backend.bookings dto.resourceId dto.resourceType
      dto.startDate dto.endDate <;> simp [Service.queryAvailability, h]

/-- The commands that look leave everything as it is. -/
theorem reply_of_isRead {c : Command} (h : c.isRead = true) (failure : Option HttpException)
    (backend : Backend) : (Program.reply handle failure c backend).1 = backend := by
  cases failure with
  | some e => rfl
  | none =>
      cases c with
      | queryAvailability lib dto =>
          simp only [Program.reply, handle, onStore_queryAvailability]
          cases checkAvailability lib backend.bookings dto.resourceId dto.resourceType
            dto.startDate dto.endDate <;> rfl
      | findBooking | findPayment | findPaymentWhere | findAssignment => rfl
      | _ => cases h

/-- A command writes both tables or, when it is rejected, neither. -/
theorem reply_tables (failure : Option HttpException) (c : Command) (backend : Backend) :
    ((Program.reply handle failure c backend).1.bookings =
        if failure = none then c.bookingsAfter backend else backend.bookings) ∧
      (Program.reply handle failure c backend).1.assignments =
        if failure = none then c.assignmentsAfter backend else backend.assignments := by
  cases failure with
  | some e => exact ⟨rfl, rfl⟩
  | none =>
      cases c with
      | queryAvailability lib dto =>
          rw [reply_of_isRead rfl]
          exact ⟨rfl, rfl⟩
      | _ => exact ⟨rfl, rfl⟩

end Command

/-- A command that was sent, with the reply. -/
abbrev Sent := (c : Command) × Except HttpException c.Reply

/-- The command was carried out. -/
def Sent.accepted (x : Sent) : Bool :=
  x.2.isOk

/-- A call that can be suspended at its awaits. -/
abbrev Async (α : Type) := Program Command.Reply HttpException α

end StayRide
