import StayRide.Concierge.Access

/-!
# What is agreed stays agreed

A booking fixes who books what, for which days and at which price; a payment fixes who
owes what for which booking.  All operations of the platform, in any number and
interleaved in any way, leave this alone: `terms_never_change`.  And what a payment asks
for is what its booking costs, from the customer who made it: `payments_bill_bookings`.

`initiatePayment` reads the booking long before it writes the payment, and the events
carry bookings that were read earlier.  Both are right all the same, because only the
columns outside the contract can have changed in between.  So the protocol
(`contractProtocol`) is that the three logs grow at their ends: contracts, bills and
events.  A command is `Correct` where the bill or the event that it adds agrees with a
contract that is there.
-/

namespace StayRide

open Lib

/-- What a booking says and no operation changes. -/
@[ext] structure Contract where
  customerId : UserId
  resourceType : ResourceType
  propertyId : Option ResourceId
  carId : Option ResourceId
  startDate : Day
  endDate : Day
  guestsCount : ℕ
  basePrice : Amount
  cleaningFee : Amount
  platformFee : Amount
  discountAmount : Amount
  couponCode : Option String
  loyaltyPointsUsed : ℕ
  walletUsed : Amount
  totalAmount : Amount
  currency : String
  depositAmount : Amount
  specialRequests : Option String
  createdAt : Time

def Booking.contract (b : Booking) : Contract where
  customerId := b.customerId
  resourceType := b.resourceType
  propertyId := b.propertyId
  carId := b.carId
  startDate := b.startDate
  endDate := b.endDate
  guestsCount := b.guestsCount
  basePrice := b.basePrice
  cleaningFee := b.cleaningFee
  platformFee := b.platformFee
  discountAmount := b.discountAmount
  couponCode := b.couponCode
  loyaltyPointsUsed := b.loyaltyPointsUsed
  walletUsed := b.walletUsed
  totalAmount := b.totalAmount
  currency := b.currency
  depositAmount := b.depositAmount
  specialRequests := b.specialRequests
  createdAt := b.createdAt

/-- What a payment says and no operation changes.  The reference is not part of it: a
manual confirmation replaces it. -/
@[ext] structure Bill where
  bookingId : BookingId
  payerId : UserId
  method : PaymentMethod
  amountExpected : Amount
  phoneNumber : Option String
  currency : String
  createdAt : Time

def Payment.bill (p : Payment) : Bill where
  bookingId := p.bookingId
  payerId := p.payerId
  method := p.method
  amountExpected := p.amountExpected
  phoneNumber := p.phoneNumber
  currency := p.currency
  createdAt := p.createdAt

/-- The bill is for a booking that exists, and it asks its customer for its price. -/
def Bill.Fits (x : Bill) (contracts : Table Contract) : Prop :=
  ∃ contract, contracts[x.bookingId]? = some contract ∧ x.payerId = contract.customerId ∧
    x.amountExpected = contract.totalAmount ∧ x.currency = contract.currency

/-- The booking that an event about a booking carries, with its key. -/
def DomainEvent.subject : DomainEvent → Option (BookingId × Booking)
  | .bookingCreated id booking => some (id, booking)
  | .bookingConfirmed id booking | .bookingCancelled id booking
  | .bookingCompleted id booking | .checkinConfirmed id booking =>
      booking.map fun b => (id, b)
  | .paymentInitiated _ payment booking => some (payment.bookingId, booking)
  | .paymentConfirmed _ _ _ | .paymentPartial _ _ _ | .paymentRejected _ _
  | .paymentRefunded _ _ => none

/-- The booking that the event carries is the one that is stored, but for columns outside
the contract. -/
def DomainEvent.Truthful (event : DomainEvent) (contracts : Table Contract) : Prop :=
  ∀ x ∈ event.subject, contracts[x.1]? = some x.2.contract

namespace Backend

def contracts (backend : Backend) : Table Contract :=
  backend.bookings.map Booking.contract

def bills (backend : Backend) : Table Bill :=
  backend.payments.map Payment.bill

theorem contracts_getElem? {backend : Backend} {id : BookingId} {b : Booking}
    (h : backend.bookings[id]? = some b) : backend.contracts[id]? = some b.contract := by
  rw [contracts, List.getElem?_map, h]
  rfl

end Backend

/-! ## What the commands add -/

namespace Command

def newContracts : Command → List Contract
  | .insertBooking booking => [booking.contract]
  | _ => []

def newBills : Command → List Bill
  | .insertPayment payment => [payment.bill]
  | _ => []

def newEvents : Command → List DomainEvent
  | .emit event => [event]
  | _ => []

/-- The command adds its entries to the three logs when it is carried out, and leaves them
alone otherwise. -/
theorem reply_logs (failure : Option HttpException) (c : Command) (backend : Backend) :
    (Program.reply handle failure c backend).1.contracts =
        backend.contracts ++ (if failure = none then c.newContracts else []) ∧
      (Program.reply handle failure c backend).1.bills =
        backend.bills ++ (if failure = none then c.newBills else []) ∧
      (Program.reply handle failure c backend).1.events =
        backend.events ++ (if failure = none then c.newEvents else []) := by
  have hsame : ∀ after : Backend, after.contracts = backend.contracts →
      after.bills = backend.bills → after.events = backend.events →
      after.contracts = backend.contracts ++ [] ∧ after.bills = backend.bills ++ [] ∧
        after.events = backend.events ++ [] := by
    intro after hcontracts hbills hevents
    simp only [List.append_nil]
    exact ⟨hcontracts, hbills, hevents⟩
  cases failure with
  | some e => exact hsame _ rfl rfl rfl
  | none =>
      cases c with
      | queryAvailability lib dto =>
          rw [reply_of_isRead rfl]
          exact hsame _ rfl rfl rfl
      | insertBooking booking =>
          exact ⟨Table.map_insertRow backend.bookings booking, (List.append_nil _).symm,
            (List.append_nil _).symm⟩
      | insertPayment payment =>
          exact ⟨(List.append_nil _).symm, Table.map_insertRow backend.payments payment,
            (List.append_nil _).symm⟩
      | emit event => exact ⟨(List.append_nil _).symm, (List.append_nil _).symm, rfl⟩
      | updateBooking id update =>
          refine hsame _ (Table.map_updateById_of_eq (fun b => ?_) backend.bookings id) rfl rfl
          cases update <;> rfl
      | updatePayment id update =>
          refine hsame _ rfl (Table.map_updateById_of_eq (fun p => ?_) backend.payments id) rfl
          cases update <;> rfl
      | failPaymentsWhere p =>
          refine hsame _ rfl (Table.map_updateWhere_of_eq ?_ backend.payments _) rfl
          exact fun _ => rfl
      | settle paymentId payment bookingId status =>
          refine hsame _ (Table.map_updateById_of_eq ?_ backend.bookings bookingId)
            (Table.map_updateById_of_eq (fun p => ?_) backend.payments paymentId) rfl
          · exact fun _ => rfl
          · cases payment <;> rfl
      | autoCompleteBookings | cancelExpiredPendingBookings =>
          refine hsame _ (Table.map_updateWhere_of_eq ?_ backend.bookings _) rfl rfl
          exact fun _ => rfl
      | _ => exact hsame _ rfl rfl rfl

/-- What the command adds agrees with the contracts that are there. -/
def Correct (c : Command) (backend : Backend) : Prop :=
  (∀ x ∈ c.newBills, x.Fits backend.contracts) ∧
    ∀ event ∈ c.newEvents, event.Truthful backend.contracts

end Command

/-! ## The protocol -/

/-- From one moment to a later one: the three logs grow at their ends. -/
structure ContractsKept (before after : Backend) : Prop where
  contracts : before.contracts <+: after.contracts
  bills : before.bills <+: after.bills
  events : before.events <+: after.events

theorem ContractsKept.getElem? {before after : Backend} (h : ContractsKept before after)
    {id : BookingId} {x : Contract} (hx : before.contracts[id]? = some x) :
    after.contracts[id]? = some x :=
  Table.getElem?_of_isPrefix h.contracts hx

/-- Every bill fits its booking, and every event tells the truth. -/
def contractProtocol : Protocol Backend where
  inv backend := (∀ x ∈ backend.bills, x.Fits backend.contracts) ∧
    ∀ event ∈ backend.events, event.Truthful backend.contracts
  rely := ContractsKept
  refl _ := ⟨List.prefix_rfl, List.prefix_rfl, List.prefix_rfl⟩
  trans h h' := ⟨h.contracts.trans h'.contracts, h.bills.trans h'.bills,
    h.events.trans h'.events⟩

namespace Command

variable {c : Command} {backend : Backend}

/-- A correct command keeps the protocol, whether it is carried out or not. -/
theorem Correct.keeps (hinv : contractProtocol.inv backend) (h : c.Correct backend)
    (failure : Option HttpException) :
    contractProtocol.inv (Program.reply handle failure c backend).1 ∧
      ContractsKept backend (Program.reply handle failure c backend).1 := by
  obtain ⟨hcontracts, hbills, hevents⟩ := reply_logs failure c backend
  have hkept : ContractsKept backend (Program.reply handle failure c backend).1 := by
    refine ⟨?_, ?_, ?_⟩
    · rw [hcontracts]
      exact List.prefix_append _ _
    · rw [hbills]
      exact List.prefix_append _ _
    · rw [hevents]
      exact List.prefix_append _ _
  refine ⟨⟨fun x hx => ?_, fun event hevent => ?_⟩, hkept⟩
  · rw [hbills, List.mem_append] at hx
    have hfits : x.Fits backend.contracts := by
      rcases hx with hx | hx
      · exact hinv.1 x hx
      · by_cases hfailure : failure = none
        · rw [if_pos hfailure] at hx
          exact h.1 x hx
        · rw [if_neg hfailure] at hx
          cases hx
    obtain ⟨contract, hcontract, hbill⟩ := hfits
    exact ⟨contract, hkept.getElem? hcontract, hbill⟩
  · rw [hevents, List.mem_append] at hevent
    have htruthful : event.Truthful backend.contracts := by
      rcases hevent with hevent | hevent
      · exact hinv.2 event hevent
      · by_cases hfailure : failure = none
        · rw [if_pos hfailure] at hevent
          exact h.2 event hevent
        · rw [if_neg hfailure] at hevent
          cases hevent
    exact fun x hx => hkept.getElem? (htruthful x hx)

/-- The commands that add neither a bill nor an event. -/
def isSilent : Command → Bool
  | .insertPayment _ | .emit _ => false
  | _ => true

theorem correct_of_isSilent (h : c.isSilent = true) (backend : Backend) : c.Correct backend := by
  cases c with
  | insertPayment | emit => cases h
  | _ => exact ⟨fun _ hx => (List.not_mem_nil hx).elim, fun _ hx => (List.not_mem_nil hx).elim⟩

theorem correct_emit {event : DomainEvent} (h : event.Truthful backend.contracts) :
    (emit event).Correct backend := by
  refine ⟨fun _ hx => (List.not_mem_nil hx).elim, fun e he => ?_⟩
  obtain rfl := List.mem_singleton.mp he
  exact h

end Command

/-! ## The programs keep it -/

/-- A booking that was read under the key `id` agrees with what is stored there. -/
def Told (id : BookingId) (read : Option Booking) (backend : Backend) : Prop :=
  ∀ b ∈ read, backend.contracts[id]? = some b.contract

theorem Told.stable {id : BookingId} {read : Option Booking} {before after : Backend}
    (h : Told id read before) (hkept : ContractsKept before after) : Told id read after :=
  fun b hb => hkept.getElem? (h b hb)

/-- The four events that carry a booking read under its key. -/
theorem Told.truthful {id : BookingId} {read : Option Booking} {backend : Backend}
    (h : Told id read backend) {event : DomainEvent}
    (hsubject : event.subject = read.map fun b => (id, b)) :
    event.Truthful backend.contracts := by
  intro x hx
  rw [hsubject] at hx
  obtain ⟨b, hb, rfl⟩ := Option.map_eq_some_iff.mp hx
  exact h b hb

namespace Async

variable {α β : Type} {backend : Backend} {post : β → Backend → Prop}

/-- The program keeps the protocol from `backend` on, and `post` holds when it returns. -/
abbrev KeepsContracts (post : α → Backend → Prop) (p : Async α) (backend : Backend) : Prop :=
  p.Safe contractProtocol Command.handle Command.Correct post backend

/-- A command that is correct wherever the others have got to, and what follows. -/
theorem keepsContracts_call {c : Command} {f : c.Reply → Async β}
    (hcorrect : ∀ later, ContractsKept backend later → c.Correct later)
    (h : ∀ r later, ContractsKept backend later → KeepsContracts post (f r) later) :
    KeepsContracts post (Program.call c >>= f) backend := by
  refine .bind (.command fun later hkept hinv => ⟨hcorrect later hkept, fun failure => ?_⟩)
  obtain ⟨hinv', hkept'⟩ := (hcorrect later hkept).keeps hinv failure
  exact ⟨hinv', hkept', fun r _ => h r _ (contractProtocol.trans hkept hkept')⟩

/-- A command at the end of a program. -/
theorem keepsContracts_last {c : Command}
    (hcorrect : ∀ later, ContractsKept backend later → c.Correct later) :
    KeepsContracts (fun _ _ => True) (Program.call c) backend := by
  refine .command fun later hkept hinv => ⟨hcorrect later hkept, fun failure => ?_⟩
  obtain ⟨hinv', hkept'⟩ := (hcorrect later hkept).keeps hinv failure
  exact ⟨hinv', hkept', fun _ _ => trivial⟩

theorem keepsContracts_silent {c : Command} (hc : c.isSilent = true) {f : c.Reply → Async β}
    (h : ∀ r later, ContractsKept backend later → KeepsContracts post (f r) later) :
    KeepsContracts post (Program.call c >>= f) backend :=
  keepsContracts_call (fun later _ => Command.correct_of_isSilent hc later) h

theorem keepsContracts_emit {event : DomainEvent} {f : Unit → Async β}
    (hevent : event.Truthful backend.contracts)
    (h : ∀ later, ContractsKept backend later → KeepsContracts post (f ()) later) :
    KeepsContracts post (emit event >>= f) backend := by
  refine keepsContracts_call (fun later hkept => Command.correct_emit fun x hx => ?_)
    fun _ later hkept => h later hkept
  exact hkept.getElem? (hevent x hx)

/-- A lookup, after which the booking is known. -/
theorem keepsContracts_findBooking {id : BookingId} {f : Option Booking → Async β}
    (h : ∀ read later, ContractsKept backend later → Told id read later →
      KeepsContracts post (f read) later) :
    KeepsContracts post (findBooking id >>= f) backend := by
  refine .bind (.read (fun _ => rfl) fun later hkept _ => ⟨Command.correct_of_isSilent rfl _, ?_⟩)
  exact h _ later hkept fun b hb => Backend.contracts_getElem? hb

/-- A booking is stored, and then known under its key. -/
theorem keepsContracts_insertBooking {booking : Booking} {f : BookingId → Async β}
    (h : ∀ id later, Told id (some booking) later → KeepsContracts post (f id) later) :
    KeepsContracts post (insertBooking booking >>= f) backend := by
  have hcorrect : ∀ later : Backend, (Command.insertBooking booking).Correct later :=
    Command.correct_of_isSilent rfl
  refine .bind (.command fun later hkept hinv => ⟨hcorrect later, fun failure => ?_⟩)
  obtain ⟨hinv', hkept'⟩ := (hcorrect later).keeps hinv failure
  refine ⟨hinv', hkept', fun id hid => h id _ fun b hb => ?_⟩
  obtain rfl := Option.some.inj hb
  cases failure with
  | some e => cases hid
  | none =>
      obtain rfl : later.bookings.length = id := Except.ok.inj hid
      exact Backend.contracts_getElem? (Table.getElem?_insertRow_self later.bookings booking)

theorem keepsContracts_toColumn (q : ℚ) {f : Amount → Async β}
    (h : ∀ amount, KeepsContracts post (f amount) backend) :
    KeepsContracts post (toColumn q >>= f) backend := by
  refine .bind ?_
  unfold toColumn
  cases (Decimal.ofRat q : Option Amount) with
  | none => trivial
  | some amount => exact h amount

/-- Nothing is asked of the result. -/
abbrev KeepsAll (p : Async α) : Prop :=
  ∀ backend, KeepsContracts (fun _ _ => True) p backend

/-- A booking is read again and its event is emitted, at the end of most calls. -/
theorem keepsContracts_report {id : BookingId} {event : Option Booking → DomainEvent}
    (hsubject : ∀ read, (event read).subject = read.map fun b => (id, b))
    {f : Option Booking → Async β}
    (h : ∀ read later, KeepsContracts post (f read) later) :
    KeepsContracts post (findBooking id >>= fun read => emit (event read) >>= fun _ => f read)
      backend :=
  keepsContracts_findBooking fun read _ _ htold =>
    keepsContracts_emit (htold.truthful (hsubject read)) fun later _ => h read later

theorem keepsAll_create (lib : DateLib) (dto : CreateBookingDto) (customerId : UserId)
    (now : Time) : KeepsAll (create lib dto customerId now) := by
  have hlocked : KeepsAll (createLocked lib dto customerId now) := by
    intro backend
    refine keepsContracts_silent rfl fun stillAvailable later _ =>
      .ite (fun _ => trivial) fun _ => ?_
    cases newBooking lib dto customerId now with
    | none => trivial
    | some booking =>
        refine keepsContracts_insertBooking fun id later htold => ?_
        exact keepsContracts_emit (htold.truthful rfl) fun _ _ => trivial
  intro backend
  refine keepsContracts_silent rfl fun available later _ => .ite (fun _ => trivial) fun _ => ?_
  refine keepsContracts_silent rfl fun acquired later _ => .ite (fun _ => trivial) fun _ => ?_
  refine .tryFinally (hlocked later) fun s => ?_
  exact keepsContracts_last fun later _ => Command.correct_of_isSilent rfl later

theorem keepsAll_cancel (bookingId : BookingId) (user : CurrentUser) (reason : Option String) :
    KeepsAll (cancel bookingId user reason) := by
  intro backend
  refine keepsContracts_findBooking fun read later _ _ => ?_
  cases read with
  | none => trivial
  | some booking =>
      refine .ite (fun _ => trivial) fun _ => .ite (fun _ => trivial) fun _ => ?_
      exact keepsContracts_silent rfl fun _ later _ =>
        keepsContracts_report (fun _ => rfl) fun _ _ => trivial

theorem keepsAll_complete (bookingId : BookingId) (now : Time) :
    KeepsAll (complete bookingId now) := fun _ =>
  keepsContracts_silent rfl fun _ _ _ =>
    keepsContracts_report (fun _ => rfl) fun _ _ => trivial

/-- The bill is written for the booking that was read, and asks its customer. -/
theorem keepsAll_initiatePayment (settings : PaymentMethod → Option Bool)
    (stripe : StripeReply) (bookingId : BookingId) (method : PaymentMethod)
    (customerId : UserId) (phone : Option String) (reference : String) (now : Time) :
    KeepsAll (initiatePayment settings stripe bookingId method customerId phone reference
      now) := by
  intro backend
  refine .bind (.ite (fun _ => ?_) fun _ => trivial)
  refine keepsContracts_findBooking fun read s₁ _ htold => ?_
  cases hread : read.filter (·.customerId = customerId) with
  | none => trivial
  | some booking =>
      obtain ⟨rfl, hcustomer⟩ := Option.filter_eq_some_iff.mp hread
      have hcontract : s₁.contracts[bookingId]? = some booking.contract := htold booking rfl
      refine .ite (fun _ => trivial) fun _ => keepsContracts_silent rfl fun existing s₂ h₂ => ?_
      cases existing with
      | some payment => trivial
      | none =>
          refine keepsContracts_call (fun later hkept => ⟨fun x hx => ?_, fun _ hx =>
            (List.not_mem_nil hx).elim⟩) fun paymentId s₃ h₃ => ?_
          · obtain rfl := List.mem_singleton.mp hx
            exact ⟨booking.contract, hkept.getElem? (h₂.getElem? hcontract),
              (of_decide_eq_true hcustomer).symm, rfl, rfl⟩
          · have htold₃ : Told bookingId (some booking) s₃ :=
              (htold.stable h₂).stable h₃
            cases method with
            | stripe =>
                cases stripe with
                | notConfigured | rejected => trivial
                | created intentId => exact keepsContracts_silent rfl fun _ _ _ => trivial
            | paypal => exact keepsContracts_silent rfl fun _ _ _ => trivial
            | orangeMoney | mtnMomo | cash | other =>
                refine keepsContracts_silent rfl fun _ s₄ h₄ =>
                  keepsContracts_silent rfl fun _ s₅ h₅ => ?_
                exact keepsContracts_emit (((htold₃.stable h₄).stable h₅).truthful rfl)
                  fun _ _ => trivial

/-- An event about a payment carries no booking under its key. -/
theorem truthful_of_subject_none {event : DomainEvent} (h : event.subject = none)
    (contracts : Table Contract) : event.Truthful contracts := by
  intro x hx
  rw [h] at hx
  cases hx

theorem keepsAll_confirmManual (paymentId : PaymentId) (adminId : UserId)
    (data : ConfirmPaymentDto) (now : Time) :
    KeepsAll (confirmManual paymentId adminId data now) := by
  intro backend
  refine keepsContracts_silent rfl fun payment s₁ _ => ?_
  cases payment with
  | none => trivial
  | some payment =>
      refine .ite (fun _ => trivial) fun _ => keepsContracts_toColumn _ fun amount =>
        .ite (fun _ => ?_) fun _ => ?_
      · refine keepsContracts_silent rfl fun _ s₂ _ => keepsContracts_silent rfl fun _ s₃ _ =>
          keepsContracts_findBooking fun _ s₄ _ _ => ?_
        exact keepsContracts_emit (truthful_of_subject_none rfl _) fun _ _ => trivial
      · refine keepsContracts_silent rfl fun _ s₂ _ => keepsContracts_silent rfl fun _ s₃ _ =>
          keepsContracts_report (fun _ => rfl) fun _ s₄ => ?_
        exact keepsContracts_emit (truthful_of_subject_none rfl _) fun _ _ => trivial

theorem keepsAll_rejectPayment (paymentId : PaymentId) (adminId : UserId)
    (reason : Option String) (now : Time) :
    KeepsAll (rejectPayment paymentId adminId reason now) := by
  intro backend
  refine keepsContracts_silent rfl fun payment s₁ _ => ?_
  cases payment with
  | none => trivial
  | some payment =>
      refine keepsContracts_silent rfl fun _ s₂ _ => keepsContracts_silent rfl fun _ s₃ _ => ?_
      exact keepsContracts_emit (truthful_of_subject_none rfl _) fun _ _ => trivial

theorem keepsAll_processRefund (stripe : StripeReply) (paymentId : PaymentId)
    (adminId : UserId) (amount : Option ℚ) (now : Time) :
    KeepsAll (processRefund stripe paymentId adminId amount now) := by
  intro backend
  refine keepsContracts_silent rfl fun payment s₁ _ => ?_
  cases payment with
  | none => trivial
  | some payment =>
      have hrest : KeepsContracts (fun _ _ => True) (do
          let refunded ← toColumn (refundAmount amount payment)
          settle paymentId (.refunded refunded adminId now) payment.bookingId .refunded
          let updated ← findPayment paymentId
          emit (.paymentRefunded paymentId updated)
          return updated) s₁ := by
        refine keepsContracts_toColumn _ fun refunded => keepsContracts_silent rfl fun _ s₂ _ =>
          keepsContracts_silent rfl fun _ s₃ _ => ?_
        exact keepsContracts_emit (truthful_of_subject_none rfl _) fun _ _ => trivial
      refine .ite (fun _ => trivial) fun _ => .bind (.ite (fun _ => ?_) fun _ => hrest)
      cases stripe with
      | created id => exact hrest
      | notConfigured | rejected => trivial

theorem keepsAll_handleStripeWebhook (event : StripeEvent) (now : Time) :
    KeepsAll (handleStripeWebhook event now) := by
  intro backend
  cases event with
  | invalidSignature | chargeRefunded | otherType => trivial
  | paymentIntentPaymentFailed intent =>
      exact keepsContracts_last fun later _ => Command.correct_of_isSilent rfl later
  | paymentIntentSucceeded intent =>
      refine keepsContracts_silent rfl fun found s₁ _ => ?_
      cases found with
      | none => trivial
      | some found =>
          refine keepsContracts_toColumn _ fun amount => keepsContracts_silent rfl fun _ s₂ _ =>
            keepsContracts_findBooking fun read s₃ _ htold => ?_
          exact keepsContracts_last fun later hkept =>
            Command.correct_emit ((htold.stable hkept).truthful rfl)

theorem keepsContracts_validateConciergeAccess (bookingId : BookingId) (conciergeId : UserId)
    {f : Booking → Async β} (h : ∀ read later, KeepsContracts post (f read) later) :
    KeepsContracts post (validateConciergeAccess bookingId conciergeId >>= f) backend := by
  refine .bind (keepsContracts_findBooking fun read s₁ _ _ => ?_)
  cases read with
  | none => trivial
  | some booking =>
      refine keepsContracts_silent rfl fun found s₂ _ => ?_
      cases found with
      | none => trivial
      | some found => exact h booking s₂

theorem keepsAll_assignConcierge (conciergeId : UserId) (resourceType : ResourceType)
    (resourceId : ResourceId) (assignedBy : UserId) :
    KeepsAll (assignConcierge conciergeId resourceType resourceId assignedBy) := by
  intro backend
  refine keepsContracts_silent rfl fun found s₁ _ => ?_
  cases found with
  | some found => trivial
  | none => exact keepsContracts_last fun later _ => Command.correct_of_isSilent rfl later

theorem keepsAll_collectDeposit (bookingId : BookingId) (conciergeId : UserId)
    (proofUrl : Option String) (now : Time) :
    KeepsAll (collectDeposit bookingId conciergeId proofUrl now) := by
  intro backend
  refine keepsContracts_validateConciergeAccess _ _ fun read s₁ =>
    .ite (fun _ => trivial) fun _ => keepsContracts_silent rfl fun _ s₂ _ => ?_
  exact keepsContracts_last fun later _ => Command.correct_of_isSilent rfl later

theorem keepsAll_createInspection (bookingId : BookingId) (conciergeId : UserId)
    (data : InspectionDto) (now : Time) :
    KeepsAll (createInspection bookingId conciergeId data now) := by
  intro backend
  refine keepsContracts_validateConciergeAccess _ _ fun read s₁ =>
    keepsContracts_silent rfl fun inspection s₂ _ => .ite (fun _ => ?_) fun _ => trivial
  exact keepsContracts_silent rfl fun _ _ _ => trivial

/-- **Every operation keeps the contracts**, from every state on. -/
theorem keepsAll_program (lib : DateLib) (now : Time) (operation : Operation) :
    KeepsAll (program lib now operation) := by
  intro backend
  have hdiscard : ∀ {α : Type} {p : Async α}, KeepsAll p →
      KeepsContracts (fun _ _ => True) (discard p) backend :=
    fun h => .bind ((h backend).mono fun _ _ _ => trivial)
  cases operation with
  | createInspection => exact hdiscard (keepsAll_createInspection _ _ _ _)
  | booking call =>
      cases call with
      | create => exact hdiscard (keepsAll_create _ _ _ _)
      | cancel => exact hdiscard (keepsAll_cancel _ _ _)
      | complete => exact hdiscard (keepsAll_complete _ _)
      | initiatePayment => exact hdiscard (keepsAll_initiatePayment _ _ _ _ _ _ _ _)
      | confirmManual => exact hdiscard (keepsAll_confirmManual _ _ _ _)
      | rejectPayment => exact hdiscard (keepsAll_rejectPayment _ _ _ _)
      | processRefund => exact hdiscard (keepsAll_processRefund _ _ _ _ _)
      | handleStripeWebhook => exact keepsAll_handleStripeWebhook _ _ backend
      | assignConcierge => exact hdiscard (keepsAll_assignConcierge _ _ _ _)
      | startCheckin | startCheckout =>
          exact hdiscard fun _ => keepsContracts_validateConciergeAccess _ _ fun _ _ =>
            .ite (fun _ => trivial) fun _ => trivial
      | collectDeposit => exact hdiscard (keepsAll_collectDeposit _ _ _ _)
      | confirmCheckin | confirmCheckout =>
          exact hdiscard fun _ => keepsContracts_validateConciergeAccess _ _ fun _ _ =>
            keepsContracts_silent rfl fun _ _ _ =>
              keepsContracts_report (fun _ => rfl) fun _ _ => trivial
      | autoCompleteBookings | cancelExpiredPendingBookings =>
          exact keepsContracts_last fun later _ => Command.correct_of_isSilent rfl later

end Async

/-! ## All interleavings -/

section Platform

variable {ι : Type} [DecidableEq ι]

/-- An expiring lock touches none of the three logs. -/
theorem contractProtocol_expiry {key : String} {s s' : Backend}
    (hinv : contractProtocol.inv s) (hs : expireBackendLock key s = some s') :
    contractProtocol.inv s' ∧ contractProtocol.rely s s' := by
  obtain rfl := Option.some.inj hs
  exact ⟨hinv, List.prefix_rfl, List.prefix_rfl, List.prefix_rfl⟩

/-- From a store without payments and events the protocol is kept, and every process goes on
keeping it. -/
theorem contracts_of_reach (lib : DateLib) (operations : ι → Time × Operation)
    {backend : Backend} (hpayments : backend.payments = []) (hevents : backend.events = [])
    {c : Config Backend ι (Async Unit)}
    (h : Reach platform (fun _ _ => True) (platformStart lib operations backend) c) :
    contractProtocol.inv c.shared ∧
      ∀ i, (c.pc i).KeepsContracts (fun _ _ => True) c.shared := by
  refine Program.inv_and_safe_of_reach (P := contractProtocol) ⟨?_, ?_⟩
    (fun i => Async.keepsAll_program lib _ _ _)
    (fun _ _ _ hinv hs => contractProtocol_expiry hinv hs) h
  · have hnone : backend.bills = [] := by rw [Backend.bills, hpayments]; rfl
    show ∀ x ∈ backend.bills, _
    rw [hnone]
    exact fun _ hx => (List.not_mem_nil hx).elim
  · show ∀ event ∈ backend.events, _
    rw [hevents]
    exact fun _ hx => (List.not_mem_nil hx).elim

/-- **Payments bill bookings.**  Every payment belongs to a booking that exists, its payer
is the customer of the booking, and it asks for the total of the booking in its
currency. -/
theorem payments_bill_bookings (lib : DateLib) (operations : ι → Time × Operation)
    {backend : Backend} (hpayments : backend.payments = []) (hevents : backend.events = [])
    {c : Config Backend ι (Async Unit)}
    (h : Reach platform (fun _ _ => True) (platformStart lib operations backend) c)
    {p : Payment} (hp : p ∈ c.shared.payments) :
    ∃ b, c.shared.bookings[p.bookingId]? = some b ∧ p.payerId = b.customerId ∧
      p.amountExpected = b.totalAmount ∧ p.currency = b.currency := by
  obtain ⟨⟨hbills, -⟩, -⟩ := contracts_of_reach lib operations hpayments hevents h
  obtain ⟨contract, hcontract, hbill⟩ := hbills p.bill (List.mem_map_of_mem hp)
  rw [Backend.contracts, List.getElem?_map] at hcontract
  obtain ⟨b, hb, rfl⟩ := Option.map_eq_some_iff.mp hcontract
  exact ⟨b, hb, hbill⟩

/-- **What is agreed stays agreed.**  Between any two moments, whatever the operations do
and wherever they are, every booking keeps its customer, its resource, its dates and its
prices, and every payment its booking, its payer and its amount. -/
theorem terms_never_change (lib : DateLib) (operations : ι → Time × Operation)
    {backend : Backend} (hpayments : backend.payments = []) (hevents : backend.events = [])
    {c c' : Config Backend ι (Async Unit)}
    (h : Reach platform (fun _ _ => True) (platformStart lib operations backend) c)
    (h' : Reach platform (fun _ _ => True) c c') :
    (∀ (id : BookingId) (b : Booking), c.shared.bookings[id]? = some b →
      ∃ b', c'.shared.bookings[id]? = some b' ∧ b'.contract = b.contract) ∧
    ∀ (id : PaymentId) (p : Payment), c.shared.payments[id]? = some p →
      ∃ p', c'.shared.payments[id]? = some p' ∧ p'.bill = p.bill := by
  obtain ⟨hinv, hsafe⟩ := contracts_of_reach lib operations hpayments hevents h
  have hkept : ContractsKept c.shared c'.shared := Program.rely_of_reach hinv hsafe
    (fun _ _ _ hinv hs => contractProtocol_expiry hinv hs) h'
  constructor
  · intro id b hb
    have hlater := hkept.getElem? (Backend.contracts_getElem? hb)
    rw [Backend.contracts, List.getElem?_map] at hlater
    exact Option.map_eq_some_iff.mp hlater
  · intro id p hp
    have hbill : c.shared.bills[id]? = some p.bill := by
      rw [Backend.bills, List.getElem?_map, hp]
      rfl
    have hlater := Table.getElem?_of_isPrefix hkept.bills hbill
    rw [Backend.bills, List.getElem?_map] at hlater
    exact Option.map_eq_some_iff.mp hlater

end Platform

namespace Demo

/-- Customer 1 books the car and pays in cash; the booking is cancelled in between. -/
def carPaidInCash : Fin 3 → Time × Operation
  | 0 => (0, .booking (.create clio 1))
  | 1 => (1, .booking (.initiatePayment (fun _ => some true) .notConfigured 0 .cash 1 none
      "SR-1"))
  | 2 => (2, .booking (.cancel 0 ⟨1, .customer⟩ none))

def carRun (i : Fin 3) (n : ℕ) : List (Move (Fin 3) (Option HttpException) String) :=
  List.replicate n (.process i none)

end Demo

section Examples

open Demo

theorem payments_bill_bookings_car : ∃ (c : Config Backend (Fin 3) (Async Unit)) (p : Payment),
    Reach platform (fun _ _ => True) (platformStart dates carPaidInCash emptyBackend) c ∧
    p ∈ c.shared.payments ∧
    ∃ b, c.shared.bookings[p.bookingId]? = some b ∧ p.payerId = b.customerId ∧
      p.amountExpected = b.totalAmount ∧ p.currency = b.currency := by
  have hrun : (replay platform (platformStart dates carPaidInCash emptyBackend)
      (carRun 0 6 ++ carRun 1 2 ++ carRun 2 4 ++ carRun 1 1)).map
        (fun c => c.shared.payments.length) = some 1 := by
    decide +kernel
  obtain ⟨c, hc, hlength⟩ := exists_reach_of_unguarded hrun
  obtain ⟨p, hp⟩ := List.exists_mem_of_length_pos (by rw [hlength]; exact Nat.one_pos)
  exact ⟨c, p, hc, hp, payments_bill_bookings dates carPaidInCash rfl rfl hc hp⟩

theorem terms_never_change_car : ∃ c c' : Config Backend (Fin 3) (Async Unit),
    Reach platform (fun _ _ => True) (platformStart dates carPaidInCash emptyBackend) c ∧
    Reach platform (fun _ _ => True) c c' ∧ c.shared.bookings.length = 1 ∧
    c'.shared.payments.length = 1 ∧
    (∀ (id : BookingId) (b : Booking), c.shared.bookings[id]? = some b →
      ∃ b', c'.shared.bookings[id]? = some b' ∧ b'.contract = b.contract) ∧
    ∀ (id : PaymentId) (p : Payment), c.shared.payments[id]? = some p →
      ∃ p', c'.shared.payments[id]? = some p' ∧ p'.bill = p.bill := by
  have hrun : ((replay platform (platformStart dates carPaidInCash emptyBackend)
      (carRun 0 6 ++ carRun 1 2)).bind fun c =>
        (replay platform c (carRun 2 4 ++ carRun 1 1)).map fun c' =>
          (c.shared.bookings.length, c'.shared.payments.length)) = some (1, 1) := by
    decide +kernel
  obtain ⟨c, hc, hrest⟩ := Option.bind_eq_some_iff.mp hrun
  obtain ⟨c', hc', hlengths⟩ := Option.map_eq_some_iff.mp hrest
  obtain ⟨hbookings, hpayments⟩ := Prod.mk.inj hlengths
  have hreach := Reach.refl.replay (G := fun _ _ => True) _ (fun _ _ _ => trivial) hc
  have hreach' := Reach.refl.replay (G := fun _ _ => True) _ (fun _ _ _ => trivial) hc'
  exact ⟨c, c', hreach, hreach', hbookings, hpayments,
    terms_never_change dates carPaidInCash rfl rfl hreach hreach'⟩

end Examples

end StayRide
