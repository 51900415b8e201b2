import StayRide.Concierge.Custody

/-!
# Who may touch a booking, and what becomes of its deposit

All operations of the platform, in any number and interleaved in any way, from an empty
bookings table.  Two things hold throughout.

* Every booking is well kept: its deposit status fits its amount, and a deposit that has
  been collected was collected by a concierge of the resource
  (`deposit_bookkeeping`).
* The four operations of a concierge on a booking write only while the assignments table
  holds an active assignment of that concierge to exactly the resource of the booking
  (`writes_only_when_assigned`).

The access check looks at the booking and then at the assignments, and the writes come
later; `InCustody` is what survives in between.  The check itself drops a criterion that
is null, so it means something only because every booking names its resource.
-/

namespace StayRide

open Lib

/-- The booking and the concierge of an operation that needs access. -/
def Operation.handler : Operation → Option (BookingId × UserId)
  | .booking (.collectDeposit bookingId conciergeId _) => some (bookingId, conciergeId)
  | .booking (.confirmCheckin bookingId conciergeId) => some (bookingId, conciergeId)
  | .booking (.confirmCheckout bookingId conciergeId) => some (bookingId, conciergeId)
  | .createInspection bookingId conciergeId _ => some (bookingId, conciergeId)
  | .booking _ => none

/-- What the request validation has checked: `resource_id` is a UUID, so not empty. -/
def Operation.Validated : Operation → Prop
  | .booking (.create dto _) => dto.resourceId ≠ ""
  | _ => True

/-- If the command writes and its operation needs access, the concierge is assigned. -/
def Operation.Authorised (operation : Operation) (cmd : Command) (backend : Backend) : Prop :=
  cmd.isRead = false → ∀ access ∈ operation.handler,
    ∃ x, backend.custodies[access.1]? = some x ∧ x.AssignedTo backend.assignments access.2

/-! ## Operations without access check -/

/-- The command keeps the custody of all bookings in every state. -/
def Command.Harmless (c : Command) : Prop :=
  ∀ backend, custodyProtocol.inv backend → c.KeepsCustody backend

namespace Async

/-- One command that leaves custodies and assignments alone. -/
theorem uses_quiet {c : Command} (h : c.isQuiet = true) :
    (Program.call c : Async c.Reply).Uses Command.Harmless :=
  Program.uses_call fun _ hinv => Command.keepsCustody_of_isQuiet h hinv

theorem uses_toColumn (q : ℚ) : (toColumn q).Uses Command.Harmless := by
  unfold toColumn
  cases (Decimal.ofRat q : Option Amount) <;> trivial

theorem uses_create (lib : DateLib) {dto : CreateBookingDto} (hdto : dto.resourceId ≠ "")
    (customerId : UserId) (now : Time) :
    (create lib dto customerId now).Uses Command.Harmless := by
  have hlocked : (createLocked lib dto customerId now).Uses Command.Harmless := by
    refine .bind (uses_quiet rfl) fun stillAvailable => .ite (fun _ => trivial) fun _ => ?_
    cases hnew : newBooking lib dto customerId now with
    | none => trivial
    | some booking =>
        refine .bind (Program.uses_call fun backend hinv => ?_) fun id =>
          .bind (uses_quiet rfl) fun _ => trivial
        exact Command.keepsCustody_insertBooking hinv
          (Custody.wellKept_of_newBooking hdto hnew backend.assignments)
  refine .bind (uses_quiet rfl) fun available => .ite (fun _ => trivial) fun _ => ?_
  refine .bind (uses_quiet rfl) fun acquired => .ite (fun _ => trivial) fun _ => ?_
  exact .tryFinally hlocked (uses_quiet rfl)

theorem uses_cancel (bookingId : BookingId) (user : CurrentUser) (reason : Option String) :
    (cancel bookingId user reason).Uses Command.Harmless := by
  refine .bind (uses_quiet rfl) fun booking => ?_
  cases booking with
  | none => trivial
  | some booking =>
      refine .ite (fun _ => trivial) fun _ => .ite (fun _ => trivial) fun _ => ?_
      exact .bind (uses_quiet rfl) fun _ => .bind (uses_quiet rfl) fun _ =>
        .bind (uses_quiet rfl) fun _ => trivial

theorem uses_initiatePayment (settings : PaymentMethod → Option Bool)
    (stripe : StripeReply) (bookingId : BookingId) (method : PaymentMethod)
    (customerId : UserId) (phone : Option String) (reference : String) (now : Time) :
    (initiatePayment settings stripe bookingId method customerId phone reference now).Uses
      Command.Harmless := by
  refine .bind (.ite (fun _ => trivial) fun _ => trivial) fun _ =>
    .bind (uses_quiet rfl) fun found => ?_
  cases found.filter (·.customerId = customerId) with
  | none => trivial
  | some booking =>
      refine .ite (fun _ => trivial) fun _ => .bind (uses_quiet rfl) fun existing => ?_
      cases existing with
      | some payment => trivial
      | none =>
          refine .bind (uses_quiet rfl) fun paymentId => ?_
          cases method with
          | stripe =>
              cases stripe with
              | notConfigured | rejected => trivial
              | created intentId => exact .bind (uses_quiet rfl) fun _ => trivial
          | paypal => exact .bind (uses_quiet rfl) fun _ => trivial
          | orangeMoney | mtnMomo | cash | other =>
              exact .bind (uses_quiet rfl) fun _ => .bind (uses_quiet rfl) fun _ =>
                .bind (uses_quiet rfl) fun _ => trivial

theorem uses_confirmManual (paymentId : PaymentId) (adminId : UserId)
    (data : ConfirmPaymentDto) (now : Time) :
    (confirmManual paymentId adminId data now).Uses Command.Harmless := by
  refine .bind (uses_quiet rfl) fun payment => ?_
  cases payment with
  | none => trivial
  | some payment =>
      refine .ite (fun _ => trivial) fun _ => .bind (uses_toColumn _) fun amount =>
        .ite (fun _ => ?_) fun _ => ?_
      · exact .bind (uses_quiet rfl) fun _ => .bind (uses_quiet rfl) fun _ =>
          .bind (uses_quiet rfl) fun _ => .bind (uses_quiet rfl) fun _ => trivial
      · exact .bind (uses_quiet rfl) fun _ => .bind (uses_quiet rfl) fun _ =>
          .bind (uses_quiet rfl) fun _ => .bind (uses_quiet rfl) fun _ =>
            .bind (uses_quiet rfl) fun _ => trivial

theorem uses_rejectPayment (paymentId : PaymentId) (adminId : UserId)
    (reason : Option String) (now : Time) :
    (rejectPayment paymentId adminId reason now).Uses Command.Harmless := by
  refine .bind (uses_quiet rfl) fun payment => ?_
  cases payment with
  | none => trivial
  | some payment =>
      exact .bind (uses_quiet rfl) fun _ => .bind (uses_quiet rfl) fun _ =>
        .bind (uses_quiet rfl) fun _ => trivial

theorem uses_processRefund (stripe : StripeReply) (paymentId : PaymentId)
    (adminId : UserId) (amount : Option ℚ) (now : Time) :
    (processRefund stripe paymentId adminId amount now).Uses Command.Harmless := by
  refine .bind (uses_quiet rfl) fun payment => ?_
  cases payment with
  | none => trivial
  | some payment =>
      refine .ite (fun _ => trivial) fun _ => .bind (.ite (fun _ => ?_) fun _ => trivial) fun _ =>
        .bind (uses_toColumn _) fun refunded => ?_
      · cases stripe <;> trivial
      · exact .bind (uses_quiet rfl) fun _ => .bind (uses_quiet rfl) fun _ =>
          .bind (uses_quiet rfl) fun _ => trivial

theorem uses_handleStripeWebhook (event : StripeEvent) (now : Time) :
    (handleStripeWebhook event now).Uses Command.Harmless := by
  cases event with
  | invalidSignature | chargeRefunded | otherType => trivial
  | paymentIntentPaymentFailed intent => exact uses_quiet rfl
  | paymentIntentSucceeded intent =>
      refine .bind (uses_quiet rfl) fun found => ?_
      cases found with
      | none => trivial
      | some found =>
          exact .bind (uses_toColumn _) fun amount => .bind (uses_quiet rfl) fun _ =>
            .bind (uses_quiet rfl) fun _ => uses_quiet rfl

theorem uses_assignConcierge (conciergeId : UserId) (resourceType : ResourceType)
    (resourceId : ResourceId) (assignedBy : UserId) :
    (assignConcierge conciergeId resourceType resourceId assignedBy).Uses
      Command.Harmless := by
  refine .bind (uses_quiet rfl) fun found => ?_
  cases found with
  | some found => trivial
  | none =>
      exact Program.uses_call fun backend hinv => Command.keepsCustody_insertAssignment hinv _

theorem uses_validateConciergeAccess_harmless (bookingId : BookingId) (conciergeId : UserId) :
    (validateConciergeAccess bookingId conciergeId).Uses Command.Harmless := by
  refine .bind (uses_quiet rfl) fun booking => ?_
  cases booking with
  | none => trivial
  | some booking =>
      refine .bind (uses_quiet rfl) fun found => ?_
      cases found <;> trivial

/-- The operations that do not check the access of a concierge keep all custodies. -/
theorem uses_harmless (lib : DateLib) (now : Time) {operation : Operation}
    (hvalid : operation.Validated) (hfree : operation.handler = none) :
    (program lib now operation).Uses Command.Harmless := by
  cases operation with
  | createInspection => cases hfree
  | booking call =>
      cases call with
      | create dto customerId =>
          exact .bind (uses_create lib hvalid customerId now) fun _ => trivial
      | cancel => exact .bind (uses_cancel ..) fun _ => trivial
      | complete =>
          exact .bind (.bind (uses_quiet rfl) fun _ => .bind (uses_quiet rfl) fun _ =>
            .bind (uses_quiet rfl) fun _ => trivial) fun _ => trivial
      | initiatePayment => exact .bind (uses_initiatePayment ..) fun _ => trivial
      | confirmManual => exact .bind (uses_confirmManual ..) fun _ => trivial
      | rejectPayment => exact .bind (uses_rejectPayment ..) fun _ => trivial
      | processRefund => exact .bind (uses_processRefund ..) fun _ => trivial
      | handleStripeWebhook => exact uses_handleStripeWebhook ..
      | assignConcierge => exact .bind (uses_assignConcierge ..) fun _ => trivial
      | startCheckin | startCheckout =>
          exact .bind (.bind (uses_validateConciergeAccess_harmless ..) fun _ =>
            .ite (fun _ => trivial) fun _ => trivial) fun _ => trivial
      | autoCompleteBookings | cancelExpiredPendingBookings => exact uses_quiet rfl
      | collectDeposit | confirmCheckin | confirmCheckout => cases hfree

end Async

/-! ## After the access check -/

/-- What a concierge has made sure of when the access check has returned `read`: the
booking is there on the same terms, the assignment holds, and the deposit status read
fits, even if it has changed since. -/
def InCustody (bookingId : BookingId) (conciergeId : UserId) (read : Booking)
    (backend : Backend) : Prop :=
  ∃ x, backend.custodies[bookingId]? = some x ∧ x.AssignedTo backend.assignments conciergeId ∧
    x.Fits backend.assignments read.depositStatus

section Concierge

variable {bookingId : BookingId} {conciergeId : UserId} {read : Booking} {backend : Backend}

theorem InCustody.stable {later : Backend} (h : InCustody bookingId conciergeId read backend)
    (hkept : CustodyKept backend later) : InCustody bookingId conciergeId read later := by
  obtain ⟨x, hx, hassigned, hfits⟩ := h
  obtain ⟨y, hy, hterms, hcollected⟩ := hkept.custodies bookingId x hx
  exact ⟨y, hy, hassigned.mono hterms hkept.assignments, hfits.mono hterms hcollected⟩

/-- The command keeps all custodies wherever the access check has passed. -/
def Command.KeepsAfterCheck (bookingId : BookingId) (conciergeId : UserId) (read : Booking)
    (c : Command) : Prop :=
  ∀ backend, custodyProtocol.inv backend → InCustody bookingId conciergeId read backend →
    c.KeepsCustody backend

theorem Command.Harmless.keepsAfterCheck {c : Command} (h : c.Harmless) :
    c.KeepsAfterCheck bookingId conciergeId read :=
  fun backend hinv _ => h backend hinv

theorem keepsAfterCheck_hold (hread : read.depositStatus = .pending) (proofUrl : Option String)
    (now : Time) :
    (Command.updateBooking bookingId (.depositHeld conciergeId proofUrl now)).KeepsAfterCheck
      bookingId conciergeId read := by
  intro backend hinv hcustody
  obtain ⟨x, hx, hassigned, hfits⟩ := hcustody
  refine Command.keepsCustody_hold hinv fun y hy => ?_
  obtain rfl := Option.some.inj (hx.symm.trans hy)
  -- A deposit that was seen as `PENDING` has an amount, and amounts do not change.
  have hamount : ¬ x.depositAmount.toRat = 0 := fun hzero =>
    nomatch hread.symm.trans (hfits.none_iff.mpr hzero)
  exact ⟨hassigned, hamount⟩

theorem keepsAfterCheck_checkOut (now : Time) :
    (Command.updateBooking bookingId (.checkedOut read now)).KeepsAfterCheck
      bookingId conciergeId read := by
  intro backend hinv hcustody
  obtain ⟨x, hx, -, hfits⟩ := hcustody
  refine Command.keepsCustody_checkOut hinv fun y hy => ?_
  obtain rfl := Option.some.inj (hx.symm.trans hy)
  exact hfits

/-- The part of an operation that comes after the check. -/
theorem safe_afterCheck {operation : Operation} {α : Type} {p : Async α}
    (hhandler : operation.handler = some (bookingId, conciergeId))
    (hp : p.Uses (Command.KeepsAfterCheck bookingId conciergeId read))
    (hcustody : InCustody bookingId conciergeId read backend) :
    p.Safe custodyProtocol Command.handle operation.Authorised (fun _ _ => True) backend := by
  refine Program.Safe.of_uses (A := InCustody bookingId conciergeId read)
    (fun s s' h hrely => h.stable hrely) (fun c s hc hinv hA => ⟨?_, hc s hinv hA⟩) hp hcustody
  intro _ access haccess
  obtain rfl := Option.some.inj (hhandler.symm.trans haccess)
  obtain ⟨x, hx, hassigned, -⟩ := hA
  exact ⟨x, hx, hassigned⟩

/-- **An operation that starts with the access check**: what follows runs with the
booking in custody. -/
theorem safe_conciergeCall {operation : Operation} {α : Type} {body : Booking → Async α}
    (hhandler : operation.handler = some (bookingId, conciergeId))
    (hbody : ∀ read, (body read).Uses (Command.KeepsAfterCheck bookingId conciergeId read)) :
    (Async.validateConciergeAccess bookingId conciergeId >>= body).Safe custodyProtocol
      Command.handle operation.Authorised (fun _ _ => True) backend := by
  have hreads : ∀ (c : Command) (s : Backend), c.isRead = true → operation.Authorised c s :=
    fun c s hc hwrites => absurd (hc.symm.trans hwrites) (by decide)
  refine .bind (.bind (.read (fun _ => rfl) fun s₁ _ hinv₁ => ⟨hreads _ _ rfl, ?_⟩))
  cases hbooking : s₁.bookings[bookingId]? with
  | none => trivial
  | some read =>
      have hx : s₁.custodies[bookingId]? = some read.custody := by
        rw [Backend.custodies, List.getElem?_map, hbooking]
        rfl
      obtain ⟨hresource, hfits⟩ := hinv₁ bookingId read.custody hx
      refine .bind (.read (fun _ => rfl) fun s₂ hrely hinv₂ => ⟨hreads _ _ rfl, ?_⟩)
      cases hfound : s₂.assignments.findWhere (·.covers conciergeId read) with
      | none => trivial
      | some found =>
          obtain ⟨hrow, hcovers⟩ := Table.findWhere_eq_some hfound
          obtain ⟨y, hy, hterms, hcollected⟩ := hrely.custodies bookingId _ hx
          have hassigned := Custody.assignedTo_of_covers hresource hrow hcovers
          exact safe_afterCheck hhandler (hbody read)
            ⟨y, hy, hassigned.mono hterms fun _ _ h => h, hfits.mono hterms hcollected⟩

end Concierge

namespace Async

/-- One command that leaves custodies and assignments alone, after the check. -/
private theorem uses_quietAfterCheck {bookingId : BookingId} {conciergeId : UserId}
    {read : Booking} {c : Command} (h : c.isQuiet = true) :
    (Program.call c : Async c.Reply).Uses
      (Command.KeepsAfterCheck bookingId conciergeId read) :=
  (uses_quiet h).mono fun _ hc => hc.keepsAfterCheck

/-- **Every operation is safe**, from every state on. -/
theorem safe_program (lib : DateLib) (now : Time) {operation : Operation}
    (hvalid : operation.Validated) (backend : Backend) :
    (program lib now operation).Safe custodyProtocol Command.handle operation.Authorised
      (fun _ _ => True) backend := by
  cases hhandler : operation.handler with
  | none =>
      refine Program.Safe.of_uses (A := fun _ => True) (fun _ _ _ _ => trivial)
        (fun c s hc hinv _ => ⟨?_, hc s hinv⟩) (uses_harmless lib now hvalid hhandler) trivial
      intro _ access haccess
      rw [hhandler] at haccess
      cases haccess
  | some access =>
      cases operation with
      | createInspection bookingId conciergeId data =>
          refine .bind (safe_conciergeCall rfl fun read => ?_)
          refine .bind (uses_quietAfterCheck rfl) fun inspection => .ite (fun _ => ?_)
            fun _ => trivial
          exact .bind (uses_quietAfterCheck rfl) fun _ => trivial
      | booking call =>
          cases call with
          | collectDeposit bookingId conciergeId proofUrl =>
              refine .bind (safe_conciergeCall rfl fun read => .ite (fun _ => trivial) fun h => ?_)
              exact .bind (Program.uses_call (keepsAfterCheck_hold (not_not.mp h) proofUrl now))
                fun _ => uses_quietAfterCheck rfl
          | confirmCheckin bookingId conciergeId =>
              refine .bind (safe_conciergeCall rfl fun read => ?_)
              exact .bind (uses_quietAfterCheck rfl) fun _ => .bind (uses_quietAfterCheck rfl)
                fun _ => .bind (uses_quietAfterCheck rfl) fun _ => trivial
          | confirmCheckout bookingId conciergeId =>
              refine .bind (safe_conciergeCall rfl fun read => ?_)
              exact .bind (Program.uses_call (keepsAfterCheck_checkOut now)) fun _ =>
                .bind (uses_quietAfterCheck rfl) fun _ => .bind (uses_quietAfterCheck rfl)
                  fun _ => trivial
          | _ => cases hhandler

end Async

/-! ## All interleavings -/

section Platform

variable {ι : Type} [DecidableEq ι]

/-- All operations are about to start. -/
def platformStart (lib : DateLib) (operations : ι → Time × Operation) (backend : Backend) :
    Config Backend ι (Async Unit) where
  shared := backend
  pc i := Async.program lib (operations i).1 (operations i).2

/-- In every state that is reached from an empty bookings table, every booking is well
kept and every write is authorised. -/
theorem custody_of_reach (lib : DateLib) (operations : ι → Time × Operation)
    (hvalid : ∀ i, (operations i).2.Validated) {backend : Backend}
    (hempty : backend.bookings = []) {c : Config Backend ι (Async Unit)}
    (h : Reach platform (fun _ _ => True) (platformStart lib operations backend) c) :
    custodyProtocol.inv c.shared ∧ ∀ i, (c.pc i).Safe custodyProtocol Command.handle
      (operations i).2.Authorised (fun _ _ => True) c.shared := by
  refine Program.inv_and_safe_of_reach (fun id x hx => ?_)
    (fun i => Async.safe_program lib _ (hvalid i) _) (fun key s s' hinv hs => ?_) h
  · have hnone : backend.custodies = [] := by rw [Backend.custodies, hempty]; rfl
    rw [platformStart, hnone] at hx
    cases hx
  · -- An expiring lock touches no table.
    obtain rfl := Option.some.inj hs
    exact ⟨hinv, fun _ _ ha => ha, fun _ x hx => ⟨x, hx, rfl, fun hc => hc⟩⟩

/-- **Deposit bookkeeping.** -/
theorem deposit_bookkeeping (lib : DateLib) (operations : ι → Time × Operation)
    (hvalid : ∀ i, (operations i).2.Validated) {backend : Backend}
    (hempty : backend.bookings = []) {c : Config Backend ι (Async Unit)}
    (h : Reach platform (fun _ _ => True) (platformStart lib operations backend) c)
    {id : BookingId} {b : Booking} (hb : c.shared.bookings[id]? = some b) :
    (b.depositStatus = .none ↔ b.depositAmount.toRat = 0) ∧
    (b.depositAmount.toRat ≠ 0 →
      b.depositStatus = .pending ∨ b.depositStatus = .held ∨ b.depositStatus = .underReview) ∧
    (b.depositStatus = .held ∨ b.depositStatus = .underReview →
      b.depositCollectedAt ≠ none ∧
        ∃ conciergeId, b.depositCollectedBy = some conciergeId ∧
          b.custody.AssignedTo c.shared.assignments conciergeId) := by
  have hx : c.shared.custodies[id]? = some b.custody := by
    rw [Backend.custodies, List.getElem?_map, hb]
    rfl
  obtain ⟨-, hstatus⟩ := (custody_of_reach lib operations hvalid hempty h).1 id _ hx
  refine ⟨hstatus.none_iff, fun hamount => ?_, hstatus.collected⟩
  have hne : b.depositStatus ≠ .none := fun hnone => hamount (hstatus.none_iff.mp hnone)
  have hrange : b.depositStatus ∈ [DepositStatus.none, .pending, .held, .underReview] :=
    hstatus.range
  simpa [hne] using hrange

end Platform

namespace Demo

/-- Customer 1 books the car, the concierge 7 is assigned to it and collects the
deposit. -/
def depositHandling : Fin 3 → Time × Operation
  | 0 => (0, .booking (.create clio 1))
  | 1 => (1, .booking (.assignConcierge 7 .car "clio" 5))
  | 2 => (2, .booking (.collectDeposit 0 7 none))

theorem depositHandling_validated (i : Fin 3) : (depositHandling i).2.Validated := by
  match i with
  | 0 => exact (by decide : clio.resourceId ≠ "")
  | 1 => trivial
  | 2 => trivial

/-- Nothing is stored yet. -/
def emptyBackend : Backend where
  toStore := Store.start []
  inspections := []
  damagesReported := []

/-- The booking and the assignment are made while the collection waits, then it runs up to
its `n`-th command. -/
def depositRun (n : ℕ) : List (Move (Fin 3) (Option HttpException) String) :=
  (List.replicate 6 (0 : Fin 3) ++ List.replicate 2 1 ++ List.replicate n 2).map (.process · none)

end Demo

/-- The deposit is collected in the end. -/
theorem deposit_bookkeeping_demo : ∃ (c : Config Backend (Fin 3) (Async Unit)) (b : Booking),
    Reach platform (fun _ _ => True)
      (platformStart Demo.dates Demo.depositHandling Demo.emptyBackend) c ∧
    c.shared.bookings[0]? = some b ∧ b.depositStatus = .held ∧
    ((b.depositStatus = .none ↔ b.depositAmount.toRat = 0) ∧
      (b.depositAmount.toRat ≠ 0 →
        b.depositStatus = .pending ∨ b.depositStatus = .held ∨
          b.depositStatus = .underReview) ∧
      (b.depositStatus = .held ∨ b.depositStatus = .underReview →
        b.depositCollectedAt ≠ none ∧
          ∃ conciergeId, b.depositCollectedBy = some conciergeId ∧
            b.custody.AssignedTo c.shared.assignments conciergeId)) := by
  have hrun : (replay platform
      (platformStart Demo.dates Demo.depositHandling Demo.emptyBackend) (Demo.depositRun 4)).map
        (fun c => c.shared.bookings[0]?.map Booking.depositStatus) = some (some .held) := by
    decide +kernel
  obtain ⟨c, hc, hstatus⟩ := exists_reach_of_unguarded hrun
  obtain ⟨b, hb, hheld⟩ := Option.map_eq_some_iff.mp hstatus
  exact ⟨c, b, hc, hb, hheld, deposit_bookkeeping Demo.dates Demo.depositHandling
    Demo.depositHandling_validated rfl hc hb⟩

section Platform

variable {ι : Type} [DecidableEq ι]

/-- **Concierge access control.**  When an operation of a concierge on a booking is about
to write, the concierge has an active assignment to exactly the resource of the
booking. -/
theorem writes_only_when_assigned (lib : DateLib) (operations : ι → Time × Operation)
    (hvalid : ∀ i, (operations i).2.Validated) {backend : Backend}
    (hempty : backend.bookings = []) {c : Config Backend ι (Async Unit)}
    (h : Reach platform (fun _ _ => True) (platformStart lib operations backend) c)
    {i : ι} {cmd : Command} (hcmd : (c.pc i).pending = some cmd) (hwrites : cmd.isRead = false)
    {bookingId : BookingId} {conciergeId : UserId}
    (hhandler : (operations i).2.handler = some (bookingId, conciergeId)) :
    ∃ b, c.shared.bookings[bookingId]? = some b ∧
      b.custody.AssignedTo c.shared.assignments conciergeId := by
  obtain ⟨hinv, hsafe⟩ := custody_of_reach lib operations hvalid hempty h
  obtain ⟨next, hpc⟩ := Program.pending_eq_some hcmd
  obtain ⟨x, hx, hassigned⟩ :=
    (hsafe i).allowed_now hinv hpc hwrites (bookingId, conciergeId) hhandler
  rw [Backend.custodies, List.getElem?_map] at hx
  obtain ⟨b, hb, rfl⟩ := Option.map_eq_some_iff.mp hx
  exact ⟨b, hb, hassigned⟩

end Platform

/-- The collection is about to write. -/
theorem writes_only_when_assigned_demo : ∃ (c : Config Backend (Fin 3) (Async Unit))
    (cmd : Command), Reach platform (fun _ _ => True)
      (platformStart Demo.dates Demo.depositHandling Demo.emptyBackend) c ∧
    (c.pc 2).pending = some cmd ∧ cmd.isRead = false ∧
    ∃ b, c.shared.bookings[0]? = some b ∧ b.custody.AssignedTo c.shared.assignments 7 := by
  have hrun : (replay platform
      (platformStart Demo.dates Demo.depositHandling Demo.emptyBackend) (Demo.depositRun 2)).map
        (fun c => (c.pc 2).pending.map Command.isRead) = some (some false) := by
    decide +kernel
  obtain ⟨c, hc, hpending⟩ := exists_reach_of_unguarded hrun
  obtain ⟨cmd, hcmd, hwrites⟩ := Option.map_eq_some_iff.mp hpending
  exact ⟨c, cmd, hc, hcmd, hwrites, writes_only_when_assigned Demo.dates Demo.depositHandling
    Demo.depositHandling_validated rfl hc hcmd hwrites rfl⟩

end StayRide
