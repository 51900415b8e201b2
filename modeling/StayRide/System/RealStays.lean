import StayRide.Bookings.Pricing
import StayRide.Payments.Coverage
import StayRide.System.Histories

/-!
# Real stays

A booking should be for a real stay: it ends after it begins and costs something.  The
validation of `CreateBookingDto` asks for two dates, the availability check for days that
are free, and `calculatePrice` multiplies the elapsed days; none of them compares the two
dates.

No call but `create` writes the dates or the prices of a booking, and a payment expects the
total of its booking.  Whether all bookings are real stays, and all payments expect money,
is therefore decided by the calls of `create` (`real_stays_iff`).  As long as they are, an
administrator who has received nothing can confirm nothing.
-/

namespace StayRide

open Lib

variable (lib : DateLib)

/-- The booking ends after it begins, and costs something. -/
def Booking.IsRealStay (b : Booking) : Prop :=
  b.startDate < b.endDate ∧ 0 < b.basePrice.toRat ∧ 0 < b.totalAmount.toRat

/-- The dates of the request are in order, and a day passes between them. -/
def CreateBookingDto.ProperDates (dto : CreateBookingDto) : Prop :=
  ∃ s e, lib.pgDate dto.startDate = some s ∧ lib.pgDate dto.endDate = some e ∧ s < e ∧
    1 ≤ lib.diffDays dto.startDate dto.endDate

/-! ## One call of `create` -/

/-- A positive number of nights or days has a positive base price, and no other has. -/
theorem unitPrice_mul_pos_iff (resourceType : ResourceType) (units : ℤ) :
    (0 : ℚ) < unitPrice resourceType * units ↔ 1 ≤ units := by
  have hprice : (0 : ℚ) < unitPrice resourceType := by
    cases resourceType <;> norm_num [unitPrice]
  rw [mul_pos_iff_of_pos_left hprice, Int.cast_pos, Int.lt_iff_add_one_le, zero_add]

theorem totalFor_pos (resourceType : ResourceType) {units : ℤ} (h : 1 ≤ units) :
    0 < totalFor resourceType units := by
  unfold totalFor
  cases resourceType with
  | property =>
      dsimp only
      omega
  | car =>
      dsimp only
      omega

/-- **New bookings.**  What `create` stores is a real stay of at least one night or day
exactly if the dates of the request are proper. -/
theorem newBooking_isRealStay_iff {dto : CreateBookingDto} {customerId : UserId} {now : Time}
    {b : Booking} (h : newBooking lib dto customerId now = some b) :
    b.IsRealStay ↔ dto.ProperDates lib := by
  obtain ⟨hbase, htotal⟩ := newBooking_prices lib h
  obtain ⟨s, e, price, hs, he, rfl⟩ := newBooking_eq_some h
  rw [Booking.IsRealStay, hbase, htotal, unitPrice_mul_pos_iff, Int.cast_pos]
  constructor
  · rintro ⟨horder, hday, -⟩
    exact ⟨s, e, hs, he, horder, hday⟩
  · rintro ⟨s', e', hs', he', horder, hday⟩
    obtain rfl := Option.some.inj (hs.symm.trans hs')
    obtain rfl := Option.some.inj (he.symm.trans he')
    exact ⟨horder, hday, totalFor_pos dto.resourceType hday⟩

/-! ## Histories -/

/-- Every booking is a real stay and every payment expects money. -/
structure RealStays (store : Store) : Prop where
  bookings : ∀ b ∈ store.bookings, b.IsRealStay
  payments : ∀ p ∈ store.payments, 0 < p.amountExpected.toRat

/-- A manual confirmation of nothing received marks no payment paid and changes no
booking. -/
def NothingForNothing (store : Store) : Prop :=
  ∀ paymentId adminId (data : ConfirmPaymentDto) now, data.amountReceived = 0 →
    let after := (confirmManual paymentId adminId data now).storeAfter store
    after.bookings = store.bookings ∧
      ∀ (id : PaymentId) (p : Payment), after.payments[id]? = some p → p.status = .paid →
        store.payments[id]? = some p

/-- If the call books, it is for proper dates. -/
def BooksProperDates (store : Store) (r : Request) : Prop :=
  ∀ dto customerId id b, r.call = .create dto customerId →
    (create lib dto customerId r.now).outcome store = .ok (id, b) → dto.ProperDates lib

theorem unwritten_isRealStay : Unwritten Booking.IsRealStay where
  withStatus _ _ := rfl
  asCancelled _ _ _ := rfl
  asCompleted _ _ := rfl
  withDepositHeld _ _ _ _ := rfl
  asCheckedIn _ _ := rfl
  asCheckedOut _ _ _ := rfl

/-- The call keeps all bookings real exactly if the booking that it adds is. -/
theorem isRealStay_exec_iff {store : Store} (h : ∀ b ∈ store.bookings, b.IsRealStay)
    (r : Request) :
    (∀ b ∈ (exec lib store r).bookings, b.IsRealStay) ↔
      ∀ b, created lib store r = some b → b.IsRealStay := by
  -- Being a real stay is itself read off a booking, and no call writes what it depends on.
  have hmap : ∀ bookings : Table Booking,
      (∀ b ∈ bookings, b.IsRealStay) ↔ ∀ real ∈ bookings.map Booking.IsRealStay, real := by
    intro bookings
    rw [List.forall_mem_map]
  rw [hmap, map_bookings_exec lib unwritten_isRealStay, ← hmap, List.forall_mem_append,
    and_iff_right h]
  simp only [Option.mem_toList]

theorem created_isRealStay_iff (store : Store) (r : Request) :
    (∀ b, created lib store r = some b → b.IsRealStay) ↔ BooksProperDates lib store r := by
  constructor
  · intro h dto customerId id b hcall hcreated
    obtain ⟨-, hadded⟩ := (create_outcome_eq_ok_iff store).mp hcreated
    refine (newBooking_isRealStay_iff lib (newBooking_of_createdBooking store hadded)).mp (h b ?_)
    rw [created, hcall]
    exact hadded
  · intro h b hcreated
    unfold created at hcreated
    split at hcreated
    · next dto customerId hcall =>
        refine (newBooking_isRealStay_iff lib
          (newBooking_of_createdBooking store hcreated)).mpr ?_
        exact h dto customerId _ b hcall ((create_outcome_eq_ok_iff store).mpr ⟨rfl, hcreated⟩)
    · cases hcreated

/-- A payment expects the total of its booking, so money if the booking is a real stay. -/
theorem RealStays.of_bookings {store : Store} (hlinked : Linked store)
    (h : ∀ b ∈ store.bookings, b.IsRealStay) : RealStays store where
  bookings := h
  payments := by
    intro p hp
    obtain ⟨id, hp⟩ := List.mem_iff_getElem?.mp hp
    obtain ⟨stay, hstay, htotal⟩ := hlinked id p hp
    obtain ⟨b, hb, rfl⟩ := getElem?_calendar_eq_some.mp hstay
    rw [← htotal]
    exact (h b (List.mem_of_getElem? hb)).2.2

/-- Where every payment expects money, nothing is given for nothing. -/
theorem RealStays.nothingForNothing {store : Store} (h : RealStays store) :
    NothingForNothing store := by
  intro paymentId adminId data now hzero
  rw [confirmManual_storeAfter]
  cases hfound : confirmablePayment store paymentId data with
  | none => exact ⟨rfl, fun _ _ hp _ => hp⟩
  | some found =>
      obtain ⟨payment, amount⟩ := found
      obtain ⟨hpayment, -, -⟩ := confirmablePayment_eq_some hfound
      -- What was received is short of what the payment expects.
      have hshort : data.amountReceived < payment.amountExpected.toRat := by
        rw [hzero]
        exact h.payments payment (List.mem_of_getElem? hpayment)
      simp only [hshort, if_true]
      refine ⟨trivial, fun id p hp hpaid => ?_⟩
      obtain ⟨q, hq, rfl⟩ := Table.getElem?_updateById_eq_some.mp hp
      by_cases hid : id = paymentId
      · rw [if_pos hid] at hpaid
        cases hpaid
      · rw [if_neg hid]
        exact hq

namespace Demo

/-- A car for a day that ends when it begins. -/
def noDayOut : CreateBookingDto where
  resourceType := .car
  resourceId := "0f8fad5b-d9cb-469f-a165-70867728950e"
  startDate := "2025-07-01"
  endDate := "2025-07-01"

/-- The car is booked for no day at all, and a payment of nothing is confirmed. -/
def carHistory : List Request :=
  [⟨0, .create noDayOut 1⟩, ⟨1, payCash 0 1⟩, ⟨2, confirm 0 0⟩]

end Demo

end StayRide
