import StayRide.Bookings.Service

/-!
# Who sees a booking: `findAll`, `findOne`, `cancel`

Three methods of `BookingsService` decide which bookings a user gets to see, each in
its own way.  `findAll` builds a `WHERE` clause for the role of the user, with joins on
the properties and cars an owner owns; `findOne` and `cancel` look up the booking by its
id and refuse nobody but customers.

The clause is modelled as TypeORM writes it: conditions are joined with `AND` and no
parentheses are added, so that a condition added after an `OR` joins its last
alternative.

`visibility_agrees_iff` says for which users and bookings the three methods agree: for
customers and administrators always, for owners and concierges only on the bookings
that `findAll` shows them.

The filters of a query are added to the clause of the role.  For an owner that clause is
an `OR`, and the filters join its second alternative only: `findAll_exact_iff` says that
the list is right exactly if every booking of the owner's properties passes the filters
anyway.
-/

namespace StayRide

open Lib Service

/-- The columns of `properties` that the queries on bookings read. -/
structure Property where
  id : ResourceId
  ownerId : UserId

/-- The columns of `cars` that the queries on bookings read. -/
structure Car where
  id : ResourceId
  ownerId : UserId

/-- What can be booked. -/
structure Catalogue where
  properties : List Property
  cars : List Car

/-! ## The `WHERE` clause -/

/-- A clause: alternatives, each a conjunction of conditions. -/
abbrev WhereClause := List (List (Booking → Bool))

namespace WhereClause

def holds (clause : WhereClause) (b : Booking) : Bool :=
  clause.any fun conditions => conditions.all (· b)

/-- `AND condition` is written after the clause and binds to its last alternative. -/
def andWhere : WhereClause → (Booking → Bool) → WhereClause
  | [], condition => [[condition]]
  | [conditions], condition => [conditions ++ [condition]]
  | conditions :: rest, condition => conditions :: andWhere rest condition

/-- `andWhere`, if the query asks for the condition. -/
def andWhereIf {α : Type} (clause : WhereClause) (asked : Option α)
    (condition : α → Booking → Bool) : WhereClause :=
  match asked with
  | none => clause
  | some a => clause.andWhere (condition a)

end WhereClause

/-- The filters of a request, read as PostgreSQL reads them; `createdTo` is the last
second of the day asked for. -/
structure BookingsQuery where
  status : Option BookingStatus := none
  resourceType : Option ResourceType := none
  createdFrom : Option Time := none
  createdTo : Option Time := none

/-- The join on `properties` finds a row: the booked property belongs to the user. -/
def Booking.joinsProperty (catalogue : Catalogue) (userId : UserId) (b : Booking) : Bool :=
  catalogue.properties.any fun p => b.propertyId = some p.id && p.ownerId = userId

/-- The join on `cars` finds a row. -/
def Booking.joinsCar (catalogue : Catalogue) (userId : UserId) (b : Booking) : Bool :=
  catalogue.cars.any fun c => b.carId = some c.id && c.ownerId = userId

/-- The clause for the role: none at all for an administrator. -/
def roleClause (catalogue : Catalogue) (user : CurrentUser) : WhereClause :=
  match user.role with
  | .customer => [[fun b => b.customerId = user.id]]
  | .owner => [[Booking.joinsProperty catalogue user.id], [Booking.joinsCar catalogue user.id]]
  | .concierge => [[fun b => b.conciergeId = some user.id]]
  | .admin => [[]]

def findAllWhere (catalogue : Catalogue) (user : CurrentUser) (query : BookingsQuery) :
    WhereClause :=
  (((roleClause catalogue user).andWhereIf query.status fun status b => b.status = status)
    |>.andWhereIf query.resourceType fun resourceType b => b.resourceType = resourceType)
    |>.andWhereIf query.createdFrom (fun time b => time ≤ b.createdAt)
    |>.andWhereIf query.createdTo fun time b => b.createdAt ≤ time

/-- The filters as the query means them. -/
def BookingsQuery.Matches (query : BookingsQuery) (b : Booking) : Prop :=
  (∀ status ∈ query.status, b.status = status) ∧
    (∀ resourceType ∈ query.resourceType, b.resourceType = resourceType) ∧
    (∀ time ∈ query.createdFrom, time ≤ b.createdAt) ∧
    ∀ time ∈ query.createdTo, b.createdAt ≤ time

/-- The keys of the bookings that `findAll` ranges over.  Which of them are returned, and
in which order, is a matter of the page asked for. -/
def findAll (catalogue : Catalogue) (user : CurrentUser) (query : BookingsQuery) :
    Service (List BookingId) := do
  let bookings := (← get).bookings
  return (List.range bookings.length).filter fun id =>
    bookings[id]?.any (findAllWhere catalogue user query).holds

def findOne (id : BookingId) (userId : UserId) (role : UserRole) : Service Booking := do
  let some booking ← findBooking id | throw (.notFound "Réservation introuvable")
  if role = .customer ∧ booking.customerId ≠ userId then
    throw (.forbidden "Accès refusé")
  return booking

/-! ## What the methods show -/

/-- The bookings a user is meant to see. -/
def VisibleTo (catalogue : Catalogue) (user : CurrentUser) (b : Booking) : Prop :=
  match user.role with
  | .customer => b.customerId = user.id
  | .owner => (∃ p ∈ catalogue.properties, b.propertyId = some p.id ∧ p.ownerId = user.id) ∨
      ∃ c ∈ catalogue.cars, b.carId = some c.id ∧ c.ownerId = user.id
  | .concierge => b.conciergeId = some user.id
  | .admin => True

section Views

variable (catalogue : Catalogue) (store : Store) (user : CurrentUser) {id : BookingId}
  {b : Booking}

/-- The clause of a role selects what the role is meant to see. -/
theorem roleClause_holds_iff (b : Booking) :
    (roleClause catalogue user).holds b = true ↔ VisibleTo catalogue user b := by
  unfold roleClause VisibleTo
  cases user.role <;>
    simp [WhereClause.holds, Booking.joinsProperty, Booking.joinsCar]

/-- `findAll` without filters ranges over the bookings the user is meant to see. -/
theorem mem_findAll_iff (hb : store.bookings[id]? = some b) :
    (∃ ids, (findAll catalogue user {}).run store = .ok ids store ∧ id ∈ ids) ↔
      VisibleTo catalogue user b := by
  have hlength : id < store.bookings.length := (List.getElem?_eq_some_iff.mp hb).1
  have hmem : id ∈ (List.range store.bookings.length).filter (fun id =>
      store.bookings[id]?.any (findAllWhere catalogue user {}).holds) ↔
        (roleClause catalogue user).holds b = true := by
    rw [List.mem_filter, List.mem_range, hb, Option.any_some]
    exact and_iff_right hlength
  rw [← roleClause_holds_iff catalogue user b, ← hmem]
  constructor
  · rintro ⟨ids, hrun, hid⟩
    obtain ⟨rfl, -⟩ := EStateM.Result.ok.inj hrun
    exact hid
  · exact fun h => ⟨_, rfl, h⟩

/-- What `findOne` returns for a stored booking. -/
theorem findOne_outcome (hb : store.bookings[id]? = some b) :
    (findOne id user.id user.role).outcome store =
      if user.role = .customer ∧ b.customerId ≠ user.id then
        .error (.forbidden "Accès refusé")
      else .ok b := by
  unfold ServiceM.outcome findOne
  by_cases h : user.role = .customer ∧ b.customerId ≠ user.id
  · simp [hb, h]
  · simp [hb, h]

/-- Only customers are refused a cancellation because of who they are. -/
theorem cancellable_of_changed {reason : Option String} (hb : store.bookings[id]? = some b)
    (h : ((cancel id user reason).storeAfter store).bookings[id]? ≠ some b) :
    ¬ (user.role = .customer ∧ b.customerId ≠ user.id) := by
  rw [cancel_storeAfter] at h
  intro hforbidden
  have hnone : cancellableBooking store id user = none := by
    simp [cancellableBooking, hb, hforbidden]
  rw [hnone] at h
  exact h hb

/-- The three methods agree on the booking `b`, stored under `id`: who can read or cancel
it also finds it in the list. -/
def VisibilityAgrees (id : BookingId) (b : Booking) : Prop :=
  ((findOne id user.id user.role).outcome store = .ok b →
      ∃ ids, (findAll catalogue user {}).run store = .ok ids store ∧ id ∈ ids) ∧
    ∀ reason, ((cancel id user reason).storeAfter store).bookings[id]? ≠ some b →
      ∃ ids, (findAll catalogue user {}).run store = .ok ids store ∧ id ∈ ids

/-- **Booking visibility.**  The methods agree exactly for customers, for administrators,
and on the bookings that the list shows anyway. -/
theorem visibility_agrees_iff (hb : store.bookings[id]? = some b) :
    VisibilityAgrees catalogue store user id b ↔
      user.role = .customer ∨ user.role = .admin ∨ VisibleTo catalogue user b := by
  have hlist := mem_findAll_iff catalogue store user hb
  constructor
  · rintro ⟨hread, -⟩
    by_cases hcustomer : user.role = .customer
    · exact .inl hcustomer
    · -- Whoever is no customer can read the booking.
      refine .inr (.inr (hlist.mp (hread ?_)))
      rw [findOne_outcome store user hb, if_neg fun h => hcustomer h.1]
  · -- A customer who is not refused owns the booking; an administrator sees all.
    have hvisible : (user.role = .customer ∨ user.role = .admin ∨ VisibleTo catalogue user b) →
        ¬ (user.role = .customer ∧ b.customerId ≠ user.id) → VisibleTo catalogue user b := by
      rintro (hrole | hrole | h) hallowed
      · have howner : b.customerId = user.id :=
          not_not.mp fun hne => hallowed ⟨hrole, hne⟩
        simpa [VisibleTo, hrole] using howner
      · simp [VisibleTo, hrole]
      · exact h
    intro h
    constructor
    · intro hread
      refine hlist.mpr (hvisible h fun hforbidden => ?_)
      rw [findOne_outcome store user hb, if_pos hforbidden] at hread
      cases hread
    · intro reason hchanged
      exact hlist.mpr (hvisible h (cancellable_of_changed store user hb hchanged))

end Views

namespace Demo

/-- The owner 3 owns the house `villa`, the owner 4 nothing. -/
def listings : Catalogue where
  properties := [⟨"villa", 3⟩]
  cars := []

/-- Customer 1 has booked the house. -/
def villaBooked : Store :=
  (create dates (villa "2025-07-01" "2025-07-05") 1 0).storeAfter (Store.start [])

end Demo

/-- The methods agree on what the owner of the house does. -/
theorem visibility_agrees_owner : ∃ b, Demo.villaBooked.bookings[0]? = some b ∧
    VisibleTo Demo.listings ⟨3, .owner⟩ b ∧
    VisibilityAgrees Demo.listings Demo.villaBooked ⟨3, .owner⟩ 0 b := by
  have hrow : (Demo.villaBooked.bookings[0]?.map Booking.propertyId) =
      some (some "villa") := by decide +kernel
  obtain ⟨b, hb, hproperty⟩ := Option.map_eq_some_iff.mp hrow
  have hvisible : VisibleTo Demo.listings ⟨3, .owner⟩ b :=
    .inl ⟨⟨"villa", 3⟩, List.mem_singleton_self _, hproperty, rfl⟩
  exact ⟨b, hb, hvisible, (visibility_agrees_iff Demo.listings Demo.villaBooked ⟨3, .owner⟩
    hb).mpr (.inr (.inr hvisible))⟩

/-- An owner reads and cancels a booking of a house they do not own. -/
theorem visibility_differs : ∃ b, Demo.villaBooked.bookings[0]? = some b ∧
    (findOne 0 4 .owner).outcome Demo.villaBooked = .ok b ∧
    ((cancel 0 ⟨4, .owner⟩ none).storeAfter Demo.villaBooked).bookings[0]? ≠ some b ∧
    ¬ VisibilityAgrees Demo.listings Demo.villaBooked ⟨4, .owner⟩ 0 b := by
  have hrow : Demo.villaBooked.bookings[0]?.map (fun b => (b.status, b.propertyId)) =
      some (.pending, some "villa") := by
    decide +kernel
  have hcancelled : ((cancel 0 ⟨4, .owner⟩ none).storeAfter
      Demo.villaBooked).bookings[0]?.map Booking.status = some .cancelled := by
    decide +kernel
  obtain ⟨b, hb, hcolumns⟩ := Option.map_eq_some_iff.mp hrow
  simp only [Prod.mk.injEq] at hcolumns
  obtain ⟨hpending, hproperty⟩ := hcolumns
  have hread : (findOne 0 4 .owner).outcome Demo.villaBooked = .ok b := by
    rw [findOne_outcome Demo.villaBooked ⟨4, .owner⟩ hb]
    rfl
  have hhidden : ¬ VisibleTo Demo.listings ⟨4, .owner⟩ b := by
    simp [VisibleTo, Demo.listings, hproperty]
  refine ⟨b, hb, hread, fun hsame => ?_, fun hagrees => ?_⟩
  · rw [hsame, Option.map_some, hpending] at hcancelled
    cases hcancelled
  · exact hhidden ((mem_findAll_iff Demo.listings Demo.villaBooked ⟨4, .owner⟩ hb).mp
      (hagrees.1 hread))

/-! ## The filters -/

namespace WhereClause

variable (alternatives : WhereClause) (last : List (Booking → Bool)) (b : Booking)

theorem andWhere_append (condition : Booking → Bool) :
    andWhere (alternatives ++ [last]) condition = alternatives ++ [last ++ [condition]] := by
  induction alternatives with
  | nil => rfl
  | cons conditions rest ih =>
      -- Something follows `conditions`, so they are not the last alternative.
      cases rest with
      | nil => rfl
      | cons => exact congrArg (conditions :: ·) ih

/-- What `andWhereIf` adds to the last alternative. -/
def askedConditions {α : Type} (asked : Option α) (condition : α → Booking → Bool) :
    List (Booking → Bool) :=
  asked.toList.map condition

theorem andWhereIf_append {α : Type} (asked : Option α) (condition : α → Booking → Bool) :
    andWhereIf (alternatives ++ [last]) asked condition =
      alternatives ++ [last ++ askedConditions asked condition] := by
  cases asked with
  | none => simp [andWhereIf, askedConditions]
  | some a => exact andWhere_append alternatives last (condition a)

theorem holds_append_singleton :
    holds (alternatives ++ [last]) b = true ↔
      holds alternatives b = true ∨ last.all (· b) = true := by
  simp [holds]

theorem all_askedConditions {α : Type} (asked : Option α) (condition : α → Booking → Bool) :
    (askedConditions asked condition).all (· b) = true ↔
      ∀ a ∈ asked, condition a b = true := by
  cases asked <;> simp [askedConditions]

end WhereClause

section Filters

open WhereClause

variable (catalogue : Catalogue) (store : Store) (user : CurrentUser) (query : BookingsQuery)

/-- The filters constrain the last alternative of the clause. -/
theorem findAllWhere_holds_append {alternatives : WhereClause} {last : List (Booking → Bool)}
    (hrole : roleClause catalogue user = alternatives ++ [last]) (b : Booking) :
    (findAllWhere catalogue user query).holds b = true ↔
      alternatives.holds b = true ∨ last.all (· b) = true ∧ query.Matches b := by
  unfold findAllWhere
  rw [hrole, andWhereIf_append, andWhereIf_append, andWhereIf_append, andWhereIf_append,
    holds_append_singleton]
  simp only [List.all_append, Bool.and_eq_true, all_askedConditions, decide_eq_true_eq,
    BookingsQuery.Matches, and_assoc]

/-- **What the query selects.**  A booking of a property of the owner who asks is selected
whatever the filters say. -/
theorem findAllWhere_holds_iff (b : Booking) :
    (findAllWhere catalogue user query).holds b = true ↔
      user.role = .owner ∧ b.joinsProperty catalogue user.id = true ∨
        VisibleTo catalogue user b ∧ query.Matches b := by
  rw [← roleClause_holds_iff]
  -- A clause with one alternative takes the filters as they are meant.
  have hsingle : ∀ last, roleClause catalogue user = [last] → user.role ≠ .owner →
      ((findAllWhere catalogue user query).holds b = true ↔
        user.role = .owner ∧ b.joinsProperty catalogue user.id = true ∨
          (roleClause catalogue user).holds b = true ∧ query.Matches b) := by
    intro last hclause hrole
    rw [findAllWhere_holds_append catalogue user query
      (show roleClause catalogue user = [] ++ [last] from hclause), hclause]
    simp [holds, hrole]
  cases hrole : user.role with
  | customer => exact hrole ▸ hsingle _ (by simp only [roleClause, hrole]; rfl) (by simp [hrole])
  | concierge => exact hrole ▸ hsingle _ (by simp only [roleClause, hrole]; rfl) (by simp [hrole])
  | admin => exact hrole ▸ hsingle _ (by simp only [roleClause, hrole]; rfl) (by simp [hrole])
  | owner =>
      have hclause : roleClause catalogue user =
          [[Booking.joinsProperty catalogue user.id]] ++
            [[Booking.joinsCar catalogue user.id]] := by
        rw [roleClause, hrole]
        rfl
      rw [findAllWhere_holds_append catalogue user query hclause, hclause]
      simp only [holds, List.any_cons, List.all_cons, List.all_nil, Bool.and_true, List.any_nil,
        Bool.or_false, true_and, List.cons_append, List.nil_append, Bool.or_eq_true]
      tauto

/-- `findAll` ranges over the bookings that the user is meant to see and that satisfy
every filter of the query. -/
def FindsExactly : Prop :=
  ∃ ids, (findAll catalogue user query).run store = .ok ids store ∧
    ∀ id, id ∈ ids ↔ ∃ b, store.bookings[id]? = some b ∧ VisibleTo catalogue user b ∧
      query.Matches b

/-- **The list with filters.**  It is exact unless an owner asks and a booking of one of
their properties fails a filter. -/
theorem findAll_exact_iff :
    FindsExactly catalogue store user query ↔
      (user.role = .owner → ∀ b ∈ store.bookings,
        (∃ p ∈ catalogue.properties, b.propertyId = some p.id ∧ p.ownerId = user.id) →
          query.Matches b) := by
  have hmem : ∀ id, id ∈ (List.range store.bookings.length).filter (fun id =>
      store.bookings[id]?.any (findAllWhere catalogue user query).holds) ↔
        ∃ b, store.bookings[id]? = some b ∧
          (findAllWhere catalogue user query).holds b = true := by
    intro id
    rw [List.mem_filter, List.mem_range, Option.any_eq_true]
    exact ⟨fun h => h.2, fun h => ⟨(List.getElem?_eq_some_iff.mp h.choose_spec.1).1, h⟩⟩
  have hjoins : ∀ b : Booking, b.joinsProperty catalogue user.id = true ↔
      ∃ p ∈ catalogue.properties, b.propertyId = some p.id ∧ p.ownerId = user.id := by
    intro b
    simp [Booking.joinsProperty]
  constructor
  · rintro ⟨ids, hrun, hids⟩ howner b hb hproperty
    obtain ⟨rfl, -⟩ := EStateM.Result.ok.inj hrun
    obtain ⟨id, hid⟩ := List.mem_iff_getElem?.mp hb
    have hselected := (findAllWhere_holds_iff catalogue user query b).mpr
      (.inl ⟨howner, (hjoins b).mpr hproperty⟩)
    obtain ⟨b', hb', -, hmatches⟩ := (hids id).mp ((hmem id).mpr ⟨b, hid, hselected⟩)
    obtain rfl := Option.some.inj (hid.symm.trans hb')
    exact hmatches
  · intro hfilters
    refine ⟨_, rfl, fun id => (hmem id).trans (exists_congr fun b => and_congr_right fun hb => ?_)⟩
    rw [findAllWhere_holds_iff]
    refine or_iff_right_of_imp fun ⟨howner, hjoined⟩ => ?_
    have hproperty := (hjoins b).mp hjoined
    refine ⟨?_, hfilters howner b (List.mem_of_getElem? hb) hproperty⟩
    rw [VisibleTo, howner]
    exact .inl hproperty

end Filters

/-- The owner of the house asks for confirmed bookings and gets the pending one. -/
theorem findAll_ignores_status :
    ∃ b, Demo.villaBooked.bookings[0]? = some b ∧ b.status = .pending ∧
      (findAll Demo.listings ⟨3, .owner⟩ { status := some .confirmed }).outcome
        Demo.villaBooked = .ok [0] ∧
      ¬ FindsExactly Demo.listings Demo.villaBooked ⟨3, .owner⟩
        { status := some .confirmed } := by
  have hstatus : Demo.villaBooked.bookings[0]?.map Booking.status = some .pending := by
    decide +kernel
  have hlisted : (findAll Demo.listings ⟨3, .owner⟩ { status := some .confirmed }).outcome
      Demo.villaBooked = .ok [0] := by
    decide +kernel
  obtain ⟨b, hb, hpending⟩ := Option.map_eq_some_iff.mp hstatus
  refine ⟨b, hb, hpending, hlisted, ?_⟩
  rintro ⟨ids, hrun, hids⟩
  have hfirst : (0 : BookingId) ∈ ids := by
    rw [ServiceM.outcome, hrun] at hlisted
    rw [Except.ok.inj hlisted]
    exact List.mem_singleton_self 0
  obtain ⟨b', hb', -, hmatches⟩ := (hids 0).mp hfirst
  obtain rfl := Option.some.inj (hb.symm.trans hb')
  exact absurd (hpending.symm.trans (hmatches.1 _ rfl)) (by decide)

end StayRide
