import StayRide.Notifications.Service
import StayRide.System.Announcements

/-!
# Who is notified, and how often

The listeners run besides the operations: an event that was emitted is heard at some later
time, once, and the notification it leaves behind may be refused by the database.  Users
mark their notifications in the meantime.  `Inbox` is this system on top of the platform,
and nothing is assumed about the order of anything.

* A notification is addressed to the customer of the booking that it names:
  `notifications_addressed`.
* No booking has two notifications of its creation, and it has one as soon as the event
  was heard and the row accepted: `created_notified_once`.

The table is the image of what was heard (`Inbox.Faithful`), because events are only
added at the end of the log and marks do not touch what a notification says.
-/

namespace StayRide

open Lib

/-! ## The system -/

/-- The listeners of the event at this position in the log have run. -/
structure Hearing where
  position : ℕ
  accepted : Bool
  deriving DecidableEq

/-- The platform, the notifications, and what was heard so far. -/
structure Inbox (ι : Type) where
  config : Config Backend ι (Async Unit)
  store : NotificationStore
  heard : List Hearing

inductive DeliveryMove (ι : Type)
  | platform (move : Move ι (Option HttpException) String)
  | hear (position : ℕ) (accepted : Bool) (now : Time)
  | markAsRead (notifId : ℕ) (userId : UserId) (now : Time)
  | markAllAsRead (userId : UserId) (now : Time)

section System

variable {ι : Type} [DecidableEq ι]

/-- One step: of an operation, of the listeners of an event that was not heard before, or a
mark. -/
def deliver (firebaseInitialized : Bool) (d : Inbox ι) : DeliveryMove ι → Option (Inbox ι)
  | .platform move => (platform d.config move).map fun config => { d with config := config }
  | .hear position accepted now =>
      if position ∈ d.heard.map Hearing.position then none
      else d.config.shared.events[position]?.map fun event =>
        { d with
          store := d.store.onEvent firebaseInitialized accepted now event
          heard := d.heard ++ [⟨position, accepted⟩] }
  | .markAsRead notifId userId now =>
      some { d with store := d.store.markAsRead notifId userId now }
  | .markAllAsRead userId now => some { d with store := d.store.markAllAsRead userId now }

def deliveryStart (lib : DateLib) (operations : ι → Time × Operation) (backend : Backend) :
    Inbox ι where
  config := platformStart lib operations backend
  store := .empty
  heard := []

end System

/-! ## What a notification says -/

/-- The columns that a mark does not touch, as far as they matter here. -/
def Notification.label (n : Notification) : UserId × String × Option BookingId :=
  (n.userId, n.type, n.data)

def DomainEvent.label (event : DomainEvent) : Option (UserId × String × Option BookingId) :=
  (event.notification 0).map Notification.label

theorem label_notification (now : Time) (event : DomainEvent) :
    (event.notification now).map Notification.label = event.label := by
  cases event with
  | bookingConfirmed id booking => cases booking <;> rfl
  | _ => rfl

/-- What an event says in the table, if its row was accepted. -/
def Hearing.label (events : List DomainEvent) (h : Hearing) :
    Option (UserId × String × Option BookingId) :=
  if h.accepted then events[h.position]?.bind DomainEvent.label else none

namespace NotificationStore

theorem map_label_onEvent (firebaseInitialized accepted : Bool) (now : Time)
    (event : DomainEvent) (store : NotificationStore) :
    (store.onEvent firebaseInitialized accepted now event).notifications.map
        Notification.label =
      store.notifications.map Notification.label ++
        (if accepted then event.label.toList else []) := by
  rw [notifications_onEvent, List.map_append]
  cases accepted with
  | false => rfl
  | true =>
      rw [if_pos rfl, if_pos rfl, ← label_notification now, Option.toList_map]

theorem map_label_markAsRead (notifId : ℕ) (userId : UserId) (now : Time)
    (store : NotificationStore) :
    (store.markAsRead notifId userId now).notifications.map Notification.label =
      store.notifications.map Notification.label := by
  refine Table.map_updateWhere_of_eq ?_ store.notifications _
  exact fun _ => rfl

theorem map_label_markAllAsRead (userId : UserId) (now : Time) (store : NotificationStore) :
    (store.markAllAsRead userId now).notifications.map Notification.label =
      store.notifications.map Notification.label := by
  refine Table.map_updateWhere_of_eq ?_ store.notifications _
  exact fun _ => rfl

end NotificationStore

/-! ## The table is the image of what was heard -/

/-- Each event was heard at most once, and the table says what the accepted ones say. -/
structure Inbox.Faithful {ι : Type} (d : Inbox ι) : Prop where
  heard_once : (d.heard.map Hearing.position).Nodup
  heard_emitted : ∀ h ∈ d.heard, h.position < d.config.shared.events.length
  labels : d.store.notifications.map Notification.label =
    d.heard.filterMap (Hearing.label d.config.shared.events)

section System

variable {ι : Type} [DecidableEq ι]

/-- Events are added at the end of the log. -/
theorem platform_events {c c' : Config Backend ι (Async Unit)}
    {move : Move ι (Option HttpException) String} (h : platform c move = some c') :
    c.shared.events <+: c'.shared.events := by
  cases move with
  | process i failure =>
      obtain ⟨next, hact, rfl⟩ := Option.map_eq_some_iff.mp h
      obtain ⟨cmd, rest, -, hdata, -⟩ := Program.step_eq_some Command.handle hact
      show c.shared.events <+: next.1.events
      rw [hdata, (Command.reply_logs failure cmd c.shared).2.2]
      exact List.prefix_append _ _
  | environment key =>
      obtain rfl := Option.some.inj h
      exact List.prefix_rfl

/-- What was heard says the same when the log has grown. -/
theorem Hearing.label_of_isPrefix {events events' : List DomainEvent} {h : Hearing}
    (hgrow : events <+: events') (hlt : h.position < events.length) :
    h.label events' = h.label events := by
  obtain ⟨added, rfl⟩ := hgrow
  unfold Hearing.label
  rw [List.getElem?_append_left hlt]

theorem Inbox.Faithful.step {firebaseInitialized : Bool} {d d' : Inbox ι}
    (hd : d.Faithful) {move : DeliveryMove ι}
    (h : deliver firebaseInitialized d move = some d') : d'.Faithful := by
  cases move with
  | platform move =>
      obtain ⟨config, hstep, rfl⟩ := Option.map_eq_some_iff.mp h
      have hgrow := platform_events hstep
      refine ⟨hd.heard_once, fun x hx => ?_, ?_⟩
      · exact (hd.heard_emitted x hx).trans_le hgrow.length_le
      · rw [hd.labels]
        refine List.filterMap_congr fun x hx => ?_
        exact (Hearing.label_of_isPrefix hgrow (hd.heard_emitted x hx)).symm
  | hear position accepted now =>
      simp only [deliver] at h
      split at h
      · cases h
      · next hnew =>
          obtain ⟨event, hevent, rfl⟩ := Option.map_eq_some_iff.mp h
          obtain ⟨hlt, -⟩ := List.getElem?_eq_some_iff.mp hevent
          refine ⟨?_, fun x hx => ?_, ?_⟩
          · rw [List.map_append]
            refine hd.heard_once.append (List.nodup_singleton _) fun x hx hin => hnew ?_
            obtain rfl := List.mem_singleton.mp hin
            exact hx
          · rcases List.mem_append.mp hx with hx | hx
            · exact hd.heard_emitted x hx
            · obtain rfl := List.mem_singleton.mp hx
              exact hlt
          · show (d.store.onEvent firebaseInitialized accepted now event).notifications.map
              Notification.label = _
            rw [NotificationStore.map_label_onEvent, hd.labels, List.filterMap_append]
            refine congrArg _ ?_
            cases accepted with
            | false => rfl
            | true =>
                have hlabel : Hearing.label d.config.shared.events ⟨position, true⟩ =
                    event.label := by
                  rw [Hearing.label, if_pos rfl, hevent]
                  rfl
                rw [if_pos rfl, ← hlabel]
                cases hx : Hearing.label d.config.shared.events ⟨position, true⟩ <;>
                  simp [hx]
  | markAsRead notifId userId now =>
      obtain rfl := Option.some.inj h
      exact ⟨hd.heard_once, hd.heard_emitted,
        (NotificationStore.map_label_markAsRead _ _ _ _).trans hd.labels⟩
  | markAllAsRead userId now =>
      obtain rfl := Option.some.inj h
      exact ⟨hd.heard_once, hd.heard_emitted,
        (NotificationStore.map_label_markAllAsRead _ _ _).trans hd.labels⟩

variable (lib : DateLib) (operations : ι → Time × Operation) {backend : Backend}
  {firebaseInitialized : Bool} {d : Inbox ι}

/-- In every reachable state the table is the image of what was heard, and the platform has
gone its own way. -/
theorem faithful_of_reach (h : Reach (deliver firebaseInitialized) (fun _ _ => True)
      (deliveryStart lib operations backend) d) :
    d.Faithful ∧ Reach platform (fun _ _ => True) (platformStart lib operations backend)
      d.config := by
  have hstart : (deliveryStart lib operations backend).Faithful :=
    ⟨List.nodup_nil, fun _ hx => (List.not_mem_nil hx).elim, rfl⟩
  refine Reach.invariant (I := fun d : Inbox ι => d.Faithful ∧
    Reach platform (fun _ _ => True) (platformStart lib operations backend) d.config)
    ⟨hstart, .refl⟩ (fun d move d' hd _ hstep => ⟨hd.1.step hstep, ?_⟩) h
  cases move with
  | platform move =>
      obtain ⟨config, hplatform, rfl⟩ := Option.map_eq_some_iff.mp hstep
      exact hd.2.tail trivial hplatform
  | hear position accepted now =>
      simp only [deliver] at hstep
      split at hstep
      · cases hstep
      · obtain ⟨event, -, rfl⟩ := Option.map_eq_some_iff.mp hstep
        exact hd.2
  | markAsRead | markAllAsRead =>
      obtain rfl := Option.some.inj hstep
      exact hd.2

end System

/-! ## The results -/

/-- A notification of an event names the booking of the event and addresses its customer. -/
theorem DomainEvent.subject_of_label {event : DomainEvent}
    {label : UserId × String × Option BookingId} (h : event.label = some label) :
    ∃ id b, event.subject = some (id, b) ∧ label.1 = b.customerId ∧ label.2.2 = some id := by
  cases event with
  | bookingCreated id booking =>
      obtain rfl := Option.some.inj h
      exact ⟨id, booking, rfl, rfl, rfl⟩
  | bookingConfirmed id booking =>
      cases booking with
      | none => cases h
      | some booking =>
          obtain rfl := Option.some.inj h
          exact ⟨id, booking, rfl, rfl, rfl⟩
  | _ => cases h

/-- The label tells of the creation of the booking. -/
def tellsOfCreation (id : BookingId) (label : UserId × String × Option BookingId) : Bool :=
  label.2.1 = "BOOKING_CREATED" ∧ label.2.2 = some id

/-- The notifications that tell of the creation of the booking. -/
def NotificationStore.createdCount (store : NotificationStore) (id : BookingId) : ℕ :=
  store.notifications.countP fun n => tellsOfCreation id n.label

/-- Only the event that announces the booking tells of its creation. -/
theorem DomainEvent.tellsOfCreation_label (event : DomainEvent) (id : BookingId) :
    (event.label.map (tellsOfCreation id)).getD false =
      decide (event.announces = some (.booking id)) := by
  cases event with
  | bookingCreated id' booking =>
      simp [label, notification, announces, tellsOfCreation, Notification.label,
        NotificationStore.createdNotification, NotificationStore.newNotification]
  | bookingConfirmed id' booking =>
      cases booking with
      | none => rfl
      | some booking =>
          simp [label, notification, announces, tellsOfCreation, Notification.label,
            NotificationStore.confirmedNotification, NotificationStore.newNotification]
  | paymentInitiated id' payment booking => simp [label, notification, announces]
  | _ => rfl

/-- The event that was heard announces the booking, and its row was accepted. -/
def Hearing.announces (events : List DomainEvent) (id : BookingId) (h : Hearing) : Bool :=
  h.accepted && events[h.position]?.any fun event =>
    decide (event.announces = some (.booking id))

theorem Hearing.tellsOfCreation_label (events : List DomainEvent) (id : BookingId)
    (h : Hearing) :
    ((h.label events).map (tellsOfCreation id)).getD false = h.announces events id := by
  unfold Hearing.label Hearing.announces
  cases h.accepted with
  | false => rfl
  | true =>
      cases events[h.position]? with
      | none => rfl
      | some event => exact event.tellsOfCreation_label id

/-- The notifications of a creation are the hearings of its event that were accepted. -/
theorem Inbox.Faithful.createdCount {ι : Type} {d : Inbox ι} (hd : d.Faithful)
    (id : BookingId) :
    d.store.createdCount id =
      d.heard.countP (Hearing.announces d.config.shared.events id) := by
  have hcount : d.store.createdCount id =
      (d.store.notifications.map Notification.label).countP (tellsOfCreation id) := by
    rw [List.countP_map]
    rfl
  rw [hcount, hd.labels, List.countP_filterMap]
  exact List.countP_congr fun x _ => by rw [Hearing.tellsOfCreation_label]

section System

variable {ι : Type} [DecidableEq ι] (lib : DateLib) (operations : ι → Time × Operation)
  {backend : Backend} {firebaseInitialized : Bool} {d : Inbox ι}

/-- **Notifications are addressed to the customer of the booking they name.** -/
theorem notifications_addressed (hpayments : backend.payments = [])
    (hevents : backend.events = [])
    (h : Reach (deliver firebaseInitialized) (fun _ _ => True)
      (deliveryStart lib operations backend) d)
    {n : Notification} (hn : n ∈ d.store.notifications) :
    ∃ id b, n.data = some id ∧ d.config.shared.bookings[id]? = some b ∧
      n.userId = b.customerId := by
  obtain ⟨hfaithful, hplatform⟩ := faithful_of_reach lib operations h
  obtain ⟨⟨-, htruthful⟩, -⟩ := contracts_of_reach lib operations hpayments hevents hplatform
  have hlabel : n.label ∈ d.heard.filterMap (Hearing.label d.config.shared.events) :=
    hfaithful.labels ▸ List.mem_map_of_mem hn
  obtain ⟨x, -, hx⟩ := List.mem_filterMap.mp hlabel
  unfold Hearing.label at hx
  split at hx
  · obtain ⟨event, hevent, hsays⟩ := Option.bind_eq_some_iff.mp hx
    obtain ⟨id, read, hsubject, hcustomer, hid⟩ := DomainEvent.subject_of_label hsays
    -- The booking in the event was read earlier; its customer is still the same.
    have hcontract := htruthful event (List.mem_of_getElem? hevent) (id, read) hsubject
    rw [Backend.contracts, List.getElem?_map] at hcontract
    obtain ⟨b, hb, heq⟩ := Option.map_eq_some_iff.mp hcontract
    exact ⟨id, b, hid, hb, hcustomer.trans (congrArg Contract.customerId heq).symm⟩
  · cases hx

/-- **A creation is notified once.**  No booking has two notifications of its creation; and
once its event was heard and the row accepted, it has one. -/
theorem created_notified_once (hevents : backend.events = [])
    (h : Reach (deliver firebaseInitialized) (fun _ _ => True)
      (deliveryStart lib operations backend) d) (id : BookingId) :
    d.store.createdCount id ≤ 1 ∧
      ∀ (position : ℕ) (b : Booking),
        d.config.shared.events[position]? = some (.bookingCreated id b) →
          ⟨position, true⟩ ∈ d.heard → d.store.createdCount id = 1 := by
  obtain ⟨hfaithful, hplatform⟩ := faithful_of_reach lib operations h
  have hnodup := announced_nodup lib operations hevents hplatform
  have hle : d.store.createdCount id ≤ 1 := by
    rw [hfaithful.createdCount]
    refine Table.countP_le_one hfaithful.heard_once fun x _ y _ hx hy => ?_
    simp only [Hearing.announces, Bool.and_eq_true, Option.any_eq_true,
      decide_eq_true_eq] at hx hy
    obtain ⟨-, event, hevent, hannounces⟩ := hx
    obtain ⟨-, event', hevent', hannounces'⟩ := hy
    exact Table.eq_of_nodup_filterMap hnodup hevent hevent' hannounces hannounces'
  refine ⟨hle, fun position b hevent hheard => le_antisymm hle ?_⟩
  rw [hfaithful.createdCount]
  refine List.countP_pos_iff.mpr ⟨_, hheard, ?_⟩
  simp [Hearing.announces, hevent, DomainEvent.announces]

end System

namespace Demo

/-- The booking of the car is made, its event is heard, and the customer has read it. -/
def carHeard : List (DeliveryMove (Fin 3)) :=
  (carRun ⟨0, by decide⟩ 6).map .platform ++ [.hear 0 true 5, .markAllAsRead 1 6]

end Demo

section Examples

open Demo

theorem notifications_addressed_car : ∃ (d : Inbox (Fin 3)) (n : Notification),
    Reach (deliver true) (fun _ _ => True) (deliveryStart dates carPaidInCash emptyBackend) d ∧
    n ∈ d.store.notifications ∧
    ∃ id b, n.data = some id ∧ d.config.shared.bookings[id]? = some b ∧
      n.userId = b.customerId := by
  have hrun : (replay (deliver true) (deliveryStart dates carPaidInCash emptyBackend)
      carHeard).map (fun d => d.store.notifications.length) = some 1 := by
    decide +kernel
  obtain ⟨d, hd, hlength⟩ := exists_reach_of_unguarded hrun
  obtain ⟨n, hn⟩ := List.exists_mem_of_length_pos (by rw [hlength]; exact Nat.one_pos)
  exact ⟨d, n, hd, hn, notifications_addressed dates carPaidInCash rfl rfl hd hn⟩

theorem created_notified_once_car : ∃ d : Inbox (Fin 3),
    Reach (deliver true) (fun _ _ => True) (deliveryStart dates carPaidInCash emptyBackend) d ∧
    d.config.shared.announced = [.booking 0] ∧ ⟨0, true⟩ ∈ d.heard ∧
    (d.store.createdCount 0 ≤ 1 ∧
      ∀ (position : ℕ) (b : Booking),
        d.config.shared.events[position]? = some (.bookingCreated 0 b) →
          ⟨position, true⟩ ∈ d.heard → d.store.createdCount 0 = 1) := by
  have hrun : (replay (deliver true) (deliveryStart dates carPaidInCash emptyBackend)
      carHeard).map (fun d => (d.config.shared.announced, decide (⟨0, true⟩ ∈ d.heard))) =
        some ([.booking 0], true) := by
    decide +kernel
  obtain ⟨d, hd, hend⟩ := exists_reach_of_unguarded hrun
  obtain ⟨hannounced, hheard⟩ := Prod.mk.inj hend
  exact ⟨d, hd, hannounced, of_decide_eq_true hheard,
    created_notified_once dates carPaidInCash rfl hd 0⟩

end Examples

end StayRide
