import StayRide.Common.Store

/-!
# `NotificationsService`

`modules/notifications/notifications.service.ts`: the listeners of the booking events,
the table `notifications`, and the marks of its rows.

A listener sends a push message, and two of the listeners save a notification besides.
`sendPush` writes a line to the log, provided that Firebase is configured.  The event
`booking.confirmed` can carry `null`, when the booking of the payment is gone; reading the
customer of `null` throws, and the listener has done nothing.

The mails of the service belong to the accounts side (`Auth.Store`).  `sendPushToToken` and
`sendBookingConfirmation` are left out: nothing calls them.
-/

namespace StayRide

open Lib

inductive NotificationChannel
  | push | email | sms
  deriving DecidableEq

/-- A row of `notifications`.  The column `data` holds `{ booking_id }`. -/
structure Notification where
  userId : UserId
  type : String
  title : String
  body : String
  data : Option BookingId
  channel : NotificationChannel
  readAt : Option Time
  sentAt : Option Time
  createdAt : Time
  deriving DecidableEq

/-- A line of the log: `Push → userId: title`. -/
structure PushLine where
  userId : UserId
  title : String
  deriving DecidableEq

/-- The table, and the lines `sendPush` has written to the log. -/
structure NotificationStore where
  notifications : Table Notification
  pushes : List PushLine
  deriving DecidableEq

namespace NotificationStore

def empty : NotificationStore := ⟨[], []⟩

variable (firebaseInitialized : Bool)

def sendPush (userId : UserId) (title : String) (store : NotificationStore) :
    NotificationStore :=
  if firebaseInitialized then { store with pushes := store.pushes ++ [⟨userId, title⟩] }
  else store

/-- The row `saveNotification` inserts. -/
def newNotification (userId : UserId) (type title body : String) (data : Option BookingId)
    (channel : NotificationChannel) (now : Time) : Notification where
  userId := userId
  type := type
  title := title
  body := body
  data := data
  channel := channel
  readAt := none
  sentAt := some now
  createdAt := now

/-- The database may refuse the row; the listener then fails after its push message. -/
def saveNotification (accepted : Bool) (row : Notification) (store : NotificationStore) :
    NotificationStore :=
  if accepted then { store with notifications := store.notifications.insertRow row }
  else store

/-! ## Listeners -/

section Listeners

variable (accepted : Bool) (now : Time) (id : BookingId) (booking : Booking)

def createdNotification : Notification :=
  newNotification booking.customerId "BOOKING_CREATED" "Réservation reçue"
    "Effectuez le paiement pour confirmer." (some id) .push now

def onBookingCreated (store : NotificationStore) : NotificationStore :=
  (store.sendPush firebaseInitialized booking.customerId "Réservation reçue").saveNotification
    accepted (createdNotification now id booking)

def confirmedNotification : Notification :=
  newNotification booking.customerId "BOOKING_CONFIRMED" "Réservation confirmée"
    "Votre paiement a été reçu." (some id) .push now

def onBookingConfirmed (store : NotificationStore) : NotificationStore :=
  (store.sendPush firebaseInitialized booking.customerId
    "✅ Réservation confirmée !").saveNotification accepted (confirmedNotification now id booking)

def onBookingCancelled (store : NotificationStore) : NotificationStore :=
  store.sendPush firebaseInitialized booking.customerId "Réservation annulée"

def onBookingCompleted (store : NotificationStore) : NotificationStore :=
  store.sendPush firebaseInitialized booking.customerId "Séjour terminé"

end Listeners

/-- What the service does on an event.  The events without a listener, and those whose
booking is `null`, have no effect. -/
def onEvent (accepted : Bool) (now : Time) (event : DomainEvent) (store : NotificationStore) :
    NotificationStore :=
  match event with
  | .bookingCreated id booking =>
      store.onBookingCreated firebaseInitialized accepted now id booking
  | .bookingConfirmed id (some booking) =>
      store.onBookingConfirmed firebaseInitialized accepted now id booking
  | .bookingCancelled _ (some booking) => store.onBookingCancelled firebaseInitialized booking
  | .bookingCompleted _ (some booking) => store.onBookingCompleted firebaseInitialized booking
  | _ => store

/-! ## Marks -/

/-- `update({ id, userId }, { readAt })`. -/
def markAsRead (notifId : ℕ) (userId : UserId) (now : Time) (store : NotificationStore) :
    NotificationStore :=
  { store with
    notifications := store.notifications.updateWhere
      (fun id n => id = notifId ∧ n.userId = userId) fun n => { n with readAt := some now } }

/-- `update({ userId }, { readAt })`: the rows that are already read get the new date too. -/
def markAllAsRead (userId : UserId) (now : Time) (store : NotificationStore) :
    NotificationStore :=
  { store with
    notifications := store.notifications.updateWhere (fun _ n => n.userId = userId)
      fun n => { n with readAt := some now } }

end NotificationStore

/-! ## What is saved on an event -/

/-- The notification that an event leaves behind when the database accepts it. -/
def DomainEvent.notification (now : Time) : DomainEvent → Option Notification
  | .bookingCreated id booking => some (NotificationStore.createdNotification now id booking)
  | .bookingConfirmed id (some booking) =>
      some (NotificationStore.confirmedNotification now id booking)
  | _ => none

namespace NotificationStore

@[simp] theorem notifications_sendPush (firebaseInitialized : Bool) (userId : UserId)
    (title : String) (store : NotificationStore) :
    (store.sendPush firebaseInitialized userId title).notifications = store.notifications := by
  unfold sendPush
  split <;> rfl

/-- **What a listener does to the table.** -/
theorem notifications_onEvent (firebaseInitialized accepted : Bool) (now : Time)
    (event : DomainEvent) (store : NotificationStore) :
    (store.onEvent firebaseInitialized accepted now event).notifications =
      store.notifications ++
        (if accepted then (event.notification now).toList else []) := by
  have hsave : ∀ (before : NotificationStore) (row : Notification),
      before.notifications = store.notifications →
      (before.saveNotification accepted row).notifications =
        store.notifications ++ if accepted then [row] else [] := by
    intro before row hbefore
    unfold saveNotification
    cases accepted with
    | true => exact congrArg (· ++ [row]) hbefore
    | false => exact hbefore.trans (List.append_nil _).symm
  have hsame : ∀ after : NotificationStore, after.notifications = store.notifications →
      after.notifications = store.notifications ++ if accepted then [] else [] := by
    intro after h
    rw [ite_self, List.append_nil, h]
  cases event with
  | bookingCreated id booking => exact hsave _ _ (notifications_sendPush _ _ _ _)
  | bookingConfirmed id booking =>
      cases booking with
      | none => exact hsame _ rfl
      | some booking => exact hsave _ _ (notifications_sendPush _ _ _ _)
  | bookingCancelled id booking | bookingCompleted id booking =>
      cases booking with
      | none => exact hsame _ rfl
      | some booking => exact hsame _ (notifications_sendPush _ _ _ _)
  | _ => exact hsame _ rfl

end NotificationStore

end StayRide
