import StayRide.Lib.Decimal

/-!
# The vocabulary of the platform

The enumerations of `common/enums`, the errors a service can throw, and the
scalar types of the columns.  Identifiers that the database generates are the
positions of the rows they name (`StayRide.Lib.Table`); the identifiers of
properties and cars stay texts because they become part of a lock key.
-/

namespace StayRide

open Lib

/-- Milliseconds since the epoch, the value of a JavaScript `Date`. -/
abbrev Time := ℤ

/-- A calendar day, the value of a PostgreSQL `date` column, as a day number. -/
abbrev Day := ℤ

abbrev UserId := ℕ
abbrev BookingId := ℕ
abbrev PaymentId := ℕ
abbrev TokenId := ℕ
abbrev ResourceId := String

/-- A column `decimal(12, 2)`. -/
abbrev Amount := Decimal 12 2

/-- One minute, one hour, one day in milliseconds. -/
def minute : Time := 60 * 1000
def hour : Time := 60 * minute
def oneDay : Time := 24 * hour

/-! ## Enumerations -/

inductive UserRole
  | customer | owner | concierge | admin
  deriving DecidableEq, Repr

inductive LoyaltyTier
  | bronze | silver | gold | platinum
  deriving DecidableEq, Repr

inductive Language
  | fr | en
  deriving DecidableEq, Repr

inductive BookingStatus
  | pending | paymentPending | confirmed | active | completed
  | cancelled | rejected | refunded
  deriving DecidableEq, Repr

inductive ResourceType
  | property | car
  deriving DecidableEq, Repr

/-- The text of the enumeration member, as it occurs in lock keys. -/
def ResourceType.text : ResourceType → String
  | .property => "PROPERTY"
  | .car => "CAR"

inductive PaymentMethod
  | orangeMoney | mtnMomo | stripe | paypal | cash | other
  deriving DecidableEq, Repr

/-- The text of the enumeration member, as it occurs in messages. -/
def PaymentMethod.text : PaymentMethod → String
  | .orangeMoney => "ORANGE_MONEY"
  | .mtnMomo => "MTN_MOMO"
  | .stripe => "STRIPE"
  | .paypal => "PAYPAL"
  | .cash => "CASH"
  | .other => "OTHER"

inductive PaymentStatus
  | created | pending | paymentPending | partiallyPaid | paid | failed
  | refunded | cancelled
  deriving DecidableEq, Repr

inductive DepositStatus
  | none | pending | paymentPending | held | underReview | released
  | deducted | disputed
  deriving DecidableEq, Repr

/-- The statuses whose bookings do not block their dates: the
`excludedStatuses` of the availability query. -/
def excludedStatuses : List BookingStatus :=
  [.cancelled, .rejected, .refunded]

/-- A booking in this status blocks its dates. -/
def BookingStatus.blocksDates (status : BookingStatus) : Bool :=
  !(excludedStatuses.contains status)

@[simp] theorem blocksDates_eq_false {status : BookingStatus} :
    status.blocksDates = false ↔ status ∈ excludedStatuses := by
  cases status <;> decide

/-! ## Errors -/

/-- What a service call can throw: the HTTP exceptions with their messages, and
the errors of the database driver, of Redis and of Stripe. -/
inductive HttpException
  | badRequest (message : String)
  | unauthorized (message : String)
  | forbidden (message : String)
  | notFound (message : String)
  | conflict (message : String)
  /-- `findOneOrFail` found no row. -/
  | entityNotFound
  /-- The database refused a statement. -/
  | queryFailed
  /-- A call of the Redis or of the Stripe client was rejected. -/
  | clientError
  deriving DecidableEq, Repr

end StayRide
