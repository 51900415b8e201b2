import StayRide.Common.Domain

/-!
# Dates and prices

`common/utils`: day counts and the two price computations.  Prices are computed
in exact arithmetic, `Math.round` being rounding to the nearest integer with
halves upwards, which is `round`.

The two date libraries are not part of the repository and enter as the fields
of `DateLib`: what PostgreSQL makes of a text compared with or stored in a
`date` column, and the instant `dayjs` reads from it.
-/

namespace StayRide

/-- What the libraries make of the text of a date. -/
structure DateLib where
  /-- The day PostgreSQL reads from the text; `none` when it refuses it. -/
  pgDate : String → Option Day
  /-- The instant `dayjs` reads from the text. -/
  dayjs : String → Time

/-- `dayjs(end).diff(dayjs(start), "day")`: elapsed time in days, truncated
towards zero. -/
def DateLib.diffDays (lib : DateLib) (startDate endDate : String) : ℤ :=
  (lib.dayjs endDate - lib.dayjs startDate).tdiv oneDay

def DateLib.countNights (lib : DateLib) (startDate endDate : String) : ℤ :=
  lib.diffDays startDate endDate

def DateLib.countDays (lib : DateLib) (startDate endDate : String) : ℤ :=
  lib.diffDays startDate endDate

structure PriceCalculation where
  basePrice : ℚ
  nights : ℤ
  cleaningFee : ℚ
  platformFee : ℚ
  discountAmount : ℚ
  depositAmount : ℚ
  total : ℚ
  ownerPayout : ℚ
  deriving DecidableEq

/-- The parameters of `calculateBookingPrice` with their defaults. -/
structure BookingPriceParams where
  pricePerNight : ℚ
  nights : ℤ
  cleaningFee : ℚ := 0
  commissionRate : ℚ := 10
  discountPct : ℚ := 0
  depositAmount : ℚ := 0

def calculateBookingPrice (params : BookingPriceParams) : PriceCalculation :=
  let basePrice : ℚ := round (params.pricePerNight * params.nights)
  let discountAmount : ℚ := round (basePrice * (params.discountPct / 100))
  let subtotal := basePrice - discountAmount + params.cleaningFee
  let platformFee : ℚ := round (subtotal * (params.commissionRate / 100))
  let total := subtotal + platformFee
  { basePrice := basePrice
    nights := params.nights
    cleaningFee := params.cleaningFee
    platformFee := platformFee
    discountAmount := discountAmount
    depositAmount := params.depositAmount
    total := total
    ownerPayout := total - platformFee }

/-- The parameters of `calculateCarRentalPrice` with their defaults. -/
structure CarPriceParams where
  pricePerDay : ℚ
  days : ℤ
  commissionRate : ℚ := 10
  discountPct : ℚ := 0
  depositAmount : ℚ := 0

def calculateCarRentalPrice (params : CarPriceParams) : PriceCalculation :=
  let basePrice : ℚ := round (params.pricePerDay * params.days)
  let discountAmount : ℚ := round (basePrice * (params.discountPct / 100))
  let subtotal := basePrice - discountAmount
  let platformFee : ℚ := round (subtotal * (params.commissionRate / 100))
  let total := subtotal + platformFee
  { basePrice := basePrice
    nights := params.days
    cleaningFee := 0
    platformFee := platformFee
    discountAmount := discountAmount
    depositAmount := params.depositAmount
    total := total
    ownerPayout := total - platformFee }

/-- JavaScript's `text || null`: an absent or empty text is absent. -/
def textOrNull (text : Option String) : Option String :=
  text.filter (· ≠ "")

/-- JavaScript's `n || d` for an optional count. -/
def countOr (n : Option ℕ) (d : ℕ) : ℕ :=
  match n with
  | none => d
  | some 0 => d
  | some (k + 1) => k + 1

end StayRide
