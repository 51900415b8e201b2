import StayRide.Lib.Run
import StayRide.Lib.Table
import StayRide.Lib.Rounding
import StayRide.Lib.Decimal
import StayRide.Common.Domain
import StayRide.Common.Utils
import StayRide.Common.Prices
import StayRide.Config.Redis
import StayRide.Common.Store
import StayRide.Bookings.Service
import StayRide.Payments.Service
import StayRide.Concierge.Service
import StayRide.Scheduler.Service
import StayRide.System.Calls
import StayRide.System.Histories
import StayRide.Payments.Coverage
import StayRide.System.PaidBookings
import StayRide.Lib.Ledger
import StayRide.Payments.RefundLedger
import StayRide.Payments.Lifecycle
import StayRide.Payments.Webhooks
import StayRide.Payments.OpenPayments
import StayRide.Bookings.ConcurrentCreate
import StayRide.Bookings.CreateLocks
import StayRide.Bookings.CreateRaces
import StayRide.Bookings.CreateWinner
import StayRide.Auth.Store
import StayRide.Auth.TokenService
import StayRide.Auth.AuthService
import StayRide.Auth.Calls
import StayRide.Auth.RefreshFamilies
import StayRide.Auth.OneTimeTokens
import StayRide.Auth.ConcurrentRefresh
import StayRide.Auth.ConcurrentReset
import StayRide.Auth.Withdrawal
import StayRide.Payments.ConcurrentInitiate
import StayRide.Payments.ConcurrentRefund
import StayRide.Payments.StripeAmounts
import StayRide.Payments.Instalments
import StayRide.Lib.Journal
import StayRide.Loyalty.Concurrent
import StayRide.Loyalty.Ledgers
import StayRide.Loyalty.Overdrafts
import StayRide.Loyalty.Coupons
import StayRide.Loyalty.Completions
import StayRide.Loyalty.Tiers
import StayRide.Loyalty.ConcurrentTiers
import StayRide.Loyalty.Referrals
import StayRide.Loyalty.Discounts
import StayRide.Lib.Program
import StayRide.Lib.Dict
import StayRide.System.Commands
import StayRide.System.Programs
import StayRide.System.Platform
import StayRide.Bookings.CreateFailures
import StayRide.Payments.InitiateFailures
import StayRide.Concierge.DepositRaces
import StayRide.Concierge.Custody
import StayRide.Concierge.Access
import StayRide.Bookings.Queries
import StayRide.Common.Json
import StayRide.Admin.Settings
import StayRide.Admin.RoundTrip
import StayRide.Admin.Calls
import StayRide.Admin.CacheCoherence
import StayRide.Admin.MethodEdits
import StayRide.Admin.FailedWrites
import StayRide.Admin.Agreement
import StayRide.Lib.CivilDate
import StayRide.Lib.DateText
import StayRide.Common.Dates
import StayRide.Properties.Availability
import StayRide.Bookings.Extensions
import StayRide.System.RecordedExtensions
import StayRide.System.RealStays
import StayRide.Cars.Tracking
import StayRide.Listings.Create
import StayRide.Auth.Responses
import StayRide.Auth.Enumeration
import StayRide.Concierge.Overview
import StayRide.Properties.DayLoops
import StayRide.Lib.JsNumber
import StayRide.Lib.JsText
import StayRide.Common.Pagination
import StayRide.Listings.Paging
import StayRide.Cars.LocationPaths
import StayRide.Lib.Tokens
import StayRide.System.Contracts
import StayRide.System.Announcements
import StayRide.Notifications.Service
import StayRide.Notifications.Delivery
import StayRide.Auth.Api
import StayRide.Auth.Credentials
import StayRide.Lib.JsonText
import StayRide.Common.JsonText
import StayRide.Lib.Expiring
import StayRide.System.Keyspace
import StayRide.Payments.Queries
import StayRide.System.Deployment
import StayRide.System.Authority
import StayRide.System.Exposure
import StayRide.Admin.PublicSettings
import StayRide.System.Rewards
import StayRide.Listings.Marketplace
