import FiksOpp.Foundations.DecimalRounding
import FiksOpp.BookingModels
import FiksOpp.BookingRequest
import FiksOpp.PaymentScreen
import FiksOpp.BookingDetailAction
import FiksOpp.GatewayAttempts
import FiksOpp.GatewayAmounts
import FiksOpp.NetworkUtils
import FiksOpp.SaveBooking
import FiksOpp.WalletTopUp
import FiksOpp.ClearPreferences
import FiksOpp.ChatServices
import FiksOpp.SendMessages
import FiksOpp.UnreadBadge
import FiksOpp.ChatContacts
import FiksOpp.DeleteMessage
import FiksOpp.PagedLists
import FiksOpp.ServiceAddons
import FiksOpp.Foundations.ProvenanceStore
import FiksOpp.FilterStoreScreens
import FiksOpp.NotificationRouting
import FiksOpp.Foundations.IsoDateTime
import FiksOpp.BookingDates
import FiksOpp.BookingSlotRuns
import FiksOpp.BookingTimestamps
import FiksOpp.AdvanceAmounts
import FiksOpp.AppliedTaxes
import FiksOpp.Foundations.SharedFlag
import FiksOpp.LoadingFlag
import FiksOpp.Foundations.KeyedListeners
import FiksOpp.LiveStreams
import FiksOpp.LocationRequests
import FiksOpp.PostJobLocation
import FiksOpp.DeepLinks
import FiksOpp.ConfigurationStores
import FiksOpp.DashboardTabs
import FiksOpp.AppConfiguration
import FiksOpp.PriceBounds
import FiksOpp.DiscountedPrice
import FiksOpp.BookingRetries
import FiksOpp.ExtraCharges
import FiksOpp.SetPrice
import FiksOpp.Foundations.Binary64
import FiksOpp.PriceDoubles
import FiksOpp.SetPriceDoubles
import FiksOpp.Foundations.DynamicValues
import FiksOpp.PermissionRestart
import FiksOpp.PermissionCodec
import FiksOpp.ServiceCodec
import FiksOpp.BookingCodec
import FiksOpp.Foundations.LoggedCalls
import FiksOpp.MultiPartRequests
import FiksOpp.BookingStart
import FiksOpp.BookingSheet
import FiksOpp.PastSlots
import FiksOpp.FilterActions
import FiksOpp.FilterPrices
import FiksOpp.FilterWrites
import FiksOpp.FilterVisits
import FiksOpp.Foundations.PercentEncoding
import FiksOpp.Foundations.QueryStrings
import FiksOpp.FilterQueries
import FiksOpp.Foundations.TimerReference
import FiksOpp.LocationPolling
import FiksOpp.Countdown
import FiksOpp.PhoneAuthFailures
import FiksOpp.AirtelCheckout
import FiksOpp.AppleSignIn
import FiksOpp.FcmPayloads
import FiksOpp.FcmDisplayText
import FiksOpp.SignUp
import FiksOpp.Rescheduling
import FiksOpp.BilledTime
import FiksOpp.Foundations.ComponentEncoding
import FiksOpp.PhoneRegion
import FiksOpp.PostRequestServices
import FiksOpp.Subcategories
import FiksOpp.ChatFileNames
import FiksOpp.ServiceRequest
import FiksOpp.DateStrip
import FiksOpp.Foundations.DatePatterns
import FiksOpp.GetDateFormat
import FiksOpp.FaithfulFormats
import FiksOpp.OrdinalDates
import FiksOpp.AppStoreRestart
import FiksOpp.CachedDetails
import FiksOpp.CustomCalendar
import FiksOpp.DateRangePicker
import FiksOpp.EditProfile
import FiksOpp.Favourites
import FiksOpp.UserDocuments
import FiksOpp.HelpDeskList
import FiksOpp.PriceSession
import FiksOpp.RefetchedLists
import FiksOpp.SplashScreen
import FiksOpp.StoredPassword
import FiksOpp.Foundations.FirstOfKey
import FiksOpp.Foundations.JoinedFields
import FiksOpp.Foundations.PendingChanges
import FiksOpp.Foundations.SameMembers
import FiksOpp.NotificationList
import FiksOpp.OtpLogin
import FiksOpp.PickedImages
import FiksOpp.PostRequestDraft
import FiksOpp.PushTopics
import FiksOpp.SessionTokens
