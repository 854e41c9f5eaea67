/-
The fields a configuration fills: those of `AppConfigurationStore` and of
`RolesAndPermissionStore`, with the preference under which each setter keeps its value.
-/

import FiksOpp.Constants
import FiksOpp.Foundations.CheckedWrites

namespace FiksOpp.AppConfiguration

open CellStore
open CheckedWrites

inductive StatusFlag where
  | isAdvancePaymentAllowed
  | slotServiceStatus
  | digitalServiceStatus
  | servicePackageStatus
  | serviceAddonStatus
  | jobRequestStatus
  | socialLoginStatus
  | googleLoginStatus
  | appleLoginStatus
  | otpLoginStatus
  | onlinePaymentStatus
  | blogStatus
  | maintenanceModeStatus
  | isEnableUserWallet
  | chatGPTStatus
  | testWithoutKey
  | cancellationCharge
  | isPromotionalBanner
  | isEnableChat
  | isUserAuthorized
  deriving DecidableEq, Repr

inductive TextSetting where
  | inquiryEmail
  | helplineNumber
  | currencyCode
  | currencyPosition
  | currencySymbol
  | privacyPolicy
  | termConditions
  | helpAndSupport
  | refundPolicy
  | googleMapKey
  | userDashboardType
  | firebaseServerKey
  deriving DecidableEq, Repr

inductive IntSetting where
  | priceDecimalPoint
  | cancellationChargeHours
  deriving DecidableEq, Repr

/-- The fields of `RolesAndPermissionStore`; the model calls `termCondition`
`termsAndcondition`. -/
inductive Permission where
  | role
  | roleAdd
  | roleList
  | permission
  | permissionAdd
  | permissionList
  | category
  | categoryAdd
  | categoryList
  | categoryEdit
  | categoryDelete
  | service
  | serviceAdd
  | serviceList
  | serviceEdit
  | serviceDelete
  | provider
  | providerAdd
  | providerList
  | providerEdit
  | providerDelete
  | handyman
  | handymanList
  | handymanAdd
  | handymanEdit
  | handymanDelete
  | booking
  | bookingList
  | bookingEdit
  | bookingDelete
  | bookingView
  | payment
  | paymentList
  | user
  | userList
  | userView
  | userDelete
  | providerType
  | providerTypeList
  | providerTypeAdd
  | providerTypeEdit
  | providerTypeDelete
  | coupon
  | couponList
  | couponAdd
  | couponEdit
  | couponDelete
  | slider
  | sliderList
  | sliderAdd
  | sliderEdit
  | sliderDelete
  | providerAddress
  | providerAddressList
  | providerAddressAdd
  | providerAddressEdit
  | providerAddressDelete
  | document
  | documentList
  | documentAdd
  | documentEdit
  | documentDelete
  | handymanPayout
  | serviceFAQ
  | serviceFAQAdd
  | serviceFAQEdit
  | serviceFAQDelete
  | serviceFAQList
  | userAdd
  | userEdit
  | subCategory
  | subCategoryAdd
  | subCategoryEdit
  | subCategoryDelete
  | subCategoryList
  | handymanType
  | handymanTypeList
  | handymanTypeAdd
  | handymanTypeEdit
  | handymanTypeDelete
  | postJob
  | postJobList
  | servicePackage
  | servicePackageAdd
  | servicePackageEdit
  | servicePackageDelete
  | servicePackageList
  | refundAndCancellationPolicy
  | blog
  | blogAdd
  | blogEdit
  | blogDelete
  | blogList
  | serviceAddOn
  | serviceAddOnAdd
  | serviceAddOnEdit
  | serviceAddOnList
  | frontendSetting
  | frontendSettingList
  | bank
  | bankAdd
  | bankEdit
  | bankDelete
  | bankList
  | tax
  | taxAdd
  | taxEdit
  | taxDelete
  | taxList
  | earning
  | earningList
  | wallet
  | walletAdd
  | walletEdit
  | walletDelete
  | walletList
  | userRating
  | userRatingList
  | handymanRating
  | handymanRatingList
  | providerPayout
  | plan
  | planAdd
  | planEdit
  | planDelete
  | planList
  | userServiceList
  | systemSetting
  | providerChangePassword
  | dataDeletionRequest
  | helpDesk
  | helpDeskAdd
  | helpDeskEdit
  | helpDeskList
  | pendingProvider
  | pendingHandyman
  | pages
  | aboutUs
  | helpAndSupport
  | termCondition
  | privacyPolicy
  | providerDocument
  | providerDocumentList
  | providerDocumentAdd
  | providerDocumentEdit
  | providerDocumentDelete
  deriving DecidableEq, Repr

inductive Field where
  | status (flag : StatusFlag)
  | permission (name : Permission)
  | text (setting : TextSetting)
  | int (setting : IntSetting)
  | cancellationChargeAmount
  deriving DecidableEq, Repr

abbrev FieldContent : Field → Type
  | .status _ => Bool
  | .permission _ => Bool
  | .text _ => String
  | .int _ => ℤ
  | .cancellationChargeAmount => ℚ

inductive Cell where
  | field (field : Field)
  | chatGPTAPIkey
  | pref (key : String)
  deriving DecidableEq, Repr

abbrev Content : Cell → Type
  | .field field => FieldContent field
  | .chatGPTAPIkey => String
  | .pref _ => Option PrefValue

abbrev State := (cell : Cell) → Content cell

/-! ### Keys -/

def StatusFlag.key : StatusFlag → String
  | .isAdvancePaymentAllowed => "IS_ADVANCE_PAYMENT_ALLOWED"
  | .slotServiceStatus => "SLOT_SERVICE_STATUS"
  | .digitalServiceStatus => "DIGITAL_SERVICE_STATUS"
  | .servicePackageStatus => "SERVICE_PACKAGE_STATUS"
  | .serviceAddonStatus => "SERVICE_ADDON_STATUS"
  | .jobRequestStatus => "JOB_REQUEST_SERVICE_STATUS"
  | .socialLoginStatus => "SOCIAL_LOGIN"
  | .googleLoginStatus => "GOOGLE_LOGIN"
  | .appleLoginStatus => "APPLE_LOGIN"
  | .otpLoginStatus => "OTP_LOGIN"
  | .onlinePaymentStatus => "ONLINE_PAYMENT_STATUS"
  | .blogStatus => "BLOG"
  | .maintenanceModeStatus => "IN_MAINTENANCE_MODE"
  | .isEnableUserWallet => "ENABLE_USER_WALLET"
  | .chatGPTStatus => "CHAT_GPT_STATUS"
  | .testWithoutKey => "TEST_CHAT_GPT_WITHOUT_KEY"
  | .cancellationCharge => "CANCELLATION_CHARGE"
  | .isPromotionalBanner => "promotional_banner"
  | .isEnableChat => "enable_chat"
  | .isUserAuthorized => "IS_USER_AUTHORIZED"

def TextSetting.key : TextSetting → Option String
  | .inquiryEmail => some "INQUIRY_EMAIL"
  | .helplineNumber => some "HELPLINE_NUMBER"
  | .currencyCode => some "CURRENCY_COUNTRY_CODE"
  | .currencyPosition => some "CURRENCY_POSITION"
  | .currencySymbol => some "CURRENCY_COUNTRY_SYMBOL"
  | .privacyPolicy => some "PRIVACY_POLICY"
  | .termConditions => some "TERM_CONDITIONS"
  | .helpAndSupport => some "HELP_AND_SUPPORT"
  | .refundPolicy => some "REFUND_POLICY"
  | .googleMapKey => none
  | .userDashboardType => some "USER_DASHBOARD"
  | .firebaseServerKey => none

def IntSetting.key : IntSetting → String
  | .priceDecimalPoint => "PRICE_DECIMAL_POINTS"
  | .cancellationChargeHours => "CANCELLATION_CHARGE_HOURS"

def Permission.key : Permission → String
  | .role => "ROLE"
  | .roleAdd => "ROLE_ADD"
  | .roleList => "ROLE_LIST"
  | .permission => "PERMISSION"
  | .permissionAdd => "PERMISSION_ADD"
  | .permissionList => "PERMISSION_LIST"
  | .category => "CATEGORY"
  | .categoryAdd => "CATEGORY_ADD"
  | .categoryList => "CATEGORY_LIST"
  | .categoryEdit => "CATEGORY_EDIT"
  | .categoryDelete => "CATEGORY_DELETE"
  | .service => "SERVICE"
  | .serviceAdd => "SERVICE_ADD"
  | .serviceList => "SERVICE_LIST"
  | .serviceEdit => "SERVICE_EDIT"
  | .serviceDelete => "SERVICE_DELETE"
  | .provider => "PROVIDER"
  | .providerAdd => "PROVIDER_ADD"
  | .providerList => "PROVIDER_LIST"
  | .providerEdit => "PROVIDER_EDIT"
  | .providerDelete => "PROVIDER_DELETE"
  | .handyman => "HANDYMAN"
  | .handymanList => "HANDYMAN_LIST"
  | .handymanAdd => "HANDYMAN_ADD"
  | .handymanEdit => "HANDYMAN_EDIT"
  | .handymanDelete => "HANDYMAN_DELETE"
  | .booking => "BOOKING"
  | .bookingList => "BOOKING_LIST"
  | .bookingEdit => "BOOKING_EDIT"
  | .bookingDelete => "BOOKING_DELETE"
  | .bookingView => "BOOKING_VIEW"
  | .payment => "PAYMENT"
  | .paymentList => "PAYMENT_LIST"
  | .user => "USER"
  | .userList => "USER_LIST"
  | .userView => "USER_VIEW"
  | .userDelete => "USER_DELETE"
  | .providerType => "PROVIDERTYPE"
  | .providerTypeList => "PROVIDERTYPE_LIST"
  | .providerTypeAdd => "PROVIDERTYPE_ADD"
  | .providerTypeEdit => "PROVIDERTYPE_EDIT"
  | .providerTypeDelete => "PROVIDERTYPE_DELETE"
  | .coupon => "COUPON"
  | .couponList => "COUPON_LIST"
  | .couponAdd => "COUPON_ADD"
  | .couponEdit => "COUPON_EDIT"
  | .couponDelete => "COUPON_DELETE"
  | .slider => "SLIDER"
  | .sliderList => "SLIDER_LIST"
  | .sliderAdd => "SLIDER_ADD"
  | .sliderEdit => "SLIDER_EDIT"
  | .sliderDelete => "SLIDER_DELETE"
  | .providerAddress => "PROVIDER_ADDRESS"
  | .providerAddressList => "PROVIDERADDRESS_LIST"
  | .providerAddressAdd => "PROVIDERADDRESS_ADD"
  | .providerAddressEdit => "PROVIDERADDRESS_EDIT"
  | .providerAddressDelete => "PROVIDERADDRESS_DELETE"
  | .document => "DOCUMENT"
  | .documentList => "DOCUMENT_LIST"
  | .documentAdd => "DOCUMENT_ADD"
  | .documentEdit => "DOCUMENT_EDIT"
  | .documentDelete => "DOCUMENT_DELETE"
  | .handymanPayout => "HANDYMAN_PAYOUT"
  | .serviceFAQ => "SERVICEFAQ"
  | .serviceFAQAdd => "SERVICEFAQ_ADD"
  | .serviceFAQEdit => "SERVICEFAQ_EDIT"
  | .serviceFAQDelete => "SERVICEFAQ_DELETE"
  | .serviceFAQList => "SERVICEFAQ_LIST"
  | .userAdd => "USER_ADD"
  | .userEdit => "USER_EDIT"
  | .subCategory => "SUBCATEGORY"
  | .subCategoryAdd => "SUBCATEGORY_ADD"
  | .subCategoryEdit => "SUBCATEGORY_EDIT"
  | .subCategoryDelete => "SUBCATEGORY_DELETE"
  | .subCategoryList => "SUBCATEGORY_LIST"
  | .handymanType => "HANDYMANTYPE"
  | .handymanTypeList => "HANDYMANTYPE_LIST"
  | .handymanTypeAdd => "HANDYMANTYPE_ADD"
  | .handymanTypeEdit => "HANDYMANTYPE_EDIT"
  | .handymanTypeDelete => "HANDYMANTYPE_DELETE"
  | .postJob => "POSTJOB"
  | .postJobList => "POSTJOB_LIST"
  | .servicePackage => "SERVICEPACKAGE"
  | .servicePackageAdd => "SERVICEPACKAGE_ADD"
  | .servicePackageEdit => "SERVICEPACKAGE_EDIT"
  | .servicePackageDelete => "SERVICEPACKAGE_DELETE"
  | .servicePackageList => "SERVICEPACKAGE_LIST"
  | .refundAndCancellationPolicy => "REFUND_AND_CANCELLATION_POLICY"
  | .blog => "BLOG"
  | .blogAdd => "BLOG_ADD"
  | .blogEdit => "BLOG_EDIT"
  | .blogDelete => "BLOG_DELETE"
  | .blogList => "BLOG_LIST"
  | .serviceAddOn => "SERVICE_ADD_ON"
  | .serviceAddOnAdd => "SERVICE_ADD_ON_ADD"
  | .serviceAddOnEdit => "SERVICE_ADD_ON_EDIT"
  | .serviceAddOnList => "SERVICE_ADD_ON_LIST"
  | .frontendSetting => "FRONTEND_SETTING"
  | .frontendSettingList => "FRONTENDSETTING_LIST"
  | .bank => "BANK"
  | .bankAdd => "BANK_ADD"
  | .bankEdit => "BANK_EDIT"
  | .bankDelete => "BANK_DELETE"
  | .bankList => "BANK_LIST"
  | .tax => "TAX"
  | .taxAdd => "TAX_ADD"
  | .taxEdit => "TAX_EDIT"
  | .taxDelete => "TAX_DELETE"
  | .taxList => "TAX_LIST"
  | .earning => "EARNING"
  | .earningList => "EARNING_LIST"
  | .wallet => "WALLET"
  | .walletAdd => "WALLET_ADD"
  | .walletEdit => "WALLET_EDIT"
  | .walletDelete => "WALLET_DELETE"
  | .walletList => "WALLET_LIST"
  | .userRating => "USERRATING"
  | .userRatingList => "USERRATING_LIST"
  | .handymanRating => "HANDYMANRATING"
  | .handymanRatingList => "HANDYMANRATING_LIST"
  | .providerPayout => "PROVIDER_PAYOUT"
  | .plan => "PLAN"
  | .planAdd => "PLAN_ADD"
  | .planEdit => "PLAN_EDIT"
  | .planDelete => "PLAN_DELETE"
  | .planList => "PLAN_LIST"
  | .userServiceList => "USERSERVICE_LIST"
  | .systemSetting => "SYSTEM_SETTING"
  | .providerChangePassword => "PROVIDER_CHANGEPASSWORD"
  | .dataDeletionRequest => "DATA_DELETION_REQUEST"
  | .helpDesk => "HELPDESK"
  | .helpDeskAdd => "HELPDESK_ADD"
  | .helpDeskEdit => "HELPDESK_EDIT"
  | .helpDeskList => "HELPDESK_LIST"
  | .pendingProvider => "PENDING_PROVIDER"
  | .pendingHandyman => "PENDING_HANDYMAN"
  | .pages => "PAGES"
  | .aboutUs => "ABOUT_US"
  | .helpAndSupport => "PERMISSION_HELP_AND_SUPPORT"
  | .termCondition => "PERMISSION_TERM_CONDITION"
  | .privacyPolicy => "PERMISSION_PRIVACY_POLICY"
  | .providerDocument => "PROVIDER_DOCUMENT"
  | .providerDocumentList => "PROVIDERDOCUMENT_LIST"
  | .providerDocumentAdd => "PROVIDERDOCUMENT_ADD"
  | .providerDocumentEdit => "PROVIDERDOCUMENT_EDIT"
  | .providerDocumentDelete => "PROVIDERDOCUMENT_DELETE"

def setValue (key : String) (value : PrefValue) : Program Content :=
  [.write (.set (.pref key) (some value))]

def setField (field : Field) (val : FieldContent field) (key : Option String)
    (stored : PrefValue) : Program Content :=
  .write (.set (.field field) val) ::
    match key with
    | none => []
    | some key => setValue key stored

def setStatus (flag : StatusFlag) (val : Bool) : Program Content :=
  setField (.status flag) val (some flag.key) (.flag val)

def setPermission (name : Permission) (val : Bool) : Program Content :=
  setField (.permission name) val (some name.key) (.flag val)

def setText (setting : TextSetting) (val : String) : Program Content :=
  setField (.text setting) val setting.key (.text val)

def setInt (setting : IntSetting) (val : ℤ) : Program Content :=
  setField (.int setting) val (some setting.key) (.int val)

def setCancellationChargeAmount (val : ℚ) : Program Content :=
  setField .cancellationChargeAmount val (some "CANCELLATION_CHARGE_AMOUNT") (.num val)

end FiksOpp.AppConfiguration
