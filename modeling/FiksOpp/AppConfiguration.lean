/-
`setAppConfigurations`, which copies a configuration of the server into the stores, field
by field.

A setting that is stored as it comes may be missing; what the toolkit's `setValue` does
with nothing is a parameter, since it may throw and leave the rest undone.
-/

import FiksOpp.ConfigurationStores
import FiksOpp.Foundations.EventRun

namespace FiksOpp.AppConfiguration

open CellStore
open CheckedWrites
open EventRun

structure Toolkit where
  /-- What a preference holds after `setValue` of nothing, unless that throws. -/
  setNull : Option (Option PrefValue)
  /-- A text, or the value for one that is missing or counts as empty. -/
  validate : Option String → String → String
  textToInt : Option String → ℤ
  /-- The double that `double.parse` reads from the text of a number. -/
  parseDouble : ℚ → ℚ

/-- The permissions of a payload under the names of the store. -/
abbrev RolesAndPermissionModel := Permission → Option ℤ

structure AppConfigurationModel where
  roleAndPermission : Option RolesAndPermissionModel := none
  siteName : Option String := none
  aboutUs : Option String := none
  siteCopyright : Option String := none
  website : Option String := none
  inquiryEmail : Option String := none
  helplineNumber : Option String := none
  dateFormat : Option String := none
  timeFormat : Option String := none
  timeZone : Option String := none
  distanceType : Option String := none
  appstoreUrl : Option String := none
  playStoreUrl : Option String := none
  providerPlayStoreUrl : Option String := none
  providerAppstoreUrl : Option String := none
  currencyCode : Option String := none
  currencyPosition : Option String := none
  currencySymbol : Option String := none
  decimalPoint : Option String := none
  advancePaymentStatus : Option ℤ := none
  slotServiceStatus : Option ℤ := none
  digitalServiceStatus : Option ℤ := none
  servicePackageStatus : Option ℤ := none
  serviceAddonStatus : Option ℤ := none
  jobRequestServiceStatus : Option ℤ := none
  socialLoginStatus : Option ℤ := none
  googleLoginStatus : Option ℤ := none
  appleLoginStatus : Option ℤ := none
  otpLoginStatus : Option ℤ := none
  onlinePaymentStatus : Option ℤ := none
  blogStatus : Option ℤ := none
  maintenanceMode : Option ℤ := none
  walletStatus : Option ℤ := none
  chatGptStatus : Option ℤ := none
  testChatGptWithoutKey : Option ℤ := none
  forceUpdateUserApp : Option ℤ := none
  userAppMinimumVersion : Option ℤ := none
  userAppLatestVersion : Option ℤ := none
  facebookUrl : Option String := none
  instagramUrl : Option String := none
  twitterUrl : Option String := none
  linkedinUrl : Option String := none
  youtubeUrl : Option String := none
  privacyPolicy : Option String := none
  termsConditions : Option String := none
  helpAndSupport : Option String := none
  refundPolicy : Option String := none
  googleMapKey : Option String := none
  cancellationCharge : Option ℤ := none
  cancellationChargeAmount : Option ℚ := none
  cancellationChargeHours : Option ℤ := none
  userdashboardType : Option String := none
  promotional_banner : Bool
  enable_chat : ℤ
  chatGptKey : Option String := none
  firebaseKey : Option String := none
  isUserAuthorized : Option Bool := none

def getBoolInt (value : Option ℤ) : Bool :=
  value == some 1

def formatMapping : List (Char × String) :=
  [('Y', "yyyy"), ('m', "MM"), ('d', "dd"), ('j', "d"), ('S', "S"), ('M', "MMM"),
    ('F', "MMMM"), ('l', "EEEE"), ('D', "EEE"), ('H', "HH"), ('i', "mm"), ('s', "ss"),
    ('A', "a"), ('T', "z"), ('v', "S"), ('U', "y-MM-ddTHH:mm:ssZ"),
    ('u', "y-MM-ddTHH:mm:ss.SSSZ"), ('G', "H"), ('B', "EEE, d MMM y HH:mm:ss Z")]

/-- The class `[YmjdSFMlDHisaTvGuB]`. -/
def isFormatLetter (c : Char) : Bool :=
  "YmjdSFMlDHisaTvGuB".toList.contains c

def mapFormatLetter (c : Char) : List Char :=
  if isFormatLetter c then
    match formatMapping.lookup c with
    | some text => text.toList
    | none => [c]
  else
    [c]

/-- The dot of a pattern matches no line terminator. -/
def isLineTerminator (c : Char) : Bool :=
  [10, 13, 0x2028, 0x2029].contains c.toNat

/-- A backslash before a character goes. -/
def unescape : List Char → List Char
  | [] => []
  | [c] => [c]
  | first :: second :: rest =>
      if first.toNat = 92 then
        if isLineTerminator second then first :: second :: unescape rest
        else second :: unescape rest
      else
        first :: unescape (second :: rest)

def getDateFormat (phpFormat : String) : String :=
  String.ofList (unescape (phpFormat.toList.flatMap mapFormatLetter))

def getDisplayTimeFormat (phpFormat : String) : String :=
  match phpFormat with
  | "H:i" => "HH:mm"
  | "H:i:s" => "HH:mm:ss"
  | "g:i A" => "h:mm a"
  | "H:i:s T" => "HH:mm:ss z"
  | "H:i:s.v" => "HH:mm:ss.S"
  | "U" => "HH:mm:ssZ"
  | "u" => "HH:mm:ss.SSSZ"
  | "G.i" => "H.mm"
  | "@BMT" => "HH:mm:ss Z"
  | _ => "h:mm a"

section Copy

variable (toolkit : Toolkit) (data : AppConfigurationModel)

def setMissing (key : String) (value : Option PrefValue) : Program Content :=
  match value with
  | some value => setValue key value
  | none =>
      match toolkit.setNull with
      | some kept => [.write (.set (.pref key) kept)]
      | none => [.check false]

def siteSettings : Program Content :=
  setMissing toolkit "SITE_NAME" (data.siteName.map .text) ++
    setMissing toolkit "SITE_DESCRIPTION" (data.aboutUs.map .text) ++
    setMissing toolkit "SITE_COPYRIGHT" (data.siteCopyright.map .text) ++
    setMissing toolkit "WEBSITE" (data.website.map .text)

def helplineClean : String :=
  match data.helplineNumber with
  | none => ""
  | some helplineRaw => trim helplineRaw

def contacts : Program Content :=
  setText .inquiryEmail (toolkit.validate data.inquiryEmail "post@fiksopp.com") ++
    setText .helplineNumber (helplineClean data)

def formats : Program Content :=
  setValue "DATE_FORMAT" (.text (getDateFormat (toolkit.validate data.dateFormat ""))) ++
    setValue "TIME_FORMAT" (.text (getDisplayTimeFormat (toolkit.validate data.timeFormat "")))

def zoneSettings : Program Content :=
  setMissing toolkit "TIMEZONE" (data.timeZone.map .text) ++
    setMissing toolkit "DISTANCE_TYPE" (data.distanceType.map .text)

def setUrl (key : String) (url : Option String) : Program Content :=
  setValue key (.text (toolkit.validate url ""))

def storeUrls : Program Content :=
  setUrl toolkit "APPSTORE_URL" data.appstoreUrl ++
    setUrl toolkit "PLAY_STORE_URL" data.playStoreUrl ++
    setUrl toolkit "PROVIDER_PLAY_STORE_URL" data.providerPlayStoreUrl ++
    setUrl toolkit "PROVIDER_APPSTORE_URL" data.providerAppstoreUrl

def currency : Program Content :=
  setText .currencyCode (toolkit.validate data.currencyCode "") ++
    setText .currencyPosition (toolkit.validate data.currencyPosition "") ++
    setText .currencySymbol (toolkit.validate data.currencySymbol "") ++
    setInt .priceDecimalPoint (toolkit.textToInt data.decimalPoint)

/-- The calls `setX(data.y.validate().getBoolInt())`, one of them without `validate`. -/
def statusCalls : List (StatusFlag × Option ℤ) :=
  [(.isAdvancePaymentAllowed, some (validate data.advancePaymentStatus)),
    (.slotServiceStatus, some (validate data.slotServiceStatus)),
    (.digitalServiceStatus, some (validate data.digitalServiceStatus)),
    (.servicePackageStatus, some (validate data.servicePackageStatus)),
    (.serviceAddonStatus, some (validate data.serviceAddonStatus)),
    (.jobRequestStatus, some (validate data.jobRequestServiceStatus)),
    (.socialLoginStatus, some (validate data.socialLoginStatus)),
    (.googleLoginStatus, some (validate data.googleLoginStatus)),
    (.appleLoginStatus, some (validate data.appleLoginStatus)),
    (.otpLoginStatus, some (validate data.otpLoginStatus)),
    (.onlinePaymentStatus, data.onlinePaymentStatus),
    (.blogStatus, some (validate data.blogStatus)),
    (.maintenanceModeStatus, some (validate data.maintenanceMode)),
    (.isEnableUserWallet, some (validate data.walletStatus)),
    (.chatGPTStatus, some (validate data.chatGptStatus)),
    (.testWithoutKey, some (validate data.testChatGptWithoutKey))]

def callStatus (call : StatusFlag × Option ℤ) : Program Content :=
  setStatus call.1 (getBoolInt call.2)

def statuses : Program Content :=
  (statusCalls data).flatMap callStatus

def versions : Program Content :=
  setMissing toolkit "FORCE_UPDATE_USER_APP" (data.forceUpdateUserApp.map .int) ++
    setMissing toolkit "USER_APP_MINIMUM_VERSION" (data.userAppMinimumVersion.map .int) ++
    setMissing toolkit "USER_APP_LATEST_VERSION" (data.userAppLatestVersion.map .int)

def socialUrls : Program Content :=
  setUrl toolkit "FACEBOOK_URL" data.facebookUrl ++
    setUrl toolkit "INSTAGRAM_URL" data.instagramUrl ++
    setUrl toolkit "TWITTER_URL" data.twitterUrl ++
    setUrl toolkit "LINKEDIN_URL" data.linkedinUrl ++
    setUrl toolkit "YOUTUBE_URL" data.youtubeUrl

/-- The addresses of the pages are empty by default. -/
def policies : Program Content :=
  setText .privacyPolicy (data.privacyPolicy.getD "") ++
    setText .termConditions (data.termsConditions.getD "") ++
    setText .helpAndSupport (data.helpAndSupport.getD "") ++
    setText .refundPolicy (data.refundPolicy.getD "") ++
    setText .googleMapKey (toolkit.validate data.googleMapKey "") ++
    setStatus .cancellationCharge (getBoolInt (some (validate data.cancellationCharge)))

/-- The text of a missing amount is no number, and `double.parse` throws. -/
def chargeAmount : Program Content :=
  match data.cancellationChargeAmount with
  | none => [.check false]
  | some amount => setCancellationChargeAmount (toolkit.parseDouble amount)

def dashboard : Program Content :=
  setInt .cancellationChargeHours (validate data.cancellationChargeHours) ++
    setText .userDashboardType (data.userdashboardType.getD "dashboard")

/-- The setters called under `roleAndPermission`, each with the field it is given. -/
def permissionCalls : List (Permission × Permission) :=
  [(.role, .role), (.roleList, .roleList), (.roleAdd, .roleAdd), (.permission, .permission),
    (.permissionList, .permissionList), (.permissionAdd, .permissionAdd),
    (.category, .category), (.categoryAdd, .categoryAdd), (.categoryEdit, .categoryEdit),
    (.categoryList, .categoryList), (.categoryDelete, .categoryDelete), (.service, .service),
    (.serviceAdd, .serviceAdd), (.serviceList, .serviceList), (.serviceEdit, .serviceEdit),
    (.serviceDelete, .serviceDelete), (.provider, .provider), (.permissionAdd, .permissionAdd),
    (.providerList, .providerList), (.providerEdit, .providerEdit),
    (.providerDelete, .providerDelete), (.handyman, .handyman), (.handymanAdd, .handymanAdd),
    (.handymanList, .handymanList), (.handymanEdit, .handymanEdit),
    (.handymanDelete, .handymanDelete), (.booking, .booking), (.bookingEdit, .bookingEdit),
    (.bookingList, .bookingList), (.bookingView, .bookingView),
    (.bookingDelete, .bookingDelete), (.payment, .payment), (.paymentList, .paymentList),
    (.user, .user), (.userList, .userList), (.userView, .userView), (.userDelete, .userDelete),
    (.userAdd, .userAdd), (.userEdit, .userEdit), (.providerType, .providerType),
    (.providerTypeList, .providerTypeList), (.providerTypeAdd, .providerTypeAdd),
    (.providerTypeEdit, .providerTypeEdit), (.providerTypeDelete, .providerTypeDelete),
    (.coupon, .coupon), (.couponAdd, .couponAdd), (.couponEdit, .couponEdit),
    (.couponDelete, .couponDelete), (.couponList, .couponList), (.slider, .slider),
    (.sliderAdd, .sliderAdd), (.sliderEdit, .sliderEdit), (.sliderList, .sliderList),
    (.sliderDelete, .sliderDelete), (.pendingHandyman, .pendingHandyman),
    (.pendingProvider, .pendingProvider), (.pages, .pages), (.helpAndSupport, .helpAndSupport),
    (.termCondition, .termCondition), (.privacyPolicy, .privacyPolicy), (.aboutUs, .aboutUs),
    (.providerAddress, .providerAddress), (.providerAddressList, .providerAddressList),
    (.providerAddressEdit, .providerAddressEdit), (.providerAddressAdd, .providerAddressAdd),
    (.providerAddressDelete, .providerAddressDelete), (.document, .document),
    (.documentAdd, .documentAdd), (.documentEdit, .documentEdit),
    (.documentList, .documentList), (.documentDelete, .documentDelete),
    (.providerDocument, .providerDocument), (.providerDocumentAdd, .providerDocumentAdd),
    (.providerDocumentList, .providerDocumentList),
    (.providerDocumentEdit, .providerDocumentEdit),
    (.providerDocumentDelete, .providerDocumentDelete), (.handymanPayout, .handymanPayout),
    (.providerPayout, .providerPayout), (.serviceFAQ, .serviceFAQ),
    (.serviceFAQList, .serviceFAQList), (.serviceFAQAdd, .serviceFAQAdd),
    (.serviceFAQEdit, .serviceFAQEdit), (.serviceFAQDelete, .serviceFAQDelete),
    (.subCategory, .subCategory), (.subCategoryList, .subCategoryList),
    (.subCategoryAdd, .subCategoryAdd), (.subCategoryEdit, .subCategoryEdit),
    (.subCategoryDelete, .subCategoryDelete), (.handymanType, .handymanType),
    (.handymanTypeAdd, .handymanTypeAdd), (.handymanTypeList, .handymanTypeList),
    (.handymanTypeEdit, .handymanTypeEdit), (.handymanTypeDelete, .handymanTypeDelete),
    (.postJob, .postJob), (.postJobList, .postJobList), (.servicePackage, .servicePackage),
    (.servicePackageList, .servicePackageList), (.servicePackageAdd, .servicePackageAdd),
    (.servicePackageEdit, .servicePackageEdit), (.servicePackageDelete, .servicePackageDelete),
    (.refundAndCancellationPolicy, .refundAndCancellationPolicy), (.blog, .blog),
    (.blogList, .blogList), (.blogAdd, .blogAdd), (.blogEdit, .blogEdit),
    (.blogDelete, .blogDelete), (.serviceAddOn, .serviceAddOn),
    (.serviceAddOnList, .serviceAddOnList), (.serviceAddOnAdd, .serviceAddOnAdd),
    (.serviceAddOnEdit, .serviceAddOnEdit), (.frontendSetting, .frontendSetting),
    (.frontendSettingList, .frontendSettingList), (.bank, .bank), (.bankList, .bankList),
    (.bankAdd, .bankAdd), (.bankEdit, .bankEdit), (.bankDelete, .bankDelete), (.tax, .tax),
    (.taxAdd, .taxAdd), (.taxList, .taxList), (.taxEdit, .taxEdit), (.taxDelete, .taxDelete),
    (.wallet, .wallet), (.walletList, .walletList), (.walletAdd, .walletAdd),
    (.walletEdit, .walletEdit), (.walletDelete, .walletDelete), (.earning, .earning),
    (.earningList, .earningList), (.userRating, .userRating),
    (.userRatingList, .userRatingList), (.handymanRating, .handymanRating),
    (.handymanRatingList, .handymanRatingList), (.plan, .plan), (.planAdd, .planAdd),
    (.planList, .planList), (.planEdit, .planEdit), (.planDelete, .planDelete),
    (.userServiceList, .userServiceList), (.systemSetting, .systemSetting),
    (.providerChangePassword, .providerChangePassword),
    (.dataDeletionRequest, .dataDeletionRequest), (.helpDesk, .helpDesk),
    (.helpDeskAdd, .helpDeskAdd), (.helpDeskList, .helpDeskList),
    (.helpDeskEdit, .helpDeskEdit)]

def callPermission (roles : RolesAndPermissionModel) (call : Permission × Permission) :
    Program Content :=
  setPermission call.1 (getBoolInt (roles call.2))

def rolesAndPermission : Program Content :=
  match data.roleAndPermission with
  | none => []
  | some roles =>
      permissionCalls.flatMap (callPermission roles) ++
        setStatus .isPromotionalBanner data.promotional_banner ++
        setStatus .isEnableChat (getBoolInt (some data.enable_chat))

def chatGptKey : Program Content :=
  if (toolkit.validate data.chatGptKey "").isEmpty then []
  else [.write (.set .chatGPTAPIkey (data.chatGptKey.getD ""))]

def closing (timestamp : ℤ) : Program Content :=
  setText .firebaseServerKey (toolkit.validate data.firebaseKey "") ++
    setStatus .isUserAuthorized (data.isUserAuthorized.getD false) ++
    setValue "LAST_APP_CONFIGURATION_SYNCED_TIME" (.int timestamp) ++
    setValue "IS_APP_CONFIGURATION_SYNCED_AT_LEAST_ONCE" (.flag true)

def setAppConfigurations (timestamp : ℤ) : Program Content :=
  siteSettings toolkit data ++
    (contacts toolkit data ++ formats toolkit data) ++
    zoneSettings toolkit data ++
    (storeUrls toolkit data ++ currency toolkit data ++ statuses data) ++
    versions toolkit data ++
    (socialUrls toolkit data ++ policies toolkit data) ++
    chargeAmount toolkit data ++
    (dashboard data ++ rolesAndPermission data ++ chatGptKey toolkit data ++
      closing toolkit data timestamp)

end Copy

structure Sync where
  data : AppConfigurationModel
  timestamp : ℤ

def machine (toolkit : Toolkit) : Machine State Sync Unit where
  next := fun state sync =>
    execute (setAppConfigurations toolkit sync.data sync.timestamp) state
  outputs := fun _ _ => []

/-! ### What a payload says -/

section Meaning

variable (toolkit : Toolkit) (data : AppConfigurationModel)

/-- The flag of the payload with the meaning of a flag of the store. -/
def statusOf : StatusFlag → Option Bool
  | .isAdvancePaymentAllowed => data.advancePaymentStatus.map (· == 1)
  | .slotServiceStatus => data.slotServiceStatus.map (· == 1)
  | .digitalServiceStatus => data.digitalServiceStatus.map (· == 1)
  | .servicePackageStatus => data.servicePackageStatus.map (· == 1)
  | .serviceAddonStatus => data.serviceAddonStatus.map (· == 1)
  | .jobRequestStatus => data.jobRequestServiceStatus.map (· == 1)
  | .socialLoginStatus => data.socialLoginStatus.map (· == 1)
  | .googleLoginStatus => data.googleLoginStatus.map (· == 1)
  | .appleLoginStatus => data.appleLoginStatus.map (· == 1)
  | .otpLoginStatus => data.otpLoginStatus.map (· == 1)
  | .onlinePaymentStatus => data.onlinePaymentStatus.map (· == 1)
  | .blogStatus => data.blogStatus.map (· == 1)
  | .maintenanceModeStatus => data.maintenanceMode.map (· == 1)
  | .isEnableUserWallet => data.walletStatus.map (· == 1)
  | .chatGPTStatus => data.chatGptStatus.map (· == 1)
  | .testWithoutKey => data.testChatGptWithoutKey.map (· == 1)
  | .cancellationCharge => data.cancellationCharge.map (· == 1)
  | .isPromotionalBanner => some data.promotional_banner
  | .isEnableChat => some (data.enable_chat == 1)
  | .isUserAuthorized => data.isUserAuthorized

def permissionOf (name : Permission) : Option Bool :=
  data.roleAndPermission.bind fun roles => (roles name).map (· == 1)

def hasText : TextSetting → Bool
  | .inquiryEmail => data.inquiryEmail.isSome
  | .helplineNumber => data.helplineNumber.isSome
  | .currencyCode => data.currencyCode.isSome
  | .currencyPosition => data.currencyPosition.isSome
  | .currencySymbol => data.currencySymbol.isSome
  | .privacyPolicy => data.privacyPolicy.isSome
  | .termConditions => data.termsConditions.isSome
  | .helpAndSupport => data.helpAndSupport.isSome
  | .refundPolicy => data.refundPolicy.isSome
  | .googleMapKey => data.googleMapKey.isSome
  | .userDashboardType => data.userdashboardType.isSome
  | .firebaseServerKey => data.firebaseKey.isSome

def textOf : TextSetting → String
  | .inquiryEmail => toolkit.validate data.inquiryEmail "post@fiksopp.com"
  | .helplineNumber => helplineClean data
  | .currencyCode => toolkit.validate data.currencyCode ""
  | .currencyPosition => toolkit.validate data.currencyPosition ""
  | .currencySymbol => toolkit.validate data.currencySymbol ""
  | .privacyPolicy => data.privacyPolicy.getD ""
  | .termConditions => data.termsConditions.getD ""
  | .helpAndSupport => data.helpAndSupport.getD ""
  | .refundPolicy => data.refundPolicy.getD ""
  | .googleMapKey => toolkit.validate data.googleMapKey ""
  | .userDashboardType => data.userdashboardType.getD "dashboard"
  | .firebaseServerKey => toolkit.validate data.firebaseKey ""

def carries : Field → Bool
  | .status flag => (statusOf data flag).isSome
  | .permission name => (permissionOf data name).isSome
  | .text setting => hasText data setting
  | .int .priceDecimalPoint => data.decimalPoint.isSome
  | .int .cancellationChargeHours => data.cancellationChargeHours.isSome
  | .cancellationChargeAmount => data.cancellationChargeAmount.isSome

def given : (field : Field) → FieldContent field
  | .status flag => (statusOf data flag).getD false
  | .permission name => (permissionOf data name).getD false
  | .text setting => textOf toolkit data setting
  | .int .priceDecimalPoint => toolkit.textToInt data.decimalPoint
  | .int .cancellationChargeHours => validate data.cancellationChargeHours
  | .cancellationChargeAmount => toolkit.parseDouble (validate data.cancellationChargeAmount)

def Carried (state : State) : Prop :=
  ∀ field, carries data field = true → state (.field field) = given toolkit data field

def storesNull : Bool := toolkit.setNull.isSome

def siteStored : Bool :=
  storesNull toolkit ||
    (data.siteName.isSome && data.aboutUs.isSome && data.siteCopyright.isSome &&
      data.website.isSome)

def zoneStored : Bool :=
  storesNull toolkit || (data.timeZone.isSome && data.distanceType.isSome)

def versionsStored : Bool :=
  storesNull toolkit ||
    (data.forceUpdateUserApp.isSome && data.userAppMinimumVersion.isSome &&
      data.userAppLatestVersion.isSome)

def contactFields : List Field :=
  [.text .inquiryEmail, .text .helplineNumber]

def statusFields : List Field :=
  [.text .currencyCode, .text .currencyPosition, .text .currencySymbol,
    .int .priceDecimalPoint, .status .isAdvancePaymentAllowed, .status .slotServiceStatus,
    .status .digitalServiceStatus, .status .servicePackageStatus, .status .serviceAddonStatus,
    .status .jobRequestStatus, .status .socialLoginStatus, .status .googleLoginStatus,
    .status .appleLoginStatus, .status .otpLoginStatus, .status .onlinePaymentStatus,
    .status .blogStatus, .status .maintenanceModeStatus, .status .isEnableUserWallet,
    .status .chatGPTStatus, .status .testWithoutKey]

def policyFields : List Field :=
  [.text .privacyPolicy, .text .termConditions, .text .helpAndSupport, .text .refundPolicy,
    .text .googleMapKey, .status .cancellationCharge]

def closingFields : List Field :=
  [.cancellationChargeAmount, .int .cancellationChargeHours, .text .userDashboardType,
    .text .firebaseServerKey, .status .isUserAuthorized]

/-- The fields set only under a block of permissions: all permissions but one, and two
flags that have nothing to do with it. -/
def inBlock : Field → Bool
  | .permission name => name != .providerAdd
  | .status .isPromotionalBanner => true
  | .status .isEnableChat => true
  | _ => false

def assigns (field : Field) : Bool :=
  siteStored toolkit data &&
    (contactFields.contains field ||
      zoneStored toolkit data &&
        (statusFields.contains field ||
          versionsStored toolkit data &&
            (policyFields.contains field ||
              data.cancellationChargeAmount.isSome &&
                (closingFields.contains field ||
                  data.roleAndPermission.isSome && inBlock field))))

end Meaning

/-! ### The parts of a call -/

section Parts

variable {toolkit : Toolkit} {data : AppConfigurationModel}

def IsField : Cell → Prop
  | .field _ => True
  | _ => False

def goal (toolkit : Toolkit) (data : AppConfigurationModel) : State
  | .field field => given toolkit data field
  | .chatGPTAPIkey => ""
  | .pref _ => none

/-- The program ends and gives these fields, and no others, the values of the payload. -/
def Gives (toolkit : Toolkit) (data : AppConfigurationModel) (program : Program Content)
    (fields : List Field) : Prop :=
  completes program = true ∧
    Settles program (goal toolkit data) IsField (fields.map Cell.field)

theorem Gives.append {first second : Program Content} {fields fields' : List Field}
    (left : Gives toolkit data first fields) (right : Gives toolkit data second fields') :
    Gives toolkit data (first ++ second) (fields ++ fields') := by
  refine ⟨?_, ?_⟩
  · rw [completes_append, left.1, right.1]
    rfl
  · rw [List.map_append]
    exact left.2.append_of_completes left.1 right.2

theorem gives_nil : Gives toolkit data [] [] :=
  ⟨rfl, settles_nil⟩

theorem gives_setValue (key : String) (value : PrefValue) :
    Gives toolkit data (setValue key value) [] :=
  ⟨rfl, settles_unwatched fun seen => seen⟩

theorem gives_setField {field : Field} {val : FieldContent field} {key : Option String}
    {stored : PrefValue} (same : given toolkit data field = val) :
    Gives toolkit data (setField field val key stored) [field] := by
  have first : Gives toolkit data [.write (.set (.field field) val)] [field] :=
    ⟨rfl, settles_set same⟩
  cases key with
  | none => exact first
  | some key => exact first.append (gives_setValue key stored)

theorem Gives.append_silent {first second : Program Content} {fields : List Field}
    (left : Gives toolkit data first fields) (right : Gives toolkit data second []) :
    Gives toolkit data (first ++ second) fields := by
  have both := left.append right
  rw [List.append_nil] at both
  exact both

theorem gives_setStatus {flag : StatusFlag} {val : Bool}
    (same : (statusOf data flag).getD false = val) :
    Gives toolkit data (setStatus flag val) [.status flag] :=
  gives_setField same

theorem gives_setPermission {name : Permission} {val : Bool}
    (same : (permissionOf data name).getD false = val) :
    Gives toolkit data (setPermission name val) [.permission name] :=
  gives_setField same

theorem gives_setText (setting : TextSetting) :
    Gives toolkit data (setText setting (textOf toolkit data setting)) [.text setting] :=
  gives_setField rfl

theorem gives_setInt {setting : IntSetting} {val : ℤ}
    (same : given toolkit data (.int setting) = val) :
    Gives toolkit data (setInt setting val) [.int setting] :=
  gives_setField same

theorem gives_setUrl (key : String) (url : Option String) :
    Gives toolkit data (setUrl toolkit key url) [] :=
  gives_setValue key _

theorem gives_flatMap {Item : Type} {program : Item → Program Content} (target : Item → Field)
    {items : List Item}
    (each : ∀ item ∈ items, Gives toolkit data (program item) [target item]) :
    Gives toolkit data (items.flatMap program) (items.map target) := by
  have all := settles_flatMap (fun item => Cell.field (target item)) each
  refine ⟨all.1, ?_⟩
  rw [List.map_map]
  exact all.2

theorem settles_setMissing (key : String) (value : Option PrefValue) :
    completes (setMissing toolkit key value) = (storesNull toolkit || value.isSome) ∧
      Settles (setMissing toolkit key value) (goal toolkit data) IsField [] := by
  unfold setMissing storesNull
  cases value with
  | some value =>
      refine ⟨(Bool.or_true _).symm, ?_⟩
      exact settles_unwatched fun seen => seen
  | none =>
      cases toolkit.setNull with
      | some kept => exact ⟨rfl, settles_unwatched fun seen => seen⟩
      | none => exact ⟨rfl, settles_check false⟩

theorem getBoolInt_validate (value : Option ℤ) :
    getBoolInt (some (validate value)) = getBoolInt value := by
  cases value with
  | none => rfl
  | some value => rfl

theorem getBoolInt_eq (value : Option ℤ) :
    getBoolInt value = (value.map (· == 1)).getD false := by
  cases value with
  | none => rfl
  | some value =>
      change (some value == some 1) = (value == 1)
      exact Option.some_beq_some

theorem gives_contacts : Gives toolkit data (contacts toolkit data) contactFields :=
  Gives.append (gives_setText .inquiryEmail) (gives_setText .helplineNumber)

theorem gives_formats : Gives toolkit data (formats toolkit data) [] :=
  Gives.append (gives_setValue _ _) (gives_setValue _ _)

theorem gives_storeUrls : Gives toolkit data (storeUrls toolkit data) [] :=
  Gives.append
    (Gives.append (Gives.append (gives_setUrl _ _) (gives_setUrl _ _)) (gives_setUrl _ _))
    (gives_setUrl _ _)

theorem gives_currency : Gives toolkit data (currency toolkit data)
    [.text .currencyCode, .text .currencyPosition, .text .currencySymbol,
      .int .priceDecimalPoint] :=
  Gives.append
    (Gives.append (Gives.append (gives_setText .currencyCode) (gives_setText .currencyPosition))
      (gives_setText .currencySymbol))
    (gives_setInt rfl)

/-- No flag is given the value of another. -/
theorem statusCalls_straight :
    ∀ call ∈ statusCalls data, (statusOf data call.1).getD false = getBoolInt call.2 := by
  unfold statusCalls
  simp only [List.forall_mem_cons, List.not_mem_nil, false_imp_iff, implies_true,
    getBoolInt_validate]
  simp only [getBoolInt_eq, statusOf, and_self]

theorem gives_statuses : Gives toolkit data (statuses data)
    ((statusCalls data).map fun call => .status call.1) :=
  gives_flatMap (fun call : StatusFlag × Option ℤ => Field.status call.1)
    fun call member => gives_setStatus (statusCalls_straight call member)

theorem gives_socialUrls : Gives toolkit data (socialUrls toolkit data) [] :=
  Gives.append
    (Gives.append
      (Gives.append (Gives.append (gives_setUrl _ _) (gives_setUrl _ _)) (gives_setUrl _ _))
      (gives_setUrl _ _))
    (gives_setUrl _ _)

theorem gives_policies : Gives toolkit data (policies toolkit data) policyFields := by
  have charge : (statusOf data .cancellationCharge).getD false =
      getBoolInt (some (validate data.cancellationCharge)) := by
    rw [getBoolInt_validate, getBoolInt_eq]
    rfl
  have pages := Gives.append
    (Gives.append
      (Gives.append (@gives_setText toolkit data .privacyPolicy) (gives_setText .termConditions))
      (gives_setText .helpAndSupport))
    (gives_setText .refundPolicy)
  exact Gives.append (Gives.append pages (gives_setText .googleMapKey)) (gives_setStatus charge)

theorem gives_dashboard : Gives toolkit data (dashboard data)
    [.int .cancellationChargeHours, .text .userDashboardType] :=
  Gives.append (gives_setInt rfl) (gives_setText .userDashboardType)

theorem gives_chatGptKey : Gives toolkit data (chatGptKey toolkit data) [] := by
  unfold chatGptKey
  split
  · exact gives_nil
  · exact ⟨rfl, settles_unwatched fun seen => seen⟩

theorem gives_closing (timestamp : ℤ) : Gives toolkit data (closing toolkit data timestamp)
    [.text .firebaseServerKey, .status .isUserAuthorized] := by
  refine Gives.append_silent ?_ (gives_setValue _ _)
  refine Gives.append_silent ?_ (gives_setValue _ _)
  exact Gives.append (gives_setText .firebaseServerKey) (gives_setStatus rfl)

theorem permissionCalls_straight : ∀ call ∈ permissionCalls, call.1 = call.2 := by
  decide +kernel

/-- One permission is set by no call. -/
theorem contains_permissionCalls (name : Permission) :
    (permissionCalls.map Prod.fst).contains name = (name != .providerAdd) := by
  cases name <;> rfl

theorem gives_permissions {roles : RolesAndPermissionModel}
    (present : data.roleAndPermission = some roles) :
    Gives toolkit data (permissionCalls.flatMap (callPermission roles))
      (permissionCalls.map fun call => .permission call.1) := by
  refine gives_flatMap (fun call : Permission × Permission => Field.permission call.1) ?_
  intro call member
  refine gives_setPermission ?_
  unfold permissionOf
  rw [present, permissionCalls_straight call member, getBoolInt_eq]
  rfl

def blockFields : List Field :=
  (permissionCalls.map fun call => .permission call.1) ++ [.status .isPromotionalBanner] ++
    [.status .isEnableChat]

theorem gives_rolesAndPermission : Gives toolkit data (rolesAndPermission data)
    (if data.roleAndPermission.isSome then blockFields else []) := by
  unfold rolesAndPermission
  cases present : data.roleAndPermission with
  | none => exact gives_nil
  | some roles =>
      refine Gives.append (Gives.append (gives_permissions present) (gives_setStatus rfl)) ?_
      exact gives_setStatus (getBoolInt_eq (some data.enable_chat)).symm

theorem mem_permissions_iff (field : Field) :
    (field ∈ permissionCalls.map fun call => Field.permission call.1) ↔
      ∃ name, name ≠ .providerAdd ∧ field = .permission name := by
  have settable : ∀ name, name ∈ permissionCalls.map Prod.fst ↔ name ≠ .providerAdd := by
    intro name
    rw [← List.contains_iff_mem, contains_permissionCalls, bne_iff_ne]
  constructor
  · intro member
    obtain ⟨call, called, same⟩ := List.mem_map.mp member
    exact ⟨call.1, (settable call.1).mp (List.mem_map_of_mem called), same.symm⟩
  · intro found
    obtain ⟨name, other, same⟩ := found
    obtain ⟨call, called, target⟩ := List.mem_map.mp ((settable name).mpr other)
    rw [same, ← target]
    exact List.mem_map_of_mem called

theorem mem_blockFields_iff (field : Field) : field ∈ blockFields ↔ inBlock field = true := by
  unfold blockFields
  rw [List.mem_append, List.mem_append, List.mem_singleton, List.mem_singleton,
    mem_permissions_iff]
  constructor
  · intro member
    rcases member with (permission | banner) | chat
    · obtain ⟨name, other, same⟩ := permission
      rw [same]
      exact bne_iff_ne.mpr other
    · rw [banner]
      rfl
    · rw [chat]
      rfl
  · intro inside
    cases field with
    | permission name => exact Or.inl (Or.inl ⟨name, bne_iff_ne.mp inside, rfl⟩)
    | text setting => cases inside
    | int setting => cases inside
    | cancellationChargeAmount => cases inside
    | status flag =>
        cases flag with
        | isPromotionalBanner => exact Or.inl (Or.inr rfl)
        | isEnableChat => exact Or.inr rfl
        | _ => cases inside

/-! ### The whole call -/

theorem setMissing_append {first : Program Content} {given : Bool}
    (left : completes first = (storesNull toolkit || given) ∧
      Settles first (goal toolkit data) IsField [])
    (key : String) (value : Option PrefValue) :
    completes (first ++ setMissing toolkit key value) =
        (storesNull toolkit || (given && value.isSome)) ∧
      Settles (first ++ setMissing toolkit key value) (goal toolkit data) IsField [] := by
  obtain ⟨ends, settles⟩ := @settles_setMissing toolkit data key value
  refine ⟨?_, ?_⟩
  · rw [completes_append, left.1, ends, Bool.or_and_distrib_left]
  · have both := left.2.append settles
    rw [ite_self] at both
    exact both

theorem settles_siteSettings :
    completes (siteSettings toolkit data) = siteStored toolkit data ∧
      Settles (siteSettings toolkit data) (goal toolkit data) IsField [] := by
  have first := @settles_setMissing toolkit data "SITE_NAME" (data.siteName.map .text)
  have all := setMissing_append
    (setMissing_append (setMissing_append first "SITE_DESCRIPTION" (data.aboutUs.map .text))
      "SITE_COPYRIGHT" (data.siteCopyright.map .text))
    "WEBSITE" (data.website.map .text)
  simp only [Option.isSome_map] at all
  exact all

theorem settles_zoneSettings :
    completes (zoneSettings toolkit data) = zoneStored toolkit data ∧
      Settles (zoneSettings toolkit data) (goal toolkit data) IsField [] := by
  have first := @settles_setMissing toolkit data "TIMEZONE" (data.timeZone.map .text)
  have all := setMissing_append first "DISTANCE_TYPE" (data.distanceType.map .text)
  simp only [Option.isSome_map] at all
  exact all

theorem settles_versions :
    completes (versions toolkit data) = versionsStored toolkit data ∧
      Settles (versions toolkit data) (goal toolkit data) IsField [] := by
  have first := @settles_setMissing toolkit data "FORCE_UPDATE_USER_APP"
    (data.forceUpdateUserApp.map .int)
  have all := setMissing_append
    (setMissing_append first "USER_APP_MINIMUM_VERSION" (data.userAppMinimumVersion.map .int))
    "USER_APP_LATEST_VERSION" (data.userAppLatestVersion.map .int)
  simp only [Option.isSome_map] at all
  exact all

theorem settles_chargeAmount :
    completes (chargeAmount toolkit data) = data.cancellationChargeAmount.isSome ∧
      Settles (chargeAmount toolkit data) (goal toolkit data) IsField
        ((if data.cancellationChargeAmount.isSome then [.cancellationChargeAmount]
          else []).map Cell.field) := by
  unfold chargeAmount
  cases amount : data.cancellationChargeAmount with
  | none => exact ⟨rfl, settles_check false⟩
  | some amount' =>
      have same : given toolkit data .cancellationChargeAmount =
          toolkit.parseDouble amount' := by
        change toolkit.parseDouble (validate data.cancellationChargeAmount) = _
        rw [amount]
        rfl
      exact gives_setField same

theorem statusCalls_fields : ((statusCalls data).map fun call => Field.status call.1) =
    [.status .isAdvancePaymentAllowed, .status .slotServiceStatus,
      .status .digitalServiceStatus, .status .servicePackageStatus,
      .status .serviceAddonStatus, .status .jobRequestStatus, .status .socialLoginStatus,
      .status .googleLoginStatus, .status .appleLoginStatus, .status .otpLoginStatus,
      .status .onlinePaymentStatus, .status .blogStatus, .status .maintenanceModeStatus,
      .status .isEnableUserWallet, .status .chatGPTStatus, .status .testWithoutKey] :=
  rfl

theorem gives_first : Gives toolkit data (contacts toolkit data ++ formats toolkit data)
    contactFields :=
  gives_contacts.append_silent gives_formats

theorem gives_middle : Gives toolkit data
    (storeUrls toolkit data ++ currency toolkit data ++ statuses data) statusFields := by
  have all := (gives_storeUrls.append gives_currency).append (@gives_statuses toolkit data)
  rw [statusCalls_fields] at all
  exact all

theorem gives_pages : Gives toolkit data (socialUrls toolkit data ++ policies toolkit data)
    policyFields :=
  gives_socialUrls.append gives_policies

theorem gives_last (timestamp : ℤ) : Gives toolkit data
    (dashboard data ++ rolesAndPermission data ++ chatGptKey toolkit data ++
      closing toolkit data timestamp)
    ([.int .cancellationChargeHours, .text .userDashboardType] ++
      (if data.roleAndPermission.isSome then blockFields else []) ++
      [.text .firebaseServerKey, .status .isUserAuthorized]) :=
  ((gives_dashboard.append gives_rolesAndPermission).append_silent gives_chatGptKey).append
    (gives_closing timestamp)

def Reaches (toolkit : Toolkit) (data : AppConfigurationModel) (program : Program Content)
    (ends : Bool) (sets : Field → Bool) : Prop :=
  completes program = ends ∧
    ∀ state field, execute program state (.field field) =
      if sets field then given toolkit data field else state (.field field)

theorem reaches_of_settles {program : Program Content} {ends : Bool} {fields : List Field}
    (settled : completes program = ends ∧
      Settles program (goal toolkit data) IsField (fields.map Cell.field)) :
    Reaches toolkit data program ends fields.contains := by
  refine ⟨settled.1, ?_⟩
  intro state field
  rw [settled.2 state (.field field) trivial]
  apply if_congr _ rfl rfl
  rw [List.contains_iff_mem]
  constructor
  · intro member
    obtain ⟨other, inside, same⟩ := List.mem_map.mp member
    cases same
    exact inside
  · intro member
    exact List.mem_map_of_mem member

theorem Reaches.append {first second : Program Content} {ends ends' : Bool}
    {sets sets' : Field → Bool} (left : Reaches toolkit data first ends sets)
    (right : Reaches toolkit data second ends' sets') :
    Reaches toolkit data (first ++ second) (ends && ends')
      (fun field => sets field || ends && sets' field) := by
  refine ⟨?_, ?_⟩
  · rw [completes_append, left.1, right.1]
  · intro state field
    rw [execute_append, left.1]
    cases ends with
    | false =>
        rw [if_neg Bool.false_ne_true, left.2 state field]
        apply if_congr _ rfl rfl
        dsimp only
        rw [Bool.false_and, Bool.or_false]
    | true =>
        rw [if_pos rfl, right.2 _ field, left.2 state field]
        by_cases later : sets' field = true
        · rw [if_pos later, if_pos]
          dsimp only
          rw [later]
          exact Bool.or_true _
        · rw [if_neg later]
          apply if_congr _ rfl rfl
          dsimp only
          rw [Bool.eq_false_iff.mpr later, Bool.and_false, Bool.or_false]

theorem contains_last (field : Field) :
    ([.int .cancellationChargeHours, .text .userDashboardType] ++
        (if data.roleAndPermission.isSome then blockFields else []) ++
        [.text .firebaseServerKey, .status .isUserAuthorized] : List Field).contains field =
      ([.int .cancellationChargeHours, .text .userDashboardType, .text .firebaseServerKey,
          .status .isUserAuthorized].contains field ||
        data.roleAndPermission.isSome && inBlock field) := by
  rw [Bool.eq_iff_iff, Bool.or_eq_true, Bool.and_eq_true, List.contains_iff_mem,
    List.contains_iff_mem, ← mem_blockFields_iff, List.mem_append, List.mem_append]
  cases data.roleAndPermission.isSome with
  | false =>
      simp only [Bool.false_eq_true, if_false, List.mem_cons, List.not_mem_nil, or_false,
        false_and, or_assoc]
  | true =>
      simp only [if_true, List.mem_cons, List.not_mem_nil, or_false, true_and]
      tauto

theorem contains_closingFields (field : Field) :
    closingFields.contains field =
      ([Field.cancellationChargeAmount].contains field ||
        [Field.int .cancellationChargeHours, .text .userDashboardType,
          .text .firebaseServerKey, .status .isUserAuthorized].contains field) := by
  unfold closingFields
  rw [List.contains_cons]
  change (_ || _) = ((field == .cancellationChargeAmount || false) || _)
  rw [Bool.or_false]

theorem next_field (state : State) (sync : Sync) (field : Field) :
    (machine toolkit).next state sync (.field field) =
      if assigns toolkit sync.data field then given toolkit sync.data field
      else state (.field field) := by
  obtain ⟨data, timestamp⟩ := sync
  have site := @reaches_of_settles toolkit data _ _ [] settles_siteSettings
  have zone := @reaches_of_settles toolkit data _ _ [] settles_zoneSettings
  have stored := @reaches_of_settles toolkit data _ _ [] settles_versions
  have early := (site.append (reaches_of_settles gives_first)).append zone
  have middle := (early.append (reaches_of_settles gives_middle)).append stored
  have pages := middle.append (reaches_of_settles gives_pages)
  have charge := reaches_of_settles (@settles_chargeAmount toolkit data)
  have whole := (pages.append charge).append (reaches_of_settles (gives_last timestamp))
  change execute (setAppConfigurations toolkit data timestamp) state (.field field) = _
  rw [setAppConfigurations, whole.2 state field]
  apply if_congr _ rfl rfl
  rw [← Bool.eq_iff_iff]
  dsimp only
  rw [contains_last]
  unfold assigns
  rw [contains_closingFields]
  cases siteStored toolkit data with
  | false => simp
  | true =>
      cases zoneStored toolkit data with
      | false => simp
      | true =>
          cases versionsStored toolkit data with
          | false => simp
          | true => cases data.cancellationChargeAmount.isSome <;> simp [Bool.or_assoc]

end Parts

def lastGiven (toolkit : Toolkit) (start : State) (syncs : List Sync) (field : Field) :
    FieldContent field :=
  ((syncs.filterMap fun sync =>
    if assigns toolkit sync.data field then some (given toolkit sync.data field)
    else none).getLast?).getD (start (.field field))

theorem run_field (toolkit : Toolkit) (start : State) (syncs : List Sync) (field : Field) :
    (machine toolkit).run start syncs (.field field) = lastGiven toolkit start syncs field := by
  refine (machine toolkit).view_run (fun state => state (.field field)) _ ?_ start syncs
  intro state sync
  rw [next_field]
  cases assigns toolkit sync.data field with
  | false => rfl
  | true => rfl

/-- A payload that lacks nothing leaves out one permission, and without a block of
permissions the two flags as well. -/
theorem assigns_of_complete {toolkit : Toolkit} {data : AppConfigurationModel}
    (site : siteStored toolkit data = true) (zone : zoneStored toolkit data = true)
    (stored : versionsStored toolkit data = true)
    (amount : data.cancellationChargeAmount.isSome = true) (field : Field) :
    assigns toolkit data field =
      match field with
      | .permission name => data.roleAndPermission.isSome && name != .providerAdd
      | .status .isPromotionalBanner => data.roleAndPermission.isSome
      | .status .isEnableChat => data.roleAndPermission.isSome
      | _ => true := by
  unfold assigns
  rw [site, zone, stored, amount]
  cases field with
  | permission name => rfl
  | text setting => cases setting <;> rfl
  | int setting => cases setting <;> rfl
  | cancellationChargeAmount => rfl
  | status flag =>
      cases flag with
      | isPromotionalBanner => exact Bool.and_true _
      | isEnableChat => exact Bool.and_true _
      | _ => rfl

/-- After a sequence of payloads the stores hold what the last one carries, exactly when
each field it carries and does not set was given the same by the last payload before it
that set the field. -/
theorem appConfigurations_iff (toolkit : Toolkit) (start : State) (syncs : List Sync)
    (last : Sync) :
    Carried toolkit last.data ((machine toolkit).run start (syncs ++ [last])) ↔
      ∀ field, carries last.data field = true → assigns toolkit last.data field = false →
        lastGiven toolkit start syncs field = given toolkit last.data field := by
  apply forall_congr'
  intro field
  apply imp_congr_right
  intro _
  rw [Machine.run_concat, next_field, run_field]
  cases assigns toolkit last.data field with
  | false => exact (imp_iff_right rfl).symm
  | true => exact iff_of_true rfl (fun impossible => nomatch impossible)

def firstStart : State
  | .field (.status _) => false
  | .field (.permission _) => false
  | .field (.text .currencyPosition) => "left"
  | .field (.text _) => ""
  | .field (.int .priceDecimalPoint) => 2
  | .field (.int .cancellationChargeHours) => 0
  | .field .cancellationChargeAmount => 0
  | .chatGPTAPIkey => ""
  | .pref _ => none

/-- A payload that lacks nothing but the permissions, and enables chat. -/
def chatPayload : AppConfigurationModel where
  siteName := some "FiksOpp"
  aboutUs := some ""
  siteCopyright := some ""
  website := some ""
  timeZone := some "Europe/Oslo"
  distanceType := some "km"
  forceUpdateUserApp := some 0
  userAppMinimumVersion := some 1
  userAppLatestVersion := some 1
  cancellationChargeAmount := some 0
  promotional_banner := true
  enable_chat := 1

/-- Without a block of permissions chat stays off. -/
theorem chat_skipped_without_permissions :
    ¬ ∀ toolkit start syncs last,
      Carried toolkit last.data ((machine toolkit).run start (syncs ++ [last])) := by
  intro always
  have chat := always
    { setNull := none, validate := fun text value => text.getD value, textToInt := fun _ => 0,
      parseDouble := fun value => value }
    firstStart [] ⟨chatPayload, 0⟩ (.status .isEnableChat) rfl
  change (machine _).next firstStart ⟨chatPayload, 0⟩ _ = _ at chat
  rw [next_field] at chat
  revert chat
  decide

end FiksOpp.AppConfiguration
