/-
The state that outlives a login: the cached responses of `main.dart`, the user's
fields of the stores, the configuration that is fetched for the user, and the preferences,
with the calls that fill them and `clearPreferences`, which a logout runs.

What the user types or picks is part of a call, and what the server sends is its
answer, so two sessions that differ only in fetched data make the same calls.
-/

import FiksOpp.AppConfiguration
import FiksOpp.NetworkUtils

namespace FiksOpp.UserState

open CellStore

inductive ResponseCache where
  | cachedDashboardResponse
  | cachedBookingList
  | cachedCategoryList
  | cachedBookingStatusDropdown
  | cachedPostJobList
  | cachedWalletHistoryList
  | cachedServiceFavList
  | cachedProviderFavList
  | cachedHandymanList
  | cachedBlogList
  | cachedRatingList
  | cachedHelpDeskListData
  | cachedNotificationList
  | cachedCouponListResponse
  | cachedBankList
  deriving DecidableEq, Repr

inductive KeyedCache where
  | cachedBlogDetail
  | listOfCachedData
  | cachedProviderList
  | cachedSubcategoryList
  | cachedBookingDetailList
  deriving DecidableEq, Repr

inductive FlagField where
  | isLoggedIn
  | isCurrentLocation
  | isSubscribedForPushNotification
  deriving DecidableEq, Repr

inductive TextField where
  | userProfileImage
  | loginType
  | userFirstName
  | userLastName
  | uid
  | userContactNumber
  | userEmail
  | userName
  | token
  | address
  | userType
  deriving DecidableEq, Repr

inductive IntField where
  | countryId
  | stateId
  | cityId
  | userId
  | unreadCount
  deriving DecidableEq, Repr

inductive NumField where
  | latitude
  | longitude
  | userWalletAmount
  | expansionDynamicHeight
  deriving DecidableEq, Repr

inductive FilterField where
  | serviceId
  | customerId
  | providerId
  | handymanId
  | categoryId
  deriving DecidableEq, Repr

inductive PrefKey where
  | IS_LOGGED_IN
  | IS_CURRENT_LOCATION
  | IS_SUBSCRIBED_FOR_PUSH_NOTIFICATION
  | PROFILE_IMAGE
  | LOGIN_TYPE
  | FIRST_NAME
  | LAST_NAME
  | UID
  | CONTACT_NUMBER
  | USER_EMAIL
  | USERNAME
  | TOKEN
  | ADDRESS
  | USER_TYPE
  | COUNTRY_ID
  | STATE_ID
  | CITY_ID
  | USER_ID
  | LATITUDE
  | LONGITUDE
  | USER_PASSWORD
  | IS_REMEMBERED
  | IS_EMAIL_VERIFIED
  | CURRENT_ADDRESS
  | CITY_NAME
  | LAST_USER_DETAILS_SYNCED_TIME
  | APPLE_EMAIL
  | APPLE_GIVE_NAME
  | APPLE_FAMILY_NAME
  | APPLE_UID
  | BOOKING_ID_CLOSED_ (id : ℤ)
  deriving DecidableEq, Repr

inductive Cell where
  | response (cache : ResponseCache)
  | keyed (cache : KeyedCache)
  | flag (field : FlagField)
  | text (field : TextField)
  | int (field : IntField)
  | num (field : NumField)
  | filter (field : FilterField)
  | selectedServiceAddon
  | configuration (cell : AppConfiguration.Cell)
  | pref (key : PrefKey)
  deriving DecidableEq, Repr

/-- What a cell holds; a decoded response is data of type `δ`. -/
abbrev Content (δ : Type) : Cell → Type
  | .response _ => Option δ
  | .keyed _ => List (ℤ × δ)
  | .flag _ => Bool
  | .text _ => String
  | .int _ => ℤ
  | .num _ => ℚ
  | .filter _ => List ℤ
  | .selectedServiceAddon => List δ
  | .configuration cell => AppConfiguration.Content cell
  | .pref _ => Option PrefValue

abbrev State (δ : Type) := (cell : Cell) → Content δ cell

abbrev Writes (δ : Type) := List (Write (Content δ))

def freshInstall (δ : Type) : State δ
  | .response _ => none
  | .keyed _ => []
  | .flag .isSubscribedForPushNotification => true
  | .flag _ => false
  | .text _ => ""
  | .int _ => 0
  | .num .expansionDynamicHeight => 65
  | .num _ => 0
  | .filter _ => []
  | .selectedServiceAddon => []
  | .configuration cell => AppConfiguration.firstStart cell
  | .pref _ => none

def getBoolAsync {δ : Type} (state : State δ) (key : PrefKey) : Bool :=
  match state (.pref key) with
  | some (.flag value) => value
  | _ => false

def getStringAsync {δ : Type} (state : State δ) (key : PrefKey) : String :=
  match state (.pref key) with
  | some (.text value) => value
  | _ => ""

section Setters

variable {δ : Type}

def setValue (key : PrefKey) (value : PrefValue) : Writes δ :=
  [.set (.pref key) (some value)]

def removeKey (key : PrefKey) : Writes δ :=
  [.set (.pref key) none]

/-- A setter writes the field and stores the value under its key. -/
def setField (cell : Cell) (val : Content δ cell) (key : PrefKey) (stored : PrefValue) :
    Writes δ :=
  .set cell val :: setValue key stored

abbrev setFlag (field : FlagField) (key : PrefKey) (val : Bool) : Writes δ :=
  setField (.flag field) val key (.flag val)

abbrev setText (field : TextField) (key : PrefKey) (val : String) : Writes δ :=
  setField (.text field) val key (.text val)

abbrev setInt (field : IntField) (key : PrefKey) (val : ℤ) : Writes δ :=
  setField (.int field) val key (.int val)

abbrev setNum (field : NumField) (key : PrefKey) (val : ℚ) : Writes δ :=
  setField (.num field) val key (.num val)

abbrev setLoggedIn : Bool → Writes δ := setFlag .isLoggedIn .IS_LOGGED_IN

abbrev setCurrentLocation : Bool → Writes δ := setFlag .isCurrentLocation .IS_CURRENT_LOCATION

abbrev setPushNotificationSubscriptionStatus : Bool → Writes δ :=
  setFlag .isSubscribedForPushNotification .IS_SUBSCRIBED_FOR_PUSH_NOTIFICATION

abbrev setUserProfile : String → Writes δ := setText .userProfileImage .PROFILE_IMAGE

abbrev setLoginType : String → Writes δ := setText .loginType .LOGIN_TYPE

abbrev setFirstName : String → Writes δ := setText .userFirstName .FIRST_NAME

abbrev setLastName : String → Writes δ := setText .userLastName .LAST_NAME

abbrev setUId : String → Writes δ := setText .uid .UID

abbrev setContactNumber : String → Writes δ := setText .userContactNumber .CONTACT_NUMBER

abbrev setUserEmail : String → Writes δ := setText .userEmail .USER_EMAIL

abbrev setUserName : String → Writes δ := setText .userName .USERNAME

abbrev setToken : String → Writes δ := setText .token .TOKEN

abbrev setAddress : String → Writes δ := setText .address .ADDRESS

abbrev setCountryId : ℤ → Writes δ := setInt .countryId .COUNTRY_ID

abbrev setStateId : ℤ → Writes δ := setInt .stateId .STATE_ID

abbrev setCityId : ℤ → Writes δ := setInt .cityId .CITY_ID

abbrev setUserId : ℤ → Writes δ := setInt .userId .USER_ID

abbrev setLatitude : ℚ → Writes δ := setNum .latitude .LATITUDE

abbrev setLongitude : ℚ → Writes δ := setNum .longitude .LONGITUDE

def setUnreadCount (val : ℤ) : Writes δ :=
  [.set (.int .unreadCount) val]

def setUserWalletAmount (isLoggedIn : Bool) (getUserWalletBalance : ℚ) : Writes δ :=
  [.set (.num .userWalletAmount) (if isLoggedIn then getUserWalletBalance else 0)]

/-! ### What the setters touch -/

def cells (writes : Writes δ) : List Cell :=
  writes.map Write.cell

@[simp] theorem cells_nil : cells ([] : Writes δ) = [] := rfl

@[simp] theorem cells_cons (write : Write (Content δ)) (rest : Writes δ) :
    cells (write :: rest) = write.cell :: cells rest := rfl

@[simp] theorem cells_append (first second : Writes δ) :
    cells (first ++ second) = cells first ++ cells second :=
  List.map_append

@[simp] theorem cells_setValue (key : PrefKey) (value : PrefValue) :
    cells (setValue key value : Writes δ) = [.pref key] := rfl

@[simp] theorem cells_removeKey (key : PrefKey) :
    cells (removeKey key : Writes δ) = [.pref key] := rfl

@[simp] theorem cells_setField (cell : Cell) (val : Content δ cell) (key : PrefKey)
    (stored : PrefValue) : cells (setField cell val key stored) = [cell, .pref key] := rfl

def AllAssign (writes : Writes δ) : Prop :=
  ∀ write ∈ writes, write.Assigns

@[simp] theorem allAssign_nil : AllAssign ([] : Writes δ) :=
  List.forall_mem_nil _

@[simp] theorem allAssign_cons (write : Write (Content δ)) (rest : Writes δ) :
    AllAssign (write :: rest) ↔ write.Assigns ∧ AllAssign rest :=
  List.forall_mem_cons

@[simp] theorem allAssign_append (first second : Writes δ) :
    AllAssign (first ++ second) ↔ AllAssign first ∧ AllAssign second :=
  List.forall_mem_append

@[simp] theorem allAssign_setValue (key : PrefKey) (value : PrefValue) :
    AllAssign (setValue key value : Writes δ) := by
  simp [AllAssign, setValue]

@[simp] theorem allAssign_removeKey (key : PrefKey) :
    AllAssign (removeKey key : Writes δ) := by
  simp [AllAssign, removeKey]

@[simp] theorem allAssign_setField (cell : Cell) (val : Content δ cell) (key : PrefKey)
    (stored : PrefValue) : AllAssign (setField cell val key stored) := by
  simp [AllAssign, setField, setValue]

end Setters

structure UserData where
  apiToken : Option String := none
  id : Option ℤ := none
  uid : Option String := none
  firstName : Option String := none
  lastName : Option String := none
  email : Option String := none
  username : Option String := none
  countryId : Option ℤ := none
  stateId : Option ℤ := none
  cityId : Option ℤ := none
  contactNumber : Option String := none
  loginType : Option String := none
  address : Option String := none
  profileImage : Option String := none
  deriving DecidableEq, Repr

/-- A dashboard response, cached whole, and the two fields read from it. -/
structure DashboardResponse (δ : Type) where
  response : δ
  notificationUnreadCount : Option ℤ
  isEmailVerified : Bool
  deriving DecidableEq, Repr

/-- The Apple account of a sign-in; the names come with a fresh credential only. -/
structure AppleAccount where
  email : String
  fullName : Option (String × String)
  uid : String
  deriving DecidableEq, Repr

inductive ListCall where
  | getBookingList
  | getCategoryListWithPagination
  | bookingStatus
  | getHelpDeskList
  | getPostJobList
  | getUserWalletHistory
  | getWishlist
  | filterServiceList
  | getProviderWishlist
  | getBlogListAPI
  | getNotification
  | getCouponList
  | getBankListDetail
  deriving DecidableEq, Repr

def ListCall.cache : ListCall → ResponseCache
  | .getBookingList => .cachedBookingList
  | .getCategoryListWithPagination => .cachedCategoryList
  | .bookingStatus => .cachedBookingStatusDropdown
  | .getHelpDeskList => .cachedHelpDeskListData
  | .getPostJobList => .cachedPostJobList
  | .getUserWalletHistory => .cachedWalletHistoryList
  | .getWishlist => .cachedServiceFavList
  | .filterServiceList => .cachedServiceFavList
  | .getProviderWishlist => .cachedProviderFavList
  | .getBlogListAPI => .cachedBlogList
  | .getNotification => .cachedNotificationList
  | .getCouponList => .cachedCouponListResponse
  | .getBankListDetail => .cachedBankList

inductive DetailCall where
  | getBookingDetail
  | getProviderDetail
  | getSubCategoryListAPI
  | getBlogDetailAPI
  deriving DecidableEq, Repr

def DetailCall.cache : DetailCall → KeyedCache
  | .getBookingDetail => .cachedBookingDetailList
  | .getProviderDetail => .cachedProviderList
  | .getSubCategoryListAPI => .cachedSubcategoryList
  | .getBlogDetailAPI => .cachedBlogDetail

/-- A call of the configuration has the toolkit it runs with; times are in microseconds
when they are compared and in milliseconds when they are stored. -/
inductive Call where
  | list (call : ListCall)
  | detail (call : DetailCall) (id : ℤ)
  | getHandyman (userTypeHandyman : String)
  | customerReviews
  | userDashboard
  | setUserWalletAmount
  | getUserDetail (timestamp : ℤ)
  | userDetailAPI
  | saveUserData (forceSyncAppConfigurations : Bool)
  | getAppConfigurations (toolkit : AppConfiguration.Toolkit) (currentTimeStamp timestamp : ℤ)
  | reGenerateToken
  | handleLoginUsers (password : String) (isRemember : Bool)
  | changeUserPassword (newPassword : String)
  | appleSignIn
  | verifyFirebaseUser
  | subscribeToFirebaseTopic (result : Bool)
  | buildFullAddressFromLatLong (latitude longitude : ℚ) (address locality : String)
  | setSelectedServiceAddon
  | setExpansionDynamicHeight
  | addToFilter (field : FilterField) (id : ℤ)
  | removeFromFilter (field : FilterField) (id : ℤ)
  | clearFilters
  | closeBookingCard (id : ℤ)

/-- What a call is answered with; a call that fetches nothing has one answer. -/
abbrev Call.Answer (δ : Type) : Call → Type
  | .list _ => δ
  | .detail _ _ => δ
  | .getHandyman _ => Option δ
  | .customerReviews => Option δ
  | .userDashboard => DashboardResponse δ
  | .setUserWalletAmount => ℚ
  | .userDetailAPI => Bool
  | .saveUserData _ => UserData
  | .getAppConfigurations _ _ _ => AppConfiguration.AppConfigurationModel
  | .reGenerateToken => UserData
  | .appleSignIn => AppleAccount
  | .verifyFirebaseUser => String
  | .setSelectedServiceAddon => List δ
  | .setExpansionDynamicHeight => ℚ
  | _ => Unit

abbrev Fetched (δ : Type) := (call : Call) × call.Answer δ

section Calls

variable {δ : Type}

def USER_TYPE_HANDYMAN : String := "handyman"

/-- Adds the response, or replaces the first one kept under the id. -/
def upsert (id : ℤ) (response : δ) (cached : List (ℤ × δ)) : List (ℤ × δ) :=
  if !cached.any (·.1 == id) then cached ++ [(id, response)]
  else cached.set (cached.findIdx (·.1 == id)) (id, response)

def getHandymanCache (userTypeHandyman : String) : ResponseCache :=
  if userTypeHandyman = USER_TYPE_HANDYMAN then .cachedHandymanList
  else .cachedProviderFavList

def userDashboard (dashboardResponse : DashboardResponse δ) : Writes δ :=
  [.set (.response .cachedDashboardResponse) (some dashboardResponse.response)] ++
    setValue .IS_EMAIL_VERIFIED (.flag dashboardResponse.isEmailVerified) ++
    setUnreadCount (validate dashboardResponse.notificationUnreadCount)

def lastAppConfigurationSyncedTime : Cell :=
  .configuration (.pref "LAST_APP_CONFIGURATION_SYNCED_TIME")

def resetSyncedTime : Writes δ :=
  [.set lastAppConfigurationSyncedTime (some (.int 0))]

@[simp] theorem cells_resetSyncedTime :
    cells (resetSyncedTime : Writes δ) =
      [.configuration (.pref "LAST_APP_CONFIGURATION_SYNCED_TIME")] := rfl

def saveUserData (data : UserData) (forceSyncAppConfigurations : Bool) : Writes δ :=
  [if (validateText data.apiToken).isEmpty then [] else setToken (validateText data.apiToken),
    setLoggedIn true,
    setUserId (validate data.id),
    setUId (validateText data.uid),
    setFirstName (validateText data.firstName),
    setLastName (validateText data.lastName),
    setUserEmail (validateText data.email),
    setUserName (validateText data.username),
    setCountryId (validate data.countryId),
    setStateId (validate data.stateId),
    setCityId (validate data.cityId),
    setContactNumber (validateText data.contactNumber),
    setLoginType (if (validateText data.loginType).isEmpty then Network.LOGIN_TYPE_USER
      else validateText data.loginType),
    setAddress (validateText data.address),
    setUserProfile (validateText data.profileImage),
    if forceSyncAppConfigurations then resetSyncedTime else []].flatten

def syncedTime (state : State δ) : ℤ :=
  match state lastAppConfigurationSyncedTime with
  | some (.int value) => value
  | _ => 0

def configurationWrite (write : Write AppConfiguration.Content) : Write (Content δ) :=
  { cell := .configuration write.cell, update := write.update }

/-- Within five minutes of the last configuration nothing is fetched; the one that comes may
break off where the toolkit cannot store a missing value. -/
def getAppConfigurations (toolkit : AppConfiguration.Toolkit) (currentTimeStamp timestamp : ℤ)
    (synced : ℤ) (res : AppConfiguration.AppConfigurationModel) : Writes δ :=
  if currentTimeStamp < (synced + 5 * 60 * 1000) * 1000 then []
  else (CheckedWrites.performed (AppConfiguration.setAppConfigurations toolkit res timestamp)).map
    configurationWrite

def appleSignIn (account : AppleAccount) : Writes δ :=
  setValue .APPLE_EMAIL (.text account.email) ++
    (match account.fullName with
      | some (givenName, familyName) =>
          setValue .APPLE_GIVE_NAME (.text givenName) ++
            setValue .APPLE_FAMILY_NAME (.text familyName)
      | none => []) ++
    setValue .APPLE_UID (.text account.uid)

def buildFullAddressFromLatLong (latitude longitude : ℚ) (address locality : String) :
    Writes δ :=
  setValue .LATITUDE (.num latitude) ++ setValue .LONGITUDE (.num longitude) ++
    setValue .CURRENT_ADDRESS (.text address) ++ setValue .CITY_NAME (.text locality)

def writes (state : State δ) : (call : Call) → call.Answer δ → Writes δ
  | .list call, list => [.set (.response call.cache) (some list)]
  | .detail call id, response => [⟨.keyed call.cache, upsert id response⟩]
  | .getHandyman userTypeHandyman, list =>
      [.set (.response (getHandymanCache userTypeHandyman)) list]
  | .customerReviews, list => [.set (.response .cachedRatingList) list]
  | .userDashboard, dashboardResponse => userDashboard dashboardResponse
  | .setUserWalletAmount, balance => setUserWalletAmount (state (.flag .isLoggedIn)) balance
  | .getUserDetail timestamp, () => setValue .LAST_USER_DETAILS_SYNCED_TIME (.int timestamp)
  | .userDetailAPI, isEmailVerified => setValue .IS_EMAIL_VERIFIED (.flag isEmailVerified)
  | .saveUserData forceSyncAppConfigurations, data =>
      saveUserData data forceSyncAppConfigurations
  | .getAppConfigurations toolkit currentTimeStamp timestamp, res =>
      getAppConfigurations toolkit currentTimeStamp timestamp (syncedTime state) res
  | .reGenerateToken, data => setToken (validateText data.apiToken)
  | .handleLoginUsers password isRemember, () =>
      setValue .USER_PASSWORD (.text password) ++ setValue .IS_REMEMBERED (.flag isRemember) ++
        setLoginType Network.LOGIN_TYPE_USER
  | .changeUserPassword newPassword, () => setValue .USER_PASSWORD (.text newPassword)
  | .appleSignIn, account => appleSignIn account
  | .verifyFirebaseUser, uid => setUId uid
  | .subscribeToFirebaseTopic result, () => setPushNotificationSubscriptionStatus result
  | .buildFullAddressFromLatLong latitude longitude address locality, () =>
      buildFullAddressFromLatLong latitude longitude address locality
  | .setSelectedServiceAddon, value => [.set .selectedServiceAddon value]
  | .setExpansionDynamicHeight, val => [.set (.num .expansionDynamicHeight) val]
  | .addToFilter field id, () => [⟨.filter field, fun ids => ids ++ [id]⟩]
  | .removeFromFilter field id, () => [⟨.filter field, fun ids => ids.filter (· ≠ id)⟩]
  | .clearFilters, () =>
      [.set (.filter .customerId) [], .set (.filter .serviceId) [], .set (.filter .providerId) [],
        .set (.filter .handymanId) [], .set (.filter .categoryId) []]
  | .closeBookingCard id, () => setValue (.BOOKING_ID_CLOSED_ id) (.flag true)

/-- A configuration writes to the cells of the configuration alone. -/
theorem cells_getAppConfigurations {toolkit : AppConfiguration.Toolkit}
    {currentTimeStamp timestamp synced : ℤ} {res : AppConfiguration.AppConfigurationModel}
    {cell : Cell}
    (member : cell ∈
      cells (getAppConfigurations toolkit currentTimeStamp timestamp synced res : Writes δ)) :
    ∃ configured, cell = .configuration configured := by
  unfold getAppConfigurations at member
  split at member
  · exact absurd member List.not_mem_nil
  · obtain ⟨_, written, rfl⟩ := List.mem_map.mp member
    obtain ⟨write, _, rfl⟩ := List.mem_map.mp written
    exact ⟨write.cell, rfl⟩

theorem untouched_getAppConfigurations {toolkit : AppConfiguration.Toolkit}
    {currentTimeStamp timestamp synced : ℤ} {res : AppConfiguration.AppConfigurationModel}
    {cell : Cell} (other : ∀ configured, cell ≠ .configuration configured) :
    cell ∉ cells
      (getAppConfigurations toolkit currentTimeStamp timestamp synced res : Writes δ) := by
  intro member
  obtain ⟨configured, here⟩ := cells_getAppConfigurations member
  exact other configured here

def configurationOf (state : State δ) : AppConfiguration.State :=
  fun cell => state (.configuration cell)

theorem configurationOf_applyAll (writes : List (Write AppConfiguration.Content))
    (state : State δ) :
    configurationOf (applyAll (writes.map configurationWrite) state) =
      applyAll writes (configurationOf state) := by
  induction writes generalizing state with
  | nil => rfl
  | cons write rest ih =>
      have first : configurationOf ((configurationWrite write).apply state) =
          write.apply (configurationOf state) := by
        funext cell
        by_cases here : cell = write.cell
        · subst here
          rw [write.apply_same]
          exact (configurationWrite write : Write (Content δ)).apply_same state
        · rw [Write.apply_of_ne here]
          exact Write.apply_of_ne (fun same => here (Cell.configuration.inj same)) state
      change configurationOf (applyAll (rest.map configurationWrite) _) = applyAll rest _
      rw [ih, first]

/-- A configuration that is fetched does to the stores what `setAppConfigurations` does. -/
theorem configurationOf_getAppConfigurations {toolkit : AppConfiguration.Toolkit}
    {currentTimeStamp timestamp synced : ℤ}
    (stale : (synced + 5 * 60 * 1000) * 1000 ≤ currentTimeStamp)
    (res : AppConfiguration.AppConfigurationModel) (state : State δ) :
    configurationOf
        (applyAll (getAppConfigurations toolkit currentTimeStamp timestamp synced res) state) =
      CheckedWrites.execute (AppConfiguration.setAppConfigurations toolkit res timestamp)
        (configurationOf state) := by
  have late : ¬ currentTimeStamp < (synced + 5 * 60 * 1000) * 1000 := Int.not_lt.mpr stale
  unfold getAppConfigurations
  rw [if_neg late, configurationOf_applyAll, CheckedWrites.execute_eq_applyAll]

def session (δ : Type) : EventRun.Machine (State δ) (Fetched δ) Unit where
  next state fetched := applyAll (writes state fetched.1 fetched.2) state
  outputs _ _ := []

end Calls

/-! ### Logging out -/

/-- How the topic is left: clearing does not wait for it, so the subscription
status is written before or after the preference is removed, or not at all. -/
inductive Unsubscription where
  | failed
  | beforeRemoval
  | afterRemoval
  deriving DecidableEq, Repr

section Clear

variable {δ : Type}

/-- Writes nothing when it fails, or when it lands at another point. -/
def unsubscribeFirebaseTopic (landed : Bool) : Writes δ :=
  if landed then setPushNotificationSubscriptionStatus false else []

def clearEmail (isRemembered : Bool) : Writes δ :=
  if isRemembered then [] else setUserEmail "" ++ removeKey .IS_EMAIL_VERIFIED

@[simp] theorem allAssign_unsubscribeFirebaseTopic (landed : Bool) :
    AllAssign (unsubscribeFirebaseTopic landed : Writes δ) := by
  cases landed <;> simp [unsubscribeFirebaseTopic]

@[simp] theorem cells_unsubscribeFirebaseTopic (landed : Bool) :
    cells (unsubscribeFirebaseTopic landed : Writes δ) =
      if landed then [.flag .isSubscribedForPushNotification,
        .pref .IS_SUBSCRIBED_FOR_PUSH_NOTIFICATION] else [] := by
  cases landed <;> rfl

@[simp] theorem cells_clearEmail (isRemembered : Bool) :
    cells (clearEmail isRemembered : Writes δ) =
      if isRemembered then [] else [.text .userEmail, .pref .USER_EMAIL,
        .pref .IS_EMAIL_VERIFIED] := by
  cases isRemembered <;> rfl

@[simp] theorem allAssign_clearEmail (isRemembered : Bool) :
    AllAssign (clearEmail isRemembered : Writes δ) := by
  cases isRemembered <;> simp [clearEmail]

def clearWrites (isRemembered : Bool) (unsubscription : Unsubscription) : Writes δ :=
  [[.set (.response .cachedDashboardResponse) none,
      .set (.response .cachedBookingList) none,
      .set (.response .cachedCategoryList) none,
      .set (.response .cachedBookingStatusDropdown) none,
      .set (.response .cachedHelpDeskListData) none],
    clearEmail isRemembered,
    setValue .CURRENT_ADDRESS (.text ""),
    setCurrentLocation false,
    removeKey .LOGIN_TYPE,
    setLoggedIn false,
    setFirstName "",
    setLastName "",
    setUserId 0,
    setUserName "",
    setContactNumber "",
    setCountryId 0,
    setStateId 0,
    setUserProfile "",
    setAddress "",
    setCityId 0,
    setUId "",
    setLatitude 0,
    setLongitude 0,
    setToken "",
    setLoginType "",
    setValue .USER_PASSWORD (.text ""),
    unsubscribeFirebaseTopic (unsubscription = .beforeRemoval),
    removeKey .IS_SUBSCRIBED_FOR_PUSH_NOTIFICATION,
    unsubscribeFirebaseTopic (unsubscription = .afterRemoval),
    -- The login flag is down by now, so no balance is fetched.
    setUserWalletAmount false 0].flatten

def clearPreferences (unsubscription : Unsubscription) (state : State δ) : State δ :=
  applyAll (clearWrites (getBoolAsync state .IS_REMEMBERED) unsubscription) state

def keptEmail (isRemembered : Bool) : Cell → Bool
  | .text .userEmail => isRemembered
  | .pref .USER_EMAIL => isRemembered
  | _ => false

def ResponseCache.survives : ResponseCache → Bool
  | .cachedPostJobList => true
  | .cachedWalletHistoryList => true
  | .cachedServiceFavList => true
  | .cachedProviderFavList => true
  | .cachedHandymanList => true
  | .cachedBlogList => true
  | .cachedRatingList => true
  | .cachedNotificationList => true
  | .cachedCouponListResponse => true
  | .cachedBankList => true
  | _ => false

def PrefKey.survives (isRemembered : Bool) : PrefKey → Bool
  | .USER_TYPE => true
  | .IS_REMEMBERED => true
  | .IS_EMAIL_VERIFIED => isRemembered
  | .CITY_NAME => true
  | .LAST_USER_DETAILS_SYNCED_TIME => true
  | .APPLE_EMAIL => true
  | .APPLE_GIVE_NAME => true
  | .APPLE_FAMILY_NAME => true
  | .APPLE_UID => true
  | .BOOKING_ID_CLOSED_ _ => true
  | _ => false

/-- The cells that clearing leaves alone without meaning to. -/
def Cell.survives (isRemembered : Bool) (unsubscription : Unsubscription) : Cell → Bool
  | .response cache => cache.survives
  | .keyed _ => true
  | .flag .isSubscribedForPushNotification => unsubscription = .failed
  | .text .userType => true
  | .int .unreadCount => true
  | .num .expansionDynamicHeight => true
  | .filter _ => true
  | .selectedServiceAddon => true
  | .configuration _ => true
  | .pref key => key.survives isRemembered
  | _ => false

def SameExceptEmail (isRemembered : Bool) : State δ → State δ → Prop :=
  AgreeOn fun cell => keptEmail isRemembered cell = false

def SameSurvivors (isRemembered : Bool) (unsubscription : Unsubscription) :
    State δ → State δ → Prop :=
  AgreeOn fun cell => cell.survives isRemembered unsubscription = true

theorem clearWrites_assigns (isRemembered : Bool) (unsubscription : Unsubscription) :
    AllAssign (clearWrites isRemembered unsubscription : Writes δ) := by
  simp [clearWrites, setUserWalletAmount]

def clearedCells (isRemembered : Bool) (unsubscription : Unsubscription) : List Cell :=
  cells (clearWrites isRemembered unsubscription : Writes Unit)

theorem clearWrites_cells (isRemembered : Bool) (unsubscription : Unsubscription) :
    cells (clearWrites isRemembered unsubscription : Writes δ) =
      clearedCells isRemembered unsubscription := by
  simp [clearedCells, clearWrites, setUserWalletAmount]

theorem clearedCells_not_kept (isRemembered : Bool) (unsubscription : Unsubscription) :
    ∀ cell ∈ clearedCells isRemembered unsubscription,
      keptEmail isRemembered cell = false ∧
        cell.survives isRemembered unsubscription = false := by
  cases isRemembered <;> cases unsubscription <;> decide

theorem cleared_of_not_kept (isRemembered : Bool) (unsubscription : Unsubscription)
    (cell : Cell) (notKept : keptEmail isRemembered cell = false)
    (notSurviving : cell.survives isRemembered unsubscription = false) :
    cell ∈ clearedCells isRemembered unsubscription := by
  revert notKept notSurviving
  cases cell with
  | response cache => cases cache <;> cases isRemembered <;> cases unsubscription <;> decide
  | flag field => cases field <;> cases isRemembered <;> cases unsubscription <;> decide
  | text field => cases field <;> cases isRemembered <;> cases unsubscription <;> decide
  | int field => cases field <;> cases isRemembered <;> cases unsubscription <;> decide
  | num field => cases field <;> cases isRemembered <;> cases unsubscription <;> decide
  | keyed cache => exact fun _ erased => nomatch erased
  | filter field => exact fun _ erased => nomatch erased
  | selectedServiceAddon => exact fun _ erased => nomatch erased
  | configuration cell => exact fun _ erased => nomatch erased
  | pref key =>
      cases key with
      | BOOKING_ID_CLOSED_ id => exact fun _ erased => nomatch erased
      | _ => cases isRemembered <;> cases unsubscription <;> decide

theorem survives_iff (isRemembered : Bool) (unsubscription : Unsubscription) (cell : Cell) :
    cell.survives isRemembered unsubscription = true ↔
      keptEmail isRemembered cell = false ∧
        cell ∉ clearedCells isRemembered unsubscription := by
  constructor
  · intro surviving
    constructor
    · cases cell with
      | text field => cases field <;> first | rfl | cases surviving
      | pref key => cases key <;> first | rfl | cases surviving
      | _ => rfl
    · intro cleared
      have erased := (clearedCells_not_kept isRemembered unsubscription cell cleared).2
      rw [surviving] at erased
      exact absurd erased (by decide)
  · rintro ⟨notKept, notCleared⟩
    by_contra erased
    rw [Bool.not_eq_true] at erased
    exact notCleared (cleared_of_not_kept isRemembered unsubscription cell notKept erased)

/-- Clearing hides a login from the next one exactly when the cells it leaves
alone held nothing of it. -/
theorem clearPreferences_sameExceptEmail_iff (unsubscription : Unsubscription)
    (left right : State δ)
    (remembered : getBoolAsync left .IS_REMEMBERED = getBoolAsync right .IS_REMEMBERED) :
    SameExceptEmail (getBoolAsync left .IS_REMEMBERED)
        (clearPreferences unsubscription left) (clearPreferences unsubscription right) ↔
      SameSurvivors (getBoolAsync left .IS_REMEMBERED) unsubscription left right := by
  unfold clearPreferences SameExceptEmail SameSurvivors
  rw [← remembered, agreeOn_applyAll_iff (clearWrites_assigns _ _)]
  have sameCells : ∀ cell, (keptEmail (getBoolAsync left .IS_REMEMBERED) cell = false ∧
      cell ∉ (clearWrites (getBoolAsync left .IS_REMEMBERED) unsubscription :
        Writes δ).map Write.cell) ↔
      cell.survives (getBoolAsync left .IS_REMEMBERED) unsubscription = true := by
    intro cell
    have survives := survives_iff (getBoolAsync left .IS_REMEMBERED) unsubscription cell
    rw [← @clearWrites_cells δ] at survives
    exact survives.symm
  constructor
  · intro agree cell surviving
    exact agree cell ((sameCells cell).mpr surviving)
  · intro agree cell inside
    exact agree cell ((sameCells cell).mp inside)

def networkSession (state : State δ) : Network.Session :=
  { isLoggedIn := state (.flag .isLoggedIn)
    token := state (.text .token)
    userEmail := state (.text .userEmail)
    userPassword := getStringAsync state .USER_PASSWORD
    loginType := state (.text .loginType)
    isRemembered := getBoolAsync state .IS_REMEMBERED }

theorem networkSession_clearWrites (isRemembered : Bool) (unsubscription : Unsubscription)
    (state : State δ) :
    networkSession (applyAll (clearWrites isRemembered unsubscription) state) =
      { isLoggedIn := false
        token := ""
        userEmail := if isRemembered then state (.text .userEmail) else ""
        userPassword := ""
        loginType := ""
        isRemembered := getBoolAsync state .IS_REMEMBERED } := by
  cases isRemembered with
  | true =>
      cases unsubscription with
      | failed => rfl
      | beforeRemoval => rfl
      | afterRemoval => rfl
  | false =>
      cases unsubscription with
      | failed => rfl
      | beforeRemoval => rfl
      | afterRemoval => rfl

theorem networkSession_clearPreferences (unsubscription : Unsubscription) (state : State δ) :
    networkSession (clearPreferences unsubscription state) =
      (networkSession state).clearPreferences :=
  networkSession_clearWrites (getBoolAsync state .IS_REMEMBERED) unsubscription state

/-! ### Whole sessions -/

def SameSurvivingData (isRemembered : Bool) :
    (call : Call) → call.Answer δ → call.Answer δ → Prop
  | .list call, list, list' => call.cache.survives = true → list = list'
  | .detail _ _, response, response' => response = response'
  | .getHandyman _, list, list' => list = list'
  | .customerReviews, list, list' => list = list'
  | .userDashboard, dashboard, dashboard' =>
      validate dashboard.notificationUnreadCount = validate dashboard'.notificationUnreadCount ∧
        (isRemembered = true → dashboard.isEmailVerified = dashboard'.isEmailVerified)
  | .userDetailAPI, isEmailVerified, isEmailVerified' =>
      isRemembered = true → isEmailVerified = isEmailVerified'
  | .getAppConfigurations _ _ _, res, res' => res = res'
  | .appleSignIn, account, account' => account = account'
  | .setSelectedServiceAddon, value, value' => value = value'
  | .setExpansionDynamicHeight, val, val' => val = val'
  | _, _, _ => True

inductive Matched (isRemembered : Bool) : Fetched δ → Fetched δ → Prop where
  | answered (call : Call) (answer answer' : call.Answer δ)
      (same : SameSurvivingData isRemembered call answer answer') :
      Matched isRemembered ⟨call, answer⟩ ⟨call, answer'⟩

def lasting (isRemembered : Bool) (unsubscription : Unsubscription) (writes : Writes δ) :
    Writes δ :=
  writes.filter fun write => write.cell.survives isRemembered unsubscription = true

@[simp] theorem lasting_append (isRemembered : Bool) (unsubscription : Unsubscription)
    (first second : Writes δ) :
    lasting isRemembered unsubscription (first ++ second) =
      lasting isRemembered unsubscription first ++ lasting isRemembered unsubscription second :=
  List.filter_append ..

theorem lasting_eq_nil {isRemembered : Bool} {unsubscription : Unsubscription}
    {writes : Writes δ}
    (cleared : ∀ cell ∈ cells writes, cell.survives isRemembered unsubscription = false) :
    lasting isRemembered unsubscription writes = [] := by
  apply List.filter_eq_nil_iff.mpr
  intro write member
  rw [decide_eq_true_eq, cleared write.cell (List.mem_map_of_mem member)]
  exact Bool.false_ne_true

theorem lasting_saveUserData (isRemembered : Bool) (unsubscription : Unsubscription)
    (data : UserData) (forceSyncAppConfigurations : Bool) :
    lasting isRemembered unsubscription
        (saveUserData data forceSyncAppConfigurations : Writes δ) =
      if forceSyncAppConfigurations then resetSyncedTime else [] := by
  unfold saveUserData
  cases (validateText data.apiToken).isEmpty <;> cases forceSyncAppConfigurations <;> rfl

theorem lasting_writes {isRemembered : Bool} {unsubscription : Unsubscription}
    {left right : State δ} (agree : SameSurvivors isRemembered unsubscription left right)
    (call : Call) (answer answer' : call.Answer δ)
    (same : SameSurvivingData isRemembered call answer answer') :
    lasting isRemembered unsubscription (writes left call answer) =
      lasting isRemembered unsubscription (writes right call answer') := by
  cases call with
  | list call =>
      cases surviving : call.cache.survives with
      | true =>
          obtain rfl : answer = answer' := same surviving
          rfl
      | false =>
          have cleared : ∀ (state : State δ) (list : δ),
              lasting isRemembered unsubscription (writes state (.list call) list) = [] := by
            intro state list
            apply lasting_eq_nil
            simpa [writes, Cell.survives] using surviving
          rw [cleared left answer, cleared right answer']
  | userDashboard =>
      obtain ⟨unreadCount, emailVerified⟩ := same
      cases isRemembered with
      | true =>
          simp only [writes, userDashboard, lasting_append, unreadCount, emailVerified rfl]
          rfl
      | false =>
          simp only [writes, userDashboard, lasting_append, unreadCount]
          rfl
  | userDetailAPI =>
      cases isRemembered with
      | true =>
          obtain rfl : answer = answer' := same rfl
          rfl
      | false => rfl
  | saveUserData forceSyncAppConfigurations =>
      simp only [writes, lasting_saveUserData]
  | getAppConfigurations toolkit currentTimeStamp timestamp =>
      obtain rfl : answer = answer' := same
      have synced : syncedTime left = syncedTime right := by
        unfold syncedTime
        rw [agree lastAppConfigurationSyncedTime rfl]
      simp only [writes, synced]
  | detail | getHandyman | customerReviews | appleSignIn | setSelectedServiceAddon
  | setExpansionDynamicHeight =>
      obtain rfl : answer = answer' := same
      rfl
  | _ => rfl

theorem SameSurvivors.next {isRemembered : Bool} {unsubscription : Unsubscription}
    {left right : State δ} (same : SameSurvivors isRemembered unsubscription left right)
    {fetched fetched' : Fetched δ} (matched : Matched isRemembered fetched fetched') :
    SameSurvivors isRemembered unsubscription ((session δ).next left fetched)
      ((session δ).next right fetched') := by
  cases matched with
  | answered call answer answer' data =>
      exact same.applyAll_of_filter_eq
        (lasting_writes same call answer answer' data)

theorem SameSurvivors.run {isRemembered : Bool} {unsubscription : Unsubscription}
    {left right : State δ} (same : SameSurvivors isRemembered unsubscription left right)
    {first second : List (Fetched δ)}
    (matched : List.Forall₂ (Matched isRemembered) first second) :
    SameSurvivors isRemembered unsubscription ((session δ).run left first)
      ((session δ).run right second) :=
  EventRun.Machine.related_run (SameSurvivors isRemembered unsubscription)
    (Matched isRemembered) (fun _ _ _ _ same matched => same.next matched) same matched

def SameCalls : List (Fetched δ) → List (Fetched δ) → Prop :=
  List.Forall₂ fun fetched fetched' => fetched.1 = fetched'.1

theorem isRemembered_next (left right : State δ) (fetched fetched' : Fetched δ)
    (same : AgreeOn (fun cell => cell = .pref .IS_REMEMBERED) left right)
    (sameCall : fetched.1 = fetched'.1) :
    AgreeOn (fun cell => cell = .pref .IS_REMEMBERED) ((session δ).next left fetched)
      ((session δ).next right fetched') := by
  obtain ⟨call, answer⟩ := fetched
  obtain ⟨call', answer'⟩ := fetched'
  obtain rfl : call = call' := sameCall
  apply same.applyAll_of_filter_eq
  cases call with
  | saveUserData forceSyncAppConfigurations =>
      simp only [writes, saveUserData]
      cases (validateText answer.apiToken).isEmpty <;>
        cases (validateText answer'.apiToken).isEmpty <;>
          cases forceSyncAppConfigurations <;> rfl
  | appleSignIn =>
      simp only [writes, appleSignIn]
      cases answer.fullName <;> cases answer'.fullName <;> rfl
  | getAppConfigurations toolkit currentTimeStamp timestamp =>
      have silent : ∀ (state : State δ) (res : AppConfiguration.AppConfigurationModel),
          ((writes state (.getAppConfigurations toolkit currentTimeStamp timestamp) res).filter
            fun write => write.cell = .pref .IS_REMEMBERED) = [] := by
        intro state res
        apply List.filter_eq_nil_iff.mpr
        intro write member
        obtain ⟨cell, here⟩ := cells_getAppConfigurations (List.mem_map_of_mem member)
        rw [decide_eq_true_eq, here]
        exact nofun
      rw [silent, silent]
  | _ => rfl

theorem isRemembered_run {start : State δ} {first second : List (Fetched δ)}
    (sameCalls : SameCalls first second) :
    getBoolAsync ((session δ).run start first) .IS_REMEMBERED =
      getBoolAsync ((session δ).run start second) .IS_REMEMBERED := by
  have common : AgreeOn (fun cell => cell = .pref .IS_REMEMBERED) start start :=
    fun _ _ => rfl
  have agree := EventRun.Machine.related_run _ _ isRemembered_next common sameCalls
  unfold getBoolAsync
  rw [agree (.pref .IS_REMEMBERED) rfl]

end Clear

def openedBooking (detail : String) (balance : ℚ) : List (Fetched String) :=
  [⟨.saveUserData false, { id := some 7 }⟩,
    ⟨.setUserWalletAmount, balance⟩,
    ⟨.detail .getBookingDetail 5, detail⟩]

def configured (detail : String) (balance : ℚ) : List (Fetched String) :=
  ⟨.getAppConfigurations
      { setNull := none, validate := fun text value => text.getD value, textToInt := fun _ => 0,
        parseDouble := fun value => value } 3600000000 3600000,
    AppConfiguration.chatPayload⟩ :: openedBooking detail balance

end FiksOpp.UserState
