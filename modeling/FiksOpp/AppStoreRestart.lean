/-
What a restart of the app keeps.

`AppStore` holds most of its fields twice: a setter writes the field and stores the value,
and the field of a new `AppStore` starts with the stored value.  The cached responses, the
filters and a few fields are kept nowhere else.
-/

import FiksOpp.ClearPreferences
import FiksOpp.Foundations.MirroredCells
import FiksOpp.PermissionRestart

namespace FiksOpp.UserState

open CellStore EventRun

inductive StoredField where
  | isLoggedIn
  | isCurrentLocation
  | isSubscribedForPushNotification
  | text (field : TextField)
  | countryId
  | stateId
  | cityId
  | userId
  deriving DecidableEq, Repr

def TextField.key : TextField → PrefKey
  | .userProfileImage => .PROFILE_IMAGE
  | .loginType => .LOGIN_TYPE
  | .userFirstName => .FIRST_NAME
  | .userLastName => .LAST_NAME
  | .uid => .UID
  | .userContactNumber => .CONTACT_NUMBER
  | .userEmail => .USER_EMAIL
  | .userName => .USERNAME
  | .token => .TOKEN
  | .address => .ADDRESS
  | .userType => .USER_TYPE

namespace StoredField

def cell : StoredField → Cell
  | isLoggedIn => .flag .isLoggedIn
  | isCurrentLocation => .flag .isCurrentLocation
  | isSubscribedForPushNotification => .flag .isSubscribedForPushNotification
  | text field => .text field
  | countryId => .int .countryId
  | stateId => .int .stateId
  | cityId => .int .cityId
  | userId => .int .userId

def key : StoredField → PrefKey
  | isLoggedIn => .IS_LOGGED_IN
  | isCurrentLocation => .IS_CURRENT_LOCATION
  | isSubscribedForPushNotification => .IS_SUBSCRIBED_FOR_PUSH_NOTIFICATION
  | text field => field.key
  | countryId => .COUNTRY_ID
  | stateId => .STATE_ID
  | cityId => .CITY_ID
  | userId => .USER_ID

end StoredField

section Restart

variable {δ : Type}

/-- `getBoolAsync` of a stored value. -/
def flagOr (defaultValue : Bool) : Option PrefValue → Bool
  | some (.flag value) => value
  | _ => defaultValue

def textOr (defaultValue : String) : Option PrefValue → String
  | some (.text value) => value
  | _ => defaultValue

def intOr (defaultValue : ℤ) : Option PrefValue → ℤ
  | some (.int value) => value
  | _ => defaultValue

def numOr (defaultValue : ℚ) : Option PrefValue → ℚ
  | some (.num value) => value
  | _ => defaultValue

/-- A configuration field of a newly started app; two texts are stored nowhere. -/
def restartSetting (stored : String → Option PrefValue) :
    (field : AppConfiguration.Field) → AppConfiguration.FieldContent field
  | .status flag => flagOr false (stored flag.key)
  | .permission name => flagOr false (stored name.initialKey)
  | .text .currencyPosition => textOr "left" (stored "CURRENCY_POSITION")
  | .text setting => textOr "" (setting.key.bind stored)
  | .int .priceDecimalPoint => intOr 2 (stored "PRICE_DECIMAL_POINTS")
  | .int .cancellationChargeHours => intOr 0 (stored "CANCELLATION_CHARGE_HOURS")
  | .cancellationChargeAmount => numOr 0 (stored "CANCELLATION_CHARGE_AMOUNT")

def restart (state : State δ) : State δ
  | .response _ => none
  | .keyed _ => []
  | .flag .isLoggedIn => flagOr false (state (.pref .IS_LOGGED_IN))
  | .flag .isCurrentLocation => flagOr false (state (.pref .IS_CURRENT_LOCATION))
  | .flag .isSubscribedForPushNotification =>
      flagOr true (state (.pref .IS_SUBSCRIBED_FOR_PUSH_NOTIFICATION))
  | .text field => textOr "" (state (.pref field.key))
  | .int .countryId => intOr 0 (state (.pref .COUNTRY_ID))
  | .int .stateId => intOr 0 (state (.pref .STATE_ID))
  | .int .cityId => intOr 0 (state (.pref .CITY_ID))
  | .int .userId => intOr 0 (state (.pref .USER_ID))
  | .int .unreadCount => 0
  | .num .expansionDynamicHeight => 65
  | .num _ => 0
  | .filter _ => []
  | .selectedServiceAddon => []
  | .configuration (.field field) =>
      restartSetting (fun key => state (.configuration (.pref key))) field
  | .configuration .chatGPTAPIkey => ""
  | .configuration (.pref key) => state (.configuration (.pref key))
  | .pref key => state (.pref key)

def StoredField.read : (field : StoredField) → Option PrefValue → Content δ field.cell
  | .isLoggedIn => flagOr false
  | .isCurrentLocation => flagOr false
  | .isSubscribedForPushNotification => flagOr true
  | .text _ => textOr ""
  | .countryId => intOr 0
  | .stateId => intOr 0
  | .cityId => intOr 0
  | .userId => intOr 0

def StoredField.mirror (field : StoredField) : Mirror (Content δ) where
  field := field.cell
  key := .pref field.key
  read := field.read

theorem restart_stored (state : State δ) (field : StoredField) :
    restart state field.cell = field.read (state (.pref field.key)) := by
  cases field <;> rfl

inductive LifeEvent (δ : Type) where
  | fetched (answer : Fetched δ)
  /-- `setText` of any field, from whichever screen. -/
  | setText (field : TextField) (val : String)
  | setCurrentLocation (val : Bool)
  | setLatitude (val : ℚ)
  | setLongitude (val : ℚ)
  | logout (unsubscription : Unsubscription)
  | restart

def LifeEvent.isRestart : LifeEvent δ → Bool
  | .restart => true
  | _ => false

def lifeNext (state : State δ) : LifeEvent δ → State δ
  | .fetched answer => applyAll (writes state answer.1 answer.2) state
  | .setText field val => applyAll (UserState.setText field field.key val) state
  | .setCurrentLocation val => applyAll (UserState.setCurrentLocation val) state
  | .setLatitude val => applyAll (UserState.setLatitude val) state
  | .setLongitude val => applyAll (UserState.setLongitude val) state
  | .logout unsubscription => clearPreferences unsubscription state
  | .restart => UserState.restart state

def life (δ : Type) : Machine (State δ) (LifeEvent δ) Unit where
  next := lifeNext
  outputs _ _ := []

/-! ### What the writes do to a stored field -/

namespace StoredField

def ofKey : PrefKey → Option StoredField
  | .IS_LOGGED_IN => some .isLoggedIn
  | .IS_CURRENT_LOCATION => some .isCurrentLocation
  | .IS_SUBSCRIBED_FOR_PUSH_NOTIFICATION => some .isSubscribedForPushNotification
  | .PROFILE_IMAGE => some (.text .userProfileImage)
  | .LOGIN_TYPE => some (.text .loginType)
  | .FIRST_NAME => some (.text .userFirstName)
  | .LAST_NAME => some (.text .userLastName)
  | .UID => some (.text .uid)
  | .CONTACT_NUMBER => some (.text .userContactNumber)
  | .USER_EMAIL => some (.text .userEmail)
  | .USERNAME => some (.text .userName)
  | .TOKEN => some (.text .token)
  | .ADDRESS => some (.text .address)
  | .USER_TYPE => some (.text .userType)
  | .COUNTRY_ID => some .countryId
  | .STATE_ID => some .stateId
  | .CITY_ID => some .cityId
  | .USER_ID => some .userId
  | _ => none

def ofCell : Cell → Option StoredField
  | .flag .isLoggedIn => some .isLoggedIn
  | .flag .isCurrentLocation => some .isCurrentLocation
  | .flag .isSubscribedForPushNotification => some .isSubscribedForPushNotification
  | .text field => some (.text field)
  | .int .countryId => some .countryId
  | .int .stateId => some .stateId
  | .int .cityId => some .cityId
  | .int .userId => some .userId
  | .pref key => ofKey key
  | _ => none

theorem ofCell_cell (field : StoredField) : ofCell field.cell = some field := by
  cases field <;> rfl

theorem ofCell_key (field : StoredField) : ofCell (.pref field.key) = some field := by
  cases field with
  | text field => cases field <;> rfl
  | _ => rfl

theorem cell_ne_key (field other : StoredField) : field.cell ≠ .pref other.key := by
  cases field <;> exact nofun

variable {field : StoredField} {writes : Writes δ}

theorem kept_of_others (others : ∀ cell ∈ cells writes, ofCell cell ≠ some field) :
    (field.mirror : Mirror (Content δ)).Kept writes := by
  apply Mirror.kept_of_untouched
  · intro member
    exact others _ member (ofCell_cell field)
  · intro member
    exact others _ member (ofCell_key field)

theorem kept_setField (own : StoredField) {val : Content δ own.cell} {stored : PrefValue}
    (reads : own.read (some stored) = val) :
    (field.mirror : Mirror (Content δ)).Kept (setField own.cell val own.key stored) := by
  by_cases same : field = own
  · subst same
    exact @Mirror.kept_pair _ (Content δ) _ field.mirror val (some stored) reads
      (cell_ne_key field field)
  · have other : some own ≠ some field := fun named => same (Option.some.inj named).symm
    apply kept_of_others
    intro cell member
    rw [cells_setField, List.mem_cons, List.mem_singleton] at member
    rcases member with here | atKey
    · rw [here, ofCell_cell]
      exact other
    · rw [atKey, ofCell_key]
      exact other

theorem kept_setText (own : TextField) (val : String) :
    (field.mirror : Mirror (Content δ)).Kept (setText own own.key val) :=
  kept_setField (.text own) rfl

theorem kept_cons {write : Write (Content δ)} (free : ofCell write.cell = none)
    (kept : (field.mirror : Mirror (Content δ)).Kept writes) :
    (field.mirror : Mirror (Content δ)).Kept (write :: writes) := by
  have alone : (field.mirror : Mirror (Content δ)).Kept [write] := by
    apply kept_of_others
    intro cell member
    rw [cells_cons, cells_nil, List.mem_singleton] at member
    rw [member, free]
    exact (Option.some_ne_none field).symm
  exact Mirror.kept_append alone kept

theorem kept_single {write : Write (Content δ)} (free : ofCell write.cell = none) :
    (field.mirror : Mirror (Content δ)).Kept [write] :=
  kept_cons free Mirror.kept_nil

theorem kept_setValue {key : PrefKey} (free : ofKey key = none) (value : PrefValue) :
    (field.mirror : Mirror (Content δ)).Kept (setValue key value) :=
  kept_single free

theorem kept_removeKey {key : PrefKey} (other : ofKey key ≠ some field) :
    (field.mirror : Mirror (Content δ)).Kept (removeKey key) := by
  apply kept_of_others
  intro cell member
  rw [cells_removeKey, List.mem_singleton] at member
  rw [member]
  exact other

theorem kept_ite {condition : Prop} [Decidable condition] {first second : Writes δ}
    (keptFirst : (field.mirror : Mirror (Content δ)).Kept first)
    (keptSecond : (field.mirror : Mirror (Content δ)).Kept second) :
    (field.mirror : Mirror (Content δ)).Kept (if condition then first else second) := by
  split
  · exact keptFirst
  · exact keptSecond

theorem kept_flatten {parts : List (Writes δ)}
    (kept : ∀ part ∈ parts, (field.mirror : Mirror (Content δ)).Kept part) :
    (field.mirror : Mirror (Content δ)).Kept parts.flatten := by
  induction parts with
  | nil => exact Mirror.kept_nil
  | cons part rest ih =>
      rw [List.forall_mem_cons] at kept
      exact Mirror.kept_append kept.1 (ih kept.2)

theorem kept_saveUserData (data : UserData) (forceSyncAppConfigurations : Bool) :
    (field.mirror : Mirror (Content δ)).Kept (saveUserData data forceSyncAppConfigurations) := by
  apply kept_flatten
  simp only [List.forall_mem_cons]
  exact ⟨kept_ite Mirror.kept_nil (kept_setText .token _), kept_setField .isLoggedIn rfl,
    kept_setField .userId rfl, kept_setText .uid _, kept_setText .userFirstName _,
    kept_setText .userLastName _, kept_setText .userEmail _, kept_setText .userName _,
    kept_setField .countryId rfl, kept_setField .stateId rfl, kept_setField .cityId rfl,
    kept_setText .userContactNumber _, kept_setText .loginType _, kept_setText .address _,
    kept_setText .userProfileImage _, kept_ite (kept_single rfl) Mirror.kept_nil,
    List.forall_mem_nil _⟩

theorem kept_writes (state : State δ) (answer : Fetched δ) :
    (field.mirror : Mirror (Content δ)).Kept (UserState.writes state answer.1 answer.2) := by
  obtain ⟨call, answer⟩ := answer
  cases call with
  | saveUserData forceSyncAppConfigurations => exact kept_saveUserData answer _
  | getAppConfigurations toolkit currentTimeStamp timestamp =>
      apply kept_of_others
      intro cell member
      obtain ⟨configured, rfl⟩ := cells_getAppConfigurations member
      exact nofun
  | reGenerateToken => exact kept_setText .token _
  | handleLoginUsers password isRemember =>
      exact Mirror.kept_append
        (Mirror.kept_append (kept_setValue rfl _) (kept_setValue rfl _))
        (kept_setText .loginType _)
  | appleSignIn =>
      refine Mirror.kept_append (Mirror.kept_append (kept_setValue rfl _) ?_)
        (kept_setValue rfl _)
      split
      · exact Mirror.kept_append (kept_setValue rfl _) (kept_setValue rfl _)
      · exact Mirror.kept_nil
  | userDashboard =>
      exact Mirror.kept_append (Mirror.kept_append (kept_single rfl) (kept_setValue rfl _))
        (kept_single rfl)
  | buildFullAddressFromLatLong latitude longitude address locality =>
      exact Mirror.kept_append
        (Mirror.kept_append (Mirror.kept_append (kept_setValue rfl _) (kept_setValue rfl _))
          (kept_setValue rfl _)) (kept_setValue rfl _)
  | subscribeToFirebaseTopic result =>
      exact kept_setField .isSubscribedForPushNotification rfl
  | clearFilters =>
      exact kept_cons rfl (kept_cons rfl (kept_cons rfl (kept_cons rfl (kept_single rfl))))
  | list call => exact kept_single rfl
  | detail call id => exact kept_single rfl
  | getHandyman userTypeHandyman => exact kept_single rfl
  | customerReviews => exact kept_single rfl
  | setUserWalletAmount => exact kept_single rfl
  | getUserDetail timestamp => exact kept_setValue rfl _
  | userDetailAPI => exact kept_setValue rfl _
  | changeUserPassword newPassword => exact kept_setValue rfl _
  | verifyFirebaseUser => exact kept_setText .uid _
  | setSelectedServiceAddon => exact kept_single rfl
  | setExpansionDynamicHeight => exact kept_single rfl
  | addToFilter field id => exact kept_single rfl
  | removeFromFilter field id => exact kept_single rfl
  | closeBookingCard id => exact kept_setValue rfl _

theorem kept_clearEmail (isRemembered : Bool) :
    (field.mirror : Mirror (Content δ)).Kept (clearEmail isRemembered) :=
  kept_ite Mirror.kept_nil
    (Mirror.kept_append (kept_setText .userEmail _) (kept_single rfl))

theorem kept_unsubscribeFirebaseTopic (landed : Bool) :
    (field.mirror : Mirror (Content δ)).Kept (unsubscribeFirebaseTopic landed) :=
  kept_ite (kept_setField .isSubscribedForPushNotification rfl) Mirror.kept_nil

/-- Of the other fields clearing removes the key of `loginType` alone, and stores it again
further on. -/
theorem faithful_clearPreferences (unsubscription : Unsubscription) {state : State δ}
    (other : field ≠ .isSubscribedForPushNotification)
    (faithful : (field.mirror : Mirror (Content δ)).Faithful state) :
    (field.mirror : Mirror (Content δ)).Faithful (clearPreferences unsubscription state) := by
  unfold clearPreferences
  by_cases removed : field = .text .loginType
  · subst removed
    have assigns := @clearWrites_assigns δ (getBoolAsync state .IS_REMEMBERED) unsubscription
    have cleared := fun cell => cleared_of_not_kept (getBoolAsync state .IS_REMEMBERED)
      unsubscription cell
    rw [← @clearWrites_cells δ] at cleared
    rw [Mirror.faithful_applyAll_iff assigns (cleared _ rfl rfl) (cleared _ rfl rfl) state
      (freshInstall δ)]
    cases getBoolAsync state .IS_REMEMBERED <;> cases unsubscription <;> rfl
  · have free := @kept_removeKey δ field .LOGIN_TYPE fun named =>
      removed (Option.some.inj named).symm
    have free' := @kept_removeKey δ field .IS_SUBSCRIBED_FOR_PUSH_NOTIFICATION fun named =>
      other (Option.some.inj named).symm
    apply kept_flatten _ _ faithful
    simp only [List.forall_mem_cons]
    exact ⟨kept_cons rfl (kept_cons rfl (kept_cons rfl (kept_cons rfl (kept_single rfl)))),
      kept_clearEmail _, kept_setValue rfl _, kept_setField .isCurrentLocation rfl, free,
      kept_setField .isLoggedIn rfl, kept_setText .userFirstName _, kept_setText .userLastName _,
      kept_setField .userId rfl, kept_setText .userName _, kept_setText .userContactNumber _,
      kept_setField .countryId rfl, kept_setField .stateId rfl, kept_setText .userProfileImage _,
      kept_setText .address _, kept_setField .cityId rfl, kept_setText .uid _,
      kept_cons rfl (kept_setValue rfl _), kept_cons rfl (kept_setValue rfl _),
      kept_setText .token _, kept_setText .loginType _, kept_setValue rfl _,
      kept_unsubscribeFirebaseTopic _, free', kept_unsubscribeFirebaseTopic _,
      kept_single rfl, List.forall_mem_nil _⟩

theorem kept_lifeNext (state : State δ) (event : LifeEvent δ)
    (stays : ∀ unsubscription, event ≠ .logout unsubscription)
    (faithful : (field.mirror : Mirror (Content δ)).Faithful state) :
    (field.mirror : Mirror (Content δ)).Faithful (lifeNext state event) := by
  cases event with
  | fetched answer => exact kept_writes state answer state faithful
  | setText own val => exact kept_setText own val state faithful
  | setCurrentLocation val => exact kept_setField .isCurrentLocation rfl state faithful
  | setLatitude val => exact kept_cons rfl (kept_setValue rfl _) state faithful
  | setLongitude val => exact kept_cons rfl (kept_setValue rfl _) state faithful
  | logout unsubscription => exact absurd rfl (stays unsubscription)
  | restart => exact restart_stored state field

theorem faithful_lifeNext (state : State δ) (event : LifeEvent δ)
    (other : field ≠ .isSubscribedForPushNotification)
    (faithful : (field.mirror : Mirror (Content δ)).Faithful state) :
    (field.mirror : Mirror (Content δ)).Faithful (lifeNext state event) := by
  by_cases leaves : ∃ unsubscription, event = .logout unsubscription
  · obtain ⟨unsubscription, rfl⟩ := leaves
    exact faithful_clearPreferences unsubscription other faithful
  · rw [not_exists] at leaves
    exact kept_lifeNext state event leaves faithful

/-- A logout that removes the stored subscription leaves a flag that a new store raises
again, unless the topic is left after the removal. -/
def KeepsSubscription (state : State δ) : LifeEvent δ → Prop
  | .logout .failed => state (.flag .isSubscribedForPushNotification) = true
  | .logout .beforeRemoval => False
  | _ => True

theorem subscription_clearPreferences_iff (unsubscription : Unsubscription) (state : State δ) :
    (isSubscribedForPushNotification.mirror : Mirror (Content δ)).Faithful
        (clearPreferences unsubscription state) ↔
      KeepsSubscription state (.logout unsubscription) := by
  unfold clearPreferences
  have assigns := @clearWrites_assigns δ (getBoolAsync state .IS_REMEMBERED) unsubscription
  have cleared := fun cell => cleared_of_not_kept (getBoolAsync state .IS_REMEMBERED)
    unsubscription cell
  have survives := fun cell => survives_iff (getBoolAsync state .IS_REMEMBERED)
    unsubscription cell
  rw [← @clearWrites_cells δ] at cleared survives
  cases unsubscription with
  | failed =>
      have flag := applyAll_of_not_mem
        ((survives (.flag .isSubscribedForPushNotification)).mp rfl).2 state
      have removed := applyAll_eq_of_mem assigns
        (cleared (.pref .IS_SUBSCRIBED_FOR_PUSH_NOTIFICATION) rfl rfl) state (freshInstall δ)
      have missing : applyAll (clearWrites (getBoolAsync state .IS_REMEMBERED) .failed)
          (freshInstall δ) (.pref .IS_SUBSCRIBED_FOR_PUSH_NOTIFICATION) = none := by
        cases getBoolAsync state .IS_REMEMBERED <;> rfl
      change applyAll _ state (.flag .isSubscribedForPushNotification) =
        flagOr true (applyAll _ state (.pref .IS_SUBSCRIBED_FOR_PUSH_NOTIFICATION)) ↔ _
      rw [flag, removed, missing]
      exact Iff.rfl
  | beforeRemoval =>
      rw [Mirror.faithful_applyAll_iff assigns (cleared _ rfl rfl) (cleared _ rfl rfl) state
        (freshInstall δ)]
      refine iff_false_intro fun raised => ?_
      revert raised
      cases getBoolAsync state .IS_REMEMBERED <;> exact Bool.false_ne_true
  | afterRemoval =>
      rw [Mirror.faithful_applyAll_iff assigns (cleared _ rfl rfl) (cleared _ rfl rfl) state
        (freshInstall δ)]
      refine iff_true_intro ?_
      cases getBoolAsync state .IS_REMEMBERED <;> rfl

theorem subscription_lifeNext_iff (state : State δ) (event : LifeEvent δ)
    (faithful : (isSubscribedForPushNotification.mirror : Mirror (Content δ)).Faithful state) :
    (isSubscribedForPushNotification.mirror : Mirror (Content δ)).Faithful
        (lifeNext state event) ↔
      KeepsSubscription state event := by
  by_cases leaves : ∃ unsubscription, event = .logout unsubscription
  · obtain ⟨unsubscription, rfl⟩ := leaves
    exact subscription_clearPreferences_iff unsubscription state
  · rw [not_exists] at leaves
    have met : KeepsSubscription state event := by
      cases event with
      | logout unsubscription => exact absurd rfl (leaves unsubscription)
      | _ => trivial
    exact ⟨fun _ => met, fun _ => kept_lifeNext state event leaves faithful⟩

end StoredField

/-- The preferences and the fields that are read from them, the subscription apart. -/
inductive Lasting : Cell → Prop where
  | pref (key : PrefKey) : Lasting (.pref key)
  | configuration (key : String) : Lasting (.configuration (.pref key))
  | stored (field : StoredField) (other : field ≠ .isSubscribedForPushNotification) :
      Lasting field.cell

structure SameLife (left right : State δ) : Prop where
  faithful : ∀ field : StoredField, field ≠ .isSubscribedForPushNotification →
    (field.mirror : Mirror (Content δ)).Faithful left
  agree : AgreeOn Lasting left right

theorem agreeOn_lifeNext {left right : State δ} (agree : AgreeOn Lasting left right)
    (event : LifeEvent δ) (loud : event.isRestart = false) :
    AgreeOn Lasting (lifeNext left event) (lifeNext right event) := by
  cases event with
  | fetched answer =>
      have same : writes left answer.1 answer.2 = writes right answer.1 answer.2 := by
        obtain ⟨call, answer⟩ := answer
        cases call with
        | setUserWalletAmount =>
            have flag : left (.flag .isLoggedIn) = right (.flag .isLoggedIn) :=
              agree _ (.stored .isLoggedIn nofun)
            change setUserWalletAmount (left (.flag .isLoggedIn)) answer =
              setUserWalletAmount (right (.flag .isLoggedIn)) answer
            rw [flag]
        | getAppConfigurations toolkit currentTimeStamp timestamp =>
            have synced : syncedTime left = syncedTime right := by
              unfold syncedTime lastAppConfigurationSyncedTime
              rw [agree _ (.configuration "LAST_APP_CONFIGURATION_SYNCED_TIME")]
            change getAppConfigurations toolkit currentTimeStamp timestamp (syncedTime left)
              answer = getAppConfigurations toolkit currentTimeStamp timestamp (syncedTime right)
              answer
            rw [synced]
        | _ => rfl
      change AgreeOn Lasting (applyAll (writes left answer.1 answer.2) left)
        (applyAll (writes right answer.1 answer.2) right)
      rw [same]
      exact agree.applyAll _
  | logout unsubscription =>
      have remembered : getBoolAsync left .IS_REMEMBERED = getBoolAsync right .IS_REMEMBERED := by
        unfold getBoolAsync
        rw [agree _ (.pref .IS_REMEMBERED)]
      change AgreeOn Lasting (clearPreferences unsubscription left)
        (clearPreferences unsubscription right)
      unfold clearPreferences
      rw [remembered]
      exact agree.applyAll _
  | setText own val => exact agree.applyAll _
  | setCurrentLocation val => exact agree.applyAll _
  | setLatitude val => exact agree.applyAll _
  | setLongitude val => exact agree.applyAll _
  | restart => cases loud

theorem sameLife_restart {left right : State δ} (same : SameLife left right) :
    SameLife (restart left) right where
  faithful field _ := restart_stored left field
  agree := by
    intro cell lasting
    rw [← same.agree cell lasting]
    cases lasting with
    | pref key => rfl
    | configuration key => rfl
    | stored field other =>
        exact (restart_stored left field).trans (same.faithful field other).symm

theorem faithful_freshInstall (field : StoredField) :
    (field.mirror : Mirror (Content δ)).Faithful (freshInstall δ) := by
  cases field <;> rfl

/-- However often the app is restarted in between, the preferences and the fields stored in
them are what the same calls, setters and logouts make of them without a restart.  A restart
would change the subscription in no state of the run exactly when no logout removes it from
the preferences with the flag down. -/
theorem restarts_go_unnoticed (events : List (LifeEvent δ)) :
    AgreeOn Lasting ((life δ).run (freshInstall δ) events)
        ((life δ).run (freshInstall δ) (events.filter fun event => !event.isRestart)) ∧
      ((life δ).Every
          (fun state event =>
            restart (lifeNext state event) (.flag .isSubscribedForPushNotification) =
              lifeNext state event (.flag .isSubscribedForPushNotification))
          (freshInstall δ) events ↔
        (life δ).Every StoredField.KeepsSubscription (freshInstall δ) events) := by
  constructor
  · have same : SameLife ((life δ).run (freshInstall δ) events)
        ((life δ).run (freshInstall δ) (events.filter fun event => !event.isRestart)) := by
      apply Machine.related_run_filter
      · intro left right event silent same
        cases event with
        | restart => exact sameLife_restart same
        | _ => cases silent
      · intro left right event loud same
        exact ⟨fun field other => StoredField.faithful_lifeNext left event other
          (same.faithful field other), agreeOn_lifeNext same.agree event loud⟩
      · exact ⟨fun field _ => faithful_freshInstall field, fun _ _ => rfl⟩
    exact same.agree
  · have steps := @Machine.every_next_iff _ _ _ (life δ)
      (StoredField.mirror .isSubscribedForPushNotification).Faithful _
      StoredField.subscription_lifeNext_iff _ events (faithful_freshInstall _)
    rw [← steps]
    exact Machine.every_congr (fun _ => True) (fun _ _ _ => trivial) (fun _ _ _ => eq_comm)
      trivial

end Restart

end FiksOpp.UserState
