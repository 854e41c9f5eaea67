/-
`RolesAndPermissionStore` after a restart.

A setter writes the field and its preference, and a new store reads every field from a
preference.  Five fields are read from the preference of another field.
-/

import FiksOpp.ConfigurationStores
import FiksOpp.Foundations.DynamicValues
import FiksOpp.Foundations.EventRun

namespace FiksOpp.AppConfiguration

open CellStore
open CheckedWrites
open EventRun

/-- The field under whose key the initial value is read. -/
def Permission.restored : Permission → Permission
  | .providerAddressList => .provider
  | .subCategoryAdd => .serviceAdd
  | .handymanTypeList => .handymanList
  | .handymanTypeEdit => .handymanEdit
  | .bankAdd => .bankList
  | name => name

def Permission.initialKey (name : Permission) : String :=
  name.restored.key

/-- `getBoolAsync` of what is stored; it throws where that is no flag. -/
def getBoolAsync : Option PrefValue → Option Bool
  | none => some false
  | some (.flag value) => some value
  | some _ => none

def newStore (state : State) (name : Permission) : Option Bool :=
  getBoolAsync (state (.pref name.initialKey))

abbrev SetterCall := Permission × Bool

def setters : Machine State SetterCall Unit :=
  { next := fun state call => execute (setPermission call.1 call.2) state
    outputs := fun _ _ => [] }

def SurvivesRestart (state : State) : Prop :=
  ∀ name, newStore state name = some (state (.field (.permission name)))

def Permission.all : List Permission :=
  [.role, .roleAdd, .roleList, .permission, .permissionAdd, .permissionList, .category,
    .categoryAdd, .categoryList, .categoryEdit, .categoryDelete, .service, .serviceAdd,
    .serviceList, .serviceEdit, .serviceDelete, .provider, .providerAdd, .providerList,
    .providerEdit, .providerDelete, .handyman, .handymanList, .handymanAdd, .handymanEdit,
    .handymanDelete, .booking, .bookingList, .bookingEdit, .bookingDelete, .bookingView,
    .payment, .paymentList, .user, .userList, .userView, .userDelete, .providerType,
    .providerTypeList, .providerTypeAdd, .providerTypeEdit, .providerTypeDelete, .coupon,
    .couponList, .couponAdd, .couponEdit, .couponDelete, .slider, .sliderList, .sliderAdd,
    .sliderEdit, .sliderDelete, .providerAddress, .providerAddressList, .providerAddressAdd,
    .providerAddressEdit, .providerAddressDelete, .document, .documentList, .documentAdd,
    .documentEdit, .documentDelete, .handymanPayout, .serviceFAQ, .serviceFAQAdd,
    .serviceFAQEdit, .serviceFAQDelete, .serviceFAQList, .userAdd, .userEdit, .subCategory,
    .subCategoryAdd, .subCategoryEdit, .subCategoryDelete, .subCategoryList, .handymanType,
    .handymanTypeList, .handymanTypeAdd, .handymanTypeEdit, .handymanTypeDelete, .postJob,
    .postJobList, .servicePackage, .servicePackageAdd, .servicePackageEdit,
    .servicePackageDelete, .servicePackageList, .refundAndCancellationPolicy, .blog, .blogAdd,
    .blogEdit, .blogDelete, .blogList, .serviceAddOn, .serviceAddOnAdd, .serviceAddOnEdit,
    .serviceAddOnList, .frontendSetting, .frontendSettingList, .bank, .bankAdd, .bankEdit,
    .bankDelete, .bankList, .tax, .taxAdd, .taxEdit, .taxDelete, .taxList, .earning,
    .earningList, .wallet, .walletAdd, .walletEdit, .walletDelete, .walletList, .userRating,
    .userRatingList, .handymanRating, .handymanRatingList, .providerPayout, .plan, .planAdd,
    .planEdit, .planDelete, .planList, .userServiceList, .systemSetting, .providerChangePassword,
    .dataDeletionRequest, .helpDesk, .helpDeskAdd, .helpDeskEdit, .helpDeskList,
    .pendingProvider, .pendingHandyman, .pages, .aboutUs, .helpAndSupport, .termCondition,
    .privacyPolicy, .providerDocument, .providerDocumentList, .providerDocumentAdd,
    .providerDocumentEdit, .providerDocumentDelete]

theorem Permission.mem_all (name : Permission) : name ∈ Permission.all := by
  cases name <;> decide +kernel

theorem Permission.nodup_keys : (Permission.all.map Permission.key).Nodup :=
  DynamicValues.nodup_of_pairwise_size (by decide +kernel)

theorem Permission.key_inj {name other : Permission} : name.key = other.key ↔ name = other := by
  constructor
  · exact List.inj_on_of_nodup_map Permission.nodup_keys (mem_all name) (mem_all other)
  · exact congrArg Permission.key

theorem Permission.restored_restored (name : Permission) :
    name.restored.restored = name.restored := by
  cases name <;> rfl

/-! ### Setters -/

def fieldWrite (call : SetterCall) : Write Content :=
  .set (.field (.permission call.1)) call.2

def prefWrite (call : SetterCall) : Write Content :=
  .set (.pref call.1.key) (some (.flag call.2))

theorem next_eq (state : State) (call : SetterCall) :
    setters.next state call = (prefWrite call).apply ((fieldWrite call).apply state) := rfl

theorem next_permission (state : State) (call : SetterCall) (name : Permission) :
    setters.next state call (.field (.permission name)) =
      if call.1 = name then call.2 else state (.field (.permission name)) := by
  have unseen : Cell.field (.permission name) ≠ (prefWrite call).cell :=
    fun impossible => nomatch impossible
  rw [next_eq, Write.apply_of_ne unseen]
  by_cases same : call.1 = name
  · subst same
    rw [if_pos rfl]
    exact (fieldWrite call).apply_same state
  · rw [if_neg same]
    apply Write.apply_of_ne
    intro other
    cases other
    exact same rfl

theorem next_pref (state : State) (call : SetterCall) (key : String) :
    setters.next state call (.pref key) =
      if call.1.key = key then some (.flag call.2) else state (.pref key) := by
  have unseen : Cell.pref key ≠ (fieldWrite call).cell :=
    fun impossible => nomatch impossible
  rw [next_eq]
  by_cases same : call.1.key = key
  · subst same
    rw [if_pos rfl]
    exact (prefWrite call).apply_same _
  · rw [if_neg same, ← Write.apply_of_ne unseen state]
    apply Write.apply_of_ne
    intro other
    cases other
    exact same rfl

def lastSet (name : Permission) (calls : List SetterCall) : Option Bool :=
  (calls.filterMap fun call => if call.1 = name then some call.2 else none).getLast?

theorem run_permission (start : State) (calls : List SetterCall) (name : Permission) :
    setters.run start calls (.field (.permission name)) =
      (lastSet name calls).getD (start (.field (.permission name))) := by
  apply Machine.view_run (fun state : State => state (.field (.permission name)))
    (fun call : SetterCall => if call.1 = name then some call.2 else none)
  intro state call
  rw [next_permission]
  by_cases same : call.1 = name
  · rw [if_pos same, if_pos same, Option.getD_some]
  · rw [if_neg same, if_neg same, Option.getD_none]

theorem newStore_next {name : Permission} (own : name.restored = name) {state : State}
    (same : newStore state name = some (state (.field (.permission name))))
    (call : SetterCall) :
    newStore (setters.next state call) name =
      some (setters.next state call (.field (.permission name))) := by
  unfold newStore Permission.initialKey at same ⊢
  rw [own] at same ⊢
  rw [next_pref, next_permission]
  by_cases written : call.1 = name
  · rw [if_pos written, if_pos (congrArg Permission.key written)]
    rfl
  · rw [if_neg written, if_neg (fun equal => written (Permission.key_inj.mp equal))]
    exact same

theorem newStore_run {name : Permission} (own : name.restored = name) {start : State}
    (same : newStore start name = some (start (.field (.permission name))))
    (calls : List SetterCall) :
    newStore (setters.run start calls) name =
      some (setters.run start calls (.field (.permission name))) :=
  setters.invariant_run_of_kept
    (fun state => newStore state name = some (state (.field (.permission name))))
    (fun _ call same => newStore_next own same call) same calls

/-- What a new store has is what memory has for the field the value is read from. -/
theorem newStore_run_eq {start : State} (constructed : SurvivesRestart start)
    (calls : List SetterCall) (name : Permission) :
    newStore (setters.run start calls) name =
      some (setters.run start calls (.field (.permission name.restored))) := by
  have own := name.restored_restored
  have readBack := newStore_run own (constructed name.restored) calls
  rw [← readBack]
  unfold newStore Permission.initialKey
  rw [own]

/-- A store that was read from the preferences survives its setter calls exactly when every
field and the field its preference belongs to were last set to the same. -/
theorem survivesRestart_iff (start : State) (calls : List SetterCall)
    (constructed : SurvivesRestart start) :
    SurvivesRestart (setters.run start calls) ↔
      ∀ name : Permission,
        (lastSet name calls).getD (start (.field (.permission name))) =
          (lastSet name.restored calls).getD (start (.field (.permission name.restored))) := by
  apply forall_congr'
  intro name
  rw [newStore_run_eq constructed, run_permission, run_permission, Option.some_inj]
  exact eq_comm

def nothingStored : State
  | .field (.status _) => false
  | .field (.permission _) => false
  | .field (.text _) => ""
  | .field (.int _) => 0
  | .field .cancellationChargeAmount => 0
  | .chatGPTAPIkey => ""
  | .pref _ => none

theorem survivesRestart_nothingStored : SurvivesRestart nothingStored :=
  fun _ => rfl

theorem survivesRestart_bank :
    SurvivesRestart (setters.run nothingStored [(.bankAdd, true), (.bankList, true)]) := by
  apply (survivesRestart_iff nothingStored _ survivesRestart_nothingStored).mpr
  intro name
  cases name <;> rfl

/-- Permission to add a bank is lost, since it is read from the permission to list them. -/
theorem bankAdd_lost_counterexample :
    ¬ ∀ start calls, SurvivesRestart start → SurvivesRestart (setters.run start calls) := by
  intro always
  have kept := always nothingStored [(.bankAdd, true)] survivesRestart_nothingStored .bankAdd
  rw [newStore_run_eq survivesRestart_nothingStored] at kept
  cases kept

end FiksOpp.AppConfiguration
