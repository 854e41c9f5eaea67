/-
The codec of `RolesAndPermissionModel`.

The encoder and the decoder spell their keys separately.  No key that only the decoder
spells is a key of the encoder, so a field under such a key is lost, and no field is ever
read as another.
-/

import FiksOpp.AppConfiguration
import FiksOpp.PermissionRestart

namespace FiksOpp.AppConfiguration

open DynamicValues

def Permission.encoderKey : Permission → String
  | .role => "role"
  | .roleAdd => "role_add"
  | .roleList => "role_list"
  | .permission => "permission"
  | .permissionAdd => "permission_add"
  | .permissionList => "permission_list"
  | .category => "category"
  | .categoryAdd => "category_add"
  | .categoryList => "category_list"
  | .categoryEdit => "category_edit"
  | .categoryDelete => "category_delete"
  | .service => "service"
  | .serviceAdd => "service_add"
  | .serviceList => "service_list"
  | .serviceEdit => "service_edit"
  | .serviceDelete => "service_delete"
  | .provider => "provider"
  | .providerAdd => "provider_add"
  | .providerList => "provider_list"
  | .providerEdit => "provider_edit"
  | .providerDelete => "provider_delete"
  | .handyman => "handyman"
  | .handymanList => "handyman_list"
  | .handymanAdd => "handyman_add"
  | .handymanEdit => "handyman_edit"
  | .handymanDelete => "handyman_delete"
  | .booking => "booking"
  | .bookingList => "booking_list"
  | .bookingEdit => "booking_edit"
  | .bookingDelete => "booking_delete"
  | .bookingView => "booking_view"
  | .payment => "payment"
  | .paymentList => "payment_list"
  | .user => "user"
  | .userList => "user_list"
  | .userView => "user_view"
  | .userDelete => "user_delete"
  | .providerType => "provider_type"
  | .providerTypeList => "provider_type_list"
  | .providerTypeAdd => "provider_type_add"
  | .providerTypeEdit => "provider_type_edit"
  | .providerTypeDelete => "provider_type_delete"
  | .coupon => "coupon"
  | .couponList => "coupon_list"
  | .couponAdd => "coupon_add"
  | .couponEdit => "coupon_edit"
  | .couponDelete => "coupon_delete"
  | .slider => "slider"
  | .sliderList => "slider_list"
  | .sliderAdd => "slider_add"
  | .sliderEdit => "slider_edit"
  | .sliderDelete => "slider_delete"
  | .providerAddress => "provider_address"
  | .providerAddressList => "provider_address_list"
  | .providerAddressAdd => "provider_address_add"
  | .providerAddressEdit => "provider_address_edit"
  | .providerAddressDelete => "provider_address_delete"
  | .document => "document"
  | .documentList => "document_list"
  | .documentAdd => "document_add"
  | .documentEdit => "document_edit"
  | .documentDelete => "document_delete"
  | .handymanPayout => "handyman_payout"
  | .serviceFAQ => "service_faq"
  | .serviceFAQAdd => "service_faq_add"
  | .serviceFAQEdit => "service_faq_edit"
  | .serviceFAQDelete => "service_faq_delete"
  | .serviceFAQList => "service_faq_list"
  | .userAdd => "user_add"
  | .userEdit => "user_edit"
  | .subCategory => "sub_category"
  | .subCategoryAdd => "sub_category_add"
  | .subCategoryEdit => "sub_category_edit"
  | .subCategoryDelete => "sub_category_delete"
  | .subCategoryList => "sub_category_list"
  | .handymanType => "handyman_type"
  | .handymanTypeList => "handyman_type_list"
  | .handymanTypeAdd => "handyman_type_add"
  | .handymanTypeEdit => "handyman_type_edit"
  | .handymanTypeDelete => "handyman_type_delete"
  | .postJob => "post_job"
  | .postJobList => "post_job_list"
  | .servicePackage => "service_package"
  | .servicePackageAdd => "service_package_add"
  | .servicePackageEdit => "service_package_edit"
  | .servicePackageDelete => "service_package_delete"
  | .servicePackageList => "service_package_list"
  | .refundAndCancellationPolicy => "refund_and_cancellation_policy"
  | .blog => "blog"
  | .blogAdd => "blog_add"
  | .blogEdit => "blog_edit"
  | .blogDelete => "blog_delete"
  | .blogList => "blog_list"
  | .serviceAddOn => "service_add_on"
  | .serviceAddOnAdd => "service_add_on_add"
  | .serviceAddOnEdit => "service_add_on_edit"
  | .serviceAddOnList => "service_add_on_list"
  | .frontendSetting => "frontend_setting"
  | .frontendSettingList => "frontend_setting_list"
  | .bank => "bank"
  | .bankAdd => "bank_add"
  | .bankEdit => "bank_edit"
  | .bankDelete => "bank_delete"
  | .bankList => "bank_list"
  | .tax => "tax"
  | .taxAdd => "tax_add"
  | .taxEdit => "tax_edit"
  | .taxDelete => "tax_delete"
  | .taxList => "tax_list"
  | .earning => "earning"
  | .earningList => "earning_list"
  | .wallet => "wallet"
  | .walletAdd => "wallet_add"
  | .walletEdit => "wallet_edit"
  | .walletDelete => "wallet_delete"
  | .walletList => "wallet_list"
  | .userRating => "user_rating"
  | .userRatingList => "user_rating_list"
  | .handymanRating => "handyman_rating"
  | .handymanRatingList => "handyman_rating_list"
  | .providerPayout => "provider_payout"
  | .plan => "plan"
  | .planAdd => "plan_add"
  | .planEdit => "plan_edit"
  | .planDelete => "plan_delete"
  | .planList => "plan_list"
  | .userServiceList => "user_service_list"
  | .systemSetting => "system_setting"
  | .providerChangePassword => "provider_change_password"
  | .dataDeletionRequest => "data_deletion_request"
  | .helpDesk => "help_desk"
  | .helpDeskAdd => "help_desk_add"
  | .helpDeskEdit => "help_desk_edit"
  | .helpDeskList => "help_desk_list"
  | .pendingProvider => "pending_provider"
  | .pendingHandyman => "pending_handyman"
  | .pages => "pages"
  | .aboutUs => "about_us"
  | .helpAndSupport => "Help_and_support"
  | .termCondition => "terms_condition"
  | .privacyPolicy => "privacy_policy"
  | .providerDocument => "provider_document"
  | .providerDocumentList => "provider_document_list"
  | .providerDocumentAdd => "provider_document_add"
  | .providerDocumentEdit => "provider_document_edit"
  | .providerDocumentDelete => "provider_document_delete"

/-- The key of the decoder where it is not the encoder's. -/
def Permission.respelled : Permission → Option String
  | .providerType => some "providertype"
  | .providerTypeList => some "providertype_list"
  | .providerTypeAdd => some "providertype_add"
  | .providerTypeEdit => some "providertype_edit"
  | .providerTypeDelete => some "providertype_delete"
  | .providerAddressList => some "provideraddress_list"
  | .providerAddressAdd => some "provideraddress_add"
  | .providerAddressEdit => some "provideraddress_edit"
  | .providerAddressDelete => some "provideraddress_delete"
  | .serviceFAQ => some "servicefaq"
  | .serviceFAQAdd => some "servicefaq_add"
  | .serviceFAQEdit => some "servicefaq_edit"
  | .serviceFAQDelete => some "servicefaq_delete"
  | .serviceFAQList => some "servicefaq_list"
  | .subCategory => some "subcategory"
  | .subCategoryAdd => some "subcategory_add"
  | .subCategoryEdit => some "subcategory_edit"
  | .subCategoryDelete => some "subcategory_delete"
  | .subCategoryList => some "subcategory_list"
  | .handymanType => some "handymantype"
  | .handymanTypeList => some "handymantype_list"
  | .handymanTypeAdd => some "handymantype_add"
  | .handymanTypeEdit => some "handymantype_edit"
  | .handymanTypeDelete => some "handymantype_delete"
  | .postJob => some "postjob"
  | .postJobList => some "postjob_list"
  | .servicePackage => some "servicepackage"
  | .servicePackageAdd => some "servicepackage_add"
  | .servicePackageEdit => some "servicepackage_edit"
  | .servicePackageDelete => some "servicepackage_delete"
  | .servicePackageList => some "servicepackage_list"
  | .frontendSettingList => some "frontendsetting_list"
  | .userRating => some "userrating"
  | .userRatingList => some "userrating_list"
  | .handymanRating => some "handymanrating"
  | .handymanRatingList => some "handymanrating_list"
  | .userServiceList => some "userservice_list"
  | .providerChangePassword => some "provider_changepassword"
  | .helpDesk => some "helpdesk"
  | .helpDeskAdd => some "helpdesk_add"
  | .helpDeskEdit => some "helpdesk_edit"
  | .helpDeskList => some "helpdesk_list"
  | .providerDocumentList => some "providerdocument_list"
  | .providerDocumentAdd => some "providerdocument_add"
  | .providerDocumentEdit => some "providerdocument_edit"
  | .providerDocumentDelete => some "providerdocument_delete"
  | _ => none

def Permission.decoderKey (name : Permission) : String :=
  name.respelled.getD name.encoderKey

/-- The decoder reads a missing value of these fields as zero. -/
def Permission.zeroByDefault : Permission → Bool
  | .helpAndSupport => true
  | .aboutUs => true
  | .privacyPolicy => true
  | .termCondition => true
  | _ => false

/-! ### The codec -/

def toJson (model : RolesAndPermissionModel) : Entries :=
  Permission.all.map fun name => (name.encoderKey, .ofInt (model name))

/-- A field of the decoded model; nothing where the cast to its type throws. -/
def fromJsonMap (map : Entries) (name : Permission) : Option (Option ℤ) :=
  if name.zeroByDefault then
    (map.get name.decoderKey).asInt.map fun value => some (value.getD 0)
  else (map.get name.decoderKey).asInt

def RoundTrips (model : RolesAndPermissionModel) : Prop :=
  ∀ name, fromJsonMap (toJson model) name = some (model name)

theorem Permission.nodup_jsonKeys :
    (Permission.all.map Permission.encoderKey ++
      Permission.all.filterMap Permission.respelled).Nodup :=
  nodup_of_pairwise_size (by decide +kernel)

theorem toJson_get_encoderKey (model : RolesAndPermissionModel) (name : Permission) :
    (toJson model).get name.encoderKey = .ofInt (model name) := by
  have distinct := (List.nodup_append.mp Permission.nodup_jsonKeys).1
  unfold Entries.get toJson
  rw [lookup_written Permission.encoderKey _ distinct name.mem_all]
  rfl

theorem toJson_get_respelled (model : RolesAndPermissionModel) {name : Permission}
    {key : String} (respelled : name.respelled = some key) : (toJson model).get key = .null := by
  have apart := (List.nodup_append.mp Permission.nodup_jsonKeys).2.2
  have absent : key ∉ Permission.all.map Permission.encoderKey := by
    intro written
    have listed : key ∈ Permission.all.filterMap Permission.respelled :=
      List.mem_filterMap.mpr ⟨name, name.mem_all, respelled⟩
    exact apart key written key listed rfl
  unfold Entries.get toJson
  rw [lookup_unwritten Permission.encoderKey _ absent]
  rfl

theorem toJson_get_decoderKey (model : RolesAndPermissionModel) (name : Permission) :
    ((toJson model).get name.decoderKey).asInt =
      some (if name.respelled.isSome then none else model name) := by
  unfold Permission.decoderKey
  cases respelled : name.respelled with
  | none =>
      rw [Option.getD_none, toJson_get_encoderKey, Untyped.asInt_ofInt]
      rfl
  | some key =>
      rw [Option.getD_some, toJson_get_respelled model respelled]
      rfl

theorem Permission.respelled_of_zeroByDefault {name : Permission}
    (zero : name.zeroByDefault = true) : name.respelled = none := by
  cases name <;> first | rfl | cases zero

/-- The model comes back exactly when it has nothing under the keys that the decoder spells
in another way, and something in the fields that the decoder fills with zero. -/
theorem permissionModel_roundTrips_iff (model : RolesAndPermissionModel) :
    RoundTrips model ↔
      ∀ name : Permission,
        (name.respelled.isSome = true → model name = none) ∧
          (name.zeroByDefault = true → model name ≠ none) := by
  apply forall_congr'
  intro name
  unfold fromJsonMap
  rw [toJson_get_decoderKey]
  cases zero : name.zeroByDefault with
  | true =>
      rw [Permission.respelled_of_zeroByDefault zero]
      cases model name with
      | none => decide
      | some value => simp
  | false =>
      cases name.respelled with
      | none => simp
      | some key => simp [eq_comm]

/-- The permission to see the help desk is encoded and not found again. -/
theorem helpDesk_lost_counterexample : ¬ ∀ model, RoundTrips model := by
  intro always
  have decoded := always (fun _ => some 1) .helpDesk
  unfold fromJsonMap at decoded
  rw [toJson_get_decoderKey] at decoded
  cases decoded

end FiksOpp.AppConfiguration
