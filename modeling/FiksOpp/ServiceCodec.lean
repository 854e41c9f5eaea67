/-
The codec of `ServiceData`, with the records nested in it.

A package holds services and a service holds packages, so the two are coded together.  A
decoder fails where a value does not have the type of the field it is assigned to.
-/

import FiksOpp.Constants
import FiksOpp.Foundations.DynamicValues
import Mathlib.Algebra.Order.Field.Rat

namespace FiksOpp.Codec

open DynamicValues
open Untyped

structure DartLibrary where
  /-- `toString()` of a value other than null, an integer or a text. -/
  printed : Untyped → String
  numTryParse : String → Option ℚ
  intTryParse : String → Option ℤ
  /-- The document that a text spells, if it is JSON. -/
  parseJson : String → Option JsonText
  /-- `toInt()` of the toolkit. -/
  textToInt : String → ℤ

def DartLibrary.toText (library : DartLibrary) : Untyped → Option String
  | .null => none
  | .int value => some (toString value)
  | .text value => some value
  | value => some (library.printed value)

@[simp] theorem toText_ofText (library : DartLibrary) (value : Option String) :
    library.toText (ofText value) = value := by
  cases value <;> rfl

def entryIfPresent (key : String) (value : Untyped) : Entries :=
  present [(key, value)]

@[simp] theorem lookup_entryIfPresent_self (key : String) (value : Untyped) :
    ((entryIfPresent key value).lookup key).getD .null = value := by
  cases value with
  | null => rfl
  | _ => exact congrArg (Option.getD · Untyped.null) List.lookup_cons_self

theorem lookup_entryIfPresent_of_ne {key other : String} (different : key ≠ other)
    (value : Untyped) : (entryIfPresent other value).lookup key = none := by
  cases value with
  | null => rfl
  | _ => exact lookup_cons_of_ne different _ []

structure Attachments where
  id : Option ℤ := none
  url : Option String := none

structure SlotData where
  day : Option String := none
  slot : Option (List String) := none

structure MultiLanguageRequest where
  name : Option String := none
  description : Option String := none

structure ProviderAddressMapping where
  id : Option ℤ := none
  providerId : Option ℤ := none
  address : Option String := none
  latitude : Option String := none
  longitude : Option String := none
  status : Untyped := .null
  createdAt : Option String := none
  updatedAt : Option String := none

structure ServiceAddressMapping where
  id : Option ℤ := none
  serviceId : Option ℤ := none
  providerAddressId : Option ℤ := none
  createdAt : Option String := none
  updatedAt : Option String := none
  providerAddressMapping : Option ProviderAddressMapping := none

def Attachments.fromJson (json : Entries) : Option Attachments := do
  let id ← asInt (json.get "id")
  let url ← asText (json.get "url")
  some { id := id, url := url }

def Attachments.toJson (attachment : Attachments) : Entries :=
  [("id", ofInt attachment.id), ("url", ofText attachment.url)]

@[simp] theorem Attachments.fromJson_toJson (attachment : Attachments) :
    Attachments.fromJson attachment.toJson = some attachment := by
  unfold Attachments.fromJson Attachments.toJson Entries.get
  simp [List.lookup_cons]

def SlotData.fromJson (json : Entries) : Option SlotData := do
  let day ← asText (json.get "day")
  let slot ← asListOf asItemText (json.get "slot")
  some { day := day, slot := slot }

/-- `toSet().toList()` keeps the first of equal slots. -/
def SlotData.toJson (slots : SlotData) : Entries :=
  [("day", ofText slots.day)] ++
    entryIfPresent "slot" (ofListOf .text (slots.slot.map List.eraseDups))

def MultiLanguageRequest.fromJson (library : DartLibrary) (json : Entries) :
    MultiLanguageRequest :=
  { name := library.toText (json.get "name")
    description := library.toText (json.get "description") }

/-- Empty texts are left out. -/
def MultiLanguageRequest.toJson (request : MultiLanguageRequest) : Entries :=
  let unlessEmpty (text : Option String) : Untyped :=
    ofText (text.filter fun written => !written.isEmpty)
  entryIfPresent "name" (unlessEmpty request.name) ++
    entryIfPresent "description" (unlessEmpty request.description)

def ProviderAddressMapping.fromJson (json : Entries) : Option ProviderAddressMapping := do
  let id ← asInt (json.get "id")
  let providerId ← asInt (json.get "provider_id")
  let address ← asText (json.get "address")
  let latitude ← asText (json.get "latitude")
  let longitude ← asText (json.get "longitude")
  let createdAt ← asText (json.get "created_at")
  let updatedAt ← asText (json.get "updated_at")
  some
    { id := id, providerId := providerId, address := address, latitude := latitude,
      longitude := longitude, status := json.get "status", createdAt := createdAt,
      updatedAt := updatedAt }

def ProviderAddressMapping.toJson (mapping : ProviderAddressMapping) : Entries :=
  [("id", ofInt mapping.id),
    ("provider_id", ofInt mapping.providerId),
    ("address", ofText mapping.address),
    ("latitude", ofText mapping.latitude),
    ("longitude", ofText mapping.longitude),
    ("status", mapping.status),
    ("created_at", ofText mapping.createdAt),
    ("updated_at", ofText mapping.updatedAt)]

def ServiceAddressMapping.fromJson (json : Entries) : Option ServiceAddressMapping := do
  let id ← asInt (json.get "id")
  let serviceId ← asInt (json.get "service_id")
  let providerAddressId ← asInt (json.get "provider_address_id")
  let createdAt ← asText (json.get "created_at")
  let updatedAt ← asText (json.get "updated_at")
  let providerAddressMapping ←
    asRecord ProviderAddressMapping.fromJson (json.get "provider_address_mapping")
  some
    { id := id, serviceId := serviceId, providerAddressId := providerAddressId,
      createdAt := createdAt, updatedAt := updatedAt,
      providerAddressMapping := providerAddressMapping }

def ServiceAddressMapping.toJson (mapping : ServiceAddressMapping) : Entries :=
  [("id", ofInt mapping.id),
    ("service_id", ofInt mapping.serviceId),
    ("provider_address_id", ofInt mapping.providerAddressId),
    ("created_at", ofText mapping.createdAt),
    ("updated_at", ofText mapping.updatedAt)] ++
    entryIfPresent "provider_address_mapping"
      (ofRecord ProviderAddressMapping.toJson mapping.providerAddressMapping)

/-! ### Services and packages -/

mutual

structure ServiceData where
  id : Option ℤ := none
  categoryId : Option ℤ := none
  providerId : Option ℤ := none
  cityId : Option ℤ := none
  status : Option ℤ := none
  isFeatured : Option ℤ := none
  price : Option ℚ := none
  discount : Option ℚ := none
  totalReview : Option ℚ := none
  totalRating : Option ℚ := none
  isFavourite : Option ℚ := none
  isSlot : Option ℚ := none
  serviceId : Option ℚ := none
  userId : Option ℚ := none
  duration : Option String := none
  description : Option String := none
  providerName : Option String := none
  categoryName : Option String := none
  subCategoryName : Option String := none
  providerImage : Option String := none
  name : Option String := none
  type : Option String := none
  createdAt : Option String := none
  customerName : Option String := none
  bookingDate : Option String := none
  bookingDay : Option String := none
  bookingSlot : Option String := none
  isEnableAdvancePayment : Option ℚ := none
  advancePaymentPercentage : Option ℚ := none
  advancePaymentAmount : Option ℚ := none
  attachments : Option (List String) := none
  attachmentsArray : Option (List Attachments) := none
  serviceAttachments : Option (List String) := none
  serviceAddressMapping : Option (List ServiceAddressMapping) := none
  bookingSlots : Option (List SlotData) := none
  servicePackage : Option (List BookingPackage) := none
  visitType : Option String := none
  translations : Option (List (String × MultiLanguageRequest)) := none
  latitude : Option ℚ := none
  longitude : Option ℚ := none

structure BookingPackage where
  id : Option ℤ := none
  name : Option String := none
  description : Option String := none
  price : Option ℚ := none
  startDate : Option String := none
  endDate : Option String := none
  serviceList : Option (List ServiceData) := none
  isFeatured : Untyped := .null
  categoryId : Option ℤ := none
  attchments : Option (List Attachments) := none
  imageAttachments : Option (List String) := none
  status : Option ℤ := none
  packageType : Option String := none
  originalPrice : ℚ := 0

end

namespace ServiceData

/-- `advancePaymentAllowed` is the preference `IS_ADVANCE_PAYMENT_ALLOWED`. -/
def isAdvancePayment (advancePaymentAllowed : Bool) (service : ServiceData) : Bool :=
  validate service.isEnableAdvancePayment == 1 && advancePaymentAllowed &&
    (validateList service.servicePackage).isEmpty

/-- No other letter has one of the letters of the option as its lower case. -/
def isOnlineService (service : ServiceData) : Bool :=
  (validateText service.visitType).toLower == "online"

end ServiceData

theorem sizeOf_package_lt {service : ServiceData} {packages : List BookingPackage}
    (held : service.servicePackage = some packages) {package : BookingPackage}
    (member : package ∈ packages) : sizeOf package < sizeOf service := by
  have item := List.sizeOf_lt_of_mem member
  obtain ⟨⟩ := service
  dsimp only at held
  subst held
  simp only [ServiceData.mk.sizeOf_spec, Option.some.sizeOf_spec]
  omega

theorem sizeOf_service_lt {package : BookingPackage} {services : List ServiceData}
    (held : package.serviceList = some services) {service : ServiceData}
    (member : service ∈ services) : sizeOf service < sizeOf package := by
  have item := List.sizeOf_lt_of_mem member
  obtain ⟨⟩ := package
  dsimp only at held
  subst held
  simp only [BookingPackage.mk.sizeOf_spec, Option.some.sizeOf_spec]
  omega

mutual

def ServiceData.toJson (advancePaymentAllowed : Bool) (service : ServiceData) : Entries :=
  [("category_id", ofInt service.categoryId),
    ("category_name", ofText service.categoryName),
    ("city_id", ofInt service.cityId),
    ("description", ofText service.description),
    ("discount", ofNum service.discount),
    ("booking_date", ofText service.bookingDate),
    ("booking_slot", ofText service.bookingSlot),
    ("booking_day", ofText service.bookingDay),
    ("slots", ofListOf (fun slot => .object slot.toJson) service.bookingSlots),
    ("duration", ofText service.duration),
    ("id", ofInt service.id),
    ("is_featured", ofInt service.isFeatured),
    ("name", ofText service.name),
    ("price", ofNum service.price),
    ("is_slot", ofNum service.isSlot),
    ("digital_service", .bool service.isOnlineService),
    ("provider_id", ofInt service.providerId),
    ("provider_name", ofText service.providerName),
    ("status", ofInt service.status),
    ("total_rating", ofNum service.totalRating),
    ("total_review", ofNum service.totalReview),
    ("provider_image", ofText service.providerImage),
    ("subcategory_name", ofText service.subCategoryName),
    ("created_at", ofText service.createdAt),
    ("customer_name", ofText service.customerName),
    ("service_id", ofNum service.serviceId),
    ("user_id", ofNum service.userId),
    ("type", ofText service.type)] ++
  entryIfPresent "service_attchments" (ofListOf .text service.serviceAttachments) ++
  entryIfPresent "attchments" (ofListOf .text service.attachments) ++
  [("is_favourite", ofNum service.isFavourite)] ++
  entryIfPresent "service_address_mapping"
    (ofRecords ServiceAddressMapping.toJson service.serviceAddressMapping) ++
  entryIfPresent "attchments_array"
    (ofRecords Attachments.toJson service.attachmentsArray) ++
  entryIfPresent "servicePackage"
    ((service.servicePackage.attach.map fun packages =>
      .list (packages.1.attach.map fun package =>
        .map (BookingPackage.toJson advancePaymentAllowed package.1))).getD .null) ++
  [("is_enable_advance_payment", .bool (service.isAdvancePayment advancePaymentAllowed)),
    -- the percentage that was put under this key before is replaced
    ("advance_payment_amount", ofNum service.advancePaymentAmount),
    ("visit_type", ofText service.visitType),
    ("latitude", ofNum service.latitude),
    ("longitude", ofNum service.longitude)] ++
  entryIfPresent "translations"
    (ofRecord (List.map fun translation => (translation.1, .map translation.2.toJson))
      service.translations)
termination_by sizeOf service
decreasing_by exact sizeOf_package_lt packages.2 package.2

def BookingPackage.toJson (advancePaymentAllowed : Bool) (package : BookingPackage) : Entries :=
  [("id", ofInt package.id),
    ("name", ofText package.name),
    ("description", ofText package.description),
    ("price", ofNum package.price),
    ("start_date", ofText package.startDate),
    ("end_date", ofText package.endDate),
    ("status", ofInt package.status),
    ("package_type", ofText package.packageType)] ++
  entryIfPresent "services"
    ((package.serviceList.attach.map fun services =>
      .list (services.1.attach.map fun service =>
        .map (ServiceData.toJson advancePaymentAllowed service.1))).getD .null) ++
  [("category_id", ofInt package.categoryId), ("is_featured", package.isFeatured)] ++
  entryIfPresent "attchments_array"
    (ofRecords Attachments.toJson package.attchments) ++
  entryIfPresent "attchments" (ofListOf .text package.imageAttachments)
termination_by sizeOf package
decreasing_by exact sizeOf_service_lt services.2 service.2

end

/-- A coordinate that is not a number is read from its text. -/
def coordinate (library : DartLibrary) : Untyped → Option ℚ
  | .int value => some value
  | .double value => some value
  | value => library.numTryParse ((library.toText value).getD "")

/-- The translations are expected as the text of a JSON map. -/
def translationsFromJson (library : DartLibrary) :
    Untyped → Option (Option (List (String × MultiLanguageRequest)))
  | .null => some none
  | .text written =>
      match (library.parseJson written).map jsonDecode with
      | some (.map entries) =>
          some (some (entries.map fun entry =>
            (entry.1,
              match entry.2 with
              | .map value => MultiLanguageRequest.fromJson library value
              | _ => {})))
      | _ => none
  | _ => none

mutual

def ServiceData.fromJson (library : DartLibrary) (json : Entries) : Option ServiceData := do
  let id ← asInt (json.get "id")
  let name ← asText (json.get "name")
  let categoryId ← asInt (json.get "category_id")
  let providerId ← asInt (json.get "provider_id")
  let price ← asNum (json.get "price")
  let type ← asText (json.get "type")
  let bookingDate ← asText (json.get "booking_date")
  let bookingSlot ← asText (json.get "booking_slot")
  let bookingDay ← asText (json.get "booking_day")
  let isSlot ← asNum (json.get "is_slot")
  let subCategoryName ← asText (json.get "subcategory_name")
  let discount ← asNum (json.get "discount")
  let duration ← asText (json.get "duration")
  let status ← asInt (json.get "status")
  let description ← asText (json.get "description")
  let isFeatured ← asInt (json.get "is_featured")
  let providerName ← asText (json.get "provider_name")
  let categoryName ← asText (json.get "category_name")
  let attachments ← asListOf asItemText (json.get "attchments")
  let totalReview ← asNum (json.get "total_review")
  let totalRating ← asNum (json.get "total_rating")
  let isFavourite ← asNum (json.get "is_favourite")
  let cityId ← asInt (json.get "city_id")
  let providerImage ← asText (json.get "provider_image")
  let serviceAddressMapping ←
    asRecords ServiceAddressMapping.fromJson (json.get "service_address_mapping")
  let bookingSlots ← asRecords SlotData.fromJson (json.get "slots")
  let createdAt ← asText (json.get "created_at")
  let customerName ← asText (json.get "customer_name")
  let serviceAttachments ← asListOf asItemText (json.get "service_attchments")
  let serviceId ← asNum (json.get "service_id")
  let userId ← asNum (json.get "user_id")
  let servicePackage ←
    asNestedList json "servicePackage" fun nested _ => BookingPackage.fromJson library nested
  let isEnableAdvancePayment ← asNum (json.get "is_enable_advance_payment")
  let advancePaymentPercentage ← asNum (json.get "advance_payment_amount")
  let advancePaymentAmount ← asNum (json.get "advance_payment_amount")
  let attachmentsArray ← asRecords Attachments.fromJson (json.get "attchments_array")
  let visitType ← asText (json.get "visit_type")
  let translations ← translationsFromJson library (json.get "translations")
  some
    { id := id, name := name, categoryId := categoryId, providerId := providerId,
      price := price, type := type, bookingDate := bookingDate, bookingSlot := bookingSlot,
      bookingDay := bookingDay, isSlot := isSlot, subCategoryName := subCategoryName,
      discount := some (discount.getD 0), duration := duration, status := status,
      description := description, isFeatured := isFeatured, providerName := providerName,
      categoryName := categoryName, attachments := attachments, totalReview := totalReview,
      totalRating := totalRating, isFavourite := isFavourite, cityId := cityId,
      providerImage := providerImage, serviceAddressMapping := serviceAddressMapping,
      bookingSlots := bookingSlots, createdAt := createdAt, customerName := customerName,
      serviceAttachments := serviceAttachments, serviceId := serviceId, userId := userId,
      servicePackage := servicePackage, isEnableAdvancePayment := isEnableAdvancePayment,
      advancePaymentPercentage := advancePaymentPercentage,
      advancePaymentAmount := advancePaymentAmount, attachmentsArray := attachmentsArray,
      visitType := visitType, latitude := coordinate library (json.get "latitude"),
      longitude := coordinate library (json.get "longitude"), translations := translations }
termination_by sizeOf json
decreasing_by assumption

def BookingPackage.fromJson (library : DartLibrary) (json : Entries) :
    Option BookingPackage := do
  let id ← asInt (json.get "id")
  let name ← asText (json.get "name")
  let description ← asText (json.get "description")
  let price ← asNum (json.get "price")
  let startDate ← asText (json.get "start_date")
  let endDate ← asText (json.get "end_date")
  let status ← asInt (json.get "status")
  let serviceList ←
    asNestedList json "services" fun nested _ => ServiceData.fromJson library nested
  let attchments ← asRecords Attachments.fromJson (json.get "attchments_array")
  let imageAttachments ← asListOf asItemText (json.get "attchments")
  let categoryId ← asInt (json.get "category_id")
  let packageType ← asText (json.get "package_type")
  some
    { id := id, name := name, description := description, price := price,
      startDate := startDate, endDate := endDate, status := status, serviceList := serviceList,
      attchments := attchments, imageAttachments := imageAttachments,
      categoryId := categoryId, isFeatured := json.get "is_featured",
      packageType := packageType,
      originalPrice :=
        ((validateList serviceList).map fun service => validate service.price).sum }
termination_by sizeOf json
decreasing_by assumption

end

theorem ServiceData.toJson_isEnableAdvancePayment (advancePaymentAllowed : Bool)
    (service : ServiceData) :
    (service.toJson advancePaymentAllowed).get "is_enable_advance_payment" =
      .bool (service.isAdvancePayment advancePaymentAllowed) := by
  rw [ServiceData.toJson]
  unfold Entries.get
  simp [List.lookup_append, List.lookup_cons, lookup_entryIfPresent_of_ne]

theorem ServiceData.fromJson_of_bool (library : DartLibrary) {json : Entries} {value : Bool}
    (flag : json.get "is_enable_advance_payment" = .bool value) :
    ServiceData.fromJson library json = none := by
  have fails : asNum (json.get "is_enable_advance_payment") = none := by
    rw [flag]
    rfl
  rw [ServiceData.fromJson]
  simp only [fails, Option.bind_eq_bind, Option.bind_none, Option.bind_fun_none]

theorem ServiceData.fromJson_toJson (library : DartLibrary) (advancePaymentAllowed : Bool)
    (service : ServiceData) :
    ServiceData.fromJson library (service.toJson advancePaymentAllowed) = none :=
  ServiceData.fromJson_of_bool library
    (service.toJson_isEnableAdvancePayment advancePaymentAllowed)

/-- `ServiceData.fromJson(jsonDecode(jsonEncode(service.toJson())))`. -/
def ServiceData.overJson (library : DartLibrary) (advancePaymentAllowed : Bool)
    (service : ServiceData) : Option ServiceData :=
  asMapOf (ServiceData.fromJson library)
    (jsonDecode (jsonEncode (.map (service.toJson advancePaymentAllowed))))

/-- The decoder throws on the flag that the encoder derives. -/
theorem ServiceData.overJson_eq_none (library : DartLibrary) (advancePaymentAllowed : Bool)
    (service : ServiceData) : service.overJson library advancePaymentAllowed = none := by
  have flag := get_jsonDecode_jsonEncode (service.toJson advancePaymentAllowed)
    "is_enable_advance_payment"
  rw [service.toJson_isEnableAdvancePayment] at flag
  exact ServiceData.fromJson_of_bool library flag

/-- The decoder succeeds and every field that it decodes is the encoded one. -/
def ServiceData.ComesBack (library : DartLibrary) (advancePaymentAllowed : Bool)
    (service : ServiceData) : Prop :=
  service.overJson library advancePaymentAllowed = some service

/-- No service comes back, whatever it holds. -/
theorem service_never_comesBack (library : DartLibrary) (advancePaymentAllowed : Bool)
    (service : ServiceData) : ¬ service.ComesBack library advancePaymentAllowed := by
  unfold ServiceData.ComesBack
  rw [service.overJson_eq_none]
  exact fun same => nomatch same

/-- Not even the service without any data, with a library that reads nothing. -/
theorem emptyService_lost_counterexample :
    ¬ ∀ library advancePaymentAllowed, ∀ service : ServiceData,
      service.ComesBack library advancePaymentAllowed := by
  intro always
  have decoded := always
    { printed := fun _ => "", numTryParse := fun _ => none, intTryParse := fun _ => none,
      parseJson := fun _ => none, textToInt := fun _ => 0 } false {}
  unfold ServiceData.ComesBack at decoded
  rw [ServiceData.overJson_eq_none] at decoded
  cases decoded

end FiksOpp.Codec
