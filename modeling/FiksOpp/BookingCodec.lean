/-
The codec of `BookingData`, with the records nested in it.

Numbers of a booking are also read from texts.  What the encoder leaves out or writes from
another field comes back changed, and a package that lists services does not come back.
-/

import FiksOpp.UserCodec

namespace FiksOpp.Codec

open DynamicValues
open Untyped

def parseNum (library : DartLibrary) : Untyped → Option ℚ
  | .int value => some value
  | .double value => some value
  | .text value => library.numTryParse value
  | _ => none

/-- `_parseInt`; a number that is not whole is cut towards zero. -/
def parseInt (library : DartLibrary) : Untyped → Option ℤ
  | .int value => some value
  | .double value => some (value.num.tdiv value.den)
  | .text value => library.intTryParse value
  | _ => none

@[simp] theorem parseInt_ofInt (library : DartLibrary) (value : Option ℤ) :
    parseInt library (ofInt value) = value := by
  cases value <;> rfl

@[simp] theorem parseNum_ofNumber (library : DartLibrary) (value : ℚ) :
    parseNum library (ofNumber value) = some value := by
  rcases ofNumber_cases value with ⟨whole, written, same⟩ | written
  · rw [written, ← same]
    rfl
  · rw [written]
    rfl

@[simp] theorem parseNum_ofNum (library : DartLibrary) (value : Option ℚ) :
    parseNum library (ofNum value) = value := by
  cases value with
  | none => rfl
  | some value => exact parseNum_ofNumber library value

@[simp] theorem parseNum_null (library : DartLibrary) : parseNum library .null = none := rfl

structure CouponData where
  code : Option String := none
  discount : Option ℚ := none
  discountType : Option String := none
  expireDate : Option String := none
  id : Option ℤ := none
  status : Option ℤ := none
  isApplied : Bool := false

structure TaxData where
  id : Option ℤ := none
  providerId : Option ℤ := none
  title : Option String := none
  type : Option String := none
  value : Option ℚ := none
  totalCalculatedValue : Option ℚ := none

structure ExtraChargesModel where
  id : Option ℚ := none
  bookingId : Option ℚ := none
  title : Option String := none
  price : Option ℚ := none
  qty : Option ℚ := none
  createdAt : Untyped := .null
  updatedAt : Untyped := .null

structure Serviceaddon where
  id : ℤ := -1
  name : String := ""
  serviceAddonImage : String := ""
  serviceId : ℤ := -1
  price : ℚ := 0
  status : ℤ := -1
  deletedAt : String := ""
  createdAt : String := ""
  updatedAt : String := ""
  isSelected : Bool := false

namespace CouponData

def fromJson (json : Entries) : Option CouponData := do
  let code ← asText (json.get "code")
  let discount ← asNum (json.get "discount")
  let discountType ← asText (json.get "discount_type")
  let expireDate ← asText (json.get "expire_date")
  let id ← asInt (json.get "id")
  let status ← asInt (json.get "status")
  some
    { code := code, discount := discount, discountType := discountType,
      expireDate := expireDate, id := id, status := status }

def toJson (coupon : CouponData) : Entries :=
  [("code", ofText coupon.code),
    ("discount", ofNum coupon.discount),
    ("discount_type", ofText coupon.discountType),
    ("expire_date", ofText coupon.expireDate),
    ("id", ofInt coupon.id),
    ("status", ofInt coupon.status)]

def decoded (coupon : CouponData) : CouponData :=
  { coupon with isApplied := false }

theorem fromJson_toJson (coupon : CouponData) :
    fromJson coupon.toJson = some coupon.decoded := by
  unfold fromJson toJson Entries.get
  simp [List.lookup_cons, decoded]

end CouponData

namespace TaxData

def fromJson (library : DartLibrary) (json : Entries) : Option TaxData := do
  let title ← asText (json.get "title")
  let type ← asText (json.get "type")
  some
    { id := parseInt library (json.get "id")
      providerId := parseInt library (json.get "provider_id")
      title := title
      type := type
      value := parseNum library (json.get "value")
      totalCalculatedValue := parseNum library (json.get "total_calculated_value") }

def toJson (tax : TaxData) : Entries :=
  [("id", ofInt tax.id),
    ("provider_id", ofInt tax.providerId),
    ("title", ofText tax.title),
    ("type", ofText tax.type),
    ("value", ofNum tax.value)]

def decoded (tax : TaxData) : TaxData :=
  { tax with totalCalculatedValue := none }

theorem fromJson_toJson (library : DartLibrary) (tax : TaxData) :
    fromJson library tax.toJson = some tax.decoded := by
  unfold fromJson toJson Entries.get
  simp [List.lookup_cons, decoded]

end TaxData

namespace ExtraChargesModel

def fromJson (library : DartLibrary) (json : Entries) : Option ExtraChargesModel := do
  let title ← asText (json.get "title")
  some
    { id := parseNum library (json.get "id")
      bookingId := parseNum library (json.get "booking_id")
      title := title
      price := parseNum library (json.get "price")
      qty := parseNum library (json.get "qty")
      createdAt := json.get "created_at"
      updatedAt := json.get "updated_at" }

def toJson (charge : ExtraChargesModel) : Entries :=
  [("id", ofNum charge.id),
    ("booking_id", ofNum charge.bookingId),
    ("title", ofText charge.title),
    ("price", ofNum charge.price),
    ("qty", ofNum charge.qty),
    ("created_at", charge.createdAt),
    ("updated_at", charge.updatedAt)]

theorem fromJson_toJson (library : DartLibrary) (charge : ExtraChargesModel) :
    fromJson library charge.toJson = some charge := by
  unfold fromJson toJson Entries.get
  simp [List.lookup_cons]

end ExtraChargesModel

namespace Serviceaddon

def intOr (fallback : ℤ) : Untyped → ℤ
  | .int value => value
  | _ => fallback

def numOr (fallback : ℚ) : Untyped → ℚ
  | .int value => value
  | .double value => value
  | _ => fallback

def textOr (fallback : String) : Untyped → String
  | .text value => value
  | _ => fallback

def fromJson (json : Entries) : Option Serviceaddon := do
  -- a time of deletion is replaced by the time of creation
  let deletedAt ←
    match json.get "deleted_at" with
    | .text _ =>
        match json.get "created_at" with
        | .text value => some value
        | _ => none
    | _ => some ""
  some
    { id := intOr (-1) (json.get "id")
      name := textOr "" (json.get "name")
      serviceAddonImage := textOr "" (json.get "serviceaddon_image")
      serviceId := intOr (-1) (json.get "service_id")
      price := numOr 0 (json.get "price")
      status := intOr (-1) (json.get "status")
      deletedAt := deletedAt
      createdAt := textOr "" (json.get "created_at")
      updatedAt := textOr "" (json.get "updated_at") }

def toJson (addon : Serviceaddon) : Entries :=
  [("id", .int addon.id),
    ("name", .text addon.name),
    ("serviceaddon_image", .text addon.serviceAddonImage),
    ("service_id", .int addon.serviceId),
    ("price", ofNumber addon.price),
    ("status", .int addon.status),
    ("deleted_at", .text addon.deletedAt),
    ("created_at", .text addon.createdAt),
    ("updated_at", .text addon.updatedAt)]

def decoded (addon : Serviceaddon) : Serviceaddon :=
  { addon with deletedAt := addon.createdAt, isSelected := false }

theorem numOr_ofNumber (fallback value : ℚ) : numOr fallback (ofNumber value) = value := by
  rcases ofNumber_cases value with ⟨whole, written, same⟩ | written
  · rw [written]
    exact same
  · rw [written]
    rfl

theorem fromJson_toJson (addon : Serviceaddon) :
    fromJson addon.toJson = some addon.decoded := by
  unfold fromJson toJson Entries.get
  simp [List.lookup_cons, decoded, intOr, textOr, numOr_ofNumber]

end Serviceaddon

/-! ### Packages and bookings -/

namespace BookingPackage

/-- The sum over the services is taken again, and there are none. -/
def decoded (package : BookingPackage) : BookingPackage :=
  { package with originalPrice := 0 }

theorem attach_services (encode : ServiceData → Entries)
    (services : Option (List ServiceData)) :
    (services.attach.map fun held =>
      list (held.1.attach.map fun service => map (encode service.1))).getD null =
      ofRecords encode services := by
  cases services with
  | none => rfl
  | some services => simp [ofRecords, ofListOf]

theorem toJson_services (advancePaymentAllowed : Bool) (package : BookingPackage) :
    (package.toJson advancePaymentAllowed).get "services" =
      ofRecords (ServiceData.toJson advancePaymentAllowed)
        package.serviceList := by
  rw [toJson, ← attach_services]
  unfold Entries.get
  simp [List.lookup_append, List.lookup_cons, lookup_entryIfPresent_of_ne]

/-- A package that lists a service does not come back, like the service. -/
theorem fromJson_toJson_of_service (library : DartLibrary) (advancePaymentAllowed : Bool)
    {package : BookingPackage} {services : List ServiceData}
    (held : package.serviceList = some services) {service : ServiceData}
    (listed : service ∈ services) :
    fromJson library (package.toJson advancePaymentAllowed) = none := by
  have fails : asRecords (ServiceData.fromJson library)
      ((package.toJson advancePaymentAllowed).get "services") = none := by
    rw [toJson_services, held]
    change Option.map some _ = none
    rw [mapM_map_eq_none listed (service.fromJson_toJson library advancePaymentAllowed)]
    rfl
  rw [fromJson, asNestedList_eq]
  simp only [fails, Option.bind_eq_bind, Option.bind_none, Option.bind_fun_none]

theorem fromJson_toJson (library : DartLibrary) (advancePaymentAllowed : Bool)
    {package : BookingPackage} (empty : validateList package.serviceList = []) :
    fromJson library (package.toJson advancePaymentAllowed) = some package.decoded := by
  have read : asRecords (ServiceData.fromJson library)
      ((package.toJson advancePaymentAllowed).get "services") = some package.serviceList := by
    rw [toJson_services]
    cases held : package.serviceList with
    | none => rfl
    | some services =>
        rw [held] at empty
        change services = [] at empty
        rw [empty]
        rfl
  rw [fromJson, asNestedList_eq, read, toJson]
  unfold Entries.get
  simp [List.lookup_append, List.lookup_cons, lookup_entryIfPresent_of_ne,
    asRecords_ofRecords_self Attachments.fromJson_toJson, decoded, empty]

end BookingPackage

structure Handyman where
  bookingId : Option ℤ := none
  createdAt : Option String := none
  deletedAt : Option String := none
  handyman : Option UserData := none
  handymanId : Option ℤ := none
  id : Option ℤ := none
  updatedAt : Option String := none

namespace Handyman

def fromJson (library : DartLibrary) (json : Entries) : Option Handyman := do
  let createdAt ← asText (json.get "created_at")
  let deletedAt ← asText (json.get "deleted_at")
  let handyman ← asRecord (UserData.fromJson library) (json.get "handyman")
  let updatedAt ← asText (json.get "updated_at")
  some
    { bookingId := parseInt library (json.get "booking_id"), createdAt := createdAt,
      deletedAt := deletedAt, handyman := handyman,
      handymanId := parseInt library (json.get "handyman_id"),
      id := parseInt library (json.get "id"), updatedAt := updatedAt }

def toJson (handyman : Handyman) : Entries :=
  [("booking_id", ofInt handyman.bookingId),
    ("created_at", ofText handyman.createdAt),
    ("deleted_at", ofText handyman.deletedAt),
    ("handyman_id", ofInt handyman.handymanId),
    ("id", ofInt handyman.id),
    ("updated_at", ofText handyman.updatedAt)] ++
  entryIfPresent "handyman" (ofRecord UserData.toJson handyman.handyman)

def decoded (library : DartLibrary) (handyman : Handyman) : Handyman :=
  { handyman with handyman := handyman.handyman.map (UserData.decoded library) }

theorem fromJson_toJson (library : DartLibrary) (handyman : Handyman) :
    fromJson library handyman.toJson = some (handyman.decoded library) := by
  unfold fromJson toJson Entries.get
  simp [List.lookup_cons,
    asRecord_ofRecord (UserData.fromJson_toJson library), decoded]

end Handyman

structure BookingData where
  id : Option ℤ := none
  address : Option String := none
  customerId : Option ℤ := none
  customerName : Option String := none
  serviceId : Option ℤ := none
  providerId : Option ℤ := none
  quantity : Option ℤ := none
  type : Option String := none
  discount : Option ℚ := none
  statusLabel : Option String := none
  description : Option String := none
  providerName : Option String := none
  providerIsVerified : Option ℤ := none
  providerImage : Option String := none
  serviceName : Option String := none
  paymentStatus : Option String := none
  paymentMethod : Option String := none
  date : Option String := none
  durationDiff : Option String := none
  paymentId : Option ℤ := none
  bookingAddressId : Option ℤ := none
  durationDiffHour : Option String := none
  bookingSlot : Option String := none
  totalAmount : Option ℚ := none
  amount : Option ℚ := none
  paidAmount : Option ℚ := none
  couponData : Option CouponData := none
  handyman : Option (List Handyman) := none
  serviceAttachments : Option (List String) := none
  status : Option String := none
  taxes : Option (List TaxData) := none
  reason : Option String := none
  totalReview : Option ℤ := none
  totalRating : Option ℚ := none
  startAt : Option String := none
  endAt : Option String := none
  bookingType : Option String := none
  extraCharges : Option (List ExtraChargesModel) := none
  bookingPackage : Option BookingPackage := none
  txnId : Option String := none
  finalTotalServicePrice : Option ℚ := none
  finalTotalTax : Option ℚ := none
  finalSubTotal : Option ℚ := none
  finalDiscountAmount : Option ℚ := none
  finalCouponDiscountAmount : Option ℚ := none
  cancellationChargeHours : Option ℤ := none
  cancellationCharges : Option ℚ := none
  cancellationChargeAmount : Option ℚ := none
  refundAmount : Option ℚ := none
  refundStatus : Option String := none
  serviceaddon : Option (List Serviceaddon) := none
  bookingDate : Option String := none

namespace BookingData

/-- Only a Boolean tells that the provider is verified. -/
def verifiedFlag : Untyped → ℤ
  | .bool true => 1
  | _ => 0

def fromJson (library : DartLibrary) (json : Entries) : Option BookingData := do
  let address ← asText (json.get "address")
  let bookingSlot ← asText (json.get "booking_slot")
  let couponData ← asRecord CouponData.fromJson (json.get "coupon_data")
  let customerName ← asText (json.get "customer_name")
  let date ← asText (json.get "date")
  let description ← asText (json.get "description")
  let handyman ← asRecords (Handyman.fromJson library) (json.get "handyman")
  let paymentMethod ← asText (json.get "payment_method")
  let paymentStatus ← asText (json.get "payment_status")
  let providerName ← asText (json.get "provider_name")
  let providerImage ← asText (json.get "provider_image")
  let serviceAttachments ← asListOf asItemText (json.get "service_attchments")
  let serviceName ← asText (json.get "service_name")
  let status ← asText (json.get "status")
  let statusLabel ← asText (json.get "status_label")
  let taxes ← asRecords (TaxData.fromJson library) (json.get "taxes")
  let type ← asText (json.get "type")
  let reason ← asText (json.get "reason")
  let extraCharges ←
    asRecords (ExtraChargesModel.fromJson library) (json.get "extra_charges")
  let bookingType ← asText (json.get "booking_type")
  let bookingPackage ← asRecord (BookingPackage.fromJson library) (json.get "booking_package")
  let txnId ← asText (json.get "txn_id")
  let serviceaddon ← asRecords Serviceaddon.fromJson (json.get "BookingAddonService")
  let bookingDate ← asText (json.get "booking_date")
  let refundStatus ← asText (json.get "refund_status")
  some
    { address := address, bookingSlot := bookingSlot,
      amount := parseNum library (json.get "amount"),
      totalAmount := parseNum library (json.get "total_amount"),
      bookingAddressId := parseInt library (json.get "booking_address_id"),
      couponData := couponData, customerId := parseInt library (json.get "customer_id"),
      customerName := customerName, date := date, description := description,
      discount := parseNum library (json.get "discount"),
      durationDiff := library.toText (json.get "duration_diff"),
      durationDiffHour := library.toText (json.get "duration_diff_hour"), handyman := handyman,
      id := parseInt library (json.get "id"),
      paymentId := parseInt library (json.get "payment_id"), paymentMethod := paymentMethod,
      paymentStatus := paymentStatus, providerId := parseInt library (json.get "provider_id"),
      providerName := providerName, providerImage := providerImage,
      providerIsVerified := some (verifiedFlag (json.get "provider_is_verified")),
      quantity := parseInt library (json.get "quantity"),
      serviceAttachments := serviceAttachments,
      serviceId := parseInt library (json.get "service_id"), serviceName := serviceName,
      status := status, statusLabel := statusLabel, taxes := taxes, type := type,
      reason := reason, totalReview := parseInt library (json.get "total_review"),
      totalRating := parseNum library (json.get "total_rating"),
      startAt := library.toText (json.get "start_at"),
      endAt := library.toText (json.get "end_at"), extraCharges := extraCharges,
      bookingType := bookingType, bookingPackage := bookingPackage,
      paidAmount := parseNum library (json.get "advance_paid_amount"),
      finalTotalServicePrice := parseNum library (json.get "final_total_service_price"),
      finalTotalTax := parseNum library (json.get "final_total_tax"),
      finalSubTotal := parseNum library (json.get "final_sub_total"),
      finalDiscountAmount := parseNum library (json.get "final_discount_amount"),
      finalCouponDiscountAmount := parseNum library (json.get "final_coupon_discount_amount"),
      txnId := txnId, serviceaddon := serviceaddon, bookingDate := bookingDate,
      cancellationChargeHours := parseInt library (json.get "cancellation_charge_hours"),
      cancellationCharges := parseNum library (json.get "cancellationcharges"),
      cancellationChargeAmount := parseNum library (json.get "cancellation_charge_amount"),
      refundAmount := parseNum library (json.get "refund_amount"), refundStatus := refundStatus }

/-- The paid amount is written from the amount. -/
def toJson (advancePaymentAllowed : Bool) (booking : BookingData) : Entries :=
  [("address", ofText booking.address),
    ("booking_address_id", ofInt booking.bookingAddressId),
    ("customer_id", ofInt booking.customerId),
    ("customer_name", ofText booking.customerName),
    ("total_amount", ofNum booking.totalAmount),
    ("booking_slot", ofText booking.bookingSlot),
    ("amount", ofNum booking.amount),
    ("date", ofText booking.date),
    ("description", ofText booking.description),
    ("discount", ofNum booking.discount),
    ("duration_diff", ofText booking.durationDiff),
    ("duration_diff_hour", ofText booking.durationDiffHour),
    ("id", ofInt booking.id),
    ("payment_id", ofInt booking.paymentId),
    ("payment_method", ofText booking.paymentMethod),
    ("payment_status", ofText booking.paymentStatus),
    ("provider_id", ofInt booking.providerId),
    ("provider_name", ofText booking.providerName),
    ("provider_image", ofText booking.providerImage),
    ("provider_is_verified", ofInt booking.providerIsVerified),
    ("quantity", ofInt booking.quantity),
    ("service_id", ofInt booking.serviceId),
    ("service_name", ofText booking.serviceName),
    ("status", ofText booking.status),
    ("status_label", ofText booking.statusLabel),
    ("type", ofText booking.type),
    ("reason", ofText booking.reason),
    ("total_review", ofInt booking.totalReview),
    ("total_rating", ofNum booking.totalRating),
    ("start_at", ofText booking.startAt),
    ("end_at", ofText booking.endAt),
    ("booking_type", ofText booking.bookingType),
    ("advance_paid_amount", ofNum booking.amount),
    ("final_total_service_price", ofNum booking.finalTotalServicePrice),
    ("final_total_tax", ofNum booking.finalTotalTax),
    ("final_sub_total", ofNum booking.finalSubTotal),
    ("final_discount_amount", ofNum booking.finalDiscountAmount),
    ("final_coupon_discount_amount", ofNum booking.finalCouponDiscountAmount),
    ("txn_id", ofText booking.txnId),
    ("cancellation_charge_hours", ofInt booking.cancellationChargeHours),
    ("cancellationcharges", ofNum booking.cancellationCharges),
    ("cancellation_charge_amount", ofNum booking.cancellationChargeAmount),
    ("refund_amount", ofNum booking.refundAmount),
    ("refund_status", ofText booking.refundStatus)] ++
  entryIfPresent "coupon_data" (ofRecord CouponData.toJson booking.couponData) ++
  entryIfPresent "handyman" (ofRecords Handyman.toJson booking.handyman) ++
  entryIfPresent "service_attchments" (ofListOf .text booking.serviceAttachments) ++
  entryIfPresent "taxes" (ofRecords TaxData.toJson booking.taxes) ++
  entryIfPresent "extra_charges"
    (ofRecords ExtraChargesModel.toJson booking.extraCharges) ++
  entryIfPresent "booking_package"
    (ofRecord (BookingPackage.toJson advancePaymentAllowed) booking.bookingPackage) ++
  entryIfPresent "BookingAddonService"
    (ofRecords Serviceaddon.toJson booking.serviceaddon) ++
  [("booking_date", ofText booking.bookingDate)]

@[simp] theorem verifiedFlag_ofInt (value : Option ℤ) : verifiedFlag (ofInt value) = 0 := by
  cases value <;> rfl

def decoded (library : DartLibrary) (booking : BookingData) : BookingData :=
  { booking with
    providerIsVerified := some 0
    paidAmount := booking.amount
    couponData := booking.couponData.map CouponData.decoded
    handyman := booking.handyman.map (List.map (Handyman.decoded library))
    taxes := booking.taxes.map (List.map TaxData.decoded)
    bookingPackage := booking.bookingPackage.map BookingPackage.decoded
    serviceaddon := booking.serviceaddon.map (List.map Serviceaddon.decoded) }

theorem toJson_bookingPackage (advancePaymentAllowed : Bool) (booking : BookingData) :
    (booking.toJson advancePaymentAllowed).get "booking_package" =
      ofRecord (BookingPackage.toJson advancePaymentAllowed) booking.bookingPackage := by
  unfold toJson Entries.get
  simp [List.lookup_append, List.lookup_cons, lookup_entryIfPresent_of_ne]

theorem fromJson_toJson_of_service (library : DartLibrary) (advancePaymentAllowed : Bool)
    {booking : BookingData} {package : BookingPackage}
    (booked : booking.bookingPackage = some package) {services : List ServiceData}
    (held : package.serviceList = some services) {service : ServiceData}
    (listed : service ∈ services) :
    fromJson library (booking.toJson advancePaymentAllowed) = none := by
  have fails : asRecord (BookingPackage.fromJson library)
      ((booking.toJson advancePaymentAllowed).get "booking_package") = none := by
    rw [toJson_bookingPackage, booked]
    change Option.map some (BookingPackage.fromJson library _) = none
    rw [BookingPackage.fromJson_toJson_of_service library advancePaymentAllowed held listed]
    rfl
  unfold fromJson
  simp only [fails, Option.bind_eq_bind, Option.bind_none, Option.bind_fun_none]

theorem fromJson_toJson (library : DartLibrary) (advancePaymentAllowed : Bool)
    {booking : BookingData}
    (empty : ∀ package ∈ booking.bookingPackage, validateList package.serviceList = []) :
    fromJson library (booking.toJson advancePaymentAllowed) = some (booking.decoded library) := by
  have package : asRecord (BookingPackage.fromJson library)
      (ofRecord (BookingPackage.toJson advancePaymentAllowed) booking.bookingPackage) =
        some (booking.bookingPackage.map BookingPackage.decoded) := by
    cases booked : booking.bookingPackage with
    | none => rfl
    | some package =>
        change Option.map some (BookingPackage.fromJson library _) = _
        rw [BookingPackage.fromJson_toJson library advancePaymentAllowed (empty package booked)]
        rfl
  unfold fromJson toJson Entries.get
  simp [List.lookup_append, List.lookup_cons, lookup_entryIfPresent_of_ne, package,
    asRecord_ofRecord CouponData.fromJson_toJson,
    asRecords_ofRecords (Handyman.fromJson_toJson library),
    asRecords_ofRecords (TaxData.fromJson_toJson library),
    asRecords_ofRecords_self (ExtraChargesModel.fromJson_toJson library),
    asRecords_ofRecords Serviceaddon.fromJson_toJson, decoded]

end BookingData

/-! ### What comes back unchanged -/

structure BookingData.Lossless (booking : BookingData) : Prop where
  providerIsVerified : booking.providerIsVerified = some 0
  paidAmount : booking.paidAmount = booking.amount
  couponData : ∀ coupon ∈ booking.couponData, coupon.isApplied = false
  handyman : ∀ handymen ∈ booking.handyman, ∀ handyman ∈ handymen,
    ∀ user ∈ handyman.handyman, user.Lossless
  taxes : ∀ taxes ∈ booking.taxes, ∀ tax ∈ taxes, tax.totalCalculatedValue = none
  bookingPackage : ∀ package ∈ booking.bookingPackage,
    validateList package.serviceList = [] ∧ package.originalPrice = 0
  serviceaddon : ∀ addons ∈ booking.serviceaddon, ∀ addon ∈ addons,
    addon.deletedAt = addon.createdAt ∧ addon.isSelected = false

/-- `BookingData.fromJson(booking.toJson())` equals the booking on every field. -/
def BookingData.ComesBack (library : DartLibrary) (advancePaymentAllowed : Bool)
    (booking : BookingData) : Prop :=
  BookingData.fromJson library (booking.toJson advancePaymentAllowed) = some booking

theorem Handyman.decoded_eq_iff {library : DartLibrary} (reads : library.ReadsDigits)
    (handyman : Handyman) :
    handyman.decoded library = handyman ↔ ∀ user ∈ handyman.handyman, user.Lossless := by
  have parts : handyman.decoded library = handyman ↔
      handyman.handyman.map (UserData.decoded library) = handyman.handyman := by
    obtain ⟨⟩ := handyman
    simp [decoded]
  rw [parts, map_eq_self_iff]
  simp only [UserData.decoded_eq_iff reads]

theorem CouponData.decoded_eq_iff (coupon : CouponData) :
    coupon.decoded = coupon ↔ coupon.isApplied = false := by
  obtain ⟨⟩ := coupon
  simp [decoded, eq_comm]

theorem TaxData.decoded_eq_iff (tax : TaxData) :
    tax.decoded = tax ↔ tax.totalCalculatedValue = none := by
  obtain ⟨⟩ := tax
  simp [decoded, eq_comm]

theorem Serviceaddon.decoded_eq_iff (addon : Serviceaddon) :
    addon.decoded = addon ↔ addon.deletedAt = addon.createdAt ∧ addon.isSelected = false := by
  obtain ⟨⟩ := addon
  simp [decoded, eq_comm]

theorem BookingPackage.decoded_eq_iff (package : BookingPackage) :
    package.decoded = package ↔ package.originalPrice = 0 := by
  obtain ⟨⟩ := package
  simp [decoded, eq_comm]

theorem BookingData.decoded_eq_iff {library : DartLibrary} (reads : library.ReadsDigits)
    (booking : BookingData) :
    booking.decoded library = booking ↔
      some 0 = booking.providerIsVerified ∧ booking.amount = booking.paidAmount ∧
        (∀ coupon ∈ booking.couponData, coupon.isApplied = false) ∧
        (∀ handymen ∈ booking.handyman, ∀ handyman ∈ handymen,
          ∀ user ∈ handyman.handyman, user.Lossless) ∧
        (∀ taxes ∈ booking.taxes, ∀ tax ∈ taxes, tax.totalCalculatedValue = none) ∧
        (∀ package ∈ booking.bookingPackage, package.originalPrice = 0) ∧
        (∀ addons ∈ booking.serviceaddon, ∀ addon ∈ addons,
          addon.deletedAt = addon.createdAt ∧ addon.isSelected = false) := by
  simp only [← CouponData.decoded_eq_iff, ← Handyman.decoded_eq_iff reads,
    ← TaxData.decoded_eq_iff, ← BookingPackage.decoded_eq_iff, ← Serviceaddon.decoded_eq_iff,
    ← map_eq_self_iff, ← map_map_eq_self_iff]
  obtain ⟨⟩ := booking
  simp [decoded]

theorem BookingData.lossless_iff {library : DartLibrary} (reads : library.ReadsDigits)
    (booking : BookingData) :
    booking.Lossless ↔
      (∀ package ∈ booking.bookingPackage, validateList package.serviceList = []) ∧
        booking.decoded library = booking := by
  rw [booking.decoded_eq_iff reads]
  constructor
  · intro whole
    exact ⟨fun package booked => (whole.bookingPackage package booked).1,
      whole.providerIsVerified.symm, whole.paidAmount.symm, whole.couponData, whole.handyman,
      whole.taxes, fun package booked => (whole.bookingPackage package booked).2,
      whole.serviceaddon⟩
  · rintro ⟨empty, verified, paid, coupon, handyman, taxes, package, addons⟩
    exact ⟨verified.symm, paid.symm, coupon, handyman, taxes,
      fun own booked => ⟨empty own booked, package own booked⟩, addons⟩

theorem BookingData.fromJson_toJson_eq_none (library : DartLibrary)
    (advancePaymentAllowed : Bool) {booking : BookingData}
    (lists : ¬ ∀ package ∈ booking.bookingPackage, validateList package.serviceList = []) :
    fromJson library (booking.toJson advancePaymentAllowed) = none := by
  push Not at lists
  obtain ⟨package, booked, some_⟩ := lists
  cases held : package.serviceList with
  | none =>
      rw [held] at some_
      exact absurd rfl some_
  | some services =>
      rw [held] at some_
      obtain ⟨service, listed⟩ := List.exists_mem_of_ne_nil services some_
      exact fromJson_toJson_of_service library advancePaymentAllowed booked held listed

/-- A booking comes back unchanged exactly when nothing is in the places where the encoder
and the decoder disagree. -/
theorem booking_comesBack_iff {library : DartLibrary} (reads : library.ReadsDigits)
    (advancePaymentAllowed : Bool) (booking : BookingData) :
    booking.ComesBack library advancePaymentAllowed ↔ booking.Lossless := by
  rw [booking.lossless_iff reads]
  unfold BookingData.ComesBack
  by_cases empty : ∀ package ∈ booking.bookingPackage, validateList package.serviceList = []
  · rw [BookingData.fromJson_toJson library advancePaymentAllowed empty, Option.some.injEq]
    exact ⟨fun same => ⟨empty, same⟩, fun whole => whole.2⟩
  · rw [BookingData.fromJson_toJson_eq_none library advancePaymentAllowed empty]
    exact ⟨fun same => (nomatch same), fun whole => absurd whole.1 empty⟩

def settledBooking : BookingData where
  providerIsVerified := some 0
  amount := some 500
  paidAmount := some 500
  handyman := some [{ handyman := some { id := some 7 } }]
  taxes := some [{ title := some "VAT", value := some 25 }]
  serviceaddon := some [{ name := "Cleaning", price := 50 }]

theorem settledBooking_comesBack :
    digitsLibrary.ReadsDigits ∧ settledBooking.ComesBack digitsLibrary true := by
  refine ⟨digitsLibrary_readsDigits,
    (booking_comesBack_iff digitsLibrary_readsDigits true settledBooking).mpr ?_⟩
  exact
    { providerIsVerified := rfl
      paidAmount := rfl
      couponData := by simp [settledBooking]
      handyman := by
        simp only [settledBooking, Option.mem_some_iff, forall_eq', List.mem_singleton, forall_eq]
        exact ⟨⟨7, rfl⟩, rfl, rfl⟩
      taxes := by simp [settledBooking]
      bookingPackage := by simp [settledBooking]
      serviceaddon := by simp [settledBooking] }

/-- A hundred paid in advance of five hundred come back as five hundred. -/
theorem paidAmount_lost_counterexample :
    ¬ ∀ library : DartLibrary, library.ReadsDigits → ∀ advancePaymentAllowed booking,
      BookingData.ComesBack library advancePaymentAllowed booking := by
  intro always
  have back := always digitsLibrary digitsLibrary_readsDigits false
    { providerIsVerified := some 0, amount := some 500, paidAmount := some 100 }
  unfold BookingData.ComesBack at back
  rw [BookingData.fromJson_toJson digitsLibrary false (by simp), Option.some.injEq] at back
  have paid := congrArg BookingData.paidAmount back
  change some (500 : ℚ) = some 100 at paid
  revert paid
  decide

end FiksOpp.Codec
