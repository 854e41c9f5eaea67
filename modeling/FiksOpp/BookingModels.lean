/-
Response models of the booking flow.

Amounts are exact rationals.  Each record keeps the fields that the modelled
screens read; nullable fields stay optional, and the getters carry the source's
defaults.
-/

import FiksOpp.Constants

namespace FiksOpp

structure TaxData where
  title : Option String := none
  type : Option TaxType := none
  value : Option ℚ := none
  totalCalculatedValue : Option ℚ := none
  deriving DecidableEq, Repr

structure CouponData where
  code : Option String := none
  discount : Option ℚ := none
  discountType : Option CouponType := none
  deriving DecidableEq, Repr

structure ExtraChargesModel where
  price : Option ℚ := none
  qty : Option ℚ := none
  deriving DecidableEq, Repr

/-- The decoder fills every field, so none is optional. -/
structure Serviceaddon where
  id : ℤ := -1
  price : ℚ := 0
  deriving DecidableEq, Repr

structure BookingPackage where
  id : Option ℤ := none
  name : Option String := none
  price : Option ℚ := none
  startDate : Option String := none
  endDate : Option String := none
  serviceList : Option (List (Option ℤ)) := none
  isFeatured : Option ℤ := none
  categoryId : Option ℤ := none
  packageType : Option String := none
  deriving DecidableEq, Repr

structure ServiceData where
  id : Option ℤ := none
  price : Option ℚ := none
  discount : Option ℚ := none
  type : Option ServiceType := none
  isSlot : Option ℚ := none
  bookingDate : Option String := none
  bookingDay : Option String := none
  bookingSlot : Option String := none
  dateTimeVal : Option String := none
  bookingDescription : Option String := none
  address : Option String := none
  bookingAddressId : Option ℤ := none
  isEnableAdvancePayment : Option ℚ := none
  advancePaymentPercentage : Option ℚ := none
  servicePackage : Option (List BookingPackage) := none
  deriving DecidableEq, Repr

namespace ServiceData

def isSlotAvailable (service : ServiceData) : Bool :=
  validate service.isSlot == 1

def isFixedService (service : ServiceData) : Bool :=
  service.type == some .fixed

def isFreeService (service : ServiceData) : Bool :=
  validate service.price == 0

/-- `advancePaymentAllowed` is the preference `IS_ADVANCE_PAYMENT_ALLOWED`. -/
def isAdvancePayment (advancePaymentAllowed : Bool) (service : ServiceData) : Bool :=
  validate service.isEnableAdvancePayment == 1 && advancePaymentAllowed &&
    (validateList service.servicePackage).isEmpty

end ServiceData

/-- The loaded detail page; the booking screens dereference `serviceDetail`. -/
structure ServiceDetailResponse where
  serviceDetail : ServiceData
  providerId : Option ℤ := none
  taxes : Option (List TaxData) := none
  deriving DecidableEq, Repr

structure BookingData where
  id : Option ℤ := none
  serviceId : Option ℤ := none
  serviceName : Option String := none
  type : Option ServiceType := none
  status : Option BookingStatus := none
  paymentStatus : Option ServicePaymentStatus := none
  paymentMethod : Option PaymentMethod := none
  paymentId : Option ℤ := none
  totalAmount : Option ℚ := none
  amount : Option ℚ := none
  paidAmount : Option ℚ := none
  bookingPackage : Option BookingPackage := none
  deriving DecidableEq, Repr

def BookingData.isFreeService (booking : BookingData) : Bool :=
  booking.type == some .free

structure BookingDetailResponse where
  bookingDetail : BookingData
  service : Option ServiceData := none
  deriving DecidableEq, Repr

end FiksOpp
