/-
Building the booking-save request: the price state of `BookServiceScreen` and
the request map of `ConfirmBookingDialog`.

The total and the tax are zeroed for a free host service, the subtotal is not.
The last section says exactly when the three still agree.
-/

import FiksOpp.BookingCalculations

namespace FiksOpp.BookingRequest

open DecimalRounding
open BookingCalculations

structure BookServiceScreen where
  data : ServiceDetailResponse
  selectedPackage : Option BookingPackage := none

structure BookServiceState where
  appliedCouponData : Option CouponData := none
  bookingAmountModel : BookingAmountModel := {}
  advancePaymentAmount : ℚ := 0
  itemCount : ℤ := 1

/-- The call of `finalCalculations` in `setPrice`.  The service type and the
extra charges keep their defaults. -/
def priceArguments (screen : BookServiceScreen) (selectedServiceAddon : List Serviceaddon)
    (state : BookServiceState) : Arguments :=
  { servicePrice := validate screen.data.serviceDetail.price
    appliedCouponData := state.appliedCouponData
    serviceAddons := some selectedServiceAddon
    discount := validate screen.data.serviceDetail.discount
    taxes := screen.data.taxes
    quantity := state.itemCount
    selectedPackage := screen.selectedPackage }

/-- One activation of `setPrice`; `true` means that it calls itself again. -/
def setPricePass (decimals : ℕ) (screen : BookServiceScreen)
    (selectedServiceAddon : List Serviceaddon) (state : BookServiceState) :
    BookServiceState × Bool :=
  let amounts := finalCalculations decimals (priceArguments screen selectedServiceAddon state)
  if amounts.subTotalIsNegative then
    ({ state with bookingAmountModel := amounts, appliedCouponData := none }, true)
  else
    ({ state with
       bookingAmountModel := amounts
       advancePaymentAmount :=
         amounts.finalGrandTotalAmount *
           toDecimals decimals
             (validate screen.data.serviceDetail.advancePaymentPercentage / 100) }, false)

/-- The fields that `setPrice` leaves behind.  Without a coupon a second
activation repeats the first, so a subtotal that stays negative recurses until
the stack ends and leaves these same fields. -/
def setPrice (decimals : ℕ) (screen : BookServiceScreen)
    (selectedServiceAddon : List Serviceaddon) (state : BookServiceState) : BookServiceState :=
  match setPricePass decimals screen selectedServiceAddon state with
  | (next, true) => (setPricePass decimals screen selectedServiceAddon next).1
  | (next, false) => next

structure ConfirmBookingDialog where
  data : ServiceDetailResponse
  bookingPrice : Option ℚ
  qty : ℤ := 1
  couponCode : Option String := none
  selectedPackage : Option BookingPackage := none
  bookingAmountModel : Option BookingAmountModel := none

def confirmBookingDialog (screen : BookServiceScreen) (state : BookServiceState) :
    ConfirmBookingDialog :=
  { data := screen.data
    bookingPrice := some state.bookingAmountModel.finalGrandTotalAmount
    selectedPackage := screen.selectedPackage
    qty := state.itemCount
    couponCode := state.appliedCouponData.bind CouponData.code
    bookingAmountModel := some
      { finalCouponDiscountAmount := state.bookingAmountModel.finalCouponDiscountAmount
        finalDiscountAmount := state.bookingAmountModel.finalDiscountAmount
        finalSubTotal := state.bookingAmountModel.finalSubTotal
        subTotalIsNegative := state.bookingAmountModel.subTotalIsNegative
        finalTotalServicePrice := state.bookingAmountModel.finalTotalServicePrice
        finalTotalTax :=
          if !screen.data.serviceDetail.isFreeService then
            state.bookingAmountModel.finalTotalTax
          else 0 } }

structure PackageRequest where
  id : ℤ
  categoryId : Option ℤ
  name : String
  price : ℚ
  serviceId : List ℤ
  startDate : String
  endDate : String
  isFeatured : Bool
  packageType : String
  deriving DecidableEq, Repr

/-- The dialog's `selectedService` list after one more call of `bookServices`;
it is never cleared between the calls. -/
def selectService (selectedService : List ℤ) (package : Option BookingPackage) : List ℤ :=
  selectedService ++ (validateList (package.bind BookingPackage.serviceList)).map validate

def packageRequest (selectedService : List ℤ) (package : BookingPackage) : PackageRequest :=
  { id := validate package.id
    categoryId :=
      if package.categoryId ≠ some (-1) then some (validate package.categoryId) else none
    name := validateText package.name
    price := validate package.price
    serviceId := selectedService
    startDate := validateText package.startDate
    endDate := validateText package.endDate
    isFeatured := package.isFeatured == some 1
    packageType := validateText package.packageType }

/-- The map posted to `booking-save`; a number sent as text is its value. -/
structure BookingSaveRequest where
  id : String
  serviceId : Option ℤ
  providerId : ℤ
  customerId : ℤ
  description : String
  address : String
  date : String
  couponId : String
  amount : Option ℚ
  quantity : ℤ
  totalAmount : ℚ
  discount : Option ℚ
  bookingAddressId : Option ℤ
  type : BookingType
  bookingPackage : Option PackageRequest
  serviceAddonId : List ℤ
  amounts : Option BookingAmountJson
  bookingDate : Option String
  bookingSlot : Option String
  bookingDay : Option String
  tax : Option (List TaxData)
  status : BookingStatus
  deriving DecidableEq, Repr

def bookServices (decimals : ℕ) (userId : ℤ) (selectedServiceAddon : List Serviceaddon)
    (selectedService : List ℤ) (dialog : ConfirmBookingDialog) : BookingSaveRequest :=
  let service := dialog.data.serviceDetail
  let whenSlot (text : Option String) :=
    if service.isSlotAvailable then some (validateText text) else none
  { id := ""
    serviceId := service.id
    providerId := validate dialog.data.providerId
    customerId := userId
    description := validateText service.bookingDescription
    address := validateText service.address
    date :=
      if service.isSlotAvailable then validateText service.bookingDate
      else validateText service.dateTimeVal
    couponId := validateText dialog.couponCode
    amount :=
      match dialog.selectedPackage with
      | some package => package.price
      | none => service.price
    quantity := dialog.qty
    totalAmount :=
      if !service.isFreeService then toDecimals decimals (validate dialog.bookingPrice) else 0
    discount := service.discount
    bookingAddressId :=
      if service.bookingAddressId ≠ some (-1) then service.bookingAddressId else none
    type := .service
    bookingPackage := dialog.selectedPackage.map
      (packageRequest (selectService selectedService dialog.selectedPackage))
    serviceAddonId := selectedServiceAddon.map Serviceaddon.id
    amounts := dialog.bookingAmountModel.map BookingAmountModel.toJson
    bookingDate := whenSlot service.bookingDate
    bookingSlot := whenSlot service.bookingSlot
    bookingDay := whenSlot service.bookingDay
    tax :=
      if !service.isFreeService && !(validateList dialog.data.taxes).isEmpty then
        dialog.data.taxes
      else none
    status := .waitingAdvancedPayment }

/-! ### The price state after `setPrice` -/

/-- `setPrice` keeps the coupon unless it drives the subtotal below zero. -/
def keptCoupon (decimals : ℕ) (screen : BookServiceScreen)
    (selectedServiceAddon : List Serviceaddon) (state : BookServiceState) : Option CouponData :=
  if (finalCalculations decimals
      (priceArguments screen selectedServiceAddon state)).subTotalIsNegative then none
  else state.appliedCouponData

theorem setPrice_bookingAmountModel (decimals : ℕ) (screen : BookServiceScreen)
    (selectedServiceAddon : List Serviceaddon) (state : BookServiceState) :
    (setPrice decimals screen selectedServiceAddon state).bookingAmountModel =
      finalCalculations decimals (priceArguments screen selectedServiceAddon
        { state with
          appliedCouponData := keptCoupon decimals screen selectedServiceAddon state }) := by
  by_cases negative : (finalCalculations decimals
      (priceArguments screen selectedServiceAddon state)).subTotalIsNegative = true
  · simp only [setPrice, setPricePass, keptCoupon, negative, if_true]
    split <;> rfl
  · rw [Bool.not_eq_true] at negative
    simp only [setPrice, setPricePass, keptCoupon, negative, Bool.false_eq_true, if_false]

def TotalAgrees (decimals : ℕ) (request : BookingSaveRequest) : Prop :=
  ∃ amounts, request.amounts = some amounts ∧
    request.totalAmount = toDecimals decimals (amounts.finalSubTotal + amounts.finalTotalTax)

/-- What a free host service still costs: the package price, less the coupon,
plus the add-ons. -/
def freeHostCharge (decimals : ℕ) (package : Option BookingPackage)
    (selectedServiceAddon : List Serviceaddon) (coupon : Option CouponData) : ℚ :=
  let price :=
    match package with
    | some chosen => toDecimals decimals (validate chosen.price)
    | none => 0
  price - calculateCouponDiscount decimals coupon price +
    serviceAddonAmount (some selectedServiceAddon)

/-- Nothing is owed beside the free service.  A coupon that exceeds the charge
is dropped before the amounts are sent. -/
def NothingElseOwed (decimals : ℕ) (package : Option BookingPackage)
    (selectedServiceAddon : List Serviceaddon) (coupon : Option CouponData) : Prop :=
  if freeHostCharge decimals package selectedServiceAddon coupon < 0 then
    toDecimals decimals (freeHostCharge decimals package selectedServiceAddon none) = 0
  else toDecimals decimals (freeHostCharge decimals package selectedServiceAddon coupon) = 0

/-- Price and discount of a free host service vanish, whichever package,
quantity, tax and discount are set. -/
theorem exactSubTotal_of_free (decimals : ℕ) (screen : BookServiceScreen)
    (selectedServiceAddon : List Serviceaddon) (state : BookServiceState)
    (free : screen.data.serviceDetail.isFreeService = true) :
    exactSubTotal decimals (priceArguments screen selectedServiceAddon state) =
      freeHostCharge decimals screen.selectedPackage selectedServiceAddon
        state.appliedCouponData := by
  have noPrice : validate screen.data.serviceDetail.price = 0 := by
    simpa [ServiceData.isFreeService] using free
  rw [exactSubTotal, finalCouponDiscountAmount_eq]
  cases packaged : screen.selectedPackage with
  | some package =>
      have noDiscount : (finalCalculations decimals
          (priceArguments screen selectedServiceAddon state)).finalDiscountAmount = 0 := by
        simp only [finalCalculations, priceArguments, packaged, Option.isNone_some,
          Bool.false_eq_true, false_and, if_false]
      rw [noDiscount, sub_zero]
      simp only [finalCalculations, priceArguments, totalServicePrice, packaged, freeHostCharge]
  | none =>
      have noServicePrice : (finalCalculations decimals
          (priceArguments screen selectedServiceAddon state)).finalTotalServicePrice = 0 :=
        totalServicePrice_of_free decimals _ _ noPrice packaged
      have noDiscount : (finalCalculations decimals
          (priceArguments screen selectedServiceAddon state)).finalDiscountAmount = 0 := by
        have vanishes : totalServicePrice decimals
            (priceArguments screen selectedServiceAddon state)
            (if (priceArguments screen selectedServiceAddon state).quantity = 0 then 1
              else (priceArguments screen selectedServiceAddon state).quantity) = 0 :=
          totalServicePrice_of_free decimals _ _ noPrice packaged
        simp only [finalCalculations, vanishes, zero_div, zero_mul, toDecimals_zero, ite_self]
      rw [noDiscount, noServicePrice, sub_zero]
      rfl

theorem setPrice_finalSubTotal_eq_zero_iff (decimals : ℕ) (screen : BookServiceScreen)
    (selectedServiceAddon : List Serviceaddon) (state : BookServiceState)
    (free : screen.data.serviceDetail.isFreeService = true) :
    (setPrice decimals screen selectedServiceAddon
        state).bookingAmountModel.finalSubTotal = 0 ↔
      NothingElseOwed decimals screen.selectedPackage selectedServiceAddon
        state.appliedCouponData := by
  rw [setPrice_bookingAmountModel, finalSubTotal_eq, exactSubTotal_of_free decimals screen _ _ free]
  have firstCharge := exactSubTotal_of_free decimals screen selectedServiceAddon state free
  unfold NothingElseOwed keptCoupon
  by_cases negative : freeHostCharge decimals screen.selectedPackage selectedServiceAddon
      state.appliedCouponData < 0
  · have dropped := (subTotalIsNegative_iff decimals _).mpr (firstCharge ▸ negative)
    rw [if_pos dropped, if_pos negative]
  · have kept : ¬ (finalCalculations decimals
        (priceArguments screen selectedServiceAddon state)).subTotalIsNegative = true := by
      rw [subTotalIsNegative_iff, firstCharge]
      exact negative
    rw [if_neg kept, if_neg negative]

/-- The booking-save request of the confirm dialog is internally consistent
exactly when the host service has a price or nothing else is owed. -/
theorem bookServices_totalAgrees_iff (decimals : ℕ) (userId : ℤ) (screen : BookServiceScreen)
    (pricedAddon selectedServiceAddon : List Serviceaddon) (selectedService : List ℤ)
    (state : BookServiceState) :
    TotalAgrees decimals
        (bookServices decimals userId selectedServiceAddon selectedService
          (confirmBookingDialog screen (setPrice decimals screen pricedAddon state))) ↔
      screen.data.serviceDetail.isFreeService = false ∨
        NothingElseOwed decimals screen.selectedPackage pricedAddon
          state.appliedCouponData := by
  have amountsEq := setPrice_bookingAmountModel decimals screen pricedAddon state
  have grandTotal := finalGrandTotalAmount_of_no_extraCharges decimals
    (priceArguments screen pricedAddon
      { state with appliedCouponData := keptCoupon decimals screen pricedAddon state }) rfl
  rw [← amountsEq] at grandTotal
  have subTotalGrid := finalSubTotal_onGrid decimals
    (priceArguments screen pricedAddon
      { state with appliedCouponData := keptCoupon decimals screen pricedAddon state })
  rw [← amountsEq] at subTotalGrid
  unfold TotalAgrees
  simp only [bookServices, confirmBookingDialog, Option.map_some, BookingAmountModel.toJson,
    Option.some.injEq, exists_eq_left', validate_some]
  by_cases free : screen.data.serviceDetail.isFreeService = true
  · rw [← setPrice_finalSubTotal_eq_zero_iff decimals screen pricedAddon state free]
    simp only [free, Bool.not_true, Bool.false_eq_true, if_false, add_zero,
      toDecimals_of_onGrid subTotalGrid, Bool.true_eq_false, false_or]
    exact eq_comm
  · have priced : screen.data.serviceDetail.isFreeService = false := Bool.not_eq_true _ ▸ free
    simp only [priced, Bool.not_false, if_true, grandTotal, toDecimals_toDecimals, true_or]

theorem bookServices_free_host_counterexample :
    ¬ TotalAgrees 2
      (bookServices 2 7 [] []
        (confirmBookingDialog
          { data := { serviceDetail := { id := some 4, price := some 0, type := some .fixed } }
            selectedPackage := some { id := some 9, price := some 500 } }
          (setPrice 2
            { data := { serviceDetail := { id := some 4, price := some 0, type := some .fixed } }
              selectedPackage := some { id := some 9, price := some 500 } } [] {}))) := by
  rintro ⟨amounts, present, agrees⟩
  have sent : amounts.finalSubTotal = 500 ∧ amounts.finalTotalTax = 0 := by
    cases present
    decide +kernel
  rw [sent.1, sent.2] at agrees
  revert agrees
  decide +kernel

end FiksOpp.BookingRequest
