/-
The taxes that `AppliedTaxListBottomSheet` lists beside the tax total of a booking.

`finalCalculations` puts taxes on the subtotal and the extra charges; the package view
opens the sheet with that base, the normal view with the subtotal alone.  Every tax is
rounded for itself in both places, so the totals compare tax by tax.
-/

import FiksOpp.BookingCalculations

namespace FiksOpp.AppliedTaxes

open DecimalRounding
open BookingCalculations

structure TaxedBooking where
  type : Option ServiceType := none
  bookingType : Option BookingType := none
  bookingPackage : Option BookingPackage := none
  taxes : Option (List TaxData) := none
  extraCharges : Option (List ExtraChargesModel) := none
  finalSubTotal : Option ℚ := none
  finalTotalTax : Option ℚ := none

/-- `total` of an extra charge; nothing where a field that it dereferences is missing. -/
def total (charge : ExtraChargesModel) : Option ℚ :=
  match charge.price, charge.qty with
  | some price, some qty => some (price * qty)
  | _, _ => none

def sumCharges : List ExtraChargesModel → Option ℚ
  | [] => some 0
  | charge :: rest =>
      match total charge, sumCharges rest with
      | some amount, some sum => some (amount + sum)
      | _, _ => none

namespace TaxedBooking

def totalExtraChargeAmount (booking : TaxedBooking) : Option ℚ :=
  sumCharges (validateList booking.extraCharges)

/-- The view is not empty, its build does not throw and it has the tax row. -/
def showsTaxRow (booking : TaxedBooking) : Bool :=
  !(booking.type == some .free && booking.bookingType == some .service) &&
    validate booking.finalTotalTax != 0 &&
      match booking.bookingPackage with
      | some _ => booking.totalExtraChargeAmount.isSome
      | none =>
          booking.bookingType == some .service &&
            (!(booking.type == some .hourly || booking.type == some .fixed) ||
              booking.totalExtraChargeAmount.isSome)

def sheetSubTotal (booking : TaxedBooking) : ℚ :=
  match booking.bookingPackage with
  | some _ => validate booking.finalSubTotal + validate booking.totalExtraChargeAmount
  | none => validate booking.finalSubTotal

end TaxedBooking

/-- The prices of `AppliedTaxListBottomSheet`, as they are printed. -/
def appliedTaxList (decimals : ℕ) (taxes : List TaxData) (subTotal : ℚ) : List ℚ :=
  (taxes.map (calculatedTax subTotal)).map
    fun tax => toDecimals decimals (validate tax.totalCalculatedValue)

/-- Nothing where there is no row to open the sheet from. -/
def shownTaxes (decimals : ℕ) (booking : TaxedBooking) : Option (List ℚ) :=
  if booking.showsTaxRow then
    some (appliedTaxList decimals (validateList booking.taxes) booking.sheetSubTotal)
  else none

/-- The booking whose amounts `finalCalculations` has computed. -/
structure Computed (decimals : ℕ) (args : Arguments) (booking : TaxedBooking) : Prop where
  taxes : booking.taxes = args.taxes
  extraCharges : booking.extraCharges = args.extraCharges
  finalSubTotal : booking.finalSubTotal = some (finalCalculations decimals args).finalSubTotal
  finalTotalTax : booking.finalTotalTax = some (finalCalculations decimals args).finalTotalTax

def SumsToTotal (decimals : ℕ) (booking : TaxedBooking) : Prop :=
  ∀ amounts, shownTaxes decimals booking = some amounts →
    amounts.sum = validate booking.finalTotalTax

/-! ### When the bases give the same taxes -/

def isPercent (tax : TaxData) : Bool :=
  tax.type == some .percent

def percentTax (decimals : ℕ) (subTotal : ℚ) (tax : TaxData) : ℚ :=
  toDecimals decimals (subTotal * validate tax.value / 100)

def percentTaxes (decimals : ℕ) (taxes : List TaxData) (subTotal : ℚ) : ℚ :=
  ((taxes.filter isPercent).map (percentTax decimals subTotal)).sum

/-- The percentages, each rounded, come to the same with and without the extra charges. -/
def ChargesUntaxed (decimals : ℕ) (args : Arguments) : Prop :=
  percentTaxes decimals (validateList args.taxes) (finalCalculations decimals args).finalSubTotal =
    percentTaxes decimals (validateList args.taxes)
      ((finalCalculations decimals args).finalSubTotal + totalExtraCharges args.extraCharges)

theorem appliedTaxList_onGrid (decimals : ℕ) (taxes : List TaxData) (subTotal : ℚ) :
    ∀ amount ∈ appliedTaxList decimals taxes subTotal, OnGrid decimals amount := by
  intro amount member
  obtain ⟨tax, _, rfl⟩ := List.mem_map.mp member
  exact toDecimals_onGrid decimals _

/-- The rounding of the sum has no effect. -/
theorem calculateTotalTaxAmount_eq (decimals : ℕ) (taxes : Option (List TaxData))
    (subTotal : ℚ) :
    calculateTotalTaxAmount decimals taxes subTotal =
      (appliedTaxList decimals (validateList taxes) subTotal).sum :=
  toDecimals_of_onGrid (onGrid_sum (appliedTaxList_onGrid decimals _ subTotal))

theorem appliedTaxList_sum (decimals : ℕ) (taxes : List TaxData) (subTotal : ℚ) :
    (appliedTaxList decimals taxes subTotal).sum =
      percentTaxes decimals taxes subTotal +
        ((taxes.filter fun tax => !isPercent tax).map
          fun tax => toDecimals decimals (validate tax.value)).sum := by
  induction taxes with
  | nil => exact (add_zero (0 : ℚ)).symm
  | cons tax rest ih =>
      unfold appliedTaxList percentTaxes at ih ⊢
      rw [List.map_cons, List.map_cons, List.sum_cons, ih]
      by_cases percent : tax.type = some .percent
      · have kept : isPercent tax = true := beq_iff_eq.mpr percent
        rw [List.filter_cons_of_pos kept, List.filter_cons_of_neg (by rw [kept]; decide),
          List.map_cons, List.sum_cons]
        unfold calculatedTax
        rw [if_pos percent]
        exact (add_assoc _ _ _).symm
      · have dropped : isPercent tax = false := beq_eq_false_iff_ne.mpr percent
        rw [List.filter_cons_of_neg (by rw [dropped]; decide),
          List.filter_cons_of_pos (by rw [dropped]; rfl), List.map_cons, List.sum_cons]
        unfold calculatedTax
        rw [if_neg percent]
        exact add_left_comm _ _ _

theorem sumCharges_eq {charges : List ExtraChargesModel} {amount : ℚ}
    (found : sumCharges charges = some amount) :
    (charges.map fun charge => validate charge.price * charge.qty.getD 1).sum = amount := by
  induction charges generalizing amount with
  | nil => exact Option.some.inj found
  | cons charge rest ih =>
      unfold sumCharges at found
      split at found
      · rename_i first sum firstTotal restTotal
        rw [List.map_cons, List.sum_cons, ih restTotal, ← Option.some.inj found]
        unfold total at firstTotal
        split at firstTotal
        · rename_i price qty hasPrice hasQty
          rw [hasPrice, hasQty, ← Option.some.inj firstTotal]
          rfl
        · cases firstTotal
      · cases found

section Computed

variable {decimals : ℕ} {args : Arguments} {booking : TaxedBooking}

theorem finalTotalTax_eq (computed : Computed decimals args booking) :
    validate booking.finalTotalTax =
      (appliedTaxList decimals (validateList args.taxes)
        ((finalCalculations decimals args).finalSubTotal +
          totalExtraCharges args.extraCharges)).sum := by
  rw [computed.finalTotalTax, validate_some, ← calculateTotalTaxAmount_eq]
  rfl

theorem shownTaxes_of_package (computed : Computed decimals args booking)
    (package : booking.bookingPackage.isSome = true) : SumsToTotal decimals booking := by
  intro amounts shown
  obtain ⟨chosen, packaged⟩ := Option.isSome_iff_exists.mp package
  unfold shownTaxes at shown
  split at shown
  · rename_i row
    unfold TaxedBooking.showsTaxRow at row
    rw [packaged] at row
    obtain ⟨amount, charged⟩ :=
      Option.isSome_iff_exists.mp (Bool.and_eq_true_iff.mp row).2
    have sum := sumCharges_eq charged
    rw [finalTotalTax_eq computed, ← Option.some.inj shown]
    unfold TaxedBooking.sheetSubTotal totalExtraCharges
    rw [packaged, computed.taxes, computed.finalSubTotal, charged, ← computed.extraCharges, sum]
    rfl
  · cases shown

theorem shownTaxes_of_normal (computed : Computed decimals args booking)
    (normal : booking.bookingPackage = none) (row : booking.showsTaxRow = true) :
    SumsToTotal decimals booking ↔ ChargesUntaxed decimals args := by
  have opened : shownTaxes decimals booking =
      some (appliedTaxList decimals (validateList args.taxes)
        (finalCalculations decimals args).finalSubTotal) := by
    unfold shownTaxes TaxedBooking.sheetSubTotal
    rw [if_pos row, normal, computed.taxes, computed.finalSubTotal]
    rfl
  have sums : (appliedTaxList decimals (validateList args.taxes)
      (finalCalculations decimals args).finalSubTotal).sum = validate booking.finalTotalTax ↔
        ChargesUntaxed decimals args := by
    rw [finalTotalTax_eq computed, appliedTaxList_sum, appliedTaxList_sum]
    exact add_left_inj _
  rw [← sums]
  constructor
  · intro all
    exact all _ opened
  · intro same amounts shown
    rw [opened] at shown
    rw [← Option.some.inj shown]
    exact same

end Computed

theorem sum_map_eq_iff_of_le {α : Type*} {items : List α} {left right : α → ℚ}
    (below : ∀ item ∈ items, left item ≤ right item) :
    (items.map left).sum = (items.map right).sum ↔ ∀ item ∈ items, left item = right item := by
  induction items with
  | nil => exact iff_of_true rfl fun _ impossible => absurd impossible List.not_mem_nil
  | cons first rest ih =>
      have here := below first List.mem_cons_self
      have later := fun item member => below item (List.mem_cons_of_mem first member)
      have sums : (rest.map left).sum ≤ (rest.map right).sum := List.sum_le_sum later
      rw [List.forall_mem_cons, ← ih later, List.map_cons, List.map_cons, List.sum_cons,
        List.sum_cons]
      constructor
      · intro same
        exact ⟨by linarith, by linarith⟩
      · intro both
        rw [both.1, both.2]

/-- With percentages that are not negative no tax makes up for another. -/
theorem chargesUntaxed_iff (decimals : ℕ) (args : Arguments)
    (nonneg : ∀ tax ∈ validateList args.taxes, isPercent tax = true → 0 ≤ validate tax.value) :
    ChargesUntaxed decimals args ↔
      ∀ tax ∈ validateList args.taxes, isPercent tax = true →
        percentTax decimals (finalCalculations decimals args).finalSubTotal tax =
          percentTax decimals
            ((finalCalculations decimals args).finalSubTotal +
              totalExtraCharges args.extraCharges) tax := by
  have grows : ∀ less more : ℚ, less ≤ more →
      ∀ tax ∈ (validateList args.taxes).filter isPercent,
        percentTax decimals less tax ≤ percentTax decimals more tax := by
    intro less more le tax member
    obtain ⟨inside, percent⟩ := List.mem_filter.mp member
    have share := mul_le_mul_of_nonneg_right le (nonneg tax inside percent)
    exact toDecimals_mono decimals (div_le_div_of_nonneg_right share (by norm_num))
  have listed : ∀ less more : ℚ,
      (∀ tax ∈ (validateList args.taxes).filter isPercent,
        percentTax decimals less tax = percentTax decimals more tax) ↔
      ∀ tax ∈ validateList args.taxes, isPercent tax = true →
        percentTax decimals less tax = percentTax decimals more tax := by
    intro less more
    simp only [List.mem_filter, and_imp]
  rw [← listed]
  unfold ChargesUntaxed percentTaxes
  rcases le_total 0 (totalExtraCharges args.extraCharges) with charged | credited
  · exact sum_map_eq_iff_of_le (grows _ _ (by linarith))
  · rw [eq_comm, sum_map_eq_iff_of_le (grows _ _ (by linarith))]
    simp only [eq_comm]

def tenPercent (extraCharge : ℚ) : Arguments :=
  { servicePrice := 100
    taxes := some [{ type := some .percent, value := some 10 }]
    extraCharges := some [{ price := some extraCharge, qty := some 1 }] }

def bookingOf (args : Arguments) : TaxedBooking :=
  { type := some .fixed
    bookingType := some .service
    taxes := args.taxes
    extraCharges := args.extraCharges
    finalSubTotal := some (finalCalculations 2 args).finalSubTotal
    finalTotalTax := some (finalCalculations 2 args).finalTotalTax }

theorem computed_bookingOf (args : Arguments) : Computed 2 args (bookingOf args) :=
  { taxes := rfl
    extraCharges := rfl
    finalSubTotal := rfl
    finalTotalTax := rfl }

end FiksOpp.AppliedTaxes
