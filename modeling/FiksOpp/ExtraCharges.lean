/-
The three totals of the extra charges of a booking.

A missing price counts as nothing in two of them and throws in the third.  A missing
quantity counts as one for `finalCalculations`, as none for the total with the charges,
and throws in `total`.
-/

import FiksOpp.AppliedTaxes

namespace FiksOpp.ExtraCharges

open BookingCalculations
open AppliedTaxes

structure ChargedBooking where
  totalAmount : Option ℚ := none
  extraCharges : Option (List ExtraChargesModel) := none

namespace ChargedBooking

/-- Nothing where a charge lacks a field. -/
def totalExtraChargeAmount (booking : ChargedBooking) : Option ℚ :=
  sumCharges (validateList booking.extraCharges)

def totalAmountWithExtraCharges (booking : ChargedBooking) : ℚ :=
  validate booking.totalAmount +
    ((validateList booking.extraCharges).map
      fun charge => validate charge.qty * validate charge.price).sum

end ChargedBooking

def Complete (charge : ExtraChargesModel) : Prop :=
  charge.price.isSome = true ∧ charge.qty.isSome = true

theorem total_isSome_iff (charge : ExtraChargesModel) :
    (total charge).isSome = true ↔ Complete charge := by
  unfold total Complete
  cases charge.price with
  | none => exact iff_of_false Bool.false_ne_true (fun both => Bool.false_ne_true both.1)
  | some price =>
      cases charge.qty with
      | none => exact iff_of_false Bool.false_ne_true (fun both => Bool.false_ne_true both.2)
      | some qty => exact iff_of_true rfl ⟨rfl, rfl⟩

theorem sumCharges_isSome_iff (charges : List ExtraChargesModel) :
    (sumCharges charges).isSome = true ↔ ∀ charge ∈ charges, Complete charge := by
  induction charges with
  | nil => exact iff_of_true rfl (fun charge member => nomatch member)
  | cons charge rest ih =>
      rw [List.forall_mem_cons, ← ih, ← total_isSome_iff, sumCharges]
      cases total charge with
      | none => exact iff_of_false Bool.false_ne_true (fun both => Bool.false_ne_true both.1)
      | some amount =>
          cases sumCharges rest with
          | none => exact iff_of_false Bool.false_ne_true (fun both => Bool.false_ne_true both.2)
          | some sum => exact iff_of_true rfl ⟨rfl, rfl⟩

/-- What the total with the charges leaves out against `finalCalculations`: the prices of
the charges without a quantity. -/
theorem sum_qty_price_add (charges : List ExtraChargesModel) :
    (charges.map fun charge => validate charge.qty * validate charge.price).sum +
        (charges.map fun charge => if charge.qty = none then validate charge.price else 0).sum =
      (charges.map fun charge => validate charge.price * charge.qty.getD 1).sum := by
  induction charges with
  | nil => exact add_zero 0
  | cons charge rest ih =>
      simp only [List.map_cons, List.sum_cons]
      rw [← ih]
      cases charge.qty with
      | none =>
          rw [validate_none, if_pos rfl, Option.getD_none]
          ring
      | some qty =>
          rw [validate_some, if_neg (fun impossible => nomatch impossible), Option.getD_some]
          ring

theorem sum_unquantified_of_complete {charges : List ExtraChargesModel}
    (complete : ∀ charge ∈ charges, Complete charge) :
    (charges.map fun charge => if charge.qty = none then validate charge.price else 0).sum =
      0 := by
  apply List.sum_eq_zero
  intro amount member
  obtain ⟨charge, inside, rfl⟩ := List.mem_map.mp member
  have present := (complete charge inside).2
  rw [if_neg]
  intro missing
  rw [missing] at present
  cases present

end FiksOpp.ExtraCharges
