/-
An account that collects towards a total and never past it.

The bound is a field, so an account that has collected too much cannot be
built.  A payment is acceptable when the account can take it.
-/

import Mathlib.Algebra.Order.Group.Defs
import Mathlib.Algebra.Order.Sub.Basic

namespace FiksOpp.BoundedAccount

variable {α : Type*} [AddCommGroup α] [LinearOrder α]

structure Account (α : Type*) [AddCommGroup α] [LinearOrder α] where
  total : α
  collected : α
  nonneg : 0 ≤ collected
  within : collected ≤ total

/-- The amount is no refund and still fits under the total. -/
def Acceptable (total collected amount : α) : Prop :=
  0 ≤ amount ∧ amount + collected ≤ total

instance (total collected amount : α) : Decidable (Acceptable total collected amount) :=
  inferInstanceAs (Decidable (_ ∧ _))

namespace Account

def outstanding (account : Account α) : α :=
  account.total - account.collected

variable [IsOrderedAddMonoid α]

def collect (account : Account α) (amount : α)
    (acceptable : Acceptable account.total account.collected amount) : Account α :=
  { total := account.total
    collected := account.collected + amount
    nonneg := add_nonneg account.nonneg acceptable.1
    within := by
      rw [add_comm]
      exact acceptable.2 }

theorem outstanding_nonneg (account : Account α) : 0 ≤ account.outstanding :=
  sub_nonneg.mpr account.within

theorem outstanding_acceptable (account : Account α) :
    Acceptable account.total account.collected account.outstanding := by
  refine ⟨account.outstanding_nonneg, ?_⟩
  rw [outstanding, sub_add_cancel]

end Account

end FiksOpp.BoundedAccount
