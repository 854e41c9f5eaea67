/-
The actions of `FilterStore` and the flag that says whether a filter is applied.

The `addTo…` actions and `clearFilters` compute `isAnyFilterApplied` anew; the
setters and the `removeFrom…` actions leave it as it was.  `clearFilters` names
thirteen of the seventeen fields.
-/

import FiksOpp.Foundations.CellStore
import FiksOpp.Foundations.EventRun
import Mathlib.Data.Int.Notation

namespace FiksOpp.FilterActions

open CellStore
open EventRun

inductive FilterField where
  | serviceId
  | customerId
  | providerId
  | handymanId
  | bookingStatus
  | paymentStatus
  | paymentType
  | startDate
  | endDate
  | ratingId
  | categoryId
  | selectedSubCategoryId
  | isPriceMax
  | isPriceMin
  | search
  | latitude
  | longitude
  deriving DecidableEq, Repr

namespace FilterField

@[reducible] def Value : FilterField → Type
  | .serviceId => List ℤ
  | .customerId => List ℤ
  | .providerId => List ℤ
  | .handymanId => List ℤ
  | .bookingStatus => List String
  | .paymentStatus => List String
  | .paymentType => List String
  | .startDate => String
  | .endDate => String
  | .ratingId => List ℤ
  | .categoryId => List ℤ
  | .selectedSubCategoryId => ℤ
  | .isPriceMax => String
  | .isPriceMin => String
  | .search => String
  | .latitude => String
  | .longitude => String

def initial : (field : FilterField) → field.Value
  | .serviceId => []
  | .customerId => []
  | .providerId => []
  | .handymanId => []
  | .bookingStatus => []
  | .paymentStatus => []
  | .paymentType => []
  | .startDate => ""
  | .endDate => ""
  | .ratingId => []
  | .categoryId => []
  | .selectedSubCategoryId => 0
  | .isPriceMax => ""
  | .isPriceMin => ""
  | .search => ""
  | .latitude => ""
  | .longitude => ""

def isSet : (field : FilterField) → field.Value → Bool
  | .serviceId, ids => !ids.isEmpty
  | .customerId, ids => !ids.isEmpty
  | .providerId, ids => !ids.isEmpty
  | .handymanId, ids => !ids.isEmpty
  | .bookingStatus, texts => !texts.isEmpty
  | .paymentStatus, texts => !texts.isEmpty
  | .paymentType, texts => !texts.isEmpty
  | .startDate, text => !text.isEmpty
  | .endDate, text => !text.isEmpty
  | .ratingId, ids => !ids.isEmpty
  | .categoryId, ids => !ids.isEmpty
  | .selectedSubCategoryId, id => id != 0
  | .isPriceMax, text => !text.isEmpty
  | .isPriceMin, text => !text.isEmpty
  | .search, text => !text.isEmpty
  | .latitude, text => !text.isEmpty
  | .longitude, text => !text.isEmpty

theorem isSet_initial (field : FilterField) : field.isSet field.initial = false := by
  cases field <;> rfl

end FilterField

open FilterField

structure FilterStore where
  value : ∀ field, Value field
  isAnyFilterApplied : Bool

def newFilterStore : FilterStore :=
  { value := initial, isAnyFilterApplied := false }

namespace FilterStore

def holds (store : FilterStore) (field : FilterField) : Bool :=
  field.isSet (store.value field)

def AnySet (store : FilterStore) : Prop :=
  ∃ field, store.holds field = true

def updateFilterFlag (store : FilterStore) : FilterStore :=
  { store with
    isAnyFilterApplied :=
      !(store.value .serviceId).isEmpty ||
        !(store.value .customerId).isEmpty ||
        !(store.value .providerId).isEmpty ||
        !(store.value .handymanId).isEmpty ||
        !(store.value .bookingStatus).isEmpty ||
        !(store.value .paymentStatus).isEmpty ||
        !(store.value .paymentType).isEmpty ||
        !(store.value .startDate).isEmpty ||
        !(store.value .endDate).isEmpty ||
        !(store.value .ratingId).isEmpty ||
        !(store.value .categoryId).isEmpty ||
        store.value .selectedSubCategoryId != 0 ||
        !(store.value .isPriceMax).isEmpty ||
        !(store.value .isPriceMin).isEmpty ||
        !(store.value .search).isEmpty ||
        !(store.value .latitude).isEmpty ||
        !(store.value .longitude).isEmpty }

def write (store : FilterStore) (change : Write Value) : FilterStore :=
  { store with value := change.apply store.value }

def addTo (change : Write Value) (store : FilterStore) : FilterStore :=
  (store.write change).updateFilterFlag

def without {Entry : Type} [DecidableEq Entry] (entry : Entry) (entries : List Entry) :
    List Entry :=
  entries.filter (· ≠ entry)

/-! ### The actions -/

def setStartDate (val : String) (store : FilterStore) : FilterStore :=
  store.write (Write.set .startDate val)

def setEndDate (val : String) (store : FilterStore) : FilterStore :=
  store.write (Write.set .endDate val)

def addToServiceList (serId : ℤ) : FilterStore → FilterStore :=
  addTo { cell := .serviceId, update := fun serviceId => serviceId ++ [serId] }

def removeFromServiceList (serId : ℤ) (store : FilterStore) : FilterStore :=
  store.write { cell := .serviceId, update := without serId }

def addToCustomerList (cusId : ℤ) : FilterStore → FilterStore :=
  addTo { cell := .customerId, update := fun customerId => customerId ++ [cusId] }

def removeFromCustomerList (cusId : ℤ) (store : FilterStore) : FilterStore :=
  store.write { cell := .customerId, update := without cusId }

def addToBookingStatusList (status : String) : FilterStore → FilterStore :=
  addTo { cell := .bookingStatus, update := fun bookingStatus => bookingStatus ++ [status] }

def removeFromBookingStatusList (status : String) (store : FilterStore) : FilterStore :=
  store.write { cell := .bookingStatus, update := without status }

def addToPaymentStatusList (status : String) : FilterStore → FilterStore :=
  addTo { cell := .paymentStatus, update := fun paymentStatus => paymentStatus ++ [status] }

def removeFromPaymentStatusList (status : String) (store : FilterStore) : FilterStore :=
  store.write { cell := .paymentStatus, update := without status }

def addToPaymentTypeList (type : String) : FilterStore → FilterStore :=
  addTo { cell := .paymentType, update := fun paymentType => paymentType ++ [type] }

def removeFromPaymentTypeList (type : String) (store : FilterStore) : FilterStore :=
  store.write { cell := .paymentType, update := without type }

def addToProviderList (prodId : ℤ) : FilterStore → FilterStore :=
  addTo { cell := .providerId, update := fun providerId => providerId ++ [prodId] }

def removeFromProviderList (prodId : ℤ) (store : FilterStore) : FilterStore :=
  store.write { cell := .providerId, update := without prodId }

def addToCategoryIdList (prodId : ℤ) : FilterStore → FilterStore :=
  addTo { cell := .categoryId, update := fun categoryId => categoryId ++ [prodId] }

def setSelectedSubCategory (catId : ℤ) (store : FilterStore) : FilterStore :=
  store.write (Write.set .selectedSubCategoryId catId)

def removeFromCategoryIdList (prodId : ℤ) (store : FilterStore) : FilterStore :=
  store.write { cell := .categoryId, update := without prodId }

def addToHandymanList (prodId : ℤ) : FilterStore → FilterStore :=
  addTo { cell := .handymanId, update := fun handymanId => handymanId ++ [prodId] }

def removeFromHandymanList (prodId : ℤ) (store : FilterStore) : FilterStore :=
  store.write { cell := .handymanId, update := without prodId }

/-- Unlike the other lists, the ratings are replaced. -/
def addToRatingId (prodId : List ℤ) : FilterStore → FilterStore :=
  addTo (Write.set .ratingId prodId)

def removeFromRatingId (prodId : ℤ) (store : FilterStore) : FilterStore :=
  store.write { cell := .ratingId, update := without prodId }

def cleared : List FilterField :=
  [.customerId, .serviceId, .providerId, .handymanId, .bookingStatus, .paymentType,
    .paymentStatus, .startDate, .endDate, .ratingId, .categoryId, .isPriceMax, .isPriceMin]

def clearFilters (store : FilterStore) : FilterStore :=
  updateFilterFlag
    { store with
      value := applyAll (cleared.map fun field => Write.set field field.initial) store.value }

def setMaxPrice (val : String) (store : FilterStore) : FilterStore :=
  store.write (Write.set .isPriceMax val)

def setMinPrice (val : String) (store : FilterStore) : FilterStore :=
  store.write (Write.set .isPriceMin val)

def setSearch (val : String) (store : FilterStore) : FilterStore :=
  store.write (Write.set .search val)

def setLatitude (val : String) (store : FilterStore) : FilterStore :=
  store.write (Write.set .latitude val)

def setLongitude (val : String) (store : FilterStore) : FilterStore :=
  store.write (Write.set .longitude val)

def getActiveFilterCount (store : FilterStore) : Nat :=
  (if !(store.value .startDate).isEmpty then 1 else 0) +
    (if !(store.value .endDate).isEmpty then 1 else 0) +
    (store.value .serviceId).length +
    (store.value .providerId).length +
    (store.value .handymanId).length +
    (store.value .bookingStatus).length +
    (store.value .paymentStatus).length +
    (store.value .paymentType).length

end FilterStore

open FilterStore

inductive FilterAction where
  | setStartDate (val : String)
  | setEndDate (val : String)
  | addToServiceList (serId : ℤ)
  | removeFromServiceList (serId : ℤ)
  | addToCustomerList (cusId : ℤ)
  | removeFromCustomerList (cusId : ℤ)
  | addToBookingStatusList (status : String)
  | removeFromBookingStatusList (status : String)
  | addToPaymentStatusList (status : String)
  | removeFromPaymentStatusList (status : String)
  | addToPaymentTypeList (type : String)
  | removeFromPaymentTypeList (type : String)
  | addToProviderList (prodId : ℤ)
  | removeFromProviderList (prodId : ℤ)
  | addToCategoryIdList (prodId : ℤ)
  | setSelectedSubCategory (catId : ℤ)
  | removeFromCategoryIdList (prodId : ℤ)
  | addToHandymanList (prodId : ℤ)
  | removeFromHandymanList (prodId : ℤ)
  | addToRatingId (prodId : List ℤ)
  | removeFromRatingId (prodId : ℤ)
  | clearFilters
  | setMaxPrice (val : String)
  | setMinPrice (val : String)
  | setSearch (val : String)
  | setLatitude (val : String)
  | setLongitude (val : String)
  | updateFilterFlag
  deriving DecidableEq, Repr

def FilterStore.next (store : FilterStore) : FilterAction → FilterStore
  | .setStartDate val => store.setStartDate val
  | .setEndDate val => store.setEndDate val
  | .addToServiceList serId => store.addToServiceList serId
  | .removeFromServiceList serId => store.removeFromServiceList serId
  | .addToCustomerList cusId => store.addToCustomerList cusId
  | .removeFromCustomerList cusId => store.removeFromCustomerList cusId
  | .addToBookingStatusList status => store.addToBookingStatusList status
  | .removeFromBookingStatusList status => store.removeFromBookingStatusList status
  | .addToPaymentStatusList status => store.addToPaymentStatusList status
  | .removeFromPaymentStatusList status => store.removeFromPaymentStatusList status
  | .addToPaymentTypeList type => store.addToPaymentTypeList type
  | .removeFromPaymentTypeList type => store.removeFromPaymentTypeList type
  | .addToProviderList prodId => store.addToProviderList prodId
  | .removeFromProviderList prodId => store.removeFromProviderList prodId
  | .addToCategoryIdList prodId => store.addToCategoryIdList prodId
  | .setSelectedSubCategory catId => store.setSelectedSubCategory catId
  | .removeFromCategoryIdList prodId => store.removeFromCategoryIdList prodId
  | .addToHandymanList prodId => store.addToHandymanList prodId
  | .removeFromHandymanList prodId => store.removeFromHandymanList prodId
  | .addToRatingId prodId => store.addToRatingId prodId
  | .removeFromRatingId prodId => store.removeFromRatingId prodId
  | .clearFilters => store.clearFilters
  | .setMaxPrice val => store.setMaxPrice val
  | .setMinPrice val => store.setMinPrice val
  | .setSearch val => store.setSearch val
  | .setLatitude val => store.setLatitude val
  | .setLongitude val => store.setLongitude val
  | .updateFilterFlag => store.updateFilterFlag

def machine : Machine FilterStore FilterAction Empty :=
  { next := FilterStore.next
    outputs := fun _ _ => [] }

namespace FilterStore

/-- The flag says whether a filter is set. -/
def FlagHonest (store : FilterStore) : Prop :=
  store.isAnyFilterApplied = true ↔ store.AnySet

theorem flagHonest_newFilterStore : FlagHonest newFilterStore := by
  constructor
  · intro applied
    cases applied
  · rintro ⟨field, set⟩
    unfold holds newFilterStore at set
    rw [isSet_initial] at set
    cases set

theorem flagHonest_updateFilterFlag (store : FilterStore) :
    store.updateFilterFlag.FlagHonest := by
  unfold FlagHonest updateFilterFlag AnySet holds
  dsimp only
  simp only [Bool.or_eq_true]
  constructor
  · rintro ((((((((((((((((set | set) | set) | set) | set) | set) | set) | set) | set) | set) |
      set) | set) | set) | set) | set) | set) | set)
    · exact ⟨.serviceId, set⟩
    · exact ⟨.customerId, set⟩
    · exact ⟨.providerId, set⟩
    · exact ⟨.handymanId, set⟩
    · exact ⟨.bookingStatus, set⟩
    · exact ⟨.paymentStatus, set⟩
    · exact ⟨.paymentType, set⟩
    · exact ⟨.startDate, set⟩
    · exact ⟨.endDate, set⟩
    · exact ⟨.ratingId, set⟩
    · exact ⟨.categoryId, set⟩
    · exact ⟨.selectedSubCategoryId, set⟩
    · exact ⟨.isPriceMax, set⟩
    · exact ⟨.isPriceMin, set⟩
    · exact ⟨.search, set⟩
    · exact ⟨.latitude, set⟩
    · exact ⟨.longitude, set⟩
  · rintro ⟨field, set⟩
    cases field <;> simp only [isSet] at set <;> simp only [set, true_or, or_true]

def bookingFilters : List FilterField :=
  [.startDate, .endDate, .serviceId, .providerId, .handymanId, .bookingStatus, .paymentStatus,
    .paymentType]

def CountHonest (store : FilterStore) : Prop :=
  store.getActiveFilterCount = 0 ↔ ∀ field ∈ bookingFilters, store.holds field = false

private theorem dateCount_eq_zero (date : String) :
    (if !date.isEmpty then 1 else 0) = 0 ↔ date.isEmpty = true := by
  cases date.isEmpty <;> simp

theorem countHonest (store : FilterStore) : store.CountHonest := by
  unfold CountHonest getActiveFilterCount bookingFilters holds
  simp only [Nat.add_eq_zero_iff, and_assoc, dateCount_eq_zero, List.length_eq_zero_iff]
  simp only [List.forall_mem_cons, List.not_mem_nil, false_implies, implies_true, and_true,
    isSet, Bool.not_eq_false', List.isEmpty_iff]

/-! ### What an action leaves -/

/-- The field of an action that leaves the flag alone, and whether the action leaves
something in it. -/
def unflagged (store : FilterStore) : FilterAction → Option (FilterField × Bool)
  | .setStartDate val => some (.startDate, !val.isEmpty)
  | .setEndDate val => some (.endDate, !val.isEmpty)
  | .removeFromServiceList serId => some (.serviceId, (store.value .serviceId).any (· ≠ serId))
  | .removeFromCustomerList cusId =>
      some (.customerId, (store.value .customerId).any (· ≠ cusId))
  | .removeFromBookingStatusList status =>
      some (.bookingStatus, (store.value .bookingStatus).any (· ≠ status))
  | .removeFromPaymentStatusList status =>
      some (.paymentStatus, (store.value .paymentStatus).any (· ≠ status))
  | .removeFromPaymentTypeList type =>
      some (.paymentType, (store.value .paymentType).any (· ≠ type))
  | .removeFromProviderList prodId =>
      some (.providerId, (store.value .providerId).any (· ≠ prodId))
  | .setSelectedSubCategory catId => some (.selectedSubCategoryId, catId != 0)
  | .removeFromCategoryIdList prodId =>
      some (.categoryId, (store.value .categoryId).any (· ≠ prodId))
  | .removeFromHandymanList prodId =>
      some (.handymanId, (store.value .handymanId).any (· ≠ prodId))
  | .removeFromRatingId prodId => some (.ratingId, (store.value .ratingId).any (· ≠ prodId))
  | .setMaxPrice val => some (.isPriceMax, !val.isEmpty)
  | .setMinPrice val => some (.isPriceMin, !val.isEmpty)
  | .setSearch val => some (.search, !val.isEmpty)
  | .setLatitude val => some (.latitude, !val.isEmpty)
  | .setLongitude val => some (.longitude, !val.isEmpty)
  | _ => none

def OthersSet (store : FilterStore) (field : FilterField) : Prop :=
  ∃ other, other ≠ field ∧ store.holds other = true

/-- The action keeps the flag honest: it computes the flag, or its field is set
afterwards just if it was before, or the field does not matter.  A clearing also
finds nothing in the fields it does not name. -/
def KeepsFlag (store : FilterStore) (action : FilterAction) : Prop :=
  (∀ field leaves, store.unflagged action = some (field, leaves) →
    store.OthersSet field ∨ leaves = store.holds field) ∧
  (action = .clearFilters →
    store.holds .selectedSubCategoryId = false ∧ store.holds .search = false ∧
      store.holds .latitude = false ∧ store.holds .longitude = false)

theorem isEmpty_without {Entry : Type} [DecidableEq Entry] (entry : Entry)
    (entries : List Entry) :
    (!(without entry entries).isEmpty) = entries.any (· ≠ entry) := by
  unfold without
  induction entries with
  | nil => rfl
  | cons head tail ih =>
      by_cases same : head = entry
      · rw [List.filter_cons_of_neg (by simp [same]), ih, List.any_cons]
        simp [same]
      · rw [List.filter_cons_of_pos (by simp [same]), List.any_cons]
        simp [same]

theorem anySet_iff (store : FilterStore) (field : FilterField) :
    store.AnySet ↔ store.holds field = true ∨ store.OthersSet field := by
  constructor
  · rintro ⟨other, set⟩
    by_cases same : other = field
    · subst same
      exact Or.inl set
    · exact Or.inr ⟨other, same, set⟩
  · rintro (set | ⟨other, _, set⟩)
    · exact ⟨field, set⟩
    · exact ⟨other, set⟩

theorem holds_write_self (store : FilterStore) (change : Write Value) :
    (store.write change).holds change.cell =
      change.cell.isSet (change.update (store.value change.cell)) := by
  unfold holds write
  dsimp only
  rw [Write.apply_same]

theorem holds_write_of_ne (store : FilterStore) {change : Write Value} {field : FilterField}
    (other : field ≠ change.cell) : (store.write change).holds field = store.holds field := by
  unfold holds write
  dsimp only
  rw [Write.apply_of_ne other]

theorem othersSet_write (store : FilterStore) (change : Write Value) :
    (store.write change).OthersSet change.cell ↔ store.OthersSet change.cell := by
  constructor
  · rintro ⟨other, different, set⟩
    rw [holds_write_of_ne store different] at set
    exact ⟨other, different, set⟩
  · rintro ⟨other, different, set⟩
    refine ⟨other, different, ?_⟩
    rw [holds_write_of_ne store different]
    exact set

theorem next_of_unflagged {store : FilterStore} {action : FilterAction} {field : FilterField}
    {leaves : Bool} (silent : store.unflagged action = some (field, leaves)) :
    ∃ change : Write Value, store.next action = store.write change ∧ change.cell = field ∧
      change.cell.isSet (change.update (store.value change.cell)) = leaves := by
  cases action <;> cases silent
  case setStartDate | setEndDate | setSelectedSubCategory | setMaxPrice | setMinPrice |
      setSearch | setLatitude | setLongitude => exact ⟨_, rfl, rfl, rfl⟩
  all_goals exact ⟨_, rfl, rfl, isEmpty_without _ _⟩

theorem next_of_flagged {store : FilterStore} {action : FilterAction}
    (loud : store.unflagged action = none) :
    ∃ before : FilterStore, store.next action = before.updateFilterFlag := by
  cases action <;> cases loud <;> exact ⟨_, rfl⟩

theorem flagHonest_next_iff {store : FilterStore} (honest : store.FlagHonest)
    (action : FilterAction) :
    (store.next action).FlagHonest ↔
      ∀ field leaves, store.unflagged action = some (field, leaves) →
        store.OthersSet field ∨ leaves = store.holds field := by
  cases does : store.unflagged action with
  | none =>
      obtain ⟨before, same⟩ := next_of_flagged does
      rw [same]
      constructor
      · intro _ field leaves impossible
        cases impossible
      · intro _
        exact flagHonest_updateFilterFlag before
  | some left =>
      obtain ⟨field, leaves⟩ := left
      obtain ⟨change, same, here, content⟩ := next_of_unflagged does
      subst here
      have after : (store.write change).AnySet ↔
          leaves = true ∨ store.OthersSet change.cell := by
        rw [anySet_iff _ change.cell, holds_write_self, content, othersSet_write]
      have flagBefore : store.isAnyFilterApplied = true ↔
          store.holds change.cell = true ∨ store.OthersSet change.cell := by
        rw [← anySet_iff]
        exact honest
      have flagAfter : (store.next action).FlagHonest ↔
          (store.isAnyFilterApplied = true ↔ leaves = true ∨ store.OthersSet change.cell) := by
        rw [same, ← after]
        rfl
      rw [flagAfter, flagBefore]
      constructor
      · intro agree field leaves' does'
        cases does'
        by_cases others : store.OthersSet change.cell
        · exact Or.inl others
        · rw [or_iff_left others, or_iff_left others] at agree
          exact Or.inr (Bool.eq_iff_iff.mpr agree.symm)
      · intro keeps
        rcases keeps change.cell leaves rfl with others | unchanged
        · exact ⟨fun _ => Or.inr others, fun _ => Or.inr others⟩
        · rw [unchanged]

theorem holds_clearFilters (store : FilterStore) (field : FilterField) :
    store.clearFilters.holds field = (!cleared.contains field && store.holds field) := by
  cases field <;> rfl

theorem not_anySet_clearFilters_iff (store : FilterStore) :
    ¬ store.clearFilters.AnySet ↔
      store.holds .selectedSubCategoryId = false ∧ store.holds .search = false ∧
        store.holds .latitude = false ∧ store.holds .longitude = false := by
  have spelled : ¬ store.clearFilters.AnySet ↔
      ∀ field, (!cleared.contains field && store.holds field) = false := by
    unfold AnySet
    simp only [holds_clearFilters, not_exists, Bool.not_eq_true]
  rw [spelled]
  constructor
  · intro unset
    exact ⟨unset .selectedSubCategoryId, unset .search, unset .latitude, unset .longitude⟩
  · rintro ⟨subCategory, search, latitude, longitude⟩ field
    cases field <;> first | rfl | assumption

end FilterStore

def Faithful (store : FilterStore) (action : FilterAction) : Prop :=
  (store.next action).CountHonest ∧
    (action = .clearFilters → ¬ (store.next action).AnySet)

theorem step_keeps_iff {store : FilterStore} (honest : store.FlagHonest)
    (action : FilterAction) :
    (store.next action).FlagHonest ∧ Faithful store action ↔ store.KeepsFlag action := by
  have cleared : Faithful store action ↔ (action = .clearFilters →
      store.holds .selectedSubCategoryId = false ∧ store.holds .search = false ∧
        store.holds .latitude = false ∧ store.holds .longitude = false) := by
    constructor
    · rintro ⟨_, unset⟩ isClear
      have empty := unset isClear
      rw [isClear] at empty
      exact (not_anySet_clearFilters_iff store).mp empty
    · intro unset
      refine ⟨countHonest _, ?_⟩
      intro isClear
      rw [isClear]
      exact (not_anySet_clearFilters_iff store).mpr (unset isClear)
  exact and_congr (flagHonest_next_iff honest action) cleared

/-- Every state of a run has an honest flag and an honest count, and every clearing
leaves no filter set, exactly when every action keeps the flag. -/
theorem filterStore_honest_iff (actions : List FilterAction) :
    (newFilterStore.FlagHonest ∧ newFilterStore.CountHonest ∧
      machine.Every
        (fun store action => (store.next action).FlagHonest ∧
          (store.next action).CountHonest ∧
          (action = .clearFilters → ¬ (store.next action).AnySet))
        newFilterStore actions) ↔
      machine.Every KeepsFlag newFilterStore actions := by
  have steps : machine.Every
      (fun store action => (machine.next store action).FlagHonest ∧ Faithful store action)
      newFilterStore actions ↔ machine.Every KeepsFlag newFilterStore actions :=
    Machine.every_iff_of_kept FlagHonest (fun _ _ _ kept => kept.1)
      (fun _ action honest => step_keeps_iff honest action) flagHonest_newFilterStore
  constructor
  · rintro ⟨_, _, run⟩
    exact steps.mp run
  · intro keeps
    exact ⟨flagHonest_newFilterStore, countHonest _, steps.mpr keeps⟩

/-- A start date alone leaves the flag down, and a clearing leaves a search. -/
theorem start_date_counterexample :
    ¬ (∀ actions : List FilterAction, (machine.run newFilterStore actions).FlagHonest) ∧
      (machine.run newFilterStore [.setSearch "plumber", .clearFilters]).AnySet := by
  constructor
  · intro honest
    have flag := (honest [.setStartDate "2026-03-05"]).mpr ⟨.startDate, by decide⟩
    exact absurd flag (by decide)
  · exact ⟨.search, by decide⟩

end FiksOpp.FilterActions
