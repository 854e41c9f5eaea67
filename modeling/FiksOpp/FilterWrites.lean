/-
What the sections of the filter screens write to the store before "Apply".

The price slider, the ratings, the service list and the date range write to the
store as they are used.  The store is back where it was exactly when the last of each
kind of write leaves what was there; a rating that is tapped goes to the end of its list.
-/

import FiksOpp.FilterPrices
import FiksOpp.Foundations.ToggledList

namespace FiksOpp.FilterWrites

open CellStore
open DecimalRounding
open EventRun
open FilterActions
open FilterPrices
open ToggledList

inductive DirectWrite where
  /-- `onChanged` of the slider. -/
  | price (values : RangeValues)
  | rating (selectedIndex : ℤ)
  /-- A tap in the service list, after which these services are ticked. -/
  | services (serviceId : List ℤ)
  | dates (startDate endDate : String)
  deriving DecidableEq, Repr

/-- A list filter is emptied and filled again, entry by entry. -/
def refill {Key : Type} (empty : Write FilterField.Value) (add : Key → FilterStore → FilterStore)
    (keys : List Key) (store : FilterStore) : FilterStore :=
  keys.foldl (fun store key => add key store) (store.write empty)

def DirectWrite.apply (store : FilterStore) : DirectWrite → FilterStore
  | .price values =>
      (store.setMinPrice (toString (truncate values.start))).setMaxPrice
        (toString (truncate values.stop))
  | .rating selectedIndex =>
      store.write { cell := .ratingId, update := toggle selectedIndex }
  | .services serviceId =>
      refill (Write.set .serviceId []) FilterStore.addToServiceList serviceId store
  | .dates startDate endDate => (store.setStartDate startDate).setEndDate endDate

def writeAll (writes : List DirectWrite) (store : FilterStore) : FilterStore :=
  writes.foldl DirectWrite.apply store

section Refill

variable {Key : Type} {empty : Write FilterField.Value}
  {add : Key → FilterStore → FilterStore}

theorem read_refill (read : FilterStore → List Key)
    (adds : ∀ key store, read (add key store) = read store ++ [key]) {store : FilterStore}
    (empties : read (store.write empty) = []) (keys : List Key) :
    read (refill empty add keys store) = keys := by
  have filled : ∀ start : FilterStore,
      read (keys.foldl (fun store key => add key store) start) = read start ++ keys := by
    induction keys with
    | nil => intro start; exact (List.append_nil _).symm
    | cons key rest ih =>
        intro start
        rw [List.foldl_cons, ih, adds, List.append_assoc]
        rfl
  unfold refill
  rw [filled, empties, List.nil_append]

theorem read_refill_of_frame {Reading : Type*} (read : FilterStore → Reading)
    (adds : ∀ key store, read (add key store) = read store) {store : FilterStore}
    (empties : read (store.write empty) = read store) (keys : List Key) :
    read (refill empty add keys store) = read store := by
  have kept : ∀ start : FilterStore,
      read (keys.foldl (fun store key => add key store) start) = read start := by
    induction keys with
    | nil => intro start; rfl
    | cons key rest ih =>
        intro start
        rw [List.foldl_cons, ih, adds]
  unfold refill
  rw [kept, empties]

end Refill

theorem value_write_of_ne {change : Write FilterField.Value} {field : FilterField}
    (other : field ≠ change.cell) (store : FilterStore) :
    (store.write change).value field = store.value field :=
  Write.apply_of_ne other _

theorem value_addTo_of_ne {change : Write FilterField.Value} {field : FilterField}
    (other : field ≠ change.cell) (store : FilterStore) :
    (FilterStore.addTo change store).value field = store.value field :=
  Write.apply_of_ne other _

theorem value_refill_of_ne {Key : Type} {empty : Write FilterField.Value}
    {change : Key → Write FilterField.Value} {field : FilterField}
    (other : field ≠ empty.cell) (same : ∀ key, (change key).cell = empty.cell)
    (keys : List Key) (store : FilterStore) :
    (refill empty (fun key => FilterStore.addTo (change key)) keys store).value field =
      store.value field := by
  apply read_refill_of_frame (fun store => store.value field)
  · intro key store
    apply value_addTo_of_ne
    rw [same key]
    exact other
  · exact value_write_of_ne other store

def directFields : List FilterField :=
  [.isPriceMin, .isPriceMax, .ratingId, .serviceId, .startDate, .endDate]

theorem value_apply_of_not_mem {field : FilterField} (untouched : field ∉ directFields)
    (write : DirectWrite) (store : FilterStore) :
    (write.apply store).value field = store.value field := by
  unfold directFields at untouched
  simp only [List.mem_cons, List.not_mem_nil, or_false, not_or] at untouched
  obtain ⟨priceMin, priceMax, ratingId, serviceId, startDate, endDate⟩ := untouched
  cases write with
  | price values =>
      exact (Write.apply_of_ne priceMax _).trans (Write.apply_of_ne priceMin _)
  | rating selectedIndex => exact Write.apply_of_ne ratingId _
  | services ids =>
      exact @value_refill_of_ne ℤ (Write.set .serviceId [])
        (fun id => { cell := .serviceId, update := fun serviceId => serviceId ++ [id] })
        field serviceId (fun _ => rfl) ids store
  | dates first last => exact (Write.apply_of_ne endDate _).trans (Write.apply_of_ne startDate _)

theorem value_writeAll_of_not_mem {field : FilterField} (untouched : field ∉ directFields)
    (writes : List DirectWrite) (store : FilterStore) :
    (writeAll writes store).value field = store.value field := by
  induction writes generalizing store with
  | nil => rfl
  | cons write rest ih =>
      exact (ih (write.apply store)).trans (value_apply_of_not_mem untouched write store)

def writing : Machine FilterStore DirectWrite Empty :=
  { next := DirectWrite.apply
    outputs := fun _ _ => [] }

theorem run_writing (writes : List DirectWrite) (store : FilterStore) :
    writing.run store writes = writeAll writes store := by
  induction writes generalizing store with
  | nil => rfl
  | cons write rest ih => exact ih (write.apply store)

def DirectWrite.prices : DirectWrite → Option (String × String)
  | .price values =>
      some (toString (truncate values.start), toString (truncate values.stop))
  | _ => none

def DirectWrite.tapped : DirectWrite → Option ℤ
  | .rating selectedIndex => some selectedIndex
  | _ => none

def DirectWrite.ticked : DirectWrite → Option (List ℤ)
  | .services serviceId => some serviceId
  | _ => none

def DirectWrite.chosen : DirectWrite → Option (String × String)
  | .dates startDate endDate => some (startDate, endDate)
  | _ => none

theorem value_services_of_ne {field : FilterField} (other : field ≠ .serviceId) (ids : List ℤ)
    (store : FilterStore) :
    ((DirectWrite.services ids).apply store).value field = store.value field :=
  @value_refill_of_ne ℤ (Write.set .serviceId [])
    (fun id => { cell := .serviceId, update := fun serviceId => serviceId ++ [id] })
    field other (fun _ => rfl) ids store

theorem value_services (ids : List ℤ) (store : FilterStore) :
    ((DirectWrite.services ids).apply store).value .serviceId = ids :=
  read_refill (fun store => store.value .serviceId) (fun _ _ => rfl) rfl ids

/-- A view of the store that each write sets or leaves alone is what the last write of its
kind has set. -/
theorem view_writeAll {α : Type} (view : FilterStore → α) (written : DirectWrite → Option α)
    (step : ∀ store write, view (DirectWrite.apply store write) =
      (written write).getD (view store))
    (writes : List DirectWrite) (store : FilterStore) :
    view (writeAll writes store) = ((writes.filterMap written).getLast?).getD (view store) := by
  rw [← run_writing]
  exact Machine.view_run view written step store writes

theorem prices_writeAll (writes : List DirectWrite) (store : FilterStore) :
    ((writeAll writes store).value .isPriceMin, (writeAll writes store).value .isPriceMax) =
      ((writes.filterMap DirectWrite.prices).getLast?).getD
        (store.value .isPriceMin, store.value .isPriceMax) := by
  refine view_writeAll (fun store => (store.value .isPriceMin, store.value .isPriceMax))
    DirectWrite.prices ?_ writes store
  intro store write
  cases write with
  | price values => rfl
  | rating selectedIndex => rfl
  | services ids =>
      exact Prod.ext (value_services_of_ne (by decide) ids store)
        (value_services_of_ne (by decide) ids store)
  | dates first last => rfl

theorem dates_writeAll (writes : List DirectWrite) (store : FilterStore) :
    ((writeAll writes store).value .startDate, (writeAll writes store).value .endDate) =
      ((writes.filterMap DirectWrite.chosen).getLast?).getD
        (store.value .startDate, store.value .endDate) := by
  refine view_writeAll (fun store => (store.value .startDate, store.value .endDate))
    DirectWrite.chosen ?_ writes store
  intro store write
  cases write with
  | price values => rfl
  | rating selectedIndex => rfl
  | services ids =>
      exact Prod.ext (value_services_of_ne (by decide) ids store)
        (value_services_of_ne (by decide) ids store)
  | dates first last => rfl

theorem services_writeAll (writes : List DirectWrite) (store : FilterStore) :
    (writeAll writes store).value .serviceId =
      ((writes.filterMap DirectWrite.ticked).getLast?).getD (store.value .serviceId) := by
  refine view_writeAll (fun store => store.value .serviceId) DirectWrite.ticked ?_ writes store
  intro store write
  cases write with
  | price values => rfl
  | rating selectedIndex => rfl
  | services ids => exact value_services ids store
  | dates first last => rfl

theorem ratings_writeAll (writes : List DirectWrite) (store : FilterStore) :
    (writeAll writes store).value .ratingId =
      toggleAll (writes.filterMap DirectWrite.tapped) (store.value .ratingId) := by
  induction writes generalizing store with
  | nil => rfl
  | cons write rest ih =>
      change (writeAll rest (write.apply store)).value .ratingId = _
      rw [ih]
      cases write with
      | price values => rfl
      | rating selectedIndex => rfl
      | services ids => rw [value_services_of_ne (by decide)]; rfl
      | dates first last => rfl

/-! ### The flag -/

theorem flag_addToServiceList (id : ℤ) (store : FilterStore) :
    (store.addToServiceList id).isAnyFilterApplied = true := by
  apply (FilterStore.flagHonest_updateFilterFlag _).mpr
  refine ⟨.serviceId, ?_⟩
  change (!(store.value .serviceId ++ [id]).isEmpty) = true
  cases store.value .serviceId <;> rfl

theorem flag_services (ids : List ℤ) (store : FilterStore) :
    ((DirectWrite.services ids).apply store).isAnyFilterApplied =
      (store.isAnyFilterApplied || !ids.isEmpty) := by
  have filled : ∀ start : FilterStore,
      (ids.foldl (fun store id => store.addToServiceList id) start).isAnyFilterApplied =
        (start.isAnyFilterApplied || !ids.isEmpty) := by
    induction ids with
    | nil => intro start; exact (Bool.or_false _).symm
    | cons id rest ih =>
        intro start
        rw [List.foldl_cons, ih, flag_addToServiceList]
        simp
  exact filled _

theorem flag_writeAll (writes : List DirectWrite) (store : FilterStore) :
    (writeAll writes store).isAnyFilterApplied =
      (store.isAnyFilterApplied ||
        (writes.filterMap DirectWrite.ticked).any fun ids => !ids.isEmpty) := by
  induction writes generalizing store with
  | nil => exact (Bool.or_false _).symm
  | cons write rest ih =>
      change (writeAll rest (write.apply store)).isAnyFilterApplied = _
      rw [ih]
      cases write with
      | price values => rfl
      | rating selectedIndex => rfl
      | services ids =>
          rw [flag_services, Bool.or_assoc]
          rfl
      | dates first last => rfl

/-- The last write of each kind leaves what was there, the ratings tapped end up where
they were, and no tap in the service list has raised the flag. -/
structure Restores (writes : List DirectWrite) (store : FilterStore) : Prop where
  prices : ∀ texts, (writes.filterMap DirectWrite.prices).getLast? = some texts →
    texts = (store.value .isPriceMin, store.value .isPriceMax)
  ratings : (store.value .ratingId).filter (· ∉ writes.filterMap DirectWrite.tapped) ++
      (writes.filterMap DirectWrite.tapped).dedup.filter
        (leftOn (store.value .ratingId) (writes.filterMap DirectWrite.tapped)) =
    store.value .ratingId
  services : ∀ ids, (writes.filterMap DirectWrite.ticked).getLast? = some ids →
    ids = store.value .serviceId
  dates : ∀ texts, (writes.filterMap DirectWrite.chosen).getLast? = some texts →
    texts = (store.value .startDate, store.value .endDate)
  flag : store.isAnyFilterApplied = true ∨
    ∀ ids ∈ writes.filterMap DirectWrite.ticked, ids = []

theorem getD_eq_iff {α : Type*} (last : Option α) (first : α) :
    last.getD first = first ↔ ∀ value, last = some value → value = first := by
  cases last with
  | none => simp
  | some value => simp

theorem flag_kept_iff (writes : List DirectWrite) (store : FilterStore) :
    (writeAll writes store).isAnyFilterApplied = store.isAnyFilterApplied ↔
      store.isAnyFilterApplied = true ∨ ∀ ids ∈ writes.filterMap DirectWrite.ticked, ids = [] := by
  rw [flag_writeAll]
  cases store.isAnyFilterApplied with
  | true => simp
  | false =>
      rw [Bool.false_or, List.any_eq_false]
      simp only [Bool.not_eq_true', Bool.not_eq_false, List.isEmpty_iff, Bool.false_eq_true,
        false_or]

theorem filterStore_ext {left right : FilterStore}
    (values : ∀ field, left.value field = right.value field)
    (flags : left.isAnyFilterApplied = right.isAnyFilterApplied) : left = right := by
  cases left
  cases right
  congr
  exact funext values

theorem writeAll_eq_self_iff (writes : List DirectWrite) (store : FilterStore) :
    writeAll writes store = store ↔ Restores writes store := by
  have prices := prices_writeAll writes store
  have ratings := ratings_writeAll writes store
  have services := services_writeAll writes store
  have dates := dates_writeAll writes store
  rw [toggleAll_eq] at ratings
  constructor
  · intro same
    rw [same] at prices ratings services dates
    exact
      { prices := (getD_eq_iff _ _).mp prices.symm
        ratings := ratings.symm
        services := (getD_eq_iff _ _).mp services.symm
        dates := (getD_eq_iff _ _).mp dates.symm
        flag := (flag_kept_iff writes store).mp (by rw [same]) }
  · intro restores
    rw [(getD_eq_iff _ _).mpr restores.prices] at prices
    rw [restores.ratings] at ratings
    rw [(getD_eq_iff _ _).mpr restores.services] at services
    rw [(getD_eq_iff _ _).mpr restores.dates] at dates
    obtain ⟨priceMin, priceMax⟩ := Prod.ext_iff.mp prices
    obtain ⟨startDate, endDate⟩ := Prod.ext_iff.mp dates
    refine filterStore_ext ?_ ((flag_kept_iff writes store).mpr restores.flag)
    intro field
    by_cases direct : field ∈ directFields
    · unfold directFields at direct
      simp only [List.mem_cons, List.not_mem_nil, or_false] at direct
      rcases direct with rfl | rfl | rfl | rfl | rfl | rfl
      · exact priceMin
      · exact priceMax
      · exact ratings
      · exact services
      · exact startDate
      · exact endDate
    · exact value_writeAll_of_not_mem direct writes store

theorem value_clearFilters_of_mem {field : FilterField} (named : field ∈ FilterStore.cleared)
    (store : FilterStore) : store.clearFilters.value field = field.initial := by
  unfold FilterStore.cleared at named
  simp only [List.mem_cons, List.not_mem_nil, or_false] at named
  rcases named with rfl | rfl | rfl | rfl | rfl | rfl | rfl | rfl | rfl | rfl | rfl | rfl | rfl <;>
    rfl

theorem value_clearFilters_of_not_mem {field : FilterField}
    (unnamed : field ∉ FilterStore.cleared) (store : FilterStore) :
    store.clearFilters.value field = store.value field :=
  applyAll_of_not_mem (by rw [List.map_map]; simpa using unnamed) store.value

theorem not_direct_of_not_cleared {field : FilterField} (unnamed : field ∉ FilterStore.cleared) :
    field ∉ directFields := by
  intro direct
  revert unnamed direct
  cases field <;> decide

/-- A clearing after direct writes gives the store back exactly when there was nothing to
clear and the flag was honest. -/
theorem clear_writeAll_eq_self_iff (writes : List DirectWrite) (store : FilterStore) :
    (writeAll writes store).clearFilters = store ↔
      (∀ field ∈ FilterStore.cleared, store.value field = field.initial) ∧ store.FlagHonest := by
  constructor
  · intro same
    constructor
    · intro field named
      have emptied := value_clearFilters_of_mem named (writeAll writes store)
      rw [same] at emptied
      exact emptied
    · have honest : (writeAll writes store).clearFilters.FlagHonest :=
        FilterStore.flagHonest_updateFilterFlag _
      rw [same] at honest
      exact honest
  · rintro ⟨empty, honest⟩
    have values : ∀ field,
        (writeAll writes store).clearFilters.value field = store.value field := by
      intro field
      by_cases named : field ∈ FilterStore.cleared
      · rw [value_clearFilters_of_mem named, empty field named]
      · rw [value_clearFilters_of_not_mem named,
          value_writeAll_of_not_mem (not_direct_of_not_cleared named)]
    have clearedHonest : (writeAll writes store).clearFilters.FlagHonest :=
      FilterStore.flagHonest_updateFilterFlag _
    refine filterStore_ext values (Bool.eq_iff_iff.mpr ?_)
    refine clearedHonest.trans (Iff.trans ?_ honest.symm)
    unfold FilterStore.AnySet FilterStore.holds
    simp only [values]

end FiksOpp.FilterWrites
