/-
A visit to `FilterScreen` or `BookingFilterScreen`, from its start to one of its exits.

The lists are ticked from the store when their answers come, and "Apply" empties each
list filter and fills it with what is ticked.  A list that was not loaded has no ticks.
Everything else on the screens has written to the store by then.
-/

import FiksOpp.FilterWrites

namespace FiksOpp.FilterVisits

open CellStore
open DecimalRounding
open EventRun
open FilterActions
open FilterPrices
open FilterWrites

inductive Exit where
  | apply
  | back
  /-- "Clear filter" or "Reset". -/
  | clearFilter
  deriving DecidableEq, Repr

structure Entry (Key : Type) where
  key : Option Key
  isSelected : Bool
  deriving DecidableEq, Repr

section Entries

variable {Key : Type} [DecidableEq Key]

def listed (filter : List Key) (keys : List (Option Key)) : List (Entry Key) :=
  keys.map fun key => { key := key, isSelected := key.any fun key => filter.contains key }

omit [DecidableEq Key] in
def tap (index : ℕ) (entries : List (Entry Key)) : List (Entry Key) :=
  entries.modify index fun entry => { entry with isSelected := !entry.isSelected }

omit [DecidableEq Key] in
/-- A missing key is validated before it is added. -/
def ticked (blank : Key) (entries : List (Entry Key)) : List Key :=
  (entries.filter Entry.isSelected).map fun entry => entry.key.getD blank

omit [DecidableEq Key] in
def allKeys (blank : Key) (entries : List (Entry Key)) : List Key :=
  entries.map fun entry => entry.key.getD blank

omit [DecidableEq Key] in
theorem mem_allKeys_of_mem_ticked {blank key : Key} {entries : List (Entry Key)}
    (inside : key ∈ ticked blank entries) : key ∈ allKeys blank entries := by
  obtain ⟨entry, chosen, rfl⟩ := List.mem_map.mp inside
  exact List.mem_map.mpr ⟨entry, (List.mem_filter.mp chosen).1, rfl⟩

omit [DecidableEq Key] in
theorem allKeys_tap (blank : Key) (index : ℕ) (entries : List (Entry Key)) :
    allKeys blank (tap index entries) = allKeys blank entries := by
  unfold tap allKeys
  induction entries generalizing index with
  | nil => rw [List.modify_nil]
  | cons entry rest ih =>
      cases index with
      | zero => rfl
      | succ index =>
          rw [List.modify_succ_cons, List.map_cons, List.map_cons, ih]

end Entries

/-- A loaded list leaves what it shows as ticked; a list that is not there has no value of
the filter dropped. -/
def AsShown {Key : Type} (blank : Key) (list : Option (List (Entry Key)))
    (before after : List Key) : Prop :=
  match list with
  | some entries => after = ticked blank entries
  | none => ∀ key ∈ before, key ∈ after

theorem asShown_ticked_iff {Key : Type} (blank : Key) (list : Option (List (Entry Key)))
    (before : List Key) :
    AsShown blank list before (ticked blank (list.getD [])) ↔
      list.isSome = true ∨ before = [] := by
  cases list with
  | some entries => exact iff_of_true rfl (Or.inl rfl)
  | none =>
      constructor
      · intro kept
        refine Or.inr (List.eq_nil_iff_forall_not_mem.mpr ?_)
        intro key inside
        exact absurd (kept key inside) List.not_mem_nil
      · rintro (loaded | empty)
        · cases loaded
        · intro key inside
          rw [empty] at inside
          exact absurd inside List.not_mem_nil

inductive ListRequest where
  | providers
  | categories
  deriving DecidableEq, Repr

structure FilterScreen where
  /-- The store, and the price section over it. -/
  price : PriceScreen
  /-- The requests of `init` that are not answered, in order. -/
  pending : List ListRequest
  /-- Nothing until the list is loaded; the code has an empty list then. -/
  providerList : Option (List (Entry ℤ))
  catList : Option (List (Entry ℤ))

inductive FilterEvent where
  /-- The ids and the lowest and highest price; nothing where the request failed. -/
  | answerProviders (outcome : Option (List (Option ℤ) × ℚ × ℚ))
  | answerCategories (outcome : Option (List (Option ℤ)))
  | tapProvider (index : ℕ)
  | tapCategory (index : ℕ)
  | openPrice
  | closePrice
  | rebuild
  | drag (values : RangeValues)
  | tapRating (selectedIndex : ℤ)
  deriving DecidableEq, Repr

namespace FilterScreen

def opened (texts : NumberTexts) (isFromProvider isFromCategory : Bool) (found : PriceScreen) :
    FilterScreen :=
  { price := found.next texts .openScreen
    pending :=
      (if isFromProvider then [.providers] else []) ++
        if !isFromCategory then [.categories] else []
    providerList := none
    catList := none }

def filterStore (screen : FilterScreen) : FilterStore :=
  screen.price.filterStore

def loadProviders (texts : NumberTexts) (outcome : Option (List (Option ℤ) × ℚ × ℚ))
    (screen : FilterScreen) : FilterScreen :=
  { screen with
    pending := screen.pending.tail
    price := screen.price.next texts (.answer (outcome.map Prod.snd))
    providerList :=
      match outcome with
      | some (ids, _) => some (listed (screen.filterStore.value .providerId) ids)
      | none => screen.providerList }

def loadCategories (outcome : Option (List (Option ℤ))) (screen : FilterScreen) : FilterScreen :=
  { screen with
    pending := screen.pending.tail
    catList :=
      match outcome with
      | some ids => some (listed (screen.filterStore.value .categoryId) ids)
      | none => screen.catList }

def tapRating (selectedIndex : ℤ) (screen : FilterScreen) : FilterScreen :=
  { screen with
    price := { screen.price with
      filterStore := DirectWrite.apply screen.filterStore (.rating selectedIndex) } }

def next (texts : NumberTexts) (screen : FilterScreen) : FilterEvent → FilterScreen
  | .answerProviders outcome =>
      if screen.pending.head? = some .providers then screen.loadProviders texts outcome
      else screen
  | .answerCategories outcome =>
      if screen.pending.head? = some .categories then screen.loadCategories outcome else screen
  | .tapProvider index => { screen with providerList := screen.providerList.map (tap index) }
  | .tapCategory index => { screen with catList := screen.catList.map (tap index) }
  | .openPrice => { screen with price := screen.price.next texts .openPrice }
  | .closePrice => { screen with price := screen.price.next texts .closePrice }
  | .rebuild => { screen with price := screen.price.next texts .rebuild }
  | .drag values => { screen with price := screen.price.next texts (.drag values) }
  | .tapRating selectedIndex => screen.tapRating selectedIndex

def writes (screen : FilterScreen) : FilterEvent → List DirectWrite
  | .drag values => if screen.price.accepts values then [.price values] else []
  | .tapRating selectedIndex => [.rating selectedIndex]
  | _ => []

def apply (screen : FilterScreen) : FilterStore :=
  let categories := refill (Write.set .categoryId []) FilterStore.addToCategoryIdList
    (ticked 0 (screen.catList.getD [])) screen.filterStore
  refill (Write.set .providerId []) FilterStore.addToProviderList
    (ticked 0 (screen.providerList.getD [])) categories

def leave (screen : FilterScreen) : Exit → FilterStore
  | .apply => screen.apply
  | .back => screen.filterStore
  | .clearFilter => screen.filterStore.clearFilters

end FilterScreen

def filterMachine (texts : NumberTexts) : Machine FilterScreen FilterEvent DirectWrite :=
  { next := FilterScreen.next texts
    outputs := FilterScreen.writes }

/-- The labels of the slider are the price filter, unless none is set. -/
def PriceShown (store : FilterStore) (values : RangeValues) : Prop :=
  store.value .isPriceMin = "" ∨ store.value .isPriceMax = "" ∨
    store.value .isPriceMin = toString (truncate values.start) ∧
      store.value .isPriceMax = toString (truncate values.stop)

/-- "Apply" leaves each filter as the screen shows it; the rating rows are drawn from the
store. -/
structure FilterScreen.Commits (screen : FilterScreen) (entered after : FilterStore) : Prop where
  providers : AsShown 0 screen.providerList (entered.value .providerId) (after.value .providerId)
  categories : AsShown 0 screen.catList (entered.value .categoryId) (after.value .categoryId)
  prices : ∀ values, screen.price.rangeValues = some values → PriceShown after values
  others : ∀ field, field ≠ .providerId → field ≠ .categoryId →
    after.value field = screen.filterStore.value field

def FilterScreen.CommitsOrCancels (screen : FilterScreen) (entered : FilterStore) (exit : Exit) :
    Prop :=
  match exit with
  | .apply => screen.Commits entered (screen.leave .apply)
  | exit => screen.leave exit = entered

def NothingToClear (entered : FilterStore) : Prop :=
  (∀ field ∈ FilterStore.cleared, entered.value field = field.initial) ∧ entered.FlagHonest

def FilterScreen.Settles (writes : List DirectWrite) (screen : FilterScreen)
    (entered : FilterStore) : Exit → Prop
  | .apply =>
      (screen.providerList.isSome = true ∨ entered.value .providerId = []) ∧
        (screen.catList.isSome = true ∨ entered.value .categoryId = [])
  | .back => Restores writes entered
  | .clearFilter => NothingToClear entered

/-- What a visit finds: a store whose price texts come from the slider. -/
structure Found where
  screen : PriceScreen
  remembers : Remembers screen

structure Labelled (price : PriceScreen) : Prop where
  remembers : Remembers price
  shown : ∀ values, price.rangeValues = some values → PriceShown price.filterStore values

theorem priceShown_initState (texts : NumberTexts) {price : PriceScreen}
    (remembers : Remembers price) : PriceShown price.filterStore (price.initState texts) := by
  rw [initState_eq texts remembers]
  unfold Remembers at remembers
  cases past : price.dragged with
  | none =>
      rw [past] at remembers
      exact Or.inl remembers.1
  | some values =>
      rw [past] at remembers
      obtain ⟨low, high, _⟩ := remembers
      refine Or.inr (Or.inr ?_)
      dsimp only
      rw [truncate_intCast, truncate_intCast]
      exact ⟨low, high⟩

theorem labelled_drag (texts : NumberTexts) {price : PriceScreen} (labelled : Labelled price)
    (values : RangeValues) : Labelled (price.next texts (.drag values)) := by
  refine ⟨remembers_next texts labelled.remembers _, ?_⟩
  unfold PriceScreen.next
  dsimp only
  by_cases accepted : price.accepts values = true
  · rw [if_pos accepted]
    intro shown same
    cases same
    exact Or.inr (Or.inr ⟨rfl, rfl⟩)
  · rw [if_neg accepted]
    exact labelled.shown

theorem labelled_of_closed {price : PriceScreen} (remembers : Remembers price)
    (closed : price.rangeValues = none) : Labelled price := by
  refine ⟨remembers, ?_⟩
  intro values present
  rw [closed] at present
  cases present

theorem labelled_next (texts : NumberTexts) {screen : FilterScreen}
    (labelled : Labelled screen.price) (event : FilterEvent) :
    Labelled (screen.next texts event).price := by
  cases event with
  | answerProviders outcome =>
      unfold FilterScreen.next FilterScreen.loadProviders
      dsimp only
      split
      · refine ⟨remembers_next texts labelled.remembers _, ?_⟩
        cases outcome with
        | none => exact labelled.shown
        | some answer => exact labelled.shown
      · exact labelled
  | answerCategories outcome =>
      unfold FilterScreen.next FilterScreen.loadCategories
      dsimp only
      split
      · exact labelled
      · exact labelled
  | tapProvider index => exact labelled
  | tapCategory index => exact labelled
  | openPrice =>
      refine ⟨labelled.remembers, ?_⟩
      intro values same
      cases same
      exact priceShown_initState texts labelled.remembers
  | closePrice => exact labelled_of_closed labelled.remembers rfl
  | rebuild => exact labelled
  | drag values => exact labelled_drag texts labelled values
  | tapRating selectedIndex => exact ⟨labelled.remembers, labelled.shown⟩

theorem filterStore_next (texts : NumberTexts) (screen : FilterScreen) (event : FilterEvent) :
    (screen.next texts event).filterStore =
      (screen.writes event).foldl DirectWrite.apply screen.filterStore := by
  cases event with
  | answerProviders outcome =>
      unfold FilterScreen.next
      dsimp only
      split
      · cases outcome <;> rfl
      · rfl
  | answerCategories outcome =>
      unfold FilterScreen.next
      dsimp only
      split <;> rfl
  | drag values =>
      unfold FilterScreen.next FilterScreen.writes PriceScreen.next FilterScreen.filterStore
      dsimp only
      split <;> rfl
  | tapProvider index => rfl
  | tapCategory index => rfl
  | openPrice => rfl
  | closePrice => rfl
  | rebuild => rfl
  | tapRating selectedIndex => rfl

theorem filterStore_run (texts : NumberTexts) (start : FilterScreen)
    (events : List FilterEvent) :
    ((filterMachine texts).run start events).filterStore =
      writeAll ((filterMachine texts).trace start events) start.filterStore :=
  Machine.view_run_eq_foldl FilterScreen.filterStore DirectWrite.apply
    (filterStore_next texts) start events

theorem labelled_run (texts : NumberTexts) {start : FilterScreen}
    (initially : Labelled start.price) (events : List FilterEvent) :
    Labelled ((filterMachine texts).run start events).price :=
  Machine.invariant_run_of_kept (fun screen : FilterScreen => Labelled screen.price)
    (fun _ event labelled => labelled_next texts labelled event) initially events

theorem value_apply_providerId (screen : FilterScreen) :
    screen.apply.value .providerId = ticked 0 (screen.providerList.getD []) :=
  read_refill (fun store => store.value .providerId) (fun _ _ => rfl) rfl _

theorem value_apply_categoryId (screen : FilterScreen) :
    screen.apply.value .categoryId = ticked 0 (screen.catList.getD []) := by
  have providers := fun store =>
    @value_refill_of_ne ℤ (Write.set .providerId [])
      (fun id => { cell := .providerId, update := fun providerId => providerId ++ [id] })
      .categoryId (by decide) (fun _ => rfl) (ticked 0 (screen.providerList.getD [])) store
  exact (providers _).trans
    (read_refill (fun store => store.value .categoryId) (fun _ _ => rfl) rfl _)

theorem value_apply_of_ne (screen : FilterScreen) {field : FilterField}
    (provider : field ≠ .providerId) (category : field ≠ .categoryId) :
    screen.apply.value field = screen.filterStore.value field := by
  have providers := fun store =>
    @value_refill_of_ne ℤ (Write.set .providerId [])
      (fun id => { cell := .providerId, update := fun providerId => providerId ++ [id] })
      field provider (fun _ => rfl) (ticked 0 (screen.providerList.getD [])) store
  have categories :=
    @value_refill_of_ne ℤ (Write.set .categoryId [])
      (fun id => { cell := .categoryId, update := fun categoryId => categoryId ++ [id] })
      field category (fun _ => rfl) (ticked 0 (screen.catList.getD [])) screen.filterStore
  exact (providers _).trans categories

theorem commits_iff {screen : FilterScreen} (labelled : Labelled screen.price) (entered : FilterStore)
    (writes : List DirectWrite) :
    screen.Commits entered screen.apply ↔ screen.Settles writes entered .apply := by
  have lists : AsShown 0 screen.providerList (entered.value .providerId)
        (screen.apply.value .providerId) ∧
      AsShown 0 screen.catList (entered.value .categoryId) (screen.apply.value .categoryId) ↔
      screen.Settles writes entered .apply := by
    rw [value_apply_providerId, value_apply_categoryId, asShown_ticked_iff, asShown_ticked_iff]
    rfl
  rw [← lists]
  constructor
  · intro commits
    exact ⟨commits.providers, commits.categories⟩
  · rintro ⟨providers, categories⟩
    refine
      { providers := providers
        categories := categories
        prices := ?_
        others := fun field provider category => value_apply_of_ne screen provider category }
    intro values present
    have shown := labelled.shown values present
    unfold PriceShown at shown ⊢
    rw [value_apply_of_ne screen (by decide) (by decide),
      value_apply_of_ne screen (by decide) (by decide)]
    exact shown

section FilterVisit

variable (texts : NumberTexts) (isFromProvider isFromCategory : Bool) (found : Found)
  (events : List FilterEvent)

def filterVisit : FilterScreen :=
  (filterMachine texts).run
    (FilterScreen.opened texts isFromProvider isFromCategory found.screen) events

def filterWrites : List DirectWrite :=
  (filterMachine texts).trace
    (FilterScreen.opened texts isFromProvider isFromCategory found.screen) events

theorem filterVisit_commitsOrCancels_iff (exit : Exit) :
    (filterVisit texts isFromProvider isFromCategory found events).CommitsOrCancels
        found.screen.filterStore exit ↔
      (filterVisit texts isFromProvider isFromCategory found events).Settles
        (filterWrites texts isFromProvider isFromCategory found events)
        found.screen.filterStore exit := by
  have store : (filterVisit texts isFromProvider isFromCategory found events).filterStore =
      writeAll (filterWrites texts isFromProvider isFromCategory found events)
        found.screen.filterStore :=
    filterStore_run texts _ events
  cases exit with
  | apply =>
      have initially : Labelled
          (FilterScreen.opened texts isFromProvider isFromCategory found.screen).price :=
        labelled_of_closed found.remembers rfl
      exact commits_iff (labelled_run texts initially events) _ _
  | back =>
      rw [FilterScreen.Settles, ← writeAll_eq_self_iff, ← store]
      rfl
  | clearFilter =>
      unfold FilterScreen.CommitsOrCancels FilterScreen.leave
      dsimp only
      rw [store]
      exact clear_writeAll_eq_self_iff _ _

end FilterVisit

/-! ### The booking filters -/

inductive BookingListRequest where
  | bookingStatus
  | paymentGateways
  deriving DecidableEq, Repr

structure BookingFilterScreen where
  filterStore : FilterStore
  pending : List BookingListRequest
  bookingStatusList : Option (List (Entry String))
  paymentTypeList : Option (List (Entry String))
  paymentStatusList : List (Entry String)
  /-- The payment statuses as they were last drawn.  Which tab is open is not modelled: a
  redraw of the screen counts as one of them also while their tab is closed. -/
  drawn : List (Entry String)
  /-- `getPaymentStatus` has ticked the payment statuses of the store. -/
  restored : Bool
  /-- The state of the service list; it starts anew whenever its tab is built. -/
  servicesList : List (Entry ℤ)
  isLastPage : Bool

inductive BookingEvent where
  | answerStatuses (outcome : Option (List (Option String)))
  | answerGateways (outcome : Option (List (Option String)))
  | tapStatus (index : ℕ)
  | tapType (index : ℕ)
  | tapPaymentStatus (index : ℕ)
  /-- Another tab is chosen. -/
  | rebuild
  | openServices
  | answerServices (isFirstPage : Bool) (ids : List (Option ℤ)) (isLastPage : Bool)
  /-- A service is tapped: one of the list, or one of the copies of an earlier visit that
  are drawn until the list is there. -/
  | tapService (index : Option ℕ)
  | chooseDates (startDate endDate : String)
  | clearDates
  deriving DecidableEq, Repr

namespace BookingFilterScreen

def paymentStatuses : List (Entry String) :=
  [⟨some "paid", false⟩, ⟨some "pending", false⟩, ⟨some "advanced_paid", false⟩,
    ⟨some "Advanced Refund", false⟩]

def opened (found : FilterStore) : BookingFilterScreen :=
  { filterStore := found
    pending := [.bookingStatus, .paymentGateways]
    bookingStatusList := none
    paymentTypeList := none
    paymentStatusList := paymentStatuses
    drawn := paymentStatuses
    restored := false
    servicesList := []
    isLastPage := false }

def loadStatuses (outcome : Option (List (Option String))) (screen : BookingFilterScreen) :
    BookingFilterScreen :=
  match outcome with
  | some values =>
      { screen with
        pending := screen.pending.tail
        bookingStatusList := some (listed (screen.filterStore.value .bookingStatus) values)
        drawn := screen.paymentStatusList }
  | none => { screen with pending := screen.pending.tail }

/-- An entry that is ticked already stays ticked. -/
def getPaymentStatus (screen : BookingFilterScreen) : BookingFilterScreen :=
  { screen with
    paymentStatusList := screen.paymentStatusList.map fun entry =>
      { entry with
        isSelected := entry.isSelected ||
          entry.key.any fun status =>
            (screen.filterStore.value .paymentStatus).contains status }
    restored := true }

/-- The screen is drawn again after the types are loaded, when `getPaymentStatus` has run;
nothing draws it after a failure. -/
def loadGateways (outcome : Option (List (Option String))) (screen : BookingFilterScreen) :
    BookingFilterScreen :=
  let answered := { screen with pending := screen.pending.tail }.getPaymentStatus
  match outcome with
  | some types =>
      { answered with
        paymentTypeList := some (listed (screen.filterStore.value .paymentType) types)
        drawn := answered.paymentStatusList }
  | none => answered

def loadServices (isFirstPage : Bool) (ids : List (Option ℤ)) (isLastPage : Bool)
    (screen : BookingFilterScreen) : BookingFilterScreen :=
  { screen with
    servicesList :=
      (if isFirstPage then [] else screen.servicesList) ++
        ids.map fun id => { key := id, isSelected := false }
    isLastPage := isLastPage }

/-- The service list after a tap; a copy of an earlier visit is not in it. -/
def tappedServices (index : Option ℕ) (screen : BookingFilterScreen) : List (Entry ℤ) :=
  match index with
  | some index => tap index screen.servicesList
  | none => screen.servicesList

def writes (screen : BookingFilterScreen) : BookingEvent → List DirectWrite
  | .tapService index => [.services (ticked 0 (screen.tappedServices index))]
  | .chooseDates startDate endDate => [.dates startDate endDate]
  | .clearDates => [.dates "" ""]
  | _ => []

def next (screen : BookingFilterScreen) : BookingEvent → BookingFilterScreen
  | .answerStatuses outcome =>
      if screen.pending.head? = some .bookingStatus then screen.loadStatuses outcome else screen
  | .answerGateways outcome =>
      if screen.pending.head? = some .paymentGateways then screen.loadGateways outcome
      else screen
  | .tapStatus index =>
      { screen with bookingStatusList := screen.bookingStatusList.map (tap index) }
  | .tapType index => { screen with paymentTypeList := screen.paymentTypeList.map (tap index) }
  | .tapPaymentStatus index =>
      { screen with
        paymentStatusList := tap index screen.paymentStatusList
        drawn := tap index screen.paymentStatusList }
  | .rebuild => { screen with drawn := screen.paymentStatusList }
  | .openServices => { screen with servicesList := [], isLastPage := false }
  | .answerServices isFirstPage ids isLastPage =>
      screen.loadServices isFirstPage ids isLastPage
  | .tapService index =>
      { screen with
        servicesList := screen.tappedServices index
        filterStore := DirectWrite.apply screen.filterStore
          (.services (ticked 0 (screen.tappedServices index))) }
  | .chooseDates startDate endDate =>
      { screen with
        filterStore := DirectWrite.apply screen.filterStore (.dates startDate endDate) }
  | .clearDates =>
      { screen with filterStore := DirectWrite.apply screen.filterStore (.dates "" "") }

def apply (screen : BookingFilterScreen) : FilterStore :=
  let statuses := refill (Write.set .bookingStatus []) FilterStore.addToBookingStatusList
    (ticked "" (screen.bookingStatusList.getD [])) screen.filterStore
  let types := refill (Write.set .paymentType []) FilterStore.addToPaymentTypeList
    (ticked "" (screen.paymentTypeList.getD [])) statuses
  refill (Write.set .paymentStatus []) FilterStore.addToPaymentStatusList
    (ticked "" screen.paymentStatusList) types

def leave (screen : BookingFilterScreen) : Exit → FilterStore
  | .apply => screen.apply
  | .back => screen.filterStore
  | .clearFilter => screen.filterStore.clearFilters

/-- The service is in the list, or the list has no more pages to load. -/
def Loaded (screen : BookingFilterScreen) (id : ℤ) : Prop :=
  screen.isLastPage = true ∨ id ∈ allKeys 0 screen.servicesList

def KeepsServices (screen : BookingFilterScreen) (event : BookingEvent) : Prop :=
  ∀ id ∈ screen.filterStore.value .serviceId,
    id ∉ (screen.next event).filterStore.value .serviceId → screen.Loaded id

def FindsServices (screen : BookingFilterScreen) (event : BookingEvent) : Prop :=
  match event with
  | .tapService _ => ∀ id ∈ screen.filterStore.value .serviceId, screen.Loaded id
  | _ => True

/-- "Apply" leaves each filter as the screen shows it; the services and the dates are drawn
from the store. -/
structure Commits (screen : BookingFilterScreen) (entered after : FilterStore) : Prop where
  statuses : AsShown "" screen.bookingStatusList (entered.value .bookingStatus)
    (after.value .bookingStatus)
  types : AsShown "" screen.paymentTypeList (entered.value .paymentType)
    (after.value .paymentType)
  paymentStatuses : after.value .paymentStatus = ticked "" screen.drawn
  unrestored : screen.restored = false →
    ∀ status ∈ entered.value .paymentStatus, status ∈ after.value .paymentStatus
  others : ∀ field, field ≠ .bookingStatus → field ≠ .paymentType → field ≠ .paymentStatus →
    after.value field = screen.filterStore.value field

def Ready (screen : BookingFilterScreen) (entered : FilterStore) : Prop :=
  (screen.bookingStatusList.isSome = true ∨ entered.value .bookingStatus = []) ∧
    (screen.paymentTypeList.isSome = true ∨ entered.value .paymentType = []) ∧
    ticked "" screen.paymentStatusList = ticked "" screen.drawn ∧
    (screen.restored = false →
      ∀ status ∈ entered.value .paymentStatus, status ∈ ticked "" screen.paymentStatusList)

end BookingFilterScreen

open BookingFilterScreen

def bookingMachine : Machine BookingFilterScreen BookingEvent DirectWrite :=
  { next := BookingFilterScreen.next
    outputs := BookingFilterScreen.writes }

theorem filterStore_bookingNext (screen : BookingFilterScreen) (event : BookingEvent) :
    (screen.next event).filterStore =
      (screen.writes event).foldl DirectWrite.apply screen.filterStore := by
  cases event with
  | answerStatuses outcome =>
      unfold BookingFilterScreen.next
      dsimp only
      split
      · cases outcome <;> rfl
      · rfl
  | answerGateways outcome =>
      unfold BookingFilterScreen.next
      dsimp only
      split
      · cases outcome <;> rfl
      · rfl
  | tapStatus index => rfl
  | tapType index => rfl
  | tapPaymentStatus index => rfl
  | rebuild => rfl
  | openServices => rfl
  | answerServices isFirstPage ids isLastPage => rfl
  | tapService index => rfl
  | chooseDates startDate endDate => rfl
  | clearDates => rfl

theorem filterStore_bookingRun (start : BookingFilterScreen) (events : List BookingEvent) :
    (bookingMachine.run start events).filterStore =
      writeAll (bookingMachine.trace start events) start.filterStore :=
  Machine.view_run_eq_foldl BookingFilterScreen.filterStore DirectWrite.apply
    filterStore_bookingNext start events

/-! ### The service list of the bookings -/

theorem allKeys_tappedServices (index : Option ℕ) (screen : BookingFilterScreen) :
    allKeys 0 (screen.tappedServices index) = allKeys 0 screen.servicesList := by
  cases index with
  | none => rfl
  | some index => exact allKeys_tap 0 index screen.servicesList

theorem keepsServices_of_same {screen : BookingFilterScreen} {event : BookingEvent}
    (same : (screen.next event).filterStore.value .serviceId =
      screen.filterStore.value .serviceId) : screen.KeepsServices event := by
  intro id before after
  rw [same] at after
  exact absurd before after

theorem serviceId_of_no_tap {screen : BookingFilterScreen} {event : BookingEvent}
    (other : ∀ index, event ≠ .tapService index) :
    (screen.next event).filterStore.value .serviceId =
      screen.filterStore.value .serviceId := by
  rw [filterStore_bookingNext]
  cases event with
  | tapService index => exact absurd rfl (other index)
  | answerStatuses outcome => rfl
  | answerGateways outcome => rfl
  | tapStatus index => rfl
  | tapType index => rfl
  | tapPaymentStatus index => rfl
  | rebuild => rfl
  | openServices => rfl
  | answerServices isFirstPage ids isLastPage => rfl
  | chooseDates startDate endDate => rfl
  | clearDates => rfl

theorem keepsServices_tapService_iff (screen : BookingFilterScreen) (index : Option ℕ) :
    screen.KeepsServices (.tapService index) ↔ screen.FindsServices (.tapService index) := by
  have after : (screen.next (.tapService index)).filterStore.value .serviceId =
      ticked 0 (screen.tappedServices index) := value_services _ _
  unfold KeepsServices FindsServices
  dsimp only
  rw [after]
  constructor
  · intro keeps id before
    by_cases still : id ∈ ticked 0 (screen.tappedServices index)
    · have listed := mem_allKeys_of_mem_ticked still
      rw [allKeys_tappedServices] at listed
      exact Or.inr listed
    · exact keeps id before still
  · intro loaded id before _
    exact loaded id before

theorem keepsServices_iff (screen : BookingFilterScreen) (event : BookingEvent) :
    screen.KeepsServices event ↔ screen.FindsServices event := by
  by_cases taps : ∃ index, event = .tapService index
  · obtain ⟨index, rfl⟩ := taps
    exact keepsServices_tapService_iff screen index
  · have other : ∀ index, event ≠ .tapService index := fun index same => taps ⟨index, same⟩
    refine iff_of_true (keepsServices_of_same (serviceId_of_no_tap other)) ?_
    unfold FindsServices
    split
    · exact absurd rfl (other _)
    · trivial

theorem value_statuses_of_ne {field : FilterField} (other : field ≠ .bookingStatus)
    (keys : List String) (store : FilterStore) :
    (refill (Write.set .bookingStatus []) FilterStore.addToBookingStatusList keys
      store).value field = store.value field :=
  @value_refill_of_ne String (Write.set .bookingStatus [])
    (fun status => { cell := .bookingStatus, update := fun statuses => statuses ++ [status] })
    field other (fun _ => rfl) keys store

theorem value_types_of_ne {field : FilterField} (other : field ≠ .paymentType)
    (keys : List String) (store : FilterStore) :
    (refill (Write.set .paymentType []) FilterStore.addToPaymentTypeList keys
      store).value field = store.value field :=
  @value_refill_of_ne String (Write.set .paymentType [])
    (fun type => { cell := .paymentType, update := fun types => types ++ [type] })
    field other (fun _ => rfl) keys store

theorem value_paymentStatuses_of_ne {field : FilterField} (other : field ≠ .paymentStatus)
    (keys : List String) (store : FilterStore) :
    (refill (Write.set .paymentStatus []) FilterStore.addToPaymentStatusList keys
      store).value field = store.value field :=
  @value_refill_of_ne String (Write.set .paymentStatus [])
    (fun status => { cell := .paymentStatus, update := fun statuses => statuses ++ [status] })
    field other (fun _ => rfl) keys store

theorem value_apply_bookingStatus (screen : BookingFilterScreen) :
    screen.apply.value .bookingStatus = ticked "" (screen.bookingStatusList.getD []) :=
  calc screen.apply.value .bookingStatus
      = _ := value_paymentStatuses_of_ne (by decide) _ _
    _ = _ := value_types_of_ne (by decide) _ _
    _ = _ := read_refill (fun store => store.value .bookingStatus) (fun _ _ => rfl) rfl _

theorem value_apply_paymentType (screen : BookingFilterScreen) :
    screen.apply.value .paymentType = ticked "" (screen.paymentTypeList.getD []) :=
  calc screen.apply.value .paymentType
      = _ := value_paymentStatuses_of_ne (by decide) _ _
    _ = _ := read_refill (fun store => store.value .paymentType) (fun _ _ => rfl) rfl _

theorem value_apply_paymentStatus (screen : BookingFilterScreen) :
    screen.apply.value .paymentStatus = ticked "" screen.paymentStatusList :=
  read_refill (fun store => store.value .paymentStatus) (fun _ _ => rfl) rfl _

theorem value_bookingApply_of_ne (screen : BookingFilterScreen) {field : FilterField}
    (status : field ≠ .bookingStatus) (type : field ≠ .paymentType)
    (paymentStatus : field ≠ .paymentStatus) :
    screen.apply.value field = screen.filterStore.value field :=
  calc screen.apply.value field
      = _ := value_paymentStatuses_of_ne paymentStatus _ _
    _ = _ := value_types_of_ne type _ _
    _ = screen.filterStore.value field := value_statuses_of_ne status _ _

theorem bookingCommits_iff (screen : BookingFilterScreen) (entered : FilterStore) :
    screen.Commits entered screen.apply ↔ screen.Ready entered := by
  unfold Ready
  rw [← asShown_ticked_iff "" screen.bookingStatusList,
    ← asShown_ticked_iff "" screen.paymentTypeList, ← value_apply_bookingStatus,
    ← value_apply_paymentType, ← value_apply_paymentStatus]
  constructor
  · intro commits
    exact ⟨commits.statuses, commits.types, commits.paymentStatuses, commits.unrestored⟩
  · rintro ⟨statuses, types, paymentStatuses, unrestored⟩
    exact
      { statuses := statuses
        types := types
        paymentStatuses := paymentStatuses
        unrestored := unrestored
        others := fun field status type paymentStatus =>
          value_bookingApply_of_ne screen status type paymentStatus }

section BookingVisit

variable (found : FilterStore) (events : List BookingEvent)

def bookingVisit : BookingFilterScreen :=
  bookingMachine.run (BookingFilterScreen.opened found) events

def bookingWrites : List DirectWrite :=
  bookingMachine.trace (BookingFilterScreen.opened found) events

def BookingCommitsOrCancels (exit : Exit) : Prop :=
  match exit with
  | .apply =>
      bookingMachine.Every KeepsServices (BookingFilterScreen.opened found) events ∧
        (bookingVisit found events).Commits found ((bookingVisit found events).leave .apply)
  | exit => (bookingVisit found events).leave exit = found

def BookingSettles : Exit → Prop
  | .apply =>
      bookingMachine.Every FindsServices (BookingFilterScreen.opened found) events ∧
        (bookingVisit found events).Ready found
  | .back => Restores (bookingWrites found events) found
  | .clearFilter => NothingToClear found

theorem bookingVisit_commitsOrCancels_iff (exit : Exit) :
    BookingCommitsOrCancels found events exit ↔ BookingSettles found events exit := by
  have store : (bookingVisit found events).filterStore =
      writeAll (bookingWrites found events) found :=
    filterStore_bookingRun _ events
  cases exit with
  | apply =>
      have services : bookingMachine.Every KeepsServices (BookingFilterScreen.opened found) events ↔
          bookingMachine.Every FindsServices (BookingFilterScreen.opened found) events :=
        Machine.every_congr (fun _ => True) (fun _ _ _ => trivial)
          (fun screen event _ => keepsServices_iff screen event) trivial
      exact and_congr services (bookingCommits_iff _ found)
  | back =>
      rw [BookingSettles, ← writeAll_eq_self_iff, ← store]
      rfl
  | clearFilter =>
      unfold BookingCommitsOrCancels BookingFilterScreen.leave
      dsimp only
      rw [store]
      exact clear_writeAll_eq_self_iff _ _

end BookingVisit

/-- A visit to either screen commits or cancels exactly when it settles: it is left with
its direct writes undone, or applied with its lists loaded. -/
theorem filterVisits_settle_iff (texts : NumberTexts) :
    (∀ (isFromProvider isFromCategory : Bool) (found : Found) (events : List FilterEvent)
      (exit : Exit),
      (filterVisit texts isFromProvider isFromCategory found events).CommitsOrCancels
          found.screen.filterStore exit ↔
        (filterVisit texts isFromProvider isFromCategory found events).Settles
          (filterWrites texts isFromProvider isFromCategory found events)
          found.screen.filterStore exit) ∧
    ∀ (found : FilterStore) (events : List BookingEvent) (exit : Exit),
      BookingCommitsOrCancels found events exit ↔ BookingSettles found events exit :=
  ⟨filterVisit_commitsOrCancels_iff texts, bookingVisit_commitsOrCancels_iff⟩

def foundCategory : Found :=
  { screen := { atStart with filterStore := newFilterStore.addToCategoryIdList 7 }
    remembers := ⟨rfl, rfl⟩ }

/-- A rating stays in the store when the screen is left; a category is lost when its list
has failed to load, and so is a booking status. -/
theorem failed_list_counterexample :
    (¬ ∀ events, (filterVisit integerTexts true false foundCategory events).CommitsOrCancels
        foundCategory.screen.filterStore .back) ∧
    (¬ ∀ events, (filterVisit integerTexts true false foundCategory events).CommitsOrCancels
        foundCategory.screen.filterStore .apply) ∧
    ¬ ∀ events, BookingCommitsOrCancels (newFilterStore.addToBookingStatusList "pending") events
        .apply := by
  refine ⟨?_, ?_, ?_⟩
  · intro cancels
    have same := congrArg (fun store => store.value .ratingId) (cancels [.tapRating 5])
    exact absurd same (by decide)
  · intro commits
    have kept := (commits [.answerProviders (some ([some 1], 0, 100)),
      .answerCategories none]).categories
    exact absurd (kept 7 (by decide)) (by decide)
  · intro commits
    have kept := (commits [.answerStatuses none, .answerGateways none]).2.statuses
    exact absurd (kept "pending" (by decide)) (by decide)

end FiksOpp.FilterVisits
