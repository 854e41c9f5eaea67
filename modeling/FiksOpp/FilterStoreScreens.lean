/-
The screens that share the global `filterStore`.

`ViewAllServiceScreen` and `BookingFragment` make their first request before they
put a new store in place, `SearchServiceScreen` after.  All three clear, when they
are disposed of, whatever store is there then.  The store here remembers who chose
each filter, so that two histories can be compared for one screen.
-/

import FiksOpp.Foundations.EventRun
import FiksOpp.Foundations.ProvenanceStore
import Mathlib.Data.Int.Notation

namespace FiksOpp.Filters

open EventRun
open ProvenanceStore

/-- The observables of `FilterStore` that a list request reads. -/
inductive FilterCell where
  | serviceId
  | providerId
  | handymanId
  | bookingStatus
  | paymentStatus
  | paymentType
  | startDate
  | endDate
  | ratingId
  | categoryId
  | isPriceMax
  | isPriceMin
  | latitude
  | longitude
  deriving DecidableEq, Repr

namespace FilterCell

@[reducible] def Value : FilterCell → Type
  | .serviceId => List ℤ
  | .providerId => List ℤ
  | .handymanId => List ℤ
  | .bookingStatus => List String
  | .paymentStatus => List String
  | .paymentType => List String
  | .startDate => String
  | .endDate => String
  | .ratingId => List ℤ
  | .categoryId => List ℤ
  | .isPriceMax => String
  | .isPriceMin => String
  | .latitude => String
  | .longitude => String

def initial : (cell : FilterCell) → cell.Value
  | .serviceId => []
  | .providerId => []
  | .handymanId => []
  | .bookingStatus => []
  | .paymentStatus => []
  | .paymentType => []
  | .startDate => ""
  | .endDate => ""
  | .ratingId => []
  | .categoryId => []
  | .isPriceMax => ""
  | .isPriceMin => ""
  | .latitude => ""
  | .longitude => ""

/-- `clearFilters` leaves the coordinates alone. -/
def keptByClear : FilterCell → Bool
  | .latitude => true
  | .longitude => true
  | _ => false

end FilterCell

/-- Instances are numbered in the order in which they are opened. -/
abbrev FilterStore := Tracked Nat FilterCell.Value

def newFilterStore : FilterStore :=
  Tracked.untouched FilterCell.initial

def clearFilters (store : FilterStore) : FilterStore :=
  store.reset FilterCell.keptByClear FilterCell.initial

/-- An entry of a filter list, and whether it was tapped an odd number of times. -/
structure Choosable (Key : Type) where
  key : Key
  tapped : Bool
  deriving DecidableEq, Repr

/-- The entries ticked when the list is applied: those ticked from the store when
the list was loaded, changed by the taps. -/
def ticked {Key : Type} [DecidableEq Key] (entries : List (Choosable Key)) (seen : List Key) :
    List Key :=
  (entries.filter fun entry => xor (seen.contains entry.key) entry.tapped).map Choosable.key

def toggleRating (rating : ℤ) (ratingId : List ℤ) : List ℤ :=
  if ratingId.contains rating then ratingId.filter (· ≠ rating) else ratingId ++ [rating]

inductive FilterChoice where
  /-- "Apply" of `FilterScreen`. -/
  | applyFilters (catList providerList : List (Choosable ℤ))
  | price (start stop : ℤ)
  | rating (index : ℤ)
  /-- "Apply" of `BookingFilterScreen`. -/
  | applyBookingFilters (bookingStatusList paymentTypeList paymentStatusList :
      List (Choosable String))
  | services (serviceId : List ℤ)
  | dateRange (startDate endDate : String)
  | clearFilter
  deriving DecidableEq, Repr

def clearedCells : List FilterCell :=
  [.serviceId, .providerId, .handymanId, .bookingStatus, .paymentType, .paymentStatus,
    .startDate, .endDate, .ratingId, .categoryId, .isPriceMax, .isPriceMin]

def FilterChoice.choices : FilterChoice → List (Tracked.Choice FilterCell.Value)
  | .applyFilters catList providerList =>
      [.fromSeen .categoryId (ticked catList), .fromSeen .providerId (ticked providerList)]
  | .price start stop =>
      [.set .isPriceMin (toString start), .set .isPriceMax (toString stop)]
  | .rating index => [.modify .ratingId (toggleRating index)]
  | .applyBookingFilters bookingStatusList paymentTypeList paymentStatusList =>
      [.fromSeen .bookingStatus (ticked bookingStatusList),
        .fromSeen .paymentType (ticked paymentTypeList),
        .fromSeen .paymentStatus (ticked paymentStatusList)]
  | .services serviceId => [.set .serviceId serviceId]
  | .dateRange startDate endDate => [.set .startDate startDate, .set .endDate endDate]
  | .clearFilter => clearedCells.map fun cell => .set cell cell.initial

inductive FilterUser where
  | viewAllServiceScreen (categoryId providerId : Option ℤ) (isFeatured : String)
  | searchServiceScreen (search : String) (hasFeatured : Bool)
  | bookingFragment
  deriving DecidableEq, Repr

/-- What a request takes from the screen itself; `location` is the device's. -/
structure Local where
  page : ℤ := 1
  search : String := ""
  subCategory : Option ℤ := none
  location : String × String := ("", "")
  deriving DecidableEq, Repr

inductive ListRequest where
  | searchServiceAPI (page : ℤ) (categoryId subCategory providerId isPriceMin isPriceMax
      ratingId search latitude longitude isFeatured : String)
  | getBookingList (page : ℤ) (serviceId dateFrom dateTo providerId handymanId bookingStatus
      paymentStatus paymentType : String)
  deriving DecidableEq, Repr

def join (ids : List ℤ) : String :=
  ",".intercalate (ids.map toString)

def joinTexts (texts : List String) : String :=
  ",".intercalate texts

def subCategoryText : Option ℤ → String
  | some subCategory => toString subCategory
  | none => ""

/-- `fetchAllServiceData` of the two service screens, and `init` of the bookings. -/
def fetchData (user : FilterUser) (own : Local) (store : ∀ cell, FilterCell.Value cell) :
    ListRequest :=
  match user with
  | .viewAllServiceScreen categoryId providerId isFeatured =>
      .searchServiceAPI own.page
        (match categoryId with
          | some id => toString id
          | none => join (store .categoryId))
        (subCategoryText own.subCategory)
        (match providerId with
          | some id => toString id
          | none => join (store .providerId))
        (store .isPriceMin) (store .isPriceMax) (join (store .ratingId)) own.search
        own.location.1 own.location.2 isFeatured
  | .searchServiceScreen _ _ =>
      .searchServiceAPI own.page (join (store .categoryId)) (subCategoryText own.subCategory)
        (join (store .providerId)) (store .isPriceMin) (store .isPriceMax)
        (join (store .ratingId)) own.search (store .latitude) (store .longitude) ""
  | .bookingFragment =>
      .getBookingList own.page (join (store .serviceId)) (store .startDate) (store .endDate)
        (join (store .providerId)) (join (store .handymanId)) (joinTexts (store .bookingStatus))
        (joinTexts (store .paymentStatus)) (joinTexts (store .paymentType))

def reads : FilterUser → List FilterCell
  | .viewAllServiceScreen categoryId providerId _ =>
      (if categoryId.isNone then [.categoryId] else []) ++
        (if providerId.isNone then [.providerId] else []) ++
          [.isPriceMin, .isPriceMax, .ratingId]
  | .searchServiceScreen _ _ =>
      [.categoryId, .providerId, .isPriceMin, .isPriceMax, .ratingId, .latitude, .longitude]
  | .bookingFragment =>
      [.serviceId, .startDate, .endDate, .providerId, .handymanId, .bookingStatus,
        .paymentStatus, .paymentType]

/-! ### Screens -/

structure Instance where
  user : FilterUser
  /-- The filters as they were when the open filter screen loaded its lists. -/
  seen : FilterStore

structure FilterWorld where
  filterStore : FilterStore
  instances : Nat → Option Instance
  opened : Nat

inductive FilterEvent where
  | push (user : FilterUser) (location : String × String)
  | dispose (screen : Nat)
  /-- A filter screen is opened over the instance; none of its lists is loaded. -/
  | openFilter (screen : Nat)
  | loadList (screen : Nat) (cell : FilterCell)
  | choose (screen : Nat) (choice : FilterChoice)
  /-- Applied filters, a submitted or cleared search, a subcategory, a refresh, a
  retry, a next page, or an update announced to the bookings. -/
  | fetch (screen : Nat) (own : Local)
  deriving DecidableEq, Repr

namespace FilterWorld

/-- What `initState` asks for at once, from the store it finds or from a new one. -/
def firstRequest (world : FilterWorld) (user : FilterUser) (location : String × String) :
    Option ListRequest :=
  match user with
  | .viewAllServiceScreen _ _ _ =>
      some (fetchData user { location := location } world.filterStore.value)
  | .searchServiceScreen search hasFeatured =>
      if !hasFeatured || !search.isEmpty then
        some (fetchData user { search := search, location := location } newFilterStore.value)
      else none
  | .bookingFragment => some (fetchData user { location := location } world.filterStore.value)

def push (world : FilterWorld) (user : FilterUser) : FilterWorld :=
  { filterStore := newFilterStore
    instances := Function.update world.instances world.opened
      (some { user := user, seen := newFilterStore })
    opened := world.opened + 1 }

def dispose (world : FilterWorld) (screen : Nat) : FilterWorld :=
  match world.instances screen with
  | none => world
  | some _ =>
      { world with
        filterStore := clearFilters world.filterStore
        instances := Function.update world.instances screen none }

def setSeen (world : FilterWorld) (screen : Nat) (look : FilterStore → FilterStore) :
    FilterWorld :=
  match world.instances screen with
  | none => world
  | some mounted =>
      { world with
        instances := Function.update world.instances screen
          (some { mounted with seen := look mounted.seen }) }

def choose (world : FilterWorld) (screen : Nat) (choice : FilterChoice) : FilterWorld :=
  match world.instances screen with
  | none => world
  | some mounted =>
      { world with
        filterStore := world.filterStore.chooseAll screen mounted.seen choice.choices }

def next (world : FilterWorld) : FilterEvent → FilterWorld
  | .push user _ => world.push user
  | .dispose screen => world.dispose screen
  | .openFilter screen => world.setSeen screen fun _ => newFilterStore
  | .loadList screen cell => world.setSeen screen (world.filterStore.look cell)
  | .choose screen choice => world.choose screen choice
  | .fetch _ _ => world

def outputs (world : FilterWorld) : FilterEvent → List (Nat × ListRequest)
  | .push user location =>
      (world.firstRequest user location).toList.map fun request => (world.opened, request)
  | .fetch screen own =>
      match world.instances screen with
      | none => []
      | some mounted => [(screen, fetchData mounted.user own world.filterStore.value)]
  | _ => []

end FilterWorld

open FilterWorld

def machine : Machine FilterWorld FilterEvent (Nat × ListRequest) :=
  { next := next
    outputs := outputs }

def atStart : FilterWorld :=
  { filterStore := newFilterStore
    instances := fun _ => none
    opened := 0 }

def requestOf (me : Nat) (output : Nat × ListRequest) : Option ListRequest :=
  if output.1 = me then some output.2 else none

def OtherScreen (me : Nat) : FilterEvent → Prop
  | .openFilter screen => screen ≠ me
  | .loadList screen _ => screen ≠ me
  | .choose screen _ => screen ≠ me
  | _ => False

/-- The same event, or anything on the filter screens of other instances. -/
def Matched (me : Nat) (event event' : FilterEvent) : Prop :=
  event = event' ∨ OtherScreen me event ∧ OtherScreen me event'

/-- A request of the instance looks at no filter that another instance chose since
the store was made or cleared. -/
def ReadsOwn (me : Nat) (world : FilterWorld) : FilterEvent → Prop
  | .push user _ =>
      world.opened = me →
        match user with
        | .searchServiceScreen _ _ => True
        | _ => ∀ cell ∈ reads user, world.filterStore.Own me cell
  | .fetch screen _ =>
      screen = me → ∀ mounted, world.instances screen = some mounted →
        ∀ cell ∈ reads mounted.user, world.filterStore.Own me cell
  | _ => True

structure Related (me : Nat) (left right : FilterWorld) : Prop where
  opened : left.opened = right.opened
  users : ∀ screen,
    (left.instances screen).map Instance.user = (right.instances screen).map Instance.user
  stores : Tracked.AgreeFor me left.filterStore right.filterStore
  seen : ∀ mine mine', left.instances me = some mine → right.instances me = some mine' →
    Tracked.AgreeFor me mine.seen mine'.seen

namespace Related

variable {me : Nat} {left right : FilterWorld}

theorem refl (me : Nat) (world : FilterWorld) : Related me world world where
  opened := rfl
  users := fun _ => rfl
  stores := Tracked.AgreeFor.refl me _
  seen := by
    intro mine mine' mounted mounted'
    rw [mounted] at mounted'
    cases mounted'
    exact Tracked.AgreeFor.refl me _

theorem symm (related : Related me left right) : Related me right left where
  opened := related.opened.symm
  users := fun screen => (related.users screen).symm
  stores := related.stores.symm
  seen := fun mine mine' mounted mounted' => (related.seen mine' mine mounted' mounted).symm

theorem unmounted (related : Related me left right) {screen : Nat}
    (absent : left.instances screen = none) : right.instances screen = none := by
  have same := related.users screen
  rw [absent] at same
  exact Option.map_eq_none_iff.mp same.symm

theorem mounted (related : Related me left right) {screen : Nat} {mine : Instance}
    (present : left.instances screen = some mine) :
    ∃ mine', right.instances screen = some mine' ∧ mine'.user = mine.user := by
  have same := related.users screen
  rw [present] at same
  exact Option.map_eq_some_iff.mp same.symm

theorem push (related : Related me left right) (user : FilterUser) :
    Related me (left.push user) (right.push user) where
  opened := congrArg (· + 1) related.opened
  users := by
    intro screen
    unfold FilterWorld.push
    dsimp only
    rw [related.opened]
    by_cases new : screen = right.opened
    · rw [new, Function.update_self, Function.update_self]
    · rw [Function.update_of_ne new, Function.update_of_ne new]
      exact related.users screen
  stores := Tracked.AgreeFor.refl me _
  seen := by
    intro mine mine' present present'
    unfold FilterWorld.push at present present'
    dsimp only at present present'
    rw [related.opened] at present
    by_cases new : me = right.opened
    · rw [← new, Function.update_self] at present present'
      cases present
      cases present'
      exact Tracked.AgreeFor.refl me _
    · rw [Function.update_of_ne new] at present present'
      exact related.seen mine mine' present present'

theorem dispose (related : Related me left right) (screen : Nat) :
    Related me (left.dispose screen) (right.dispose screen) := by
  unfold FilterWorld.dispose
  cases present : left.instances screen with
  | none =>
      rw [related.unmounted present]
      exact related
  | some mine =>
      obtain ⟨mine', present', _⟩ := related.mounted present
      rw [present']
      refine
        { opened := related.opened
          users := ?_
          stores := related.stores.reset _ _
          seen := ?_ }
      · intro other
        dsimp only
        by_cases here : other = screen
        · rw [here, Function.update_self, Function.update_self]
        · rw [Function.update_of_ne here, Function.update_of_ne here]
          exact related.users other
      · intro own own' stays stays'
        dsimp only at stays stays'
        by_cases here : me = screen
        · rw [here, Function.update_self] at stays
          cases stays
        · rw [Function.update_of_ne here] at stays stays'
          exact related.seen own own' stays stays'

theorem setSeen (related : Related me left right) (screen : Nat)
    {look look' : FilterStore → FilterStore}
    (agree : screen = me → ∀ seen seen', Tracked.AgreeFor me seen seen' →
      Tracked.AgreeFor me (look seen) (look' seen')) :
    Related me (left.setSeen screen look) (right.setSeen screen look') := by
  unfold FilterWorld.setSeen
  cases present : left.instances screen with
  | none =>
      rw [related.unmounted present]
      exact related
  | some mine =>
      obtain ⟨mine', present', sameUser⟩ := related.mounted present
      rw [present']
      refine
        { opened := related.opened
          users := ?_
          stores := related.stores
          seen := ?_ }
      · intro other
        dsimp only
        by_cases here : other = screen
        · rw [here, Function.update_self, Function.update_self]
          exact congrArg some sameUser.symm
        · rw [Function.update_of_ne here, Function.update_of_ne here]
          exact related.users other
      · intro own own' stays stays'
        dsimp only at stays stays'
        by_cases here : me = screen
        · subst here
          rw [Function.update_self] at stays stays'
          cases stays
          cases stays'
          exact agree rfl _ _ (related.seen mine mine' present present')
        · rw [Function.update_of_ne here] at stays stays'
          exact related.seen own own' stays stays'

theorem setSeen_other (related : Related me left right) {screen : Nat} (other : screen ≠ me)
    (look : FilterStore → FilterStore) : Related me (left.setSeen screen look) right := by
  unfold FilterWorld.setSeen
  cases present : left.instances screen with
  | none => exact related
  | some mine =>
      refine
        { opened := related.opened
          users := ?_
          stores := related.stores
          seen := ?_ }
      · intro place
        dsimp only
        by_cases here : place = screen
        · rw [here, Function.update_self, ← related.users screen, present]
          rfl
        · rw [Function.update_of_ne here]
          exact related.users place
      · intro own own' stays stays'
        dsimp only at stays
        rw [Function.update_of_ne other.symm] at stays
        exact related.seen own own' stays stays'

theorem withStores (related : Related me left right) {store store' : FilterStore}
    (agree : Tracked.AgreeFor me store store') :
    Related me { left with filterStore := store } { right with filterStore := store' } where
  opened := related.opened
  users := related.users
  stores := agree
  seen := related.seen

theorem choose_other (related : Related me left right) {screen : Nat} (other : screen ≠ me)
    (choice : FilterChoice) : Related me (left.choose screen choice) right := by
  unfold FilterWorld.choose
  cases left.instances screen with
  | none => exact related
  | some mine =>
      exact related.withStores (related.stores.chooseAll_other other mine.seen choice.choices)

theorem choose (related : Related me left right) (screen : Nat) (choice : FilterChoice) :
    Related me (left.choose screen choice) (right.choose screen choice) := by
  by_cases mine : screen = me
  · subst mine
    unfold FilterWorld.choose
    cases present : left.instances screen with
    | none =>
        rw [related.unmounted present]
        exact related
    | some own =>
        obtain ⟨own', present', _⟩ := related.mounted present
        rw [present']
        exact related.withStores
          (related.stores.chooseAll (related.seen own own' present present') choice.choices)
  · exact ((related.choose_other mine choice).symm.choose_other mine choice).symm

theorem next_other (related : Related me left right) {event : FilterEvent}
    (other : OtherScreen me event) : Related me (left.next event) right := by
  cases event with
  | openFilter screen => exact related.setSeen_other other (fun _ => newFilterStore)
  | loadList screen cell => exact related.setSeen_other other _
  | choose screen choice => exact related.choose_other other choice
  | push user location => exact absurd other id
  | dispose screen => exact absurd other id
  | fetch screen own => exact absurd other id

theorem next_same (related : Related me left right) (event : FilterEvent) :
    Related me (left.next event) (right.next event) := by
  cases event with
  | push user location => exact related.push user
  | dispose screen => exact related.dispose screen
  | openFilter screen => exact related.setSeen screen (fun _ _ _ _ => Tracked.AgreeFor.refl me _)
  | loadList screen cell =>
      apply related.setSeen screen
      intro _ seen seen' agree
      exact related.stores.look agree cell
  | choose screen choice => exact related.choose screen choice
  | fetch screen own => exact related

theorem next_matched (related : Related me left right) {event event' : FilterEvent}
    (matched : Matched me event event') : Related me (left.next event) (right.next event') := by
  rcases matched with same | ⟨other, other'⟩
  · rw [same]
    exact related.next_same event'
  · exact ((related.next_other other).symm.next_other other').symm

end Related

/-! ### What one event asks for -/

theorem fetchData_congr (user : FilterUser) (own : Local)
    {left right : ∀ cell, FilterCell.Value cell}
    (agree : ∀ cell ∈ reads user, left cell = right cell) :
    fetchData user own left = fetchData user own right := by
  cases user with
  | viewAllServiceScreen categoryId providerId isFeatured =>
      have priceMin := agree .isPriceMin (by simp [reads])
      have priceMax := agree .isPriceMax (by simp [reads])
      have rating := agree .ratingId (by simp [reads])
      unfold fetchData
      dsimp only
      rw [priceMin, priceMax, rating]
      cases categoryId with
      | some category =>
          cases providerId with
          | some provider => rfl
          | none => rw [agree .providerId (by simp [reads])]
      | none =>
          rw [agree .categoryId (by simp [reads])]
          cases providerId with
          | some provider => rfl
          | none => rw [agree .providerId (by simp [reads])]
  | searchServiceScreen search hasFeatured =>
      unfold fetchData
      dsimp only
      rw [agree .categoryId (by simp [reads]), agree .providerId (by simp [reads]),
        agree .isPriceMin (by simp [reads]), agree .isPriceMax (by simp [reads]),
        agree .ratingId (by simp [reads]), agree .latitude (by simp [reads]),
        agree .longitude (by simp [reads])]
  | bookingFragment =>
      unfold fetchData
      dsimp only
      rw [agree .serviceId (by simp [reads]), agree .startDate (by simp [reads]),
        agree .endDate (by simp [reads]), agree .providerId (by simp [reads]),
        agree .handymanId (by simp [reads]), agree .bookingStatus (by simp [reads]),
        agree .paymentStatus (by simp [reads]), agree .paymentType (by simp [reads])]

theorem Related.fetchData_eq {me : Nat} {left right : FilterWorld}
    (related : Related me left right) (user : FilterUser) (own : Local)
    (owns : ∀ cell ∈ reads user, left.filterStore.Own me cell)
    (owns' : ∀ cell ∈ reads user, right.filterStore.Own me cell) :
    fetchData user own left.filterStore.value = fetchData user own right.filterStore.value := by
  apply fetchData_congr
  intro cell member
  exact related.stores cell (owns cell member) (owns' cell member)

theorem outputs_other {me : Nat} {event : FilterEvent} (other : OtherScreen me event)
    (world : FilterWorld) : world.outputs event = [] := by
  cases event with
  | push user location => exact absurd other id
  | fetch screen own => exact absurd other id
  | dispose screen => rfl
  | openFilter screen => rfl
  | loadList screen cell => rfl
  | choose screen choice => rfl

theorem Related.firstRequest_eq {me : Nat} {left right : FilterWorld}
    (related : Related me left right) (user : FilterUser) (location : String × String)
    (owns : ReadsOwn me left (.push user location))
    (owns' : ReadsOwn me right (.push user location)) (new : right.opened = me) :
    left.firstRequest user location = right.firstRequest user location := by
  have new' : left.opened = me := related.opened.trans new
  cases user with
  | viewAllServiceScreen categoryId providerId isFeatured =>
      exact congrArg some (related.fetchData_eq _ _ (owns new') (owns' new))
  | searchServiceScreen search hasFeatured => rfl
  | bookingFragment => exact congrArg some (related.fetchData_eq _ _ (owns new') (owns' new))

theorem Related.outputs_eq {me : Nat} {left right : FilterWorld}
    (related : Related me left right) (event : FilterEvent) (owns : ReadsOwn me left event)
    (owns' : ReadsOwn me right event) :
    (left.outputs event).filterMap (requestOf me) =
      (right.outputs event).filterMap (requestOf me) := by
  cases event with
  | push user location =>
      unfold FilterWorld.outputs
      dsimp only
      by_cases new : right.opened = me
      · rw [related.firstRequest_eq user location owns owns' new, related.opened]
      · have silent : ∀ world : FilterWorld, world.opened = right.opened →
            ((world.firstRequest user location).toList.map
              fun request => (world.opened, request)).filterMap (requestOf me) = [] := by
          intro world same
          apply List.filterMap_eq_nil_iff.mpr
          intro output member
          obtain ⟨request, _, made⟩ := List.mem_map.mp member
          rw [← made, same]
          exact if_neg new
        rw [silent left related.opened, silent right rfl]
  | fetch screen own =>
      unfold FilterWorld.outputs
      dsimp only
      cases present : left.instances screen with
      | none => rw [related.unmounted present]
      | some mine =>
          obtain ⟨mine', present', sameUser⟩ := related.mounted present
          rw [present']
          dsimp only
          by_cases here : screen = me
          · have reads' := owns' here mine' present'
            rw [sameUser] at reads'
            rw [sameUser, related.fetchData_eq mine.user own (owns here mine present) reads']
          · have silent : ∀ request, requestOf me (screen, request) = none :=
              fun request => if_neg here
            rw [List.filterMap_cons_none (silent _), List.filterMap_cons_none (silent _)]
  | dispose screen => rfl
  | openFilter screen => rfl
  | loadList screen cell => rfl
  | choose screen choice => rfl

/-- Histories that differ only on the filter screens of other instances give one
instance the same requests, when each of its requests looks only at filters that
nobody else chose since the store was made or cleared. -/
theorem requests_eq_of_readsOwn (me : Nat) {events events' : List FilterEvent}
    (differElsewhere : List.Forall₂ (Matched me) events events')
    (owns : machine.Every (ReadsOwn me) atStart events)
    (owns' : machine.Every (ReadsOwn me) atStart events') :
    (machine.trace atStart events).filterMap (requestOf me) =
      (machine.trace atStart events').filterMap (requestOf me) := by
  apply Machine.related_trace (Related me) (Matched me) (requestOf me) ?_ ?_
    (Related.refl me atStart) differElsewhere owns owns'
  · intro left right event event' related matched
    exact related.next_matched matched
  · intro left right event event' related matched here here'
    rcases matched with same | ⟨other, other'⟩
    · subst same
      exact related.outputs_eq event here here'
    · change (left.outputs event).filterMap _ = (right.outputs event').filterMap _
      rw [outputs_other other, outputs_other other']

def twoSearches (category : ℤ) : List FilterEvent :=
  [.push (.searchServiceScreen "" true) ("", ""),
    .choose 0 (.applyFilters [⟨category, true⟩] []),
    .push (.searchServiceScreen "" true) ("", ""),
    .choose 1 (.rating 5),
    .fetch 1 {}]

theorem requests_eq_of_readsOwn_example :
    (machine.trace atStart (twoSearches 7)).filterMap (requestOf 1) =
      (machine.trace atStart (twoSearches 8)).filterMap (requestOf 1) := by
  have owns : ∀ category, machine.Every (ReadsOwn 1) atStart (twoSearches category) := by
    intro category
    refine ⟨fun _ => trivial, trivial, fun _ => trivial, trivial, ?_, trivial⟩
    intro _ mounted present
    cases present
    change ∀ cell ∈ reads (.searchServiceScreen "" true),
      ∀ chooser ∈ Function.update (fun _ => []) FilterCell.ratingId [1] cell, chooser = 1
    decide
  apply requests_eq_of_readsOwn 1 ?_ (owns 7) (owns 8)
  have elsewhere : OtherScreen 1 (.choose 0 (.applyFilters [] [])) := Nat.zero_ne_one
  exact .cons (Or.inl rfl) (.cons (Or.inr ⟨elsewhere, elsewhere⟩)
    (.cons (Or.inl rfl) (.cons (Or.inl rfl) (.cons (Or.inl rfl) .nil))))

/-- A category is applied on a search screen, and the services of provider 3 are
opened from there. -/
def providerServicesOverSearch (category : ℤ) : List FilterEvent :=
  [.push (.searchServiceScreen "" true) ("", ""),
    .choose 0 (.applyFilters [⟨category, true⟩] []),
    .push (.viewAllServiceScreen none (some 3) "") ("", "")]

theorem requests_follow_other_screen :
    ¬ ∀ (me : Nat) (events events' : List FilterEvent),
      List.Forall₂ (Matched me) events events' →
        (machine.trace atStart events).filterMap (requestOf me) =
          (machine.trace atStart events').filterMap (requestOf me) := by
  intro claimed
  have elsewhere : OtherScreen 1 (.choose 0 (.applyFilters [] [])) := Nat.zero_ne_one
  have same := claimed 1 (providerServicesOverSearch 7) (providerServicesOverSearch 8)
    (.cons (Or.inl rfl) (.cons (Or.inr ⟨elsewhere, elsewhere⟩) (.cons (Or.inl rfl) .nil)))
  revert same
  decide +kernel

end FiksOpp.Filters
