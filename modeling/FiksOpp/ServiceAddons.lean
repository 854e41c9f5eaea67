/-
Add-on selections through a stack of service detail screens.

A loaded detail screen has add-on objects of its own, each with a flag.  One
global store holds the list that a booking sends.  Opening a detail screen empties
that list in place; a tap on an add-on puts the flagged objects of the tapped
component's list in its stead.
-/

import FiksOpp.BookingRequest
import FiksOpp.Foundations.EventRun

namespace FiksOpp.ServiceAddons

open EventRun
open BookingRequest

structure AddonObject where
  addon : Serviceaddon := {}
  isSelected : Bool := false
  deriving DecidableEq, Repr

/-- What a detail screen has loaded; the add-ons are references to objects. -/
structure LoadedService where
  response : ServiceDetailResponse
  serviceaddon : List Nat

/-- `addonList` is the list object the add-on component was last built with, and
`tiles` what it held then; `priced` is what `setPrice` read last. -/
structure BookingScreen where
  screen : BookServiceScreen
  offered : List Nat
  state : BookServiceState
  priced : List Nat
  addonList : Nat
  tiles : List Nat

inductive Screen where
  /-- Without data while it loads and after a failed load. -/
  | detail (loaded : Option LoadedService)
  | booking (booking : BookingScreen)

def Screen.addons : Screen → List Nat
  | .detail (some loaded) => loaded.serviceaddon
  | .detail none => []
  | .booking onTop => onTop.offered

structure World where
  objects : Nat → AddonObject
  nextObject : Nat
  lists : Nat → List Nat
  /-- The list object in `serviceAddonStore`. -/
  selectedServiceAddon : Nat
  /-- The screen on top comes first. -/
  stack : List Screen
  /-- History: the add-ons of the component that last wrote the store; none of
  them after a detail screen has opened. -/
  writtenFrom : List Nat

inductive NavigationEvent where
  /-- `ServiceDetailScreen` is pushed over whatever is on top. -/
  | openDetail
  /-- A detail response arrives, the first one or that of a refresh. -/
  | loaded (position : Nat) (response : ServiceDetailResponse) (addons : List Serviceaddon)
  | failed (position : Nat)
  | back
  | tapAddon (index : Nat)
  | bookNow (selectedPackage : Option BookingPackage)
  /-- The quantity arrows, or a coupon applied or removed. -/
  | changePrice (itemCount : ℤ) (appliedCouponData : Option CouponData)
  /-- The booking screen writes into the service it was given. -/
  | enter (serviceDetail : ServiceData) (rebuilds : Bool)
  | confirm (userId : ℤ) (selectedService : List ℤ)

/-- A booking-save request, beside the add-ons the booked service offers and shows. -/
structure Saved where
  request : BookingSaveRequest
  selectedServiceAddon : List Serviceaddon
  priced : List Serviceaddon
  offered : List Serviceaddon
  shown : List Serviceaddon

def selectedOf (objects : Nat → AddonObject) (serviceAddon : List Nat) : List Nat :=
  serviceAddon.filter fun data => (objects data).isSelected

def toggled (objects : Nat → AddonObject) (data : Nat) : Nat → AddonObject :=
  Function.update objects data
    { objects data with isSelected := !(objects data).isSelected }

namespace World

def selected (world : World) : List Nat :=
  world.lists world.selectedServiceAddon

def addonsAt (world : World) (references : List Nat) : List Serviceaddon :=
  references.map fun data => (world.objects data).addon

def setSelectedServiceAddon (world : World) (value : List Nat) : World :=
  { world with
    lists := Function.update world.lists (world.selectedServiceAddon + 1) value
    selectedServiceAddon := world.selectedServiceAddon + 1 }

/-- `AddonComponent.handleAddRemove` with the callback both screens give it. -/
def handleAddRemove (world : World) (serviceAddon : List Nat) (data : Nat) : World :=
  let objects := toggled world.objects data
  setSelectedServiceAddon { world with objects := objects, writtenFrom := serviceAddon }
    (selectedOf objects serviceAddon)

def openDetail (world : World) : World :=
  { world with
    lists := Function.update world.lists world.selectedServiceAddon []
    stack := .detail none :: world.stack
    writtenFrom := [] }

/-- The decoder makes new objects, none of them selected. -/
def allocate (world : World) (addons : List Serviceaddon) : World :=
  { world with
    objects := fun data =>
      if data < world.nextObject then world.objects data
      else { addon := addons.getD (data - world.nextObject) {} }
    nextObject := world.nextObject + addons.length }

def answered (world : World) (position : Nat) (loaded : Option LoadedService) : World :=
  match world.stack[position]? with
  | some (.detail _) => { world with stack := world.stack.set position (.detail loaded) }
  | _ => world

def loaded (world : World) (position : Nat) (response : ServiceDetailResponse)
    (addons : List Serviceaddon) : World :=
  (world.allocate addons).answered position
    (some
      { response := response
        serviceaddon := List.range' world.nextObject addons.length })

def rebuilt (world : World) (booking : BookingScreen) : BookingScreen :=
  { booking with
    addonList := world.selectedServiceAddon
    tiles := world.selected }

/-- `setPrice`, whose `setState` builds the screen again. -/
def setPriceOf (world : World) (decimals : ℕ) (booking : BookingScreen) : BookingScreen :=
  world.rebuilt
    { booking with
      state := setPrice decimals booking.screen (world.addonsAt world.selected) booking.state
      priced := world.selected }

def tapAddon (world : World) (decimals : ℕ) (index : Nat) : World :=
  match world.stack with
  | .detail (some loaded) :: _ =>
      match loaded.serviceaddon[index]? with
      | some data => world.handleAddRemove loaded.serviceaddon data
      | none => world
  | .booking booking :: below =>
      match booking.tiles[index]? with
      | some data =>
          let after := world.handleAddRemove (world.lists booking.addonList) data
          { after with stack := .booking (after.setPriceOf decimals booking) :: below }
      | none => world
  | _ => world

def bookNow (world : World) (decimals : ℕ) (selectedPackage : Option BookingPackage) : World :=
  match world.stack with
  | .detail (some loaded) :: _ =>
      let booking : BookingScreen :=
        { screen := { data := loaded.response, selectedPackage := selectedPackage }
          offered := loaded.serviceaddon
          state := {}
          priced := []
          addonList := world.selectedServiceAddon
          tiles := [] }
      { world with stack := .booking (world.setPriceOf decimals booking) :: world.stack }
  | _ => world

def onBooking (world : World) (change : BookingScreen → BookingScreen) : World :=
  match world.stack with
  | .booking booking :: below => { world with stack := .booking (change booking) :: below }
  | _ => world

def changePrice (world : World) (decimals : ℕ) (itemCount : ℤ)
    (appliedCouponData : Option CouponData) : World :=
  world.onBooking fun booking =>
    world.setPriceOf decimals
      { booking with
        state :=
          { booking.state with
            itemCount := itemCount
            appliedCouponData := appliedCouponData } }

def enter (world : World) (serviceDetail : ServiceData) (rebuilds : Bool) : World :=
  world.onBooking fun booking =>
    let entered : BookingScreen :=
      { booking with
        screen :=
          { booking.screen with
            data := { booking.screen.data with serviceDetail := serviceDetail } } }
    if rebuilds then world.rebuilt entered else entered

def next (decimals : ℕ) (world : World) : NavigationEvent → World
  | .openDetail => world.openDetail
  | .loaded position response addons => world.loaded position response addons
  | .failed position => world.answered position none
  | .back => { world with stack := world.stack.tail }
  | .tapAddon index => world.tapAddon decimals index
  | .bookNow selectedPackage => world.bookNow decimals selectedPackage
  | .changePrice itemCount appliedCouponData =>
      world.changePrice decimals itemCount appliedCouponData
  | .enter serviceDetail rebuilds => world.enter serviceDetail rebuilds
  | .confirm _ _ => world

/-- What `bookServices` posts from the dialog over a booking screen.  The dialog is
modal, so the amounts it was opened with are those of the screen below. -/
def saved (world : World) (decimals : ℕ) (userId : ℤ) (selectedService : List ℤ)
    (booking : BookingScreen) : Saved :=
  { request := bookServices decimals userId (world.addonsAt world.selected) selectedService
      (confirmBookingDialog booking.screen booking.state)
    selectedServiceAddon := world.addonsAt world.selected
    priced := world.addonsAt booking.priced
    offered := world.addonsAt booking.offered
    shown := world.addonsAt (selectedOf world.objects booking.offered) }

def outputs (decimals : ℕ) (world : World) : NavigationEvent → List Saved
  | .confirm userId selectedService =>
      match world.stack with
      | .booking booking :: _ => [world.saved decimals userId selectedService booking]
      | _ => []
  | _ => []

end World

open World

def machine (decimals : ℕ) : Machine World NavigationEvent Saved :=
  { next := next decimals
    outputs := World.outputs decimals }

def atStart : World :=
  { objects := fun _ => {}
    nextObject := 0
    lists := fun _ => []
    selectedServiceAddon := 0
    stack := []
    writtenFrom := [] }

/-- The request sends the add-ons shown as selected, all of them on offer, and the
price was computed from the list that is sent. -/
def BooksShown (saved : Saved) : Prop :=
  saved.request.serviceAddonId = saved.shown.map Serviceaddon.id ∧
    (∀ id ∈ saved.request.serviceAddonId, id ∈ saved.offered.map Serviceaddon.id) ∧
    saved.priced = saved.selectedServiceAddon

/-- At a confirmation the component that last wrote the store shows the selection
that the booked service shows, and `setPrice` has read that selection. -/
def ConfirmsOwnSelection (world : World) : NavigationEvent → Prop
  | .confirm _ _ =>
      ∀ booking below, world.stack = .booking booking :: below →
        let written := world.addonsAt (selectedOf world.objects world.writtenFrom)
        let shown := world.addonsAt (selectedOf world.objects booking.offered)
        written.map Serviceaddon.id = shown.map Serviceaddon.id ∧
          world.addonsAt booking.priced = written
  | _ => True

/-! ### The store mirrors the component that wrote it last -/

structure Faithful (world : World) : Prop where
  mirrors : world.selected = selectedOf world.objects world.writtenFrom
  written : ∀ data ∈ world.writtenFrom, data < world.nextObject
  listed : ∀ list, ∀ data ∈ world.lists list, data < world.nextObject
  onScreen : ∀ screen ∈ world.stack, ∀ data ∈ screen.addons, data < world.nextObject

theorem faithful_atStart : Faithful atStart where
  mirrors := rfl
  written := fun _ impossible => absurd impossible List.not_mem_nil
  listed := fun _ _ impossible => absurd impossible List.not_mem_nil
  onScreen := fun _ impossible => absurd impossible List.not_mem_nil

theorem mem_of_mem_selectedOf {objects : Nat → AddonObject} {serviceAddon : List Nat} {data : Nat}
    (member : data ∈ selectedOf objects serviceAddon) : data ∈ serviceAddon :=
  List.mem_of_mem_filter member

@[simp] theorem selected_setSelectedServiceAddon (world : World) (value : List Nat) :
    (world.setSelectedServiceAddon value).selected = value :=
  Function.update_self ..

theorem Faithful.handleAddRemove {world : World} (faithful : Faithful world)
    {serviceAddon : List Nat} (known : ∀ data ∈ serviceAddon, data < world.nextObject)
    (data : Nat) : Faithful (world.handleAddRemove serviceAddon data) where
  mirrors := selected_setSelectedServiceAddon _ _
  written := known
  listed := by
    intro list other member
    change other ∈ Function.update world.lists (world.selectedServiceAddon + 1) _ list at member
    by_cases fresh : list = world.selectedServiceAddon + 1
    · rw [fresh, Function.update_self] at member
      exact known other (mem_of_mem_selectedOf member)
    · rw [Function.update_of_ne fresh] at member
      exact faithful.listed list other member
  onScreen := faithful.onScreen

theorem Faithful.withStack {world : World} (faithful : Faithful world) {stack : List Screen}
    (known : ∀ screen ∈ stack, ∀ data ∈ screen.addons, data < world.nextObject) :
    Faithful { world with stack := stack } where
  mirrors := faithful.mirrors
  written := faithful.written
  listed := faithful.listed
  onScreen := known

theorem Faithful.openDetail {world : World} (faithful : Faithful world) :
    Faithful world.openDetail where
  mirrors := Function.update_self ..
  written := fun _ impossible => absurd impossible List.not_mem_nil
  listed := by
    intro list data member
    change data ∈ Function.update world.lists world.selectedServiceAddon [] list at member
    by_cases current : list = world.selectedServiceAddon
    · rw [current, Function.update_self] at member
      exact absurd member List.not_mem_nil
    · rw [Function.update_of_ne current] at member
      exact faithful.listed list data member
  onScreen := by
    intro screen member data inside
    rcases List.mem_cons.mp member with top | below
    · rw [top] at inside
      exact absurd inside List.not_mem_nil
    · exact faithful.onScreen screen below data inside

theorem selectedOf_allocate {world : World} (addons : List Serviceaddon) {references : List Nat}
    (known : ∀ data ∈ references, data < world.nextObject) :
    selectedOf (world.allocate addons).objects references =
      selectedOf world.objects references := by
  apply List.filter_congr
  intro data member
  have old := known data member
  change (if data < world.nextObject then world.objects data else _).isSelected = _
  rw [if_pos old]

theorem Faithful.allocate {world : World} (faithful : Faithful world)
    (addons : List Serviceaddon) : Faithful (world.allocate addons) where
  mirrors := by
    change world.selected = selectedOf (world.allocate addons).objects world.writtenFrom
    rw [selectedOf_allocate addons faithful.written]
    exact faithful.mirrors
  written := by
    intro data member
    have old := faithful.written data member
    change data < world.nextObject + addons.length
    omega
  listed := by
    intro list data member
    have old := faithful.listed list data member
    change data < world.nextObject + addons.length
    omega
  onScreen := by
    intro screen member data inside
    have old := faithful.onScreen screen member data inside
    change data < world.nextObject + addons.length
    omega

theorem Faithful.answered {world : World} (faithful : Faithful world) (position : Nat)
    (loaded : Option LoadedService)
    (known : ∀ data ∈ (Screen.detail loaded).addons, data < world.nextObject) :
    Faithful (world.answered position loaded) := by
  unfold World.answered
  split
  · apply faithful.withStack
    intro screen member data inside
    rcases List.mem_or_eq_of_mem_set member with old | new
    · exact faithful.onScreen screen old data inside
    · rw [new] at inside
      exact known data inside
  · exact faithful

theorem Faithful.onBooking {world : World} (faithful : Faithful world)
    (change : BookingScreen → BookingScreen)
    (sameOffer : ∀ booking, (change booking).offered = booking.offered) :
    Faithful (world.onBooking change) := by
  unfold World.onBooking
  split
  · rename_i booking below top
    apply faithful.withStack
    intro screen member data inside
    rcases List.mem_cons.mp member with changed | lower
    · apply faithful.onScreen (.booking booking) (by rw [top]; exact List.mem_cons_self)
      rw [changed] at inside
      change data ∈ (change booking).offered at inside
      rw [sameOffer] at inside
      exact inside
    · apply faithful.onScreen screen ?_ data inside
      rw [top]
      exact List.mem_cons_of_mem _ lower
  · exact faithful

theorem faithful_next (decimals : ℕ) (world : World) (event : NavigationEvent)
    (faithful : Faithful world) : Faithful (next decimals world event) := by
  cases event with
  | openDetail => exact faithful.openDetail
  | loaded position response addons =>
      apply (faithful.allocate addons).answered
      intro data member
      have bounds := List.mem_range'_1.mp member
      exact bounds.2
  | failed position =>
      apply faithful.answered
      intro data impossible
      exact absurd impossible List.not_mem_nil
  | back =>
      apply faithful.withStack
      intro screen member
      exact faithful.onScreen screen (List.mem_of_mem_tail member)
  | tapAddon index =>
      change Faithful (world.tapAddon decimals index)
      unfold World.tapAddon
      split
      · rename_i loaded below top
        split
        · apply faithful.handleAddRemove
          apply faithful.onScreen (.detail (some loaded))
          rw [top]
          exact List.mem_cons_self
        · exact faithful
      · rename_i booking below top
        split
        · rename_i data found
          apply (faithful.handleAddRemove (faithful.listed booking.addonList) data).withStack
          intro screen member other inside
          rcases List.mem_cons.mp member with changed | lower
          · apply faithful.onScreen (.booking booking) (by rw [top]; exact List.mem_cons_self)
            rw [changed] at inside
            exact inside
          · apply faithful.onScreen screen ?_ other inside
            rw [top]
            exact List.mem_cons_of_mem _ lower
        · exact faithful
      · exact faithful
  | bookNow selectedPackage =>
      change Faithful (world.bookNow decimals selectedPackage)
      unfold World.bookNow
      split
      · rename_i loaded below top
        apply faithful.withStack
        intro screen member data inside
        rcases List.mem_cons.mp member with new | old
        · apply faithful.onScreen (.detail (some loaded)) (by rw [top]; exact List.mem_cons_self)
          rw [new] at inside
          exact inside
        · exact faithful.onScreen screen old data inside
      · exact faithful
  | changePrice itemCount appliedCouponData => exact faithful.onBooking _ (fun _ => rfl)
  | enter serviceDetail rebuilds =>
      apply faithful.onBooking
      intro booking
      cases rebuilds with
      | true => rfl
      | false => rfl
  | confirm userId selectedService => exact faithful

/-! ### One confirmation -/

theorem mem_ids_of_mem_selected {world : World} {references : List Nat} {id : ℤ}
    (member : id ∈ (world.addonsAt (selectedOf world.objects references)).map Serviceaddon.id) :
    id ∈ (world.addonsAt references).map Serviceaddon.id := by
  obtain ⟨addon, shown, named⟩ := List.mem_map.mp member
  obtain ⟨data, inside, object⟩ := List.mem_map.mp shown
  apply List.mem_map.mpr
  exact ⟨addon, List.mem_map.mpr ⟨data, mem_of_mem_selectedOf inside, object⟩, named⟩

theorem booksShown_saved_iff {world : World} (faithful : Faithful world) (decimals : ℕ)
    (userId : ℤ) (selectedService : List ℤ) (booking : BookingScreen) :
    BooksShown (world.saved decimals userId selectedService booking) ↔
      (world.addonsAt (selectedOf world.objects world.writtenFrom)).map Serviceaddon.id =
          (world.addonsAt (selectedOf world.objects booking.offered)).map Serviceaddon.id ∧
        world.addonsAt booking.priced =
          world.addonsAt (selectedOf world.objects world.writtenFrom) := by
  have sent : (world.saved decimals userId selectedService booking).request.serviceAddonId =
      (world.addonsAt (selectedOf world.objects world.writtenFrom)).map Serviceaddon.id := by
    rw [← faithful.mirrors]
    rfl
  have listed : (world.saved decimals userId selectedService booking).selectedServiceAddon =
      world.addonsAt (selectedOf world.objects world.writtenFrom) := by
    rw [← faithful.mirrors]
    rfl
  unfold BooksShown
  rw [sent, listed]
  constructor
  · intro books
    exact ⟨books.1, books.2.2⟩
  · intro own
    obtain ⟨same, priced⟩ := own
    refine ⟨same, ?_, priced⟩
    intro id member
    rw [same] at member
    exact mem_ids_of_mem_selected member

theorem outputs_booksShown_iff (decimals : ℕ) (world : World) (event : NavigationEvent)
    (faithful : Faithful world) :
    (∀ saved ∈ World.outputs decimals world event, BooksShown saved) ↔
      ConfirmsOwnSelection world event := by
  cases event with
  | confirm userId selectedService =>
      unfold World.outputs ConfirmsOwnSelection
      cases stacked : world.stack with
      | nil =>
          refine iff_of_true ?_ ?_
          · intro saved impossible
            exact absurd impossible List.not_mem_nil
          · intro booking below impossible
            cases impossible
      | cons top below =>
          cases top with
          | detail loaded =>
              refine iff_of_true ?_ ?_
              · intro saved impossible
                exact absurd impossible List.not_mem_nil
              · intro booking below impossible
                cases impossible
          | booking booking =>
              have exactly :=
                booksShown_saved_iff faithful decimals userId selectedService booking
              constructor
              · intro books other lower same
                cases same
                exact exactly.mp (books _ (List.mem_singleton.mpr rfl))
              · intro own saved member
                rw [List.mem_singleton.mp member]
                exact exactly.mpr (own booking below rfl)
  | _ =>
      refine iff_of_true ?_ trivial
      intro saved impossible
      exact absurd impossible List.not_mem_nil

def OnBookingScreen : NavigationEvent → Prop
  | .tapAddon _ => True
  | .changePrice _ _ => True
  | .enter _ _ => True
  | _ => False

/-- The booking screen on top holds the list in the store, priced and selected. -/
structure HoldsOwn (world : World) (booking : BookingScreen) (below : List Screen) : Prop where
  onTop : world.stack = .booking booking :: below
  mirrors : world.selected = selectedOf world.objects booking.offered
  priced : booking.priced = world.selected
  addonList : world.lists booking.addonList = world.selected
  tiles : ∀ data ∈ booking.tiles, data ∈ world.selected

theorem selectedOf_toggled {objects : Nat → AddonObject} {data : Nat}
    (selected : (objects data).isSelected = true) (serviceAddon : List Nat) :
    selectedOf (toggled objects data) (selectedOf objects serviceAddon) =
      selectedOf (toggled objects data) serviceAddon := by
  unfold selectedOf
  rw [List.filter_filter]
  apply List.filter_congr
  intro other _
  by_cases same : other = data
  · rw [same, selected, Bool.and_true]
  · unfold toggled
    rw [Function.update_of_ne same, Bool.and_self]

theorem holdsOwn_setPriceOf {world : World} (decimals : ℕ) (booking : BookingScreen)
    (below : List Screen) (mirrors : world.selected = selectedOf world.objects booking.offered) :
    HoldsOwn { world with stack := .booking (world.setPriceOf decimals booking) :: below }
      (world.setPriceOf decimals booking) below where
  onTop := rfl
  mirrors := mirrors
  priced := rfl
  addonList := rfl
  tiles := fun _ member => member

theorem holdsOwn_next (decimals : ℕ) {world : World} {booking : BookingScreen}
    {below : List Screen} (holds : HoldsOwn world booking below) {event : NavigationEvent}
    (here : OnBookingScreen event) :
    ∃ after, HoldsOwn (next decimals world event) after below := by
  cases event with
  | tapAddon index =>
      change ∃ after, HoldsOwn (world.tapAddon decimals index) after below
      unfold World.tapAddon
      rw [holds.onTop]
      dsimp only
      split
      · rename_i data found
        have shown : data ∈ world.selected := holds.tiles data (List.mem_of_getElem? found)
        rw [holds.mirrors] at shown
        have selected : (world.objects data).isSelected = true := (List.mem_filter.mp shown).2
        refine ⟨_, holdsOwn_setPriceOf decimals booking below ?_⟩
        unfold World.handleAddRemove
        rw [selected_setSelectedServiceAddon, holds.addonList, holds.mirrors]
        exact selectedOf_toggled selected booking.offered
      · exact ⟨booking, holds⟩
  | changePrice itemCount appliedCouponData =>
      change ∃ after, HoldsOwn (world.onBooking _) after below
      unfold World.onBooking
      rw [holds.onTop]
      exact ⟨_, holdsOwn_setPriceOf decimals _ below holds.mirrors⟩
  | enter serviceDetail rebuilds =>
      change ∃ after, HoldsOwn (world.onBooking _) after below
      unfold World.onBooking
      rw [holds.onTop]
      cases rebuilds with
      | true =>
          exact ⟨_,
            { onTop := rfl
              mirrors := holds.mirrors
              priced := holds.priced
              addonList := rfl
              tiles := fun _ member => member }⟩
      | false =>
          exact ⟨_,
            { onTop := rfl
              mirrors := holds.mirrors
              priced := holds.priced
              addonList := holds.addonList
              tiles := holds.tiles }⟩
  | _ => exact absurd here id

theorem booksShown_of_holdsOwn (decimals : ℕ) (userId : ℤ) (selectedService : List ℤ)
    {world : World} {booking : BookingScreen} {below : List Screen}
    (holds : HoldsOwn world booking below) :
    BooksShown (world.saved decimals userId selectedService booking) := by
  have sent : (world.saved decimals userId selectedService booking).request.serviceAddonId =
      (world.addonsAt (selectedOf world.objects booking.offered)).map Serviceaddon.id := by
    rw [← holds.mirrors]
    rfl
  refine ⟨sent, ?_, congrArg world.addonsAt holds.priced⟩
  intro id member
  rw [sent] at member
  exact mem_ids_of_mem_selected member

theorem holdsOwn_run (decimals : ℕ) {world : World} {booking : BookingScreen}
    {below : List Screen} (holds : HoldsOwn world booking below) {events : List NavigationEvent}
    (here : ∀ event ∈ events, OnBookingScreen event) :
    ∃ after, HoldsOwn ((machine decimals).run world events) after below := by
  induction events generalizing world booking with
  | nil => exact ⟨booking, holds⟩
  | cons event rest ih =>
      obtain ⟨after, later⟩ :=
        holdsOwn_next decimals holds (here event List.mem_cons_self)
      exact ih later (fun other member => here other (List.mem_cons_of_mem event member))

/-- A service whose screen wrote the store last is booked with what it shows, when
nothing but its booking screen is used until the confirmation. -/
theorem booksShown_of_uninterrupted (decimals : ℕ) (userId : ℤ) (selectedService : List ℤ)
    {world : World} (faithful : Faithful world) {loaded : LoadedService} {below : List Screen}
    (onTop : world.stack = .detail (some loaded) :: below)
    (wrote : world.writtenFrom = loaded.serviceaddon) (selectedPackage : Option BookingPackage)
    {events : List NavigationEvent} (here : ∀ event ∈ events, OnBookingScreen event) :
    ∃ saved,
      World.outputs decimals
          ((machine decimals).run world (.bookNow selectedPackage :: events))
          (.confirm userId selectedService) = [saved] ∧
        BooksShown saved := by
  have booked : ∃ booking,
      HoldsOwn (world.bookNow decimals selectedPackage) booking world.stack := by
    unfold World.bookNow
    rw [onTop]
    refine ⟨_, holdsOwn_setPriceOf decimals _ (.detail (some loaded) :: below) ?_⟩
    rw [faithful.mirrors, wrote]
  obtain ⟨booking, initially⟩ := booked
  obtain ⟨after, holds⟩ := holdsOwn_run decimals initially here
  refine ⟨_, ?_, booksShown_of_holdsOwn decimals userId selectedService holds⟩
  change World.outputs decimals ((machine decimals).run (world.bookNow decimals selectedPackage)
    events) (.confirm userId selectedService) = _
  unfold World.outputs
  rw [holds.onTop]

/-- Over every history, each booking sends what the booked service shows exactly
when each confirmation finds the store written from that service's selection. -/
theorem serviceAddonId_run_iff (decimals : ℕ) (events : List NavigationEvent) :
    (∀ saved ∈ (machine decimals).trace atStart events, BooksShown saved) ↔
      (machine decimals).Every ConfirmsOwnSelection atStart events := by
  rw [Machine.forall_trace_iff]
  exact Machine.every_congr Faithful (faithful_next decimals)
    (outputs_booksShown_iff decimals) faithful_atStart

def relatedServiceInBetween : List NavigationEvent :=
  [.openDetail, .loaded 0 { serviceDetail := {} } [{ id := 11, price := 50 }], .tapAddon 0,
    .openDetail, .loaded 0 { serviceDetail := {} } [], .back, .bookNow none, .confirm 1 []]

theorem serviceAddonId_after_related_service :
    ¬ ∀ saved ∈ (machine 2).trace atStart relatedServiceInBetween, BooksShown saved := by
  intro right
  have sent := (right _ (List.mem_singleton.mpr rfl)).1
  exact absurd (congrArg List.length sent) (by decide)

end FiksOpp.ServiceAddons
