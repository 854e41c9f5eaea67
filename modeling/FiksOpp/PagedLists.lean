/-
The paged lists of `SearchServiceScreen` and `BookingFragment`.

Both screens keep one list object that every request is given.  A response for
page 1 clears the list it was given, any response appends to it, and nothing in
a response says which query it answers.  The screen shows the list when the
request it made last has succeeded.
-/

import FiksOpp.Foundations.EventRun
import Mathlib.Data.List.Basic

namespace FiksOpp.PagedList

open EventRun

def perPageItem : Nat := 20

/-- What the screens differ in, and the pages the server holds for a query. -/
structure PagedScreen (Query Item : Type*) where
  pages : Query → Nat → List Item
  /-- A featured strip takes the place of the list. -/
  showRecommended : Query → Bool
  clearText : Query → Query
  hasCloseButton : Bool
  /-- The next page is asked for by the list itself, so only while it is shown. -/
  nextPageFromList : Bool

section Screens

variable {Query Item : Type*}

def searchServiceScreen (pages : Query → Nat → List Item) (showRecommended : Query → Bool)
    (clearText : Query → Query) : PagedScreen Query Item :=
  { pages := pages
    showRecommended := showRecommended
    clearText := clearText
    hasCloseButton := true
    nextPageFromList := false }

def bookingFragment (pages : Query → Nat → List Item) : PagedScreen Query Item :=
  { pages := pages
    showRecommended := fun _ => false
    clearText := id
    hasCloseButton := false
    nextPageFromList := true }

end Screens

structure Request (Query : Type*) where
  serial : Nat
  list : Nat
  query : Query
  page : Nat
  deriving DecidableEq, Repr

/-- The future the screen waits for: that of the request made last. -/
inductive FutureState where
  | notAsked
  | pending
  | done
  | failed
  deriving DecidableEq, Repr

/-- What the builder was last given; a pending future does not change it. -/
inductive Snapshot where
  | waiting
  /-- The list of an earlier screen, shown until the first answer. -/
  | cached
  | data
  | error
  deriving DecidableEq, Repr

def Snapshot.showsList : Snapshot → Bool
  | .waiting => false
  | .cached => true
  | .data => true
  | .error => false

structure ListState (Query Item : Type*) where
  /-- The search text and filters as they stand. -/
  controls : Query
  lists : Nat → List Item
  current : Nat
  page : Nat
  isLastPage : Bool
  issued : Nat
  /-- The query of the request made last. -/
  asked : Query
  inFlight : List (Request Query)
  future : FutureState
  snapshot : Snapshot

inductive ListEvent (Query : Type*) where
  /-- Typing, or a choice in the filter screen, without a request. -/
  | edit (controls : Query)
  /-- A submitted search, applied filters, a refresh, a retry or a list update. -/
  | restart
  | closeButton
  | nextPage
  | answer (index : Nat) (succeeds : Bool)
  deriving DecidableEq, Repr

variable {Query Item : Type*}

namespace PagedScreen

def fetch (state : ListState Query Item) : ListState Query Item :=
  let request : Request Query :=
    { serial := state.issued + 1
      list := state.current
      query := state.controls
      page := state.page }
  { state with
    issued := state.issued + 1
    asked := state.controls
    inFlight := state.inFlight ++ [request]
    future := .pending }

def restart (state : ListState Query Item) : ListState Query Item :=
  fetch { state with page := 1 }

variable (screen : PagedScreen Query Item)

/-- A new list object takes the place of the old one. -/
def closeButton (state : ListState Query Item) : ListState Query Item :=
  if screen.hasCloseButton then
    fetch
      { state with
        page := 1
        controls := screen.clearText state.controls
        lists := Function.update state.lists (state.current + 1) []
        current := state.current + 1 }
  else state

def nextPage (state : ListState Query Item) : ListState Query Item :=
  if state.isLastPage || screen.showRecommended state.controls ||
      (screen.nextPageFromList && !state.snapshot.showsList) then state
  else fetch { state with page := state.page + 1 }

def received (state : ListState Query Item) (request : Request Query) : List Item :=
  if request.page = 1 then screen.pages request.query 1
  else state.lists request.list ++ screen.pages request.query request.page

/-- Only the future of the last request is listened to. -/
def settled (state : ListState Query Item) (request : Request Query) (succeeds : Bool) :
    ListState Query Item :=
  if request.serial = state.issued then
    if succeeds then { state with future := .done, snapshot := .data }
    else { state with future := .failed, snapshot := .error }
  else state

def answer (state : ListState Query Item) (index : Nat) (succeeds : Bool) :
    ListState Query Item :=
  match state.inFlight[index]? with
  | none => state
  | some request =>
      let others := { state with inFlight := state.inFlight.eraseIdx index }
      if succeeds then
        settled
          { others with
            lists := Function.update state.lists request.list (screen.received state request)
            isLastPage := (screen.pages request.query request.page).length != perPageItem }
          request true
      else settled others request false

def next (state : ListState Query Item) : ListEvent Query → ListState Query Item
  | .edit controls => { state with controls := controls }
  | .restart => restart state
  | .closeButton => screen.closeButton state
  | .nextPage => screen.nextPage state
  | .answer index succeeds => screen.answer state index succeeds

def machine : Machine (ListState Query Item) (ListEvent Query) Empty :=
  { next := screen.next
    outputs := fun _ _ => [] }

end PagedScreen

open PagedScreen

/-- A fresh screen that has not asked for anything: featured services are shown. -/
def untouched (controls : Query) : ListState Query Item :=
  { controls := controls
    lists := fun _ => []
    current := 0
    page := 1
    isLastPage := false
    issued := 0
    asked := controls
    inFlight := []
    future := .notAsked
    snapshot := .waiting }

/-- A fresh screen that asked for page 1; a cached list may be shown meanwhile. -/
def opened (cached : Bool) (controls : Query) : ListState Query Item :=
  fetch { untouched controls with snapshot := if cached then .cached else .waiting }

/-! ### What is shown -/

variable (screen : PagedScreen Query Item)

def pagesUpTo (query : Query) (count : Nat) : List Item :=
  (List.range count).flatMap fun index => screen.pages query (index + 1)

def displayed (state : ListState Query Item) : Option (List Item) :=
  if screen.showRecommended state.controls then none
  else if state.snapshot = .data then some (state.lists state.current)
  else none

/-- With nothing in flight, a list that is shown is pages 1 to `page` of the query
asked last. -/
def DisplaysQuery (state : ListState Query Item) : Prop :=
  state.inFlight = [] → ∀ items, displayed screen state = some items →
    items = pagesUpTo screen state.asked state.page

/-- Once the last request has succeeded the list is right, whatever is in flight. -/
def HoldsQuery (state : ListState Query Item) : Prop :=
  state.future = .done → state.lists state.current = pagesUpTo screen state.asked state.page

/-- The answer to the last request finds the pages before its own.  After it, an
answer to an older request brings the list that is there already, or nothing. -/
def ArrivesInPlace (state : ListState Query Item) : ListEvent Query → Prop
  | .answer index succeeds =>
      succeeds = true → ∀ request, state.inFlight[index]? = some request →
        request.list = state.current →
          if request.serial = state.issued then
            request.page = 1 ∨
              state.lists state.current = pagesUpTo screen request.query (request.page - 1)
          else
            state.future = .done →
              if request.page = 1 then
                screen.pages request.query 1 = state.lists state.current
              else screen.pages request.query request.page = []
  | _ => True

/-- What every step keeps, in whatever order responses arrive. -/
structure Sound (state : ListState Query Item) : Prop where
  positive : 1 ≤ state.page
  bounded : ∀ request ∈ state.inFlight, request.serial ≤ state.issued
  latest : ∀ request ∈ state.inFlight, request.serial = state.issued →
    request.page = state.page ∧ request.query = state.asked ∧ request.list = state.current
  pending : state.future = .pending → ∃ request ∈ state.inFlight, request.serial = state.issued
  failed : state.future = .failed → state.snapshot = .error
  notAsked : state.future = .notAsked → state.snapshot = .waiting

theorem pagesUpTo_succ (query : Query) (count : Nat) :
    pagesUpTo screen query (count + 1) =
      pagesUpTo screen query count ++ screen.pages query (count + 1) := by
  unfold pagesUpTo
  rw [List.range_succ, List.flatMap_append, List.flatMap_singleton]

theorem sound_fetch {state : ListState Query Item} (positive : 1 ≤ state.page)
    (bounded : ∀ request ∈ state.inFlight, request.serial ≤ state.issued) :
    Sound (fetch state) where
  positive := positive
  bounded := by
    intro request member
    rcases List.mem_append.mp member with old | new
    · have bound := bounded request old
      change request.serial ≤ state.issued + 1
      omega
    · rw [List.mem_singleton.mp new]
      exact Nat.le_refl _
  latest := by
    intro request member same
    rcases List.mem_append.mp member with old | new
    · have bound := bounded request old
      change request.serial = state.issued + 1 at same
      omega
    · rw [List.mem_singleton.mp new]
      exact ⟨rfl, rfl, rfl⟩
  pending := by
    intro _
    exact ⟨_, List.mem_append_right _ (List.mem_singleton.mpr rfl), rfl⟩
  failed := by
    intro impossible
    cases impossible
  notAsked := by
    intro impossible
    cases impossible

theorem mem_eraseIdx_of_ne {requests : List (Request Query)} {index : Nat}
    {answered request : Request Query} (found : requests[index]? = some answered)
    (member : request ∈ requests) (other : request.serial ≠ answered.serial) :
    request ∈ requests.eraseIdx index := by
  apply List.mem_eraseIdx_iff_getElem?.mpr
  obtain ⟨position, atPosition⟩ := List.mem_iff_getElem?.mp member
  refine ⟨position, ?_, atPosition⟩
  intro same
  rw [same, found] at atPosition
  exact other (congrArg Request.serial (Option.some.inj atPosition).symm)

theorem sound_settled {state after : ListState Query Item} (sound : Sound state) {index : Nat}
    {request : Request Query} (found : state.inFlight[index]? = some request) (succeeds : Bool)
    (sameFlight : after.inFlight = state.inFlight.eraseIdx index)
    (samePage : after.page = state.page) (sameIssued : after.issued = state.issued)
    (sameAsked : after.asked = state.asked) (sameCurrent : after.current = state.current)
    (sameFuture : after.future = state.future) (sameSnapshot : after.snapshot = state.snapshot) :
    Sound (settled after request succeeds) := by
  have inside : ∀ other ∈ after.inFlight, other ∈ state.inFlight := by
    intro other member
    rw [sameFlight] at member
    exact List.mem_of_mem_eraseIdx member
  have positive : 1 ≤ after.page := samePage ▸ sound.positive
  have bounded : ∀ other ∈ after.inFlight, other.serial ≤ after.issued := by
    intro other member
    rw [sameIssued]
    exact sound.bounded other (inside other member)
  have latest : ∀ other ∈ after.inFlight, other.serial = after.issued →
      other.page = after.page ∧ other.query = after.asked ∧ other.list = after.current := by
    intro other member same
    rw [samePage, sameAsked, sameCurrent]
    exact sound.latest other (inside other member) (same.trans sameIssued)
  unfold settled
  by_cases last : request.serial = after.issued
  · rw [if_pos last]
    cases succeeds with
    | true =>
        rw [if_pos rfl]
        exact
          { positive := positive
            bounded := bounded
            latest := latest
            pending := by
              intro impossible
              cases impossible
            failed := by
              intro impossible
              cases impossible
            notAsked := by
              intro impossible
              cases impossible }
    | false =>
        rw [if_neg Bool.false_ne_true]
        exact
          { positive := positive
            bounded := bounded
            latest := latest
            pending := by
              intro impossible
              cases impossible
            failed := fun _ => rfl
            notAsked := by
              intro impossible
              cases impossible }
  · rw [if_neg last]
    exact
      { positive := positive
        bounded := bounded
        latest := latest
        pending := by
          intro waits
          rw [sameFuture] at waits
          obtain ⟨awaited, member, serial⟩ := sound.pending waits
          refine ⟨awaited, ?_, serial.trans sameIssued.symm⟩
          rw [sameFlight]
          apply mem_eraseIdx_of_ne found member
          intro same
          exact last (same.symm.trans (serial.trans sameIssued.symm))
        failed := by
          intro failed
          rw [sameSnapshot]
          exact sound.failed (sameFuture.symm.trans failed)
        notAsked := by
          intro idle
          rw [sameSnapshot]
          exact sound.notAsked (sameFuture.symm.trans idle) }

theorem sound_next (state : ListState Query Item) (event : ListEvent Query)
    (sound : Sound state) : Sound (screen.next state event) := by
  cases event with
  | edit controls =>
      exact
        { positive := sound.positive
          bounded := sound.bounded
          latest := sound.latest
          pending := sound.pending
          failed := sound.failed
          notAsked := sound.notAsked }
  | restart => exact sound_fetch (Nat.le_refl 1) sound.bounded
  | closeButton =>
      change Sound (screen.closeButton state)
      unfold PagedScreen.closeButton
      split
      · exact sound_fetch (Nat.le_refl 1) sound.bounded
      · exact sound
  | nextPage =>
      change Sound (screen.nextPage state)
      unfold PagedScreen.nextPage
      split
      · exact sound
      · exact sound_fetch (Nat.succ_le_succ (Nat.zero_le _)) sound.bounded
  | answer index succeeds =>
      change Sound (screen.answer state index succeeds)
      unfold PagedScreen.answer
      cases found : state.inFlight[index]? with
      | none => exact sound
      | some request =>
          dsimp only
          split
          · exact sound_settled sound found true rfl rfl rfl rfl rfl rfl rfl
          · exact sound_settled sound found false rfl rfl rfl rfl rfl rfl rfl

/-! ### One answer -/

theorem holdsQuery_of_future_ne {state : ListState Query Item} (other : state.future ≠ .done) :
    HoldsQuery screen state :=
  fun done => absurd done other

theorem received_eq_iff {state : ListState Query Item} {request : Request Query}
    (sameList : request.list = state.current) :
    screen.received state request = state.lists state.current ↔
      if request.page = 1 then screen.pages request.query 1 = state.lists state.current
      else screen.pages request.query request.page = [] := by
  unfold PagedScreen.received
  by_cases first : request.page = 1
  · rw [if_pos first, if_pos first]
  · rw [if_neg first, if_neg first, sameList]
    exact List.append_right_eq_self

theorem holdsQuery_answer_iff {state : ListState Query Item} (sound : Sound state)
    (holds : HoldsQuery screen state) (index : Nat) (succeeds : Bool) :
    HoldsQuery screen (screen.answer state index succeeds) ↔
      ArrivesInPlace screen state (.answer index succeeds) := by
  unfold ArrivesInPlace PagedScreen.answer
  cases found : state.inFlight[index]? with
  | none =>
      refine iff_of_true holds ?_
      intro _ request impossible
      rw [found] at impossible
      cases impossible
  | some request =>
      have member : request ∈ state.inFlight := List.mem_of_getElem? found
      cases succeeds with
      | false =>
          refine iff_of_true ?_ (fun impossible => absurd impossible Bool.false_ne_true)
          dsimp only
          rw [if_neg Bool.false_ne_true]
          unfold settled
          split
          · exact holdsQuery_of_future_ne screen (by
              rw [if_neg Bool.false_ne_true]
              intro impossible
              cases impossible)
          · exact holds
      | true =>
          dsimp only
          rw [if_pos rfl]
          have given : (Function.update state.lists request.list (screen.received state request))
              state.current =
                if request.list = state.current then screen.received state request
                else state.lists state.current := by
            by_cases same : request.list = state.current
            · rw [if_pos same, same, Function.update_self]
            · rw [if_neg same, Function.update_of_ne (Ne.symm same)]
          by_cases last : request.serial = state.issued
          · obtain ⟨samePage, sameQuery, sameList⟩ := sound.latest request member last
            have positive := sound.positive
            unfold settled HoldsQuery
            rw [if_pos last, if_pos rfl]
            dsimp only
            rw [given, if_pos sameList]
            have previous : request.page = (request.page - 1) + 1 := by omega
            have goal : (screen.received state request =
                  pagesUpTo screen state.asked state.page) ↔
                (request.page = 1 ∨ state.lists state.current =
                  pagesUpTo screen request.query (request.page - 1)) := by
              unfold received
              rw [sameList, ← sameQuery, ← samePage]
              by_cases first : request.page = 1
              · rw [if_pos first, first]
                refine iff_of_true ?_ (Or.inl rfl)
                exact (pagesUpTo_succ screen request.query 0).symm
              · rw [if_neg first]
                conv_lhs => rw [previous, pagesUpTo_succ, ← previous]
                rw [List.append_left_inj]
                constructor
                · intro same
                  exact Or.inr same
                · intro either
                  exact either.resolve_left first
            rw [goal]
            constructor
            · intro right _ other same _
              rw [found] at same
              cases same
              rw [if_pos last]
              exact right rfl
            · intro right _
              have here := right rfl request found sameList
              rw [if_pos last] at here
              exact here
          · unfold settled HoldsQuery
            rw [if_neg last]
            dsimp only
            rw [given]
            constructor
            · intro right _ other same sameList
              rw [found] at same
              cases same
              rw [if_neg last]
              intro done
              have after := right done
              rw [if_pos sameList] at after
              rw [← received_eq_iff screen sameList, after, holds done]
            · intro right done
              by_cases sameList : request.list = state.current
              · have here := right rfl request found sameList
                rw [if_neg last] at here
                rw [if_pos sameList, (received_eq_iff screen sameList).mpr (here done)]
                exact holds done
              · rw [if_neg sameList]
                exact holds done

theorem holdsQuery_next_iff (state : ListState Query Item) (event : ListEvent Query)
    (sound : Sound state) (holds : HoldsQuery screen state) :
    HoldsQuery screen (screen.next state event) ↔ ArrivesInPlace screen state event := by
  have asks : ∀ before : ListState Query Item, HoldsQuery screen (fetch before) := by
    intro before
    apply holdsQuery_of_future_ne
    intro impossible
    cases impossible
  cases event with
  | answer index succeeds => exact holdsQuery_answer_iff screen sound holds index succeeds
  | edit controls => exact iff_of_true holds trivial
  | restart => exact iff_of_true (asks _) trivial
  | closeButton =>
      refine iff_of_true ?_ trivial
      change HoldsQuery screen (screen.closeButton state)
      unfold PagedScreen.closeButton
      split
      · exact asks _
      · exact holds
  | nextPage =>
      refine iff_of_true ?_ trivial
      change HoldsQuery screen (screen.nextPage state)
      unfold PagedScreen.nextPage
      split
      · exact holds
      · exact asks _

theorem displaysQuery_of_holdsQuery {state : ListState Query Item} (sound : Sound state)
    (holds : HoldsQuery screen state) : DisplaysQuery screen state := by
  intro idle items shown
  unfold displayed at shown
  split at shown
  · cases shown
  · split at shown
    · rename_i hasData
      have same := Option.some.inj shown
      rw [← same]
      apply holds
      cases status : state.future with
      | done => rfl
      | pending =>
          obtain ⟨request, member, _⟩ := sound.pending status
          rw [idle] at member
          exact absurd member List.not_mem_nil
      | failed =>
          rw [sound.failed status] at hasData
          cases hasData
      | notAsked =>
          rw [sound.notAsked status] at hasData
          cases hasData
    · cases shown

def IsStart (start : ListState Query Item) : Prop :=
  ∃ controls, start = untouched controls ∨ ∃ cached, start = opened cached controls

theorem sound_of_isStart {start : ListState Query Item} (starts : IsStart start) :
    Sound start := by
  obtain ⟨controls, idle | ⟨cached, asked⟩⟩ := starts
  · rw [idle]
    exact
      { positive := Nat.le_refl 1
        bounded := fun _ impossible => absurd impossible List.not_mem_nil
        latest := fun _ impossible => absurd impossible List.not_mem_nil
        pending := by
          intro impossible
          cases impossible
        failed := by
          intro impossible
          cases impossible
        notAsked := fun _ => rfl }
  · rw [asked]
    exact sound_fetch (Nat.le_refl 1) (fun _ impossible => absurd impossible List.not_mem_nil)

theorem holdsQuery_of_isStart {start : ListState Query Item} (starts : IsStart start) :
    HoldsQuery screen start := by
  apply holdsQuery_of_future_ne
  obtain ⟨controls, idle | ⟨cached, asked⟩⟩ := starts
  · rw [idle]
    intro impossible
    cases impossible
  · rw [asked]
    intro impossible
    cases impossible

/-- In every order of actions and responses: the list is right whenever the last
request has succeeded exactly when every answer arrives in its place, and then a
list shown with nothing in flight is right too. -/
theorem pagedList_run_iff {start : ListState Query Item} (starts : IsStart start)
    (events : List (ListEvent Query)) :
    (screen.machine.Every (fun state event => HoldsQuery screen (screen.next state event))
        start events ↔
      screen.machine.Every (ArrivesInPlace screen) start events) ∧
    (screen.machine.Every (ArrivesInPlace screen) start events →
      screen.machine.Every (fun state event => DisplaysQuery screen (screen.next state event))
        start events) := by
  have soundly : Sound start := sound_of_isStart starts
  have initially : HoldsQuery screen start := holdsQuery_of_isStart screen starts
  constructor
  · exact screen.machine.every_next_iff_of_sound Sound (HoldsQuery screen)
      (sound_next screen) (holdsQuery_next_iff screen) soundly initially
  · intro inPlace
    apply screen.machine.every_of_invariant
      (fun state => Sound state ∧ HoldsQuery screen state) ?_ ⟨soundly, initially⟩ inPlace
    intro state event held arrives
    obtain ⟨sound, holds⟩ := held
    have soundAfter := sound_next screen state event sound
    have holdsAfter := (holdsQuery_next_iff screen state event sound holds).mpr arrives
    exact ⟨⟨soundAfter, holdsAfter⟩, displaysQuery_of_holdsQuery screen soundAfter holdsAfter⟩

def numberedScreen : PagedScreen Nat (Nat × Nat) :=
  searchServiceScreen (fun query page => [(query, page)]) (fun _ => false) id

/-- A full first page, and one item on each later one. -/
def longScreen : PagedScreen Nat (Nat × Nat) :=
  searchServiceScreen
    (fun query page => List.replicate (if page = 1 then perPageItem else 1) (query, page))
    (fun _ => false) id

/-- Two pages of the first search, and a second search. -/
theorem pagedList_run_iff_example :
    longScreen.machine.Every
      (fun state event => DisplaysQuery longScreen (longScreen.next state event))
      (opened false 1)
      [.answer 0 true, .nextPage, .answer 0 true, .edit 2, .restart, .answer 0 true] := by
  have starts : IsStart (opened false 1 : ListState Nat (Nat × Nat)) :=
    ⟨1, Or.inr ⟨false, rfl⟩⟩
  apply (pagedList_run_iff longScreen starts _).2
  refine ⟨?_, trivial, ?_, trivial, trivial, ?_, trivial⟩
  · intro _ request found _
    cases found
    exact Or.inl rfl
  · intro _ request found _
    cases found
    exact Or.inr rfl
  · intro _ request found _
    cases found
    exact Or.inl rfl

/-- The answer to an older search comes after the answer to the last one. -/
theorem pagedList_older_answer_last :
    ¬ numberedScreen.machine.Every
      (fun state event => DisplaysQuery numberedScreen (numberedScreen.next state event))
      (opened false 1)
      [.answer 0 true, .edit 2, .restart, .edit 3, .restart, .answer 1 true, .answer 0 true] := by
  intro right
  have last := right.2.2.2.2.2.2.1 rfl [(2, 1)] rfl
  cases last

end FiksOpp.PagedList
