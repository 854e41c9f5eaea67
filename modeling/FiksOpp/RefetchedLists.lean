/-
Paged lists that are fetched again where they stand.

A reply or a closing in the help desk, a change of the banks and a wallet top-up call
`init()` without going back to page 1.  The page asked for last is appended once more, to
the pages that were there before the change.
-/

import FiksOpp.PagedLists

namespace FiksOpp.PagedList

open EventRun
open PagedScreen

variable {Query Item : Type*}

/-- A list without a search text; the query stands for what the server holds. -/
def plainList (pages : Query → Nat → List Item) : PagedScreen Query Item :=
  { pages := pages
    showRecommended := fun _ => false
    clearText := id
    hasCloseButton := false
    nextPageFromList := true }

def helpDeskDetailScreen (pages : Query → Nat → List Item) : PagedScreen Query Item :=
  plainList pages

def bankDetails (pages : Query → Nat → List Item) : PagedScreen Query Item :=
  plainList pages

def walletHistory (pages : Query → Nat → List Item) : PagedScreen Query Item :=
  plainList pages

inductive RefetchEvent (Query : Type*) where
  | list (event : ListEvent Query)
  /-- `init()` on the page as it is, over what the server holds by then. -/
  | init (controls : Query)

def init (state : ListState Query Item) (controls : Query) : ListState Query Item :=
  fetch { state with controls := controls }

variable (screen : PagedScreen Query Item)

def refetchNext (state : ListState Query Item) : RefetchEvent Query → ListState Query Item
  | .list event => screen.next state event
  | .init controls => init state controls

def refetching : Machine (ListState Query Item) (RefetchEvent Query) Empty :=
  { next := refetchNext screen
    outputs := fun _ _ => [] }

def RefetchesInPlace (state : ListState Query Item) : RefetchEvent Query → Prop
  | .list event => ArrivesInPlace screen state event
  | .init _ => True

theorem sound_refetchNext (state : ListState Query Item) (event : RefetchEvent Query)
    (sound : Sound state) : Sound (refetchNext screen state event) := by
  cases event with
  | list event => exact sound_next screen state event sound
  | init controls => exact sound_fetch sound.positive sound.bounded

theorem holdsQuery_refetchNext_iff (state : ListState Query Item) (event : RefetchEvent Query)
    (sound : Sound state) (holds : HoldsQuery screen state) :
    HoldsQuery screen (refetchNext screen state event) ↔ RefetchesInPlace screen state event := by
  cases event with
  | list event => exact holdsQuery_next_iff screen state event sound holds
  | init controls =>
      refine iff_of_true (holdsQuery_of_future_ne screen ?_) trivial
      intro impossible
      cases impossible

theorem length_pagesUpTo_le
    (bounded : ∀ query page, (screen.pages query page).length ≤ perPageItem) (query : Query)
    (count : Nat) : (pagesUpTo screen query count).length ≤ perPageItem * count := by
  induction count with
  | zero => exact Nat.le_refl 0
  | succ count ih =>
      have page := bounded query (count + 1)
      rw [pagesUpTo_succ, List.length_append, Nat.mul_succ]
      omega

/-- A list that goes past the pages before the one asked for is not repaired by it, whatever
the server holds. -/
theorem not_holdsQuery_of_refetch
    (bounded : ∀ query page, (screen.pages query page).length ≤ perPageItem)
    {state : ListState Query Item} (idle : state.inFlight = []) (later : 2 ≤ state.page)
    (beyond : perPageItem * (state.page - 1) < (state.lists state.current).length)
    (controls : Query) :
    ¬ HoldsQuery screen
      ((refetching screen).run state [.init controls, .list (.answer 0 true)]) := by
  let request : Request Query :=
    { serial := state.issued + 1
      list := state.current
      query := controls
      page := state.page }
  have inFlight : (init state controls).inFlight = [request] := by
    change state.inFlight ++ [request] = [request]
    rw [idle, List.nil_append]
  have sound : Sound (init state controls) := by
    apply sound_fetch
    · change 1 ≤ state.page
      omega
    · change ∀ other ∈ state.inFlight, other.serial ≤ state.issued
      rw [idle]
      exact fun _ impossible => absurd impossible List.not_mem_nil
  have waits : HoldsQuery screen (init state controls) := by
    apply holdsQuery_of_future_ne
    intro impossible
    cases impossible
  change ¬ HoldsQuery screen (screen.next (init state controls) (.answer 0 true))
  rw [holdsQuery_next_iff screen _ _ sound waits]
  intro inPlace
  have found : (init state controls).inFlight[0]? = some request := by
    rw [inFlight]
    rfl
  have last : request.serial = (init state controls).issued := rfl
  have arrives := inPlace rfl request found rfl
  rw [if_pos last] at arrives
  rcases arrives with first | same
  · change state.page = 1 at first
    omega
  · change state.lists state.current = pagesUpTo screen controls (state.page - 1) at same
    have short := length_pagesUpTo_le screen bounded controls (state.page - 1)
    rw [← same] at short
    omega

/-- In every order of actions and answers the list is right whenever the last request has
succeeded exactly when every answer arrives in its place; and once more is loaded than the
pages before the last one, fetching again where the list stands makes it wrong. -/
theorem refetching_list_iff {start : ListState Query Item} (starts : IsStart start)
    (bounded : ∀ query page, (screen.pages query page).length ≤ perPageItem)
    (events : List (RefetchEvent Query)) :
    ((refetching screen).Every
        (fun state event => HoldsQuery screen (refetchNext screen state event)) start events ↔
      (refetching screen).Every (RefetchesInPlace screen) start events) ∧
    let state := (refetching screen).run start events
    state.inFlight = [] → 2 ≤ state.page →
      perPageItem * (state.page - 1) < (state.lists state.current).length →
        ∀ controls, ¬ HoldsQuery screen
          ((refetching screen).run state [.init controls, .list (.answer 0 true)]) := by
  constructor
  · exact (refetching screen).every_next_iff_of_sound Sound (HoldsQuery screen)
      (sound_refetchNext screen) (holdsQuery_refetchNext_iff screen) (sound_of_isStart starts)
      (holdsQuery_of_isStart screen starts)
  · intro state idle later beyond controls
    exact not_holdsQuery_of_refetch screen bounded idle later beyond controls

def conversation (replies page : Nat) : List Nat :=
  ((List.range (25 + replies)).drop (perPageItem * (page - 1))).take perPageItem

theorem conversation_length_le (replies page : Nat) :
    (conversation replies page).length ≤ perPageItem :=
  List.length_take_le _ _

/-- A reply after the second page has been loaded. -/
theorem refetching_list_iff_conversation :
    ¬ HoldsQuery (helpDeskDetailScreen conversation)
      ((refetching (helpDeskDetailScreen conversation)).run
        ((refetching (helpDeskDetailScreen conversation)).run (opened false 0)
          [.list (.answer 0 true), .list .nextPage, .list (.answer 0 true)])
        [.init 1, .list (.answer 0 true)]) := by
  have starts : IsStart (opened false 0 : ListState Nat Nat) := ⟨0, Or.inr ⟨false, rfl⟩⟩
  exact (refetching_list_iff (helpDeskDetailScreen conversation) starts conversation_length_le
    [.list (.answer 0 true), .list .nextPage, .list (.answer 0 true)]).2
    (by decide) (by decide) (by decide) 1

end FiksOpp.PagedList
