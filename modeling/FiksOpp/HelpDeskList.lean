/-
The help-desk list, `HelpDeskListScreen`.

The chips choose a status, and what is asked for is the text on the chip, in the language of
the app, in small letters.  When a query is closed on the detail screen below, the list is
asked for the open queries and the chip stays as it is.
-/

import FiksOpp.PagedLists

namespace FiksOpp.HelpDesk

open EventRun
open PagedList
open PagedScreen

def OPEN : String := "open"

def CLOSED : String := "closed"

inductive HelpDeskStatus where
  | all
  | open_
  | closed
  deriving DecidableEq, Repr

/-- The word for a status where the source does not translate it. -/
def HelpDeskStatus.word : HelpDeskStatus → String
  | .all => "all"
  | .open_ => OPEN
  | .closed => CLOSED

structure Language where
  name : HelpDeskStatus → String
  toLowerCase : String → String

def Language.asked (language : Language) (tab : HelpDeskStatus) : String :=
  language.toLowerCase (language.name tab)

structure HelpDeskListScreen (Item : Type*) where
  selectedTab : HelpDeskStatus
  list : ListState String Item

inductive HelpDeskEvent where
  /-- The screen is opened; a cached list may be shown meanwhile. -/
  | initState (cached : Bool)
  | onSelected (status : HelpDeskStatus)
  /-- `AddHelpDeskScreen` calls back. -/
  | added
  /-- `LIVESTREAM_UPDATE_HELP_DESK_LIST`, with the `OPEN` that the detail screen emits. -/
  | updated
  | onNextPage
  /-- A swipe or the reload button. -/
  | onRefresh
  | answer (index : Nat) (succeeds : Bool)

section Screen

variable {Item : Type*} (language : Language) (pages : String → Nat → List Item)

def helpDeskList : PagedScreen String Item :=
  { pages := pages
    showRecommended := fun _ => false
    clearText := id
    hasCloseButton := false
    nextPageFromList := true }

def getHelpDeskListAPI (list : ListState String Item) (status : String) :
    ListState String Item :=
  restart { list with controls := language.toLowerCase status }

def onSelected (state : HelpDeskListScreen Item) (status : HelpDeskStatus) :
    HelpDeskListScreen Item :=
  { selectedTab := status
    list := getHelpDeskListAPI language state.list (language.name status) }

def updated (state : HelpDeskListScreen Item) : HelpDeskListScreen Item :=
  { state with
    list :=
      { getHelpDeskListAPI language state.list OPEN with
        controls := language.asked state.selectedTab } }

def next (state : HelpDeskListScreen Item) : HelpDeskEvent → HelpDeskListScreen Item
  | .initState cached =>
      { selectedTab := .all, list := opened cached (language.asked .all) }
  | .onSelected status => onSelected language state status
  | .added => onSelected language state .all
  | .updated => updated language state
  | .onNextPage => { state with list := (helpDeskList pages).nextPage state.list }
  | .onRefresh => { state with list := restart state.list }
  | .answer index succeeds =>
      { state with list := (helpDeskList pages).answer state.list index succeeds }

def machine : Machine (HelpDeskListScreen Item) HelpDeskEvent Empty :=
  { next := next language pages
    outputs := fun _ _ => [] }

def unopened : HelpDeskListScreen Item :=
  { selectedTab := .all
    list := { untouched (language.asked .all) with asked := HelpDeskStatus.all.word } }

/-- What has been asked for last is the status of the chip, and once it has come the list
shows its pages. -/
def ShowsTab (state : HelpDeskListScreen Item) : Prop :=
  state.list.asked = state.selectedTab.word ∧ HoldsQuery (helpDeskList pages) state.list

def Spells (tab : HelpDeskStatus) : Prop :=
  language.asked tab = tab.word

/-- A request is for the status of the chip, and an answer arrives in its place. -/
def FitsTab (state : HelpDeskListScreen Item) : HelpDeskEvent → Prop
  | .initState _ => Spells language .all
  | .onSelected status => Spells language status
  | .added => Spells language .all
  | .updated => language.toLowerCase OPEN = state.selectedTab.word
  | .onNextPage =>
      state.list.isLastPage = false → state.list.snapshot.showsList = true →
        Spells language state.selectedTab
  | .onRefresh => Spells language state.selectedTab
  | .answer index succeeds =>
      ArrivesInPlace (helpDeskList pages) state.list (.answer index succeeds)

/-! ### Steps -/

structure Sound (state : HelpDeskListScreen Item) : Prop where
  list : PagedList.Sound state.list
  controls : state.list.controls = language.asked state.selectedTab

theorem sound_unopened : Sound language (unopened language : HelpDeskListScreen Item) := by
  have idle : PagedList.Sound (untouched (language.asked .all) : ListState String Item) :=
    sound_of_isStart ⟨_, Or.inl rfl⟩
  constructor
  · exact
      { positive := idle.positive
        bounded := idle.bounded
        latest := fun _ impossible => absurd impossible List.not_mem_nil
        pending := idle.pending
        failed := idle.failed
        notAsked := idle.notAsked }
  · rfl

theorem Sound.restarted {list : ListState String Item} (sound : PagedList.Sound list)
    (status : String) : PagedList.Sound (getHelpDeskListAPI language list status) :=
  sound_fetch (Nat.le_refl 1) sound.bounded

theorem controls_settled (list : ListState String Item) (request : Request String)
    (succeeds : Bool) : (settled list request succeeds).controls = list.controls := by
  unfold settled
  split
  · split <;> rfl
  · rfl

theorem asked_settled (list : ListState String Item) (request : Request String)
    (succeeds : Bool) : (settled list request succeeds).asked = list.asked := by
  unfold settled
  split
  · split <;> rfl
  · rfl

theorem queries_answer (list : ListState String Item) (index : Nat) (succeeds : Bool) :
    ((helpDeskList pages).answer list index succeeds).controls = list.controls ∧
      ((helpDeskList pages).answer list index succeeds).asked = list.asked := by
  unfold PagedScreen.answer
  cases list.inFlight[index]? with
  | none => exact ⟨rfl, rfl⟩
  | some request =>
      dsimp only
      cases succeeds with
      | true =>
          rw [if_pos rfl, controls_settled, asked_settled]
          exact ⟨rfl, rfl⟩
      | false =>
          rw [if_neg Bool.false_ne_true, controls_settled, asked_settled]
          exact ⟨rfl, rfl⟩

theorem nextPage_eq (list : ListState String Item) :
    (helpDeskList pages).nextPage list =
      if list.isLastPage = false ∧ list.snapshot.showsList = true then
        fetch { list with page := list.page + 1 }
      else list := by
  unfold PagedScreen.nextPage
  change (if (list.isLastPage || false || (true && !list.snapshot.showsList)) = true then _
    else _) = _
  cases list.isLastPage with
  | true => rfl
  | false =>
      cases list.snapshot.showsList with
      | true => rfl
      | false => rfl

theorem controls_nextPage (list : ListState String Item) :
    ((helpDeskList pages).nextPage list).controls = list.controls := by
  rw [nextPage_eq]
  split <;> rfl

theorem sound_next (state : HelpDeskListScreen Item) (event : HelpDeskEvent)
    (sound : Sound language state) : Sound language (next language pages state event) := by
  have keeps := PagedList.sound_next (helpDeskList pages) state.list
  cases event with
  | initState cached => exact ⟨sound_of_isStart ⟨_, Or.inr ⟨cached, rfl⟩⟩, rfl⟩
  | onSelected status => exact ⟨Sound.restarted language sound.list _, rfl⟩
  | added => exact ⟨Sound.restarted language sound.list _, rfl⟩
  | updated =>
      have restarted := Sound.restarted language sound.list OPEN
      refine ⟨?_, rfl⟩
      exact
        { positive := restarted.positive
          bounded := restarted.bounded
          latest := restarted.latest
          pending := restarted.pending
          failed := restarted.failed
          notAsked := restarted.notAsked }
  | onNextPage =>
      refine ⟨keeps .nextPage sound.list, ?_⟩
      exact (controls_nextPage pages state.list).trans sound.controls
  | onRefresh => exact ⟨keeps .restart sound.list, sound.controls⟩
  | answer index succeeds =>
      refine ⟨keeps (.answer index succeeds) sound.list, ?_⟩
      exact (queries_answer pages state.list index succeeds).1.trans sound.controls

theorem holdsQuery_of_pending {list : ListState String Item} (pending : list.future = .pending) :
    HoldsQuery (helpDeskList pages) list := by
  apply holdsQuery_of_future_ne
  rw [pending]
  exact fun impossible => nomatch impossible

theorem showsTab_next_iff (state : HelpDeskListScreen Item) (event : HelpDeskEvent)
    (sound : Sound language state) (shows : ShowsTab pages state) :
    ShowsTab pages (next language pages state event) ↔ FitsTab language pages state event := by
  cases event with
  | initState cached =>
      exact and_iff_left (holdsQuery_of_pending pages rfl)
  | onSelected status => exact and_iff_left (holdsQuery_of_pending pages rfl)
  | added => exact and_iff_left (holdsQuery_of_pending pages rfl)
  | updated => exact and_iff_left (holdsQuery_of_pending pages rfl)
  | onRefresh =>
      refine (and_iff_left (holdsQuery_of_pending pages rfl)).trans ?_
      change state.list.controls = _ ↔ _
      rw [sound.controls]
      rfl
  | onNextPage =>
      change ((helpDeskList pages).nextPage state.list).asked = _ ∧
        HoldsQuery (helpDeskList pages) ((helpDeskList pages).nextPage state.list) ↔
          (state.list.isLastPage = false → state.list.snapshot.showsList = true →
            Spells language state.selectedTab)
      rw [nextPage_eq]
      by_cases fetches : state.list.isLastPage = false ∧ state.list.snapshot.showsList = true
      · rw [if_pos fetches]
        refine (and_iff_left (holdsQuery_of_pending pages rfl)).trans ?_
        change state.list.controls = _ ↔ _
        rw [sound.controls]
        exact ⟨fun same _ _ => same, fun spells => spells fetches.1 fetches.2⟩
      · rw [if_neg fetches]
        refine iff_of_true shows ?_
        intro more shown
        exact absurd ⟨more, shown⟩ fetches
  | answer index succeeds =>
      have asked := (queries_answer pages state.list index succeeds).2
      have holds := holdsQuery_answer_iff (helpDeskList pages) sound.list shows.2 index succeeds
      change (((helpDeskList pages).answer state.list index succeeds).asked = _ ∧ _) ↔ _
      rw [asked]
      exact (and_iff_right shows.1).trans holds

end Screen

/-- In every order of taps, updates from the detail screen and answers: the list shows the
queries of the chip, page by page, in every state exactly when the language spells the status
of each request as the server does, nothing is closed on the detail screen while another chip
than the open one is chosen, and every answer arrives in its place. -/
theorem helpDesk_shows_tab_iff {Item : Type*} (language : Language)
    (pages : String → Nat → List Item) (events : List HelpDeskEvent) :
    let screen := machine language pages
    screen.Every (fun state event => ShowsTab pages (screen.next state event))
        (unopened language) events ↔
      screen.Every (FitsTab language pages) (unopened language) events := by
  intro screen
  apply Machine.every_next_iff_of_sound (Sound language) (ShowsTab pages)
    (sound_next language pages) (showsTab_next_iff language pages) (sound_unopened language)
  constructor
  · rfl
  · apply holdsQuery_of_future_ne
    exact fun impossible => nomatch impossible

end FiksOpp.HelpDesk
