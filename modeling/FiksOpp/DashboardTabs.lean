/-
The tabs of the dashboard: `DashboardScreen` with its `currentIndex`.

The chat tab is there while chat is enabled, and a reload of the configuration changes
that without building the screen again.  A build looks the index up in the list of tabs.
-/

import FiksOpp.Foundations.EventRun
import FiksOpp.NotificationRouting

namespace FiksOpp.DashboardTabs

open EventRun
open Notifications

inductive Tab where
  | home
  | myJobs
  | booking
  | chat
  | profile
  deriving DecidableEq, Repr

/-- The bodies of a build; its navigation bar has the same destinations. -/
def tabs (isEnableChat : Bool) : List Tab :=
  [.home, .myJobs, .booking] ++ (if isEnableChat then [.chat] else []) ++ [.profile]

structure State where
  currentIndex : ℕ
  ignoreFirebaseStreamUntil : Bool := true
  isEnableChat : Bool
  /-- The flag as the last build saw it; there is no bar before it or where it threw. -/
  shown : Option Bool := none
  deriving DecidableEq, Repr

def clamp (value lower upper : ℤ) : ℤ :=
  if value < lower then lower else if upper < value then upper else value

def initState (initialTabIndex : Option ℤ) (redirectToBooking : Option Bool)
    (isEnableChat : Bool) : State :=
  { currentIndex :=
      match initialTabIndex with
      | some index => (clamp index 0 4).toNat
      | none => if redirectToBooking.getD false then 2 else 0
    isEnableChat := isEnableChat }

def emitted (data : Payload) : Option ℤ :=
  if data.containsKey "is_chat" then some 3 else none

def onFirebase (state : State) (value : ℤ) : State :=
  if state.ignoreFirebaseStreamUntil then
    state
  else if value = 3 then
    { state with currentIndex := if state.isEnableChat then 4 else 3 }
  else
    state

def onDestinationSelected (state : State) (index : ℕ) : State :=
  { state with currentIndex := index }

/-- The body, or nothing where the index is out of range. -/
def build (state : State) : Option Tab :=
  (tabs state.isEnableChat)[state.currentIndex]?

inductive Event where
  | build
  | tap (index : ℕ)
  | notificationClick (data : Payload)
  /-- The 60 s after the launch are over. -/
  | listen
  | reload (isEnableChat : Bool)

def offered (state : State) (index : ℕ) : Bool :=
  match state.shown with
  | none => false
  | some isEnableChat => decide (index < (tabs isEnableChat).length)

def next (state : State) : Event → State
  | .build => { state with shown := (build state).map fun _ => state.isEnableChat }
  | .tap index => if offered state index then onDestinationSelected state index else state
  | .notificationClick data =>
      match emitted data with
      | none => state
      | some value => onFirebase state value
  | .listen => { state with ignoreFirebaseStreamUntil := false }
  | .reload isEnableChat => { state with isEnableChat := isEnableChat }

def outputs (state : State) : Event → List (Option Tab)
  | .build => [build state]
  | _ => []

def machine : Machine State Event (Option Tab) where
  next := next
  outputs := outputs

def isChat (data : Payload) : Bool :=
  data.containsKey "is_chat"

/-- A build finds its body, and a chat notification selects the chat tab when there is one. -/
def TabsRight (state : State) : Event → Prop
  | .build => state.currentIndex < (tabs state.isEnableChat).length
  | .notificationClick data =>
      isChat data = true → state.isEnableChat = true →
        build (next state (.notificationClick data)) = some .chat
  | _ => True

/-- No build without chat meets the fifth index, and a chat notification comes while chat
is disabled, or is ignored where the chat tab is open already. -/
def Keeps (state : State) : Event → Prop
  | .build => state.isEnableChat = false → state.currentIndex ≠ 4
  | .notificationClick data =>
      isChat data = true → state.isEnableChat = true →
        state.ignoreFirebaseStreamUntil = true ∧ state.currentIndex = 3
  | _ => True

/-! ### The index -/

theorem length_tabs (isEnableChat : Bool) :
    (tabs isEnableChat).length = if isEnableChat then 5 else 4 := by
  cases isEnableChat <;> rfl

theorem length_tabs_le (isEnableChat : Bool) : (tabs isEnableChat).length ≤ 5 := by
  cases isEnableChat <;> decide

theorem clamp_bounds (value lower upper : ℤ) (ordered : lower ≤ upper) :
    lower ≤ clamp value lower upper ∧ clamp value lower upper ≤ upper := by
  unfold clamp
  split
  · exact ⟨Int.le_refl _, ordered⟩
  · split <;> omega

theorem build_eq_chat_iff (state : State) (enabled : state.isEnableChat = true) :
    build state = some .chat ↔ state.currentIndex = 3 := by
  unfold build
  rw [enabled]
  constructor
  · intro found
    obtain ⟨within, _⟩ := List.getElem?_eq_some_iff.mp found
    have only : ∀ index : Fin 5, (tabs true)[index.val]? = some .chat → index.val = 3 := by
      decide
    exact only ⟨state.currentIndex, within⟩ found
  · intro third
    rw [third]
    rfl

theorem initState_le (initialTabIndex : Option ℤ) (redirectToBooking : Option Bool)
    (isEnableChat : Bool) :
    (initState initialTabIndex redirectToBooking isEnableChat).currentIndex ≤ 4 := by
  unfold initState
  cases initialTabIndex with
  | none =>
      change (if redirectToBooking.getD false then 2 else 0) ≤ 4
      split <;> decide
  | some index =>
      have bounds := clamp_bounds index 0 4 (by decide)
      change (clamp index 0 4).toNat ≤ 4
      omega

theorem lt_of_offered {state : State} {index : ℕ} (present : offered state index = true) :
    index ≤ 4 := by
  unfold offered at present
  cases shown : state.shown with
  | none =>
      rw [shown] at present
      cases present
  | some isEnableChat =>
      rw [shown] at present
      have within := of_decide_eq_true present
      have bound := length_tabs_le isEnableChat
      omega

theorem onFirebase_le {state : State} (bounded : state.currentIndex ≤ 4) (value : ℤ) :
    (onFirebase state value).currentIndex ≤ 4 := by
  unfold onFirebase
  split
  · exact bounded
  · split
    · change (if state.isEnableChat then 4 else 3) ≤ 4
      split <;> decide
    · exact bounded

theorem next_le {state : State} (bounded : state.currentIndex ≤ 4) (event : Event) :
    (next state event).currentIndex ≤ 4 := by
  cases event with
  | build => exact bounded
  | listen => exact bounded
  | reload isEnableChat => exact bounded
  | tap index =>
      unfold next
      dsimp only
      cases present : offered state index with
      | false => exact bounded
      | true => exact lt_of_offered present
  | notificationClick data =>
      unfold next
      dsimp only
      cases emitted data with
      | none => exact bounded
      | some value => exact onFirebase_le bounded value

theorem next_of_isChat {data : Payload} (chat : isChat data = true) (state : State) :
    next state (.notificationClick data) = onFirebase state 3 := by
  have value : emitted data = some 3 := if_pos chat
  unfold next
  dsimp only
  rw [value]

theorem onFirebase_of_ignoring {state : State} (ignoring : state.ignoreFirebaseStreamUntil = true)
    (value : ℤ) : onFirebase state value = state := by
  unfold onFirebase
  rw [if_pos ignoring]

theorem onFirebase_of_listening {state : State}
    (listening : state.ignoreFirebaseStreamUntil = false) :
    onFirebase state 3 =
      { state with currentIndex := if state.isEnableChat then 4 else 3 } := by
  unfold onFirebase
  rw [listening]
  rfl

/-- Past the first minute a notification opens the last tab, with chat or without. -/
theorem build_onFirebase {state : State}
    (listening : state.ignoreFirebaseStreamUntil = false) :
    build (onFirebase state 3) = some .profile := by
  rw [onFirebase_of_listening listening]
  unfold build
  dsimp only
  cases state.isEnableChat <;> rfl

theorem selects_chat_iff {state : State} (enabled : state.isEnableChat = true) :
    build (onFirebase state 3) = some .chat ↔
      state.ignoreFirebaseStreamUntil = true ∧ state.currentIndex = 3 := by
  cases ignoring : state.ignoreFirebaseStreamUntil with
  | true =>
      rw [onFirebase_of_ignoring ignoring, build_eq_chat_iff state enabled]
      exact (and_iff_right rfl).symm
  | false =>
      rw [build_onFirebase ignoring]
      exact iff_of_false (by decide) (fun both => Bool.false_ne_true both.1)

theorem tabsRight_iff {state : State} (bounded : state.currentIndex ≤ 4) (event : Event) :
    TabsRight state event ↔ Keeps state event := by
  cases event with
  | build =>
      change _ < _ ↔ (state.isEnableChat = false → _)
      rw [length_tabs]
      cases state.isEnableChat with
      | true => exact iff_of_true (by change _ < 5; omega) (fun impossible => nomatch impossible)
      | false =>
          change _ < 4 ↔ (false = false → _)
          rw [imp_iff_right rfl]
          omega
  | notificationClick data =>
      apply imp_congr_right
      intro chat
      apply imp_congr_right
      intro enabled
      rw [next_of_isChat chat]
      exact selects_chat_iff enabled
  | tap index => exact Iff.rfl
  | listen => exact Iff.rfl
  | reload isEnableChat => exact Iff.rfl

/-- In every run every build finds its body and every chat notification selects the chat
tab, exactly while no build without chat meets the fifth index and no notification with
chat counts. -/
theorem dashboardTabs_iff (initialTabIndex : Option ℤ) (redirectToBooking : Option Bool)
    (isEnableChat : Bool) (events : List Event) :
    machine.Every TabsRight (initState initialTabIndex redirectToBooking isEnableChat) events ↔
      machine.Every Keeps (initState initialTabIndex redirectToBooking isEnableChat) events :=
  machine.every_congr (fun state => state.currentIndex ≤ 4)
    (fun _ event bounded => next_le bounded event)
    (fun _ event bounded => tabsRight_iff bounded event)
    (initState_le initialTabIndex redirectToBooking isEnableChat)

/-- With chat enabled a chat notification opens the profile. -/
theorem chat_opens_profile :
    ¬ ∀ initialTabIndex redirectToBooking isEnableChat events,
      machine.Every TabsRight (initState initialTabIndex redirectToBooking isEnableChat)
        events := by
  intro always
  have right := (always (some 0) none true
    [.build, .listen, .notificationClick [("is_chat", .str "1")]]).2.2.1
  have selected := right (by decide) rfl
  revert selected
  decide

end FiksOpp.DashboardTabs
