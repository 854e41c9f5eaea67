/-
The `LiveStream` subscriptions of the screens.

A screen subscribes in `initState` and disposes its keys in `dispose`; the toolkit's
`dispose` takes away all listeners of a key.  Pushes, pops and replacements of screens
are here mounts and removals in any order: a new task mounts its screen before the old
one is removed.
-/

import FiksOpp.Foundations.KeyedListeners

namespace FiksOpp.LiveStreams

open EventRun
open KeyedListeners

inductive LiveStreamKey where
  | updateBookingList
  | updateDashboard
  | startTimer
  | pauseTimer
  | updateBider
  | firebase
  | updateHelpDeskList
  deriving DecidableEq, Repr

inductive Screen where
  | dashboardScreen
  | dashboardFragment
  | dashboardFragment1
  | dashboardFragment2
  | dashboardFragment3
  | dashboardFragment4
  | bookingFragment
  | myPostDetailScreen
  | countdownComponent
  | helpDeskListScreen
  /-- A screen that subscribes to nothing. -/
  | other
  deriving DecidableEq, Repr

def subscribes : Screen → List LiveStreamKey
  | .dashboardScreen => [.firebase]
  | .dashboardFragment | .dashboardFragment1 | .dashboardFragment2 | .dashboardFragment3
  | .dashboardFragment4 => [.updateDashboard]
  | .bookingFragment => [.updateBookingList]
  | .myPostDetailScreen => [.updateBider]
  | .countdownComponent => [.startTimer, .pauseTimer]
  | .helpDeskListScreen => [.updateHelpDeskList]
  | .other => []

/-- The calls in `dispose`, which `HelpDeskListScreen` does not have. -/
def disposes : Screen → List LiveStreamKey
  | .dashboardScreen => [.firebase]
  | .dashboardFragment | .dashboardFragment1 | .dashboardFragment2 | .dashboardFragment3
  | .dashboardFragment4 => [.updateDashboard]
  | .bookingFragment => [.updateBookingList]
  | .myPostDetailScreen => [.updateBider]
  | .countdownComponent => [.pauseTimer, .startTimer]
  | .helpDeskListScreen => []
  | .other => []

def liveStream : Behaviour Screen LiveStreamKey where
  subscribes := subscribes
  disposes := disposes

def sharesKey (screen another : Screen) : Bool :=
  (subscribes another).any fun key => (subscribes screen).contains key

/-- The screen that goes is no help desk list, and no other mounted screen has a key of it. -/
def KeepsListeners (state : State Screen LiveStreamKey) : Event Screen LiveStreamKey → Prop
  | .remove id =>
      ∀ screen, (id, screen) ∈ state.mounted →
        screen ≠ .helpDeskListScreen ∧
          ∀ other another, (other, another) ∈ state.mounted → other ≠ id →
            sharesKey screen another = false
  | _ => True

theorem disposes_own_iff (screen : Screen) :
    (∀ key ∈ subscribes screen, key ∈ disposes screen) ↔ screen ≠ .helpDeskListScreen := by
  cases screen <;> decide

theorem mem_disposes_iff {screen : Screen} (disposing : screen ≠ .helpDeskListScreen)
    (key : LiveStreamKey) : key ∈ disposes screen ↔ key ∈ subscribes screen := by
  cases screen with
  | countdownComponent =>
      unfold disposes subscribes
      rw [List.mem_pair, List.mem_pair]
      exact or_comm
  | helpDeskListScreen => exact absurd rfl disposing
  | _ => exact Iff.rfl

theorem sharesKey_eq_false_iff {screen another : Screen}
    (disposing : screen ≠ .helpDeskListScreen) :
    sharesKey screen another = false ↔
      ∀ key ∈ subscribes another, key ∉ disposes screen := by
  unfold sharesKey
  rw [List.any_eq_false]
  apply forall_congr'
  intro key
  apply imp_congr_right
  intro _
  rw [mem_disposes_iff disposing, List.contains_iff_mem]

theorem separate_iff (state : State Screen LiveStreamKey)
    (event : Event Screen LiveStreamKey) :
    Separate liveStream state event ↔ KeepsListeners state event := by
  cases event with
  | mount screen => exact Iff.rfl
  | emit key => exact Iff.rfl
  | remove id =>
      apply forall_congr'
      intro screen
      apply imp_congr_right
      intro _
      change (∀ key ∈ subscribes screen, key ∈ disposes screen) ∧ _ ↔ _
      rw [disposes_own_iff]
      apply and_congr_right
      intro disposing
      apply forall_congr'
      intro other
      apply forall_congr'
      intro another
      apply imp_congr_right
      intro _
      apply imp_congr_right
      intro _
      exact (sharesKey_eq_false_iff disposing).symm

/-- From the start of the app every mounted screen listens to its keys, and no removed
one to any, exactly while each screen that goes disposes its keys and shares none of them
with another that stays; the handlers of an event are then those of its subscribers. -/
theorem liveStreams_iff (events : List (Event Screen LiveStreamKey)) :
    ((machine liveStream).Every
        (fun state event => Served liveStream ((machine liveStream).next state event)) {}
        events ↔
      (machine liveStream).Every KeepsListeners {} events) ∧
    ∀ state, Served liveStream state → ∀ key id,
      id ∈ (machine liveStream).outputs state (.emit key) ↔
        ∃ screen, (id, screen) ∈ state.mounted ∧ key ∈ subscribes screen := by
  constructor
  · rw [every_served_iff]
    exact (machine liveStream).every_congr (fun _ => True) (fun _ _ _ => trivial)
      (fun state event _ => separate_iff state event) trivial
  · intro state served key id
    exact mem_outputs_emit served key id

/-- A booking list above the dashboard comes and goes; the dashboard is still told. -/
theorem liveStreams_iff_example :
    0 ∈ (machine liveStream).outputs
      ((machine liveStream).run {}
        [.mount .dashboardScreen, .mount .bookingFragment, .remove 1]) (.emit .firebase) := by
  have spec := liveStreams_iff [.mount .dashboardScreen, .mount .bookingFragment, .remove 1]
  have keeps : (machine liveStream).Every KeepsListeners {}
      [.mount .dashboardScreen, .mount .bookingFragment, .remove 1] := by
    refine ⟨trivial, trivial, ?_, trivial⟩
    intro screen member
    have booking : screen = .bookingFragment := by
      rcases List.mem_cons.mp member with first | second
      · cases first
      · cases List.mem_singleton.mp second
        rfl
    subst booking
    refine ⟨by decide, ?_⟩
    intro other another others distinct
    rcases List.mem_cons.mp others with first | second
    · cases first
      decide
    · cases List.mem_singleton.mp second
      exact absurd rfl distinct
  have served := (spec.1.mpr keeps).2.2.1
  exact (spec.2 _ served .firebase 0).mpr
    ⟨.dashboardScreen, List.mem_cons_self, List.mem_cons_self⟩

/-- A dashboard pushed as a new task loses its subscription when the old one is disposed. -/
theorem new_task_silences_dashboard :
    ¬ ∀ events, (machine liveStream).Every
      (fun state event => Served liveStream ((machine liveStream).next state event)) {}
      events := by
  intro always
  have served := (always
    [.mount .dashboardScreen, .mount .dashboardScreen, .remove 0]).2.2.1
  have listening := (served .firebase 1).mpr
    ⟨.dashboardScreen, List.mem_cons_self, List.mem_cons_self⟩
  revert listening
  change ¬ _ ∈ []
  exact List.not_mem_nil

end FiksOpp.LiveStreams
