/-
The provider's location on the booking screen.

A periodic timer asks for it.  The answer to every booking request may start one, as does
every return of the app to the foreground; the screen keeps one reference, through which
it cancels.
-/

import FiksOpp.Constants
import FiksOpp.Foundations.EventRun
import FiksOpp.Foundations.TimerReference

namespace FiksOpp.LocationPolling

open EventRun
open TimerReference

inductive AppLifecycleState where
  | detached
  | resumed
  | inactive
  | hidden
  | paused
  deriving DecidableEq, Repr

inductive Request where
  | bookingDetail
  | providerLocation
  deriving DecidableEq, Repr

structure BookingDetailScreen where
  bookingStatus : BookingStatus := .other ""
  locationUpdateTimer : Timers := {}
  /-- Booking requests that have not been answered. -/
  pending : Nat := 0
  disposed : Bool := false
  deriving DecidableEq, Repr

/-- A refresh may also come after `dispose`, from an update that ends late. -/
inductive ScreenEvent where
  | refresh
  | answered (status : Option BookingStatus)
  | failed
  | timerFires (timer : Nat)
  | didChangeAppLifecycleState (state : AppLifecycleState)
  | dispose
  deriving DecidableEq, Repr

namespace BookingDetailScreen

def startLocationUpdates (screen : BookingDetailScreen) : BookingDetailScreen :=
  { screen with locationUpdateTimer := screen.locationUpdateTimer.start }

def stopLocationUpdates (screen : BookingDetailScreen) : BookingDetailScreen :=
  { screen with locationUpdateTimer := screen.locationUpdateTimer.cancel }

def init (screen : BookingDetailScreen) : BookingDetailScreen :=
  { screen with pending := screen.pending + 1 }

def callbackForStatus (screen : BookingDetailScreen) (status : BookingStatus) :
    BookingDetailScreen :=
  let screen := { screen with bookingStatus := status }
  if screen.bookingStatus = .onGoing then
    screen.startLocationUpdates
  else
    screen.stopLocationUpdates

def didChangeAppLifecycleState (screen : BookingDetailScreen) (state : AppLifecycleState) :
    BookingDetailScreen :=
  if state = .paused then
    screen.stopLocationUpdates
  else if state = .resumed then
    screen.startLocationUpdates
  else
    screen

def initState : BookingDetailScreen :=
  init {}

def answer (screen : BookingDetailScreen) (status : Option BookingStatus) : BookingDetailScreen :=
  if screen.pending = 0 then screen
  else { screen with pending := screen.pending - 1 }.callbackForStatus (status.getD (.other ""))

/-- `dispose` removes the observer. -/
def observe (screen : BookingDetailScreen) (state : AppLifecycleState) : BookingDetailScreen :=
  if screen.disposed then screen else screen.didChangeAppLifecycleState state

def dispose (screen : BookingDetailScreen) : BookingDetailScreen :=
  if screen.disposed then screen else { screen.stopLocationUpdates with disposed := true }

def next (screen : BookingDetailScreen) : ScreenEvent → BookingDetailScreen
  | .refresh => screen.init
  | .answered status => screen.answer status
  | .failed => { screen with pending := screen.pending - 1 }
  | .timerFires _ => screen
  | .didChangeAppLifecycleState state => screen.observe state
  | .dispose => screen.dispose

def outputs (screen : BookingDetailScreen) : ScreenEvent → List Request
  | .refresh => [.bookingDetail]
  | .answered status =>
      if screen.pending ≠ 0 ∧ status.getD (.other "") = .onGoing then [.providerLocation]
      else []
  | .failed => []
  | .timerFires timer =>
      if timer ∈ screen.locationUpdateTimer.active ∧
          screen.bookingStatus = .onGoing then [.providerLocation]
      else []
  | .didChangeAppLifecycleState state =>
      if screen.disposed = false ∧ state = .resumed then [.providerLocation] else []
  | .dispose => []

end BookingDetailScreen

open BookingDetailScreen

def machine : Machine BookingDetailScreen ScreenEvent Request where
  next := BookingDetailScreen.next
  outputs := BookingDetailScreen.outputs

/-- At most one timer runs, and only for an on-going booking on a screen still there. -/
structure PollsOnce (screen : BookingDetailScreen) : Prop where
  single : screen.locationUpdateTimer.active.length ≤ 1
  onGoing : screen.locationUpdateTimer.active ≠ [] →
    screen.bookingStatus = .onGoing ∧ screen.disposed = false

/-- A timer is only started where none runs, for an on-going booking, before `dispose`. -/
def StartsAlone (screen : BookingDetailScreen) : ScreenEvent → Prop
  | .answered status =>
      screen.pending ≠ 0 → status.getD (.other "") = .onGoing →
        screen.locationUpdateTimer.active = [] ∧ screen.disposed = false
  | .didChangeAppLifecycleState state =>
      screen.disposed = false → state = .resumed →
        screen.locationUpdateTimer.active = [] ∧
          screen.bookingStatus = .onGoing
  | _ => True

/-! ### One step -/

/-- What good runs keep: the running timer is the one that `dispose` cancels. -/
def Controlled (screen : BookingDetailScreen) : Prop :=
  PollsOnce screen ∧ screen.locationUpdateTimer.Owned

theorem PollsOnce.of_idle {screen : BookingDetailScreen}
    (idle : screen.locationUpdateTimer.active = []) : PollsOnce screen where
  single := by rw [idle]; exact Nat.zero_le 1
  onGoing := fun running => absurd idle running

theorem Controlled.of_idle {screen : BookingDetailScreen}
    (idle : screen.locationUpdateTimer.active = []) : Controlled screen :=
  ⟨.of_idle idle, Timers.owned_of_idle idle⟩

theorem Controlled.of_same {screen other : BookingDetailScreen} (controlled : Controlled screen)
    (timers : other.locationUpdateTimer = screen.locationUpdateTimer)
    (status : other.bookingStatus = screen.bookingStatus)
    (disposed : other.disposed = screen.disposed) : Controlled other := by
  obtain ⟨polls, owned⟩ := controlled
  refine ⟨⟨?_, ?_⟩, ?_⟩
  · rw [timers]
    exact polls.single
  · rw [timers, status, disposed]
    exact polls.onGoing
  · rw [timers]
    exact owned

theorem controlled_stop {screen : BookingDetailScreen}
    (owned : screen.locationUpdateTimer.Owned) : Controlled screen.stopLocationUpdates :=
  .of_idle owned.active_cancel

theorem pollsOnce_start_iff (screen : BookingDetailScreen) :
    PollsOnce screen.startLocationUpdates ↔
      screen.locationUpdateTimer.active = [] ∧
        screen.bookingStatus = .onGoing ∧ screen.disposed = false := by
  constructor
  · intro polls
    exact ⟨(Timers.length_start_le_iff _).mp polls.single,
      polls.onGoing (Timers.active_start_ne_nil _)⟩
  · rintro ⟨idle, shown⟩
    exact ⟨(Timers.length_start_le_iff _).mpr idle, fun _ => shown⟩

theorem controlled_start {screen : BookingDetailScreen}
    (polls : PollsOnce screen.startLocationUpdates) : Controlled screen.startLocationUpdates :=
  ⟨polls, Timers.owned_start ((pollsOnce_start_iff screen).mp polls).1⟩

def Settles (screen : BookingDetailScreen) (condition : Prop) : Prop :=
  (PollsOnce screen ↔ condition) ∧ (PollsOnce screen → Controlled screen)

theorem Controlled.settles {screen : BookingDetailScreen} (controlled : Controlled screen)
    {condition : Prop} (holds : condition) : Settles screen condition :=
  ⟨iff_of_true controlled.1 holds, fun _ => controlled⟩

theorem start_settles (screen : BookingDetailScreen) :
    Settles screen.startLocationUpdates
      (screen.locationUpdateTimer.active = [] ∧
        screen.bookingStatus = .onGoing ∧ screen.disposed = false) :=
  ⟨pollsOnce_start_iff screen, controlled_start⟩

theorem Settles.congr {screen : BookingDetailScreen} {condition condition' : Prop}
    (settles : Settles screen condition) (same : condition ↔ condition') :
    Settles screen condition' :=
  ⟨settles.1.trans same, settles.2⟩

theorem answer_settles {screen : BookingDetailScreen} (controlled : Controlled screen)
    (status : Option BookingStatus) :
    Settles (screen.answer status) (StartsAlone screen (.answered status)) := by
  unfold answer
  by_cases waiting : screen.pending = 0
  · rw [if_pos waiting]
    exact controlled.settles fun pending => absurd waiting pending
  rw [if_neg waiting]
  unfold callbackForStatus
  by_cases onGoing : status.getD (.other "") = .onGoing
  · rw [if_pos onGoing]
    apply (start_settles _).congr
    constructor
    · rintro ⟨idle, _, present⟩ _ _
      exact ⟨idle, present⟩
    · intro alone
      obtain ⟨idle, present⟩ := alone waiting onGoing
      exact ⟨idle, onGoing, present⟩
  · rw [if_neg onGoing]
    apply Controlled.settles
    · exact .of_idle controlled.2.active_cancel
    · exact fun _ shown => absurd shown onGoing

theorem observe_settles {screen : BookingDetailScreen} (controlled : Controlled screen)
    (state : AppLifecycleState) :
    Settles (screen.observe state)
      (StartsAlone screen (.didChangeAppLifecycleState state)) := by
  unfold observe
  by_cases disposed : screen.disposed = true
  · rw [if_pos disposed]
    exact controlled.settles fun present => absurd disposed (by rw [present]; decide)
  rw [if_neg disposed]
  unfold BookingDetailScreen.didChangeAppLifecycleState
  by_cases paused : state = .paused
  · rw [if_pos paused]
    refine (controlled_stop controlled.2).settles fun _ resumed => ?_
    rw [paused] at resumed
    cases resumed
  rw [if_neg paused]
  by_cases resumed : state = .resumed
  · rw [if_pos resumed]
    have present : screen.disposed = false := Bool.eq_false_iff.mpr disposed
    apply (start_settles screen).congr
    constructor
    · rintro ⟨idle, onGoing, _⟩ _ _
      exact ⟨idle, onGoing⟩
    · intro alone
      obtain ⟨idle, onGoing⟩ := alone present resumed
      exact ⟨idle, onGoing, present⟩
  · rw [if_neg resumed]
    exact controlled.settles fun _ shown => absurd shown resumed

theorem dispose_settles {screen : BookingDetailScreen} (controlled : Controlled screen) :
    Settles screen.dispose True := by
  unfold dispose
  by_cases disposed : screen.disposed = true
  · rw [if_pos disposed]
    exact controlled.settles trivial
  · rw [if_neg disposed]
    apply Controlled.settles
    · exact .of_idle controlled.2.active_cancel
    · trivial

theorem next_settles {screen : BookingDetailScreen} (controlled : Controlled screen)
    (event : ScreenEvent) : Settles (screen.next event) (StartsAlone screen event) := by
  cases event with
  | refresh =>
      have same : Controlled screen.init := controlled.of_same rfl rfl rfl
      exact same.settles trivial
  | answered status => exact answer_settles controlled status
  | failed =>
      have same : Controlled (screen.next .failed) := controlled.of_same rfl rfl rfl
      exact same.settles trivial
  | timerFires timer => exact controlled.settles trivial
  | didChangeAppLifecycleState state => exact observe_settles controlled state
  | dispose => exact dispose_settles controlled

theorem controlled_initState : Controlled initState :=
  .of_idle rfl

/-- In every state of a run at most one timer runs, none for a booking that is not
on-going or on a screen disposed of, exactly while each timer is started where none runs,
for an on-going booking, and before `dispose`. -/
theorem locationPolling_iff (events : List ScreenEvent) :
    PollsOnce initState ∧
      (machine.Every (fun screen event => PollsOnce (machine.next screen event)) initState
          events ↔
        machine.Every StartsAlone initState events) :=
  ⟨controlled_initState.1,
    machine.every_iff_of_step Controlled
      (fun _ event controlled => next_settles controlled event) controlled_initState⟩

/-- The app loses the focus for a moment without being paused: the return to it starts a
second timer, and the first runs on after `dispose`. -/
theorem resumed_without_pause_polls_twice :
    ¬ ∀ events,
      machine.Every (fun screen event => PollsOnce (machine.next screen event)) initState
        events := by
  intro always
  have twice := (always
    [.answered (some .onGoing), .didChangeAppLifecycleState .inactive,
      .didChangeAppLifecycleState .resumed]).2.2.1
  exact absurd twice.single (by decide)

end FiksOpp.LocationPolling
