/-
Which push topics the device is subscribed to.

Firebase serves the calls in the order in which they are made; whoever made one waits for it
and then makes the next.  A subscription reads the id of the user after the permission dialog,
a logout hands over the id it starts with and forgets it a few writes later.
-/

import FiksOpp.Foundations.EventRun
import FiksOpp.Foundations.PendingChanges
import Mathlib.Data.Int.Notation

namespace FiksOpp.PushTopics

open EventRun
open PendingChanges

inductive Topic where
  | user (id : ℤ)
  | userApp
  deriving DecidableEq, Repr

/-- How far a call of `clearPreferences` has come, from the unsubscription on. -/
inductive Clearing where
  | loginType
  | names
  deriving DecidableEq, Repr

structure PushState where
  isLoggedIn : Bool := false
  userId : ℤ := 0
  isSubscribedForPushNotification : Bool := true
  topics : Finset Topic := ∅
  /-- Each stands for its caller too, who goes on when it is served. -/
  calls : List (Change Topic) := []
  /-- Calls of `subscribeToFirebaseTopic` that wait for `initFirebaseMessaging`. -/
  initialising : ℕ := 0
  clearing : List Clearing := []

inductive PushEvent where
  /-- `saveUserData`, up to the id. -/
  | saved (id : ℤ)
  /-- At the end of `saveUserData`, or by the switch. -/
  | subscribeToFirebaseTopic
  | initialised
  /-- `initFirebaseMessaging` has thrown. -/
  | notInitialised
  /-- By the switch. -/
  | unsubscribeFirebaseTopic
  | clearPreferences
  | cleared (index : ℕ)
  | served
  | failed
  deriving DecidableEq, Repr

namespace PushState

def call (state : PushState) (change : Change Topic) : PushState :=
  { state with calls := state.calls ++ [change] }

def subscribeToFirebaseTopic (state : PushState) : PushState :=
  if state.isLoggedIn then { state with initialising := state.initialising + 1 } else state

def initialised (state : PushState) : PushState :=
  match state.initialising with
  | 0 => state
  | others + 1 => { state with initialising := others }.call (.insert (.user state.userId))

def unsubscribeFirebaseTopic (state : PushState) (userId : ℤ) : PushState :=
  state.call (.erase (.user userId))

def clearPreferences (state : PushState) : PushState :=
  { state.unsubscribeFirebaseTopic state.userId with clearing := state.clearing ++ [.loginType] }

def cleared (state : PushState) (index : ℕ) : PushState :=
  match state.clearing[index]? with
  | none => state
  | some .loginType =>
      { state with isLoggedIn := false, clearing := state.clearing.set index .names }
  | some .names => { state with userId := 0, clearing := state.clearing.eraseIdx index }

def goOn (state : PushState) : Change Topic → PushState
  | .insert (.user _) => state.call (.insert .userApp)
  | .insert .userApp => { state with isSubscribedForPushNotification := true }
  | .erase (.user _) => state.call (.erase .userApp)
  | .erase .userApp => { state with isSubscribedForPushNotification := false }

def served (state : PushState) : PushState :=
  match state.calls with
  | [] => state
  | change :: calls =>
      { state with topics := change.apply state.topics, calls := calls }.goOn change

def next (state : PushState) : PushEvent → PushState
  | .saved id => { state with isLoggedIn := true, userId := id }
  | .subscribeToFirebaseTopic => state.subscribeToFirebaseTopic
  | .initialised => state.initialised
  | .notInitialised => { state with initialising := state.initialising - 1 }
  | .unsubscribeFirebaseTopic => state.unsubscribeFirebaseTopic state.userId
  | .clearPreferences => state.clearPreferences
  | .cleared index => state.cleared index
  | .served => state.served
  | .failed => { state with calls := state.calls.tail }

def settledTopics (state : PushState) : Finset Topic :=
  settled state.calls state.topics

end PushState

def pushMachine : Machine PushState PushEvent Empty :=
  { next := PushState.next
    outputs := fun _ _ => [] }

/-- No user's topic but that of the one whose id the app keeps; nobody has the id 0. -/
def OwnTopics (state : PushState) : Prop :=
  ∀ id, .user id ∈ state.settledTopics → id = 0 ∨ id = state.userId

/-- Nobody's data is saved while the topic of somebody else is subscribed to, no logout forgets
an id that was subscribed again meanwhile, and no unsubscription fails from somebody else's
topic that nothing later takes away. -/
def LeavesTopics (state : PushState) : PushEvent → Prop
  | .saved id =>
      .user state.userId ∈ state.settledTopics → state.userId = 0 ∨ state.userId = id
  | .cleared index =>
      state.clearing[index]? = some .names → .user state.userId ∈ state.settledTopics →
        state.userId = 0
  | .failed =>
      ∀ id calls, state.calls = .erase (.user id) :: calls →
        .user id ∈ settled calls state.topics → id = 0 ∨ id = state.userId
  | _ => True

/-- The flag is up where the device gets what is sent to every user.  The switch of the
settings shows it only beside a Firebase user. -/
def FlagShows (state : PushState) : Prop :=
  .userApp ∈ state.topics → state.isSubscribedForPushNotification = true

/-! ### Steps -/

theorem user_mem_call_insert (state : PushState) (id : ℤ) (own : ℤ) :
    .user id ∈ (state.call (.insert (.user own))).settledTopics ↔
      id = own ∨ .user id ∈ state.settledTopics := by
  change .user id ∈ settled (state.calls ++ [_]) state.topics ↔ _
  rw [settled_concat]
  change .user id ∈ insert (Topic.user own) state.settledTopics ↔ _
  rw [Finset.mem_insert, Topic.user.injEq]

theorem user_mem_call_erase (state : PushState) (id : ℤ) (own : ℤ) :
    .user id ∈ (state.call (.erase (.user own))).settledTopics ↔
      id ≠ own ∧ .user id ∈ state.settledTopics := by
  change .user id ∈ settled (state.calls ++ [_]) state.topics ↔ _
  rw [settled_concat]
  change .user id ∈ state.settledTopics.erase (Topic.user own) ↔ _
  rw [Finset.mem_erase, ne_eq, Topic.user.injEq]

theorem user_mem_served (state : PushState) (id : ℤ) :
    .user id ∈ state.served.settledTopics ↔ .user id ∈ state.settledTopics := by
  unfold PushState.served
  cases called : state.calls with
  | nil => exact Iff.rfl
  | cons change calls =>
      have before : state.settledTopics = settled calls (change.apply state.topics) := by
        unfold PushState.settledTopics
        rw [called]
        rfl
      rw [before]
      have appOnly (app : Change Topic) (about : app.member = .userApp) :
          .user id ∈ settled (calls ++ [app]) (change.apply state.topics) ↔
            .user id ∈ settled calls (change.apply state.topics) := by
        rw [settled_concat]
        apply mem_apply_of_ne
        rw [about]
        exact nofun
      cases change with
      | insert topic =>
          cases topic with
          | user other => exact appOnly (.insert .userApp) rfl
          | userApp => exact Iff.rfl
      | erase topic =>
          cases topic with
          | user other => exact appOnly (.erase .userApp) rfl
          | userApp => exact Iff.rfl

theorem userId_served (state : PushState) : state.served.userId = state.userId := by
  unfold PushState.served
  cases state.calls with
  | nil => rfl
  | cons change calls =>
      cases change with
      | insert topic => cases topic <;> rfl
      | erase topic => cases topic <;> rfl

theorem ownTopics_cleared_iff {state : PushState} (own : OwnTopics state) (index : ℕ) :
    OwnTopics (state.cleared index) ↔ LeavesTopics state (.cleared index) := by
  unfold PushState.cleared
  cases phase : state.clearing[index]? with
  | none => exact iff_of_true own (fun names => nomatch phase.symm.trans names)
  | some clearing =>
      cases clearing with
      | loginType => exact iff_of_true own (fun names => nomatch phase.symm.trans names)
      | names =>
          constructor
          · intro left _ member
            exact (left state.userId member).elim id id
          · intro leaves id member
            left
            rcases own id member with nobody | same
            · exact nobody
            · subst same
              exact leaves phase member

theorem ownTopics_failed_iff {state : PushState} (own : OwnTopics state) :
    OwnTopics (state.next .failed) ↔ LeavesTopics state .failed := by
  change (∀ id, .user id ∈ settled state.calls.tail state.topics → id = 0 ∨ id = state.userId) ↔ _
  unfold OwnTopics PushState.settledTopics at own
  cases called : state.calls with
  | nil =>
      rw [called] at own
      refine iff_of_true own ?_
      intro id calls impossible
      rw [called] at impossible
      cases impossible
  | cons change calls =>
      rw [called] at own
      constructor
      · intro left id others same member
        rw [called] at same
        injection same with _ same
        subst same
        exact left id member
      · intro leaves id member
        change .user id ∈ settled calls state.topics at member
        by_cases about : Topic.user id = change.member
        · cases change with
          | insert topic =>
              exact own id (settled_subset_of_failed_insert topic calls state.topics member)
          | erase topic =>
              have same : topic = .user id := about.symm
              subst same
              exact leaves id calls called member
        · exact own id ((mem_settled_of_failed calls state.topics about).mp member)

theorem ownTopics_next_iff (state : PushState) (event : PushEvent) (own : OwnTopics state) :
    OwnTopics (state.next event) ↔ LeavesTopics state event := by
  cases event with
  | saved id =>
      constructor
      · intro left member
        exact left state.userId member
      · intro leaves other member
        rcases own other member with nobody | same
        · exact Or.inl nobody
        · subst same
          exact leaves member
  | subscribeToFirebaseTopic =>
      refine iff_of_true ?_ trivial
      change OwnTopics state.subscribeToFirebaseTopic
      unfold PushState.subscribeToFirebaseTopic
      split
      · exact own
      · exact own
  | initialised =>
      refine iff_of_true ?_ trivial
      change OwnTopics state.initialised
      unfold PushState.initialised
      cases state.initialising with
      | zero => exact own
      | succ others =>
          intro id member
          rw [user_mem_call_insert] at member
          rcases member with same | old
          · exact Or.inr same
          · exact own id old
  | notInitialised => exact iff_of_true own trivial
  | unsubscribeFirebaseTopic =>
      refine iff_of_true ?_ trivial
      intro id member
      exact own id ((user_mem_call_erase state id state.userId).mp member).2
  | clearPreferences =>
      refine iff_of_true ?_ trivial
      intro id member
      exact own id ((user_mem_call_erase state id state.userId).mp member).2
  | cleared index => exact ownTopics_cleared_iff own index
  | served =>
      refine iff_of_true ?_ trivial
      intro id member
      change id = 0 ∨ id = state.served.userId
      rw [userId_served]
      exact own id ((user_mem_served state id).mp member)
  | failed => exact ownTopics_failed_iff own

theorem flagShows_served {state : PushState} (shows : FlagShows state) :
    FlagShows state.served := by
  unfold PushState.served
  cases state.calls with
  | nil => exact shows
  | cons change calls =>
      intro member
      cases change with
      | insert topic =>
          cases topic with
          | user id => exact shows ((mem_apply_of_ne (by exact nofun)).mp member)
          | userApp => rfl
      | erase topic =>
          cases topic with
          | user id => exact shows ((mem_apply_of_ne (by exact nofun)).mp member)
          | userApp => exact absurd member (Finset.notMem_erase _ _)

theorem flagShows_next (state : PushState) (event : PushEvent) (shows : FlagShows state) :
    FlagShows (state.next event) := by
  cases event with
  | subscribeToFirebaseTopic =>
      change FlagShows state.subscribeToFirebaseTopic
      unfold PushState.subscribeToFirebaseTopic
      split
      · exact shows
      · exact shows
  | initialised =>
      change FlagShows state.initialised
      unfold PushState.initialised
      cases state.initialising with
      | zero => exact shows
      | succ others => exact shows
  | cleared index =>
      change FlagShows (state.cleared index)
      unfold PushState.cleared
      cases state.clearing[index]? with
      | none => exact shows
      | some clearing =>
          cases clearing with
          | loginType => exact shows
          | names => exact shows
  | served => exact flagShows_served shows
  | _ => exact shows

end FiksOpp.PushTopics
