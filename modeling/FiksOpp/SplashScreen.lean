/-
The start of the app, `SplashScreen`.

The configuration is asked for three times at most, each time with a time limit that does not
stop the request.  An answer that comes late is written all the same: it lets the next attempt
end at once, or is found by a timer that looks every half second for half a minute.

Times are milliseconds of one clock.
-/

import Mathlib.Data.List.Basic

namespace FiksOpp.SplashScreen

def configFetchMaxAttempts : ℕ := 3

def configFetchTimeoutPerAttempt : ℕ := 18000

/-- The five minutes within which `getAppConfigurations` asks for nothing. -/
def syncInterval : ℕ := 300000

def tickLength : ℕ := 500

def maxTicks : ℕ := 60

/-- An answer to a request; one that succeeds writes the configuration. -/
structure Answer where
  delay : ℕ
  succeeds : Bool

/-- The answers to the attempts by their number; a request may never be answered. -/
abbrev Server := ℕ → Option Answer

/-- The two preferences as they are at the start, and when configurations are written, by
requests of this start or of an earlier one. -/
structure Preferences where
  isSyncedAtLeastOnce : Bool
  lastSynced : ℕ
  arrivals : List ℕ

namespace Preferences

def synced (preferences : Preferences) (time : ℕ) : Bool :=
  preferences.isSyncedAtLeastOnce || preferences.arrivals.any fun arrival => arrival ≤ time

/-- `LAST_APP_CONFIGURATION_SYNCED_TIME`, which every configuration that is written sets. -/
def lastSyncedAt (preferences : Preferences) (time : ℕ) : ℕ :=
  (preferences.arrivals.filter fun arrival => arrival ≤ time).max?.getD preferences.lastSynced

def syncedRecently (preferences : Preferences) (time : ℕ) : Bool :=
  time < preferences.lastSyncedAt time + syncInterval

def requested (preferences : Preferences) (answer : Option Answer) (time : ℕ) : Preferences :=
  match answer with
  | some answer =>
      if answer.succeeds then
        { preferences with arrivals := (time + answer.delay) :: preferences.arrivals }
      else preferences
  | none => preferences

end Preferences

/-- When an attempt ends and whether it succeeds then; a limit that runs out is an error. -/
def attemptEnd (answer : Option Answer) (time : ℕ) : ℕ × Bool :=
  match answer with
  | some answer =>
      if answer.delay < configFetchTimeoutPerAttempt then (time + answer.delay, answer.succeeds)
      else (time + configFetchTimeoutPerAttempt, false)
  | none => (time + configFetchTimeoutPerAttempt, false)

structure Fetched where
  ended : ℕ
  failed : Bool
  preferences : Preferences

/-- The pause after a failed attempt; the last one is followed by none. -/
def backoff (attempt : ℕ) : ℕ :=
  if attempt < configFetchMaxAttempts then 2000 * attempt else 0

def fetchAppConfigurationsWithRetries (server : Server) : ℕ → ℕ → Preferences → Fetched
  | 0, time, preferences => { ended := time, failed := true, preferences := preferences }
  | left + 1, time, preferences =>
      let attempt := configFetchMaxAttempts - left
      if preferences.syncedRecently time then
        { ended := time, failed := false, preferences := preferences }
      else
        let requested := preferences.requested (server attempt) time
        match attemptEnd (server attempt) time with
        | (ended, true) => { ended := ended, failed := false, preferences := requested }
        | (ended, false) =>
            fetchAppConfigurationsWithRetries server left (ended + backoff attempt) requested

/-- The timer of `_startLateConfigurationWatcher`: when it leaves the screen, if it does. -/
def lateConfigurationWatcher (preferences : Preferences) : ℕ → ℕ → Option ℕ
  | 0, _ => none
  | ticks + 1, time =>
      if preferences.synced (time + tickLength) then some (time + tickLength)
      else lateConfigurationWatcher preferences ticks (time + tickLength)

section Init

variable (server : Server) (networkCheck time : ℕ) (preferences : Preferences)

def fetched : Fetched :=
  fetchAppConfigurationsWithRetries server configFetchMaxAttempts time preferences

/-- After a failure the network is looked at before the error is shown. -/
def reported : ℕ :=
  (fetched server time preferences).ended +
    if (fetched server time preferences).failed then networkCheck else 0

/-- When `init` leaves the screen, if it does without a tap on reload. -/
def leaves : Option ℕ :=
  let found := (fetched server time preferences).preferences
  let now := reported server networkCheck time preferences
  if found.synced now then some now else lateConfigurationWatcher found maxTicks now

end Init

namespace Preferences

variable {preferences : Preferences} {answer : Option Answer} {time : ℕ}

theorem mem_arrivals_requested {arrival : ℕ}
    (member : arrival ∈ (preferences.requested answer time).arrivals) :
    arrival ∈ preferences.arrivals ∨ time ≤ arrival := by
  unfold requested at member
  cases answer with
  | none => exact Or.inl member
  | some given =>
      dsimp only at member
      split at member
      · rcases List.mem_cons.mp member with rfl | old
        · exact Or.inr (Nat.le_add_right time given.delay)
        · exact Or.inl old
      · exact Or.inl member

theorem le_lastSyncedAt {arrival : ℕ} (member : arrival ∈ preferences.arrivals)
    (before : arrival ≤ time) : arrival ≤ preferences.lastSyncedAt time := by
  refine List.le_max?_getD_of_mem (List.mem_filter.mpr ⟨member, ?_⟩)
  exact decide_eq_true before

theorem lt_of_not_syncedRecently {arrival : ℕ} (asks : preferences.syncedRecently time = false)
    (member : arrival ∈ preferences.arrivals) (recent : time < arrival + syncInterval) :
    time < arrival := by
  rcases Nat.lt_or_ge time arrival with later | before
  · exact later
  · have late := of_decide_eq_false asks
    have last := le_lastSyncedAt member before
    omega

theorem synced_of_arrival {arrival : ℕ} (member : arrival ∈ preferences.arrivals)
    (before : arrival ≤ time) : preferences.synced time = true := by
  unfold synced
  rw [Bool.or_eq_true, List.any_eq_true]
  exact Or.inr ⟨arrival, member, decide_eq_true before⟩

theorem synced_mono {later : ℕ} (order : time ≤ later)
    (holds : preferences.synced time = true) : preferences.synced later = true := by
  unfold synced at holds
  rw [Bool.or_eq_true, List.any_eq_true] at holds
  rcases holds with once | ⟨arrival, member, before⟩
  · unfold synced
    rw [once, Bool.true_or]
  · exact synced_of_arrival member (Nat.le_trans (of_decide_eq_true before) order)

end Preferences

theorem attemptEnd_le (answer : Option Answer) (time : ℕ) :
    time ≤ (attemptEnd answer time).1 ∧
      (attemptEnd answer time).1 ≤ time + configFetchTimeoutPerAttempt := by
  unfold attemptEnd
  cases answer with
  | none => dsimp only; omega
  | some given =>
      dsimp only
      split <;> dsimp only <;> omega

theorem backoff_le (attempt : ℕ) : backoff attempt ≤ 4000 := by
  unfold backoff configFetchMaxAttempts
  split <;> omega

/-- What one attempt comes to: nothing is asked, or it ends within its limit and is the last or
is followed by the next. -/
theorem fetch_cases (server : Server) (left time : ℕ) (preferences : Preferences) :
    let attempt := configFetchMaxAttempts - left
    let requested := preferences.requested (server attempt) time
    let result := fetchAppConfigurationsWithRetries server (left + 1) time preferences
    result = { ended := time, failed := false, preferences := preferences } ∨
      preferences.syncedRecently time = false ∧
        ∃ ended, time ≤ ended ∧ ended ≤ time + configFetchTimeoutPerAttempt ∧
          (result = { ended := ended, failed := false, preferences := requested } ∨
            result = fetchAppConfigurationsWithRetries server left
              (ended + backoff attempt) requested) := by
  intro attempt requested result
  have ends := attemptEnd_le (server attempt) time
  cases asks : preferences.syncedRecently time with
  | true =>
      refine Or.inl ?_
      change (if preferences.syncedRecently time = true then _ else _) = _
      rw [asks, if_pos rfl]
  | false =>
      refine Or.inr ⟨rfl, (attemptEnd (server attempt) time).1, ends.1, ends.2, ?_⟩
      change (if preferences.syncedRecently time = true then _ else _) = _ ∨
        (if preferences.syncedRecently time = true then _ else _) = _
      rw [asks, if_neg Bool.false_ne_true]
      cases finished : attemptEnd (server attempt) time with
      | mk ended succeeded =>
          cases succeeded with
          | true => exact Or.inl rfl
          | false => exact Or.inr rfl

theorem arrivals_fetched (server : Server) (left : ℕ) :
    ∀ (time : ℕ) (preferences : Preferences) (arrival : ℕ),
      arrival ∈ (fetchAppConfigurationsWithRetries server left time
        preferences).preferences.arrivals → arrival ∈ preferences.arrivals ∨ time ≤ arrival := by
  induction left with
  | zero =>
      intro time preferences arrival member
      exact Or.inl member
  | succ left ih =>
      intro time preferences arrival member
      rcases fetch_cases server left time preferences with
        known | ⟨-, ended, since, -, last | next⟩
      · rw [known] at member
        exact Or.inl member
      · rw [last] at member
        exact Preferences.mem_arrivals_requested member
      · rw [next] at member
        rcases ih _ _ arrival member with old | later
        · exact Preferences.mem_arrivals_requested old
        · exact Or.inr (by omega)

/-- A configuration that comes while the attempts run, or not long before them, ends them: the
longest wait is one attempt and the longest pause. -/
theorem fetch_ends_after_arrival (server : Server) (left : ℕ) :
    ∀ (time : ℕ) (preferences : Preferences) (arrival : ℕ),
      arrival ∈ (fetchAppConfigurationsWithRetries server left time
        preferences).preferences.arrivals → time ≤ arrival + 22000 →
      (fetchAppConfigurationsWithRetries server left time preferences).ended
        ≤ arrival + 22000 := by
  induction left with
  | zero =>
      intro time preferences arrival member near
      exact near
  | succ left ih =>
      intro time preferences arrival member near
      have known := arrivals_fetched server (left + 1) time preferences arrival member
      have pause := backoff_le (configFetchMaxAttempts - left)
      rcases fetch_cases server left time preferences with
        recent | ⟨asks, ended, -, within, result⟩
      · rw [recent]
        exact near
      · unfold configFetchTimeoutPerAttempt at within
        -- an attempt that asks has found nothing written in the last five minutes
        have notBefore : time ≤ arrival := by
          rcases known with old | later
          · refine Nat.le_of_lt (Preferences.lt_of_not_syncedRecently asks old ?_)
            unfold syncInterval
            omega
          · exact later
        rcases result with last | next
        · rw [last]
          dsimp only
          omega
        · rw [next] at member ⊢
          exact ih _ _ arrival member (by omega)

def longestFetch : ℕ → ℕ
  | 0 => 0
  | left + 1 =>
      configFetchTimeoutPerAttempt + backoff (configFetchMaxAttempts - left) + longestFetch left

theorem fetch_ended_le (server : Server) (left : ℕ) :
    ∀ (time : ℕ) (preferences : Preferences),
      time ≤ (fetchAppConfigurationsWithRetries server left time preferences).ended ∧
        (fetchAppConfigurationsWithRetries server left time preferences).ended
          ≤ time + longestFetch left := by
  induction left with
  | zero =>
      intro time preferences
      exact ⟨Nat.le_refl time, Nat.le_refl time⟩
  | succ left ih =>
      intro time preferences
      unfold longestFetch
      rcases fetch_cases server left time preferences with
        known | ⟨-, ended, since, within, last | next⟩
      · rw [known]
        dsimp only
        omega
      · rw [last]
        dsimp only
        omega
      · rw [next]
        have rest := ih (ended + backoff (configFetchMaxAttempts - left))
          (preferences.requested (server (configFetchMaxAttempts - left)) time)
        omega

theorem watcher_leaves {preferences : Preferences} {arrived : ℕ}
    (synced : preferences.synced arrived = true) (ticks : ℕ) :
    ∀ time, time < arrived → arrived ≤ time + tickLength * ticks →
      ∃ left, lateConfigurationWatcher preferences ticks time = some left ∧
        left ≤ arrived + tickLength := by
  induction ticks with
  | zero =>
      intro time after before
      omega
  | succ ticks ih =>
      intro time after before
      unfold lateConfigurationWatcher
      split
      · exact ⟨time + tickLength, rfl, by omega⟩
      · rename_i absent
        have later : time + tickLength < arrived := by
          by_contra reached
          exact absent (Preferences.synced_mono (Nat.le_of_not_lt reached) synced)
        refine ih (time + tickLength) later ?_
        rw [Nat.mul_succ] at before
        omega

theorem watcher_left {preferences : Preferences} {left : ℕ} (ticks : ℕ) :
    ∀ time, lateConfigurationWatcher preferences ticks time = some left →
      preferences.synced left = true ∧ left ≤ time + tickLength * ticks := by
  induction ticks with
  | zero =>
      intro time found
      cases found
  | succ ticks ih =>
      intro time found
      unfold lateConfigurationWatcher at found
      rw [Nat.mul_succ]
      split at found
      · rename_i there
        cases found
        exact ⟨there, by omega⟩
      · have rest := ih (time + tickLength) found
        exact ⟨rest.1, by omega⟩

section Init

variable (server : Server) (networkCheck time : ℕ) (preferences : Preferences)

/-- The screen is left without a tap on reload exactly if a configuration is there half a minute
after the report. -/
theorem leaves_isSome_iff :
    (leaves server networkCheck time preferences).isSome = true ↔
      (fetched server time preferences).preferences.synced
        (reported server networkCheck time preferences + tickLength * maxTicks) = true := by
  unfold leaves
  dsimp only
  split
  · rename_i there
    exact ⟨fun _ => Preferences.synced_mono (Nat.le_add_right _ _) there, fun _ => rfl⟩
  · rename_i absent
    constructor
    · intro some
      obtain ⟨left, found⟩ := Option.isSome_iff_exists.mp some
      have kept := watcher_left maxTicks _ found
      exact Preferences.synced_mono kept.2 kept.1
    · intro synced
      obtain ⟨left, found, -⟩ := watcher_leaves synced maxTicks
        (reported server networkCheck time preferences)
        (Nat.lt_add_of_pos_right (by decide)) (Nat.le_refl _)
      rw [found]
      rfl

theorem reported_le : reported server networkCheck time preferences
    ≤ (fetched server time preferences).ended + networkCheck := by
  unfold reported
  split <;> omega

/-- A configuration that is written between the start and the end of the watch is noticed. -/
theorem leaves_after_arrival {arrival : ℕ}
    (member : arrival ∈ (fetched server time preferences).preferences.arrivals)
    (since : time ≤ arrival)
    (within : arrival ≤ reported server networkCheck time preferences + tickLength * maxTicks) :
    ∃ left, leaves server networkCheck time preferences = some left ∧
      left ≤ arrival + 22000 + networkCheck := by
  have ended : (fetched server time preferences).ended ≤ arrival + 22000 :=
    fetch_ends_after_arrival server configFetchMaxAttempts time preferences arrival member
      (by omega)
  have report := reported_le server networkCheck time preferences
  have synced := Preferences.synced_of_arrival member (Nat.le_refl arrival)
  unfold leaves
  dsimp only
  split
  · exact ⟨_, rfl, by omega⟩
  · rename_i absent
    have later : reported server networkCheck time preferences < arrival := by
      by_contra reached
      exact absent (Preferences.synced_mono (Nat.le_of_not_lt reached) synced)
    obtain ⟨left, found, soon⟩ := watcher_leaves synced maxTicks _ later within
    refine ⟨left, found, ?_⟩
    unfold tickLength at soon
    omega

/-- What a start comes to, whatever the server answers and whatever earlier starts have left
under way: it reports within a minute of waiting for the server, it leaves exactly if there is a
configuration half a minute after that, and one that is written meanwhile is never missed. -/
theorem splash_settles :
    (fetched server time preferences).ended ≤ time + 60000 ∧
      ((leaves server networkCheck time preferences).isSome = true ↔
        (fetched server time preferences).preferences.synced
          (reported server networkCheck time preferences + 30000) = true) ∧
      (∀ left, leaves server networkCheck time preferences = some left →
        (fetched server time preferences).preferences.synced left = true ∧
          left ≤ reported server networkCheck time preferences + 30000) ∧
      ∀ arrival ∈ (fetched server time preferences).preferences.arrivals, time ≤ arrival →
        arrival ≤ reported server networkCheck time preferences + 30000 →
        ∃ left, leaves server networkCheck time preferences = some left ∧
          left ≤ arrival + 22000 + networkCheck := by
  refine ⟨(fetch_ended_le server configFetchMaxAttempts time preferences).2,
    leaves_isSome_iff server networkCheck time preferences, ?_,
    fun arrival member => leaves_after_arrival server networkCheck time preferences member⟩
  intro left found
  unfold leaves at found
  dsimp only at found
  split at found
  · rename_i there
    cases found
    exact ⟨there, Nat.le_add_right _ _⟩
  · exact watcher_left maxTicks _ found

end Init

end FiksOpp.SplashScreen
