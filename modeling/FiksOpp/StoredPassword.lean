/-
The password that the app keeps, over the whole life of an installation.

Signing in sends the typed password without the blanks around it and keeps it with them;
changing it sends and keeps it as typed.  A silent renewal of the session sends the kept
password without its blanks, and the change form compares the old one, without its blanks,
with the kept one.
-/

import FiksOpp.AppStoreRestart
import FiksOpp.Foundations.Trimming

namespace FiksOpp.UserState

open CellStore
open EventRun

variable {δ : Type}

theorem trim_trim (text : String) : trim (trim text) = trim text := by
  have asList (text : String) :
      trim text = String.ofList (Trimming.trimmedBy isWhitespace text.toList) := by
    unfold trim Trimming.trimmedBy List.rdropWhile
    rfl
  rw [asList (trim text), asList text, String.toList_ofList, Trimming.trimmedBy_trimmedBy]

/-- The `if` of `changePassword`, which turns away an old password that is not the kept one. -/
def oldPasswordMatches (state : State δ) (oldPassword : String) : Bool :=
  trim oldPassword == getStringAsync state .USER_PASSWORD

def LifeEvent.setsPassword : LifeEvent δ → Option String
  | .fetched ⟨.handleLoginUsers password _, _⟩ => some password
  | .fetched ⟨.changeUserPassword newPassword, _⟩ => some newPassword
  | .logout _ => some ""
  | _ => none

theorem password_of_untouched {writes : Writes δ}
    (untouched : Cell.pref .USER_PASSWORD ∉ cells writes) (state : State δ) :
    getStringAsync (applyAll writes state) .USER_PASSWORD =
      getStringAsync state .USER_PASSWORD := by
  unfold getStringAsync
  rw [applyAll_of_not_mem untouched]

theorem password_saveUserData (data : UserData) (force : Bool) :
    Cell.pref .USER_PASSWORD ∉ cells (saveUserData data force : Writes δ) := by
  unfold saveUserData
  cases force <;> split <;> split <;> simp

theorem password_lifeNext (state : State δ) (event : LifeEvent δ) :
    getStringAsync (lifeNext state event) .USER_PASSWORD =
      event.setsPassword.getD (getStringAsync state .USER_PASSWORD) := by
  cases event with
  | fetched answer =>
      obtain ⟨call, answer⟩ := answer
      cases call with
      | handleLoginUsers password isRemember => rfl
      | changeUserPassword newPassword => rfl
      | saveUserData force => exact password_of_untouched (password_saveUserData answer force) state
      | getAppConfigurations toolkit currentTimeStamp timestamp =>
          exact password_of_untouched (untouched_getAppConfigurations nofun) state
      | appleSignIn =>
          apply password_of_untouched
          change Cell.pref .USER_PASSWORD ∉ cells (appleSignIn answer)
          unfold appleSignIn
          split <;> simp
      | _ => exact password_of_untouched (by simp [writes, setUserWalletAmount, userDashboard,
          buildFullAddressFromLatLong, setUnreadCount]) state
  | logout unsubscription =>
      exact congrArg Network.Session.userPassword
        (networkSession_clearPreferences unsubscription state)
  | setText own val => cases own <;> rfl
  | restart => rfl
  | setCurrentLocation val => rfl
  | setLatitude val => rfl
  | setLongitude val => rfl

/-! ### What the server knows -/

structure Account (δ : Type) where
  app : State δ
  /-- History: the password in the last request that the server took, until a logout. -/
  accepted : Option String

def LifeEvent.accepts (event : LifeEvent δ) (accepted : Option String) : Option String :=
  match event with
  | .fetched ⟨.handleLoginUsers password _, _⟩ => some (trim password)
  | .fetched ⟨.changeUserPassword newPassword, _⟩ => some newPassword
  | .logout _ => none
  | _ => accepted

def passwordLife (δ : Type) : Machine (Account δ) (LifeEvent δ) Unit where
  next account event :=
    { app := lifeNext account.app event, accepted := event.accepts account.accepted }
  outputs _ _ := []

def firstStart (δ : Type) : Account δ :=
  { app := freshInstall δ, accepted := none }

/-- A silent renewal sends what the server took last, and without a password none is tried. -/
def RenewsRight (account : Account δ) : Prop :=
  match account.accepted with
  | some password => ("password", password) ∈ Network.loginRequest (networkSession account.app)
  | none => Network.hasCredentials (networkSession account.app) = false

/-- The change form lets the password through that the server took last. -/
def TakesOld (account : Account δ) : Prop :=
  ∀ password, account.accepted = some password →
    oldPasswordMatches account.app password = true

def LifeEvent.ChangesTrimmed : LifeEvent δ → Prop
  | .fetched ⟨.changeUserPassword newPassword, _⟩ => trim newPassword = newPassword
  | _ => True

def LifeEvent.TypesTrimmed : LifeEvent δ → Prop
  | .fetched ⟨.handleLoginUsers password _, _⟩ => trim password = password
  | .fetched ⟨.changeUserPassword newPassword, _⟩ => trim newPassword = newPassword
  | _ => True

theorem LifeEvent.password_cases (event : LifeEvent δ) (accepted : Option String) :
    (∃ password, event.setsPassword = some password ∧
      event.accepts accepted = some (trim password) ∧ event.ChangesTrimmed ∧
      (event.TypesTrimmed ↔ trim password = password)) ∨
    (∃ newPassword, event.setsPassword = some newPassword ∧
      event.accepts accepted = some newPassword ∧
      (event.ChangesTrimmed ↔ trim newPassword = newPassword) ∧
      (event.TypesTrimmed ↔ trim newPassword = newPassword)) ∨
    (event.setsPassword = some "" ∧ event.accepts accepted = none ∧ event.ChangesTrimmed ∧
      event.TypesTrimmed) ∨
    (event.setsPassword = none ∧ event.accepts accepted = accepted ∧ event.ChangesTrimmed ∧
      event.TypesTrimmed) := by
  cases event with
  | fetched answer =>
      obtain ⟨call, answer⟩ := answer
      cases call with
      | handleLoginUsers password isRemember =>
          exact Or.inl ⟨password, rfl, rfl, trivial, Iff.rfl⟩
      | changeUserPassword newPassword =>
          exact Or.inr (Or.inl ⟨newPassword, rfl, rfl, Iff.rfl, Iff.rfl⟩)
      | _ => exact Or.inr (Or.inr (Or.inr ⟨rfl, rfl, trivial, trivial⟩))
  | logout unsubscription => exact Or.inr (Or.inr (Or.inl ⟨rfl, rfl, trivial, trivial⟩))
  | _ => exact Or.inr (Or.inr (Or.inr ⟨rfl, rfl, trivial, trivial⟩))

def Account.kept (account : Account δ) : String :=
  getStringAsync account.app .USER_PASSWORD

theorem kept_next (account : Account δ) (event : LifeEvent δ) :
    ((passwordLife δ).next account event).kept = event.setsPassword.getD account.kept :=
  password_lifeNext account.app event

def Sound (account : Account δ) : Prop :=
  account.accepted = none → account.kept = ""

theorem sound_next (account : Account δ) (event : LifeEvent δ) (sound : Sound account) :
    Sound ((passwordLife δ).next account event) := by
  unfold Sound
  rw [kept_next]
  change event.accepts account.accepted = none → _
  intro nothing
  rcases event.password_cases account.accepted with
    ⟨password, _, accepted, _⟩ | ⟨newPassword, _, accepted, _⟩ | ⟨cleared, _⟩ |
    ⟨same, kept, _⟩
  · rw [accepted] at nothing
    cases nothing
  · rw [accepted] at nothing
    cases nothing
  · rw [cleared]
    rfl
  · rw [kept] at nothing
    rw [same]
    exact sound nothing

theorem renewsRight_iff {account : Account δ} (sound : Sound account) :
    RenewsRight account ↔
      ∀ password, account.accepted = some password → trim account.kept = password := by
  unfold RenewsRight
  cases taken : account.accepted with
  | none =>
      refine iff_of_true ?_ (fun password impossible => nomatch impossible)
      have nothing : (networkSession account.app).userPassword = "" := sound taken
      unfold Network.hasCredentials
      rw [nothing]
      cases (trim (networkSession account.app).userEmail).isEmpty <;> rfl
  | some password =>
      have sent : Network.loginRequest (networkSession account.app) =
          [("email", trim (networkSession account.app).userEmail),
            ("password", trim account.kept)] := rfl
      simp [sent, eq_comm]

theorem renewsRight_next_iff (account : Account δ) (event : LifeEvent δ) (sound : Sound account)
    (right : RenewsRight account) :
    RenewsRight ((passwordLife δ).next account event) ↔ event.ChangesTrimmed := by
  rw [renewsRight_iff (sound_next account event sound), kept_next]
  rw [renewsRight_iff sound] at right
  change (∀ password, event.accepts account.accepted = some password → _) ↔ _
  rcases event.password_cases account.accepted with
    ⟨password, sets, accepted, changes, _⟩ | ⟨newPassword, sets, accepted, changes, _⟩ |
    ⟨sets, accepted, changes, _⟩ | ⟨sets, accepted, changes, _⟩
  · rw [sets, accepted]
    refine iff_of_true ?_ changes
    intro taken same
    exact Option.some.inj same
  · rw [sets, accepted, changes]
    constructor
    · intro all
      exact all newPassword rfl
    · intro trimmed taken same
      rw [← Option.some.inj same]
      exact trimmed
  · rw [accepted]
    exact iff_of_true (fun _ impossible => nomatch impossible) changes
  · rw [sets, accepted]
    exact iff_of_true right changes

/-- Both hold where the kept password is the one the server took, without blanks around it. -/
theorem renews_and_takesOld_iff {account : Account δ} (sound : Sound account) :
    RenewsRight account ∧ TakesOld account ↔
      ∀ password, account.accepted = some password →
        trim password = password ∧ account.kept = password := by
  rw [renewsRight_iff sound]
  have compares (password : String) :
      oldPasswordMatches account.app password = true ↔ trim password = account.kept :=
    beq_iff_eq
  constructor
  · rintro ⟨renews, takes⟩ password taken
    have sent := renews password taken
    have entered := (compares password).mp (takes password taken)
    have trimmed : trim password = password := by
      rw [← sent, trim_trim]
    exact ⟨trimmed, entered.symm.trans trimmed⟩
  · intro same
    constructor
    · intro password taken
      obtain ⟨trimmed, kept⟩ := same password taken
      rw [kept, trimmed]
    · intro password taken
      obtain ⟨trimmed, kept⟩ := same password taken
      exact (compares password).mpr (trimmed.trans kept.symm)

theorem renews_and_takesOld_next_iff (account : Account δ) (event : LifeEvent δ)
    (sound : Sound account) (good : RenewsRight account ∧ TakesOld account) :
    RenewsRight ((passwordLife δ).next account event) ∧
        TakesOld ((passwordLife δ).next account event) ↔ event.TypesTrimmed := by
  rw [renews_and_takesOld_iff (sound_next account event sound), kept_next]
  rw [renews_and_takesOld_iff sound] at good
  change (∀ password, event.accepts account.accepted = some password → _) ↔ _
  rcases event.password_cases account.accepted with
    ⟨password, sets, accepted, _, types⟩ | ⟨newPassword, sets, accepted, _, types⟩ |
    ⟨sets, accepted, _, types⟩ | ⟨sets, accepted, _, types⟩
  · rw [sets, accepted, types]
    constructor
    · intro all
      exact (all (trim password) rfl).2.symm
    · intro trimmed taken same
      rw [← Option.some.inj same, trim_trim]
      exact ⟨rfl, trimmed.symm⟩
  · rw [sets, accepted, types]
    constructor
    · intro all
      exact (all newPassword rfl).1
    · intro trimmed taken same
      rw [← Option.some.inj same]
      exact ⟨trimmed, rfl⟩
  · rw [accepted]
    exact iff_of_true (fun _ impossible => nomatch impossible) types
  · rw [sets, accepted]
    exact iff_of_true good types

/-- Over the whole life of an installation: silent renewals send the password that the server
took last exactly when no password is changed to one with blanks around it, and the change form
takes that password as the old one as well exactly when none is typed with them at all. -/
theorem stored_password_serves_iff (events : List (LifeEvent δ)) :
    let life := passwordLife δ
    (life.Every (fun account event => RenewsRight (life.next account event)) (firstStart δ)
        events ↔
      life.Every (fun _ event => event.ChangesTrimmed) (firstStart δ) events) ∧
    (life.Every (fun account event =>
        RenewsRight (life.next account event) ∧ TakesOld (life.next account event))
        (firstStart δ) events ↔
      life.Every (fun _ event => event.TypesTrimmed) (firstStart δ) events) := by
  intro life
  have soundly : Sound (firstStart δ) := fun _ => rfl
  have nothing : ∀ password, (firstStart δ).accepted = some password → False :=
    fun password impossible => nomatch impossible
  constructor
  · apply Machine.every_next_iff_of_sound Sound RenewsRight sound_next renewsRight_next_iff soundly
    rw [renewsRight_iff soundly]
    intro password taken
    exact absurd taken (nothing password)
  · apply Machine.every_next_iff_of_sound Sound
      (fun account => RenewsRight account ∧ TakesOld account) sound_next
      renews_and_takesOld_next_iff soundly
    rw [renews_and_takesOld_iff soundly]
    intro password taken
    exact absurd taken (nothing password)

end FiksOpp.UserState
