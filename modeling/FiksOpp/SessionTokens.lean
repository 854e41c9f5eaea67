/-
Whose token the app keeps.

A sign-in writes the token, the login flag and the id of the user together.  The profile screen
and the profile form write the flag and the id again with what they are answered, mostly without
a token, and a silent renewal writes the token alone.  Nothing in such an answer is compared
with who is signed in when it comes.
-/

import FiksOpp.AppStoreRestart

namespace FiksOpp.UserState

open CellStore
open EventRun

variable {δ : Type}

/-- Requests whose answer writes to the session; `id` is the user who was signed in. -/
inductive SessionRequest where
  /-- By e-mail, Google, Apple or phone. -/
  | signIn
  | userDetailAPI (id : ℤ)
  | update (id : ℤ)
  | reGenerateToken (id : ℤ)
  deriving DecidableEq, Repr

def SessionRequest.asker : SessionRequest → Option ℤ
  | .signIn => none
  | .userDetailAPI id => some id
  | .update id => some id
  | .reGenerateToken id => some id

def SessionRequest.isLogin : SessionRequest → Bool
  | .signIn => true
  | .reGenerateToken _ => true
  | _ => false

structure SignedInApp (δ : Type) where
  app : State δ
  requests : List SessionRequest

def LifeEvent.setsSession : LifeEvent δ → Bool
  | .fetched ⟨.saveUserData _, _⟩ => true
  | .fetched ⟨.reGenerateToken, _⟩ => true
  | .setText .token _ => true
  | .logout _ => true
  | .restart => true
  | _ => false

structure OtherEvent (δ : Type) where
  event : LifeEvent δ
  other : event.setsSession = false

inductive SessionEvent (δ : Type) where
  | signIn
  /-- The profile screen is opened or refreshed. -/
  | userDetailAPI (now : ℤ)
  /-- The profile form is saved. -/
  | update
  /-- A request is answered with 401. -/
  | unauthorized (unsubscription : Unsubscription)
  | answered (index : ℕ) (now : ℤ) (data : UserData)
  | failed (index : ℕ)
  /-- Also after the account has been deleted, and by the splash screen. -/
  | logout (unsubscription : Unsubscription)
  | restart
  | other (event : OtherEvent δ)

/-- A request that names the user, with the headers it is first sent with. -/
structure SentRequest where
  user : ℤ
  headers : Network.Headers
  deriving DecidableEq, Repr

namespace SignedInApp

def isLoggedIn (state : SignedInApp δ) : Bool :=
  state.app (.flag .isLoggedIn)

def userId (state : SignedInApp δ) : ℤ :=
  state.app (.int .userId)

def token (state : SignedInApp δ) : String :=
  state.app (.text .token)

def send (state : SignedInApp δ) (request : SessionRequest) : SignedInApp δ :=
  { state with requests := state.requests ++ [request] }

/-- The five minutes of `getUserDetail`, which throws within them. -/
def recentlySynced (state : SignedInApp δ) (now : ℤ) : Bool :=
  now < intOr 0 (state.app (.pref .LAST_USER_DETAILS_SYNCED_TIME)) + 300000

def asksUserDetail (state : SignedInApp δ) (now : ℤ) : Bool :=
  state.isLoggedIn && !state.recentlySynced now

def unauthorized (state : SignedInApp δ) (unsubscription : Unsubscription) : SignedInApp δ :=
  if !state.isLoggedIn then state
  else if Network.hasCredentials (networkSession state.app) then
    state.send (.reGenerateToken state.userId)
  else { state with app := lifeNext state.app (.logout unsubscription) }

def handle (app : State δ) (request : SessionRequest) (now : ℤ) (data : UserData) : State δ :=
  match request with
  | .signIn => lifeNext app (.fetched ⟨.saveUserData true, data⟩)
  | .userDetailAPI _ =>
      lifeNext (lifeNext app (.fetched ⟨.getUserDetail now, ()⟩))
        (.fetched ⟨.saveUserData false, data⟩)
  | .update _ => lifeNext app (.fetched ⟨.saveUserData true, data⟩)
  | .reGenerateToken _ => lifeNext app (.fetched ⟨.reGenerateToken, data⟩)

def answered (state : SignedInApp δ) (index : ℕ) (now : ℤ) (data : UserData) : SignedInApp δ :=
  match state.requests[index]? with
  | none => state
  | some request =>
      { app := handle state.app request now data
        requests := state.requests.eraseIdx index }

def next (state : SignedInApp δ) : SessionEvent δ → SignedInApp δ
  | .signIn => state.send .signIn
  | .userDetailAPI now =>
      if state.asksUserDetail now then state.send (.userDetailAPI state.userId) else state
  | .update => state.send (.update state.userId)
  | .unauthorized unsubscription => state.unauthorized unsubscription
  | .answered index now data => state.answered index now data
  | .failed index => { state with requests := state.requests.eraseIdx index }
  | .logout unsubscription => { state with app := lifeNext state.app (.logout unsubscription) }
  | .restart => { app := lifeNext state.app .restart, requests := [] }
  | .other event => { state with app := lifeNext state.app event.event }

def sent (state : SignedInApp δ) : SentRequest :=
  { user := state.userId
    headers := Network.buildHeaderTokens (networkSession state.app) }

def outputs (state : SignedInApp δ) : SessionEvent δ → List SentRequest
  | .userDetailAPI now => if state.asksUserDetail now then [state.sent] else []
  | .update => [state.sent]
  | _ => []

end SignedInApp

def signedInApp (δ : Type) : Machine (SignedInApp δ) (SessionEvent δ) SentRequest :=
  { next := SignedInApp.next
    outputs := SignedInApp.outputs }

def firstLaunch (δ : Type) : SignedInApp δ :=
  { app := freshInstall δ
    requests := [] }

section Fits

variable (issued : String → ℤ)

/-- The user a token was issued to; the empty text is no token. -/
def ownerOf (token : String) : Option ℤ :=
  if token.isEmpty then none else some (issued token)

/-- The token is that of the user, and there is none when nobody is signed in. -/
def TokenFits (state : SignedInApp δ) : Prop :=
  ownerOf issued state.token = if state.isLoggedIn then some state.userId else none

/-- The server answers about the user who asked, with tokens of that user if any, and a login
is answered with one.  A renewal asks with the stored e-mail and password of the user. -/
def Honest (state : SignedInApp δ) : SessionEvent δ → Prop
  | .answered index _ data =>
      ∀ request, state.requests[index]? = some request →
        (∀ id, request.asker = some id → validate data.id = id) ∧
        (∀ id, ownerOf issued (validateText data.apiToken) = some id → validate data.id = id) ∧
        (request.isLogin = true → ownerOf issued (validateText data.apiToken) ≠ none)
  | _ => True

/-- A user who asked is still signed in when the answer comes, unless it brings a token that
takes the place of the one kept together with the id. -/
def InTime (state : SignedInApp δ) : SessionEvent δ → Prop
  | .answered index _ data =>
      ∀ request id, state.requests[index]? = some request → request.asker = some id →
        (request.isLogin = true ∨ (validateText data.apiToken).isEmpty = true) →
          state.isLoggedIn = true ∧ state.userId = id
  | _ => True

end Fits

def sessionOf (app : State δ) : Bool × ℤ × String :=
  (app (.flag .isLoggedIn), app (.int .userId), app (.text .token))

theorem sessionOf_of_untouched {writes : Writes δ}
    (flag : Cell.flag .isLoggedIn ∉ cells writes) (user : Cell.int .userId ∉ cells writes)
    (token : Cell.text .token ∉ cells writes) (app : State δ) :
    sessionOf (applyAll writes app) = sessionOf app := by
  unfold sessionOf
  rw [applyAll_of_not_mem flag, applyAll_of_not_mem user, applyAll_of_not_mem token]

theorem sessionOf_saveUserData (app : State δ) (force : Bool) (data : UserData) :
    sessionOf (lifeNext app (.fetched ⟨.saveUserData force, data⟩)) =
      (true, validate data.id,
        if (validateText data.apiToken).isEmpty then app (.text .token)
        else validateText data.apiToken) := by
  change sessionOf (applyAll (saveUserData data force) app) = _
  unfold saveUserData
  cases (validateText data.apiToken).isEmpty with
  | true => cases force <;> rfl
  | false => cases force <;> rfl

theorem sessionOf_other (app : State δ) (event : LifeEvent δ)
    (other : event.setsSession = false) : sessionOf (lifeNext app event) = sessionOf app := by
  cases event with
  | fetched answer =>
      obtain ⟨call, answer⟩ := answer
      cases call with
      | saveUserData force => cases other
      | reGenerateToken => cases other
      | getAppConfigurations toolkit currentTimeStamp timestamp =>
          exact sessionOf_of_untouched (untouched_getAppConfigurations nofun)
            (untouched_getAppConfigurations nofun) (untouched_getAppConfigurations nofun) app
      | appleSignIn =>
          change sessionOf (applyAll (appleSignIn answer) app) = _
          unfold appleSignIn
          split <;> apply sessionOf_of_untouched <;> simp
      | _ =>
          apply sessionOf_of_untouched <;>
            simp [writes, setUserWalletAmount, userDashboard, buildFullAddressFromLatLong,
              setUnreadCount]
  | setText own val =>
      cases own with
      | token => cases other
      | _ => exact sessionOf_of_untouched (by simp) (by simp) (by simp) app
  | setCurrentLocation val => exact sessionOf_of_untouched (by simp) (by simp) (by simp) app
  | setLatitude val => exact sessionOf_of_untouched (by simp) (by simp) (by simp) app
  | setLongitude val => exact sessionOf_of_untouched (by simp) (by simp) (by simp) app
  | logout unsubscription => cases other
  | restart => cases other

theorem sessionOf_logout (app : State δ) (unsubscription : Unsubscription) :
    (sessionOf (lifeNext app (.logout unsubscription))).1 = false ∧
      (sessionOf (lifeNext app (.logout unsubscription))).2.2 = "" := by
  have cleared := networkSession_clearPreferences unsubscription app
  exact ⟨congrArg Network.Session.isLoggedIn cleared, congrArg Network.Session.token cleared⟩

/-- A restart reads back what it finds, as long as the fields are stored as they are. -/
def Stored (state : SignedInApp δ) : Prop :=
  ∀ field : StoredField, field ≠ .isSubscribedForPushNotification →
    (field.mirror : Mirror (Content δ)).Faithful state.app

theorem sessionOf_restart {state : SignedInApp δ} (stored : Stored state) :
    sessionOf (lifeNext state.app .restart) = sessionOf state.app := by
  have kept (field : StoredField) (other : field ≠ .isSubscribedForPushNotification) :
      restart state.app field.cell = state.app field.cell :=
    (restart_stored state.app field).trans (stored field other).symm
  change (restart state.app StoredField.isLoggedIn.cell, restart state.app StoredField.userId.cell,
    restart state.app (StoredField.text .token).cell) = _
  rw [kept .isLoggedIn nofun, kept .userId nofun, kept (.text .token) nofun]
  rfl

/-! ### Steps -/

theorem stored_lifeNext {state : SignedInApp δ} (stored : Stored state) (event : LifeEvent δ)
    (requests : List SessionRequest) :
    Stored { app := lifeNext state.app event, requests := requests } :=
  fun field other => StoredField.faithful_lifeNext state.app event other (stored field other)

theorem stored_answered {state : SignedInApp δ} (stored : Stored state) (index : ℕ) (now : ℤ)
    (data : UserData) : Stored (state.answered index now data) := by
  unfold SignedInApp.answered
  cases state.requests[index]? with
  | none => exact stored
  | some request =>
      cases request with
      | signIn => exact stored_lifeNext stored (.fetched ⟨.saveUserData true, data⟩) _
      | userDetailAPI id =>
          have synced := stored_lifeNext stored (.fetched ⟨.getUserDetail now, ()⟩) []
          exact stored_lifeNext synced (.fetched ⟨.saveUserData false, data⟩) _
      | update id => exact stored_lifeNext stored (.fetched ⟨.saveUserData true, data⟩) _
      | reGenerateToken id => exact stored_lifeNext stored (.fetched ⟨.reGenerateToken, data⟩) _

theorem stored_next (state : SignedInApp δ) (event : SessionEvent δ) (stored : Stored state) :
    Stored (state.next event) := by
  cases event with
  | signIn => exact stored
  | userDetailAPI now =>
      change Stored (if state.asksUserDetail now then _ else _)
      split
      · exact stored
      · exact stored
  | update => exact stored
  | unauthorized unsubscription =>
      change Stored (state.unauthorized unsubscription)
      unfold SignedInApp.unauthorized
      split
      · exact stored
      · split
        · exact stored
        · exact stored_lifeNext stored _ _
  | answered index now data => exact stored_answered stored index now data
  | failed index => exact stored
  | logout unsubscription => exact stored_lifeNext stored _ _
  | restart => exact stored_lifeNext stored _ _
  | other event => exact stored_lifeNext stored _ _

section Steps

variable {issued : String → ℤ}

theorem tokenFits_iff (state : SignedInApp δ) :
    TokenFits issued state ↔
      ownerOf issued (sessionOf state.app).2.2 =
        if (sessionOf state.app).1 then some (sessionOf state.app).2.1 else none :=
  Iff.rfl

theorem tokenFits_of_session {state : SignedInApp δ} {app : State δ}
    {requests : List SessionRequest} (same : sessionOf app = sessionOf state.app)
    (fits : TokenFits issued state) :
    TokenFits issued { app := app, requests := requests } := by
  rw [tokenFits_iff] at fits ⊢
  rw [same]
  exact fits

theorem tokenFits_logout (state : SignedInApp δ) (unsubscription : Unsubscription)
    (requests : List SessionRequest) :
    TokenFits issued
      { app := lifeNext state.app (.logout unsubscription), requests := requests } := by
  obtain ⟨out, empty⟩ := sessionOf_logout state.app unsubscription
  rw [tokenFits_iff, empty, out]
  rfl

theorem owner_eq_some_iff {state : SignedInApp δ} (fits : TokenFits issued state) (id : ℤ) :
    ownerOf issued state.token = some id ↔ state.isLoggedIn = true ∧ state.userId = id := by
  rw [show ownerOf issued state.token = _ from fits]
  cases state.isLoggedIn with
  | true => simp
  | false => simp

theorem owner_of_not_isEmpty {token : String} (given : token.isEmpty = false) :
    ownerOf issued token = some (issued token) := by
  unfold ownerOf
  rw [given]
  rfl

theorem tokenFits_saved_iff {state : SignedInApp δ} {app : State δ} {data : UserData}
    {requests : List SessionRequest}
    (saved : sessionOf app =
      (true, validate data.id,
        if (validateText data.apiToken).isEmpty then state.token
        else validateText data.apiToken))
    (own : ∀ id, ownerOf issued (validateText data.apiToken) = some id → validate data.id = id)
    (fits : TokenFits issued state) :
    TokenFits issued { app := app, requests := requests } ↔
      ((validateText data.apiToken).isEmpty = true →
        state.isLoggedIn = true ∧ state.userId = validate data.id) := by
  rw [tokenFits_iff]
  change ownerOf issued (sessionOf app).2.2 = _ ↔ _
  rw [saved]
  cases given : (validateText data.apiToken).isEmpty with
  | true =>
      change ownerOf issued state.token = some (validate data.id) ↔ _
      rw [owner_eq_some_iff fits]
      exact ⟨fun held _ => held, fun held => held rfl⟩
  | false =>
      change ownerOf issued (validateText data.apiToken) = some (validate data.id) ↔ _
      have owner := @owner_of_not_isEmpty issued _ given
      rw [owner, own _ owner]
      exact iff_of_true rfl (fun impossible => absurd impossible Bool.false_ne_true)

theorem tokenFits_answered_iff {state : SignedInApp δ} (fits : TokenFits issued state)
    {index : ℕ} {now : ℤ} {data : UserData}
    (honest : Honest issued state (.answered index now data)) :
    TokenFits issued (state.answered index now data) ↔
      InTime state (.answered index now data) := by
  unfold SignedInApp.answered
  cases found : state.requests[index]? with
  | none =>
      refine iff_of_true fits ?_
      intro request id impossible
      rw [found] at impossible
      cases impossible
  | some request =>
      obtain ⟨about, own, brings⟩ := honest request found
      have inTime : InTime state (.answered index now data) ↔
          ∀ id, request.asker = some id →
            (request.isLogin = true ∨ (validateText data.apiToken).isEmpty = true) →
              state.isLoggedIn = true ∧ state.userId = id := by
        constructor
        · intro all id
          exact all request id found
        · intro all other id there
          rw [found] at there
          cases there
          exact all id
      rw [inTime]
      cases request with
      | signIn =>
          have given : (validateText data.apiToken).isEmpty = false := by
            rw [← Bool.not_eq_true]
            intro missing
            exact brings rfl (if_pos missing)
          refine iff_of_true ?_ (fun id impossible => nomatch impossible)
          refine (tokenFits_saved_iff (sessionOf_saveUserData state.app true data) own fits).mpr ?_
          intro missing
          rw [given] at missing
          cases missing
      | userDetailAPI id =>
          have saved := sessionOf_saveUserData
            (lifeNext state.app (.fetched ⟨.getUserDetail now, ()⟩)) false data
          refine (tokenFits_saved_iff saved own fits).trans ?_
          rw [about id rfl]
          simp [SessionRequest.asker, SessionRequest.isLogin]
      | update id =>
          have saved := sessionOf_saveUserData state.app true data
          refine (tokenFits_saved_iff saved own fits).trans ?_
          rw [about id rfl]
          simp [SessionRequest.asker, SessionRequest.isLogin]
      | reGenerateToken id =>
          have given : (validateText data.apiToken).isEmpty = false := by
            rw [← Bool.not_eq_true]
            intro missing
            exact brings rfl (if_pos missing)
          have owner := @owner_of_not_isEmpty issued _ given
          change ownerOf issued (validateText data.apiToken) =
            (if state.isLoggedIn then some state.userId else none) ↔ _
          rw [owner, ← own _ owner, about id rfl]
          have current : (some id = if state.isLoggedIn then some state.userId else none) ↔
              state.isLoggedIn = true ∧ state.userId = id := by
            rw [← owner_eq_some_iff fits, show ownerOf issued state.token = _ from fits]
            exact eq_comm
          rw [current]
          simp [SessionRequest.asker, SessionRequest.isLogin]

theorem tokenFits_next_iff (state : SignedInApp δ) (event : SessionEvent δ)
    (stored : Stored state) (fits : TokenFits issued state)
    (honest : Honest issued state event) :
    TokenFits issued (state.next event) ↔ InTime state event := by
  cases event with
  | signIn => exact iff_of_true fits trivial
  | userDetailAPI now =>
      refine iff_of_true ?_ trivial
      change TokenFits issued (if state.asksUserDetail now then _ else _)
      split
      · exact fits
      · exact fits
  | update => exact iff_of_true fits trivial
  | unauthorized unsubscription =>
      refine iff_of_true ?_ trivial
      change TokenFits issued (state.unauthorized unsubscription)
      unfold SignedInApp.unauthorized
      split
      · exact fits
      · split
        · exact fits
        · exact tokenFits_logout state unsubscription state.requests
  | answered index now data => exact tokenFits_answered_iff fits honest
  | failed index => exact iff_of_true fits trivial
  | logout unsubscription =>
      exact iff_of_true (tokenFits_logout state unsubscription state.requests) trivial
  | restart => exact iff_of_true (tokenFits_of_session (sessionOf_restart stored) fits) trivial
  | other event =>
      exact iff_of_true
        (tokenFits_of_session (sessionOf_other state.app event.event event.other) fits) trivial

/-- A request that is sent with a token is sent with that of the user it names. -/
theorem sent_fits {state : SignedInApp δ} (fits : TokenFits issued state) {token : String}
    (bearer : state.sent.headers = .tokens (some token)) : issued token = state.sent.user := by
  change Network.Headers.tokens (if (state.isLoggedIn && !state.token.isEmpty) = true then
    some state.token else none) = _ at bearer
  cases loggedIn : state.isLoggedIn with
  | false =>
      rw [loggedIn] at bearer
      cases bearer
  | true =>
      have owner := (owner_eq_some_iff fits state.userId).mpr ⟨loggedIn, rfl⟩
      cases given : state.token.isEmpty with
      | true =>
          rw [given, Bool.not_true, Bool.and_false] at bearer
          cases bearer
      | false =>
          rw [loggedIn, given] at bearer
          have same : state.token = token := by
            injection bearer with bearer
            exact Option.some.inj bearer
          rw [owner_of_not_isEmpty given, same] at owner
          exact Option.some.inj owner

end Steps

/-- Over the whole life of an installation, in every order of sign-ins, profile requests, 401
answers, renewals, logouts, restarts and whatever else is written: as long as the server
answers about the user who asked, the token that is kept is that of the user whose id is kept,
and none when nobody is signed in, in every state, exactly when no such answer comes after its
user is signed in no more, unless it brings a token of its own; and then every profile request
that carries a token when it is first sent carries that of the user it names. -/
theorem session_token_fits_iff (issued : String → ℤ) {events : List (SessionEvent δ)}
    (honest : (signedInApp δ).Every (Honest issued) (firstLaunch δ) events) :
    ((signedInApp δ).Every (fun state event => TokenFits issued (state.next event))
        (firstLaunch δ) events ↔
      (signedInApp δ).Every InTime (firstLaunch δ) events) ∧
    ((signedInApp δ).Every InTime (firstLaunch δ) events →
      ∀ request ∈ (signedInApp δ).trace (firstLaunch δ) events,
        ∀ token, request.headers = .tokens (some token) → issued token = request.user) := by
  have stored : Stored (firstLaunch δ) := fun field _ => faithful_freshInstall field
  have fits : TokenFits issued (firstLaunch δ) := rfl
  have exact_run := (signedInApp δ).every_next_iff_of_promise Stored (TokenFits issued)
    stored_next tokenFits_next_iff stored fits honest
  refine ⟨exact_run, ?_⟩
  intro inTime
  rw [(signedInApp δ).forall_trace_iff]
  apply (signedInApp δ).every_of_invariant
    (fun state => Stored state ∧ TokenFits issued state) ?_ ⟨stored, fits⟩
    (Machine.every_and.mpr ⟨honest, inTime⟩)
  rintro state event ⟨kept, right⟩ ⟨promise, here⟩
  refine ⟨⟨stored_next state event kept,
    (tokenFits_next_iff state event kept right promise).mpr here⟩, ?_⟩
  intro request member
  have sentNow : request = state.sent := by
    cases event with
    | userDetailAPI now =>
        change request ∈ (if state.asksUserDetail now then [state.sent] else []) at member
        split at member
        · exact List.mem_singleton.mp member
        · cases member
    | update => exact List.mem_singleton.mp member
    | _ => cases member
  subst sentNow
  exact fun token bearer => sent_fits right bearer

def lateAnswer : List (SessionEvent Unit) :=
  [.signIn, .answered 0 0 { id := some 5, apiToken := some "seven" },
    .userDetailAPI 400000, .logout .failed,
    .signIn, .answered 1 500000 { id := some 2, apiToken := some "no" },
    .answered 0 500000 { id := some 5 }]

theorem session_token_fits_iff_late_answer :
    ¬ (signedInApp Unit).Every
      (fun state event => TokenFits (fun token => token.length) (state.next event))
      (firstLaunch Unit) lateAnswer := by
  have honest : (signedInApp Unit).Every (Honest fun token => token.length)
      (firstLaunch Unit) lateAnswer := by
    have login (user : ℤ) (token : String) (own : ownerOf (fun token => token.length) token =
        some user) :
        ∀ id, ownerOf (fun token => token.length) token = some id → user = id := by
      intro id other
      exact Option.some.inj (own.symm.trans other)
    refine ⟨trivial, ?_, trivial, trivial, trivial, ?_, ?_, trivial⟩
    · rintro request found
      cases (found : some SessionRequest.signIn = some request)
      exact ⟨nofun, login 5 "seven" rfl, fun _ => nofun⟩
    · rintro request found
      cases (found : some SessionRequest.signIn = some request)
      exact ⟨nofun, login 2 "no" rfl, fun _ => nofun⟩
    · rintro request found
      cases (found : some (SessionRequest.userDetailAPI 5) = some request)
      refine ⟨?_, nofun, nofun⟩
      rintro id ⟨⟩
      rfl
  rw [(session_token_fits_iff _ honest).1]
  rintro ⟨-, -, -, -, -, -, late, -⟩
  have user := (late (.userDetailAPI 5) 5 rfl rfl (.inr rfl)).2
  exact absurd user (by decide)

end FiksOpp.UserState
