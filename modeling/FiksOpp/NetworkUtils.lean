/-
`buildHttpResponse` and the silent login behind it.

The three functions call each other, so the model takes fuel, one unit for each
nested call of `buildHttpResponse`; running out of it is told apart from every
answer.  The last section says for which servers a call ends and how many
requests it sends.
-/

import FiksOpp.Constants
import Mathlib.Data.Nat.Find

namespace FiksOpp.Network

inductive HttpMethodType where
  | get
  | post
  | put
  | delete
  deriving DecidableEq, Repr

inductive Headers where
  | tokens (bearer : Option String)
  | given (entries : List (String × String))
  deriving DecidableEq, Repr

structure HttpRequest where
  endPoint : String
  method : HttpMethodType
  request : Option (List (String × String))
  headers : Headers
  deriving DecidableEq, Repr

structure UserData where
  userType : Option String := none
  status : Option ℤ := none
  apiToken : Option String := none
  deriving DecidableEq, Repr

/-- A body as its readers see it; a null message counts as absent. -/
inductive ResponseBody where
  | notJson
  | list
  | map (status : Option Bool) (message : Option String) (data : Option UserData)
  deriving DecidableEq, Repr

structure Response where
  statusCode : ℕ
  body : ResponseBody
  deriving DecidableEq, Repr

inductive HttpAnswer where
  | exception
  | response (response : Response)
  deriving DecidableEq, Repr

/-- The server answers from everything it was sent, the new request last. -/
abbrev Server := List HttpRequest → HttpAnswer

structure Language where
  badRequest : String
  forbidden : String
  pageNotFound : String
  tooManyRequests : String
  internalServerError : String
  badGateway : String
  serviceUnavailable : String
  gatewayTimeout : String
  somethingWentWrong : String
  internetNotAvailable : String
  lblNotValidUser : String
  contactAdmin : String
  /-- `parseHtmlString`, which strips the markup of a server message. -/
  parseHtmlString : String → String

structure Session where
  isLoggedIn : Bool
  token : String
  userEmail : String
  userPassword : String
  loginType : String
  isRemembered : Bool
  deriving DecidableEq, Repr

structure World where
  session : Session
  sent : List HttpRequest
  deriving DecidableEq, Repr

structure HttpCall where
  endPoint : String
  method : HttpMethodType := .get
  request : Option (List (String × String)) := none
  header : Option (List (String × String)) := none
  retryOnUnauthorized : Bool := true
  deriving DecidableEq, Repr

def USER_TYPE_USER : String := "user"

def LOGIN_TYPE_USER : String := "user"

def buildHeaderTokens (session : Session) : Headers :=
  .tokens (if session.isLoggedIn && !session.token.isEmpty then some session.token else none)

def HttpCall.toRequest (call : HttpCall) (session : Session) : HttpRequest :=
  { endPoint := call.endPoint
    method := call.method
    request := call.request
    headers :=
      match call.header with
      | some entries => .given entries
      | none => buildHeaderTokens session }

def isSuccessful (statusCode : ℕ) : Bool :=
  decide (200 ≤ statusCode) && decide (statusCode ≤ 206)

def typeError : String := "type error"

def statusError (language : Language) (statusCode : ℕ) : Option String :=
  if statusCode = 403 then some language.forbidden
  else if statusCode = 404 then some language.pageNotFound
  else if statusCode = 429 then some language.tooManyRequests
  else if statusCode = 500 then some language.internalServerError
  else if statusCode = 502 then some language.badGateway
  else if statusCode = 503 then some language.serviceUnavailable
  else if statusCode = 504 then some language.gatewayTimeout
  else none

/-- The text for a 400 answer; one without JSON goes on to the later checks. -/
def badRequestError (language : Language) : ResponseBody → Option String
  | .notJson => none
  | .list => some language.badRequest
  | .map _ message _ =>
      match message with
      | some text => some (language.parseHtmlString text)
      | none => some language.badRequest

def handleResponse (language : Language) (response : Response) : Except String ResponseBody :=
  let named :=
    if response.statusCode = 400 then badRequestError language response.body
    else statusError language response.statusCode
  match named with
  | some text => .error text
  | none =>
      match response.body with
      | .notJson => .error language.somethingWentWrong
      | .list =>
          if isSuccessful response.statusCode then .ok .list else .error typeError
      | .map status message data =>
          if isSuccessful response.statusCode && status != some false then
            .ok (.map status message data)
          else .error (language.parseHtmlString (message.getD language.somethingWentWrong))

/-- `clearPreferences`, as far as the network layer can see it. -/
def Session.clearPreferences (session : Session) : Session :=
  { session with
    isLoggedIn := false
    token := ""
    userEmail := if session.isRemembered then session.userEmail else ""
    userPassword := ""
    loginType := "" }

/-- A call in progress: out of fuel, or its result and the world it leaves. -/
abbrev Outcome (α : Type) := Option (Except String α × World)

section Client

variable (language : Language) (server : Server)

/-- `loginUser` over the given `buildHttpResponse`; the result is its user data. -/
def loginUser (run : HttpCall → World → Outcome Response)
    (request : List (String × String)) (isSocialLogin : Bool) (world : World) :
    Outcome (Option UserData) :=
  match run
      { endPoint := if isSocialLogin then "social-login" else "login"
        method := .post
        request := some request } world with
  | none => none
  | some (.error text, after) => some (.error text, after)
  | some (.ok response, after) =>
      match handleResponse language response with
      | .error text => some (.error text, after)
      | .ok (.map _ _ (some userData)) =>
          if userData.userType ≠ some USER_TYPE_USER then
            some (.error language.lblNotValidUser, after)
          else if userData.status = some 0 then some (.error language.contactAdmin, after)
          else some (.ok (some userData), after)
      | .ok (.map _ _ none) => some (.ok none, after)
      | .ok _ => some (.error typeError, after)

def loginRequest (session : Session) : List (String × String) :=
  [("email", trim session.userEmail), ("password", trim session.userPassword)]

def hasCredentials (session : Session) : Bool :=
  !((trim session.userEmail).isEmpty || (trim session.userPassword).isEmpty)

def reGenerateToken (run : HttpCall → World → Outcome Response) (world : World) :
    Outcome Unit :=
  if hasCredentials world.session then
    match loginUser language run (loginRequest world.session)
        (world.session.loginType != LOGIN_TYPE_USER) world with
    | none => none
    | some (.error text, after) => some (.error text, after)
    | some (.ok none, after) => some (.error typeError, after)
    | some (.ok (some userData), after) =>
        some (.ok (),
          { after with
            session := { after.session with token := validateText userData.apiToken } })
  else
    some (.error "Session expired. Please login again.",
      { world with session := world.session.clearPreferences })

def startsWith (text front : String) : Bool :=
  front.toList.isPrefixOf text.toList

def unauthorized (call : HttpCall) (session : Session) (response : Response) : Bool :=
  call.retryOnUnauthorized && session.isLoggedIn && response.statusCode == 401 &&
    !startsWith call.endPoint "http"

def World.send (world : World) (call : HttpCall) : World :=
  { world with sent := world.sent ++ [call.toRequest world.session] }

def buildHttpResponse : ℕ → HttpCall → World → Outcome Response
  | 0, _, _ => none
  | fuel + 1, call, world =>
      let after := world.send call
      match server after.sent with
      | .exception => some (.error language.internetNotAvailable, after)
      | .response response =>
          if unauthorized call after.session response then
            match reGenerateToken language (buildHttpResponse fuel) after with
            | none => none
            | some (.error text, failed) => some (.error text, failed)
            | some (.ok (), renewed) =>
                buildHttpResponse fuel { call with retryOnUnauthorized := false } renewed
          else some (.ok response, after)

/-! ### One level of the recursion -/

def loginCall (session : Session) : HttpCall :=
  { endPoint := if session.loginType != LOGIN_TYPE_USER then "social-login" else "login"
    method := .post
    request := some (loginRequest session) }

def Refused (call : HttpCall) (world : World) : Prop :=
  hasCredentials world.session = true ∧
    ∃ response, server (world.send call).sent = .response response ∧
      unauthorized call world.session response = true

theorem send_session (world : World) (call : HttpCall) :
    (world.send call).session = world.session := rfl

theorem send_length (world : World) (call : HttpCall) :
    (world.send call).sent.length = world.sent.length + 1 := by
  unfold World.send
  rw [List.length_append, List.length_singleton]

theorem buildHttpResponse_of_not_refused {call : HttpCall} {world : World}
    (accepted : ¬ Refused server call world) (fuel : ℕ) :
    ∃ result after, buildHttpResponse language server (fuel + 1) call world =
      some (result, after) ∧ after.sent = (world.send call).sent := by
  rw [buildHttpResponse]
  cases answered : server (world.send call).sent with
  | exception => exact ⟨_, _, rfl, rfl⟩
  | response response =>
      dsimp only
      by_cases again : unauthorized call (world.send call).session response = true
      · rw [if_pos again]
        have missing : ¬ hasCredentials (world.send call).session = true := by
          intro present
          exact accepted ⟨present, response, answered, again⟩
        rw [reGenerateToken, if_neg missing]
        exact ⟨_, _, rfl, rfl⟩
      · rw [if_neg again]
        exact ⟨_, _, rfl, rfl⟩

theorem loginUser_of_none {run : HttpCall → World → Outcome Response} {session : Session}
    {world : World} (exhausted : run (loginCall session) world = none) :
    loginUser language run (loginRequest session) (session.loginType != LOGIN_TYPE_USER)
      world = none := by
  rw [loginUser]
  change run (loginCall session) world = none at exhausted
  unfold loginCall at exhausted
  rw [exhausted]

theorem loginUser_of_some {run : HttpCall → World → Outcome Response} {session : Session}
    {world after : World} {result : Except String Response}
    (ended : run (loginCall session) world = some (result, after)) :
    ∃ outcome, loginUser language run (loginRequest session)
      (session.loginType != LOGIN_TYPE_USER) world = some (outcome, after) := by
  rw [loginUser]
  unfold loginCall at ended
  rw [ended]
  cases result with
  | error text => exact ⟨_, rfl⟩
  | ok response =>
      dsimp only
      cases handleResponse language response with
      | error text => exact ⟨_, rfl⟩
      | ok body =>
          cases body with
          | notJson => exact ⟨_, rfl⟩
          | list => exact ⟨_, rfl⟩
          | map status message data =>
              cases data with
              | none => exact ⟨_, rfl⟩
              | some userData =>
                  dsimp only
                  split
                  · exact ⟨_, rfl⟩
                  · split
                    · exact ⟨_, rfl⟩
                    · exact ⟨_, rfl⟩

theorem reGenerateToken_of_none {run : HttpCall → World → Outcome Response} {world : World}
    (present : hasCredentials world.session = true)
    (exhausted : run (loginCall world.session) world = none) :
    reGenerateToken language run world = none := by
  rw [reGenerateToken, if_pos present, loginUser_of_none language exhausted]

theorem reGenerateToken_of_some {run : HttpCall → World → Outcome Response}
    {world after : World} {result : Except String Response}
    (present : hasCredentials world.session = true)
    (ended : run (loginCall world.session) world = some (result, after)) :
    ∃ outcome renewed, reGenerateToken language run world = some (outcome, renewed) ∧
      renewed.sent = after.sent := by
  obtain ⟨outcome, logged⟩ := loginUser_of_some language ended
  rw [reGenerateToken, if_pos present, logged]
  cases outcome with
  | error text => exact ⟨_, _, rfl, rfl⟩
  | ok data =>
      cases data with
      | none => exact ⟨_, _, rfl, rfl⟩
      | some userData => exact ⟨_, _, rfl, rfl⟩

theorem buildHttpResponse_of_refused {call : HttpCall} {world : World}
    (refused : Refused server call world) (fuel : ℕ) :
    buildHttpResponse language server (fuel + 1) call world =
      match reGenerateToken language (buildHttpResponse language server fuel)
          (world.send call) with
      | none => none
      | some (.error text, failed) => some (.error text, failed)
      | some (.ok (), renewed) =>
          buildHttpResponse language server fuel { call with retryOnUnauthorized := false }
            renewed := by
  obtain ⟨_, response, answered, again⟩ := refused
  rw [buildHttpResponse, answered]
  exact if_pos again

theorem refused_exhausted {call : HttpCall} {world : World}
    (refused : Refused server call world) {fuel : ℕ}
    (exhausted : buildHttpResponse language server fuel (loginCall world.session)
      (world.send call) = none) :
    buildHttpResponse language server (fuel + 1) call world = none := by
  have present : hasCredentials (world.send call).session = true := refused.1
  rw [← send_session world call] at exhausted
  rw [buildHttpResponse_of_refused language server refused,
    reGenerateToken_of_none language present exhausted]

/-- Once the login of a refused call has ended, the call sends at most one
request more. -/
theorem refused_ended {call : HttpCall} {world after : World}
    {result : Except String Response} (refused : Refused server call world) {fuel : ℕ}
    (ended : buildHttpResponse language server fuel (loginCall world.session)
      (world.send call) = some (result, after)) :
    ∃ result' after', buildHttpResponse language server (fuel + 1) call world =
        some (result', after') ∧ after'.sent.length ≤ after.sent.length + 1 := by
  have present : hasCredentials (world.send call).session = true := refused.1
  rw [← send_session world call] at ended
  obtain ⟨outcome, renewed, generated, sameSent⟩ :=
    reGenerateToken_of_some language present ended
  rw [buildHttpResponse_of_refused language server refused, generated]
  cases outcome with
  | error text =>
      refine ⟨_, _, rfl, ?_⟩
      rw [sameSent]
      omega
  | ok done =>
      cases fuel with
      | zero => cases ended
      | succ fuel =>
          have final : ¬ Refused server { call with retryOnUnauthorized := false } renewed := by
            rintro ⟨_, response, _, again⟩
            cases again
          obtain ⟨result', after', last, sent⟩ :=
            buildHttpResponse_of_not_refused language server final fuel
          refine ⟨result', after', last, ?_⟩
          rw [sent, send_length, sameSent]

/-! ### Chains of refused logins -/

def loginChain (world : World) : ℕ → World
  | 0 => world
  | count + 1 => (loginChain world count).send (loginCall world.session)

theorem loginChain_session (world : World) (count : ℕ) :
    (loginChain world count).session = world.session := by
  induction count with
  | zero => rfl
  | succ count ih => exact ih

theorem loginChain_succ' (world : World) (count : ℕ) :
    loginChain (world.send (loginCall world.session)) count = loginChain world (count + 1) := by
  induction count with
  | zero => rfl
  | succ count ih =>
      rw [loginChain, ih]
      rfl

def LoginRefused (world : World) (count : ℕ) : Prop :=
  Refused server (loginCall world.session) (loginChain world count)

theorem loginRefused_send (world : World) (count : ℕ) :
    LoginRefused server (world.send (loginCall world.session)) count ↔
      LoginRefused server world (count + 1) := by
  unfold LoginRefused
  rw [loginChain_succ']
  rfl

theorem login_exhausted {world : World} (always : ∀ count, LoginRefused server world count)
    (fuel : ℕ) :
    buildHttpResponse language server fuel (loginCall world.session) world = none := by
  induction fuel generalizing world with
  | zero => rfl
  | succ fuel ih =>
      have refused : Refused server (loginCall world.session) world := always 0
      refine refused_exhausted language server refused ?_
      refine @ih (world.send (loginCall world.session)) ?_
      intro count
      exact (loginRefused_send server world count).mpr (always (count + 1))

theorem login_ended {world : World} {count : ℕ}
    (before : ∀ earlier, earlier < count → LoginRefused server world earlier)
    (accepted : ¬ LoginRefused server world count) :
    ∃ result after,
      buildHttpResponse language server (count + 1) (loginCall world.session) world =
          some (result, after) ∧
        after.sent.length ≤ world.sent.length + 2 * count + 1 := by
  induction count generalizing world with
  | zero =>
      have final : ¬ Refused server (loginCall world.session) world := accepted
      obtain ⟨result, after, ended, sent⟩ :=
        buildHttpResponse_of_not_refused language server final 0
      refine ⟨result, after, ended, ?_⟩
      rw [sent, send_length]
  | succ count ih =>
      have refused : Refused server (loginCall world.session) world :=
        before 0 (Nat.succ_pos count)
      have laterBefore : ∀ earlier, earlier < count →
          LoginRefused server (world.send (loginCall world.session)) earlier := by
        intro earlier bound
        exact (loginRefused_send server world earlier).mpr
          (before (earlier + 1) (Nat.succ_lt_succ bound))
      have laterAccepted :
          ¬ LoginRefused server (world.send (loginCall world.session)) count := by
        intro again
        exact accepted ((loginRefused_send server world count).mp again)
      obtain ⟨result, after, ended, bound⟩ := ih laterBefore laterAccepted
      obtain ⟨result', after', ended', bound'⟩ := refused_ended language server refused ended
      refine ⟨result', after', ended', ?_⟩
      rw [send_length] at bound
      omega

def Terminates (call : HttpCall) (world : World) : Prop :=
  ∃ fuel, (buildHttpResponse language server fuel call world).isSome = true

def LoginsNeverEnd (call : HttpCall) (world : World) : Prop :=
  Refused server call world ∧ ∀ count, LoginRefused server (world.send call) count

theorem loginsNeverEnd_exhausted {call : HttpCall} {world : World}
    (never : LoginsNeverEnd server call world) (fuel : ℕ) :
    buildHttpResponse language server fuel call world = none := by
  cases fuel with
  | zero => rfl
  | succ fuel =>
      refine refused_exhausted language server never.1 ?_
      exact @login_exhausted language server (world.send call) never.2 fuel

theorem call_ended {call : HttpCall} {world : World} {count : ℕ}
    (before : ∀ earlier, earlier < count → LoginRefused server (world.send call) earlier)
    (accepted : ¬ LoginRefused server (world.send call) count) :
    ∃ result after,
      buildHttpResponse language server (count + 2) call world = some (result, after) ∧
        after.sent.length ≤ world.sent.length + 2 * count + 3 := by
  by_cases refused : Refused server call world
  · obtain ⟨result, after, ended, bound⟩ := login_ended language server before accepted
    obtain ⟨result', after', ended', bound'⟩ := refused_ended language server refused ended
    refine ⟨result', after', ended', ?_⟩
    rw [send_length] at bound
    omega
  · obtain ⟨result, after, ended, sent⟩ :=
      buildHttpResponse_of_not_refused language server refused (count + 1)
    refine ⟨result, after, ended, ?_⟩
    rw [sent, send_length]
    omega

/-- A call ends exactly when it is accepted or some login that it leads to is,
and then sends at most three requests and two more for each refused login. -/
theorem buildHttpResponse_terminates_iff (call : HttpCall) (world : World) :
    (Terminates language server call world ↔ ¬ LoginsNeverEnd server call world) ∧
    (∀ count, (∀ earlier, earlier < count → LoginRefused server (world.send call) earlier) →
      ¬ LoginRefused server (world.send call) count →
        ∃ fuel result after,
          buildHttpResponse language server fuel call world = some (result, after) ∧
            after.sent.length ≤ world.sent.length + 2 * count + 3) := by
  refine ⟨⟨?_, ?_⟩, ?_⟩
  · rintro ⟨fuel, ended⟩ never
    rw [loginsNeverEnd_exhausted language server never fuel] at ended
    cases ended
  · intro ends
    by_cases refused : Refused server call world
    · have someAccepted : ∃ count, ¬ LoginRefused server (world.send call) count := by
        by_contra never
        refine ends ⟨refused, ?_⟩
        intro count
        by_contra accepted
        exact never ⟨count, accepted⟩
      classical
      obtain ⟨result, after, ended, _⟩ := call_ended language server
        (fun earlier bound => not_not.mp (Nat.find_min someAccepted bound))
        (Nat.find_spec someAccepted)
      refine ⟨Nat.find someAccepted + 2, ?_⟩
      rw [ended]
      rfl
    · obtain ⟨result, after, ended, _⟩ :=
        buildHttpResponse_of_not_refused language server refused 0
      refine ⟨1, ?_⟩
      rw [ended]
      rfl
  · intro count before accepted
    obtain ⟨result, after, ended, bound⟩ := call_ended language server before accepted
    exact ⟨count + 2, result, after, ended, bound⟩

end Client

def plainLanguage : Language :=
  { badRequest := "Bad request"
    forbidden := "Forbidden"
    pageNotFound := "Page not found"
    tooManyRequests := "Too many requests"
    internalServerError := "Internal server error"
    badGateway := "Bad gateway"
    serviceUnavailable := "Service unavailable"
    gatewayTimeout := "Gateway timeout"
    somethingWentWrong := "Something went wrong"
    internetNotAvailable := "Your internet is not working"
    lblNotValidUser := "You are not a valid user"
    contactAdmin := "Please contact your admin"
    parseHtmlString := id }

def signedIn : World :=
  { session :=
      { isLoggedIn := true
        token := "old"
        userEmail := "a@b.no"
        userPassword := "secret"
        loginType := "user"
        isRemembered := false }
    sent := [] }

def unauthenticated : HttpAnswer :=
  .response { statusCode := 401, body := .map none (some "Unauthenticated.") none }

def renewingServer : Server := fun sent =>
  match sent.getLast? with
  | some request =>
      if request.endPoint = "login" then
        .response
          { statusCode := 200
            body := .map (some true) none
              (some { userType := some "user", apiToken := some "new" }) }
      else unauthenticated
  | none => unauthenticated

theorem buildHttpResponse_terminates_one_login :
    ∃ fuel result after,
      buildHttpResponse plainLanguage renewingServer fuel { endPoint := "booking-list" }
          signedIn = some (result, after) ∧
        after.sent.length ≤ signedIn.sent.length + 2 * 0 + 3 := by
  apply (buildHttpResponse_terminates_iff plainLanguage renewingServer
    { endPoint := "booking-list" } signedIn).2 0
  · intro earlier impossible
    exact absurd impossible (Nat.not_lt_zero earlier)
  · rintro ⟨_, response, answered, refused⟩
    cases answered
    revert refused
    decide +kernel

/-- A server that answers everything, the login included, with 401 keeps one
call busy for ever. -/
theorem refused_login_counterexample :
    ¬ Terminates plainLanguage (fun _ => unauthenticated) { endPoint := "booking-list" }
      signedIn := by
  rintro ⟨fuel, ended⟩
  rw [loginsNeverEnd_exhausted _ _ ⟨⟨by decide +kernel, _, rfl, by decide +kernel⟩, ?_⟩ fuel]
    at ended
  · cases ended
  · intro count
    unfold LoginRefused Refused
    rw [loginChain_session]
    exact ⟨by decide +kernel, _, rfl, by decide +kernel⟩

end FiksOpp.Network
