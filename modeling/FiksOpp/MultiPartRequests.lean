/-
`sendMultiPartRequest`: one of its two callbacks reports every answer.

A request that is refused with 401 renews the token and is sent once more.  Whether the
future of the second request is awaited inside the `try` around it is a parameter: the
language says so, compilers do not do it, and the result below covers both.
-/

import FiksOpp.ResponseHandling
import FiksOpp.Foundations.LoggedCalls

namespace FiksOpp.MultiPart

open FiksOpp.DynamicValues
open FiksOpp.LoggedCalls
open FiksOpp.Responses (Parsers Response Thrown orElse)
open FiksOpp.Network (Language World Server Session isSuccessful)

def BASE_URL : String := "https://fiksopp.inoor.buzz/api/"

/-- What an asynchronous call may throw; the first two are instances of `Exception`. -/
inductive Failure where
  | socketException
  | exception
  | thrown (value : Thrown)
  deriving DecidableEq, Repr

structure MultipartRequest where
  url : String
  headers : List (String × String) := []
  fields : List (String × String) := []
  deriving DecidableEq, Repr

/-- How `send` ends, the body of the answer read. -/
inductive Transport where
  | socketException
  | exception
  | response (response : Response)
  deriving DecidableEq, Repr

inductive Callback where
  | onSuccess (body : String)
  | onError (message : Untyped)

/-- It rebuilds the request from the session as it is after the renewal. -/
abbrev RetryRequestBuilder := Session → Except Failure MultipartRequest

abbrev Sending (Value : Type) := Call Callback Failure Value

structure Surroundings where
  /-- It answers from every multipart request sent, the new one last. -/
  send : List MultipartRequest → Transport
  server : Server
  /-- A future that is returned inside a `try` is awaited there. -/
  awaitsReturned : Bool

section Client

variable (parsers : Parsers) (language : Language) (surroundings : Surroundings)

def fromStream : Transport → Sending Response
  | .socketException => .throw .socketException
  | .exception => .throw .exception
  | .response response => .done response

/-- `body?['error'] ?? body?['message'] ?? errorSomethingWentWrong`, with
`body = jsonDecode(response.body) as Map?`. -/
def errorMessage : Untyped → Except Failure Untyped
  | .null => .ok (.text language.somethingWentWrong)
  | .map entries =>
      .ok (orElse (Entries.get entries "error")
        (orElse (Entries.get entries "message") (.text language.somethingWentWrong)))
  | _ => .error (.thrown .typeError)

/-- `on Exception catch (e)`. -/
def onException : Failure → Option (Sending Unit)
  | .thrown _ => none
  | _ => some (.emit (.onError (.text language.somethingWentWrong)))

def reportError (response : Response) : Sending Unit :=
  Call.catching
    (match parsers.decode response.body with
    | some body =>
        match errorMessage language body with
        | .ok message => .emit (.onError message)
        | .error failure => .throw failure
    | none => .emit (.onError (.text language.somethingWentWrong)))
    (onException language)

/-- `on SocketException catch (e)` and `on Exception catch (e)` of the whole function. -/
def onFailure : Failure → Option (Sending (Option (Sending Unit)))
  | .socketException =>
      some ((Call.emit (.onError (.text language.internetNotAvailable))).andThen
        fun _ => .done none)
  | failure => (onException language failure).map fun handled =>
      handled.andThen fun _ => .done none

def reGenerateToken (fuel : ℕ) (world : World) : Sending World :=
  match Network.reGenerateToken language
      (Network.buildHttpResponse language surroundings.server fuel) world with
  | none => .pending
  | some (.error text, _) => .throw (.thrown (.text text))
  | some (.ok (), after) => .done after

def retryRequest (retryRequestBuilder : RetryRequestBuilder) (world : World) :
    Sending (MultipartRequest × World) :=
  match retryRequestBuilder world.session with
  | .ok newRequest => .done (newRequest, world)
  | .error failure => .throw failure

/-- `return future;` inside a `try`.  A future that is not awaited there is left to the
caller. -/
def returning (future : Sending Unit) : Sending (Option (Sending Unit)) :=
  if surroundings.awaitsReturned then future.andThen fun _ => .done none
  else .done (some future)

/-- The token is renewed and the request is built again. -/
def renew (fuel : ℕ) (retryRequestBuilder : RetryRequestBuilder) (world : World) :
    Sending (MultipartRequest × World) :=
  (reGenerateToken language surroundings fuel world).andThen (retryRequest retryRequestBuilder)

def mayRetry (world : World) (response : Response) (multiPartRequest : MultipartRequest) :
    Bool :=
  response.statusCode == 401 && world.session.isLoggedIn &&
    Network.startsWith multiPartRequest.url BASE_URL

/-- The `try` around the second request: what it returns, or nothing if it fails. -/
def retry (fuel : ℕ) (again : World → MultipartRequest → Sending Unit)
    (retryRequestBuilder : RetryRequestBuilder) (world : World) :
    Sending (Option (Option (Sending Unit))) :=
  Call.catching
    ((renew language surroundings fuel retryRequestBuilder world).andThen fun rebuilt =>
      (returning surroundings (again rebuilt.2 rebuilt.1)).andThen fun returned =>
        .done (some returned))
    fun _ => some (.done none)

/-- An answer that is no success is reported, if the second request does not return first. -/
def sendFailed (fuel : ℕ) (again : World → MultipartRequest → Sending Unit)
    (retryRequestBuilder : Option RetryRequestBuilder) (world : World)
    (multiPartRequest : MultipartRequest) (response : Response) :
    Sending (Option (Sending Unit)) :=
  let report : Sending (Option (Sending Unit)) :=
    (reportError parsers language response).andThen fun _ => .done none
  match retryRequestBuilder with
  | some builder =>
      if mayRetry world response multiPartRequest then
        (retry language surroundings fuel again builder world).andThen fun
          | some returned => .done returned
          | none => report
      else report
  | none => report

def sendBody (fuel : ℕ) (again : World → MultipartRequest → Sending Unit)
    (retryRequestBuilder : Option RetryRequestBuilder) (sent : List MultipartRequest)
    (world : World) (multiPartRequest : MultipartRequest) : Sending (Option (Sending Unit)) :=
  (fromStream (surroundings.send (sent ++ [multiPartRequest]))).andThen fun response =>
    if isSuccessful response.statusCode then
      (Call.emit (.onSuccess response.body)).andThen fun _ => .done none
    else
      sendFailed parsers language surroundings fuel again retryRequestBuilder world
        multiPartRequest response

def completing (body : Sending (Option (Sending Unit))) : Sending Unit :=
  (body.catching (onFailure language)).andThen fun
    | some future => future
    | none => .done ()

/-- The one call to itself passes no builder. -/
def sendMultiPartRequest (fuel : ℕ) (sent : List MultipartRequest) (world : World)
    (multiPartRequest : MultipartRequest) (retryRequestBuilder : Option RetryRequestBuilder) :
    Sending Unit :=
  let again : World → MultipartRequest → Sending Unit :=
    match retryRequestBuilder with
    | none => fun _ _ => .done ()
    | some _ => fun after newRequest =>
        sendMultiPartRequest fuel (sent ++ [multiPartRequest]) after newRequest none
  completing language
    (sendBody parsers language surroundings fuel again retryRequestBuilder sent world
      multiPartRequest)
termination_by retryRequestBuilder.isSome.toNat
decreasing_by exact Nat.one_pos

def readable (response : Response) : Bool :=
  match parsers.decode response.body with
  | none => true
  | some .null => true
  | some (.map _) => true
  | some _ => false

theorem reportError_cases (response : Response) :
    (readable parsers response = true ∧
        ∃ message, reportError parsers language response = .emit (.onError message)) ∨
      (readable parsers response = false ∧
        reportError parsers language response = .throw (.thrown .typeError)) := by
  simp only [readable, reportError]
  cases parsers.decode response.body with
  | none => exact Or.inl ⟨rfl, _, rfl⟩
  | some body =>
      cases body with
      | null => exact Or.inl ⟨rfl, _, rfl⟩
      | map entries => exact Or.inl ⟨rfl, _, rfl⟩
      | _ => exact Or.inr ⟨rfl, rfl⟩

def answered : Transport → Sending Unit
  | .socketException => .emit (.onError (.text language.internetNotAvailable))
  | .exception => .emit (.onError (.text language.somethingWentWrong))
  | .response response =>
      if isSuccessful response.statusCode then .emit (.onSuccess response.body)
      else reportError parsers language response

/-- A success, an exception, or an answer that can be reported. -/
def answerFits : Transport → Bool
  | .response response => isSuccessful response.statusCode || readable parsers response
  | _ => true

theorem answered_cases (answer : Transport) :
    (answerFits parsers answer = true ∧
        ∃ callback, answered parsers language answer = .emit callback) ∨
      (answerFits parsers answer = false ∧
        answered parsers language answer = .throw (.thrown .typeError)) := by
  cases answer with
  | socketException => exact Or.inl ⟨rfl, _, rfl⟩
  | exception => exact Or.inl ⟨rfl, _, rfl⟩
  | response response =>
      simp only [answerFits, answered]
      cases isSuccessful response.statusCode with
      | true => exact Or.inl ⟨rfl, _, rfl⟩
      | false =>
          rw [Bool.false_or, if_neg Bool.false_ne_true]
          rcases reportError_cases parsers language response with ⟨fits, message, shown⟩ | unread
          · exact Or.inl ⟨fits, _, shown⟩
          · exact Or.inr unread

theorem settlesOnce_answered_iff (answer : Transport) :
    (answered parsers language answer).SettlesOnce ↔ answerFits parsers answer = true := by
  rcases answered_cases parsers language answer with ⟨fits, callback, shown⟩ | ⟨unfit, threw⟩
  · rw [shown, fits]
    exact iff_of_true (Call.settlesOnce_emit callback) rfl
  · rw [threw, unfit]
    exact iff_of_false (Call.not_settlesOnce_throw _) Bool.false_ne_true

theorem completing_report (response : Response) :
    completing language ((reportError parsers language response).andThen fun _ => .done none) =
      reportError parsers language response := by
  rcases reportError_cases parsers language response with ⟨_, message, shown⟩ | ⟨_, threw⟩
  · rw [shown]
    rfl
  · rw [threw]
    rfl

theorem completing_sendBody (fuel : ℕ) (again : World → MultipartRequest → Sending Unit)
    (retryRequestBuilder : Option RetryRequestBuilder) (sent : List MultipartRequest)
    (world : World) (multiPartRequest : MultipartRequest)
    (direct : ∀ response, surroundings.send (sent ++ [multiPartRequest]) = .response response →
      retryRequestBuilder.isSome = true → mayRetry world response multiPartRequest = false) :
    completing language
        (sendBody parsers language surroundings fuel again retryRequestBuilder sent world
          multiPartRequest) =
      answered parsers language (surroundings.send (sent ++ [multiPartRequest])) := by
  unfold sendBody
  cases answer : surroundings.send (sent ++ [multiPartRequest]) with
  | socketException => rfl
  | exception => rfl
  | response response =>
      simp only [fromStream, Call.andThen_done, answered]
      cases isSuccessful response.statusCode with
      | true => rfl
      | false =>
          rw [if_neg Bool.false_ne_true, if_neg Bool.false_ne_true]
          have report : sendFailed parsers language surroundings fuel again
              retryRequestBuilder world multiPartRequest response =
                (reportError parsers language response).andThen fun _ => .done none := by
            cases retryRequestBuilder with
            | none => rfl
            | some builder =>
                simp only [sendFailed]
                rw [direct response answer rfl, if_neg Bool.false_ne_true]
          rw [report, completing_report]

/-! ### The second request -/

theorem renew_cases (fuel : ℕ) (retryRequestBuilder : RetryRequestBuilder) (world : World) :
    renew language surroundings fuel retryRequestBuilder world = .pending ∨
      (∃ failure, renew language surroundings fuel retryRequestBuilder world =
        .throw failure) ∨
      ∃ rebuilt, renew language surroundings fuel retryRequestBuilder world = .done rebuilt := by
  unfold renew reGenerateToken
  cases Network.reGenerateToken language
      (Network.buildHttpResponse language surroundings.server fuel) world with
  | none => exact Or.inl rfl
  | some ended =>
      obtain ⟨result, after⟩ := ended
      cases result with
      | error text => exact Or.inr (Or.inl ⟨_, rfl⟩)
      | ok nothing =>
          simp only [Call.andThen_done, retryRequest]
          cases retryRequestBuilder after.session with
          | error failure => exact Or.inr (Or.inl ⟨_, rfl⟩)
          | ok newRequest => exact Or.inr (Or.inr ⟨_, rfl⟩)

theorem sendMultiPartRequest_last (fuel : ℕ) (sent : List MultipartRequest) (world : World)
    (multiPartRequest : MultipartRequest) :
    sendMultiPartRequest parsers language surroundings fuel sent world multiPartRequest none =
      answered parsers language (surroundings.send (sent ++ [multiPartRequest])) := by
  rw [sendMultiPartRequest]
  apply completing_sendBody
  intro response _ impossible
  cases impossible

section Retried

variable {surroundings} {fuel : ℕ} {again : World → MultipartRequest → Sending Unit}
  {builder : RetryRequestBuilder} {world : World} {multiPartRequest : MultipartRequest}
  {response : Response} (may : mayRetry world response multiPartRequest = true)
include may

theorem sendFailed_of_mayRetry :
    sendFailed parsers language surroundings fuel again (some builder) world multiPartRequest
        response =
      (retry language surroundings fuel again builder world).andThen fun
        | some returned => .done returned
        | none => (reportError parsers language response).andThen fun _ => .done none := by
  rw [sendFailed, if_pos may]

theorem completing_of_pending
    (renewing : renew language surroundings fuel builder world = .pending) :
    completing language
      (sendFailed parsers language surroundings fuel again (some builder) world
        multiPartRequest response) = .pending := by
  rw [sendFailed_of_mayRetry parsers language may, retry, renewing, Call.andThen_pending,
    Call.catching_pending, Call.andThen_pending, completing, Call.catching_pending,
    Call.andThen_pending]

theorem completing_of_throw {failure : Failure}
    (failed : renew language surroundings fuel builder world = .throw failure) :
    completing language
        (sendFailed parsers language surroundings fuel again (some builder) world
          multiPartRequest response) =
      reportError parsers language response := by
  rw [sendFailed_of_mayRetry parsers language may, retry, failed, Call.andThen_throw,
    Call.catching_throw, Option.getD_some, Call.andThen_done]
  exact completing_report parsers language response

theorem completing_of_emit {rebuilt : MultipartRequest × World} {callback : Callback}
    (renewed : renew language surroundings fuel builder world = .done rebuilt)
    (shown : again rebuilt.2 rebuilt.1 = .emit callback) :
    completing language
        (sendFailed parsers language surroundings fuel again (some builder) world
          multiPartRequest response) =
      .emit callback := by
  rw [sendFailed_of_mayRetry parsers language may, retry, renewed, Call.andThen_done, shown,
    returning]
  cases surroundings.awaitsReturned <;> rfl

/-- A second request that throws is given up for the first answer, if it is awaited. -/
theorem completing_of_rethrow {rebuilt : MultipartRequest × World} {failure : Failure}
    (renewed : renew language surroundings fuel builder world = .done rebuilt)
    (threw : again rebuilt.2 rebuilt.1 = .throw failure) :
    completing language
        (sendFailed parsers language surroundings fuel again (some builder) world
          multiPartRequest response) =
      if surroundings.awaitsReturned then reportError parsers language response
      else .throw failure := by
  rw [sendFailed_of_mayRetry parsers language may, retry, renewed, Call.andThen_done, threw,
    returning]
  cases surroundings.awaitsReturned with
  | true => exact completing_report parsers language response
  | false => rfl

end Retried

def renewalFits (sent : List MultipartRequest) (multiPartRequest : MultipartRequest)
    (response : Response) : Sending (MultipartRequest × World) → Bool
  | { events := _, ending := .pending } => false
  | { events := _, ending := .failed _ } => readable parsers response
  | { events := _, ending := .returned (newRequest, _) } =>
      answerFits parsers (surroundings.send (sent ++ [multiPartRequest, newRequest])) ||
        surroundings.awaitsReturned && readable parsers response

def refusedFits (fuel : ℕ) (sent : List MultipartRequest) (world : World)
    (multiPartRequest : MultipartRequest) (response : Response) :
    Option RetryRequestBuilder → Bool
  | some builder =>
      if mayRetry world response multiPartRequest then
        renewalFits parsers surroundings sent multiPartRequest response
          (renew language surroundings fuel builder world)
      else readable parsers response
  | none => readable parsers response

/-- The answer that ends the exchange is a success, an exception, or can be reported; and
a renewal that is begun has ended. -/
def exchangeFits (fuel : ℕ) (sent : List MultipartRequest) (world : World)
    (multiPartRequest : MultipartRequest) (retryRequestBuilder : Option RetryRequestBuilder) :
    Bool :=
  match surroundings.send (sent ++ [multiPartRequest]) with
  | .response response =>
      isSuccessful response.statusCode ||
        refusedFits parsers language surroundings fuel sent world multiPartRequest response
          retryRequestBuilder
  | _ => true

theorem settlesOnce_reportError_iff (response : Response) :
    (reportError parsers language response).SettlesOnce ↔ readable parsers response = true := by
  rcases reportError_cases parsers language response with ⟨fits, message, shown⟩ | ⟨unfit, threw⟩
  · rw [shown, fits]
    exact iff_of_true (Call.settlesOnce_emit _) rfl
  · rw [threw, unfit]
    exact iff_of_false (Call.not_settlesOnce_throw _) Bool.false_ne_true

theorem settlesOnce_retried_iff {world : World} {multiPartRequest : MultipartRequest}
    {response : Response} (may : mayRetry world response multiPartRequest = true) (fuel : ℕ)
    (sent : List MultipartRequest) (builder : RetryRequestBuilder) :
    (completing language
        (sendFailed parsers language surroundings fuel
          (fun after newRequest =>
            sendMultiPartRequest parsers language surroundings fuel (sent ++ [multiPartRequest])
              after newRequest none)
          (some builder) world multiPartRequest response)).SettlesOnce ↔
      renewalFits parsers surroundings sent multiPartRequest response
        (renew language surroundings fuel builder world) = true := by
  rcases renew_cases language surroundings fuel builder world with
    renewing | ⟨failure, failed⟩ | ⟨⟨newRequest, after⟩, renewed⟩
  · rw [completing_of_pending parsers language may renewing, renewing]
    exact iff_of_false Call.not_settlesOnce_pending Bool.false_ne_true
  · rw [completing_of_throw parsers language may failed, failed]
    exact settlesOnce_reportError_iff parsers language response
  · have last := sendMultiPartRequest_last parsers language surroundings fuel
      (sent ++ [multiPartRequest]) after newRequest
    rw [List.append_assoc, List.singleton_append] at last
    rw [renewed]
    change _ ↔ (answerFits parsers _ || _) = true
    rcases answered_cases parsers language
        (surroundings.send (sent ++ [multiPartRequest, newRequest])) with
      ⟨fits, callback, shown⟩ | ⟨unfit, threw⟩
    · rw [completing_of_emit parsers language may renewed (last.trans shown), fits]
      exact iff_of_true (Call.settlesOnce_emit callback) rfl
    · rw [completing_of_rethrow parsers language may renewed (last.trans threw), unfit,
        Bool.false_or]
      cases surroundings.awaitsReturned with
      | true => exact settlesOnce_reportError_iff parsers language response
      | false => exact iff_of_false (Call.not_settlesOnce_throw _) Bool.false_ne_true

/-- Where nothing is sent again, the first answer decides. -/
theorem exchangeFits_of_direct {fuel : ℕ} {sent : List MultipartRequest} {world : World}
    {multiPartRequest : MultipartRequest} {retryRequestBuilder : Option RetryRequestBuilder}
    (direct : ∀ response, surroundings.send (sent ++ [multiPartRequest]) = .response response →
      retryRequestBuilder.isSome = true → mayRetry world response multiPartRequest = false) :
    exchangeFits parsers language surroundings fuel sent world multiPartRequest
        retryRequestBuilder =
      answerFits parsers (surroundings.send (sent ++ [multiPartRequest])) := by
  unfold exchangeFits
  cases answer : surroundings.send (sent ++ [multiPartRequest]) with
  | socketException => rfl
  | exception => rfl
  | response response =>
      cases retryRequestBuilder with
      | none => rfl
      | some builder =>
          simp only [refusedFits]
          rw [direct response answer rfl, if_neg Bool.false_ne_true]
          rfl

theorem settlesOnce_iff_of_direct {fuel : ℕ} {sent : List MultipartRequest} {world : World}
    {multiPartRequest : MultipartRequest} {retryRequestBuilder : Option RetryRequestBuilder}
    (direct : ∀ response, surroundings.send (sent ++ [multiPartRequest]) = .response response →
      retryRequestBuilder.isSome = true → mayRetry world response multiPartRequest = false) :
    (sendMultiPartRequest parsers language surroundings fuel sent world multiPartRequest
        retryRequestBuilder).SettlesOnce ↔
      exchangeFits parsers language surroundings fuel sent world multiPartRequest
        retryRequestBuilder = true := by
  rw [sendMultiPartRequest.eq_def,
    completing_sendBody parsers language surroundings fuel _ _ _ _ _ direct,
    exchangeFits_of_direct parsers language surroundings direct]
  exact settlesOnce_answered_iff parsers language _

theorem settlesOnce_iff_of_retried {fuel : ℕ} {sent : List MultipartRequest} {world : World}
    {multiPartRequest : MultipartRequest} {response : Response} (builder : RetryRequestBuilder)
    (answer : surroundings.send (sent ++ [multiPartRequest]) = .response response)
    (may : mayRetry world response multiPartRequest = true) :
    (sendMultiPartRequest parsers language surroundings fuel sent world multiPartRequest
        (some builder)).SettlesOnce ↔
      exchangeFits parsers language surroundings fuel sent world multiPartRequest
        (some builder) = true := by
  have unsuccessful : isSuccessful response.statusCode = false := by
    unfold mayRetry at may
    rw [Bool.and_eq_true, Bool.and_eq_true, beq_iff_eq] at may
    rw [may.1.1]
    rfl
  have fits : exchangeFits parsers language surroundings fuel sent world multiPartRequest
      (some builder) =
        renewalFits parsers surroundings sent multiPartRequest response
          (renew language surroundings fuel builder world) := by
    simp only [exchangeFits, answer, refusedFits]
    rw [unsuccessful, Bool.false_or, if_pos may]
  rw [fits, ← settlesOnce_retried_iff parsers language surroundings may, sendMultiPartRequest,
    sendBody, answer, fromStream, Call.andThen_done, unsuccessful, if_neg Bool.false_ne_true]

/-- One callback is called, once, and the future does not fail, exactly if the answer that
ends the exchange is a success, an exception, or can be reported, and the renewal of the
token, if there is one, ends. -/
theorem sendMultiPartRequest_settlesOnce_iff (sent : List MultipartRequest) (world : World)
    (multiPartRequest : MultipartRequest) (retryRequestBuilder : Option RetryRequestBuilder) :
    (∃ fuel, (sendMultiPartRequest parsers language surroundings fuel sent world
        multiPartRequest retryRequestBuilder).SettlesOnce) ↔
      ∃ fuel, exchangeFits parsers language surroundings fuel sent world multiPartRequest
        retryRequestBuilder = true := by
  apply exists_congr
  intro fuel
  by_cases again : ∃ response builder,
      surroundings.send (sent ++ [multiPartRequest]) = .response response ∧
        retryRequestBuilder = some builder ∧ mayRetry world response multiPartRequest = true
  · obtain ⟨response, builder, answer, rfl, may⟩ := again
    exact settlesOnce_iff_of_retried parsers language surroundings builder answer may
  · apply settlesOnce_iff_of_direct
    intro response answer present
    obtain ⟨builder, same⟩ := Option.isSome_iff_exists.mp present
    rw [← Bool.not_eq_true]
    intro may
    exact again ⟨response, builder, answer, same, may⟩

/-- A renewal ends exactly if there is nothing to log in with or some login of the chain
that it begins is accepted. -/
theorem reGenerateToken_ends_iff (world : World) :
    (∃ fuel, (reGenerateToken language surroundings fuel world).ending ≠ .pending) ↔
      ¬ (Network.hasCredentials world.session = true ∧
        ∀ count, Network.LoginRefused surroundings.server world count) := by
  constructor
  · rintro ⟨fuel, ended⟩ ⟨present, always⟩
    apply ended
    rw [reGenerateToken, Network.reGenerateToken_of_none language present
      (Network.login_exhausted language surroundings.server always fuel)]
    rfl
  · intro ends
    by_cases present : Network.hasCredentials world.session = true
    · have someAccepted : ∃ count, ¬ Network.LoginRefused surroundings.server world count := by
        by_contra never
        exact ends ⟨present, fun count => not_not.mp fun accepted => never ⟨count, accepted⟩⟩
      classical
      obtain ⟨result, after, ended, _⟩ := Network.login_ended language surroundings.server
        (fun earlier bound => not_not.mp (Nat.find_min someAccepted bound))
        (Nat.find_spec someAccepted)
      obtain ⟨outcome, renewed, generated, _⟩ :=
        Network.reGenerateToken_of_some language present ended
      refine ⟨Nat.find someAccepted + 1, ?_⟩
      rw [reGenerateToken, generated]
      intro pending
      cases outcome <;> cases pending
    · refine ⟨0, ?_⟩
      rw [reGenerateToken, Network.reGenerateToken, if_neg present]
      intro pending
      cases pending

end Client

def listSurroundings : Surroundings where
  send _ := .response { statusCode := 422, body := "[]" }
  server := Network.renewingServer
  awaitsReturned := true

/-- The array is cast to a map outside the reach of the handlers: no callback is called. -/
theorem array_response_counterexample :
    ¬ ∃ fuel, (sendMultiPartRequest (Responses.parsersOf "[]" (.array [])) Network.plainLanguage
      listSurroundings fuel [] Network.signedIn
      { url := "https://fiksopp.inoor.buzz/api/update-profile" } none).SettlesOnce := by
  rintro ⟨fuel, logged, _⟩
  rw [sendMultiPartRequest_last] at logged
  cases logged

end FiksOpp.MultiPart
