/-
`handleResponse` over the text of the answer.

The message shown to the user is read from a JSON value of any shape and then taken
through the HTML parser twice, so the read can end in an error that is no text.  The
last section says for which answers the function keeps its contract.
-/

import FiksOpp.NetworkUtils
import FiksOpp.Foundations.DynamicValues

namespace FiksOpp.Responses

open FiksOpp.DynamicValues
open FiksOpp.Network (Language isSuccessful statusError)

/-- What a Dart function throws: a text, or an error of the runtime. -/
inductive Thrown where
  | text (message : String)
  | typeError
  | noSuchMethodError
  | argumentError
  deriving DecidableEq, Repr

structure Parsers where
  /-- The document that a text spells, if it is JSON. -/
  parseJson : String → Option JsonText
  /-- The text of the body of the HTML document that a text spells; a document of frames
  has no body. -/
  bodyText : String → Option String
  /-- The text of the whole HTML document. -/
  documentText : String → String

structure Response where
  statusCode : ℕ
  body : String
  bodyBytes : List UInt8 := []
  deriving DecidableEq, Repr

inductive HttpResponseType where
  | json
  | fullResponse
  | string
  | bodyBytes
  deriving DecidableEq, Repr

inductive Handled where
  | decoded (value : Untyped)
  | response (response : Response)
  | body (text : String)
  | bytes (bytes : List UInt8)

def Parsers.decode (parsers : Parsers) (text : String) : Option Untyped :=
  (parsers.parseJson text).map jsonDecode

/-- `value[key]` on a value of unknown type. -/
def readKey (value : Untyped) (key : String) : Except Thrown Untyped :=
  match value with
  | .map entries => .ok (Entries.get entries key)
  | .list _ => .error .typeError
  | .text _ => .error .typeError
  | _ => .error .noSuchMethodError

def containsKey (entries : Entries) (key : String) : Bool :=
  (entries.lookup key).isSome

def orElse (value other : Untyped) : Untyped :=
  match value with
  | .null => other
  | value => value

def parseHtmlString (parsers : Parsers) : Untyped → Except Thrown String
  | .text htmlString =>
      match parsers.bodyText htmlString with
      | some text => .ok (parsers.documentText text)
      | none => .error .typeError
  | .null => .error .argumentError
  | _ => .error .typeError

def throwHtml (parsers : Parsers) (value : Untyped) : Thrown :=
  match parseHtmlString parsers value with
  | .ok text => .text text
  | .error thrown => thrown

/-- `throw parseHtmlString(body['message'] ?? errorSomethingWentWrong)`. -/
def throwMessage (parsers : Parsers) (language : Language) (body : Untyped) : Thrown :=
  match readKey body "message" with
  | .ok value => throwHtml parsers (orElse value (.text language.somethingWentWrong))
  | .error thrown => thrown

/-- `body is Map && body.containsKey('status') && body['status'] is bool && !body['status']`. -/
def isRefused : Untyped → Bool
  | .map entries =>
      match Entries.get entries "status" with
      | .bool status => !status
      | _ => false
  | _ => false

/-- What an answer with status 400 throws, if it spells JSON. -/
def badRequest (parsers : Parsers) (language : Language) : Untyped → Thrown
  | .map entries =>
      if containsKey entries "message" then throwHtml parsers (Entries.get entries "message")
      else .text language.badRequest
  | _ => .text language.badRequest

/-- The branches on the status code, which come before the body is looked at as a whole. -/
def throwStatus (parsers : Parsers) (language : Language) (response : Response) :
    Option Thrown :=
  if response.statusCode = 400 then
    (parsers.decode response.body).map (badRequest parsers language)
  else (statusError language response.statusCode).map Thrown.text

def handleJson (parsers : Parsers) (language : Language) (response : Response) :
    Except Thrown Handled :=
  match parsers.decode response.body with
  | some body =>
      if isSuccessful response.statusCode then
        if isRefused body then .error (throwMessage parsers language body) else .ok (.decoded body)
      else .error (throwMessage parsers language body)
  | none => .error (.text language.somethingWentWrong)

def handleResponse (parsers : Parsers) (language : Language) (response : Response)
    (httpResponseType : HttpResponseType := .json) : Except Thrown Handled :=
  match throwStatus parsers language response with
  | some thrown => .error thrown
  | none =>
      match httpResponseType with
      | .json => handleJson parsers language response
      | .bodyBytes => .ok (.bytes response.bodyBytes)
      | .fullResponse => .ok (.response response)
      | .string => .ok (.body response.body)

def Thrown.isText : Thrown → Bool
  | .text _ => true
  | _ => false

theorem Thrown.isText_iff (thrown : Thrown) :
    thrown.isText = true ↔ ∃ message, thrown = .text message := by
  cases thrown with
  | text message => exact ⟨fun _ => ⟨message, rfl⟩, fun _ => rfl⟩
  | _ =>
      constructor
      · intro impossible
        cases impossible
      · rintro ⟨message, same⟩
        cases same

section Contract

variable (parsers : Parsers) (language : Language)

/-- The value is a text, and the HTML document that it spells has a body. -/
def displayable : Untyped → Bool
  | .text htmlString => (parsers.bodyText htmlString).isSome
  | _ => false

/-- The value is an object, and the message that is read from it can be displayed. -/
def messageDisplayable : Untyped → Bool
  | .map entries =>
      displayable parsers
        (orElse (Entries.get entries "message") (.text language.somethingWentWrong))
  | _ => false

def badRequestDisplayable : Untyped → Bool
  | .map entries =>
      !containsKey entries "message" || displayable parsers (Entries.get entries "message")
  | _ => true

theorem isText_throwHtml (value : Untyped) :
    (throwHtml parsers value).isText = displayable parsers value := by
  cases value with
  | text htmlString =>
      simp only [throwHtml, parseHtmlString, displayable]
      cases parsers.bodyText htmlString <;> rfl
  | _ => rfl

theorem isText_throwMessage (body : Untyped) :
    (throwMessage parsers language body).isText = messageDisplayable parsers language body := by
  cases body with
  | map entries => exact isText_throwHtml parsers _
  | _ => rfl

theorem isText_badRequest (body : Untyped) :
    (badRequest parsers language body).isText = badRequestDisplayable parsers body := by
  cases body with
  | map entries =>
      simp only [badRequest, badRequestDisplayable]
      cases containsKey entries "message" with
      | true => exact isText_throwHtml parsers _
      | false => rfl
  | _ => rfl

/-! ### The contract -/

def isSuccessClass (statusCode : ℕ) : Bool :=
  decide (200 ≤ statusCode) && decide (statusCode < 300)

/-- The answers that a caller may take for a success. -/
def accepted (response : Response) : Bool :=
  match parsers.decode response.body with
  | some body => isSuccessClass response.statusCode && !isRefused body
  | none => false

/-- `handleResponse` returns for the accepted answers and throws a text for the others. -/
def KeepsContract (response : Response) : Prop :=
  ((∃ handled, handleResponse parsers language response = .ok handled) ↔
      accepted parsers response = true) ∧
    (accepted parsers response = false →
      ∃ message, handleResponse parsers language response = .error (.text message))

/-- What has to hold of a JSON body that comes with the status code. -/
def bodyFits (statusCode : ℕ) (body : Untyped) : Bool :=
  if statusCode = 400 then badRequestDisplayable parsers body
  else if (statusError language statusCode).isSome then true
  else if isSuccessful statusCode && !isRefused body then true
  else (!isSuccessClass statusCode || isRefused body) && messageDisplayable parsers language body

def fits (response : Response) : Bool :=
  match parsers.decode response.body with
  | some body => bodyFits parsers language response.statusCode body
  | none => true

theorem keepsContract_iff (response : Response) :
    KeepsContract parsers language response ↔
      match handleResponse parsers language response with
      | .ok _ => accepted parsers response = true
      | .error thrown => accepted parsers response = false ∧ thrown.isText = true := by
  unfold KeepsContract
  cases handleResponse parsers language response with
  | ok handled =>
      cases accepted parsers response with
      | true => simp
      | false => simp
  | error thrown =>
      cases accepted parsers response with
      | true => simp
      | false => simp [Thrown.isText_iff]

theorem isSuccessClass_of_isSuccessful {statusCode : ℕ}
    (successful : isSuccessful statusCode = true) : isSuccessClass statusCode = true := by
  simp only [isSuccessful, isSuccessClass, Bool.and_eq_true, decide_eq_true_eq] at *
  omega

theorem isSuccessClass_of_statusError {statusCode : ℕ} {message : String}
    (named : statusError language statusCode = some message) :
    isSuccessClass statusCode = false := by
  by_contra successful
  simp only [isSuccessClass, Bool.not_eq_false, Bool.and_eq_true, decide_eq_true_eq]
    at successful
  unfold statusError at named
  simp (disch := omega) only [if_neg] at named
  cases named

section Body

variable {parsers} {response : Response}

theorem accepted_of_class (outside : isSuccessClass response.statusCode = false) :
    accepted parsers response = false := by
  unfold accepted
  cases parsers.decode response.body with
  | none => rfl
  | some body => simp only [outside, Bool.false_and]

theorem keepsContract_of_throwStatus {thrown : Thrown}
    (threw : throwStatus parsers language response = some thrown)
    (outside : isSuccessClass response.statusCode = false) :
    KeepsContract parsers language response ↔ thrown.isText = true := by
  rw [keepsContract_iff, handleResponse, threw, accepted_of_class outside]
  exact and_iff_right rfl

theorem keepsContract_of_handleJson (passed : throwStatus parsers language response = none) :
    KeepsContract parsers language response ↔
      match handleJson parsers language response with
      | .ok _ => accepted parsers response = true
      | .error thrown => accepted parsers response = false ∧ thrown.isText = true := by
  rw [keepsContract_iff, handleResponse, passed]

theorem keepsContract_of_notJson (notJson : parsers.decode response.body = none) :
    KeepsContract parsers language response := by
  have refused : accepted parsers response = false := by
    rw [accepted, notJson]
  cases threw : throwStatus parsers language response with
  | none =>
      rw [keepsContract_of_handleJson language threw, handleJson, notJson]
      exact ⟨refused, rfl⟩
  | some thrown =>
      rw [keepsContract_iff, handleResponse, threw]
      refine ⟨refused, ?_⟩
      unfold throwStatus at threw
      rw [notJson] at threw
      by_cases bad : response.statusCode = 400
      · rw [if_pos bad] at threw
        cases threw
      · rw [if_neg bad] at threw
        cases named : statusError language response.statusCode with
        | none =>
            rw [named] at threw
            cases threw
        | some message =>
            rw [named] at threw
            cases threw
            rfl

variable {body : Untyped} (decoded : parsers.decode response.body = some body)
include decoded

theorem keepsContract_of_badRequest (bad : response.statusCode = 400) :
    KeepsContract parsers language response ↔ badRequestDisplayable parsers body = true := by
  have threw : throwStatus parsers language response =
      some (badRequest parsers language body) := by
    rw [throwStatus, if_pos bad, decoded]
    rfl
  have outside : isSuccessClass response.statusCode = false := by
    rw [bad]
    rfl
  rw [keepsContract_of_throwStatus language threw outside, isText_badRequest]

theorem keepsContract_of_body (ordinary : response.statusCode ≠ 400)
    (unnamed : statusError language response.statusCode = none) :
    KeepsContract parsers language response ↔
      (isSuccessful response.statusCode && !isRefused body ||
        (!isSuccessClass response.statusCode || isRefused body) &&
          messageDisplayable parsers language body) = true := by
  have passed : throwStatus parsers language response = none := by
    rw [throwStatus, if_neg ordinary, unnamed]
    rfl
  have within : isSuccessful response.statusCode = true →
      isSuccessClass response.statusCode = true := isSuccessClass_of_isSuccessful
  rw [keepsContract_of_handleJson language passed, handleJson, decoded, accepted, decoded]
  dsimp only
  cases successful : isSuccessful response.statusCode with
  | true =>
      rw [within successful, if_pos rfl]
      cases refused : isRefused body with
      | true => simp [isText_throwMessage]
      | false => simp
  | false =>
      rw [if_neg Bool.false_ne_true]
      cases isSuccessClass response.statusCode <;> cases isRefused body <;>
        simp [isText_throwMessage]

end Body

/-- `handleResponse` returns exactly for the answers of the class of success whose body is
JSON and no refusal, and throws a text for the others, exactly if the body fits the
status code. -/
theorem handleResponse_keepsContract_iff (response : Response) :
    KeepsContract parsers language response ↔ fits parsers language response = true := by
  unfold fits
  cases decoded : parsers.decode response.body with
  | none => exact iff_of_true (keepsContract_of_notJson language decoded) rfl
  | some body =>
      dsimp only
      unfold bodyFits
      by_cases bad : response.statusCode = 400
      · rw [if_pos bad]
        exact keepsContract_of_badRequest language decoded bad
      · rw [if_neg bad]
        cases named : statusError language response.statusCode with
        | none =>
            rw [keepsContract_of_body language decoded bad named]
            cases isSuccessful response.statusCode && !isRefused body <;> simp
        | some message =>
            have threw : throwStatus parsers language response = some (.text message) := by
              rw [throwStatus, if_neg bad, named]
              rfl
            have outside := isSuccessClass_of_statusError language named
            rw [keepsContract_of_throwStatus language threw outside]
            exact iff_of_true rfl rfl

/-- What is returned is the value that the body spells. -/
theorem handleResponse_decoded {response : Response} {handled : Handled}
    (returned : handleResponse parsers language response = .ok handled) :
    ∃ body, parsers.decode response.body = some body ∧ handled = .decoded body := by
  unfold handleResponse at returned
  cases threw : throwStatus parsers language response with
  | some thrown =>
      rw [threw] at returned
      cases returned
  | none =>
      rw [threw] at returned
      change handleJson parsers language response = .ok handled at returned
      unfold handleJson at returned
      cases decoded : parsers.decode response.body with
      | none =>
          rw [decoded] at returned
          cases returned
      | some body =>
          rw [decoded] at returned
          dsimp only at returned
          refine ⟨body, rfl, ?_⟩
          split at returned
          · split at returned
            · cases returned
            · exact (Except.ok.inj returned).symm
          · cases returned

end Contract

def parsersOf (known : String) (document : JsonText) : Parsers where
  parseJson text := if text = known then some document else none
  bodyText := some
  documentText := id

def validationParsers : Parsers :=
  parsersOf "\x7b\"message\":\x7b\"email\":[\"Taken\"]\x7d\x7d"
    (.object [("message", .object [("email", .array [.text "Taken"])])])

def validationResponse : Response :=
  { statusCode := 400, body := "\x7b\"message\":\x7b\"email\":[\"Taken\"]\x7d\x7d" }

/-- A bad request whose message is an object ends in a type error. -/
theorem validation_response_counterexample :
    ¬ KeepsContract validationParsers Network.plainLanguage validationResponse := by
  rintro ⟨_, throwsText⟩
  obtain ⟨message, threw⟩ := throwsText rfl
  cases threw

end FiksOpp.Responses
