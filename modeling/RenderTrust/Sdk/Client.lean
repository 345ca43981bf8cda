import Mathlib.Data.Nat.Notation
import RenderTrust.Lib.Json

/-!
# `_handle_response` of `sdk/python/rendertrust/client.py` and `async_client.py`

`str` of a parsed body is a parameter. A success is returned; every other response is raised.
-/
namespace RenderTrust.Sdk
open Lib

/-- The classes of `exceptions.py`. -/
inductive ErrorClass where
  | renderTrustError
  | authenticationError
  | notFoundError
  | insufficientCreditsError
  | validationError
  | serviceUnavailableError
  deriving DecidableEq, Repr

structure RenderTrustError where
  cls : ErrorClass
  message : Json
  statusCode : ℕ
  responseBody : Json

inductive Raised where
  | renderTrust (error : RenderTrustError)
  | attributeError (object : Json) (name : String)
  | jsonDecodeError

/-- `json` is `none` where `json()` raises. -/
structure Response where
  statusCode : ℕ
  text : String
  json : Option Json

/-- `is_success` of httpx. -/
def Response.isSuccess (response : Response) : Bool :=
  200 ≤ response.statusCode ∧ response.statusCode ≤ 299

def isObject : Json → Bool
  | .obj _ => true
  | _ => false

section Handler
variable (str : Json → String)

/-- `body.get(key, default)`. -/
def get (body : Json) (key : String) (default : Json) : Except Raised Json :=
  match body with
  | .obj fields => .ok ((fields.lookup key).getD default)
  | _ => .error (.attributeError body "get")

/-- The body of an error. -/
def errorBody (response : Response) : Json :=
  response.json.getD (.obj [("detail", .str response.text)])

/-- The method, which both clients have. -/
def handleResponse (response : Response) : Except Raised Json :=
  if response.isSuccess then
    match response.json with
    | some body => .ok body
    | none => .error .jsonDecodeError
  else
    let statusCode := response.statusCode
    let body := errorBody response
    match get body "detail" (.str (str body)) with
    | .error e => .error e
    | .ok detail =>
        if statusCode = 401 then
          .error (.renderTrust ⟨.authenticationError, detail, statusCode, body⟩)
        else if statusCode = 402 then
          .error (.renderTrust ⟨.insufficientCreditsError, detail, statusCode, body⟩)
        else if statusCode = 404 then
          .error (.renderTrust ⟨.notFoundError, detail, statusCode, body⟩)
        else if statusCode = 422 then
          .error (.renderTrust ⟨.validationError, detail, statusCode, body⟩)
        else if statusCode = 503 then
          .error (.renderTrust ⟨.serviceUnavailableError, detail, statusCode, body⟩)
        else .error (.renderTrust ⟨.renderTrustError, detail, statusCode, body⟩)

def RenderTrustClient.handleResponse (response : Response) : Except Raised Json :=
  Sdk.handleResponse str response

def AsyncRenderTrustClient.handleResponse (response : Response) : Except Raised Json :=
  Sdk.handleResponse str response

end Handler

/-- The documented class of a status. -/
def ErrorClass.ofStatus : ℕ → ErrorClass
  | 401 => .authenticationError
  | 402 => .insufficientCreditsError
  | 404 => .notFoundError
  | 422 => .validationError
  | 503 => .serviceUnavailableError
  | _ => .renderTrustError

/-- A client raises the error of the response, with this message. -/
def Raises (result : Except Raised Json) (response : Response) (message : Json) : Prop :=
  ∃ error, result = .error (.renderTrust error) ∧
    error.cls = ErrorClass.ofStatus response.statusCode ∧
    error.statusCode = response.statusCode ∧ error.message = message

/-- Both clients raise it, with one message. -/
def Typed (str : Json → String) (response : Response) : Prop :=
  ∃ message, Raises (RenderTrustClient.handleResponse str response) response message ∧
    Raises (AsyncRenderTrustClient.handleResponse str response) response message

section Handler
variable {str : Json → String} {response : Response} {body detail : Json}

theorem get_ok_iff {key : String} {default : Json} :
    (∃ value, get body key default = .ok value) ↔ isObject body := by
  cases body <;> simp [get, isObject]

theorem isObject_errorBody : isObject (errorBody response) ↔ response.json.all isObject := by
  unfold errorBody
  cases response.json with
  | none => simp [isObject]
  | some body => simp

theorem ofStatus_of_ne {status : ℕ} (h401 : status ≠ 401) (h402 : status ≠ 402)
    (h404 : status ≠ 404) (h422 : status ≠ 422) (h503 : status ≠ 503) :
    ErrorClass.ofStatus status = .renderTrustError := by
  unfold ErrorClass.ofStatus
  split
  · exact absurd rfl h401
  · exact absurd rfl h402
  · exact absurd rfl h404
  · exact absurd rfl h422
  · exact absurd rfl h503
  · rfl

/-- The chain of tests ends in the documented class. -/
theorem handleResponse_of_detail (failed : response.isSuccess = false)
    (found : get (errorBody response) "detail" (.str (str (errorBody response))) = .ok detail) :
    handleResponse str response = .error (.renderTrust
      ⟨ErrorClass.ofStatus response.statusCode, detail, response.statusCode,
        errorBody response⟩) := by
  unfold handleResponse
  simp only [failed, found, Bool.false_eq_true, if_false]
  by_cases h401 : response.statusCode = 401
  · simp [h401, ErrorClass.ofStatus]
  by_cases h402 : response.statusCode = 402
  · simp [h402, ErrorClass.ofStatus]
  by_cases h404 : response.statusCode = 404
  · simp [h404, ErrorClass.ofStatus]
  by_cases h422 : response.statusCode = 422
  · simp [h422, ErrorClass.ofStatus]
  by_cases h503 : response.statusCode = 503
  · simp [h503, ErrorClass.ofStatus]
  simp only [h401, h402, h404, h422, h503, if_false, ofStatus_of_ne, ne_eq, not_false_eq_true]

theorem handleResponse_of_no_object (failed : response.isSuccess = false)
    (bad : ¬ isObject (errorBody response)) :
    handleResponse str response = .error (.attributeError (errorBody response) "get") := by
  have raised : get (errorBody response) "detail" (.str (str (errorBody response))) =
      .error (.attributeError (errorBody response) "get") := by
    generalize errorBody response = body at bad
    cases body <;> simp_all [get, isObject]
  unfold handleResponse
  simp only [failed, raised, Bool.false_eq_true, if_false]

end Handler

/-- A failed response is raised as the documented error, by both clients alike, exactly if its body
is no JSON or a JSON object. -/
theorem typed_iff (str : Json → String) (response : Response)
    (failed : response.isSuccess = false) :
    Typed str response ↔ response.json.all isObject := by
  rw [← isObject_errorBody]
  constructor
  · rintro ⟨message, ⟨error, raised, -⟩, -⟩
    by_contra bad
    rw [RenderTrustClient.handleResponse, handleResponse_of_no_object failed bad] at raised
    cases raised
  · intro good
    obtain ⟨detail, found⟩ : ∃ detail, get (errorBody response) "detail"
        (.str (str (errorBody response))) = .ok detail := get_ok_iff.mpr good
    have raised := handleResponse_of_detail failed found
    exact ⟨detail, ⟨_, raised, rfl, rfl, rfl⟩, ⟨_, raised, rfl, rfl, rfl⟩⟩

def notFound : Response :=
  ⟨404, "\x7b\"detail\": \"Job not found\"\x7d", some (.obj [("detail", .str "Job not found")])⟩

def badGateway : Response := ⟨502, "[\"Bad Gateway\"]", some (.arr [.str "Bad Gateway"])⟩

theorem typed_notFound : Typed (fun _ => "") notFound :=
  (typed_iff (fun _ => "") notFound rfl).mpr rfl

/-- A list has no `get`. -/
theorem badGateway_untyped :
    RenderTrustClient.handleResponse (fun _ => "['Bad Gateway']") badGateway =
        .error (.attributeError (.arr [.str "Bad Gateway"]) "get") ∧
      AsyncRenderTrustClient.handleResponse (fun _ => "['Bad Gateway']") badGateway =
        .error (.attributeError (.arr [.str "Bad Gateway"]) "get") :=
  ⟨rfl, rfl⟩

end RenderTrust.Sdk
