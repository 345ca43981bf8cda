import RenderTrust.Frontend.Session
import RenderTrust.Lib.Json

/-!
# `request` of `frontend/src/lib/api.ts`

One call from its first `fetch` to its end. Whatever else runs while it waits, the other requests of
the app included, is part of the browser: each await leads from one world to another.
-/
namespace RenderTrust.Frontend
open Lib

/-- A value that was read from JSON; `none` is `undefined`. -/
abbrev JsValue := Option Json

inductive JsError where
  | syntaxError
  | typeError
  | network
  | api (status : ℕ) (detail : JsValue)

namespace JsValue

def truthy : JsValue → Bool
  | none => false
  | some .null => false
  | some (.bool b) => b
  | some (.num x) => x ≠ 0
  | some (.str s) => s ≠ ""
  | some (.arr _) => true
  | some (.obj _) => true

def property (name : String) : JsValue → Except JsError JsValue
  | none => .error .typeError
  | some .null => .error .typeError
  | some (.obj fields) => .ok (fields.lookup name)
  | some (.bool _) | some (.num _) | some (.str _) | some (.arr _) => .ok none

end JsValue

/-- `json` is what `json()` settles to. -/
structure Response where
  status : ℕ
  statusText : String
  json : Except JsError Json

def Response.ok (response : Response) : Bool := responseOk response.status

structure RequestInit where
  method : Option String
  headers : List (String × String)
  body : Option String

structure Fetch where
  url : String
  init : RequestInit

/-- The variables of the module; of a promise, whether there is one. -/
structure ApiState where
  accessToken : JsValue
  refreshToken : JsValue
  isRefreshing : Bool
  refreshPromise : Bool

structure Page (σ : Type) where
  api : ApiState
  rest : σ

/-- `text` is the conversion of a template. `refreshed` waits for the promise of another call. -/
structure Browser (σ : Type) where
  viteApiBaseUrl : Option String
  stringify : Json → String
  text : JsValue → String
  fetch : Fetch → Page σ → Except JsError Response × Page σ
  refreshed : Page σ → Bool × Page σ
  setSecureToken : Option (String → JsValue → Page σ → Except JsError Unit × Page σ)

def setHeader (headers : List (String × String)) (name value : String) : List (String × String) :=
  headers.filter (fun header => header.1 ≠ name) ++ [(name, value)]

section Browser
variable {σ : Type} (browser : Browser σ)

def getBaseUrl : String := (browser.viteApiBaseUrl.filter truthy).getD "http://localhost:8000"

def bearer (accessToken : JsValue) : String := "Bearer " ++ browser.text accessToken

/-! ## The refresh -/

/-- The tokens are in storage once both calls are through. -/
def storeTokens (access refresh : JsValue) (page : Page σ) : Bool × Page σ :=
  match browser.setSecureToken with
  | none => (true, page)
  | some setSecureToken =>
      match setSecureToken "access_token" access page with
      | (.error _, page) => (false, page)
      | (.ok _, page) =>
          match setSecureToken "refresh_token" refresh page with
          | (.error _, page) => (false, page)
          | (.ok _, page) => (true, page)

def doRefresh (page : Page σ) : Bool × Page σ :=
  let body := Json.obj (page.api.refreshToken.toList.map fun token => ("refresh_token", token))
  let init : RequestInit :=
    ⟨some "POST", [("Content-Type", "application/json")], some (browser.stringify body)⟩
  match browser.fetch ⟨getBaseUrl browser ++ "/api/v1/auth/refresh", init⟩ page with
  | (.error _, page) => (false, page)
  | (.ok response, page) =>
      if !response.ok then (false, page)
      else match response.json with
        | .error _ => (false, page)
        | .ok data =>
            match JsValue.property "access_token" data, JsValue.property "refresh_token" data with
            | .ok access, .ok refresh =>
                storeTokens browser access refresh
                  { page with api := { page.api with accessToken := access,
                                                     refreshToken := refresh } }
            | _, _ => (false, page)

def attemptTokenRefresh (page : Page σ) : Bool × Page σ :=
  if page.api.isRefreshing && page.api.refreshPromise then browser.refreshed page
  else
    let (result, page) := doRefresh browser
      { page with api := { page.api with isRefreshing := true, refreshPromise := true } }
    (result, { page with api := { page.api with isRefreshing := false, refreshPromise := false } })

/-! ## The request -/

/-- The error for a response that is not `ok`. -/
def errorOf (response : Response) : JsError :=
  let errorBody : Json := match response.json with
    | .ok body => body
    | .error _ => .obj [("detail", .str response.statusText)]
  match JsValue.property "detail" errorBody with
  | .error e => e
  | .ok detail =>
      .api response.status (if detail.truthy then detail else some (.str response.statusText))

/-- The end of the function. -/
def settle (response : Response) : Except JsError JsValue :=
  if !response.ok then .error (errorOf response)
  -- Some endpoints may return 204 No Content
  else if response.status = 204 then .ok none
  else response.json.map some

/-- The same for the response to the retry. -/
def settleRetry (retryResponse : Response) : Except JsError JsValue :=
  if !retryResponse.ok then .error (errorOf retryResponse)
  else retryResponse.json.map some

def firstFetch (path : String) (options : RequestInit) (page : Page σ) : Fetch :=
  let headers := options.headers.foldl (fun headers header => setHeader headers header.1 header.2)
    [("Content-Type", "application/json")]
  ⟨getBaseUrl browser ++ path, { options with
    headers := if page.api.accessToken.truthy then
      setHeader headers "Authorization" (bearer browser page.api.accessToken) else headers }⟩

/-- The first one, with the new access token. -/
def retryFetch (first : Fetch) (page : Page σ) : Fetch :=
  { first with init := { first.init with
    headers := setHeader first.init.headers "Authorization"
      (bearer browser page.api.accessToken) } }

def request (path : String) (options : RequestInit) (page : Page σ) :
    Except JsError JsValue × Page σ :=
  let first := firstFetch browser path options page
  match browser.fetch first page with
  | (.error e, page) => (.error e, page)
  | (.ok response, page) =>
      if response.status = 401 && page.api.refreshToken.truthy then
        match attemptTokenRefresh browser page with
        | (true, page) =>
            match browser.fetch (retryFetch browser first page) page with
            | (.error e, page) => (.error e, page)
            | (.ok retryResponse, page) => (settleRetry retryResponse, page)
        | (false, page) =>
            (.error (.api 401 (some (.str "Session expired"))),
              { page with api := { page.api with accessToken := some .null,
                                                 refreshToken := some .null } })
      else (settle response, page)

/-- The first attempt is answered with the response. -/
def AnsweredFirst (path : String) (options : RequestInit) (page : Page σ) (r : Response) : Prop :=
  (browser.fetch (firstFetch browser path options page) page).1 = .ok r

/-- The first attempt is answered 401, the refresh succeeds, and the retry is answered with it. -/
def AnsweredRetry (path : String) (options : RequestInit) (page : Page σ) (r : Response) : Prop :=
  ∃ response page₁ page₂,
    browser.fetch (firstFetch browser path options page) page = (.ok response, page₁) ∧
      response.status = 401 ∧ page₁.api.refreshToken.truthy ∧
      attemptTokenRefresh browser page₁ = (true, page₂) ∧
      (browser.fetch (retryFetch browser (firstFetch browser path options page) page₂)
        page₂).1 = .ok r

end Browser

section Outcomes
variable {σ : Type} {browser : Browser σ} {path : String} {options : RequestInit} {page : Page σ}
  {r : Response}

theorem request_of_answeredFirst (answered : AnsweredFirst browser path options page r)
    (other : r.status ≠ 401) : (request browser path options page).1 = settle r := by
  unfold AnsweredFirst at answered
  unfold request
  cases fetched : browser.fetch (firstFetch browser path options page) page with
  | mk result page' =>
      rw [fetched] at answered
      obtain rfl : result = .ok r := answered
      simp [fetched, other]

theorem request_of_answeredRetry (answered : AnsweredRetry browser path options page r) :
    (request browser path options page).1 = settleRetry r := by
  obtain ⟨response, page₁, page₂, first, unauthorized, token, refreshed, retried⟩ := answered
  unfold request
  cases fetched : browser.fetch
      (retryFetch browser (firstFetch browser path options page) page₂) page₂ with
  | mk result page' =>
      rw [fetched] at retried
      obtain rfl : result = .ok r := retried
      simp [first, unauthorized, token, refreshed, fetched]

/-- The two copies differ in 204 only. -/
theorem settle_eq_settleRetry_iff : settle r = settleRetry r ↔ r.status ≠ 204 := by
  constructor
  · intro same empty
    have good : r.ok = true := by
      rw [Response.ok, empty]
      rfl
    cases read : r.json with
    | error e => simp [settle, settleRetry, good, empty, read, Except.map] at same
    | ok body => simp [settle, settleRetry, good, empty, read, Except.map] at same
  · intro full
    simp [settle, settleRetry, full]

end Outcomes

/-- Apart from 204, a response settles the request alike as the first answer and as that to the
retry. -/
theorem request_agrees_iff {σ τ : Type} (browser : Browser σ) (browser' : Browser τ)
    (path : String) (options : RequestInit) (page : Page σ) (page' : Page τ) (r : Response)
    (other : r.status ≠ 401) (direct : AnsweredFirst browser path options page r)
    (retried : AnsweredRetry browser' path options page' r) :
    (request browser path options page).1 = (request browser' path options page').1 ↔
      r.status ≠ 204 := by
  rw [request_of_answeredFirst direct other, request_of_answeredRetry retried]
  exact settle_eq_settleRetry_iff

/-! ## Answers in a row -/

/-- A server with its answers given. -/
def scripted : Browser (List Response) where
  viteApiBaseUrl := none
  stringify _ := "\x7b\x7d"
  text _ := "token"
  fetch _ page := match page.rest with
    | [] => (.error .network, page)
    | response :: rest => (.ok response, { page with rest })
  refreshed page := (false, page)
  setSecureToken := none

def withSession (answers : List Response) : Page (List Response) :=
  ⟨⟨some (.str "access"), some (.str "refresh"), false, false⟩, answers⟩

def unauthorized : Response := ⟨401, "Unauthorized", .ok (.obj [("detail", .str "Expired")])⟩

def renewed : Response :=
  ⟨200, "OK", .ok (.obj [("access_token", .str "access2"), ("refresh_token", .str "refresh2")])⟩

def missing : Response := ⟨404, "Not Found", .error .syntaxError⟩

def noContent : Response := ⟨204, "No Content", .error .syntaxError⟩

def DELETE : RequestInit := ⟨some "DELETE", [], none⟩

theorem request_agrees_missing :
    (request scripted "/api/v1/jobs/7" DELETE (withSession [missing])).1 =
      (request scripted "/api/v1/jobs/7" DELETE
        (withSession [unauthorized, renewed, missing])).1 := by
  have direct : AnsweredFirst scripted "/api/v1/jobs/7" DELETE (withSession [missing]) missing :=
    rfl
  have retried : AnsweredRetry scripted "/api/v1/jobs/7" DELETE
      (withSession [unauthorized, renewed, missing]) missing :=
    ⟨unauthorized, _, _, rfl, rfl, by decide, rfl, rfl⟩
  exact (request_agrees_iff scripted scripted _ _ _ _ missing (by decide) direct retried).mpr
    (by decide)

/-- The job is deleted in both cases. -/
theorem retried_noContent_throws :
    (request scripted "/api/v1/jobs/7" DELETE (withSession [noContent])).1 = .ok none ∧
      (request scripted "/api/v1/jobs/7" DELETE
        (withSession [unauthorized, renewed, noContent])).1 = .error .syntaxError :=
  ⟨rfl, rfl⟩

end RenderTrust.Frontend
