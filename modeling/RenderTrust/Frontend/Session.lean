import Mathlib.Data.Int.Notation
import Mathlib.Data.Nat.Notation
import RenderTrust.Lib.Tasks

/-!
# `frontend/src/contexts/AuthContext.tsx` and `frontend/src/lib/api.ts`

The session of the desktop app, once it was restored: the tokens in memory, those in the secure
storage of Electron, and the user. A step is what runs between two awaits. The main process serves
the calls of the storage in the order in which they are made, so what a call writes is written when
it is made, if it is written at all; its promise is rejected where it is not.
-/
namespace RenderTrust.Frontend
open Lib Lib.Tasks

structure TokenPair where
  accessToken : String
  refreshToken : String
  deriving DecidableEq, Repr

structure User where
  email : String
  deriving DecidableEq, Repr

/-- What `decodeJwtPayload` finds in a token. -/
structure JwtPayload where
  sub : Option String
  email : Option String
  exp : Option ℤ
  deriving DecidableEq, Repr

def truthy (s : String) : Bool := s ≠ ""

def REFRESH_MARGIN_SECONDS : ℤ := 60

section Tokens
variable (decodeJwtPayload : String → Option JwtPayload)

def userFromToken (token : String) : Option User :=
  (decodeJwtPayload token).map fun payload =>
    ⟨((payload.sub.filter truthy).or (payload.email.filter truthy)).getD ""⟩

def secondsUntilExpiry (now : ℤ) (token : String) : ℤ :=
  match (decodeJwtPayload token).bind JwtPayload.exp with
  | some exp => max 0 (exp - now)
  | none => 0

end Tokens

/-- What the logout that was called since the last login or register has cleared. -/
structure Cleared where
  memory : Bool
  access : Bool
  refresh : Bool
  user : Bool
  deriving DecidableEq, Repr

def Cleared.nothing : Cleared := ⟨false, false, false, false⟩

def Cleared.join (a b : Cleared) : Cleared :=
  ⟨a.memory || b.memory, a.access || b.access, a.refresh || b.refresh, a.user || b.user⟩

/-- The variables of the two modules, the storage and the state of the provider. A promise of
`doRefresh` in `api.ts` is called like the request that made it; `logins` counts the calls of login
and register. -/
structure App (ι : Type) where
  accessToken : Option String
  refreshToken : Option String
  isRefreshing : Bool
  refreshPromise : Option ι
  resolved : ι → Option Bool
  storedAccess : Option String
  storedRefresh : Option String
  user : Option User
  refreshTimer : Bool
  cleared : Cleared
  logins : ℕ

/-- Awaits of `persistTokens`, or of the same in `api.ts`, and of the tokens before them; a call of
the storage is written or not. -/
inductive Renewal where
  | parsing
  | access (tokens : TokenPair) (written : Bool)
  | refresh (tokens : TokenPair) (written : Bool)
  deriving DecidableEq, Repr

/-- Awaits of `deletePersistedTokens`. -/
inductive Deletion where
  | access (written : Bool)
  | refresh (written : Bool)
  deriving DecidableEq, Repr

/-- Awaits of `request`; `attemptTokenRefresh` and `doRefresh` of `api.ts` are called in it. -/
inductive RequestPoint (ι : Type) where
  | fetching
  | renewFetching
  | renewing (renewal : Renewal)
  | resolving (result : Bool)
  | awaiting (promise : ι)
  | returned (result : Bool)
  | retrying
  deriving DecidableEq, Repr

/-- What a task is at. `signing` is what `doRefresh` of the provider, login and register do with
a pair of tokens. -/
inductive Activity (ι : Type) where
  | idle
  | refreshing
  | dropping (deletion : Deletion)
  | signing (renewal : Renewal)
  | requesting (login : Bool) (point : RequestPoint ι)
  | loggingOut (logins : ℕ) (deletion : Deletion)
  | loggedOut (logins : ℕ)
  | done
  deriving DecidableEq, Repr

inductive Answer where
  | rejected
  | response (status : ℕ)
  | tokens (pair : TokenPair)
  | resolved
  deriving DecidableEq, Repr

inductive Call where
  | refreshTimer
  | request
  | login
  | logout
  deriving DecidableEq, Repr

/-- A step: `written` is for the call of the storage that it makes, `now` is in seconds. -/
inductive Action where
  | call (call : Call) (written : Bool)
  | resume (answer : Answer) (written : Bool) (now : ℤ)
  deriving DecidableEq, Repr

def responseOk (status : ℕ) : Bool := 200 ≤ status ∧ status ≤ 299

namespace App
variable {ι : Type} (app : App ι)

def setTokens (tokens : TokenPair) : App ι :=
  { app with accessToken := some tokens.accessToken, refreshToken := some tokens.refreshToken }

def clearTokens : App ι := { app with accessToken := none, refreshToken := none }

def storeAccess (tokens : TokenPair) (written : Bool) : App ι :=
  if written then { app with storedAccess := some tokens.accessToken } else app

def storeRefresh (tokens : TokenPair) (written : Bool) : App ι :=
  if written then { app with storedRefresh := some tokens.refreshToken } else app

def deleteAccess (written : Bool) : App ι :=
  if written then { app with storedAccess := none } else app

def deleteRefresh (written : Bool) : App ι :=
  if written then { app with storedRefresh := none } else app

section Fields
variable (tokens : TokenPair) (written : Bool)

@[simp] theorem cleared_setTokens : (app.setTokens tokens).cleared = app.cleared := rfl

@[simp] theorem logins_setTokens : (app.setTokens tokens).logins = app.logins := rfl

@[simp] theorem cleared_clearTokens : app.clearTokens.cleared = app.cleared := rfl

@[simp] theorem logins_clearTokens : app.clearTokens.logins = app.logins := rfl

@[simp] theorem cleared_storeAccess : (app.storeAccess tokens written).cleared = app.cleared := by
  cases written <;> rfl

@[simp] theorem logins_storeAccess : (app.storeAccess tokens written).logins = app.logins := by
  cases written <;> rfl

@[simp] theorem cleared_storeRefresh : (app.storeRefresh tokens written).cleared = app.cleared := by
  cases written <;> rfl

@[simp] theorem logins_storeRefresh : (app.storeRefresh tokens written).logins = app.logins := by
  cases written <;> rfl

@[simp] theorem cleared_deleteAccess : (app.deleteAccess written).cleared = app.cleared := by
  cases written <;> rfl

@[simp] theorem logins_deleteAccess : (app.deleteAccess written).logins = app.logins := by
  cases written <;> rfl

@[simp] theorem cleared_deleteRefresh : (app.deleteRefresh written).cleared = app.cleared := by
  cases written <;> rfl

@[simp] theorem logins_deleteRefresh : (app.deleteRefresh written).logins = app.logins := by
  cases written <;> rfl

end Fields

/-- A logout that no login has come after has cleared the parts. -/
def mark (logins : ℕ) (parts : Cleared) : App ι :=
  if logins = app.logins then { app with cleared := app.cleared.join parts } else app

/-- `doRefresh` of the provider up to its first await. -/
def doRefresh : App ι × Activity ι :=
  if app.refreshToken.any truthy then (app, .refreshing) else (app, .done)

/-- Nothing follows the call, so the task goes on as the refresh that it starts. -/
def scheduleRefresh (decodeJwtPayload : String → Option JwtPayload) (now : ℤ) :
    App ι × Activity ι :=
  let app := { app with refreshTimer := false }
  match app.accessToken.filter truthy with
  | none => (app, .done)
  | some token =>
      if secondsUntilExpiry decodeJwtPayload now token ≤ REFRESH_MARGIN_SECONDS then doRefresh app
      else ({ app with refreshTimer := true }, .done)

/-- The promise of `doRefresh` of `api.ts`, made by the request, is resolved. -/
def resolve [DecidableEq ι] (i : ι) (result : Bool) (login : Bool) : App ι × Activity ι :=
  ({ app with resolved := Function.update app.resolved i (some result) },
    .requesting login (.resolving result))

/-- `attemptTokenRefresh` up to its first await. -/
def attemptTokenRefresh (i : ι) (login : Bool) : App ι × Activity ι :=
  match app.isRefreshing, app.refreshPromise with
  | true, some promise => (app, .requesting login (.awaiting promise))
  | _, _ =>
      ({ app with isRefreshing := true, refreshPromise := some i },
        .requesting login .renewFetching)

end App

section Steps
variable {ι : Type} [DecidableEq ι] (decodeJwtPayload : String → Option JwtPayload) (i : ι)
  (app : App ι)

/-- Tokens are read and stored by the provider; the error of a promise ends the task. -/
def resumeSigning (answer : Answer) (written : Bool) (now : ℤ) :
    Renewal → Option (App ι × Activity ι)
  | .parsing =>
      match answer with
      | .tokens tokens =>
          some ((app.setTokens tokens).storeAccess tokens written,
            .signing (.access tokens written))
      | .rejected => some (app, .done)
      | _ => none
  | .access tokens true =>
      some (app.storeRefresh tokens written, .signing (.refresh tokens written))
  | .refresh tokens true =>
      some (App.scheduleRefresh
        { app with user := userFromToken decodeJwtPayload tokens.accessToken } decodeJwtPayload now)
  | .access _ false | .refresh _ false => some (app, .done)

/-- `doRefresh` of the provider after its `fetch`. -/
def resumeRefreshing (answer : Answer) (written : Bool) : Option (App ι × Activity ι) :=
  match answer with
  | .response status =>
      if responseOk status then some (app, .signing .parsing)
      else some (app.clearTokens.deleteAccess written, .dropping (.access written))
  | .rejected => some (app, .done)
  | _ => none

def resumeDropping (written : Bool) : Deletion → Option (App ι × Activity ι)
  | .access true => some (app.deleteRefresh written, .dropping (.refresh written))
  | .refresh true => some ({ app with user := none }, .done)
  | .access false | .refresh false => some (app, .done)

/-- `doRefresh` of `api.ts` after its `fetch`. -/
def resumeRenewing (answer : Answer) (written login : Bool) :
    Renewal → Option (App ι × Activity ι)
  | .parsing =>
      match answer with
      | .tokens tokens =>
          some ((app.setTokens tokens).storeAccess tokens written,
            .requesting login (.renewing (.access tokens written)))
      | .rejected => some (app.resolve i false login)
      | _ => none
  | .access tokens true =>
      some (app.storeRefresh tokens written,
        .requesting login (.renewing (.refresh tokens written)))
  | .refresh _ true => some (app.resolve i true login)
  | .access _ false | .refresh _ false => some (app.resolve i false login)

/-- A response that is not 401, or that of the retry: a login goes on with its tokens. -/
def respond (login : Bool) (status : ℕ) : App ι × Activity ι :=
  if responseOk status && login then (app, .signing .parsing) else (app, .done)

def resumeRequest (answer : Answer) (written login : Bool) :
    RequestPoint ι → Option (App ι × Activity ι)
  | .fetching =>
      match answer with
      | .response status =>
          if status = 401 && app.refreshToken.any truthy then
            some (app.attemptTokenRefresh i login)
          else some (respond app login status)
      | .rejected => some (app, .done)
      | _ => none
  | .renewFetching =>
      match answer with
      | .response status =>
          if responseOk status then some (app, .requesting login (.renewing .parsing))
          else some (app.resolve i false login)
      | .rejected => some (app.resolve i false login)
      | _ => none
  | .renewing renewal => resumeRenewing i app answer written login renewal
  | .resolving result =>
      some ({ app with isRefreshing := false, refreshPromise := none },
        .requesting login (.returned result))
  | .awaiting promise =>
      (app.resolved promise).map fun result => (app, .requesting login (.returned result))
  | .returned true => some (app, .requesting login .retrying)
  | .returned false => some (app.clearTokens, .done)
  | .retrying =>
      match answer with
      | .response status => some (respond app login status)
      | .rejected => some (app, .done)
      | _ => none

def resumeLogout (written : Bool) (logins : ℕ) : Deletion → Option (App ι × Activity ι)
  | .access true =>
      some ((app.deleteRefresh written).mark logins ⟨true, true, written, false⟩,
        .loggingOut logins (.refresh written))
  | .refresh true =>
      some (App.mark { app with user := none } logins ⟨true, true, true, true⟩, .loggedOut logins)
  | .access false | .refresh false => some (app, .done)

def startCall (written : Bool) : Call → Option (App ι × Activity ι)
  | .refreshTimer =>
      if app.refreshTimer then some (App.doRefresh { app with refreshTimer := false }) else none
  | .request => some (app, .requesting false .fetching)
  | .login =>
      some ({ app with cleared := .nothing, logins := app.logins + 1 }, .requesting true .fetching)
  | .logout =>
      let app := ({ app with refreshTimer := false }.clearTokens).deleteAccess written
      some (app.mark app.logins ⟨true, written, false, false⟩,
        .loggingOut app.logins (.access written))

/-- Any number of requests, refreshes and logouts at a time. -/
def session : Program ι (App ι) (Activity ι) Action Empty where
  act i action app activity :=
    match action, activity with
    | .call call written, .idle => startCall app written call
    | .resume answer written _, .refreshing => resumeRefreshing app answer written
    | .resume _ written _, .dropping deletion => resumeDropping app written deletion
    | .resume answer written now, .signing renewal =>
        resumeSigning decodeJwtPayload app answer written now renewal
    | .resume answer written _, .requesting login point =>
        resumeRequest i app answer written login point
    | .resume _ written _, .loggingOut logins deletion =>
        resumeLogout app written logins deletion
    | _, _ => none
  change := nofun

end Steps

end RenderTrust.Frontend
