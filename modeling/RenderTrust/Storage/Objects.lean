import Mathlib.Logic.Function.Basic
import RenderTrust.Lib.ByteString
import RenderTrust.Lib.Cells
import RenderTrust.Lib.Runs
import RenderTrust.Storage.Keys

/-!
# The objects of `core/storage/service.py`

The service over an S3 client. The client is a parameter; what it does to the objects of the
bucket is stated as `ObjectStore`, where a call that fails may still have been carried out.
-/
namespace RenderTrust.Storage
open Lib.ByteString Lib.Cells Lib.Runs

/-- What a call of the client raises: a `ClientError` with its error code, or another exception. -/
inductive S3Error where
  | clientError (code : Option String) (text : String)
  | other (text : String)
  deriving DecidableEq, Repr

inductive StorageError where
  | storageError (message : String)
  | uploadError (message : String)
  | downloadError (message : String)
  | deleteError (message : String)
  | keyError (e : StorageKeyError)
  | valueError (message : String)
  | other (text : String)
  deriving DecidableEq, Repr

structure S3Client (σ : Type) where
  putObject : σ → String → Bytes → String → Except S3Error Unit × σ
  getObject : σ → String → Except S3Error Bytes × σ
  deleteObject : σ → String → Except S3Error Unit × σ
  headObject : σ → String → Except S3Error Unit × σ
  generatePresignedUrl : String → ℤ → Except S3Error String

namespace StorageService
variable {σ : Type} (client : S3Client σ)

/-- `except ClientError as exc: raise …`; other exceptions pass. -/
def mapClientError {α : Type} (error : String → StorageError) (opening : String) :
    Except S3Error α → Except StorageError α
  | .ok a => .ok a
  | .error (.clientError _ text) => .error (error (opening ++ text))
  | .error (.other text) => .error (.other text)

/-- A method that validates the key first. -/
def withKey {α : Type} (s : σ) (key : String) (call : Except StorageError α × σ) :
    Except StorageError α × σ :=
  match validateKey key with
  | .error e => (.error (.keyError e), s)
  | .ok () => call

def uploadFile (s : σ) (key : String) (data : Bytes) (contentType : String) :
    Except StorageError String × σ :=
  withKey s key
    ((client.putObject s key data contentType).map (fun result =>
      (mapClientError .uploadError ("Failed to upload '" ++ key ++ "': ") result).map fun _ => key)
      id)

def downloadFile (s : σ) (key : String) : Except StorageError Bytes × σ :=
  withKey s key
    ((client.getObject s key).map
      (mapClientError .downloadError ("Failed to download '" ++ key ++ "': ")) id)

def deleteFile (s : σ) (key : String) : Except StorageError Unit × σ :=
  withKey s key
    ((client.deleteObject s key).map
      (mapClientError .deleteError ("Failed to delete '" ++ key ++ "': ")) id)

def missingCodes : List String := ["404", "NoSuchKey"]

/-- What `head_object` says about the existence of an object. -/
def existence (key : String) : Except S3Error Unit → Except StorageError Bool
  | .ok () => .ok true
  | .error (.clientError code text) =>
      if code.getD "Unknown" ∈ missingCodes then .ok false
      else .error (.storageError ("Failed to check existence of '" ++ key ++ "': " ++ text))
  | .error (.other text) => .error (.other text)

def fileExists (s : σ) (key : String) : Except StorageError Bool × σ :=
  withKey s key ((client.headObject s key).map (existence key) id)

def maxExpiry : ℤ := 86400

def generatePresignedUrl (key : String) (expiresIn : ℤ) : Except StorageError String :=
  match validateKey key with
  | .error e => .error (.keyError e)
  | .ok () =>
      if expiresIn ≤ 0 then .error (.valueError "expires_in must be a positive integer")
      else if expiresIn > maxExpiry then
        .error (.valueError "expires_in must not exceed 86400 seconds (24 hours)")
      else mapClientError .storageError
        ("Failed to generate presigned URL for '" ++ key ++ "': ")
        (client.generatePresignedUrl key expiresIn)

end StorageService

open StorageService

/-! ## Requests of users -/

/-- An object of a user, under the components of its key. -/
structure Name where
  userId : String
  jobId : String
  filename : String
  deriving DecidableEq, Repr

inductive Operation where
  | upload (data : Bytes) (contentType : String)
  | download
  | delete
  | fileExists
  deriving DecidableEq, Repr

inductive Answer where
  | uploaded (key : String)
  | downloaded (data : Bytes)
  | deleted
  | found (there : Bool)
  | raised (e : StorageError)
  deriving DecidableEq, Repr

def answerOf {α : Type} (answer : α → Answer) : Except StorageError α → Answer
  | .ok a => answer a
  | .error e => .raised e

structure Request where
  name : Name
  operation : Operation
  deriving DecidableEq, Repr

def Name.key (name : Name) : Except StorageKeyError String :=
  buildKey name.userId name.jobId name.filename

section Serving
variable {σ : Type} (client : S3Client σ)

def perform (s : σ) (key : String) : Operation → Answer × σ
  | .upload data contentType =>
      (uploadFile client s key data contentType).map (answerOf .uploaded) id
  | .download => (downloadFile client s key).map (answerOf .downloaded) id
  | .delete => (deleteFile client s key).map (answerOf fun _ => .deleted) id
  | .fileExists => (fileExists client s key).map (answerOf .found) id

/-- A request under a key that `build_key` forms. -/
def serve (s : σ) (request : Request) : Answer × σ :=
  match request.name.key with
  | .error e => (.raised (.keyError e), s)
  | .ok key => perform client s key request.operation

/-- What a request and its answer say about the object. -/
def effect (request : Request) (answer : Answer) : Effect Name Bytes :=
  match request.operation, answer with
  | _, .raised (.keyError _) => .nothing
  | .upload data _, .uploaded _ => .write request.name (some data)
  | .upload data _, .raised _ => .perhaps request.name (some data)
  | .delete, .deleted => .write request.name none
  | .delete, .raised _ => .perhaps request.name none
  | _, _ => .nothing

structure Exchange where
  request : Request
  answer : Answer
  deriving DecidableEq, Repr

def Exchange.effect (x : Exchange) : Effect Name Bytes := Storage.effect x.request x.answer

structure Desk (σ : Type) where
  objects : σ
  log : List Exchange

def handle (s : Desk σ) (request : Request) : Option (Desk σ) :=
  let served := serve client s.objects request
  some ⟨served.2, ⟨request, served.1⟩ :: s.log⟩

/-! ## Object stores -/

/-- What a call has done to the objects: certainly when it returned, perhaps when it raised. -/
def Wrote {α : Type} (content : σ → String → Option Bytes) (s : σ) (key : String)
    (written : Option Bytes) (call : Except S3Error α × σ) : Prop :=
  content call.2 = Function.update (content s) key written ∨
    (call.1.toBool = false ∧ content call.2 = content s)

structure ObjectStore (content : σ → String → Option Bytes) : Prop where
  put : ∀ s key data contentType,
    Wrote content s key (some data) (client.putObject s key data contentType)
  get : ∀ s key, content (client.getObject s key).2 = content s ∧
    ∀ data, (client.getObject s key).1 = .ok data → content s key = some data
  delete : ∀ s key, Wrote content s key none (client.deleteObject s key)
  head : ∀ s key, content (client.headObject s key).2 = content s ∧
    ((client.headObject s key).1 = .ok () → (content s key).isSome) ∧
    ∀ code text, (client.headObject s key).1 = .error (.clientError code text) →
      code.getD "Unknown" ∈ missingCodes → content s key = none

end Serving

section Served
variable {σ : Type} {client : S3Client σ} {content : σ → String → Option Bytes}

/-- What an operation under a valid key does to the objects, as the log tells it. -/
inductive Done (content : σ → String → Option Bytes) (s : σ) (name : Name) (key : String) :
    Effect Name Bytes → σ → Prop
  | nothing {t : σ} : content t = content s → Done content s name key .nothing t
  | written {t : σ} (data : Option Bytes) : content t = Function.update (content s) key data →
      Done content s name key (.write name data) t
  | perhaps {t : σ} (data : Option Bytes) : content t = content s ∨
      content t = Function.update (content s) key data →
      Done content s name key (.perhaps name data) t

theorem withKey_eq {α : Type} {s : σ} {key : String} (valid : validateKey key = .ok ())
    (call : Except StorageError α × σ) : withKey s key call = call := by
  unfold withKey
  rw [valid]

theorem perform_upload (store : ObjectStore client content) (s : σ) {name : Name} {key : String}
    (valid : validateKey key = .ok ()) (data : Bytes) (contentType : String) :
    let done := perform client s key (.upload data contentType)
    Done content s name key (effect ⟨name, .upload data contentType⟩ done.1) done.2 := by
  have wrote := store.put s key data contentType
  rw [perform, uploadFile, withKey_eq valid]
  generalize client.putObject s key data contentType = called at wrote ⊢
  cases called with
  | mk result t =>
      cases result with
      | ok u =>
          rcases wrote with written | ⟨raised, -⟩
          · exact .written (some data) written
          · cases raised
      | error e =>
          have either := wrote.symm.imp_left And.right
          cases e with
          | clientError code text => exact .perhaps (some data) either
          | other text => exact .perhaps (some data) either

theorem perform_delete (store : ObjectStore client content) (s : σ) {name : Name} {key : String}
    (valid : validateKey key = .ok ()) :
    let done := perform client s key .delete
    Done content s name key (effect ⟨name, .delete⟩ done.1) done.2 := by
  have wrote := store.delete s key
  rw [perform, deleteFile, withKey_eq valid]
  generalize client.deleteObject s key = called at wrote ⊢
  cases called with
  | mk result t =>
      cases result with
      | ok u =>
          rcases wrote with written | ⟨raised, -⟩
          · exact .written none written
          · cases raised
      | error e =>
          have either := wrote.symm.imp_left And.right
          cases e with
          | clientError code text => exact .perhaps none either
          | other text => exact .perhaps none either

theorem perform_download (store : ObjectStore client content) (s : σ) {key : String}
    (valid : validateKey key = .ok ()) :
    let done := perform client s key .download
    (∀ name, Done content s name key (effect ⟨name, .download⟩ done.1) done.2) ∧
      ∀ data, done.1 = .downloaded data → content s key = some data := by
  have got := store.get s key
  rw [perform, downloadFile, withKey_eq valid]
  generalize client.getObject s key = called at got ⊢
  cases called with
  | mk result t =>
      obtain ⟨kept, read⟩ := got
      cases result with
      | ok bytes =>
          refine ⟨fun _ => .nothing kept, ?_⟩
          rintro data answered
          cases answered
          exact read bytes rfl
      | error e =>
          cases e with
          | clientError code text => exact ⟨fun _ => .nothing kept, nofun⟩
          | other text => exact ⟨fun _ => .nothing kept, nofun⟩

theorem perform_exists (store : ObjectStore client content) (s : σ) {key : String}
    (valid : validateKey key = .ok ()) :
    let done := perform client s key .fileExists
    (∀ name, Done content s name key (effect ⟨name, .fileExists⟩ done.1) done.2) ∧
      ∀ there, done.1 = .found there → (content s key).isSome = there := by
  have headed := store.head s key
  rw [perform, fileExists, withKey_eq valid]
  generalize client.headObject s key = called at headed ⊢
  cases called with
  | mk result t =>
      obtain ⟨kept, present, missing⟩ := headed
      cases result with
      | ok u =>
          refine ⟨fun _ => .nothing kept, ?_⟩
          rintro there answered
          cases answered
          exact present rfl
      | error e =>
          cases e with
          | clientError code text =>
              change (∀ name, Done content s name key
                  (effect _ (answerOf .found (existence key _))) t) ∧
                ∀ there, answerOf .found (existence key _) = .found there → _
              unfold existence
              by_cases absent : code.getD "Unknown" ∈ missingCodes
              · simp only [if_pos absent]
                refine ⟨fun _ => .nothing kept, ?_⟩
                rintro there answered
                cases answered
                rw [missing code text rfl absent]
                rfl
              · simp only [if_neg absent]
                exact ⟨fun _ => .nothing kept, nofun⟩
          | other text => exact ⟨fun _ => .nothing kept, nofun⟩

theorem perform_done (store : ObjectStore client content) (s : σ) {name : Name} {key : String}
    (valid : validateKey key = .ok ()) (operation : Operation) :
    let done := perform client s key operation
    Done content s name key (effect ⟨name, operation⟩ done.1) done.2 := by
  cases operation with
  | upload data contentType => exact perform_upload store s valid data contentType
  | download => exact (perform_download store s valid).1 name
  | delete => exact perform_delete store s valid
  | fileExists => exact (perform_exists store s valid).1 name

/-- A key belongs to one name. -/
theorem Name.key_injective {name name' : Name} {key : String} (h : name.key = .ok key)
    (h' : name'.key = .ok key) : name = name' := by
  have same : [name.userId, name.jobId, name.filename] =
      [name'.userId, name'.jobId, name'.filename] := by
    rw [← split_build h, ← split_build h']
  simp only [List.cons.injEq, and_true] at same
  obtain ⟨user, job, filename⟩ := same
  cases name
  cases name'
  simp only [Name.mk.injEq]
  exact ⟨user, job, filename⟩

/-- Every object holds what the log says it may hold. -/
def Agrees (content : σ → String → Option Bytes) (s : Desk σ) : Prop :=
  ∀ name key, name.key = .ok key →
    Possible (s.log.map Exchange.effect) name (content s.objects key)

theorem Agrees.done {s : Desk σ} {t : σ} {request : Request} {answer : Answer} {key : String}
    (agrees : Agrees content s) (named : request.name.key = .ok key)
    (done : Done content s.objects request.name key (effect request answer) t) :
    Agrees content ⟨t, ⟨request, answer⟩ :: s.log⟩ := by
  intro name key' named'
  change Possible (effect request answer :: _) name _
  have before := agrees name key' named'
  generalize effect request answer = changed at done ⊢
  by_cases same : key' = key
  · subst same
    obtain rfl : request.name = name := Name.key_injective named named'
    cases done with
    | nothing kept =>
        rw [kept]
        exact before
    | written data wrote =>
        rw [wrote, Function.update_self, Possible, if_pos rfl]
    | perhaps data either =>
        rcases either with kept | wrote
        · rw [kept]
          exact .inr before
        · rw [wrote, Function.update_self]
          exact .inl ⟨rfl, rfl⟩
  · have other : request.name ≠ name := by
      rintro rfl
      rw [named] at named'
      exact same (Except.ok.inj named').symm
    cases done with
    | nothing kept =>
        rw [kept]
        exact before
    | written data wrote =>
        rw [wrote, Function.update_of_ne same, Possible, if_neg other]
        exact before
    | perhaps data either =>
        right
        rcases either with kept | wrote
        · rw [kept]
          exact before
        · rw [wrote, Function.update_of_ne same]
          exact before

/-- The earlier requests of the user. -/
def ownLog (userId : String) (log : List Exchange) : List Exchange :=
  log.filter fun x => x.request.name.userId = userId

theorem possible_ownLog (name : Name) (log : List Exchange) (held : Option Bytes) :
    Possible ((ownLog name.userId log).map Exchange.effect) name held ↔
      Possible (log.map Exchange.effect) name held := by
  apply possible_filter
  intro x foreign
  have other : x.request.name ≠ name := by
    rintro rfl
    exact of_decide_eq_false foreign rfl
  unfold Exchange.effect effect
  split <;> simp only [Effect.concerns, decide_eq_false_iff_not, other, not_false_eq_true]

/-- What a user is answered fits the requests the same user has made before. -/
structure Fits (x : Exchange) (own : List Exchange) : Prop where
  downloaded : ∀ data, x.answer = .downloaded data →
    Possible (own.map Exchange.effect) x.request.name (some data)
  found : ∀ there, x.answer = .found there →
    ∃ held, Possible (own.map Exchange.effect) x.request.name held ∧ held.isSome = there
  last : (∀ y ∈ own, y.effect.uncertain x.request.name = false) →
    ∀ data, x.answer = .downloaded data →
      confirmed (own.map Exchange.effect) x.request.name = some data

theorem answerOf_ne {α : Type} {answer : α → Answer} {wanted : Answer}
    (never : ∀ a, answer a ≠ wanted) (returned : ∀ e, .raised e ≠ wanted)
    (result : Except StorageError α) : answerOf answer result ≠ wanted := by
  cases result with
  | ok a => exact never a
  | error e => exact returned e

/-- What an operation reads is what the object holds. -/
theorem perform_answer (store : ObjectStore client content) (s : σ) {key : String}
    (valid : validateKey key = .ok ()) (operation : Operation) :
    (∀ data, (perform client s key operation).1 = .downloaded data →
      content s key = some data) ∧
    ∀ there, (perform client s key operation).1 = .found there →
      (content s key).isSome = there := by
  cases operation with
  | upload | delete =>
      constructor
      · intro data answered
        exact absurd answered (answerOf_ne (by simp) (by simp) _)
      · intro there answered
        exact absurd answered (answerOf_ne (by simp) (by simp) _)
  | download =>
      refine ⟨(perform_download store s valid).2, ?_⟩
      intro there answered
      exact absurd answered (answerOf_ne (by simp) (by simp) _)
  | fileExists =>
      refine ⟨?_, (perform_exists store s valid).2⟩
      intro data answered
      exact absurd answered (answerOf_ne (by simp) (by simp) _)

theorem serve_answer {s : Desk σ} (store : ObjectStore client content)
    (agrees : Agrees content s) (request : Request) :
    (∀ data, (serve client s.objects request).1 = .downloaded data →
      Possible (s.log.map Exchange.effect) request.name (some data)) ∧
    ∀ there, (serve client s.objects request).1 = .found there →
      ∃ held, Possible (s.log.map Exchange.effect) request.name held ∧ held.isSome = there := by
  unfold serve
  cases named : request.name.key with
  | error e => exact ⟨nofun, nofun⟩
  | ok key =>
      have possible := agrees request.name key named
      obtain ⟨downloaded, found⟩ :=
        perform_answer store s.objects (validateKey_build named) request.operation
      constructor
      · intro data answered
        rw [downloaded data answered] at possible
        exact possible
      · intro there answered
        exact ⟨_, possible, found there answered⟩

theorem Agrees.fits {s : Desk σ} (store : ObjectStore client content) (agrees : Agrees content s)
    (request : Request) :
    Fits ⟨request, (serve client s.objects request).1⟩ (ownLog request.name.userId s.log) := by
  obtain ⟨downloaded, found⟩ := serve_answer store agrees request
  have read : ∀ data, (serve client s.objects request).1 = .downloaded data →
      Possible ((ownLog request.name.userId s.log).map Exchange.effect) request.name
        (some data) :=
    fun data answered => (possible_ownLog _ _ _).mpr (downloaded data answered)
  constructor
  · exact read
  · intro there answered
    obtain ⟨held, possible, same⟩ := found there answered
    exact ⟨held, (possible_ownLog _ _ _).mpr possible, same⟩
  · intro certain data answered
    have certain' : ∀ done ∈ (ownLog request.name.userId s.log).map Exchange.effect,
        done.uncertain request.name = false := by
      intro done member
      obtain ⟨y, mine, rfl⟩ := List.mem_map.mp member
      exact certain y mine
    exact ((possible_iff_of_certain certain' _).mp (read data answered)).symm

/-- A desk whose users have been answered as their own requests allow. -/
structure Kept (content : σ → String → Option Bytes) (s : Desk σ) : Prop where
  agrees : Agrees content s
  fits : ∀ newer x older, s.log = newer ++ x :: older → Fits x (ownLog x.request.name.userId older)

theorem Agrees.serve {s : Desk σ} (store : ObjectStore client content)
    (agrees : Agrees content s) (request : Request) :
    Agrees content ⟨(serve client s.objects request).2,
      ⟨request, (serve client s.objects request).1⟩ :: s.log⟩ := by
  unfold Storage.serve
  cases named : request.name.key with
  | error e => exact agrees
  | ok key =>
      exact agrees.done named
        (perform_done store s.objects (validateKey_build named) request.operation)

theorem Kept.handle {s t : Desk σ} (store : ObjectStore client content) (kept : Kept content s)
    {request : Request} (handled : handle client s request = some t) : Kept content t := by
  obtain rfl := Option.some.inj handled
  constructor
  · exact kept.agrees.serve store request
  · intro newer x older split
    cases newer with
    | nil =>
        obtain ⟨rfl, rfl⟩ := List.cons.inj split
        exact kept.agrees.fits store request
    | cons first newer =>
        obtain ⟨-, split⟩ := List.cons.inj split
        exact kept.fits newer x older split

theorem fits_of_run {objects : σ} {requests : List Request} {t : Desk σ}
    (store : ObjectStore client content) (empty : ∀ key, content objects key = none)
    (run : Run (Storage.handle client) Always ⟨objects, []⟩ requests t) :
    ∀ newer x older, t.log = newer ++ x :: older →
      Fits x (ownLog x.request.name.userId older) := by
  have initial : Kept content ⟨objects, []⟩ := by
    constructor
    · intro name key _
      exact empty key
    · intro newer x older split
      exact absurd split.symm (List.append_ne_nil_of_right_ne_nil newer (List.cons_ne_nil x older))
  have kept : Kept content t := by
    apply Run.invariant (I := Kept content) _ run initial
    intro s request t kept _ handled
    exact kept.handle store handled
  exact kept.fits

end Served

/-- A bucket in memory. -/
def memoryClient : S3Client (String → Option Bytes) where
  putObject s key data _ := (.ok (), Function.update s key (some data))
  getObject s key :=
    match s key with
    | some data => (.ok data, s)
    | none => (.error (.clientError (some "NoSuchKey") "The specified key does not exist."), s)
  deleteObject s key := (.ok (), Function.update s key none)
  headObject s key :=
    match s key with
    | some _ => (.ok (), s)
    | none => (.error (.clientError (some "404") "Not Found"), s)
  generatePresignedUrl key _ := .ok ("http://localhost:9000/rendertrust/" ++ key)

theorem objectStore_memoryClient : ObjectStore memoryClient id where
  put := fun s key data contentType => .inl rfl
  get := by
    intro s key
    simp only [memoryClient, id]
    cases held : s key with
    | none => exact ⟨rfl, nofun⟩
    | some data => exact ⟨rfl, fun _ read => congrArg some (Except.ok.inj read)⟩
  delete := fun s key => .inl rfl
  head := by
    intro s key
    simp only [memoryClient, id]
    cases held : s key with
    | none => exact ⟨rfl, nofun, fun _ _ _ _ => rfl⟩
    | some data => exact ⟨rfl, fun _ => rfl, nofun⟩

def twoUsers : List Request :=
  [⟨⟨"alice", "job-1", "result"⟩, .upload [1, 2] "text/plain"⟩,
   ⟨⟨"bob", "job-1", "result"⟩, .upload [3] "text/plain"⟩,
   ⟨⟨"alice", "job-1", "result"⟩, .download⟩,
   ⟨⟨"bob", "job-1", "result"⟩, .delete⟩,
   ⟨⟨"alice", "job-1", "result"⟩, .fileExists⟩]

theorem fits_twoUsers : ∃ t : Desk (String → Option Bytes),
    Run (Storage.handle memoryClient) Always ⟨fun _ => none, []⟩ twoUsers t ∧
      ∀ newer x older, t.log = newer ++ x :: older →
        Fits x (ownLog x.request.name.userId older) := by
  obtain ⟨t, run⟩ : ∃ t, Run (Storage.handle memoryClient) Always ⟨fun _ => none, []⟩
      twoUsers t :=
    ⟨_, .cons trivial rfl (.cons trivial rfl (.cons trivial rfl (.cons trivial rfl
      (.cons trivial rfl (.nil _)))))⟩
  exact ⟨t, run, fits_of_run objectStore_memoryClient (fun _ => rfl) run⟩

end RenderTrust.Storage
