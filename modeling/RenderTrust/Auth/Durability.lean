import RenderTrust.Auth.Api
import RenderTrust.Lib.Hoare

/-!
# Whether a registration lasts

The endpoints over any sequence of requests, each with a session of its own. No handler
commits, so every request finds the users that were there before the first one.
-/
namespace RenderTrust.Auth
open Lib Lib.Hoare Lib.Keyed
open Ledger (bindable)

inductive Request (J : Type) where
  | register (payload : RegisterRequest)
  | login (payload : LoginRequest)
  | refresh (payload : RefreshRequest J)
  | logout (token : J)
  | authenticated (token : J)
  deriving DecidableEq

inductive Response (J : Type) where
  | registered (response : RegisterResponse J)
  | tokens (response : TokenResponse J)
  | message (response : MessageResponse)
  | user (user : User)
  | refused (error : AuthError)
  deriving DecidableEq

structure Server where
  users : Users
  redis : List (String × ℕ)
  deriving DecidableEq

section Serve
variable {J : Type} (ext : External J) (settings : Settings)

def replied {α : Type} (f : α → Response J) (handler : AuthM α) (server : Server) :
    Response J × Server :=
  match withSession handler server.users server.redis with
  | (.ok a, users, redis) => (f a, ⟨users, redis⟩)
  | (.error e, users, redis) => (.refused e, ⟨users, redis⟩)

def serve (env : Env) (server : Server) : Request J → Response J × Server
  | .register payload => replied .registered (register ext settings env payload) server
  | .login payload => replied .tokens (login ext settings env payload) server
  | .refresh payload => replied .tokens (refresh ext settings env payload) server
  | .logout token => replied .message (logout ext env token) server
  | .authenticated token => replied .user (getCurrentUser ext env token) server

/-- A request and its response, with what Redis held when it came. -/
structure Exchange (J : Type) where
  env : Env
  request : Request J
  redis : List (String × ℕ)
  response : Response J
  deriving DecidableEq

def transcript : Server → List (Env × Request J) → List (Exchange J)
  | _, [] => []
  | server, (env, request) :: requests =>
      let (response, next) := serve ext settings env server request
      ⟨env, request, server.redis, response⟩ :: transcript next requests

end Serve

/-! ## No handler commits -/

section Keeps
variable {J : Type} {ext : External J} {settings : Settings} {env : Env} {users : Users}

def Committed (users : Users) (w : World) : Prop := w.session.committed = users

theorem keeps_lift {α : Type} (x : Except AuthError α) :
    Keeps (Committed users) (liftM x : AuthM α) := by
  cases x with
  | ok a => exact .ret fun _ h => h
  | error e => exact .raise fun _ h => h

theorem keeps_userByEmail (email : String) : Keeps (Committed users) (userByEmail email) := by
  unfold userByEmail
  refine .ite (fun _ => ?_) (fun _ => .raise fun _ h => h)
  exact .read fun _ h => Triple.start (.ret fun _ h => h) h

theorem keeps_userById (id : Uuid) : Keeps (Committed users) (userById id) :=
  .read fun _ h => Triple.start (.ret fun _ h => h) h

theorem keeps_addUser (user : User) : Keeps (Committed users) (addUser user) := by
  refine .read fun w h => ?_
  cases w.session.working.insert user with
  | ok next => exact Triple.start (.write fun _ h => h) h
  | error e =>
      have undone : Keeps (Committed users) (modify fun w =>
          { w with session := { w.session with working := w.session.committed } } : AuthM Unit) :=
        .write fun _ h => h
      exact Triple.start (.bind undone fun _ => .raise fun _ h => h) h

theorem keeps_isRevoked (jti : String) : Keeps (Committed users) (isRevoked env jti) :=
  .read fun _ h => Triple.start (.ret fun _ h => h) h

theorem keeps_revoke (jti : String) (expiresAt : ℕ) :
    Keeps (Committed users) (revoke env jti expiresAt) := by
  refine .ite (fun _ => .ret fun _ h => h) (fun _ => ?_)
  exact .bind (.write fun w h => h) fun _ => .ret fun _ h => h

theorem keeps_verifyToken (token : J) : Keeps (Committed users) (verifyToken ext env token) := by
  unfold verifyToken
  cases ext.decode token env.seconds with
  | none => exact .raise fun _ h => h
  | some claims =>
      dsimp only
      cases claims.sub with
      | none => exact .raise fun _ h => h
      | some sub =>
          refine .bind (keeps_lift _) fun payload => ?_
          refine .ite (fun _ => .ret fun _ h => h) (fun _ => ?_)
          refine .bind (keeps_isRevoked payload.jti) fun revoked => ?_
          exact .ite (fun _ => .raise fun _ h => h) (fun _ => .ret fun _ h => h)

theorem keeps_getCurrentUser (token : J) :
    Keeps (Committed users) (getCurrentUser ext env token) := by
  refine .bind (keeps_verifyToken token) fun tokenData => ?_
  refine .ite (fun _ => .raise fun _ h => h) (fun _ => ?_)
  cases Uuid.parse tokenData.sub with
  | none => exact .raise fun _ h => h
  | some userId =>
      refine .bind (keeps_userById userId) fun found => ?_
      cases found with
      | none => exact .raise fun _ h => h
      | some user => exact .ite (fun _ => .raise fun _ h => h) (fun _ => .ret fun _ h => h)

theorem keeps_register (payload : RegisterRequest) :
    Keeps (Committed users) (register ext settings env payload) := by
  refine .bind (keeps_userByEmail payload.email) fun found => ?_
  cases found with
  | some user => exact .raise fun _ h => h
  | none =>
      cases ext.hash env.salt payload.password with
      | none => exact .raise fun _ h => h
      | some hashed => exact .bind (keeps_addUser _) fun _ => .ret fun _ h => h

theorem keeps_login (payload : LoginRequest) :
    Keeps (Committed users) (login ext settings env payload) := by
  refine .bind (keeps_userByEmail payload.email) fun found => ?_
  cases found with
  | none => exact .raise fun _ h => h
  | some user =>
      dsimp only
      cases ext.verify payload.password user.hashedPassword with
      | none => exact .raise fun _ h => h
      | some valid =>
          cases valid with
          | false => exact .raise fun _ h => h
          | true => exact .ite (fun _ => .raise fun _ h => h) (fun _ => .ret fun _ h => h)

theorem keeps_refresh (payload : RefreshRequest J) :
    Keeps (Committed users) (refresh ext settings env payload) := by
  refine .bind (keeps_verifyToken payload.refreshToken) fun tokenData => ?_
  refine .ite (fun _ => .raise fun _ h => h) (fun _ => ?_)
  cases Uuid.parse tokenData.sub with
  | none => exact .raise fun _ h => h
  | some userId =>
      refine .bind (keeps_userById userId) fun found => ?_
      cases found with
      | none => exact .raise fun _ h => h
      | some user => exact .ite (fun _ => .raise fun _ h => h) (fun _ => .ret fun _ h => h)

theorem keeps_logout (token : J) : Keeps (Committed users) (logout ext env token) :=
  .bind (keeps_verifyToken token) fun tokenData =>
    .bind (keeps_revoke tokenData.jti tokenData.exp) fun _ => .ret fun _ h => h

theorem replied_users {α : Type} {f : α → Response J} {handler : AuthM α} (server : Server)
    (keeps : Keeps (Committed server.users) handler) :
    (replied f handler server).2.users = server.users := by
  have ends := keeps ⟨⟨server.users, server.users⟩, server.redis⟩ rfl
  unfold replied withSession
  cases ran : handler.run ⟨⟨server.users, server.users⟩, server.redis⟩ with
  | ok a w =>
      rw [ran] at ends
      exact ends
  | error e w =>
      rw [ran] at ends
      exact ends

theorem serve_users (server : Server) (request : Request J) :
    (serve ext settings env server request).2.users = server.users := by
  cases request with
  | register payload => exact replied_users server (keeps_register payload)
  | login payload => exact replied_users server (keeps_login payload)
  | refresh payload => exact replied_users server (keeps_refresh payload)
  | logout token => exact replied_users server (keeps_logout token)
  | authenticated token => exact replied_users server (keeps_getCurrentUser token)

theorem transcript_cons (server : Server) (env : Env) (request : Request J)
    (requests : List (Env × Request J)) :
    transcript ext settings server ((env, request) :: requests) =
      ⟨env, request, server.redis, (serve ext settings env server request).1⟩ ::
        transcript ext settings (serve ext settings env server request).2 requests := rfl

/-- Every request of a run is served over the users the run began with. -/
theorem response_of_mem {server : Server} {requests : List (Env × Request J)} {a : Exchange J}
    (h : a ∈ transcript ext settings server requests) :
    a.response = (serve ext settings a.env ⟨server.users, a.redis⟩ a.request).1 := by
  induction requests generalizing server with
  | nil => exact absurd h List.not_mem_nil
  | cons first requests ih =>
      obtain ⟨env, request⟩ := first
      rw [transcript_cons] at h
      rcases List.mem_cons.mp h with rfl | later
      · rfl
      · have next := ih later
        rwa [serve_users] at next

end Keeps

/-! ## What the handlers answer about an account -/

theorem Users.insert_eq_ok_iff {users : Users} {user : User} :
    (∃ next, users.insert user = .ok next) ↔ user.storable ∧
      user.id ∉ users.rows.map User.id ∧ user.email ∉ users.rows.map User.email := by
  unfold insert
  constructor
  · rintro ⟨next, inserted⟩
    split at inserted
    · rename_i storable
      split at inserted
      · rename_i fresh
        exact ⟨storable, fresh⟩
      · cases inserted
    · cases inserted
  · rintro ⟨storable, fresh⟩
    rw [if_pos storable, dif_pos fresh]
    exact ⟨_, rfl⟩

section Answers
variable {J : Type} {ext : External J} {settings : Settings} {env : Env} {w : World}

theorem run_userByEmail {email : String} (readable : bindable email) :
    (userByEmail email).run w =
      .ok (w.session.working.rows.find? fun user => user.email = email) w := by
  unfold userByEmail
  rw [if_pos readable]
  rfl

/-- What `register` needs to answer with 201: a free email, a password that can be hashed
and a row that can be stored. -/
structure Accepted (ext : External J) (users : Users) (env : Env) (payload : RegisterRequest) :
    Prop where
  email : payload.email ∉ users.rows.map User.email
  id : env.userId ∉ users.rows.map User.id
  stored : ∃ hashed, ext.hash env.salt payload.password = some hashed ∧
    (payload.user env.userId hashed).storable

def registration (ext : External J) (settings : Settings) (env : Env) (payload : RegisterRequest) :
    RegisterResponse J :=
  ⟨⟨env.userId.str, payload.email, payload.name, true⟩,
    issueTokens ext settings env env.userId.str⟩

theorem readable_of_storable {payload : RegisterRequest} {id : Uuid} {hashed : String}
    (storable : (payload.user id hashed).storable) : bindable payload.email :=
  (of_decide_eq_true (of_decide_eq_true storable).1).2

section Registering
variable (ext : External J) (settings : Settings) (env : Env) (w : World)
  (payload : RegisterRequest)

/-- Everything `register` can do; an INSERT that is refused rolls the session back. -/
inductive Registering : EStateM.Result AuthError World (RegisterResponse J) → Prop
  | unreadable : ¬ bindable payload.email → Registering (.error .dataError w)
  | taken : payload.email ∈ w.session.working.rows.map User.email →
      Registering (.error (.httpException 409 "Email already registered") w)
  | unhashable : ext.hash env.salt payload.password = none →
      Registering (.error .passwordError w)
  | refused {hashed e} : ext.hash env.salt payload.password = some hashed →
      w.session.working.insert (payload.user env.userId hashed) = .error e →
      Registering
        (.error e { w with session := { w.session with working := w.session.committed } })
  | created {hashed next} : ext.hash env.salt payload.password = some hashed →
      w.session.working.insert (payload.user env.userId hashed) = .ok next →
      Registering (.ok (registration ext settings env payload)
        { w with session := { w.session with working := next } })

theorem register_registering :
    Registering ext settings env w payload ((register ext settings env payload).run w) := by
  unfold register
  by_cases readable : bindable payload.email
  · rw [run_bind_ok (run_userByEmail readable)]
    cases found : w.session.working.rows.find? (fun user => user.email = payload.email) with
    | some user =>
        exact .taken (List.mem_map.mpr ⟨user, mem_of_find?_key found⟩)
    | none =>
        cases hash : ext.hash env.salt payload.password with
        | none => exact .unhashable hash
        | some hashed =>
            simp only [addUser]
            cases inserted : w.session.working.insert (payload.user env.userId hashed) with
            | error e =>
                simp only [EStateM.run_bind, EStateM.run_get, inserted]
                exact .refused hash inserted
            | ok next =>
                simp only [EStateM.run_bind, EStateM.run_get, inserted]
                exact .created hash inserted
  · have refused : (userByEmail payload.email).run w = .error .dataError w := by
      unfold userByEmail
      rw [if_neg readable]
      rfl
    rw [run_bind_error refused]
    exact .unreadable readable

end Registering

theorem run_register_accepted {payload : RegisterRequest}
    (accepted : Accepted ext w.session.working env payload) :
    ∃ t, (register ext settings env payload).run w =
      .ok (registration ext settings env payload) t := by
  obtain ⟨email, id, hashed, hash, storable⟩ := accepted
  have all := register_registering ext settings env w payload
  generalize (register ext settings env payload).run w = r at all
  cases all with
  | unreadable refused => exact absurd (readable_of_storable storable) refused
  | taken member => exact absurd member email
  | unhashable unhashed =>
      rw [hash] at unhashed
      cases unhashed
  | refused hash' refused =>
      rw [hash] at hash'
      cases hash'
      obtain ⟨next, inserted⟩ := Users.insert_eq_ok_iff.mpr ⟨storable, id, email⟩
      rw [inserted] at refused
      cases refused
  | created => exact ⟨_, rfl⟩

theorem accepted_of_run {payload : RegisterRequest} {created : RegisterResponse J} {t : World}
    (h : (register ext settings env payload).run w = .ok created t) :
    Accepted ext w.session.working env payload ∧
      created = registration ext settings env payload := by
  have all := register_registering ext settings env w payload
  rw [h] at all
  cases all with
  | created hash inserted =>
      obtain ⟨storable, id, email⟩ := Users.insert_eq_ok_iff.mp ⟨_, inserted⟩
      exact ⟨⟨email, id, _, hash, storable⟩, rfl⟩

/-- Nobody is told that a free email is taken. -/
theorem run_register_free {payload : RegisterRequest} {t : World}
    (free : payload.email ∉ w.session.working.rows.map User.email) :
    (register ext settings env payload).run w ≠
      .error (.httpException 409 "Email already registered") t := by
  intro h
  have all := register_registering ext settings env w payload
  rw [h] at all
  cases all with
  | taken member => exact free member
  | refused hash inserted =>
      unfold Users.insert at inserted
      split at inserted
      · split at inserted <;> cases inserted
      · cases inserted

theorem run_login_free {payload : LoginRequest} (readable : bindable payload.email)
    (free : payload.email ∉ w.session.working.rows.map User.email) :
    (login ext settings env payload).run w =
      .error (.httpException 401 "Invalid email or password") w := by
  unfold login
  rw [run_bind_ok (run_userByEmail readable), find?_key_eq_none.mpr free]
  rfl

/-- What the JWT library promises: a token decodes to its claims until they expire. -/
def Faithful (ext : External J) : Prop :=
  ∀ (claims : Claims) (seconds : ℕ), claims.exp.all (fun exp => seconds ≤ exp) →
    ext.decode (ext.encode claims) seconds = some claims

def accessToken (ext : External J) (settings : Settings) (env : Env) : J :=
  createAccessToken ext settings env env.userId.str

theorem str_ne_empty (u : Uuid) : u.str ≠ "" := by
  intro empty
  have length := Uuid.length_str u
  rw [empty] at length
  cases length

/-- The token of an account that is not there is refused. -/
theorem run_getCurrentUser_unknown {issued : Env} (faithful : Faithful ext)
    (unexpired : env.seconds ≤ accessExpiry settings issued)
    (unrevoked : ¬ (env.redis && blacklisted w.redis env.now issued.accessJti.str))
    (unknown : issued.userId ∉ w.session.working.rows.map User.id) :
    (getCurrentUser ext env (accessToken ext settings issued)).run w =
      .error (.httpException 401 "User not found") w := by
  have decoded : ext.decode (accessToken ext settings issued) env.seconds =
      some (accessClaims settings issued issued.userId.str) := by
    apply faithful
    exact decide_eq_true unexpired
  have checked : (isRevoked env issued.accessJti.str).run w = .ok false w := by
    have verdict : (isRevoked env issued.accessJti.str).run w =
        .ok (env.redis && blacklisted w.redis env.now issued.accessJti.str) w := rfl
    rw [verdict, Bool.eq_false_iff.mpr unrevoked]
  have verified : (verifyToken ext env (accessToken ext settings issued)).run w =
      .ok ⟨issued.userId.str, accessExpiry settings issued, issued.seconds, .ACCESS,
        issued.accessJti.str⟩ w := by
    unfold verifyToken
    rw [decoded]
    change EStateM.run (if issued.accessJti.str = "" then _ else _) w = _
    rw [if_neg (str_ne_empty _)]
    exact run_bind_ok checked
  unfold getCurrentUser
  rw [run_bind_ok verified]
  simp only [ne_eq, not_true_eq_false, if_false, Uuid.parse_str]
  have looked : (userById issued.userId).run w = .ok none w := by
    change EStateM.Result.ok (w.session.working.rows.find? _) w = _
    rw [find?_key_eq_none.mpr unknown]
  change EStateM.run (userById issued.userId >>= _) w = _
  rw [run_bind_ok looked]
  rfl

end Answers

/-! ## The promise of a registration -/

section Promise
variable {J : Type} (ext : External J) (settings : Settings)

/-- When `b` comes, the access token that `a` issued has neither expired nor been revoked. -/
structure Usable (a b : Exchange J) : Prop where
  unexpired : b.env.seconds ≤ accessExpiry settings a.env
  unrevoked : ¬ (b.env.redis && blacklisted b.redis b.env.now a.env.accessJti.str)

/-- If `a` is a registration answered with 201, `b` is answered as its user expects. -/
def Honoured (a b : Exchange J) : Prop :=
  match a.request, a.response with
  | .register payload, .registered created =>
      match b.request with
      | .login credentials => credentials = ⟨payload.email, payload.password⟩ →
          ∃ tokens, b.response = .tokens tokens
      | .register other => other.email = payload.email →
          b.response = .refused (.httpException 409 "Email already registered")
      | .authenticated token => token = created.tokens.accessToken → Usable settings a b →
          ∃ user, b.response = .user user ∧ user.email = payload.email
      | _ => True
  | _, _ => True

def Durable (exchanges : List (Exchange J)) : Prop := exchanges.Pairwise (Honoured settings)

/-- `a` is a registration that `users` leave room for, and `b` needs the account. -/
def Relies (users : Users) (a b : Exchange J) : Prop :=
  match a.request with
  | .register payload => Accepted ext users a.env payload ∧
      match b.request with
      | .login credentials => credentials = ⟨payload.email, payload.password⟩
      | .register other => other.email = payload.email
      | .authenticated token => token = accessToken ext settings a.env ∧ Usable settings a b
      | _ => False
  | _ => False

end Promise

section Durable
variable {J : Type} {ext : External J} {settings : Settings} {users : Users} {a b : Exchange J}

theorem replied_ok {α : Type} {f : α → Response J} {handler : AuthM α} {server : Server} {x : α}
    {w : World} (h : handler.run ⟨⟨server.users, server.users⟩, server.redis⟩ = .ok x w) :
    (replied f handler server).1 = f x := by
  unfold replied withSession
  rw [h]

theorem replied_error {α : Type} {f : α → Response J} {handler : AuthM α} {server : Server}
    {e : AuthError} {w : World}
    (h : handler.run ⟨⟨server.users, server.users⟩, server.redis⟩ = .error e w) :
    (replied f handler server).1 = .refused e := by
  unfold replied withSession
  rw [h]

section Relied
variable {env issued : Env} {redis : List (String × ℕ)} {payload : RegisterRequest}

theorem registered_of_accepted (accepted : Accepted ext users env payload) :
    (serve ext settings env ⟨users, redis⟩ (.register payload)).1 =
      .registered (registration ext settings env payload) := by
  obtain ⟨t, ran⟩ := run_register_accepted (w := ⟨⟨users, users⟩, redis⟩) accepted
  exact replied_ok ran

theorem accepted_of_registered {created : RegisterResponse J}
    (h : (serve ext settings env ⟨users, redis⟩ (.register payload)).1 = .registered created) :
    Accepted ext users env payload := by
  simp only [serve, replied, withSession] at h
  cases ran : (register ext settings env payload).run ⟨⟨users, users⟩, redis⟩ with
  | error e w =>
      rw [ran] at h
      cases h
  | ok created' w => exact (accepted_of_run ran).1

variable (accepted : Accepted ext users issued payload)
include accepted

theorem refused_login : (serve ext settings env ⟨users, redis⟩
    (.login ⟨payload.email, payload.password⟩)).1 =
      .refused (.httpException 401 "Invalid email or password") := by
  obtain ⟨hashed, _, storable⟩ := accepted.stored
  exact replied_error (run_login_free (readable_of_storable storable) accepted.email)

theorem refused_token (faithful : Faithful ext)
    (unexpired : env.seconds ≤ accessExpiry settings issued)
    (unrevoked : ¬ (env.redis && blacklisted redis env.now issued.accessJti.str)) :
    (serve ext settings env ⟨users, redis⟩ (.authenticated (accessToken ext settings issued))).1 =
      .refused (.httpException 401 "User not found") :=
  replied_error (run_getCurrentUser_unknown (w := ⟨⟨users, users⟩, redis⟩) faithful unexpired
    unrevoked accepted.id)

theorem registered_again {other : RegisterRequest} (same : other.email = payload.email) :
    (serve ext settings env ⟨users, redis⟩ (.register other)).1 ≠
      .refused (.httpException 409 "Email already registered") := by
  intro conflict
  have free : other.email ∉ users.rows.map User.email := by
    rw [same]
    exact accepted.email
  simp only [serve, replied, withSession] at conflict
  cases ran : (register ext settings env other).run ⟨⟨users, users⟩, redis⟩ with
  | ok created w =>
      rw [ran] at conflict
      cases conflict
  | error e w =>
      rw [ran] at conflict
      cases conflict
      exact run_register_free (w := ⟨⟨users, users⟩, redis⟩) free ran

end Relied

theorem honoured_iff (faithful : Faithful ext)
    (ha : a.response = (serve ext settings a.env ⟨users, a.redis⟩ a.request).1)
    (hb : b.response = (serve ext settings b.env ⟨users, b.redis⟩ b.request).1) :
    Honoured settings a b ↔ ¬ Relies ext settings users a b := by
  obtain ⟨env, request, redis, response⟩ := a
  obtain ⟨env', request', redis', response'⟩ := b
  simp only at ha hb
  cases request with
  | login payload => simp only [Honoured, Relies, not_false_eq_true]
  | refresh payload => simp only [Honoured, Relies, not_false_eq_true]
  | logout token => simp only [Honoured, Relies, not_false_eq_true]
  | authenticated token => simp only [Honoured, Relies, not_false_eq_true]
  | register payload =>
      by_cases accepted : Accepted ext users env payload
      · rw [registered_of_accepted accepted] at ha
        subst ha
        simp only [Honoured, Relies, accepted, true_and]
        cases request' with
        | refresh payload => simp only [not_false_eq_true]
        | logout token => simp only [not_false_eq_true]
        | login credentials =>
            refine imp_congr_right fun same => ?_
            rw [same, refused_login accepted] at hb
            simp only [hb, reduceCtorEq, exists_false]
        | register other =>
            refine imp_congr_right fun same => ?_
            simp only [iff_false]
            rw [hb]
            exact registered_again accepted same
        | authenticated token =>
            rw [not_and]
            refine imp_congr_right fun same => imp_congr_right fun usable => ?_
            have issued : token = accessToken ext settings env := same
            rw [issued, refused_token accepted faithful usable.unexpired usable.unrevoked] at hb
            simp only [hb, reduceCtorEq, false_and, exists_false]
      · have unanswered : ∀ created, response ≠ .registered created := by
          intro created same
          rw [same] at ha
          exact accepted (accepted_of_registered ha.symm)
        simp only [Relies, accepted, false_and, not_false_eq_true, iff_true]
        cases response with
        | registered created => exact absurd rfl (unanswered created)
        | tokens response => trivial
        | message response => trivial
        | user user => trivial
        | refused error => trivial

theorem durable_iff (faithful : Faithful ext) (server : Server)
    (requests : List (Env × Request J)) :
    Durable settings (transcript ext settings server requests) ↔
      (transcript ext settings server requests).Pairwise fun a b =>
        ¬ Relies ext settings server.users a b :=
  List.Pairwise.iff_of_mem fun ha hb =>
    honoured_iff faithful (response_of_mem ha) (response_of_mem hb)

end Durable

/-! ## Alice registers and logs in -/

/-- Claims are their own tokens and a hash shows the password behind its salt. -/
def plainLibraries : External Claims where
  hash := fun salt password => some (salt ++ "." ++ password)
  verify := fun password hashed =>
    some (hashed.toList.dropWhile (· ≠ '.') = '.' :: password.toList)
  encode := id
  decode := fun claims seconds =>
    if claims.exp.all (fun exp => seconds ≤ exp) then some claims else none

def alice : RegisterRequest where
  email := "alice@example.com"
  name := "Alice"
  password := "correct horse"
  name_length := by decide
  password_length := by decide

def bob : RegisterRequest := { alice with email := "bob@example.com" }

def secondsIn (n : ℕ) (id : Uuid) : Env where
  now := n * 1000000
  redis := true
  salt := "salt"
  userId := id
  accessJti := 100
  refreshJti := 101

def emptyServer : Server := ⟨Users.empty, []⟩

theorem durable_iff_twoUsers : Durable .default (transcript plainLibraries .default emptyServer
    [(secondsIn 0 1, .register alice), (secondsIn 1 2, .register bob)]) := by
  have faithful : Faithful plainLibraries := by
    intro claims seconds unexpired
    exact if_pos unexpired
  refine (durable_iff faithful _ _).mpr ?_
  rw [transcript_cons, transcript_cons]
  refine List.pairwise_cons.mpr ⟨?_, List.pairwise_singleton _ _⟩
  intro b member
  rw [transcript, List.mem_singleton] at member
  subst member
  rintro ⟨_, same⟩
  exact absurd same (by decide)

/-- The login that follows the registration at once is refused. -/
theorem forgotten :
    (transcript plainLibraries .default emptyServer [(secondsIn 0 1, .register alice),
      (secondsIn 1 2, .login ⟨alice.email, alice.password⟩)]).map Exchange.response =
      [.registered (registration plainLibraries .default (secondsIn 0 1) alice),
        .refused (.httpException 401 "Invalid email or password")] ∧
    ¬ Durable .default (transcript plainLibraries .default emptyServer
      [(secondsIn 0 1, .register alice),
        (secondsIn 1 2, .login ⟨alice.email, alice.password⟩)]) := by
  have served : (serve plainLibraries .default (secondsIn 0 1) emptyServer (.register alice)).1 =
      .registered (registration plainLibraries .default (secondsIn 0 1) alice) := by
    decide +kernel
  have refused : (serve plainLibraries .default (secondsIn 1 2)
      (serve plainLibraries .default (secondsIn 0 1) emptyServer (.register alice)).2
      (.login ⟨alice.email, alice.password⟩)).1 =
        .refused (.httpException 401 "Invalid email or password") := by
    decide +kernel
  rw [transcript_cons, transcript_cons, served, refused]
  refine ⟨rfl, fun durable => ?_⟩
  obtain ⟨tokens, same⟩ := (List.pairwise_cons.mp durable).1 _ List.mem_cons_self rfl
  cases same

end RenderTrust.Auth
