import RenderTrust.Auth.Durability
import RenderTrust.Auth.Revocation
import RenderTrust.Lib.Tasks

/-!
# Refresh tokens that are used again

The requests of any number of clients, step by step: a request waits for Redis and for the
database, and others run in between. No step of a refresh invalidates the token it was given.
-/
namespace RenderTrust.Auth
open Lib Lib.Hoare Lib.Tasks Lib.Runs

variable {ι J : Type} {ext : External J} {settings : Settings}

/-- What the requests share. `checked` logs which refresh got past the blacklist with which
token of an active user, `accepted` which one was answered with tokens. -/
structure Gateway (ι J : Type) where
  now : ℕ
  server : Server
  checked : List (ι × J)
  accepted : List (ι × J)

/-- Where a request is. -/
inductive Progress (J : Type) where
  | arrived (request : Request J)
  | decoded (request : Request J) (payload : TokenPayload)
  | verified (request : Request J) (payload : TokenPayload)
  | revoking (payload : TokenPayload) (ttlSeconds : ℕ)
  | done (response : Response J)

/-- The token of a request that is served step by step. -/
def Request.token : Request J → Option J
  | .refresh payload => some payload.refreshToken
  | .logout token => some token
  | _ => none

/-- The user of the payload gets new tokens. -/
def honoured (users : Users) (payload : TokenPayload) : Bool :=
  payload.tokenType = .REFRESH ∧ (Uuid.parse payload.sub).any fun userId =>
    (users.rows.find? fun user => user.id = userId).any User.isActive

/-- `refresh` after `verify_token`. -/
def refreshed (ext : External J) (settings : Settings) (env : Env) (tokenData : TokenPayload) :
    AuthM (TokenResponse J) := do
  if tokenData.tokenType ≠ .REFRESH then
    throw (.httpException 401 "Invalid token type: expected refresh token")
  match Uuid.parse tokenData.sub with
  | none => throw .dataError
  | some userId =>
    match ← userById userId with
    | none => throw (.httpException 401 "User not found")
    | some user =>
      if !user.isActive then throw (.httpException 401 "Account is inactive")
      return issueTokens ext settings env user.id.str

theorem refresh_eq (env : Env) (payload : RefreshRequest J) : refresh ext settings env payload =
    verifyToken ext env payload.refreshToken >>= refreshed ext settings env := rfl

/-- New tokens are for an active user, and nothing is written. -/
theorem ends_refreshed (ext : External J) (settings : Settings) (env : Env)
    (payload : TokenPayload) (w : World) :
    Triple (fun v => v = w) (refreshed ext settings env payload)
      (fun _ v => v = w ∧ honoured w.session.working payload) (fun _ v => v = w) := by
  unfold refreshed
  refine .ite (fun _ => .raise fun _ h => h) fun type => ?_
  cases parsed : Uuid.parse payload.sub with
  | none => exact .raise fun _ h => h
  | some userId =>
      refine .read ?_
      rintro v rfl
      cases found : v.session.working.rows.find? fun user => user.id = userId with
      | none => exact .raise fun _ h => h
      | some user =>
          refine .ite (fun _ => .raise fun _ h => h) fun active => .ret fun u same => ⟨same, ?_⟩
          have refresh := not_not.mp type
          simp only [Bool.not_eq_true', Bool.not_eq_false] at active
          simp [honoured, refresh, parsed, found, active]

def loggedOut : Response J := .message ⟨"Logged out successfully"⟩

namespace Gateway

def pass (s : Gateway ι J) (i : ι) (request : Request J) (payload : TokenPayload) : Gateway ι J :=
  match request with
  | .refresh r =>
      if honoured s.server.users payload then
        { s with checked := (i, r.refreshToken) :: s.checked }
      else s
  | _ => s

theorem server_pass (s : Gateway ι J) (i : ι) (request : Request J) (payload : TokenPayload) :
    (s.pass i request payload).server = s.server := by
  unfold pass
  split
  · split <;> rfl
  · rfl

theorem accepted_pass (s : Gateway ι J) (i : ι) (request : Request J) (payload : TokenPayload) :
    (s.pass i request payload).accepted = s.accepted := by
  unfold pass
  split
  · split <;> rfl
  · rfl

theorem checked_pass (s : Gateway ι J) (i : ι) (r : RefreshRequest J) (payload : TokenPayload) :
    (s.pass i (.refresh r) payload).checked =
      if honoured s.server.users payload then (i, r.refreshToken) :: s.checked
      else s.checked := by
  simp only [pass]
  split <;> rfl

def accept (s : Gateway ι J) (i : ι) (r : RefreshRequest J) : Gateway ι J :=
  { s with accepted := (i, r.refreshToken) :: s.accepted }

def setKey (s : Gateway ι J) (jti : String) (ttlSeconds : ℕ) : Gateway ι J :=
  { s with
    server := { s.server with
      redis := (KEY_PREFIX ++ jti, s.now + ttlSeconds * 1000000) :: s.server.redis } }

end Gateway

/-- What a request does until it waits again. -/
def advance (ext : External J) (settings : Settings) (i : ι) (env : Env) (s : Gateway ι J) :
    Progress J → Option (Gateway ι J × Progress J)
  | .arrived request =>
      match request.token with
      | none =>
          let (response, server) := serve ext settings env s.server request
          some ({ s with server }, .done response)
      | some token =>
          match tokenPayload ext env.seconds token with
          | .error e => some (s, .done (.refused e))
          | .ok payload => some (s, .decoded request payload)
  | .decoded request payload =>
      if refused env s.server.redis payload.jti then
        some (s, .done (.refused credentialsException))
      else some (s.pass i request payload, .verified request payload)
  | .verified (.refresh r) payload =>
      match (withSession (refreshed ext settings env payload) s.server.users s.server.redis).1 with
      | .error e => some (s, .done (.refused e))
      | .ok tokens => some (s.accept i r, .done (.tokens tokens))
  | .verified (.logout _) payload =>
      if ttlSeconds env payload.exp = 0 then some (s, .done loggedOut)
      else some (s, .revoking payload (ttlSeconds env payload.exp))
  | .verified _ _ => none
  | .revoking payload ttlSeconds =>
      if env.redis then some (s.setKey payload.jti ttlSeconds, .done loggedOut)
      else some (s, .done loggedOut)
  | .done _ => none

def gateway (ext : External J) (settings : Settings) :
    Program ι (Gateway ι J) (Progress J) Env ℕ where
  act i env s l := if env.now = s.now then advance ext settings i env s l else none
  change later s := if s.now ≤ later then some { s with now := later } else none

def gatewayOpening (now : ℕ) (server : Server) (requests : ι → Request J) :
    System ι (Gateway ι J) (Progress J) :=
  ⟨⟨now, server, [], []⟩, fun i => .arrived (requests i)⟩

/-! ## A request that is alone -/

section Alone
variable {w : World}

theorem served_ok {α : Type} {f : α → Response J} {handler : AuthM α} {server : Server} {a : α}
    (ran : handler.run ⟨⟨server.users, server.users⟩, server.redis⟩ = .ok a w) :
    replied f handler server = (f a, ⟨w.session.committed, w.redis⟩) := by
  rw [replied, withSession, ran]

theorem served_error {α : Type} {f : α → Response J} {handler : AuthM α} {server : Server}
    {e : AuthError} (ran : handler.run ⟨⟨server.users, server.users⟩, server.redis⟩ = .error e w) :
    replied f handler server = (.refused e, ⟨w.session.committed, w.redis⟩) := by
  rw [replied, withSession, ran]

/-- `verify_token` and what comes after it. -/
theorem run_verifyToken_bind {β : Type} (ext : External J) (env : Env) (token : J)
    (rest : TokenPayload → AuthM β) (w : World) :
    (verifyToken ext env token >>= rest).run w =
      match tokenPayload ext env.seconds token with
      | .error e => .error e w
      | .ok payload =>
          if refused env w.redis payload.jti then .error credentialsException w
          else (rest payload).run w := by
  rw [EStateM.run_bind, verifyToken_run]
  cases tokenPayload ext env.seconds token with
  | error e => rfl
  | ok payload =>
      simp only
      cases refused env w.redis payload.jti <;> rfl

variable {i : ι} {env : Env} {s : Gateway ι J}

/-- The steps of one request in a row. -/
abbrev Alone (ext : External J) (settings : Settings) (i : ι) (env : Env) :
    Gateway ι J × Progress J → Gateway ι J × Progress J → Prop :=
  Relation.ReflTransGen fun a b => advance ext settings i env a.1 a.2 = some b

/-- A request with a token, up to where its handler goes on with what the token says. -/
theorem alone_verified {α : Type} {f : α → Response J} {handler : AuthM α} {request : Request J}
    {token : J} (has : request.token = some token) (rest : TokenPayload → AuthM α)
    (same : handler = verifyToken ext env token >>= rest)
    (verified : ∀ payload, handler.run ⟨⟨s.server.users, s.server.users⟩, s.server.redis⟩ =
        (rest payload).run ⟨⟨s.server.users, s.server.users⟩, s.server.redis⟩ →
      ∃ t, Alone ext settings i env (s.pass i request payload, .verified request payload)
          (t, .done (replied f handler s.server).1) ∧
        t.server = (replied f handler s.server).2) :
    ∃ t, Alone ext settings i env (s, .arrived request)
        (t, .done (replied f handler s.server).1) ∧ t.server = (replied f handler s.server).2 := by
  have run := run_verifyToken_bind ext env token rest
    ⟨⟨s.server.users, s.server.users⟩, s.server.redis⟩
  rw [← same] at run
  cases read : tokenPayload ext env.seconds token with
  | error e =>
      simp only [read] at run
      rw [served_error run]
      refine ⟨s, .single ?_, rfl⟩
      simp [advance, has, read]
  | ok payload =>
      simp only [read] at run
      have decode : advance ext settings i env s (.arrived request) =
          some (s, .decoded request payload) := by
        simp [advance, has, read]
      cases listed : refused env s.server.redis payload.jti with
      | true =>
          simp only [listed, if_true] at run
          rw [served_error run]
          refine ⟨s, .head decode (.single ?_), rfl⟩
          simp [advance, listed]
      | false =>
          simp only [listed, Bool.false_eq_true, if_false] at run
          have check : advance ext settings i env s (.decoded request payload) =
              some (s.pass i request payload, .verified request payload) := by
            simp [advance, listed]
          obtain ⟨t, onward, server⟩ := verified payload run
          exact ⟨t, .head decode (.head check onward), server⟩

theorem alone_refresh (r : RefreshRequest J) : ∃ t, Alone ext settings i env
      (s, .arrived (.refresh r)) (t, .done (serve ext settings env s.server (.refresh r)).1) ∧
    t.server = (serve ext settings env s.server (.refresh r)).2 := by
  apply alone_verified rfl (refreshed ext settings env) (refresh_eq env r)
  intro payload run
  have ends := ends_refreshed ext settings env payload
    ⟨⟨s.server.users, s.server.users⟩, s.server.redis⟩ _ rfl
  cases ran : (refreshed ext settings env payload).run
      ⟨⟨s.server.users, s.server.users⟩, s.server.redis⟩ with
  | ok tokens w =>
      rw [ran] at ends run
      obtain ⟨rfl, -⟩ := ends
      rw [served_ok run]
      refine ⟨(s.pass i (.refresh r) payload).accept i r, .single ?_, Gateway.server_pass s i _ _⟩
      simp only [advance, Gateway.server_pass, withSession, ran]
  | error e w =>
      rw [ran] at ends run
      obtain rfl := ends
      rw [served_error run]
      refine ⟨s.pass i (.refresh r) payload, .single ?_, Gateway.server_pass s i _ _⟩
      simp only [advance, Gateway.server_pass, withSession, ran]

theorem alone_logout (token : J) (clock : env.now = s.now) : ∃ t, Alone ext settings i env
      (s, .arrived (.logout token)) (t, .done (serve ext settings env s.server (.logout token)).1) ∧
    t.server = (serve ext settings env s.server (.logout token)).2 := by
  let ended (tokenData : TokenPayload) : AuthM MessageResponse := do
    let _ ← revoke env tokenData.jti tokenData.exp
    return ⟨"Logged out successfully"⟩
  have same : logout ext env token = verifyToken ext env token >>= ended := rfl
  apply alone_verified rfl ended same
  intro payload run
  change ∃ t, Alone ext settings i env (s, .verified (.logout token) payload) _ ∧ _
  have wrote := revoke_run env payload.jti payload.exp
    ⟨⟨s.server.users, s.server.users⟩, s.server.redis⟩
  by_cases expired : ttlSeconds env payload.exp = 0
  · rw [if_pos (.inl expired)] at wrote
    rw [run_bind_ok wrote] at run
    rw [served_ok run]
    refine ⟨s, .single ?_, rfl⟩
    simp [advance, expired, loggedOut]
  · have wait : advance ext settings i env s (.verified (.logout token) payload) =
        some (s, .revoking payload (ttlSeconds env payload.exp)) := by
      simp [advance, expired]
    cases available : env.redis with
    | false =>
        rw [if_pos (.inr available)] at wrote
        rw [run_bind_ok wrote] at run
        rw [served_ok run]
        refine ⟨s, .head wait (.single ?_), rfl⟩
        simp [advance, available, loggedOut]
    | true =>
        rw [if_neg (by simp [expired, available])] at wrote
        rw [run_bind_ok wrote] at run
        rw [served_ok run]
        refine ⟨s.setKey payload.jti (ttlSeconds env payload.exp), .head wait (.single ?_), ?_⟩
        · simp [advance, available, loggedOut]
        · simp [Gateway.setKey, clock]

/-- Step by step, with nothing in between, a request is served as by its handler. -/
theorem alone_serve (request : Request J) (clock : env.now = s.now) :
    ∃ t, Alone ext settings i env
        (s, .arrived request) (t, .done (serve ext settings env s.server request).1) ∧
      t.server = (serve ext settings env s.server request).2 := by
  cases request with
  | refresh r => exact alone_refresh r
  | logout token => exact alone_logout token clock
  | register | login | authenticated => exact ⟨_, .single rfl, rfl⟩

end Alone

/-! ## What a step does to the logs -/

section Steps
variable {i : ι} {env : Env} {s s' : Gateway ι J} {l l' : Progress J}

theorem refreshed_ok {payload : TokenPayload} {users : Users} {redis : List (String × ℕ)}
    {tokens : TokenResponse J}
    (h : (withSession (refreshed ext settings env payload) users redis).1 = .ok tokens) :
    honoured users payload := by
  have ends := ends_refreshed ext settings env payload ⟨⟨users, users⟩, redis⟩ _ rfl
  unfold withSession at h
  cases ran : (refreshed ext settings env payload).run ⟨⟨users, users⟩, redis⟩ with
  | ok tokens w =>
      rw [ran] at ends
      exact ends.2
  | error e w =>
      rw [ran] at h
      cases h

/-- A step leaves the logs, passes the blacklist, or answers with tokens. -/
inductive Advances (i : ι) (env : Env) (s : Gateway ι J) :
    Progress J → Gateway ι J → Progress J → Prop
  | quiet {l l' : Progress J} {s' : Gateway ι J} (users : s'.server.users = s.server.users)
      (checked : s'.checked = s.checked) (accepted : s'.accepted = s.accepted)
      (unfinished : ∀ response, l ≠ .done response)
      (next : ∀ r payload, l' ≠ .verified (.refresh r) payload) : Advances i env s l s' l'
  | passes {r : RefreshRequest J} {payload : TokenPayload}
      (open_ : ¬ refused env s.server.redis payload.jti) :
      Advances i env s (.decoded (.refresh r) payload) (s.pass i (.refresh r) payload)
        (.verified (.refresh r) payload)
  | accepts {r : RefreshRequest J} {payload : TokenPayload} {response : Response J}
      (active : honoured s.server.users payload) :
      Advances i env s (.verified (.refresh r) payload) (s.accept i r) (.done response)

/-- Nothing but the place of the request, or a key of Redis, changes. -/
theorem Advances.still {response : Response J} (unfinished : ∀ response, l ≠ .done response) :
    Advances i env s l s (.done response) :=
  .quiet rfl rfl rfl unfinished fun _ _ same => by cases same

theorem advances_of_advance (moved : advance ext settings i env s l = some (s', l')) :
    Advances i env s l s' l' := by
  cases l with
  | arrived request =>
      simp only [advance] at moved
      cases presented : request.token with
      | none =>
          rw [presented] at moved
          cases moved
          exact .quiet (serve_users _ _) rfl rfl (fun _ same => by cases same)
            fun _ _ same => by cases same
      | some token =>
          simp only [presented] at moved
          split at moved
          · cases moved
            exact .still fun _ same => by cases same
          · cases moved
            exact .quiet rfl rfl rfl (fun _ same => by cases same) fun _ _ same => by cases same
  | decoded request payload =>
      simp only [advance] at moved
      split at moved
      · cases moved
        exact .still fun _ same => by cases same
      · rename_i open_
        cases moved
        cases request with
        | refresh r => exact .passes open_
        | register | login | logout | authenticated =>
            exact .quiet rfl rfl rfl (fun _ same => by cases same) fun _ _ same => by cases same
  | verified request payload =>
      cases request with
      | refresh r =>
          simp only [advance] at moved
          split at moved
          · cases moved
            exact .still fun _ same => by cases same
          · rename_i issued
            cases moved
            exact .accepts (refreshed_ok issued)
      | logout token =>
          simp only [advance] at moved
          split at moved
          · cases moved
            exact .still fun _ same => by cases same
          · cases moved
            exact .quiet rfl rfl rfl (fun _ same => by cases same) fun _ _ same => by cases same
      | register | login | authenticated => cases moved
  | revoking payload ttlSeconds =>
      simp only [advance] at moved
      split at moved
      · cases moved
        exact .quiet rfl rfl rfl (fun _ same => by cases same) fun _ _ same => by cases same
      · cases moved
        exact .still fun _ same => by cases same
  | done response => cases moved

end Steps

/-! ## What the steps keep -/

structure Logged (s : Gateway ι J) : Prop where
  once : (s.checked.map Prod.snd).Nodup
  each : (s.accepted.map Prod.fst).Nodup
  recorded : ∀ entry ∈ s.accepted, entry ∈ s.checked

/-- A request that is not done was not accepted, and one that will be is logged. -/
structure Pending (i : ι) (s : Gateway ι J) (l : Progress J) : Prop where
  unaccepted : (∀ response, l ≠ .done response) → i ∉ s.accepted.map Prod.fst
  passed : ∀ r payload, l = .verified (.refresh r) payload → honoured s.server.users payload →
    (i, r.refreshToken) ∈ s.checked

/-- No refresh token was accepted twice. -/
def Gateway.SingleUse (s : Gateway ι J) : Prop := (s.accepted.map Prod.snd).Nodup

theorem Logged.singleUse {s : Gateway ι J} (logged : Logged s) : s.SingleUse := by
  refine List.Nodup.map_on ?_ (List.Nodup.of_map _ logged.each)
  intro a first b second same
  exact List.inj_on_of_nodup_map logged.once (logged.recorded a first) (logged.recorded b second)
    same

section Kept
variable {i j : ι} {env : Env} {s s' : Gateway ι J} {l l' m : Progress J}

theorem Logged.advance (logged : Logged s) (pending : Pending i s l)
    (fresh : ∀ r payload, l = .decoded (.refresh r) payload → honoured s.server.users payload →
      r.refreshToken ∈ s.checked.map Prod.snd → refused env s.server.redis payload.jti)
    (moved : Advances i env s l s' l') : Logged s' := by
  cases moved with
  | quiet users checked accepted =>
      constructor
      · rw [checked]
        exact logged.once
      · rw [accepted]
        exact logged.each
      · rw [checked, accepted]
        exact logged.recorded
  | @passes r payload open_ =>
      constructor
      · rw [Gateway.checked_pass]
        split
        · rename_i active
          rw [List.map_cons, List.nodup_cons]
          exact ⟨fun again => open_ (fresh r payload rfl active again), logged.once⟩
        · exact logged.once
      · rw [Gateway.accepted_pass]
        exact logged.each
      · intro entry member
        rw [Gateway.accepted_pass] at member
        rw [Gateway.checked_pass]
        split
        · exact List.mem_cons_of_mem _ (logged.recorded entry member)
        · exact logged.recorded entry member
  | @accepts r payload response active =>
      have unaccepted := pending.unaccepted fun _ same => by cases same
      refine ⟨logged.once, List.nodup_cons.mpr ⟨unaccepted, logged.each⟩, fun entry member => ?_⟩
      rcases List.mem_cons.mp member with rfl | earlier
      · exact pending.passed r payload rfl active
      · exact logged.recorded entry earlier

theorem Pending.advance (pending : Pending i s l) (moved : Advances i env s l s' l') :
    Pending i s' l' := by
  cases moved with
  | quiet users checked accepted unfinished next =>
      refine ⟨fun _ => ?_, fun r payload same => absurd same (next r payload)⟩
      rw [accepted]
      exact pending.unaccepted unfinished
  | passes =>
      constructor
      · intro _
        rw [Gateway.accepted_pass]
        exact pending.unaccepted fun _ same => by cases same
      · intro r payload same active
        cases same
        rw [Gateway.server_pass] at active
        rw [Gateway.checked_pass, if_pos active]
        exact List.mem_cons_self
  | accepts =>
      refine ⟨fun unfinished => absurd rfl (unfinished _), fun r payload same => ?_⟩
      cases same

theorem Pending.others (pending : Pending j s m) (other : j ≠ i)
    (moved : Advances i env s l s' l') : Pending j s' m := by
  cases moved with
  | quiet users checked accepted =>
      constructor
      · rw [accepted]
        exact pending.unaccepted
      · rw [users, checked]
        exact pending.passed
  | passes =>
      constructor
      · rw [Gateway.accepted_pass]
        exact pending.unaccepted
      · intro r payload same active
        rw [Gateway.server_pass] at active
        rw [Gateway.checked_pass]
        split
        · exact List.mem_cons_of_mem _ (pending.passed r payload same active)
        · exact pending.passed r payload same active
  | accepts =>
      refine ⟨fun unfinished member => ?_, pending.passed⟩
      rcases List.mem_cons.mp member with same | earlier
      · exact other same
      · exact pending.unaccepted unfinished earlier

end Kept

/-! ## Runs -/

section Runs
variable [DecidableEq ι] [DecidableEq J]

/-- A token that another refresh got past the blacklist with is refused when it is checked
again, unless its user would be turned away. -/
def rotated (s : System ι (Gateway ι J) (Progress J)) : Move ι Env ℕ → Bool
  | .task i env =>
      match s.task i with
      | .decoded (.refresh r) payload =>
          honoured s.shared.server.users payload →
            r.refreshToken ∈ s.shared.checked.map Prod.snd →
            refused env s.shared.server.redis payload.jti
      | _ => true
  | .environment _ => true

def Rotated (s : System ι (Gateway ι J) (Progress J)) (m : Move ι Env ℕ) : Prop := rotated s m

instance (s : System ι (Gateway ι J) (Progress J)) (m : Move ι Env ℕ) : Decidable (Rotated s m) :=
  inferInstanceAs (Decidable (_ = true))

omit [DecidableEq ι] in
theorem stable_pending :
    Stable (gateway ext settings : Program ι (Gateway ι J) (Progress J) Env ℕ) Rotated Logged
      Pending where
  own s i env shared l holds allowed acted := by
    obtain ⟨-, moved⟩ := Option.ite_none_right_eq_some.mp acted
    have advanced := advances_of_advance moved
    refine ⟨holds.shared.advance (holds.task i) ?_ advanced, (holds.task i).advance advanced⟩
    intro r payload here active again
    have fresh : rotated s (.task i env) = true := allowed
    simp only [rotated, here] at fresh
    exact of_decide_eq_true fresh active again
  others s i env shared l holds _ acted j other := by
    obtain ⟨-, moved⟩ := Option.ite_none_right_eq_some.mp acted
    exact (holds.task j).others other (advances_of_advance moved)
  environment s later shared holds _ changed := by
    obtain ⟨-, ⟨⟩⟩ := Option.ite_none_right_eq_some.mp changed
    refine ⟨⟨holds.shared.once, holds.shared.each, holds.shared.recorded⟩, fun j => ?_⟩
    exact ⟨(holds.task j).unaccepted, (holds.task j).passed⟩

/-- As long as a token that is checked again is refused. -/
theorem singleUse_of_run {now : ℕ} {server : Server} {requests : ι → Request J}
    {s : System ι (Gateway ι J) (Progress J)} {ms : List (Move ι Env ℕ)}
    (run : Run (gateway ext settings).step Rotated (gatewayOpening now server requests) ms s) :
    s.shared.SingleUse := by
  have start : Holds Logged Pending (gatewayOpening now server requests) := by
    refine ⟨⟨List.nodup_nil, List.nodup_nil, fun _ member => absurd member List.not_mem_nil⟩, ?_⟩
    intro i
    refine ⟨fun _ => List.not_mem_nil, fun r payload same => ?_⟩
    cases same
  exact (stable_pending.run run start).shared.singleUse

end Runs

/-! ## Two refreshes with one token -/

def activeUser : User := ⟨5, "activeUser@example.com", "Alice", "hash", true, false⟩

def oneUser : Server where
  users := ⟨[activeUser], List.nodup_singleton _, List.nodup_singleton _⟩
  redis := []

def presented : Claims := ⟨some (Uuid.str 5), some 10, some 0, some "refresh", some "7"⟩

/-- The requests come with one refresh token; `1` is a logout with it. -/
def presents (i : ℕ) : Request Claims :=
  if i = 1 then .logout presented else .refresh ⟨presented⟩

def stepsOf (i : ℕ) (n : ℕ) : List (Move ℕ Env ℕ) :=
  List.replicate n (.task i ⟨0, true, "", 0, 8, 9⟩)

/-- The token is logged out after its first use. -/
theorem singleUse_of_run_logout : ∃ s : System ℕ (Gateway ℕ Claims) (Progress Claims),
    Run (gateway plainExternal .default).step Rotated (gatewayOpening 0 oneUser presents)
      (stepsOf 0 3 ++ stepsOf 1 4 ++ stepsOf 2 2) s ∧ s.shared.SingleUse := by
  have accepted : (exec (gateway plainExternal .default).step Rotated
      (gatewayOpening 0 oneUser presents) (stepsOf 0 3 ++ stepsOf 1 4 ++ stepsOf 2 2)).isSome := by
    decide +kernel
  obtain ⟨s, run⟩ := run_of_isSome accepted
  exact ⟨s, run, singleUse_of_run run⟩

/-- One refresh after the other, with the same token. -/
theorem not_singleUse_repeated :
    ¬ ∀ (ms : List (Move ℕ Env ℕ)) (s : System ℕ (Gateway ℕ Claims) (Progress Claims)),
      Run (gateway plainExternal .default).step Always (gatewayOpening 0 oneUser presents) ms s →
        s.shared.SingleUse := by
  intro claim
  have repeated : (exec (gateway plainExternal .default).step Always
      (gatewayOpening 0 oneUser presents) (stepsOf 0 3 ++ stepsOf 2 3)).any fun s =>
      s.shared.accepted.map Prod.snd = [presented, presented] := by decide +kernel
  obtain ⟨s, run, twice⟩ := run_of_any repeated
  have once := claim _ s run
  rw [Gateway.SingleUse, of_decide_eq_true twice] at once
  exact absurd once (by decide)

end RenderTrust.Auth
