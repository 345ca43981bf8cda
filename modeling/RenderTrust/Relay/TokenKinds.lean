import RenderTrust.Auth.Rotation
import RenderTrust.Relay.Identity

/-!
# Tokens at the wrong door

Four places make tokens with one secret: `create_access_token` and `create_refresh_token`,
`create_node_token`, and `core/ledger/vault/token_rotator.py`, which leaves the type of its
token out.
-/
namespace RenderTrust.Relay
open Lib Lib.Hoare Scheduler
open Auth (AuthM Claims External Env Settings TokenPayload TokenType User)

variable {J L : Type} {ext : External J} {jwt : NodeJwt J} {settings : Settings}

/-! ## `core/ledger/vault/token_rotator.py` -/

/-- The secrets of a path, the latest first. -/
abbrev Vault (J : Type) := List (String × J)

def rotationClaims (now : ℕ) (nodeId : String) : Claims :=
  ⟨some nodeId, some (now / 1000000 + 24 * 3600), some (now / 1000000), none, none⟩

/-- `none` is an exception of Vault. -/
def rotate (ext : External J) (now : ℕ) (nodeId : String) (available : Bool) (vault : Vault J) :
    Option (J × Vault J) :=
  let token := ext.encode (rotationClaims now nodeId)
  if available then some (token, ("edge/" ++ nodeId, token) :: vault) else none

/-! ## One secret -/

/-- What a payload of `create_node_token` says to a verifier. -/
def nodeClaims (token : NodeToken) : Claims :=
  ⟨some token.sub, some token.exp, some token.iat, some token.tokenType, some token.jti⟩

/-- The users' and the nodes' verifiers read a token alike, as the claims it was made from, and
until it expires. -/
structure Signing (ext : External J) (jwt : NodeJwt J) : Prop where
  shared : jwt.decode = ext.decode
  decodes : ∀ claims seconds payload, ext.decode (ext.encode claims) seconds = some payload →
    payload = claims
  node : ∀ token seconds payload, ext.decode (jwt.encode token) seconds = some payload →
    payload = nodeClaims token
  accepts : ∀ claims exp seconds, claims.exp = some exp → seconds ≤ exp →
    ext.decode (ext.encode claims) seconds = some claims

/-- A token that is made. -/
inductive Mint where
  | access (env : Env) (userId : Uuid)
  | refresh (env : Env) (userId : Uuid)
  | node (now : ℕ) (jti nodeId : Uuid) (capabilities : List Json)
  | rotated (now : ℕ) (nodeId : String)

namespace Mint

def token (ext : External J) (jwt : NodeJwt J) (settings : Settings) : Mint → J
  | .access env userId => Auth.createAccessToken ext settings env userId.str
  | .refresh env userId => Auth.createRefreshToken ext settings env userId.str
  | .node now jti nodeId capabilities =>
      jwt.encode (createNodeToken now jti nodeId capabilities)
  | .rotated now nodeId => ext.encode (rotationClaims now nodeId)

def claims (settings : Settings) : Mint → Claims
  | .access env userId => Auth.accessClaims settings env userId.str
  | .refresh env userId => Auth.refreshClaims settings env userId.str
  | .node now jti nodeId capabilities => nodeClaims (createNodeToken now jti nodeId capabilities)
  | .rotated now nodeId => rotationClaims now nodeId

/-- The user that an access token is for. -/
def accessUser : Mint → Option Uuid
  | .access _ userId => some userId
  | _ => none

def isRefresh : Mint → Bool
  | .refresh .. => true
  | _ => false

/-- The node that a token of a node is for. -/
def nodeId : Mint → Option Uuid
  | .node _ _ nodeId _ => some nodeId
  | .rotated _ nodeId => Uuid.parse nodeId
  | _ => none

end Mint

/-- The endpoint hands out the token that its claims make. -/
theorem rotate_token {now : ℕ} {nodeId : String} {available : Bool} {vault vault' : Vault J}
    {token : J} (h : rotate ext now nodeId available vault = some (token, vault')) :
    token = (Mint.rotated now nodeId).token ext jwt settings ∧
      vault'.lookup ("edge/" ++ nodeId) = some token := by
  simp only [rotate] at h
  obtain ⟨-, same⟩ := Option.ite_none_right_eq_some.mp h
  cases same
  refine ⟨rfl, ?_⟩
  simp

theorem Mint.decoded (signing : Signing ext jwt) {m : Mint} {seconds : ℕ} {payload : Claims}
    (h : ext.decode (m.token ext jwt settings) seconds = some payload) :
    payload = m.claims settings := by
  cases m with
  | access | refresh | rotated => exact signing.decodes _ _ _ h
  | node => exact signing.node _ _ _ h

/-! ## The doors -/

/-- `get_current_user` takes the token, at some time, as the user's. -/
def AcceptedAsUser (ext : External J) (w : Auth.World) (userId : Uuid) (token : J) : Prop :=
  ∃ env user w', (Auth.getCurrentUser ext env token).run w = .ok user w' ∧ user.id = userId

def Refreshes (ext : External J) (settings : Settings) (w : Auth.World) (token : J) : Prop :=
  ∃ env tokens w', (Auth.refresh ext settings env ⟨token⟩).run w = .ok tokens w'

/-- Each door takes its own kind, and one of a node as the node it is for. -/
structure Mint.Apart (ext : External J) (jwt : NodeJwt J) (settings : Settings) (w : Auth.World)
    (s : Store ℕ L) (m : Mint) : Prop where
  user : ∀ userId, AcceptedAsUser ext w userId (m.token ext jwt settings) →
    m.accessUser = some userId
  refresh : Refreshes ext settings w (m.token ext jwt settings) → m.isRefresh
  node : ∀ nodeId, AcceptedAs jwt s nodeId (m.token ext jwt settings) → m.nodeId = some nodeId

/-- An active user has the id. -/
def active (w : Auth.World) (userId : Uuid) : Bool :=
  (w.session.working.rows.find? fun user => user.id = userId).any User.isActive

/-- A rotation for a node that is called like an active user. -/
def Mint.namesUser (w : Auth.World) : Mint → Bool
  | .rotated _ nodeId => (Uuid.parse nodeId).any (active w)
  | _ => false

/-! ## What the users' verifiers ask for -/

section Users
variable {env : Env} {seconds : ℕ} {token : J} {w : Auth.World} {payload : TokenPayload}
  {userId : Uuid}

theorem payload_read {claims : Claims} {sub : String} (h : claims.payload sub = .ok payload) :
    payload.sub = sub ∧
      TokenType.ofValue (claims.tokenType.getD TokenType.ACCESS.value) = .ok payload.tokenType := by
  unfold Claims.payload at h
  split at h
  · cases h
  · cases h
  · split at h
    · cases h
    · rename_i type
      cases h
      exact ⟨rfl, type⟩

theorem tokenPayload_ok (h : Auth.tokenPayload ext seconds token = .ok payload) :
    ∃ claims, ext.decode token seconds = some claims ∧ claims.sub = some payload.sub ∧
      TokenType.ofValue (claims.tokenType.getD TokenType.ACCESS.value) = .ok payload.tokenType := by
  obtain ⟨claims, sub, decoded, named, read⟩ := Auth.tokenPayload_claims h
  obtain ⟨same, type⟩ := payload_read read
  refine ⟨claims, decoded, ?_, type⟩
  rw [named, same]

/-- `get_current_user` after `verify_token`. -/
def loadUser (tokenData : TokenPayload) : AuthM User := do
  if tokenData.tokenType ≠ .ACCESS then throw (.httpException 401 "Invalid token type")
  match Uuid.parse tokenData.sub with
  | none => throw (.httpException 401 "Invalid user ID")
  | some userId =>
    match ← Auth.userById userId with
    | none => throw (.httpException 401 "User not found")
    | some user =>
      if !user.isActive then throw (.httpException 401 "Inactive user")
      return user

theorem getCurrentUser_eq (ext : External J) (env : Env) (token : J) :
    Auth.getCurrentUser ext env token = Auth.verifyToken ext env token >>= loadUser := rfl

/-- The payload is one of an access token of an active user. -/
def authorises (w : Auth.World) (payload : TokenPayload) : Bool :=
  payload.tokenType = .ACCESS ∧ (Uuid.parse payload.sub).any (active w)

theorem ends_loadUser (payload : TokenPayload) (w : Auth.World) :
    Triple (fun v => v = w) (loadUser payload)
      (fun user _ => authorises w payload ∧ Uuid.parse payload.sub = some user.id)
      (fun _ _ => authorises w payload = false) := by
  unfold loadUser
  refine .ite (fun other => .raise fun _ _ => by simp [authorises, other]) fun type => ?_
  have access := not_not.mp type
  cases parsed : Uuid.parse payload.sub with
  | none => exact .raise fun _ _ => by simp [authorises, parsed]
  | some userId =>
      refine .read ?_
      rintro v rfl
      cases found : v.session.working.rows.find? fun user => user.id = userId with
      | none => exact .raise fun _ _ => by simp [authorises, active, parsed, found]
      | some user =>
          have same : user.id = userId := by simpa using List.find?_some found
          refine .ite (fun inactive => .raise fun _ _ => ?_) fun enabled => .ret fun _ _ => ?_
          · have disabled : user.isActive = false := by simpa using inactive
            simp [authorises, active, parsed, found, disabled]
          · have enabled' : user.isActive = true := by simpa using enabled
            rw [same]
            exact ⟨by simp [authorises, active, access, parsed, found, enabled'], rfl⟩

theorem verified_ok {α : Type} {f : TokenPayload → AuthM α} {a : α} {w' : Auth.World}
    (ran : (Auth.verifyToken ext env token >>= f).run w = .ok a w') :
    ∃ payload, Auth.tokenPayload ext env.seconds token = .ok payload ∧
      Auth.refused env w.redis payload.jti = false ∧ (f payload).run w = .ok a w' := by
  rw [Auth.run_verifyToken_bind] at ran
  cases read : Auth.tokenPayload ext env.seconds token with
  | error e =>
      rw [read] at ran
      cases ran
  | ok payload =>
      simp only [read] at ran
      cases listed : Auth.refused env w.redis payload.jti with
      | true =>
          rw [listed] at ran
          cases ran
      | false =>
          simp only [listed, Bool.false_eq_true, if_false] at ran
          exact ⟨payload, rfl, listed, ran⟩

/-- When `get_current_user` takes a token. -/
theorem acceptedAsUser_iff : AcceptedAsUser ext w userId token ↔
    ∃ env payload, Auth.tokenPayload ext env.seconds token = .ok payload ∧
      Auth.refused env w.redis payload.jti = false ∧ authorises w payload ∧
      Uuid.parse payload.sub = some userId := by
  constructor
  · rintro ⟨env, user, w', ran, rfl⟩
    rw [getCurrentUser_eq] at ran
    obtain ⟨payload, read, unlisted, loaded⟩ := verified_ok ran
    exact ⟨env, payload, read, unlisted, (ends_loadUser payload w).ok rfl loaded⟩
  · rintro ⟨env, payload, read, unlisted, authorised, parsed⟩
    have ran := Auth.run_verifyToken_bind ext env token loadUser w
    simp only [read, unlisted, Bool.false_eq_true, if_false] at ran
    cases loaded : (loadUser payload).run w with
    | ok user w' =>
        obtain ⟨-, named⟩ := (ends_loadUser payload w).ok rfl loaded
        rw [loaded] at ran
        refine ⟨env, user, w', ran, ?_⟩
        rw [named] at parsed
        exact Option.some.inj parsed
    | error e w' =>
        have turned := (ends_loadUser payload w).error rfl loaded
        rw [turned] at authorised
        cases authorised

theorem refreshes_payload (h : Refreshes ext settings w token) : ∃ seconds payload,
    Auth.tokenPayload ext seconds token = .ok payload ∧ payload.tokenType = .REFRESH := by
  obtain ⟨env, tokens, w', ran⟩ := h
  rw [Auth.refresh_eq] at ran
  obtain ⟨payload, read, -, refreshed⟩ := verified_ok ran
  obtain ⟨-, honoured⟩ := (Auth.ends_refreshed ext settings env payload w).ok rfl refreshed
  exact ⟨env.seconds, payload, read, (of_decide_eq_true honoured).1⟩

end Users

/-! ## Where each kind gets through -/

section Doors
variable {m : Mint} {w : Auth.World} {seconds : ℕ} {payload : TokenPayload}

/-- The type that the users' verifiers see; a token without one is taken as an access token. -/
def Mint.seenAs : Mint → Option TokenType
  | .access .. | .rotated .. => some .ACCESS
  | .refresh .. => some .REFRESH
  | .node .. => none

theorem Mint.seen (signing : Signing ext jwt)
    (read : Auth.tokenPayload ext seconds (m.token ext jwt settings) = .ok payload) :
    m.seenAs = some payload.tokenType ∧ (m.claims settings).sub = some payload.sub := by
  obtain ⟨claims, decoded, sub, type⟩ := tokenPayload_ok read
  obtain rfl := Mint.decoded signing decoded
  refine ⟨?_, sub⟩
  cases m with
  | access | rotated =>
      have known : Except.ok TokenType.ACCESS = .ok payload.tokenType := type
      exact congrArg some (Except.ok.inj known)
  | refresh =>
      have known : Except.ok TokenType.REFRESH = .ok payload.tokenType := type
      exact congrArg some (Except.ok.inj known)
  | node => cases type

theorem Mint.accessUser_of_accepted (signing : Signing ext jwt) {userId : Uuid}
    (unnamed : m.namesUser w = false)
    (accepted : AcceptedAsUser ext w userId (m.token ext jwt settings)) :
    m.accessUser = some userId := by
  obtain ⟨env, payload, read, -, authorised, parsed⟩ := acceptedAsUser_iff.mp accepted
  obtain ⟨seen, sub⟩ := Mint.seen signing read
  obtain ⟨type, found⟩ := of_decide_eq_true authorised
  cases m with
  | access env owner =>
      have same : some owner.str = some payload.sub := sub
      rw [← Option.some.inj same, Uuid.parse_str] at parsed
      exact parsed
  | refresh =>
      rw [type] at seen
      cases seen
  | node => cases seen
  | rotated now nodeId =>
      have same : some nodeId = some payload.sub := sub
      rw [← Option.some.inj same] at found
      have named : (Uuid.parse nodeId).any (active w) = false := unnamed
      rw [named] at found
      cases found

theorem Mint.isRefresh_of_refreshes (signing : Signing ext jwt)
    (accepted : Refreshes ext settings w (m.token ext jwt settings)) : m.isRefresh := by
  obtain ⟨seconds, payload, read, type⟩ := refreshes_payload accepted
  obtain ⟨seen, -⟩ := Mint.seen signing read
  rw [type] at seen
  cases m with
  | refresh => rfl
  | access | node | rotated => cases seen

theorem Mint.nodeId_of_accepted (signing : Signing ext jwt) {s : Store ℕ L} {nodeId : Uuid}
    (accepted : AcceptedAs jwt s nodeId (m.token ext jwt settings)) :
    m.nodeId = some nodeId := by
  obtain ⟨seconds, payload, decoded, type, named⟩ := accepted.decoded
  rw [signing.shared] at decoded
  obtain rfl := Mint.decoded signing decoded
  cases m with
  | node now jti owner capabilities =>
      have read : (some owner.str).bind Uuid.parse = some nodeId := named
      rw [Option.bind_some, Uuid.parse_str] at read
      exact read
  | access =>
      have known : some "access" = some "node" := type
      exact absurd known (by decide)
  | refresh =>
      have known : some "refresh" = some "node" := type
      exact absurd known (by decide)
  | rotated => cases type

/-- A node's name is no barrier: the rotated token has no type and no identity to revoke. -/
theorem acceptedAsUser_rotated (signing : Signing ext jwt) {now : ℕ} {nodeId : String}
    {userId : Uuid} (parsed : Uuid.parse nodeId = some userId) (found : active w userId) :
    AcceptedAsUser ext w userId ((Mint.rotated now nodeId).token ext jwt settings) := by
  have unexpired : now / 1000000 ≤ now / 1000000 + 24 * 3600 := Nat.le_add_right _ _
  have decoded : ext.decode (ext.encode (rotationClaims now nodeId)) (now / 1000000) =
      some (rotationClaims now nodeId) := signing.accepts _ _ _ rfl unexpired
  apply acceptedAsUser_iff.mpr
  refine ⟨⟨now, true, "", 0, 0, 0⟩, ⟨nodeId, now / 1000000 + 24 * 3600, now / 1000000, .ACCESS, ""⟩,
    ?_, ?_, ?_, parsed⟩
  · simp only [Auth.tokenPayload, Env.seconds, Mint.token, decoded]
    rfl
  · simp [Auth.refused]
  · simp [authorises, parsed, found]

/-- Only a rotation for a node that is called like an active user makes a token of another
kind. -/
theorem Mint.apart_iff (signing : Signing ext jwt) (s : Store ℕ L) :
    m.Apart ext jwt settings w s ↔ m.namesUser w = false := by
  constructor
  · intro apart
    cases m with
    | access | refresh | node => rfl
    | rotated now nodeId =>
        cases parsed : Uuid.parse nodeId with
        | none => simp [Mint.namesUser, parsed]
        | some userId =>
            cases found : active w userId with
            | false =>
                simp only [Mint.namesUser, parsed]
                exact found
            | true =>
                have accepted := apart.user userId (acceptedAsUser_rotated signing parsed found)
                cases accepted
  · intro unnamed
    exact {
      user := fun userId => Mint.accessUser_of_accepted signing unnamed
      refresh := Mint.isRefresh_of_refreshes signing
      node := fun nodeId => Mint.nodeId_of_accepted signing }

end Doors

/-! ## A node that is called like a user -/

/-- A token is its claims, of either side. -/
def signedUsers : External Claims := Auth.plainExternal

def signedNodes : NodeJwt Claims where
  encode := nodeClaims
  decode := signedUsers.decode

theorem signing_signed : Signing signedUsers signedNodes := by
  have read : ∀ token seconds payload, signedUsers.decode token seconds = some payload →
      payload = token := by
    intro token seconds payload decoded
    unfold signedUsers Auth.plainExternal at decoded
    simp only at decoded
    split at decoded
    · cases decoded
      rfl
    · obtain ⟨-, same⟩ := Option.ite_none_right_eq_some.mp decoded
      cases same
      rfl
  refine ⟨rfl, fun claims => read claims, fun token => read (nodeClaims token), ?_⟩
  intro claims exp seconds expiry le
  simp [signedUsers, Auth.plainExternal, expiry, le]

def signedIn : Auth.World := ⟨⟨Auth.oneUser.users, Auth.oneUser.users⟩, []⟩

theorem apart_rotated_node : (Mint.rotated 0 "node-1").namesUser signedIn = false ∧
    (Mint.rotated 0 "node-1").Apart signedUsers signedNodes .default signedIn
      (⟨[], [], [], []⟩ : Store ℕ ℕ) := by
  have unnamed : (Mint.rotated 0 "node-1").namesUser signedIn = false := by decide +kernel
  exact ⟨unnamed, (Mint.apart_iff signing_signed _).mpr unnamed⟩

theorem not_apart_rotated :
    ¬ ∀ m : Mint, m.Apart signedUsers signedNodes .default signedIn
      (⟨[], [], [], []⟩ : Store ℕ ℕ) := by
  intro claim
  have parsed : Uuid.parse (Uuid.str 5) = some 5 := Uuid.parse_str 5
  have found : active signedIn 5 = true := by decide +kernel
  have accepted := (claim (.rotated 0 (Uuid.str 5))).user 5
    (acceptedAsUser_rotated signing_signed parsed found)
  cases accepted

end RenderTrust.Relay
