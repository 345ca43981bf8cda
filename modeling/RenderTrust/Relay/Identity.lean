import RenderTrust.Relay.Server
import RenderTrust.Scheduler.Nodes

/-!
# Who speaks for a node

Calls of the gateway by anyone, and an attacker who reads some of the answers. The register
endpoint takes a public key and asks for no signature.
-/
namespace RenderTrust.Relay
open Lib Lib.Hoare Lib.Keyed Lib.Runs Scheduler

variable {J L : Type}

/-- What is known of the JWT library: a token of the gateway decodes to its claims, until it
expires. -/
structure Faithful (jwt : NodeJwt J) : Prop where
  sub : ∀ token seconds payload, jwt.decode (jwt.encode token) seconds = some payload →
    payload.sub = some token.sub
  accepts : ∀ token seconds, seconds ≤ token.exp → ∃ payload,
    jwt.decode (jwt.encode token) seconds = some payload ∧ payload.sub = some token.sub ∧
      payload.tokenType = some token.tokenType

/-- `exposed`: the attacker sent it, or reads the answer. -/
structure Request (L : Type) where
  now : ℕ
  call : Call L
  exposed : Bool

structure Attack (J L : Type) where
  world : World ℕ L
  learned : List J

/-- The token in the answer to a registration. -/
def answered (jwt : NodeJwt J) (x : Exchange L) : List J :=
  match x.call, x.answer with
  | .node (.register ..), .ok (.registered _ _ token) => [jwt.encode token]
  | _, _ => []

def Attack.step [LinearOrder L] [Zero L] [One L] (jwt : NodeJwt J) (a : Attack J L)
    (r : Request L) : Option (Attack J L) :=
  let x := serve r.now r.call a.world
  some ⟨x.after, if r.exposed then answered jwt x ++ a.learned else a.learned⟩

/-- Signatures are not forged: a token that was not read is none of a node. -/
inductive Obtains (jwt : NodeJwt J) (learned : List J) : J → Prop
  | read {token : J} (member : token ∈ learned) : Obtains jwt learned token
  | made {token : J} (unsigned : ∀ seconds payload, jwt.decode token seconds = some payload →
      payload.tokenType ≠ some "node") : Obtains jwt learned token

def AcceptedAs (jwt : NodeJwt J) (s : Store ℕ L) (nodeId : Uuid) (token : J) : Prop :=
  ∃ seconds, (∃ node, getCurrentNode jwt seconds token s = .ok node ∧ node.id = nodeId) ∨
    authenticateWebsocket jwt seconds (some token) nodeId = .ok ()

/-- No token of the attacker is accepted as one of a node with the public key. -/
def Attack.Secure (jwt : NodeJwt J) (publicKey : String) (a : Attack J L) : Prop :=
  ∀ node ∈ a.world.store.nodes, node.publicKey = publicKey → ∀ token,
    Obtains jwt a.learned token → ¬ AcceptedAs jwt a.world.store node.id token

def registers (publicKey : String) : Call L → Bool
  | .node (.register _ _ _ _ key _) => key = publicKey
  | _ => false

/-- No registration of the public key is exposed. -/
def Unexposed (publicKey : String) (_ : Attack J L) (r : Request L) : Prop :=
  r.exposed → ¬ registers publicKey r.call

instance (publicKey : String) (a : Attack J L) (r : Request L) :
    Decidable (Unexposed publicKey a r) :=
  inferInstanceAs (Decidable (_ → _))

/-! ## Tokens -/

section Tokens
variable {jwt : NodeJwt J} {seconds : ℕ} {token : J} {nodeId : Uuid}

theorem verifyNodeToken_ok {payload : Auth.Claims}
    (verified : verifyNodeToken jwt seconds token = .ok payload) :
    jwt.decode token seconds = some payload ∧ payload.tokenType = some "node" := by
  unfold verifyNodeToken at verified
  cases decoded : jwt.decode token seconds with
  | none =>
      rw [decoded] at verified
      cases verified
  | some claims =>
      simp only [decoded] at verified
      split at verified
      · cases verified
      · rename_i node
        split at verified
        · cases verified
        · cases verified
          exact ⟨rfl, not_not.mp node⟩

theorem authenticateWebsocket_ok
    (accepted : authenticateWebsocket jwt seconds (some token) nodeId = .ok ()) :
    ∃ payload, verifyNodeToken jwt seconds token = .ok payload ∧ payload.sub = some nodeId.str := by
  simp only [authenticateWebsocket] at accepted
  cases verified : verifyNodeToken jwt seconds token with
  | error e =>
      rw [verified] at accepted
      cases accepted
  | ok payload =>
      simp only [verified] at accepted
      split at accepted
      · cases accepted
      · rename_i same
        exact ⟨payload, rfl, (not_not.mp same).symm⟩

theorem getCurrentNode_ok {s : Store ℕ L} {node : EdgeNode ℕ L}
    (accepted : getCurrentNode jwt seconds token s = .ok node) :
    ∃ payload, verifyNodeToken jwt seconds token = .ok payload ∧
      payload.sub.bind Uuid.parse = some node.id ∧ node ∈ s.nodes := by
  unfold getCurrentNode at accepted
  cases verified : verifyNodeToken jwt seconds token with
  | error e =>
      rw [verified] at accepted
      cases accepted
  | ok payload =>
      simp only [verified] at accepted
      cases parsed : payload.sub.bind Uuid.parse with
      | none =>
          rw [parsed] at accepted
          cases accepted
      | some id =>
          simp only [parsed, currentNode] at accepted
          cases found : s.nodeById id with
          | none =>
              rw [found] at accepted
              cases accepted
          | some row =>
              simp only [found] at accepted
              split at accepted
              · cases accepted
              · obtain ⟨member, same⟩ := Store.nodeById_eq_some found
                cases accepted
                rw [same]
                exact ⟨payload, rfl, parsed, member⟩

/-- What both doors ask of a token. -/
theorem AcceptedAs.decoded {s : Store ℕ L} (accepted : AcceptedAs jwt s nodeId token) :
    ∃ seconds payload, jwt.decode token seconds = some payload ∧
      payload.tokenType = some "node" ∧ payload.sub.bind Uuid.parse = some nodeId := by
  obtain ⟨seconds, ⟨node, current, rfl⟩ | relayed⟩ := accepted
  · obtain ⟨payload, verified, parsed, -⟩ := getCurrentNode_ok current
    obtain ⟨decoded, node⟩ := verifyNodeToken_ok verified
    exact ⟨seconds, payload, decoded, node, parsed⟩
  · obtain ⟨payload, verified, named⟩ := authenticateWebsocket_ok relayed
    obtain ⟨decoded, node⟩ := verifyNodeToken_ok verified
    refine ⟨seconds, payload, decoded, node, ?_⟩
    rw [named, Option.bind_some, Uuid.parse_str]

end Tokens

/-! ## Registrations -/

section Register
variable [Zero L]

theorem answers_registerNode (now : ℕ) (id jti : Uuid) (challenge name publicKey : String)
    (capabilities : Option (List String)) :
    Triple (fun _ => True)
      (registerNode (L := L) now id jti challenge name publicKey capabilities)
      (fun r t => r.1 ∈ t.nodes ∧ r.1.publicKey = publicKey ∧
        ∃ caps, r.2.2 = createNodeToken now jti r.1.id caps)
      (fun _ _ => True) := by
  unfold registerNode
  refine .ite (fun _ => .raise fun _ h => h) fun _ => .read fun t _ => ?_
  split
  · refine .bind (R := fun _ u => newNode id name publicKey
      ((capabilities.getD []).map Json.str) ∈ u.nodes) ?_
      fun _ => .ret fun _ member => ⟨member, rfl, _, rfl⟩
    unfold insertNode
    refine .ite (fun _ => .raise fun _ _ => trivial) fun _ => .read fun u _ => ?_
    refine .ite (fun _ => .raise fun _ _ => trivial) fun _ => .write fun v _ => ?_
    exact List.mem_append_right _ (List.mem_singleton_self _)
  · rename_i existing only
    have inside : existing ∈ t.nodes.filter fun node => node.publicKey = publicKey := by
      rw [only]
      exact List.mem_singleton_self _
    obtain ⟨member, key⟩ := List.mem_filter.mp inside
    refine .ite (fun _ => .ret ?_) fun _ => ?_
    · intro u same
      rw [same]
      exact ⟨member, of_decide_eq_true key, _, rfl⟩
    · split
      · exact .raise fun _ _ => trivial
      · apply Triple.ret
        intro u same
        rw [same]
        exact ⟨member, of_decide_eq_true key, _, rfl⟩
  · exact .raise fun _ _ => trivial

end Register

section Serve
variable [LinearOrder L] [Zero L] [One L] {jwt : NodeJwt J} {now : ℕ} {call : Call L}
  {w : World ℕ L}

/-- The token of the answer names the row of the public key. -/
theorem serve_register (id jti : Uuid) (challenge name publicKey : String)
    (capabilities : Option (List String)) {node : EdgeNode ℕ L} {challenge' : String}
    {token : NodeToken}
    (h : (serve now (.node (.register id jti challenge name publicKey capabilities)) w).answer =
      .ok (.registered node challenge' token)) :
    node ∈ (serve now (.node (.register id jti challenge name publicKey capabilities))
        w).after.store.nodes ∧
      node.publicKey = publicKey ∧ ∃ caps, token = createNodeToken now jti node.id caps := by
  have ends := answers_registerNode (L := L) now id jti challenge name publicKey capabilities
    w.store trivial
  change (serveNode now _ w).answer = _ at h
  change node ∈ (serveNode now _ w).after.store.nodes ∧ _
  cases ran : (registerNode now id jti challenge name publicKey capabilities).run w.store with
  | ok r s =>
      rw [ran] at ends
      have served : serveNode now (.register id jti challenge name publicKey capabilities) w = _ :=
        serveNode_ok (run_bind_ok ran)
      rw [served] at h ⊢
      cases h
      exact ends
  | error e s =>
      have served : serveNode now (.register id jti challenge name publicKey capabilities) w = _ :=
        serveNode_error (run_bind_error ran)
      rw [served] at h
      split at h <;> cases h

theorem answered_read {token : J} (member : token ∈ answered jwt (serve now call w)) :
    ∃ node ∈ (serve now call w).after.store.nodes, registers node.publicKey call ∧
      ∃ jti caps, token = jwt.encode (createNodeToken now jti node.id caps) := by
  unfold answered at member
  split at member
  · rename_i id jti challenge name publicKey capabilities node challenge' claims asked replied
    rw [(serve_asked now call w).2.1] at asked
    obtain rfl := asked
    obtain ⟨inside, key, caps, rfl⟩ := serve_register id jti challenge name publicKey capabilities
      replied
    refine ⟨node, inside, decide_eq_true key.symm, jti, caps, ?_⟩
    exact List.mem_singleton.mp member
  · exact absurd member List.not_mem_nil

end Serve

/-! ## Runs -/

section Runs
variable [LinearOrder L] [Zero L] [One L] {jwt : NodeJwt J} {publicKey : String}

/-- What was read names other nodes. -/
structure Confined (jwt : NodeJwt J) (publicKey : String) (a : Attack J L) : Prop where
  distinct : a.world.store.DistinctNodes
  others : ∀ token ∈ a.learned, ∃ claims, token = jwt.encode claims ∧
    ∃ node ∈ a.world.store.nodes, claims.sub = node.id.str ∧ node.publicKey ≠ publicKey

theorem Confined.step {a : Attack J L} (h : Confined jwt publicKey a) (r : Request L)
    (allowed : Unexposed publicKey a r) {b : Attack J L} (stepped : a.step jwt r = some b) :
    Confined jwt publicKey b := by
  obtain rfl := Option.some.inj stepped
  have writes := writes_serve r.now r.call a.world h.distinct
  refine ⟨distinctNodes_of_writes writes h.distinct, fun token member => ?_⟩
  have earlier : token ∈ a.learned → ∃ claims, token = jwt.encode claims ∧
      ∃ node ∈ (serve r.now r.call a.world).after.store.nodes,
        claims.sub = node.id.str ∧ node.publicKey ≠ publicKey := by
    intro known
    obtain ⟨claims, built, node, inside, named, other⟩ := h.others token known
    obtain ⟨row, there, change⟩ := writes.target inside
    refine ⟨claims, built, row, there, ?_, ?_⟩
    · rw [named, change.id]
    · rw [change.publicKey]
      exact other
  by_cases exposed : r.exposed
  · rw [if_pos exposed] at member
    rcases List.mem_append.mp member with new | old
    · obtain ⟨node, there, registered, jti, caps, built⟩ := answered_read new
      refine ⟨_, built, node, there, rfl, ?_⟩
      rintro rfl
      exact allowed exposed registered
    · exact earlier old
  · rw [if_neg exposed] at member
    exact earlier member

omit [LinearOrder L] [Zero L] [One L] in
theorem Confined.secure {a : Attack J L} (h : Confined jwt publicKey a) (faithful : Faithful jwt) :
    a.Secure jwt publicKey := by
  intro node member key token obtained accepted
  obtain ⟨seconds, payload, decoded, type, named⟩ := accepted.decoded
  cases obtained with
  | made unsigned => exact unsigned seconds payload decoded type
  | read known =>
      obtain ⟨claims, rfl, row, inside, sub, other⟩ := h.others token known
      have read := faithful.sub claims seconds payload decoded
      rw [read, sub, Option.bind_some, Uuid.parse_str] at named
      obtain rfl := List.inj_on_of_nodup_map h.distinct inside member (Option.some.inj named)
      exact other key

/-- As long as every registration of the public key stays with the node. -/
theorem secure_of_run (faithful : Faithful jwt) {w : World ℕ L} {a : Attack J L}
    {rs : List (Request L)}
    (run : Run (Attack.step jwt) (Unexposed publicKey) ⟨w, []⟩ rs a)
    (distinct : w.store.DistinctNodes) : a.Secure jwt publicKey := by
  have start : Confined jwt publicKey (⟨w, []⟩ : Attack J L) :=
    ⟨distinct, fun token member => absurd member List.not_mem_nil⟩
  have confined := run.invariant (fun a r b h allowed stepped => h.step r allowed stepped) start
  exact confined.secure faithful

/-- What an exposed registration hands out is accepted by the relay at once. -/
theorem accepted_of_exposed (faithful : Faithful jwt) {now : ℕ} {call : Call L} {w : World ℕ L}
    {token : J} (member : token ∈ answered jwt (serve now call w)) :
    ∃ node ∈ (serve now call w).after.store.nodes, registers node.publicKey call ∧
      AcceptedAs jwt (serve now call w).after.store node.id token := by
  obtain ⟨node, inside, registered, jti, caps, rfl⟩ := answered_read member
  refine ⟨node, inside, registered, now / 1000000, .inr ?_⟩
  obtain ⟨payload, decoded, sub, type⟩ := faithful.accepts
    (createNodeToken now jti node.id caps) (now / 1000000) (Nat.le_add_right _ _)
  have named : payload.sub = some node.id.str := sub
  have node' : payload.tokenType = some "node" := type
  have nonempty : node.id.str ≠ "" := by
    intro empty
    have length := Uuid.length_str node.id
    rw [empty] at length
    cases length
  have verified : verifyNodeToken jwt (now / 1000000)
      (jwt.encode (createNodeToken now jti node.id caps)) = .ok payload := by
    simp [verifyNodeToken, decoded, node', named, nonempty]
  simp [authenticateWebsocket, verified, named]

end Runs

/-! ## The second registration -/

/-- A token is the claims themselves. -/
def plainJwt : NodeJwt NodeToken where
  encode token := token
  decode token seconds :=
    if seconds ≤ token.exp then
      some ⟨some token.sub, some token.exp, some token.iat, some token.tokenType, some token.jti⟩
    else none

theorem faithful_plainJwt : Faithful plainJwt := by
  constructor
  · intro token seconds payload decoded
    change (if seconds ≤ token.exp then _ else none) = some payload at decoded
    split at decoded
    · cases decoded
      rfl
    · cases decoded
  · intro token seconds fresh
    exact ⟨_, if_pos fresh, rfl, rfl⟩

/-- The node registers twice, and the attacker with a key of its own. -/
theorem secure_of_run_plain : ∃ a : Attack NodeToken ℕ,
    Run (Attack.step plainJwt) (Unexposed "ed25519:3") ⟨⟨⟨[], [], [], []⟩, .new⟩, []⟩
      [⟨1, .node (.register 3 7 "challenge" "node" "ed25519:3" none), false⟩,
        ⟨2, .node (.register 4 8 "challenge" "node" "ed25519:4" none), true⟩,
        ⟨3, .node (.register 5 9 "challenge" "node" "ed25519:3" none), false⟩] a ∧
      a.Secure plainJwt "ed25519:3" := by
  have accepted : (exec (Attack.step plainJwt) (Unexposed "ed25519:3")
      ⟨⟨⟨[], [], [], []⟩, .new⟩, []⟩
      [⟨1, .node (.register 3 7 "challenge" "node" "ed25519:3" none), false⟩,
        ⟨2, .node (.register 4 8 "challenge" "node" "ed25519:4" none), true⟩,
        ⟨3, .node (.register 5 9 "challenge" "node" "ed25519:3" none), false⟩] :
      Option (Attack NodeToken ℕ)).isSome := by decide +kernel
  obtain ⟨a, run⟩ := run_of_isSome accepted
  exact ⟨a, run, secure_of_run faithful_plainJwt run List.nodup_nil⟩

def isRegistration : Call L → Bool
  | .node (.register ..) => true
  | _ => false

/-- The attacker registers the public key of the node, and gets a token of the node. -/
theorem not_secure_registered :
    ¬ ∀ (rs : List (Request ℕ)) (a : Attack NodeToken ℕ),
      Run (Attack.step plainJwt) (fun _ r => isRegistration r.call)
        ⟨⟨⟨[], [], [], []⟩, .new⟩, []⟩ rs a → a.Secure plainJwt "ed25519:3" := by
  intro claim
  have read : (exec (Attack.step plainJwt) (fun _ r => isRegistration r.call)
      ⟨⟨⟨[], [], [], []⟩, .new⟩, []⟩
      [⟨1, .node (.register 3 7 "challenge" "node" "ed25519:3" none), false⟩,
        ⟨2, .node (.register 4 8 "challenge" "attacker" "ed25519:3" none), true⟩] :
      Option (Attack NodeToken ℕ)).any fun a => a.learned.any fun token =>
        a.world.store.nodes.any fun node => node.publicKey = "ed25519:3" ∧
          (authenticateWebsocket plainJwt 2 (some token) node.id).toBool := by decide +kernel
  obtain ⟨a, run, found⟩ := run_of_any read
  obtain ⟨token, member, named⟩ := List.any_eq_true.mp found
  obtain ⟨node, inside, both⟩ := List.any_eq_true.mp named
  obtain ⟨key, accepted⟩ := of_decide_eq_true both
  refine claim _ a run node inside key token (.read member) ⟨2, .inr ?_⟩
  cases relayed : authenticateWebsocket plainJwt 2 (some token) node.id with
  | ok done => rfl
  | error code =>
      rw [relayed] at accepted
      cases accepted

end RenderTrust.Relay
