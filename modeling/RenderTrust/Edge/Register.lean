import Mathlib.Data.List.DropRight
import RenderTrust.Lib.Unicode
import RenderTrust.Scheduler.Auth
import RenderTrust.Scheduler.Registrations

/-!
# `edgekit/cli/register.py`

`edgekit register` and the gateways. A command may end before any of its effects; one that ends
before the first is none. Keys `K` are of any type, and `pem` is the text of the public key.
-/
namespace RenderTrust.Edge.Register
open Lib Lib.Runs Lib.Unicode Scheduler

structure Config where
  nodeId : String
  name : String
  gatewayUrl : String
  jwtToken : NodeToken
  status : NodeStatus
  capabilities : List String

/-- `~/.edgekit`. -/
structure EdgekitDir (K : Type) where
  nodeKey : Option K
  nodeKeyPub : Option String
  config : Option Config

/-- The effect before which a command ends. -/
inductive Effect where
  | writePublicKey
  | request
  | receive
  | saveConfig
  deriving DecidableEq, Repr

inductive Report where
  | alreadyRegistered
  | failed
  | registered
  deriving DecidableEq, Repr

/-- The options of a command, what is drawn for it, and where it ends. -/
structure Command (K : Type) where
  gatewayUrl : String
  name : String
  capabilities : String
  force : Bool
  key : K
  id : Uuid
  jti : Uuid
  challenge : String
  stop : Option Effect

structure World (K L : Type) where
  dir : EdgekitDir K
  gateways : String → Store ℕ L
  reports : List Report

/-- What else reaches a gateway. -/
inductive Request (L : Type) where
  | register (registration : Registration)
  | heartbeat (nodeId : Uuid) (currentLoad : L)
  | sweep

inductive Event (K L : Type) where
  | command (now : ℕ) (c : Command K)
  | request (now : ℕ) (gateway : String) (r : Request L)

/-- `gateway_url.rstrip('/')`. -/
def base (gatewayUrl : String) : String :=
  String.ofList (gatewayUrl.toList.rdropWhile (· = '/'))

/-- `[c.strip() for c in capabilities.split(",") if c.strip()]`. -/
def caps (capabilities : String) : List String :=
  ((fields ',' capabilities.toList).filter (· ≠ [])).map String.ofList

section Steps
variable {K L : Type} (pem : K → String)

def Command.registration (c : Command K) : Registration where
  id := c.id
  jti := c.jti
  challenge := c.challenge
  name := c.name
  publicKey := pem c.key
  capabilities := some (caps c.capabilities)

def Command.config (c : Command K) (answer : Registered L) : Config where
  nodeId := answer.1.id.str
  name := c.name
  gatewayUrl := c.gatewayUrl
  jwtToken := answer.2.2
  status := answer.1.status
  capabilities := caps c.capabilities

namespace World

def gateway (w : World K L) (gatewayUrl : String) : Store ℕ L := w.gateways (base gatewayUrl)

def setGateway (w : World K L) (url : String) (s : Store ℕ L) : World K L :=
  { w with gateways := Function.update w.gateways url s }

def report (w : World K L) (r : Report) : World K L := { w with reports := r :: w.reports }

def saveKeys (w : World K L) (c : Command K) : World K L :=
  { w with dir := { w.dir with
      nodeKey := some c.key
      nodeKeyPub := if c.stop = some .writePublicKey then w.dir.nodeKeyPub else some (pem c.key) } }

def saveConfig (w : World K L) (config : Config) : World K L :=
  { w with dir := { w.dir with config := some config } }

/-- There is a configuration and a private key, and no `--force`. -/
def turnsAway (w : World K L) (c : Command K) : Bool :=
  w.dir.config.isSome && w.dir.nodeKey.isSome && !c.force

def register [Zero L] (w : World K L) (now : ℕ) (c : Command K) : World K L :=
  if w.turnsAway c then w.report .alreadyRegistered
  else
    let saved := w.saveKeys pem c
    if c.stop = some .writePublicKey ∨ c.stop = some .request then saved.report .failed
    else
      match ((c.registration pem).call now).run (w.gateway c.gatewayUrl) with
      | .error _ _ => saved.report .failed
      | .ok answer s =>
          let committed := saved.setGateway (base c.gatewayUrl) s
          if c.stop = none then (committed.saveConfig (c.config answer)).report .registered
          else committed.report .failed

end World

variable [LinearOrder L] [Zero L] [One L]

/-- A request that raises is rolled back. -/
def Request.serve (s : Store ℕ L) (now : ℕ) : Request L → Store ℕ L
  | .register r =>
      match (r.call now).run s with
      | .ok _ s' => s'
      | .error _ _ => s
  | .heartbeat nodeId currentLoad =>
      match currentNode s nodeId with
      | .error _ => s
      | .ok node =>
          match (processHeartbeat now node currentLoad).run s with
          | .ok _ s' => s'
          | .error _ _ => s
  | .sweep =>
      match (markStaleNodes now).run s with
      | .ok _ s' => s'
      | .error _ _ => s

def World.step (w : World K L) : Event K L → Option (World K L)
  | .command now c => some (w.register pem now c)
  | .request now url r => some (w.setGateway url (r.serve (w.gateways url) now))

end Steps

/-! ## What the directory says of the gateway -/

section Enrolled
variable {K L : Type} (pem : K → String)

def named (text : String) (row : EdgeNode ℕ L) : Bool := row.id.str = text

/-- The node that the configuration names, at its gateway. -/
def World.node (w : World K L) : Option (EdgeNode ℕ L) :=
  w.dir.config.bind fun config =>
    (w.gateway config.gatewayUrl).nodes.find? (named config.nodeId)

/-- The files are the keys of the node. -/
def World.Matched (w : World K L) : Prop :=
  ∃ node ∈ w.node, w.dir.nodeKey.map pem = some node.publicKey ∧
    w.dir.nodeKeyPub = some node.publicKey

/-- The report of the last command that was not turned away. -/
def World.lastReport (w : World K L) : Option Report :=
  w.reports.find? fun r => r ≠ .alreadyRegistered

structure Config.Describes (config : Config) (node : EdgeNode ℕ L) : Prop where
  name : node.name = config.name
  capabilities : node.capabilities = .arr (config.capabilities.map Json.str)
  subject : config.jwtToken.sub = node.id.str
  granted : config.jwtToken.capabilities = config.capabilities.map Json.str

structure World.Enrolled (w : World K L) : Prop where
  described : ∀ config ∈ w.dir.config, ∃ node ∈ w.node, config.Describes node
  matched : w.Matched pem ↔ w.lastReport = some .registered

/-- A drawn key is none that the gateway knows, nor that of the node. -/
def Fresh (w : World K L) : Event K L → Prop
  | .command _ c =>
      (∀ row ∈ (w.gateway c.gatewayUrl).nodes, row.publicKey ≠ pem c.key) ∧
        ∀ node ∈ w.node, node.publicKey ≠ pem c.key
  | .request _ _ _ => True

instance (w : World K L) (e : Event K L) : Decidable (Fresh pem w e) :=
  match e with
  | .command _ c => inferInstanceAs (Decidable
      ((∀ row ∈ (w.gateway c.gatewayUrl).nodes, row.publicKey ≠ pem c.key) ∧
        ∀ node ∈ w.node, node.publicKey ≠ pem c.key))
  | .request _ _ _ => inferInstanceAs (Decidable True)

/-- A command without `--force`. -/
def Unforced (w : World K L) (e : Event K L) : Prop :=
  Fresh pem w e ∧ match e with
    | .command _ c => c.force = false
    | .request _ _ _ => True

instance (w : World K L) (e : Event K L) : Decidable (Unforced pem w e) :=
  match e with
  | .command _ _ => inferInstanceAs (Decidable (_ ∧ _ = false))
  | .request _ _ _ => inferInstanceAs (Decidable (_ ∧ True))

end Enrolled

/-! ## What a gateway keeps -/

section Gateways
variable {K L : Type} {node node' : EdgeNode ℕ L} {s s' : Store ℕ L} {text : String}

/-- A row that was only seen or heard of again. -/
structure SameNode (node node' : EdgeNode ℕ L) : Prop where
  id : node'.id = node.id
  name : node'.name = node.name
  publicKey : node'.publicKey = node.publicKey
  capabilities : node'.capabilities = node.capabilities

theorem named_str (id : Uuid) :
    named id.str = fun row : EdgeNode ℕ L => decide (row.id = id) := by
  funext row
  exact decide_eq_decide.mpr ⟨Uuid.str_inj, congrArg Uuid.str⟩

theorem found_named {rows : List (EdgeNode ℕ L)} (found : node ∈ rows.find? (named text)) :
    node.id.str = text := by
  have passes := List.find?_some (Option.mem_def.mp found)
  exact of_decide_eq_true passes

/-- The nodes of a store are those of the other, each under its id. -/
def Keeps (s s' : Store ℕ L) : Prop :=
  ∀ text, ∀ node ∈ s.nodes.find? (named text),
    ∃ node' ∈ s'.nodes.find? (named text), SameNode node node'

theorem keeps_refl (s : Store ℕ L) : Keeps s s :=
  fun _ node found => ⟨node, found, ⟨rfl, rfl, rfl, rfl⟩⟩

theorem keeps_append {row : EdgeNode ℕ L} (grown : s'.nodes = s.nodes ++ [row]) : Keeps s s' := by
  intro text node found
  refine ⟨node, ?_, ⟨rfl, rfl, rfl, rfl⟩⟩
  rw [grown, List.find?_append, found]
  rfl

theorem keeps_map {f : EdgeNode ℕ L → EdgeNode ℕ L} (changed : s'.nodes = s.nodes.map f)
    (ids : ∀ row, (f row).id = row.id)
    (same : ∀ text, ∀ node ∈ s.nodes.find? (named text), SameNode node (f node)) :
    Keeps s s' := by
  intro text node found
  refine ⟨f node, ?_, same text node found⟩
  have tests : named text ∘ f = named text := by
    funext row
    unfold named
    rw [Function.comp_apply, ids row]
  rw [changed, List.find?_map, tests, found]
  rfl

theorem call_ok [Zero L] {r : Registration} {now : ℕ} {answer : Registered L}
    (ran : (r.call now).run s = .ok answer s') :
    (r.matching s.nodes ≠ [] ∧ s' = s) ∨
      (r.matching s.nodes = [] ∧ r.id ∉ s.nodes.map EdgeNode.id ∧ answer = r.anew now ∧
        s'.nodes = s.nodes ++ [r.row]) := by
  rw [Registration.call_run] at ran
  split at ran
  · cases ran
  · cases matching : r.matching s.nodes with
    | nil =>
        simp only [matching] at ran
        split at ran
        · cases ran
        · split at ran
          · cases ran
          · rename_i _ new
            cases ran
            exact .inr ⟨rfl, new, rfl, rfl⟩
    | cons existing rest =>
        refine .inl ⟨List.cons_ne_nil _ _, ?_⟩
        simp only [matching] at ran
        cases rest with
        | nil =>
            simp only at ran
            split at ran
            · cases ran
            · cases ran
              rfl
        | cons => cases ran

variable [LinearOrder L] [Zero L] [One L]

theorem keeps_serve (s : Store ℕ L) (now : ℕ) (r : Request L) : Keeps s (r.serve s now) := by
  cases r with
  | register r =>
      simp only [Request.serve]
      split
      · rename_i ran
        rcases call_ok ran with ⟨-, rfl⟩ | ⟨-, -, -, grown⟩
        · exact keeps_refl _
        · exact keeps_append grown
      · exact keeps_refl s
  | heartbeat nodeId currentLoad =>
      simp only [Request.serve]
      split
      · exact keeps_refl s
      · rename_i node loaded
        have found : s.nodeById nodeId = some node := by
          unfold currentNode at loaded
          split at loaded
          · cases loaded
          · split at loaded
            · cases loaded
            · cases loaded
              assumption
        refine keeps_map (f := fun row =>
          if row.id = (node.alive now currentLoad).id then node.alive now currentLoad else row)
          rfl ?_ ?_
        · intro row
          split
          · rename_i same
            exact same.symm
          · rfl
        · intro text row seen
          split
          · rename_i same
            have this : row = node := by
              have id : row.id = nodeId := same.trans (Keyed.mem_of_find?_key found).2
              rw [← found_named seen, id, named_str] at seen
              exact Option.some.inj (seen.symm.trans found)
            subst this
            exact ⟨rfl, rfl, rfl, rfl⟩
          · exact ⟨rfl, rfl, rfl, rfl⟩
  | sweep =>
      refine keeps_map (f := fun row =>
        if row.stale now then { row with status := .UNHEALTHY } else row) rfl ?_ ?_
      · intro row
        split <;> rfl
      · intro text node found
        split <;> exact ⟨rfl, rfl, rfl, rfl⟩

end Gateways

/-! ## Runs -/

section Runs
variable {K L : Type} {pem : K → String} {w w' : World K L} {node node' : EdgeNode ℕ L}
  {config : Config}

theorem Config.Describes.mono (describes : config.Describes node) (same : SameNode node node') :
    config.Describes node' where
  name := same.name.trans describes.name
  capabilities := same.capabilities.trans describes.capabilities
  subject := describes.subject.trans (congrArg Uuid.str same.id).symm
  granted := describes.granted

theorem node_keeps (configs : w'.dir.config = w.dir.config)
    (keeps : ∀ url, Keeps (w.gateways url) (w'.gateways url)) (found : node ∈ w.node) :
    ∃ node' ∈ w'.node, SameNode node node' := by
  obtain ⟨config, saved, named⟩ := Option.bind_eq_some_iff.mp found
  obtain ⟨node', still, same⟩ := keeps _ _ node named
  refine ⟨node', ?_, same⟩
  unfold World.node
  rw [configs, saved]
  exact still

theorem described_keeps (configs : w'.dir.config = w.dir.config)
    (keeps : ∀ url, Keeps (w.gateways url) (w'.gateways url)) (enrolled : w.Enrolled pem) :
    ∀ config ∈ w'.dir.config, ∃ node ∈ w'.node, config.Describes node := by
  intro config saved
  rw [configs] at saved
  obtain ⟨node, found, describes⟩ := enrolled.described config saved
  obtain ⟨node', still, same⟩ := node_keeps configs keeps found
  exact ⟨node', still, describes.mono same⟩

/-- Nothing but the rows of nodes may change. -/
theorem World.Enrolled.keeps (enrolled : w.Enrolled pem) (dirs : w'.dir = w.dir)
    (keeps : ∀ url, Keeps (w.gateways url) (w'.gateways url))
    (reports : w'.lastReport = w.lastReport) : w'.Enrolled pem where
  described := described_keeps (congrArg EdgekitDir.config dirs) keeps enrolled
  matched := by
    rw [reports, ← enrolled.matched]
    constructor
    · intro matched
      obtain ⟨node', still, own, shown⟩ := matched
      obtain ⟨config, saved, -⟩ := Option.bind_eq_some_iff.mp still
      rw [dirs] at saved
      obtain ⟨node, found, -⟩ := enrolled.described config saved
      obtain ⟨other, again, same⟩ := node_keeps (congrArg EdgekitDir.config dirs) keeps found
      obtain rfl := Option.some.inj (still.symm.trans again)
      rw [dirs, same.publicKey] at own shown
      exact ⟨node, found, own, shown⟩
    · intro matched
      obtain ⟨node, found, own, shown⟩ := matched
      obtain ⟨node', still, same⟩ := node_keeps (congrArg EdgekitDir.config dirs) keeps found
      rw [← same.publicKey, ← dirs] at own shown
      exact ⟨node', still, own, shown⟩

/-- A command that has written its key and not its configuration. -/
theorem World.Enrolled.failed {key : K} (enrolled : w.Enrolled pem)
    (fresh : ∀ node ∈ w.node, node.publicKey ≠ pem key) (configs : w'.dir.config = w.dir.config)
    (keeps : ∀ url, Keeps (w.gateways url) (w'.gateways url)) (written : w'.dir.nodeKey = some key)
    (reports : w'.lastReport = some .failed) : w'.Enrolled pem where
  described := described_keeps configs keeps enrolled
  matched := by
    refine iff_of_false ?_ (by rw [reports]; decide)
    intro matched
    obtain ⟨node', still, own, -⟩ := matched
    obtain ⟨config, saved, -⟩ := Option.bind_eq_some_iff.mp still
    rw [configs] at saved
    obtain ⟨node, found, -⟩ := enrolled.described config saved
    obtain ⟨other, again, same⟩ := node_keeps configs keeps found
    obtain rfl := Option.some.inj (still.symm.trans again)
    rw [written, same.publicKey] at own
    exact fresh node found (Option.some.inj own).symm

theorem keeps_setGateway {url : String} {s : Store ℕ L} (keeps : Keeps (w.gateways url) s)
    (other : String) : Keeps (w.gateways other) ((w.setGateway url s).gateways other) := by
  by_cases same : other = url
  · subst same
    have now : (w.setGateway other s).gateways other = s := Function.update_self ..
    rw [now]
    exact keeps
  · have before : (w.setGateway url s).gateways other = w.gateways other :=
      Function.update_of_ne same ..
    rw [before]
    exact keeps_refl _

theorem lastReport_report (w : World K L) {r : Report} (told : r ≠ .alreadyRegistered) :
    (w.report r).lastReport = some r :=
  List.find?_cons_of_pos (decide_eq_true told)

/-- A command that comes to its end. -/
theorem enrolled_registered [Zero L] {c : Command K} {now : ℕ} {s : Store ℕ L}
    (whole : c.stop = none)
    (new : (c.registration pem).id ∉ (w.gateway c.gatewayUrl).nodes.map EdgeNode.id)
    (grown : s.nodes = (w.gateway c.gatewayUrl).nodes ++ [(c.registration pem).row]) :
    ((((w.saveKeys pem c).setGateway (base c.gatewayUrl) s).saveConfig
      (c.config ((c.registration pem).anew (L := L) now))).report .registered).Enrolled pem := by
  generalize reached : (((w.saveKeys pem c).setGateway (base c.gatewayUrl) s).saveConfig
    (c.config ((c.registration pem).anew (L := L) now))).report .registered = w'
  have node : w'.node = some (c.registration pem).row := by
    subst reached
    have gateway : ((w.saveKeys pem c).setGateway (base c.gatewayUrl) s).gateways
        (base c.gatewayUrl) = s := Function.update_self ..
    have absent : (w.gateway c.gatewayUrl).nodes.find? (named (c.registration pem).id.str) =
        none := by
      rw [named_str]
      exact Keyed.find?_key_eq_none.mpr new
    change (((w.saveKeys pem c).setGateway (base c.gatewayUrl) s).gateways
      (base c.gatewayUrl)).nodes.find? (named (c.registration pem).id.str) = _
    rw [gateway, grown, List.find?_append, absent, Option.none_or]
    exact List.find?_cons_of_pos (decide_eq_true rfl)
  constructor
  · intro config saved
    refine ⟨_, node, ?_⟩
    subst reached
    obtain rfl := Option.some.inj saved
    exact ⟨rfl, rfl, rfl, rfl⟩
  · refine iff_of_true ⟨_, node, ?_, ?_⟩ ?_
    · subst reached
      rfl
    · subst reached
      exact if_neg (by rw [whole]; decide)
    · subst reached
      exact lastReport_report _ (by decide)

theorem enrolled_register [Zero L] {now : ℕ} {c : Command K}
    (fresh : Fresh pem w (.command now c)) (enrolled : w.Enrolled pem) :
    (w.register pem now c).Enrolled pem := by
  unfold World.register
  split
  · exact enrolled.keeps rfl (fun _ => keeps_refl _) rfl
  · split
    · exact enrolled.failed fresh.2 rfl (fun _ => keeps_refl _) rfl
        (lastReport_report _ (by decide))
    · split
      · exact enrolled.failed fresh.2 rfl (fun _ => keeps_refl _) rfl
          (lastReport_report _ (by decide))
      · rename_i answer s ran
        have unknown : (c.registration pem).matching (w.gateway c.gatewayUrl).nodes = [] := by
          apply List.filter_eq_nil_iff.mpr
          intro row member
          rw [decide_eq_true_iff]
          exact fresh.1 row member
        rcases call_ok ran with ⟨known, -⟩ | ⟨-, new, rfl, grown⟩
        · exact absurd unknown known
        · split
          · rename_i whole
            exact enrolled_registered whole new grown
          · exact enrolled.failed fresh.2 rfl
              (keeps_setGateway (w := w.saveKeys pem c) (keeps_append grown)) rfl
              (lastReport_report _ (by decide))

/-- The machine before its first command. -/
def World.blank (gateways : String → Store ℕ L) : World K L := ⟨⟨none, none, none⟩, gateways, []⟩

theorem enrolled_blank (gateways : String → Store ℕ L) :
    (World.blank gateways : World K L).Enrolled pem where
  described := fun _ saved => nomatch saved
  matched := iff_of_false (fun ⟨_, found, _⟩ => nomatch found) nofun

variable [LinearOrder L] [Zero L] [One L]

theorem enrolled_step {e : Event K L} (fresh : Fresh pem w e) (enrolled : w.Enrolled pem)
    (moved : w.step pem e = some w') : w'.Enrolled pem := by
  cases e with
  | command now c =>
      obtain rfl := Option.some.inj moved
      exact enrolled_register fresh enrolled
  | request now url r =>
      obtain rfl := Option.some.inj moved
      exact enrolled.keeps rfl (keeps_setGateway (keeps_serve _ now r)) rfl

/-- What is on the disk names a node of its gateway with these data, and the keys on the disk are
those of the node exactly if the last command that drew keys came to its end. -/
theorem enrolled_of_run {gateways : String → Store ℕ L} {es : List (Event K L)}
    (run : Run (World.step pem) (Fresh pem) (World.blank gateways) es w) : w.Enrolled pem := by
  apply run.invariant ?_ (enrolled_blank gateways)
  intro w e w' enrolled fresh moved
  exact enrolled_step fresh enrolled moved

theorem written_of_run {gateways : String → Store ℕ L} {es : List (Event K L)}
    (run : Run (World.step pem) (Fresh pem) (World.blank gateways) es w) :
    w.reports ≠ [] → w.dir.nodeKey.isSome := by
  apply run.invariant (I := fun w => w.reports ≠ [] → w.dir.nodeKey.isSome) ?_
    (fun told => absurd rfl told)
  intro w e w' written _ moved told
  cases e with
  | command now c =>
      obtain rfl := Option.some.inj moved
      unfold World.register
      split
      · rename_i away
        simp only [World.turnsAway, Bool.and_eq_true] at away
        exact away.1.2
      · split
        · rfl
        · split
          · rfl
          · split <;> rfl
  | request now url r =>
      obtain rfl := Option.some.inj moved
      exact written told

/-- A forced registration that fails leaves keys that are not those of the node, and without
`--force` they stay. -/
theorem unmatched_of_run {gateways : String → Store ℕ L} {es es' : List (Event K L)}
    (reached : Run (World.step pem) (Fresh pem) (World.blank gateways) es w)
    (configured : w.dir.config.isSome) (failed : w.lastReport = some .failed)
    (later : Run (World.step pem) (Unforced pem) w es' w') :
    w'.dir = w.dir ∧ ¬ w'.Matched pem := by
  have written : w.dir.nodeKey.isSome := by
    apply written_of_run reached
    intro silent
    rw [World.lastReport, silent] at failed
    cases failed
  have kept : w'.Enrolled pem ∧ w'.dir = w.dir ∧ w'.lastReport = some .failed := by
    apply later.invariant (I := fun w' =>
      w'.Enrolled pem ∧ w'.dir = w.dir ∧ w'.lastReport = some .failed) ?_
      ⟨enrolled_of_run reached, rfl, failed⟩
    intro v e v' known unforced moved
    obtain ⟨enrolled, dirs, failed⟩ := known
    refine ⟨enrolled_step unforced.1 enrolled moved, ?_⟩
    cases e with
    | command now c =>
        have plain : c.force = false := unforced.2
        have away : v.turnsAway c := by
          unfold World.turnsAway
          rw [dirs, configured, written, plain]
          rfl
        obtain rfl := Option.some.inj moved
        unfold World.register
        rw [if_pos away]
        exact ⟨dirs, failed⟩
    | request now url r =>
        obtain rfl := Option.some.inj moved
        exact ⟨dirs, failed⟩
  obtain ⟨enrolled, dirs, failed⟩ := kept
  refine ⟨dirs, ?_⟩
  rw [enrolled.matched, failed]
  decide

end Runs

/-! ## A node that registers again -/

def command (gatewayUrl : String) (n : ℕ) (force : Bool) (stop : Option Effect) :
    Command String where
  gatewayUrl := gatewayUrl
  name := "node-a"
  capabilities := "gpu-render, cpu-inference,"
  force := force
  key := String.ofList (List.replicate n 'k')
  id := Fin.ofNat _ n
  jti := 0
  challenge := "challenge"
  stop := stop

def elsewhere : Event String ℤ :=
  .request 1 "http://gateway" (.register ⟨9, 0, "challenge", "node-b", "key-b", none⟩)

/-- A registration, and a forced one whose answer is lost. -/
def lostAnswer : List (Event String ℤ) :=
  [.command 0 (command "http://gateway/" 1 false none), elsewhere,
    .command 2 (command "http://gateway" 2 true (some .receive))]

def repair : List (Event String ℤ) :=
  [.request 3 "http://gateway" (.heartbeat 1 0), .command 4 (command "http://gateway" 3 false none),
    .request 5 "http://gateway" .sweep]

abbrev machine : World String ℤ := .blank fun _ => ⟨[], [], [], []⟩

theorem enrolled_lostAnswer : ∃ w : World String ℤ,
    Run (World.step id) (Fresh id) machine (lostAnswer ++ repair) w ∧ w.Enrolled id := by
  have runs : (exec (World.step id) (Fresh id) machine (lostAnswer ++ repair)).isSome := by
    decide +kernel
  obtain ⟨w, ran⟩ := Option.isSome_iff_exists.mp runs
  have run := exec_eq_some.mp ran
  exact ⟨w, run, enrolled_of_run run⟩

theorem unmatched_repair : ∃ w w' : World String ℤ,
    Run (World.step id) (Fresh id) machine lostAnswer w ∧ w.dir.config.isSome ∧
      w.lastReport = some .failed ∧ Run (World.step id) (Unforced id) w repair w' ∧
      w'.dir = w.dir ∧ ¬ w'.Matched id := by
  have runs : (exec (World.step id) (Fresh id) machine lostAnswer).isSome := by decide +kernel
  have goes : ∀ w ∈ exec (World.step id) (Fresh id) machine lostAnswer,
      w.dir.config.isSome ∧ w.lastReport = some .failed ∧
        (exec (World.step id) (Unforced id) w repair).isSome := by
    decide +kernel
  obtain ⟨w, ran⟩ := Option.isSome_iff_exists.mp runs
  obtain ⟨configured, failed, more⟩ := goes w ran
  obtain ⟨w', again⟩ := Option.isSome_iff_exists.mp more
  have reached := exec_eq_some.mp ran
  have later := exec_eq_some.mp again
  exact ⟨w, w', reached, configured, failed, later,
    unmatched_of_run reached configured failed later⟩

end RenderTrust.Edge.Register
