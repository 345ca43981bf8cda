import Mathlib.Logic.Relation
import RenderTrust.Lib.Keyed
import RenderTrust.Lib.Tasks
import RenderTrust.Scheduler.NodeService

/-!
# Concurrent registrations

Any number of `register_node` at READ COMMITTED. A registration looks its public key up, inserts
a row if there is none, and commits. Of the columns of a node only the id is unique.
-/
namespace RenderTrust.Scheduler
open Lib Lib.Hoare Lib.Keyed Lib.Tasks Lib.Runs
open Ledger (bindable)

variable {ι L : Type}

/-- The arguments of `register_node`, and what it draws at random. -/
structure Registration where
  id : Uuid
  jti : Uuid
  challenge : String
  name : String
  publicKey : String
  capabilities : Option (List String)

abbrev Registered (L : Type) := EdgeNode ℕ L × String × NodeToken

namespace Registration

def caps (r : Registration) : List Json := (r.capabilities.getD []).map Json.str

def call [Zero L] (r : Registration) (now : ℕ) : NodeM L (Registered L) :=
  registerNode now r.id r.jti r.challenge r.name r.publicKey r.capabilities

def row [Zero L] (r : Registration) : EdgeNode ℕ L := newNode r.id r.name r.publicKey r.caps

def named (r : Registration) : Bool := r.name.length ≤ 255 ∧ bindable r.name

/-- The answer with the new row. -/
def anew [Zero L] (r : Registration) (now : ℕ) : Registered L :=
  (r.row, r.challenge, createNodeToken now r.jti r.id r.caps)

/-- The answer with a row that was there. -/
def again (r : Registration) (now : ℕ) (existing : EdgeNode ℕ L) :
    Except NodeError (Registered L) :=
  if r.caps ≠ [] then
    .ok (existing, r.challenge, createNodeToken now r.jti existing.id r.caps)
  else
    match asList existing.capabilities with
    | none => .error .typeError
    | some stored => .ok (existing, r.challenge, createNodeToken now r.jti existing.id stored)

/-- `SELECT … FROM edge_nodes WHERE public_key = …`. -/
def matching (r : Registration) (rows : List (EdgeNode ℕ L)) : List (EdgeNode ℕ L) :=
  rows.filter fun node => node.publicKey = r.publicKey

theorem insert_run [Zero L] (r : Registration) (now : ℕ) (s : Store ℕ L) :
    (insertNode r.row >>= fun _ => pure (r.anew now) : NodeM L (Registered L)).run s =
      if ¬ r.named then .error .dataError s
      else if r.id ∈ s.nodes.map EdgeNode.id then .error .integrityError s
      else .ok (r.anew now) { s with nodes := s.nodes ++ [r.row] } := by
  have fits : (r.row (L := L)).name.length ≤ 255 ∧ bindable (r.row (L := L)).name ↔ r.named := by
    simp [named, row, newNode]
  unfold insertNode
  by_cases named : r.named
  · rw [if_neg (not_not.mpr (fits.mpr named)), if_neg (not_not.mpr named)]
    change ((if r.id ∈ s.nodes.map EdgeNode.id then _ else _ : NodeM L Unit) >>= _).run s = _
    split <;> rfl
  · rw [if_pos (fun stored => named (fits.mp stored)), if_pos named]
    rfl

theorem call_run [Zero L] (r : Registration) (now : ℕ) (s : Store ℕ L) : (r.call now).run s =
    if !bindable r.publicKey then .error .dataError s
    else
      match r.matching s.nodes with
      | [] =>
          if ¬ r.named then .error .dataError s
          else if r.id ∈ s.nodes.map EdgeNode.id then .error .integrityError s
          else .ok (r.anew now) { s with nodes := s.nodes ++ [r.row] }
      | [existing] =>
          match r.again now existing with
          | .error e => .error e s
          | .ok answer => .ok answer s
      | _ => .error .multipleResultsFound s := by
  unfold call registerNode
  cases bindable r.publicKey with
  | false => rfl
  | true =>
      simp only [Bool.not_true, Bool.false_eq_true, if_false, EStateM.run_bind, EStateM.run_get]
      change (match r.matching s.nodes with
        | [] => _ | [existing] => _ | _ => _ : NodeM L (Registered L)).run s = _
      cases r.matching s.nodes with
      | nil => exact insert_run r now s
      | cons existing rest =>
          cases rest with
          | nil =>
              simp only [again]
              change (if r.caps ≠ [] then _ else _ : NodeM L (Registered L)).run s = _
              split
              · rfl
              · cases asList existing.capabilities <;> rfl
          | cons => rfl

end Registration

/-! ## The transactions -/

/-- The committed rows, and the ids of rows that are not committed yet: an INSERT of one of
these waits. -/
structure NodeTable (L : Type) where
  rows : List (EdgeNode ℕ L)
  uncommitted : List Uuid

inductive RegisterProgress (L : Type) where
  | begun
  | missing
  | inserted (answer : Registered L)
  | found (answer : Registered L)
  | committed (answer : Registered L)
  | raised (error : NodeError)

inductive RegisterStep where
  | select (now : ℕ)
  | insert (now : ℕ)
  | commit

def RegisterProgress.advance [Zero L] (r : Registration) (s : NodeTable L) :
    RegisterStep → RegisterProgress L → Option (NodeTable L × RegisterProgress L)
  | .select now, .begun =>
      if !bindable r.publicKey then some (s, .raised .dataError)
      else
        match r.matching s.rows with
        | [] => some (s, .missing)
        | [existing] =>
            match r.again now existing with
            | .error e => some (s, .raised e)
            | .ok answer => some (s, .found answer)
        | _ => some (s, .raised .multipleResultsFound)
  | .insert now, .missing =>
      if ¬ r.named then some (s, .raised .dataError)
      else if r.id ∈ s.rows.map EdgeNode.id then some (s, .raised .integrityError)
      else if r.id ∈ s.uncommitted then none
      else some (⟨s.rows, r.id :: s.uncommitted⟩, .inserted (r.anew now))
  | .commit, .inserted answer =>
      some (⟨s.rows ++ [answer.1], s.uncommitted.erase answer.1.id⟩, .committed answer)
  | .commit, .found answer => some (s, .committed answer)
  | _, _ => none

def registerTransactions [Zero L] (requests : ι → Registration) :
    Program ι (NodeTable L) (RegisterProgress L) RegisterStep Empty where
  act i step s l := l.advance (requests i) s step
  change e _ := e.elim

def registerOpening (ι L : Type) : System ι (NodeTable L) (RegisterProgress L) :=
  ⟨⟨[], []⟩, fun _ => .begun⟩

/-! ## A transaction that is alone -/

section Alone
variable [Zero L] {r : Registration} {now : ℕ} {s : NodeTable L} {u : Store ℕ L}

/-- The steps of one transaction in a row. -/
abbrev AloneRegister (r : Registration) (now : ℕ) :
    NodeTable L × RegisterProgress L → NodeTable L × RegisterProgress L → Prop :=
  Relation.ReflTransGen fun a b => ∃ step ∈ [.select now, .insert now, .commit],
    a.2.advance r a.1 step = some b

/-- With nothing in between, the steps do what the call does. -/
theorem alone_call (same : u.nodes = s.rows) (quiet : s.uncommitted = []) :
    Ends ((r.call now).run u)
      (fun answer v => AloneRegister r now (s, .begun) (⟨v.nodes, []⟩, .committed answer))
      (fun e _ => AloneRegister r now (s, .begun) (s, .raised e)) := by
  rw [Registration.call_run, same]
  cases readable : bindable r.publicKey with
  | false => exact .single ⟨.select now, by simp, by simp [RegisterProgress.advance, readable]⟩
  | true =>
      cases found : r.matching s.rows with
      | nil =>
          have select : ∃ step ∈ [.select now, .insert now, .commit],
              RegisterProgress.begun.advance r s step = some (s, .missing) :=
            ⟨.select now, by simp, by simp [RegisterProgress.advance, readable, found]⟩
          by_cases named : r.named
          · by_cases taken : r.id ∈ s.rows.map EdgeNode.id
            · simp only [named, taken, not_true, if_true, if_false]
              exact .head select (.single ⟨.insert now, by simp, by
                simp [RegisterProgress.advance, named, taken]⟩)
            · have insert : ∃ step ∈ [.select now, .insert now, .commit],
                  RegisterProgress.missing.advance r s step =
                    some (⟨s.rows, [r.id]⟩, .inserted (r.anew now)) :=
                ⟨.insert now, by simp, by
                  simp [RegisterProgress.advance, named, taken, quiet]⟩
              simp only [named, taken, not_true, if_false]
              exact .head select (.head insert (.single ⟨.commit, by simp, by
                simp [RegisterProgress.advance, Registration.anew, Registration.row, newNode]⟩))
          · simp only [named]
            exact .head select (.single ⟨.insert now, by simp, by
              simp [RegisterProgress.advance, named]⟩)
      | cons existing rest =>
          cases rest with
          | cons => exact .single ⟨.select now, by simp, by
              simp [RegisterProgress.advance, readable, found]⟩
          | nil =>
              simp only [Bool.not_true, Bool.false_eq_true, if_false]
              cases answered : r.again now existing with
              | error e => exact .single ⟨.select now, by simp, by
                  simp [RegisterProgress.advance, readable, found, answered]⟩
              | ok answer =>
                  have select : ∃ step ∈ [.select now, .insert now, .commit],
                      RegisterProgress.begun.advance r s step = some (s, .found answer) :=
                    ⟨.select now, by simp, by
                      simp [RegisterProgress.advance, readable, found, answered]⟩
                  have table : (⟨u.nodes, []⟩ : NodeTable L) = s := by
                    rw [same, ← quiet]
                  change AloneRegister r now (s, .begun) (⟨u.nodes, []⟩, .committed answer)
                  rw [table]
                  exact .head select (.single ⟨.commit, by simp, rfl⟩)

end Alone

/-! ## What a step does -/

section Steps
variable [Zero L] {r : Registration} {s s' : NodeTable L} {step : RegisterStep}
  {l l' : RegisterProgress L}

omit [Zero L] in
theorem Registration.again_ok {now : ℕ} {existing : EdgeNode ℕ L} {answer : Registered L}
    (h : r.again now existing = .ok answer) : answer.1 = existing ∧ answer.2.1 = r.challenge := by
  unfold again at h
  split at h
  · cases h
    exact ⟨rfl, rfl⟩
  · split at h
    · cases h
    · cases h
      exact ⟨rfl, rfl⟩

/-- A registration raises, looks its key up, inserts, or commits. -/
inductive RegisterProgress.Advances (r : Registration) (s : NodeTable L) :
    RegisterStep → RegisterProgress L → NodeTable L → RegisterProgress L → Prop
  | raises {step : RegisterStep} {l : RegisterProgress L} {e : NodeError} :
      Advances r s step l s (.raised e)
  | misses {now : ℕ} (readable : bindable r.publicKey) :
      Advances r s (.select now) .begun s .missing
  | finds {now : ℕ} {answer : Registered L} (member : answer.1 ∈ s.rows)
      (key : answer.1.publicKey = r.publicKey) :
      Advances r s (.select now) .begun s (.found answer)
  | inserts {now : ℕ} :
      Advances r s (.insert now) .missing ⟨s.rows, r.id :: s.uncommitted⟩ (.inserted (r.anew now))
  | commits {answer : Registered L} : Advances r s .commit (.inserted answer)
      ⟨s.rows ++ [answer.1], s.uncommitted.erase answer.1.id⟩ (.committed answer)
  | confirms {answer : Registered L} : Advances r s .commit (.found answer) s (.committed answer)

theorem RegisterProgress.advances_of_advance (moved : l.advance r s step = some (s', l')) :
    l.Advances r s step s' l' := by
  unfold advance at moved
  split at moved
  · split at moved
    · cases moved
      exact .raises
    · rename_i readable
      split at moved
      · cases moved
        exact .misses (by simpa using readable)
      · rename_i existing only
        split at moved
        · cases moved
          exact .raises
        · rename_i answer answered
          cases moved
          have inside : existing ∈ r.matching s.rows := by
            rw [only]
            exact List.mem_singleton_self _
          obtain ⟨member, key⟩ := List.mem_filter.mp inside
          rw [← (Registration.again_ok answered).1] at member key
          exact .finds member (of_decide_eq_true key)
      · cases moved
        exact .raises
  · split at moved
    · cases moved
      exact .raises
    · split at moved
      · cases moved
        exact .raises
      · split at moved
        · cases moved
        · cases moved
          exact .inserts
  · cases moved
    exact .commits
  · cases moved
    exact .confirms
  · cases moved

end Steps

/-! ## What the transactions keep -/

/-- A new row is committed while its public key is unregistered. -/
def RegisterProgress.stillMissing (s : NodeTable L) : RegisterStep → RegisterProgress L → Bool
  | .commit, .inserted answer => answer.1.publicKey ∉ s.rows.map EdgeNode.publicKey
  | _, _ => true

def StillMissing (s : System ι (NodeTable L) (RegisterProgress L)) :
    Move ι RegisterStep Empty → Prop
  | .task i step => (s.task i).stillMissing s.shared step
  | .environment e => e.elim

instance (s : System ι (NodeTable L) (RegisterProgress L)) (m : Move ι RegisterStep Empty) :
    Decidable (StillMissing s m) := by
  cases m with
  | task i step => exact inferInstanceAs (Decidable (_ = true))
  | environment e => exact e.elim

/-- A public key has one row, which a registration can be answered with. -/
structure NodeTable.Keyed (s : NodeTable L) : Prop where
  keys : DistinctKeys EdgeNode.publicKey s.rows
  readable : ∀ node ∈ s.rows, bindable node.publicKey
  lists : ∀ node ∈ s.rows, ∃ caps, node.capabilities = .arr caps

/-- What is known of one transaction. -/
def NodeTable.Knows [Zero L] (r : Registration) (s : NodeTable L) : RegisterProgress L → Prop
  | .missing => bindable r.publicKey
  | .inserted answer => bindable r.publicKey ∧ answer.1 = r.row
  | .found answer | .committed answer => answer.1 ∈ s.rows ∧ answer.1.publicKey = r.publicKey
  | .begun | .raised _ => True

section Kept
variable [Zero L] {r other : Registration} {s s' : NodeTable L} {step : RegisterStep}
  {l l' m : RegisterProgress L}

omit [Zero L] in
theorem NodeTable.Keyed.append {node : EdgeNode ℕ L} {caps : List Json} {uncommitted : List Uuid}
    (keyed : s.Keyed) (fresh : node.publicKey ∉ s.rows.map EdgeNode.publicKey)
    (readable : bindable node.publicKey) (list : node.capabilities = .arr caps) :
    NodeTable.Keyed ⟨s.rows ++ [node], uncommitted⟩ := by
  refine ⟨keyed.keys.append_singleton fresh, fun row member => ?_, fun row member => ?_⟩
  · rcases List.mem_append.mp member with old | new
    · exact keyed.readable row old
    · obtain rfl := List.mem_singleton.mp new
      exact readable
  · rcases List.mem_append.mp member with old | new
    · exact keyed.lists row old
    · obtain rfl := List.mem_singleton.mp new
      exact ⟨caps, list⟩

theorem registration_step (keyed : s.Keyed) (knows : s.Knows r l) (missing : l.stillMissing s step)
    (moved : l.Advances r s step s' l') : s'.Keyed ∧ s'.Knows r l' := by
  cases moved with
  | raises => exact ⟨keyed, trivial⟩
  | misses readable => exact ⟨keyed, readable⟩
  | finds member key => exact ⟨keyed, member, key⟩
  | inserts => exact ⟨⟨keyed.keys, keyed.readable, keyed.lists⟩, knows, rfl⟩
  | confirms => exact ⟨keyed, knows⟩
  | commits =>
      obtain ⟨readable, row⟩ := knows
      have fresh := of_decide_eq_true missing
      rw [row] at fresh ⊢
      refine ⟨keyed.append fresh readable rfl, ?_, ?_⟩
      · rw [row]
        exact List.mem_append_right _ (List.mem_singleton_self _)
      · rw [row]
        rfl

/-- The rows only grow. -/
theorem RegisterProgress.Advances.rows (moved : l.Advances r s step s' l') : s.rows ⊆ s'.rows := by
  cases moved with
  | raises | misses _ | finds _ _ | confirms => exact List.Subset.refl _
  | inserts => exact List.Subset.refl _
  | commits => exact List.subset_append_left _ _

theorem NodeTable.Knows.mono (knows : s.Knows other m) (grows : s.rows ⊆ s'.rows) :
    s'.Knows other m := by
  cases m with
  | begun | missing | inserted | raised => exact knows
  | found | committed => exact ⟨grows knows.1, knows.2⟩

omit [Zero L] in
/-- The condition is exact: the commit of a new row leaves one row for each key if and only if it
is met. -/
theorem NodeTable.Keyed.stillMissing_iff {answer : Registered L} (keyed : s.Keyed) :
    (RegisterProgress.inserted answer).stillMissing s .commit ↔
      DistinctKeys EdgeNode.publicKey (s.rows ++ [answer.1]) := by
  constructor
  · intro missing
    exact keyed.keys.append_singleton (of_decide_eq_true missing)
  · intro distinct
    rw [DistinctKeys, List.map_append, List.map_singleton] at distinct
    have apart := List.disjoint_of_nodup_append distinct
    exact decide_eq_true fun member => apart member (List.mem_singleton_self _)

theorem stable_registerTransactions (requests : ι → Registration) :
    Stable (registerTransactions requests) StillMissing (NodeTable.Keyed (L := L))
      (fun i s l => s.Knows (requests i) l) where
  own _ i _ _ _ holds missing moved :=
    registration_step holds.shared (holds.task i) missing
      (RegisterProgress.advances_of_advance moved)
  others _ _ _ _ _ holds _ moved j _ :=
    (holds.task j).mono (RegisterProgress.advances_of_advance moved).rows
  environment _ e := e.elim

theorem holds_registerOpening (requests : ι → Registration) :
    Holds NodeTable.Keyed (fun i s l => s.Knows (requests i) l) (registerOpening ι L) := by
  refine ⟨⟨List.nodup_nil, ?_, ?_⟩, fun i => trivial⟩
  · exact fun node member => absurd member List.not_mem_nil
  · exact fun node member => absurd member List.not_mem_nil

end Kept

/-! ## The runs -/

section Runs
variable [Zero L] {requests : ι → Registration}

/-- One row for each public key, one id for each, and a registration of a key that is registered,
in one go or step by step, is answered with its row. -/
structure OneNodePerKey (requests : ι → Registration)
    (t : System ι (NodeTable L) (RegisterProgress L)) : Prop where
  rows : DistinctKeys EdgeNode.publicKey t.shared.rows
  ids : ∀ i j a b, t.task i = .committed a → t.task j = .committed b →
    (requests i).publicKey = (requests j).publicKey → a.1.id = b.1.id
  again : ∀ node ∈ t.shared.rows, ∀ r : Registration, r.publicKey = node.publicKey →
    ∀ now (s : Store ℕ L), s.nodes = t.shared.rows →
      ∃ token, (r.call now).run s = .ok (node, r.challenge, token) s ∧
        RegisterProgress.begun.advance r t.shared (.select now) =
          some (t.shared, .found (node, r.challenge, token))

omit [Zero L] in
theorem NodeTable.Keyed.matching {s : NodeTable L} (keyed : s.Keyed) {r : Registration}
    {node : EdgeNode ℕ L} (member : node ∈ s.rows) (same : r.publicKey = node.publicKey) :
    r.matching s.rows = [node] := by
  rw [Registration.matching, same]
  exact keyed.keys.filter_key member

theorem NodeTable.Keyed.again {s : NodeTable L} (keyed : s.Keyed) {r : Registration}
    {node : EdgeNode ℕ L} (member : node ∈ s.rows) (same : r.publicKey = node.publicKey)
    (now : ℕ) {u : Store ℕ L} (here : u.nodes = s.rows) :
    ∃ token, (r.call now).run u = .ok (node, r.challenge, token) u ∧
      RegisterProgress.begun.advance r s (.select now) =
        some (s, .found (node, r.challenge, token)) := by
  have readable : bindable r.publicKey = true := by
    rw [same]
    exact keyed.readable node member
  obtain ⟨caps, list⟩ := keyed.lists node member
  have answered : ∃ token, r.again now node = .ok (node, r.challenge, token) := by
    unfold Registration.again
    rw [list]
    split
    · exact ⟨_, rfl⟩
    · exact ⟨_, rfl⟩
  obtain ⟨token, answered⟩ := answered
  refine ⟨token, ?_, ?_⟩
  · rw [Registration.call_run, here, keyed.matching member same, readable]
    simp only [answered, Bool.not_true, Bool.false_eq_true, if_false]
  · simp only [RegisterProgress.advance, keyed.matching member same, readable, answered,
      Bool.not_true, Bool.false_eq_true, if_false]

theorem oneNodePerKey_of_run [DecidableEq ι] {ms : List (Move ι RegisterStep Empty)}
    {t : System ι (NodeTable L) (RegisterProgress L)}
    (run : Run (registerTransactions requests).step StillMissing (registerOpening ι L) ms t) :
    OneNodePerKey requests t := by
  have holds := (stable_registerTransactions requests).run run (holds_registerOpening requests)
  have keyed := holds.shared
  refine ⟨keyed.keys, fun i j a b first second same => ?_, ?_⟩
  · have mine := holds.task i
    have yours := holds.task j
    rw [first] at mine
    rw [second] at yours
    have key : a.1.publicKey = b.1.publicKey := by rw [mine.2, yours.2, same]
    rw [List.inj_on_of_nodup_map keyed.keys mine.1 yours.1 key]
  · intro node member r same now s here
    exact keyed.again member same now here

end Runs

/-! ## Two registrations of one key -/

def sameKey (i : ℕ) : Registration :=
  ⟨Fin.ofNat _ i, Fin.ofNat _ (i + 10), "challenge", "node", "ed25519:3", none⟩

theorem oneNodePerKey_of_run_twice : ∃ t,
    Run (registerTransactions sameKey).step StillMissing (registerOpening ℕ ℕ)
      [.task 0 (.select 1), .task 0 (.insert 2), .task 0 .commit, .task 1 (.select 3),
        .task 1 .commit] t ∧
    OneNodePerKey sameKey t := by
  have accepted : (exec (registerTransactions sameKey).step StillMissing (registerOpening ℕ ℕ)
      [.task 0 (.select 1), .task 0 (.insert 2), .task 0 .commit, .task 1 (.select 3),
        .task 1 .commit]).isSome := by decide +kernel
  obtain ⟨t, run⟩ := run_of_isSome accepted
  exact ⟨t, run, oneNodePerKey_of_run run⟩

/-- Both look the key up before either commits. -/
theorem registered_twice : ¬ ∀ (ms : List (Move ℕ RegisterStep Empty))
    (t : System ℕ (NodeTable ℕ) (RegisterProgress ℕ)),
    Run (registerTransactions sameKey).step Always (registerOpening ℕ ℕ) ms t →
      OneNodePerKey sameKey t := by
  intro claim
  have raced : (exec (registerTransactions sameKey).step Always (registerOpening ℕ ℕ)
      [.task 0 (.select 1), .task 1 (.select 1), .task 0 (.insert 2), .task 1 (.insert 2),
        .task 0 .commit, .task 1 .commit]).any fun t =>
      t.shared.rows.map EdgeNode.publicKey = ["ed25519:3", "ed25519:3"] := by decide +kernel
  obtain ⟨t, run, twice⟩ := run_of_any raced
  have keys : (t.shared.rows.map EdgeNode.publicKey).Nodup := (claim _ t run).rows
  rw [of_decide_eq_true twice] at keys
  exact absurd keys (by decide)

end RenderTrust.Scheduler
