import RenderTrust.Anchor.Contract
import RenderTrust.Lib.Slots

/-!
# The contract only ever appends

A call carries its arguments and the time of its block. The contract is the list of
the calls that went through: its counter is their number and its three mappings are
their slots.
-/
namespace RenderTrust.Anchor
open Lib.ByteString Lib.Slots

structure AnchorCall where
  root : Bytes
  entryCount : ℕ
  timestamp : ℕ
  deriving DecidableEq, Repr

namespace LedgerAnchor

/-- What the three mappings hold for a batch. -/
def data (c : LedgerAnchor) (b : ℕ) : AnchorCall :=
  ⟨c.batchRoots b, c.batchSizes b, c.batchTimestamps b⟩

/-- A call that reverts leaves the storage as it was. -/
def call (c : LedgerAnchor) (t : AnchorCall) : LedgerAnchor :=
  match c.anchorRoot t.root t.entryCount t.timestamp with
  | .ok (c', _) => c'
  | .error _ => c

def calls (c : LedgerAnchor) (ts : List AnchorCall) : LedgerAnchor := ts.foldl call c

/-- The calls that go through, in their order. -/
def successful (c : LedgerAnchor) : List AnchorCall → List AnchorCall
  | [] => []
  | t :: ts =>
      match c.anchorRoot t.root t.entryCount t.timestamp with
      | .ok (c', _) => t :: c'.successful ts
      | .error _ => c.successful ts

/-- Exactly the batches from one to the last hold something. -/
structure WellKept (c : LedgerAnchor) : Prop where
  root_iff : ∀ b, c.batchRoots b ≠ zeroWord ↔ 0 < b ∧ b ≤ c.lastBatch
  size_iff : ∀ b, 0 < c.batchSizes b ↔ 0 < b ∧ b ≤ c.lastBatch
  free : ∀ b, ¬(0 < b ∧ b ≤ c.lastBatch) → c.data b = ⟨zeroWord, 0, 0⟩

/-- The contract holds these calls and no other data. -/
structure Holds (c : LedgerAnchor) (taken : List AnchorCall) : Prop where
  last_eq : c.lastBatch = taken.length
  data_eq : c.data = slots ⟨zeroWord, 0, 0⟩ taken
  valid : ∀ t ∈ taken, t.root ≠ zeroWord ∧ 0 < t.entryCount

theorem initial_holds : initial.Holds [] := by
  refine ⟨rfl, ?_, ?_⟩
  · rw [slots_nil]
    rfl
  · intro t none
    exact absurd none List.not_mem_nil

theorem anchorRoot_ok {c c' : LedgerAnchor} {t : AnchorCall} {event : RootAnchored}
    (h : c.anchorRoot t.root t.entryCount t.timestamp = .ok (c', event)) :
    t.root ≠ zeroWord ∧ 0 < t.entryCount ∧ c'.lastBatch = c.lastBatch + 1 ∧
      c'.data = Function.update c.data (c.lastBatch + 1) t := by
  unfold anchorRoot at h
  split at h
  · cases h
  next nonzero =>
  split at h
  · cases h
  next entries =>
  split at h
  · cases h
  obtain ⟨rfl, -⟩ := Prod.mk.inj (Except.ok.inj h)
  refine ⟨nonzero, Nat.pos_of_ne_zero entries, rfl, ?_⟩
  funext b
  by_cases last : b = c.lastBatch + 1
  · subst last
    simp only [data, Function.update_self]
  · simp only [data, Function.update_of_ne last]

variable {c : LedgerAnchor} {taken : List AnchorCall}

theorem Holds.anchorRoot (h : c.Holds taken) {c' : LedgerAnchor} {t : AnchorCall}
    {event : RootAnchored}
    (moved : c.anchorRoot t.root t.entryCount t.timestamp = .ok (c', event)) :
    c'.Holds (taken ++ [t]) := by
  obtain ⟨nonzero, entries, last, data⟩ := anchorRoot_ok moved
  refine ⟨?_, ?_, ?_⟩
  · simp [last, h.last_eq]
  · rw [slots_concat, ← h.data_eq, ← h.last_eq, data]
  · intro t' there
    rcases List.mem_append.mp there with earlier | new
    · exact h.valid t' earlier
    · rw [List.mem_singleton.mp new]
      exact ⟨nonzero, entries⟩

theorem Holds.calls (h : c.Holds taken) (ts : List AnchorCall) :
    (c.calls ts).Holds (taken ++ c.successful ts) := by
  induction ts generalizing c taken with
  | nil =>
      simp only [successful, List.append_nil]
      exact h
  | cons t ts ih =>
      simp only [LedgerAnchor.calls, List.foldl_cons, LedgerAnchor.call, successful]
      cases moved : c.anchorRoot t.root t.entryCount t.timestamp with
      | error r => exact ih h
      | ok p =>
          have rest := ih (h.anchorRoot moved)
          rw [List.append_assoc, List.singleton_append] at rest
          exact rest

theorem calls_append (ts us : List AnchorCall) : c.calls (ts ++ us) = (c.calls ts).calls us :=
  List.foldl_append

theorem successful_sublist (ts : List AnchorCall) : (c.successful ts).Sublist ts := by
  induction ts generalizing c with
  | nil => exact List.Sublist.slnil
  | cons t ts ih =>
      simp only [successful]
      split
      · exact ih.cons_cons t
      · exact ih.cons t

theorem Holds.wellKept (h : c.Holds taken) : c.WellKept := by
  have free : ∀ b, ¬(0 < b ∧ b ≤ c.lastBatch) → c.data b = ⟨zeroWord, 0, 0⟩ := by
    intro b unused
    rw [h.data_eq]
    apply slots_free
    rwa [← h.last_eq]
  have used : ∀ b, 0 < b ∧ b ≤ c.lastBatch → (c.data b).root ≠ zeroWord ∧
      0 < (c.data b).entryCount := by
    intro b used
    rw [h.last_eq] at used
    rw [h.data_eq]
    exact h.valid _ (List.mem_of_getElem? (slots_used used))
  refine ⟨?_, ?_, free⟩
  · intro b
    refine ⟨?_, fun inside => (used b inside).1⟩
    intro nonzero
    by_contra outside
    exact nonzero (congrArg AnchorCall.root (free b outside))
  · intro b
    refine ⟨?_, fun inside => (used b inside).2⟩
    intro positive
    by_contra outside
    have zero : c.batchSizes b = 0 := congrArg AnchorCall.entryCount (free b outside)
    omega

/-- A batch is read back as the call that stored it. -/
theorem Holds.getBatchInfo (h : c.Holds taken) {b : ℕ} {info : Bytes × ℕ × ℕ} :
    c.getBatchInfo b = .ok info ↔
      ∃ t, 0 < b ∧ taken[b - 1]? = some t ∧ info = (t.root, t.entryCount, t.timestamp) := by
  have read : (c.batchRoots b, c.batchSizes b, c.batchTimestamps b) =
      ((c.data b).root, (c.data b).entryCount, (c.data b).timestamp) := rfl
  rw [LedgerAnchor.getBatchInfo, h.last_eq, read, h.data_eq]
  constructor
  · intro answered
    split at answered
    next used =>
      exact ⟨_, used.1, slots_used used, (Except.ok.inj answered).symm⟩
    · cases answered
  · rintro ⟨t, positive, there, rfl⟩
    have below := (List.getElem?_eq_some_iff.mp there).1
    have used : 0 < b ∧ b ≤ taken.length := by omega
    rw [slots_used used] at there
    rw [if_pos used, Option.some.inj there]

theorem getBatchInfo_isOk (c : LedgerAnchor) (b : ℕ) :
    (∃ info, c.getBatchInfo b = .ok info) ↔ 0 < b ∧ b ≤ c.lastBatch := by
  unfold LedgerAnchor.getBatchInfo
  split
  next used => exact ⟨fun _ => used, fun _ => ⟨_, rfl⟩⟩
  next unused =>
    constructor
    · rintro ⟨info, refused⟩
      cases refused
    · intro used
      exact absurd used unused

end LedgerAnchor

open LedgerAnchor

/-- Any calls, from the contract as deployed, and any calls after them. -/
theorem append_only (ts us : List AnchorCall) :
    (initial.calls ts).WellKept ∧
      (initial.calls ts).lastBatch = (initial.successful ts).length ∧
      (∀ b, 0 < b → b ≤ (initial.calls ts).lastBatch →
        (initial.calls (ts ++ us)).data b = (initial.calls ts).data b) ∧
      ((ts.map AnchorCall.timestamp).Pairwise (· ≤ ·) →
        ∀ a b, 0 < a → a ≤ b → b ≤ (initial.calls ts).lastBatch →
          (initial.calls ts).batchTimestamps a ≤ (initial.calls ts).batchTimestamps b) ∧
      (∀ t r, (initial.calls ts).anchorRoot t.root t.entryCount t.timestamp = .error r →
        initial.calls (ts ++ [t]) = initial.calls ts) ∧
      (∀ b info, (initial.calls ts).getBatchInfo b = .ok info ↔
        ∃ t, 0 < b ∧ (initial.successful ts)[b - 1]? = some t ∧
          info = (t.root, t.entryCount, t.timestamp)) ∧
      (∀ b, (∃ info, (initial.calls ts).getBatchInfo b = .ok info) ↔
        0 < b ∧ b ≤ (initial.calls ts).lastBatch) := by
  have held := initial_holds.calls ts
  rw [List.nil_append] at held
  refine ⟨held.wellKept, held.last_eq, ?_, ?_, ?_, ?_, getBatchInfo_isOk _⟩
  · intro b _ used
    have later := held.calls us
    rw [calls_append, later.data_eq, held.data_eq]
    apply slots_append
    rwa [← held.last_eq]
  · intro sorted a b positive le used
    have inOrder : (initial.successful ts).Pairwise (fun t u => t.timestamp ≤ u.timestamp) :=
      (List.pairwise_map.mp sorted).sublist (successful_sublist ts)
    rw [held.last_eq] at used
    have ordered : ((initial.calls ts).data a).timestamp ≤
        ((initial.calls ts).data b).timestamp := by
      rw [held.data_eq]
      exact slots_pairwise (r := fun t u : AnchorCall => t.timestamp ≤ u.timestamp)
        (fun _ => le_rfl) inOrder positive le used
    exact ordered
  · intro t r reverted
    rw [calls_append]
    simp only [LedgerAnchor.calls, List.foldl_cons, List.foldl_nil, LedgerAnchor.call]
    simp only [LedgerAnchor.calls] at reverted
    rw [reverted]
  · intro b info
    exact held.getBatchInfo

/-- The second call has no root and reverts. -/
def sampleCalls : List AnchorCall :=
  [⟨List.replicate 32 7, 3, 1700000000⟩, ⟨zeroWord, 3, 1700000012⟩,
   ⟨List.replicate 32 9, 1, 1700000024⟩]

theorem append_only_sample :
    (initial.calls sampleCalls).lastBatch = 2 ∧
      (initial.calls sampleCalls).batchTimestamps 1 ≤
        (initial.calls sampleCalls).batchTimestamps 2 := by
  obtain ⟨-, last, -, ordered, -⟩ := append_only sampleCalls []
  have two : (initial.successful sampleCalls).length = 2 := by decide +kernel
  rw [two] at last
  exact ⟨last, ordered (by decide) 1 2 (by decide) (by decide) (by rw [last])⟩

end RenderTrust.Anchor
