import Mathlib.Data.List.Induction
import RenderTrust.Ledger.Outcomes

/-!
# Replayed calls

A run of calls with retries woven into it: a retry calls the same function with a
`reference_id` that has succeeded before, and may ask for anything else.
-/
namespace RenderTrust.Ledger

inductive Woven where
  | original (event : Event)
  | replay (event : Event)
  deriving DecidableEq, Repr

namespace Woven

def event : Woven → Event
  | .original event => event
  | .replay event => event

def isOriginal : Woven → Bool
  | .original _ => true
  | .replay _ => false

end Woven

/-- The run without its retries. -/
def originals (run : List Woven) : List Event := (run.filter Woven.isOriginal).map Woven.event

theorem originals_append (run rest : List Woven) :
    originals (run ++ rest) = originals run ++ originals rest := by
  simp only [originals, List.filter_append, List.map_append]

/-- A call among `events` succeeded with entry `entry`. -/
def SucceededIn (db : Database) (events : List Event) (event : Event) (entry : CreditLedgerEntry) :
    Prop :=
  ∃ before after, events = before ++ event :: after ∧ outcome (final db before) event = .ok entry

/-- Every retry comes after a call of the run that succeeded with the same function and
`reference_id`. -/
def Replays (db : Database) (run : List Woven) : Prop :=
  ∀ pre retry post, run = pre ++ .replay retry :: post → 0 < retry.call.args.amount ∧
    ∃ event entry, event.call.key = retry.call.key ∧ SucceededIn db (originals pre) event entry

/-- What the retries of a run change: nothing. -/
structure Absorbed (db : Database) (run : List Woven) : Prop where
  ledger : final db (run.map Woven.event) = final db (originals run)
  results : ∀ pre event post, run = pre ++ .original event :: post →
    outcome (final db (pre.map Woven.event)) event = outcome (final db (originals pre)) event
  replays : ∀ pre retry post, run = pre ++ .replay retry :: post →
    ∃ row ∈ (final db (originals run)).entries,
      outcome (final db (pre.map Woven.event)) retry = .ok row ∧
      ∀ event entry, event.call.key = retry.call.key →
        SucceededIn db (originals pre) event entry → entry.stored = some row

section Absorption
variable {db : Database} {run : List Woven}

theorem Replays.pre {pre post : List Woven} (h : Replays db (pre ++ post)) : Replays db pre := by
  intro before retry after split
  refine h before retry (after ++ post) ?_
  rw [split, List.append_assoc, List.cons_append]

theorem SucceededIn.row {events : List Event} {event : Event} {entry : CreditLedgerEntry}
    (valid : db.Valid) (h : SucceededIn db events event entry) :
    ∃ row ∈ (final db events).entries, row.key = event.call.key ∧ entry.stored = some row := by
  obtain ⟨before, after, rfl, succeeded⟩ := h
  obtain ⟨row, member, same, stored⟩ := mem_transact_of_outcome (valid.final before) succeeded
  refine ⟨row, ?_, same, stored⟩
  rw [final_append]
  exact mem_final after member

/-- A retry over the ledger of the calls before it. -/
theorem Replays.retry {retry : Event} (valid : db.Valid) (h : Replays db (run ++ [.replay retry])) :
    ∃ row ∈ (final db (originals run)).entries,
      transact (final db (originals run)) retry = final db (originals run) ∧
      outcome (final db (originals run)) retry = .ok row ∧
      ∀ event entry, event.call.key = retry.call.key →
        SucceededIn db (originals run) event entry → entry.stored = some row := by
  obtain ⟨positive, event, entry, key, succeeded⟩ := h run retry [] rfl
  have kept := valid.final (originals run)
  obtain ⟨row, member, same, _⟩ := succeeded.row valid
  obtain ⟨unchanged, answer⟩ := transact_replay kept member (same.trans key) positive
  refine ⟨row, member, unchanged, answer, ?_⟩
  intro event' entry' key' succeeded'
  obtain ⟨row', member', same', stored⟩ := succeeded'.row valid
  have equal : row'.key = row.key := by rw [same', key', same, key]
  rwa [List.inj_on_of_nodup_map kept.keys member' member equal] at stored

theorem replays_ledger (valid : db.Valid) (h : Replays db run) :
    final db (run.map Woven.event) = final db (originals run) := by
  induction run using List.reverseRecOn with
  | nil => rfl
  | append_singleton run last ih =>
      rw [List.map_append, List.map_singleton, final_append, ih h.pre, originals_append]
      cases last with
      | original event =>
          rw [final_append]
          rfl
      | replay retry =>
          obtain ⟨row, _, unchanged, _⟩ := h.retry valid
          exact unchanged.trans (congrArg (final db) (List.append_nil _).symm)

theorem replays_absorbed (valid : db.Valid) (h : Replays db run) : Absorbed db run where
  ledger := replays_ledger valid h
  results := by
    intro pre event post split
    subst split
    rw [replays_ledger valid h.pre]
  replays := by
    intro pre retry post split
    subst split
    have upTo : Replays db (pre ++ [.replay retry]) := by
      rw [← List.singleton_append, ← List.append_assoc] at h
      exact h.pre
    obtain ⟨row, member, _, answer, first⟩ := upTo.retry valid
    refine ⟨row, ?_, ?_, first⟩
    · rw [originals_append, final_append]
      exact mem_final _ member
    · rw [replays_ledger valid h.pre]
      exact answer

theorem Replays.nil (db : Database) : Replays db [] := by
  intro pre retry post split
  exact absurd split.symm (List.append_ne_nil_of_right_ne_nil pre (List.cons_ne_nil _ post))

theorem Replays.concat {last : Woven} (h : Replays db run)
    (allowed : ∀ retry, last = .replay retry → 0 < retry.call.args.amount ∧
      ∃ event entry, event.call.key = retry.call.key ∧ SucceededIn db (originals run) event entry) :
    Replays db (run ++ [last]) := by
  intro pre retry post split
  rcases List.eq_nil_or_concat post with rfl | ⟨post, other, rfl⟩
  · obtain ⟨rfl, tail⟩ := List.append_inj' split rfl
    exact allowed retry (List.head_eq_of_cons_eq tail)
  · rw [List.concat_eq_append, ← List.cons_append, ← List.append_assoc] at split
    obtain ⟨split, _⟩ := List.append_inj' split rfl
    exact h pre retry post split

end Absorption

def topUp : Event := ⟨⟨.CREDIT, ⟨1, 100, .STRIPE, "in_1", none⟩⟩, ⟨11, 1⟩⟩
def charge : Event := ⟨⟨.DEBIT, ⟨1, 100, .USAGE, "job_1", none⟩⟩, ⟨12, 2⟩⟩

/-- The balance of user 1 is zero, that of user 2 always was. -/
def chargeAgain : Event := ⟨⟨.DEBIT, ⟨2, 500, .ADJUSTMENT, "job_1", some "again"⟩⟩, ⟨13, 3⟩⟩

theorem replays_absorbed_charge :
    Absorbed ⟨[1, 2], []⟩ ([.original topUp] ++ [.original charge] ++ [.replay chargeAgain]) := by
  have first : Replays ⟨[1, 2], []⟩ ([] ++ [.original topUp]) := by
    refine (Replays.nil _).concat ?_
    intro retry same
    cases same
  have woven : Replays ⟨[1, 2], []⟩ ([.original topUp] ++ [.original charge]) := by
    refine first.concat ?_
    intro retry same
    cases same
  refine replays_absorbed (Database.Valid.nil [1, 2]) (woven.concat ?_)
  intro retry same
  obtain rfl := Woven.replay.inj same
  refine ⟨by decide +kernel, charge, newEntry .DEBIT charge.call.args charge.defaults 0, rfl,
    [topUp], [], rfl, ?_⟩
  decide +kernel

end RenderTrust.Ledger
