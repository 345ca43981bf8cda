import RenderTrust.Billing.Payable

/-!
# Payouts over whole runs

Jobs complete, prices change and other calls write to the ledger between the payout runs,
each of which is a transaction of its own. `returned` collects what the runs returned.
-/
namespace RenderTrust.Billing
open Ledger Scheduler Lib Lib.Keyed Lib.Runs Lib.Timestamp

structure Payouts where
  tables : Tables
  ledger : Database
  returned : List PayoutSummary
  deriving DecidableEq

inductive PayoutEvent where
  | change (tables : Tables)
  | post (event : Event)
  | execute (month : Date) (defaults : Uuid → Defaults)

namespace Payouts

def step (s : Payouts) : PayoutEvent → Option Payouts
  | .change tables => some { s with tables }
  | .post event => some { s with ledger := transact s.ledger event }
  | .execute month defaults =>
      match execute s.ledger s.tables month defaults with
      | (.ok results, db) => some { s with ledger := db, returned := s.returned ++ results }
      | (.error _, db) => some { s with ledger := db }

def begin (tables : Tables) (ledger : Database) : Payouts := ⟨tables, ledger, []⟩

end Payouts

section Execute
variable {db db' : Database} {T : Tables} {month : Date} {defaults : Uuid → Defaults}
  {r : Except LedgerError (List PayoutSummary)} {results : List PayoutSummary}

theorem execute_valid (valid : db.Valid) (h : execute db T month defaults = (r, db')) :
    db'.Valid := by
  cases r with
  | error e => rwa [execute_error h]
  | ok results => exact ((execute_eq_ok_iff valid).mp h).2.valid valid

theorem execute_subset (valid : db.Valid) (h : execute db T month defaults = (r, db')) :
    db.entries ⊆ db'.entries := by
  cases r with
  | error e =>
      rw [execute_error h]
      exact List.Subset.refl _
  | ok results => exact ((execute_eq_ok_iff valid).mp h).2.subset

/-- A row that `nodeId` is newly paid with. -/
structure NewlyPays (db : Database) (T : Tables) (month : Date) (nodeId : Uuid)
    (row : CreditLedgerEntry) : Prop where
  earns : 0 < earned T month nodeId
  unpaid : Unpaid db month nodeId
  key : row.key = payoutKey nodeId month
  account : row.userId = nodeId.val

theorem execute_grows (valid : db.Valid) (h : execute db T month defaults = (r, db')) :
    ∃ new, db'.entries = db.entries ++ new ∧ ∀ row ∈ new, ∃ nodeId,
      NewlyPays db T month nodeId row := by
  cases r with
  | error e =>
      rw [execute_error h]
      exact ⟨[], (List.append_nil _).symm, fun _ member => absurd member List.not_mem_nil⟩
  | ok results =>
      obtain ⟨new, grown, all⟩ := ((execute_eq_ok_iff valid).mp h).2.grows
      refine ⟨new, grown, fun row member => ?_⟩
      obtain ⟨summary, inside, earns, pays, fresh⟩ := all row member
      obtain ⟨nodeId, _, rfl⟩ := List.mem_map.mp inside
      rw [summary_earnings] at earns
      have key := pays.key
      rw [summary_nodeId] at key
      rw [key] at fresh
      exact ⟨nodeId, earns, fresh, key, pays.account⟩

theorem execute_users (valid : db.Valid) (h : execute db T month defaults = (r, db')) :
    db'.users = db.users := by
  cases r with
  | error e => rw [execute_error h]
  | ok results => exact ((execute_eq_ok_iff valid).mp h).2.users

end Execute

section Run
variable {start s t : Payouts} {events : List PayoutEvent} {ok : Payouts → PayoutEvent → Prop}

theorem Payouts.step_execute {month : Date} {defaults : Uuid → Defaults}
    (moved : s.step (.execute month defaults) = some t) :
    ∃ r, execute s.ledger s.tables month defaults = (r, t.ledger) ∧
      t.returned = s.returned ++ r.toOption.getD [] := by
  cases ran : execute s.ledger s.tables month defaults with
  | mk r db =>
      simp only [Payouts.step, ran] at moved
      cases r with
      | error e =>
          cases moved
          exact ⟨_, rfl, (List.append_nil _).symm⟩
      | ok results =>
          cases moved
          exact ⟨_, rfl, rfl⟩

theorem Payouts.step_valid (valid : s.ledger.Valid) {event : PayoutEvent}
    (h : s.step event = some t) : t.ledger.Valid := by
  cases event with
  | change tables =>
      cases h
      exact valid
  | post event =>
      cases h
      exact valid.transact event
  | execute month defaults =>
      obtain ⟨r, ran, _⟩ := Payouts.step_execute h
      exact execute_valid valid ran

theorem Payouts.run_valid (valid : start.ledger.Valid) (run : Run Payouts.step ok start events s) :
    s.ledger.Valid :=
  run.invariant (I := fun s => s.ledger.Valid) (fun _ _ _ valid _ moved => step_valid valid moved)
    valid

end Run

/-! ## One payout a node and month -/

/-- The entries that pay a node for a month. -/
def payoutEntries (db : Database) (nodeId : Uuid) (month : Date) : List CreditLedgerEntry :=
  db.entries.filter fun e => e.key = payoutKey nodeId month

structure OncePerMonth (s : Payouts) : Prop where
  single : ∀ nodeId month, (payoutEntries s.ledger nodeId month).length ≤ 1
  anyDay : ∀ nodeId month other, month.SameMonth other →
    payoutEntries s.ledger nodeId month = payoutEntries s.ledger nodeId other
  apart : ∀ nodeId month other later e, e ∈ payoutEntries s.ledger nodeId month →
    e ∈ payoutEntries s.ledger other later → nodeId = other ∧ month.SameMonth later
  adds : ∀ month defaults r db', execute s.ledger s.tables month defaults = (r, db') →
    ∃ new, db'.entries = s.ledger.entries ++ new ∧ ∀ row ∈ new, ∃ nodeId,
      NewlyPays s.ledger s.tables month nodeId row
  rerun : ∀ month defaults r db', execute s.ledger s.tables month defaults = (r, db') →
    (∀ nodeId, 0 < earned s.tables month nodeId → ¬ Unpaid s.ledger month nodeId) →
    db' = s.ledger

theorem Payouts.oncePerMonth {s : Payouts} (valid : s.ledger.Valid) : OncePerMonth s := by
  constructor
  case single =>
    intro nodeId month
    exact valid.keys.length_group_le (payoutKey nodeId month)
  case anyDay =>
    intro nodeId month other same
    unfold payoutEntries
    rw [payoutKey_eq_iff.mpr ⟨rfl, same⟩]
  case apart =>
    intro nodeId month other later e member member'
    have key := of_decide_eq_true (List.mem_filter.mp member).2
    have key' := of_decide_eq_true (List.mem_filter.mp member').2
    exact payoutKey_eq_iff.mp (key.symm.trans key')
  case adds =>
    intro month defaults r db' ran
    exact execute_grows valid ran
  case rerun =>
    intro month defaults r db' ran settled
    obtain ⟨new, grown, all⟩ := execute_grows valid ran
    cases new with
    | nil =>
        rw [List.append_nil] at grown
        exact congrArg₂ Database.mk (execute_users valid ran) grown
    | cons row rest =>
        obtain ⟨nodeId, pays⟩ := all row List.mem_cons_self
        exact absurd pays.unpaid (settled nodeId pays.earns)

theorem oncePerMonth_of_run {start s : Payouts} {events : List PayoutEvent}
    (valid : start.ledger.Valid) (run : Run Payouts.step Always start events s) :
    OncePerMonth s :=
  Payouts.oncePerMonth (Payouts.run_valid valid run)

theorem oncePerMonth_of_run_march : ∃ s, Run Payouts.step Always
    (.begin marchTables ⟨[5], []⟩)
      [.execute march marchDefaults, .execute march.firstDay marchDefaults] s ∧
        s.ledger.entries.length = 1 ∧ OncePerMonth s := by
  have ran : (exec Payouts.step Always (.begin marchTables ⟨[5], []⟩)
      [.execute march marchDefaults, .execute march.firstDay marchDefaults]).any
      (fun s => s.ledger.entries.length = 1) := by
    decide +kernel
  obtain ⟨s, run, one⟩ := run_of_any ran
  exact ⟨s, run, of_decide_eq_true one, oncePerMonth_of_run (.nil [5]) run⟩

/-! ## Paid in full -/

/-- No payout on file differs from what its node has earned by now. -/
def Settled (s : Payouts) : PayoutEvent → Prop
  | .execute month _ => ∀ nodeId ∈ s.tables.active month, 0 < earned s.tables month nodeId →
      ∀ e ∈ s.ledger.entries, e.key = payoutKey nodeId month →
        Pays month (s.tables.summary .default month nodeId) e
  | _ => True

def Backed (db : Database) (summary : PayoutSummary) : Prop :=
  ∃ e ∈ db.entries, Pays summary.month summary e

instance (month : Date) (summary : PayoutSummary) (e : CreditLedgerEntry) :
    Decidable (Pays month summary e) :=
  decidable_of_iff (e.key = payoutKey summary.nodeId month ∧ e.userId = summary.nodeId.val ∧
      numeric summary.operatorEarnings = some e.amount)
    ⟨fun h => ⟨h.1, h.2.1, h.2.2⟩, fun h => ⟨h.key, h.account, h.amount⟩⟩

instance (db : Database) (summary : PayoutSummary) : Decidable (Backed db summary) :=
  inferInstanceAs (Decidable (∃ e ∈ db.entries, _))

section Backed
variable {db db' : Database} {T : Tables} {month : Date} {defaults : Uuid → Defaults}
  {summaries results : List PayoutSummary} {summary : PayoutSummary}

theorem Backed.mono (h : Backed db summary) (grown : db.entries ⊆ db'.entries) :
    Backed db' summary := by
  obtain ⟨e, member, pays⟩ := h
  exact ⟨e, grown member, pays⟩

/-- A summary that earns has its entry in the end: an old one of that key or its own. -/
theorem Paying.done (distinct : DistinctKeys PayoutSummary.nodeId summaries)
    (paying : Paying month defaults db summaries results db') :
    ∀ a ∈ summaries, 0 < a.operatorEarnings →
      (∃ e ∈ db.entries, e.key = payoutKey a.nodeId month) ∨ ∃ e ∈ db'.entries, Pays month a e := by
  induction paying with
  | nil db => exact fun _ member => absurd member List.not_mem_nil
  | cons first paying ih =>
      intro a member earns
      rcases List.mem_cons.mp member with rfl | later
      · cases first with
        | skipped small => exact absurd earns (not_lt.mpr small)
        | replayed _ inside same => exact .inl ⟨_, inside, same⟩
        | posted _ _ stored _ _ =>
            have inside := paying.subset (List.mem_append_right _ List.mem_cons_self)
            exact .inr ⟨_, inside, pays_of_stored stored⟩
      · have other := distinct.ne_head later
        have rest := ih (List.nodup_cons.mp distinct).2 a later earns
        refine rest.imp_left fun ⟨e, inside, same⟩ => ?_
        cases first with
        | skipped => exact ⟨e, inside, same⟩
        | replayed => exact ⟨e, inside, same⟩
        | posted _ _ stored _ _ =>
            rcases List.mem_append.mp inside with old | new
            · exact ⟨e, old, same⟩
            · rw [List.mem_singleton.mp new, (pays_of_stored stored).key] at same
              exact absurd (payoutKey_eq_iff.mp same).1 other

/-- The summaries marked as paid are those that earn. -/
theorem paid_results {p : PayoutSummary} (ran : execute db T month defaults = (.ok results, db'))
    (valid : db.Valid) (member : p ∈ results) (marked : p.isPaid) : ∃ nodeId ∈ T.active month,
      0 < earned T month nodeId ∧ p = (T.summary .default month nodeId).paid := by
  have paying := ((execute_eq_ok_iff valid).mp ran).2
  rw [paying.results_eq, List.map_map, List.mem_map] at member
  obtain ⟨nodeId, active, rfl⟩ := member
  refine ⟨nodeId, active, ?_⟩
  rw [Function.comp_apply, summary_earnings] at marked ⊢
  by_cases small : earned T month nodeId ≤ 0
  · rw [if_pos small] at marked
    cases marked
  · rw [if_neg small]
    exact ⟨not_le.mp small, rfl⟩

theorem pays_paid {nodeId : Uuid} {e : CreditLedgerEntry} :
    Pays (T.summary .default month nodeId).paid.month (T.summary .default month nodeId).paid e ↔
      Pays month (T.summary .default month nodeId) e := by
  have key : payoutKey nodeId month.firstDay = payoutKey nodeId month :=
    payoutKey_eq_iff.mpr ⟨rfl, Date.sameMonth_firstDay month⟩
  constructor
  · rintro ⟨same, account, amount⟩
    exact ⟨same.trans key, account, amount⟩
  · rintro ⟨same, account, amount⟩
    exact ⟨same.trans key.symm, account, amount⟩

theorem backed_iff_settled {s : Payouts} (valid : s.ledger.Valid)
    (ran : execute s.ledger s.tables month defaults = (.ok results, db')) :
    (∀ p ∈ results, p.isPaid → Backed db' p) ↔ Settled s (.execute month defaults) := by
  have paying := ((execute_eq_ok_iff valid).mp ran).2
  constructor
  · intro all nodeId active earns e member same
    have inside : (s.tables.summary .default month nodeId).paid ∈ results := by
      rw [paying.results_eq, List.map_map, List.mem_map]
      refine ⟨nodeId, active, ?_⟩
      rw [Function.comp_apply, summary_earnings, if_neg (not_le.mpr earns)]
    obtain ⟨e', member', pays⟩ := all _ inside rfl
    have pays' := pays_paid.mp pays
    have equal := List.inj_on_of_nodup_map (paying.valid valid).keys (paying.subset member) member'
      (same.trans pays'.key.symm)
    rwa [equal]
  · intro settled p member marked
    obtain ⟨nodeId, active, earns, rfl⟩ := paid_results ran valid member marked
    have done := paying.done (distinct_report _ _) _ (mem_report earns)
    rw [summary_earnings, summary_nodeId] at done
    rcases done earns with ⟨e, old, same⟩ | ⟨e, inside, pays⟩
    · exact ⟨e, paying.subset old, pays_paid.mpr (settled nodeId active earns e old same)⟩
    · exact ⟨e, inside, pays_paid.mpr pays⟩

end Backed

structure PaidInFull (s : Payouts) : Prop where
  valid : s.ledger.Valid
  backed : ∀ p ∈ s.returned, p.isPaid → Backed s.ledger p

theorem PaidInFull.step {s t : Payouts} {event : PayoutEvent} (h : PaidInFull s)
    (settled : Settled s event) (moved : s.step event = some t) : PaidInFull t := by
  refine ⟨Payouts.step_valid h.valid moved, ?_⟩
  cases event with
  | change tables =>
      cases moved
      exact h.backed
  | post event =>
      cases moved
      intro p member marked
      exact (h.backed p member marked).mono fun e inside => mem_transact event inside
  | execute month defaults =>
      obtain ⟨r, ran, returned⟩ := Payouts.step_execute moved
      intro p member marked
      rw [returned] at member
      rcases List.mem_append.mp member with old | new
      · exact (h.backed p old marked).mono (execute_subset h.valid ran)
      · cases r with
        | error e => exact absurd new List.not_mem_nil
        | ok results => exact (backed_iff_settled h.valid ran).mpr settled p new marked

theorem paidInFull_of_run {tables : Tables} {ledger : Database} {s : Payouts}
    {events : List PayoutEvent} (valid : ledger.Valid)
    (run : Run Payouts.step Settled (.begin tables ledger) events s) :
    ∀ p ∈ s.returned, p.isPaid → Backed s.ledger p := by
  have first : PaidInFull (.begin tables ledger) :=
    ⟨valid, fun _ member => absurd member List.not_mem_nil⟩
  exact (run.invariant (fun _ _ _ h settled moved => h.step settled moved) first).backed

/-! ## A job that completes after the payout -/

def laterJob : JobDispatch Timestamp := { marchJob with id := 8, completedAt := some ⟨march, 2⟩ }

def laterTables : Tables :=
  { marchTables with
    jobs := [marchJob, laterJob]
    jobKeys := by
      unfold DistinctKeys
      decide
    jobTypes := by decide
    assigned := by decide }

theorem paidInFull_of_run_march : ∃ s, Run Payouts.step Settled (.begin marchTables ⟨[5], []⟩)
    [.execute march marchDefaults] s ∧ s.returned.length = 1 ∧
      ∀ p ∈ s.returned, p.isPaid → Backed s.ledger p := by
  have ran : (Payouts.step (.begin marchTables ⟨[5], []⟩) (.execute march marchDefaults)).any
      (fun s => s.returned.length = 1) := by
    decide +kernel
  obtain ⟨s, moved, one⟩ := (Option.any_eq_true _ _).mp ran
  have settled : Settled (.begin marchTables ⟨[5], []⟩) (.execute march marchDefaults) :=
    fun _ _ _ e member => absurd member List.not_mem_nil
  have run := Run.cons settled moved (.nil s)
  exact ⟨s, run, of_decide_eq_true one, paidInFull_of_run (.nil [5]) run⟩

/-- The second call of the month returns a paid summary of 14 credits; the entry is of 7. -/
theorem underpaid : ∃ s, Run Payouts.step Always (.begin marchTables ⟨[5], []⟩)
    [.execute march marchDefaults, .change laterTables, .execute march marchDefaults] s ∧
      ∃ p ∈ s.returned, p.isPaid ∧ p.operatorEarnings = 14 ∧ ¬ Backed s.ledger p := by
  have ran : (exec Payouts.step Always (.begin marchTables ⟨[5], []⟩)
      [.execute march marchDefaults, .change laterTables, .execute march marchDefaults]).any
      (fun s => decide (∃ p ∈ s.returned, p.isPaid ∧ p.operatorEarnings = 14 ∧
        ¬ Backed s.ledger p)) := by
    decide +kernel
  obtain ⟨s, run, unbacked⟩ := run_of_any ran
  exact ⟨s, run, of_decide_eq_true unbacked⟩

end RenderTrust.Billing
