import RenderTrust.Billing.Payments

/-!
# When a payout run pays everyone

The account a payout is written to is the identifier of a node, so the ledger takes it
only when a user has that identifier too. What the ledger needs is collected in `Takes`,
and a run pays every earning node exactly when each is paid already or taken.
-/
namespace RenderTrust.Billing
open Ledger Scheduler Lib Lib.Keyed Lib.Rounding Lib.Timestamp

def Paid (db : Database) (month : Date) (nodeId : Uuid) : Prop :=
  ∃ e ∈ db.entries, e.key = payoutKey nodeId month ∧ e.userId = nodeId.val

def Unpaid (db : Database) (month : Date) (nodeId : Uuid) : Prop :=
  ∀ e ∈ db.entries, e.key ≠ payoutKey nodeId month

instance (db : Database) (month : Date) (nodeId : Uuid) : Decidable (Paid db month nodeId) :=
  inferInstanceAs (Decidable (∃ e ∈ db.entries, _))

instance (db : Database) (month : Date) (nodeId : Uuid) : Decidable (Unpaid db month nodeId) :=
  inferInstanceAs (Decidable (∀ e ∈ db.entries, _))

/-- What the ledger needs to take the payout of a summary. -/
structure Takes (db : Database) (defaults : Uuid → Defaults) (summary : PayoutSummary) : Prop where
  account : summary.nodeId.val ∈ db.users
  identifier : (defaults summary.nodeId).id ∉ db.entries.map CreditLedgerEntry.id
  amount : (numeric summary.operatorEarnings).isSome
  balance : (numeric (decimalAdd (currentBalance (db.lastEntry summary.nodeId.val))
    summary.operatorEarnings)).isSome

section Takes
variable {db db' : Database} {month : Date} {defaults : Uuid → Defaults} {a b : PayoutSummary}
  {row : CreditLedgerEntry}

theorem Takes.of_stored (stored : (payoutEntry db month defaults a).stored = some row)
    (checks : db.Checks row) (unique : db.Unique row) : Takes db defaults a := by
  obtain ⟨amount, balanceAfter, hamount, hbalance, rfl⟩ := CreditLedgerEntry.stored_eq_some stored
  exact ⟨checks.2, unique.1, Option.isSome_iff_exists.mpr ⟨amount, hamount⟩,
    Option.isSome_iff_exists.mpr ⟨balanceAfter, hbalance⟩⟩

theorem Takes.stored (takes : Takes db defaults a) (valid : db.Valid)
    (positive : 0 < a.operatorEarnings) (free : Unpaid db month a.nodeId) :
    ∃ row, (payoutEntry db month defaults a).stored = some row ∧ db.Checks row ∧
      db.Unique row := by
  obtain ⟨amount, hamount⟩ := Option.isSome_iff_exists.mp takes.amount
  obtain ⟨balanceAfter, hbalance⟩ := Option.isSome_iff_exists.mp takes.balance
  have texts : (payoutEntry db month defaults a).referenceId.length ≤ 255 ∧
      bindable (payoutEntry db month defaults a).referenceId ∧
      (payoutEntry db month defaults a).description.all bindable := by
    refine ⟨?_, bindable_payoutReference a.nodeId month, bindable_description month a⟩
    exact (length_payoutReference a.nodeId month).trans_le (by decide)
  have nonneg : 0 ≤ balanceAfter := by
    apply fixed_nonneg hbalance
    exact significant_nonneg 28 (add_nonneg (valid.currentBalance_nonneg _) positive.le)
  refine ⟨{ payoutEntry db month defaults a with amount, balanceAfter }, ?_, ?_, ?_⟩
  · unfold CreditLedgerEntry.stored
    rw [show numeric (payoutEntry db month defaults a).amount = some amount from hamount,
      show numeric (payoutEntry db month defaults a).balanceAfter = some balanceAfter from hbalance]
    exact if_pos texts
  · exact ⟨nonneg, takes.account⟩
  · refine ⟨takes.identifier, ?_⟩
    intro member
    obtain ⟨e, inside, same⟩ := List.mem_map.mp member
    exact free e inside same

/-- The payout of one node makes no difference to another one, but for its identifier. -/
theorem paid_append (pays : Pays month a row) (other : a.nodeId ≠ b.nodeId) :
    Paid (db.append row) month b.nodeId ↔ Paid db month b.nodeId := by
  constructor
  · rintro ⟨e, member, same, mine⟩
    rcases List.mem_append.mp member with old | new
    · exact ⟨e, old, same, mine⟩
    · rw [List.mem_singleton.mp new, pays.key, payoutKey_eq_iff] at same
      exact absurd same.1 other
  · rintro ⟨e, member, same⟩
    exact ⟨e, List.mem_append_left _ member, same⟩

theorem unpaid_append (pays : Pays month a row) (other : a.nodeId ≠ b.nodeId) :
    Unpaid (db.append row) month b.nodeId ↔ Unpaid db month b.nodeId := by
  constructor
  · intro free e member
    exact free e (List.mem_append_left _ member)
  · intro free e member
    rcases List.mem_append.mp member with old | new
    · exact free e old
    · rw [List.mem_singleton.mp new, pays.key]
      intro same
      exact other (payoutKey_eq_iff.mp same).1

theorem takes_append (pays : Pays month a row) (other : a.nodeId ≠ b.nodeId) :
    Takes (db.append row) defaults b ↔
      Takes db defaults b ∧ (defaults b.nodeId).id ≠ row.id := by
  have apart : row.userId ≠ b.nodeId.val := by
    rw [pays.account]
    intro same
    exact other (Fin.ext same)
  have last : (db.append row).lastEntry b.nodeId.val = db.lastEntry b.nodeId.val :=
    ledgerView.latest_concat_other apart db.entries
  constructor
  · rintro ⟨account, identifier, amount, balance⟩
    rw [last] at balance
    rw [Database.append_entries, List.map_append, List.mem_append, not_or, List.map_singleton,
      List.mem_singleton] at identifier
    exact ⟨⟨account, identifier.1, amount, balance⟩, identifier.2⟩
  · rintro ⟨⟨account, identifier, amount, balance⟩, fresh⟩
    refine ⟨account, ?_, amount, by rwa [last]⟩
    rw [Database.append_entries, List.map_append, List.mem_append, not_or, List.map_singleton,
      List.mem_singleton]
    exact ⟨identifier, fresh⟩

end Takes

/-- Every earning node is paid already or will be, each under an identifier of its own. -/
structure Ready (db : Database) (month : Date) (defaults : Uuid → Defaults)
    (summaries : List PayoutSummary) : Prop where
  each : ∀ a ∈ summaries, 0 < a.operatorEarnings →
    Paid db month a.nodeId ∨ Unpaid db month a.nodeId ∧ Takes db defaults a
  apart : ∀ a ∈ summaries, ∀ b ∈ summaries, 0 < a.operatorEarnings → 0 < b.operatorEarnings →
    Unpaid db month a.nodeId → Unpaid db month b.nodeId →
    (defaults a.nodeId).id = (defaults b.nodeId).id → a.nodeId = b.nodeId

section Ready
variable {db db' : Database} {month : Date} {defaults : Uuid → Defaults}
  {summary result : PayoutSummary} {rest results : List PayoutSummary}

theorem Ready.tail (h : Ready db month defaults (summary :: rest)) :
    Ready db month defaults rest where
  each := fun a ha => h.each a (List.mem_cons_of_mem _ ha)
  apart := fun a ha b hb => h.apart a (List.mem_cons_of_mem _ ha) b (List.mem_cons_of_mem _ hb)

theorem not_unpaid (paid : Paid db month summary.nodeId) : ¬ Unpaid db month summary.nodeId := by
  rintro free
  obtain ⟨e, member, same, _⟩ := paid
  exact free e member same

/-- The payout of one node and the report of the others: only the identifier is used up. -/
theorem ready_append {row : CreditLedgerEntry} (pays : Pays month summary row)
    (others : ∀ b ∈ rest, summary.nodeId ≠ b.nodeId) :
    Ready (db.append row) month defaults rest ↔ Ready db month defaults rest ∧
      ∀ b ∈ rest, 0 < b.operatorEarnings → Unpaid db month b.nodeId →
        (defaults b.nodeId).id ≠ row.id := by
  constructor
  · intro h
    refine ⟨⟨?_, ?_⟩, ?_⟩
    · intro b hb earns
      have ready := h.each b hb earns
      rw [paid_append pays (others b hb), unpaid_append pays (others b hb),
        takes_append pays (others b hb)] at ready
      exact ready.imp id fun ⟨free, takes⟩ => ⟨free, takes.1⟩
    · intro b hb c hc earns earns' free free'
      rw [← unpaid_append pays (others b hb)] at free
      rw [← unpaid_append pays (others c hc)] at free'
      exact h.apart b hb c hc earns earns' free free'
    · intro b hb earns free
      rcases h.each b hb earns with paid | ⟨_, takes⟩
      · rw [paid_append pays (others b hb)] at paid
        exact absurd free (not_unpaid paid)
      · exact ((takes_append pays (others b hb)).mp takes).2
  · rintro ⟨h, fresh⟩
    constructor
    · intro b hb earns
      rw [paid_append pays (others b hb), unpaid_append pays (others b hb),
        takes_append pays (others b hb)]
      exact (h.each b hb earns).imp id fun ⟨free, takes⟩ => ⟨free, takes, fresh b hb earns free⟩
    · intro b hb c hc earns earns' free free'
      rw [unpaid_append pays (others b hb)] at free
      rw [unpaid_append pays (others c hc)] at free'
      exact h.apart b hb c hc earns earns' free free'

/-- A payout leaves a report ready for the rest of its summaries. -/
theorem Ready.pay (distinct : DistinctKeys PayoutSummary.nodeId (summary :: rest))
    (h : Ready db month defaults (summary :: rest))
    (first : Pay month defaults db summary result db') : Ready db' month defaults rest := by
  cases first with
  | skipped => exact h.tail
  | replayed => exact h.tail
  | @posted row positive free stored checks unique =>
      refine (ready_append (pays_of_stored stored) fun b => distinct.ne_head).mpr ⟨h.tail, ?_⟩
      rw [(CreditLedgerEntry.stored_key stored).2.2]
      intro b hb earns free' same
      exact distinct.ne_head hb (h.apart summary List.mem_cons_self b (List.mem_cons_of_mem _ hb)
        positive earns free free' same.symm)

theorem Ready.cons (h : Ready db month defaults rest)
    (own : 0 < summary.operatorEarnings →
      Paid db month summary.nodeId ∨ Unpaid db month summary.nodeId ∧ Takes db defaults summary)
    (fresh : 0 < summary.operatorEarnings → Unpaid db month summary.nodeId → ∀ b ∈ rest,
      0 < b.operatorEarnings → Unpaid db month b.nodeId →
      (defaults b.nodeId).id ≠ (defaults summary.nodeId).id) :
    Ready db month defaults (summary :: rest) := by
  constructor
  · intro b hb earns
    rcases List.mem_cons.mp hb with rfl | later
    · exact own earns
    · exact h.each b later earns
  · intro b hb c hc earns earns' free free' same
    rcases List.mem_cons.mp hb with rfl | laterB
    · rcases List.mem_cons.mp hc with rfl | laterC
      · rfl
      · exact absurd same.symm (fresh earns free c laterC earns' free')
    · rcases List.mem_cons.mp hc with rfl | laterC
      · exact absurd same (fresh earns' free' b laterB earns free)
      · exact h.apart b laterB c laterC earns earns' free free' same

theorem Ready.of_pay (distinct : DistinctKeys PayoutSummary.nodeId (summary :: rest))
    (first : Pay month defaults db summary result db') (h : Ready db' month defaults rest)
    (paid : 0 < summary.operatorEarnings → ¬ Unpaid db month summary.nodeId →
      Paid db month summary.nodeId) : Ready db month defaults (summary :: rest) := by
  cases first with
  | skipped small =>
      refine h.cons ?_ ?_
      · intro earns
        exact absurd earns (not_lt.mpr small)
      · intro earns
        exact absurd earns (not_lt.mpr small)
  | replayed positive member same =>
      have taken : ¬ Unpaid db month summary.nodeId := fun free => free _ member same
      refine h.cons ?_ ?_
      · intro _
        exact .inl (paid positive taken)
      · intro _ free
        exact absurd free taken
  | @posted row positive free stored checks unique =>
      obtain ⟨before, fresh⟩ :=
        (ready_append (pays_of_stored stored) fun b => distinct.ne_head).mp h
      rw [(CreditLedgerEntry.stored_key stored).2.2] at fresh
      refine before.cons ?_ ?_
      · intro _
        exact .inr ⟨free, .of_stored stored checks unique⟩
      · intro _ _
        exact fresh

end Ready

section Run
variable {db db' : Database} {month : Date} {defaults : Uuid → Defaults}
  {summaries results : List PayoutSummary}

theorem Paid.mono {nodeId : Uuid} (h : Paid db month nodeId) (grown : db.entries ⊆ db'.entries) :
    Paid db' month nodeId := by
  obtain ⟨e, member, same⟩ := h
  exact ⟨e, grown member, same⟩

theorem Ready.of_paying (distinct : DistinctKeys PayoutSummary.nodeId summaries)
    (valid : db.Valid) (paying : Paying month defaults db summaries results db')
    (all : ∀ a ∈ summaries, 0 < a.operatorEarnings → Paid db' month a.nodeId) :
    Ready db month defaults summaries := by
  induction paying with
  | nil db => exact ⟨fun _ member => absurd member List.not_mem_nil,
      fun _ member => absurd member List.not_mem_nil⟩
  | cons first paying ih =>
      have rest := ih (List.nodup_cons.mp distinct).2 (first.valid valid)
        fun a member => all a (List.mem_cons_of_mem _ member)
      refine rest.of_pay distinct first fun earns taken => ?_
      simp only [Unpaid, not_forall, not_not] at taken
      obtain ⟨e, member, same⟩ := taken
      obtain ⟨paid, member', same', account⟩ := all _ List.mem_cons_self earns
      -- the row that has the key now is the one that has it in the end
      have later := paying.subset (first.subset member)
      have equal := List.inj_on_of_nodup_map (paying.valid (first.valid valid)).keys later member'
        (same.trans same'.symm)
      exact ⟨e, member, same, by rw [equal, account]⟩

theorem Ready.paying (distinct : DistinctKeys PayoutSummary.nodeId summaries) (valid : db.Valid)
    (h : Ready db month defaults summaries) :
    ∃ results db', Paying month defaults db summaries results db' ∧
      ∀ a ∈ summaries, 0 < a.operatorEarnings → Paid db' month a.nodeId := by
  induction summaries generalizing db with
  | nil => exact ⟨[], db, .nil db, fun _ member => absurd member List.not_mem_nil⟩
  | cons a rest ih =>
      have step : ∃ result db', Pay month defaults db a result db' ∧
          (0 < a.operatorEarnings → Paid db' month a.nodeId) := by
        by_cases small : a.operatorEarnings ≤ 0
        · exact ⟨a, db, .skipped small, fun earns => absurd small (not_le.mpr earns)⟩
        · have positive := not_le.mp small
          rcases h.each a List.mem_cons_self positive with paid | ⟨free, takes⟩
          · obtain ⟨e, member, same, account⟩ := paid
            exact ⟨a.paid, db, .replayed positive member same, fun _ => ⟨e, member, same, account⟩⟩
          · obtain ⟨row, stored, checks, unique⟩ := takes.stored valid positive free
            have pays := pays_of_stored stored
            refine ⟨a.paid, db.append row, .posted positive free stored checks unique, fun _ => ?_⟩
            exact ⟨row, List.mem_append_right _ List.mem_cons_self, pays.key, pays.account⟩
      obtain ⟨result, db', first, done⟩ := step
      obtain ⟨results, db'', paying, all⟩ :=
        ih (List.nodup_cons.mp distinct).2 (first.valid valid) (h.pay distinct first)
      refine ⟨result :: results, db'', .cons first paying, fun b member earns => ?_⟩
      rcases List.mem_cons.mp member with rfl | later
      · exact (done earns).mono paying.subset
      · exact all b later earns

end Run

/-- What a node earns in a month, as the service calculates it. -/
def earned (T : Tables) (month : Date) (nodeId : Uuid) : Decimal :=
  (T.summary .default month nodeId).operatorEarnings

theorem summary_nodeId (T : Tables) (context : Context) (month : Date) (nodeId : Uuid) :
    (T.summary context month nodeId).nodeId = nodeId := rfl

theorem summary_earnings (T : Tables) (month : Date) (nodeId : Uuid) :
    (T.summary .default month nodeId).operatorEarnings = earned T month nodeId := rfl

theorem active_of_earned {T : Tables} {month : Date} {nodeId : Uuid}
    (earns : 0 < earned T month nodeId) : nodeId ∈ T.active month := by
  by_contra idle
  have none_earns : T.earning month nodeId = [] := by
    apply List.eq_nil_iff_forall_not_mem.mpr
    intro job member
    obtain ⟨completed, same⟩ := Tables.mem_earning.mp member
    exact idle (Tables.mem_active.mpr ⟨job, completed, same⟩)
  have nothing : earned T month nodeId = significant 28 (0 * OPERATOR_SHARE) := by
    unfold earned Tables.summary
    rw [none_earns]
    rfl
  rw [nothing, zero_mul, significant, if_pos rfl] at earns
  exact absurd earns (lt_irrefl 0)

theorem mem_report {T : Tables} {month : Date} {nodeId : Uuid}
    (earns : 0 < earned T month nodeId) : T.summary .default month nodeId ∈
      (T.active month).map (T.summary .default month) :=
  List.mem_map_of_mem (active_of_earned earns)

theorem distinct_report (T : Tables) (month : Date) : DistinctKeys PayoutSummary.nodeId
    ((T.active month).map (T.summary .default month)) := by
  have nodes : ((T.active month).map (T.summary .default month)).map PayoutSummary.nodeId =
      T.active month := by
    rw [List.map_map]
    exact List.map_id _
  rw [DistinctKeys, nodes]
  exact Tables.active_nodup month

/-- The month is not the last one, and every earning node is paid already or is taken by
the ledger: a user has its identifier, the amounts fit, the new identifier is new. -/
structure Payable (db : Database) (T : Tables) (month : Date) (defaults : Uuid → Defaults) :
    Prop where
  earlier : ¬ LastMonth month
  each : ∀ nodeId, 0 < earned T month nodeId → Paid db month nodeId ∨
    Unpaid db month nodeId ∧ Takes db defaults (T.summary .default month nodeId)
  apart : ∀ a b, 0 < earned T month a → 0 < earned T month b →
    Unpaid db month a → Unpaid db month b → (defaults a).id = (defaults b).id → a = b

theorem payable_iff {db : Database} {T : Tables} {month : Date} {defaults : Uuid → Defaults} :
    Payable db T month defaults ↔ ¬ LastMonth month ∧
      Ready db month defaults ((T.active month).map (T.summary .default month)) := by
  constructor
  · rintro ⟨earlier, each, apart⟩
    refine ⟨earlier, ?_, ?_⟩
    · intro a member earns
      obtain ⟨nodeId, _, rfl⟩ := List.mem_map.mp member
      rw [summary_nodeId]
      rw [summary_earnings] at earns
      exact each nodeId earns
    · intro a member b member' earns earns'
      obtain ⟨nodeId, _, rfl⟩ := List.mem_map.mp member
      obtain ⟨other, _, rfl⟩ := List.mem_map.mp member'
      rw [summary_nodeId, summary_nodeId]
      rw [summary_earnings] at earns earns'
      exact apart nodeId other earns earns'
  · rintro ⟨earlier, ready⟩
    refine ⟨earlier, ?_, ?_⟩
    · intro nodeId earns
      have own := ready.each _ (mem_report earns)
      rw [summary_nodeId, summary_earnings] at own
      exact own earns
    · intro a b earns earns'
      have two := ready.apart _ (mem_report earns) _ (mem_report earns')
      rw [summary_nodeId, summary_nodeId, summary_earnings, summary_earnings] at two
      exact two earns earns'

theorem pays_everyone_iff {db : Database} (valid : db.Valid) (T : Tables) (month : Date)
    (defaults : Uuid → Defaults) :
    (∃ results db', execute db T month defaults = (.ok results, db') ∧
      ∀ nodeId, 0 < earned T month nodeId → Paid db' month nodeId) ↔
    Payable db T month defaults := by
  rw [payable_iff]
  constructor
  · rintro ⟨results, db', ran, all⟩
    obtain ⟨earlier, paying⟩ := (execute_eq_ok_iff valid).mp ran
    refine ⟨earlier, .of_paying (distinct_report T month) valid paying fun a member earns => ?_⟩
    obtain ⟨nodeId, _, rfl⟩ := List.mem_map.mp member
    rw [summary_nodeId]
    rw [summary_earnings] at earns
    exact all nodeId earns
  · rintro ⟨earlier, ready⟩
    obtain ⟨results, db', paying, all⟩ := ready.paying (distinct_report T month) valid
    refine ⟨results, db', (execute_eq_ok_iff valid).mpr ⟨earlier, paying⟩, fun nodeId earns => ?_⟩
    have done := all _ (mem_report earns)
    rw [summary_nodeId, summary_earnings] at done
    exact done earns

/-! ## One job in March -/

def march : Date := ⟨2026, 3, 15, by decide, by decide, by decide⟩

def marchJob : JobDispatch Timestamp where
  id := 7
  nodeId := 5
  jobType := "render"
  payloadRef := "in"
  status := .COMPLETED
  queuedAt := ⟨march, 0⟩
  dispatchedAt := none
  completedAt := some ⟨march, 1⟩
  resultRef := none
  errorMessage := none
  retryCount := 0

def marchTables : Tables where
  nodes := [5]
  jobs := [marchJob]
  pricing := []
  jobKeys := List.nodup_singleton _
  jobTypes := by decide
  assigned := by decide
  pricingKeys := List.nodup_nil
  prices := by decide

def marchDefaults (_ : Uuid) : Defaults := ⟨1, 1⟩

theorem pays_everyone_march :
    ∃ results db', execute ⟨[5], []⟩ marchTables march marchDefaults = (.ok results, db') ∧
      ∀ nodeId, 0 < earned marchTables march nodeId → Paid db' march nodeId := by
  refine (pays_everyone_iff (.nil [5]) marchTables march marchDefaults).mpr ?_
  have only : ∀ nodeId, 0 < earned marchTables march nodeId → nodeId = 5 := by
    intro nodeId earns
    have node : marchTables.active march = [5] := by decide +kernel
    have active := active_of_earned earns
    rw [node, List.mem_singleton] at active
    exact active
  constructor
  · decide
  · intro nodeId earns
    obtain rfl := only nodeId earns
    have free : Unpaid ⟨[5], []⟩ march 5 := fun _ member => absurd member List.not_mem_nil
    exact .inr ⟨free, by decide, by decide, by decide +kernel, by decide +kernel⟩
  · intro a b earns earns' _ _ _
    rw [only a earns, only b earns']

/-- A node whose identifier no user has is never paid: the foreign key refuses the row,
and the ledger looks for the entry of a race that nobody won. -/
theorem unknown_account_raises :
    (⟨[1], []⟩ : Database).Valid ∧ 0 < earned marchTables march 5 ∧
      execute ⟨[1], []⟩ marchTables march marchDefaults = (.error .noResultFound, ⟨[1], []⟩) := by
  refine ⟨.nil [1], ?_, ?_⟩
  · decide +kernel
  · decide +kernel

end RenderTrust.Billing
