import RenderTrust.Ledger.Invariant
import RenderTrust.Lib.Keyed

/-!
# What a call answers

A table that satisfies its column types and constraints, and what a call in a
transaction of its own answers and writes over such a table.
-/
namespace RenderTrust.Ledger
open Lib.Rounding Lib.Journal Lib.Keyed

theorem numeric_numeric {x y : Decimal} (h : numeric x = some y) : numeric y = some y := by
  obtain ⟨multiple, small⟩ := Multiple.of_fixed h
  exact fixed_multiple multiple small

/-- What a column holds is stored as it is. -/
theorem CreditLedgerEntry.stored_stored {e row : CreditLedgerEntry} (h : e.stored = some row) :
    row.stored = some row := by
  obtain ⟨amount, balanceAfter, hamount, hbalance, rfl⟩ := stored_eq_some h
  unfold stored at h ⊢
  simp only [hamount, hbalance, numeric_numeric hamount, numeric_numeric hbalance] at h ⊢
  split at h
  · rename_i texts
    rw [if_pos texts]
  · cases h

/-- The texts of what is stored fit into their columns. -/
theorem CreditLedgerEntry.stored_texts {e row : CreditLedgerEntry} (h : e.stored = some row) :
    e.referenceId.length ≤ 255 ∧ bindable e.referenceId ∧ e.description.all bindable := by
  unfold stored at h
  split at h
  · split at h
    · assumption
    · cases h
  · cases h

theorem CreditLedgerEntry.bindable_of_stored {e row : CreditLedgerEntry}
    (h : e.stored = some row) : bindable e.referenceId :=
  (stored_texts h).2.1

theorem CreditLedgerEntry.stored_key {e row : CreditLedgerEntry} (h : e.stored = some row) :
    row.key = e.key ∧ row.userId = e.userId ∧ row.id = e.id := by
  obtain ⟨amount, balanceAfter, _, _, rfl⟩ := stored_eq_some h
  exact ⟨rfl, rfl, rfl⟩

namespace Database

/-- The rows are of the columns' types and satisfy the constraints. -/
structure Valid (db : Database) : Prop where
  stored : ∀ e ∈ db.entries, e.stored = some e
  checks : ∀ e ∈ db.entries, db.Checks e
  ids : DistinctKeys CreditLedgerEntry.id db.entries
  keys : DistinctKeys CreditLedgerEntry.key db.entries

theorem Valid.nil (users : List UUID) : Valid ⟨users, []⟩ where
  stored := fun _ member => absurd member List.not_mem_nil
  checks := fun _ member => absurd member List.not_mem_nil
  ids := List.nodup_nil
  keys := List.nodup_nil

theorem Valid.append {db : Database} (h : db.Valid) {row : CreditLedgerEntry}
    (stored : row.stored = some row) (checks : db.Checks row) (unique : db.Unique row) :
    (db.append row).Valid where
  stored := by
    intro e member
    rcases List.mem_append.mp member with old | new
    · exact h.stored e old
    · rwa [List.mem_singleton.mp new]
  checks := by
    intro e member
    rcases List.mem_append.mp member with old | new
    · exact h.checks e old
    · rw [List.mem_singleton.mp new]
      exact checks
  ids := h.ids.append_singleton unique.1
  keys := h.keys.append_singleton unique.2

theorem Valid.currentBalance_nonneg {db : Database} (h : db.Valid) (userId : UUID) :
    0 ≤ currentBalance (db.lastEntry userId) := by
  cases latest : db.lastEntry userId with
  | none => exact le_rfl
  | some e => exact (h.checks e (ledgerView.latest_mem latest).1).1

theorem Valid.representable {db : Database} (h : db.Valid) {e : CreditLedgerEntry}
    (member : e ∈ db.entries) : Representable e.balanceAfter := by
  obtain ⟨amount, balanceAfter, -, fits, same⟩ :=
    CreditLedgerEntry.stored_eq_some (h.stored e member)
  rw [same]
  exact numeric_bound fits

theorem Valid.currentBalance_representable {db : Database} (h : db.Valid) (userId : UUID) :
    Representable (currentBalance (db.lastEntry userId)) :=
  representable_currentBalance fun _ latest => h.representable (ledgerView.latest_mem latest).1

theorem Valid.insert {db db' : Database} (h : db.Valid) {e : CreditLedgerEntry}
    (inserted : db.insert e = .ok db') : db'.Valid := by
  obtain ⟨row, stored, checks, unique, rfl⟩ := insert_eq_ok inserted
  exact h.append (CreditLedgerEntry.stored_stored stored) checks unique

theorem insert_refused {db : Database} {e : CreditLedgerEntry}
    (refused : db.insert e = .error .integrityError) :
    ∃ row, e.stored = some row ∧ ¬ (db.Checks row ∧ db.Unique row) := by
  unfold insert at refused
  split at refused
  · cases refused
  · rename_i row stored
    split at refused
    · cases refused
    · rename_i breaks
      exact ⟨row, stored, breaks⟩

theorem byReference_readable {db : Database} {referenceId : String}
    {direction : TransactionDirection} {rows : List CreditLedgerEntry}
    (h : db.byReference referenceId direction = .ok rows) : bindable referenceId := by
  unfold byReference at h
  split at h
  · assumption
  · cases h

/-! ## The row of a key -/

theorem Valid.byReference_eq {db : Database} (h : db.Valid) {row : CreditLedgerEntry}
    (member : row ∈ db.entries) :
    db.byReference row.referenceId row.direction = .ok [row] := by
  unfold byReference
  rw [if_pos (CreditLedgerEntry.bindable_of_stored (h.stored row member))]
  exact congrArg Except.ok (h.keys.filter_key member)

theorem mem_of_byReference {db : Database} {referenceId : String}
    {direction : TransactionDirection} {rows : List CreditLedgerEntry}
    (h : db.byReference referenceId direction = .ok rows) {e : CreditLedgerEntry} :
    e ∈ rows ↔ e ∈ db.entries ∧ e.key = (referenceId, direction) := by
  unfold byReference at h
  split at h
  · rw [← Except.ok.inj h, List.mem_filter, decide_eq_true_eq]
  · cases h

end Database

theorem mem_of_scalarOneOrNone {rows : List CreditLedgerEntry} {row : CreditLedgerEntry}
    (h : scalarOneOrNone rows = .ok (some row)) : row ∈ rows := by
  cases rows with
  | nil => cases h
  | cons first rest =>
      cases rest with
      | nil =>
          obtain rfl := Option.some.inj (Except.ok.inj h)
          exact List.mem_singleton_self first
      | cons second rest => cases h

theorem eq_nil_of_scalarOneOrNone {rows : List CreditLedgerEntry}
    (h : scalarOneOrNone rows = .ok none) : rows = [] := by
  cases rows with
  | nil => rfl
  | cons first rest => cases rest <;> cases h

theorem mem_of_scalarOne {rows : List CreditLedgerEntry} {row : CreditLedgerEntry}
    (h : scalarOne rows = .ok row) : row ∈ rows := by
  cases rows with
  | nil => cases h
  | cons first rest =>
      cases rest with
      | nil =>
          obtain rfl := Except.ok.inj h
          exact List.mem_singleton_self first
      | cons second rest => cases h

/-! ## Answers -/

def Call.key (c : Call) : String × TransactionDirection := (c.args.referenceId, c.direction)

theorem Call.settle_nonneg {c : Call} {current newBalance : Decimal} (h : 0 ≤ current)
    (positive : 0 < c.args.amount) (settled : c.settle current = .ok newBalance) :
    0 ≤ newBalance := by
  cases c with
  | mk direction args =>
      cases direction with
      | CREDIT =>
          obtain rfl : decimalAdd current args.amount = newBalance := Except.ok.inj settled
          exact significant_nonneg 28 (add_nonneg h positive.le)
      | DEBIT => exact (debitSettle_ok_iff.mp settled).2

theorem Call.settle_error {c : Call} {current : Decimal} {e : LedgerError}
    (refused : c.settle current = .error e) :
    e = .insufficientCredits c.args.userId c.args.amount current := by
  cases c with
  | mk direction args =>
      cases direction with
      | CREDIT => cases refused
      | DEBIT => exact (debitSettle_error_iff.mp refused).2.symm

section Answers
variable {db : Database} {c : Call} {defaults : Defaults} {s t : Session}
  {entry row : CreditLedgerEntry}

theorem Call.mem_of_existing
    (h : (db.byReference c.args.referenceId c.direction).bind scalarOneOrNone =
      .ok (some row)) : row ∈ db.entries ∧ row.key = c.key := by
  cases found : db.byReference c.args.referenceId c.direction with
  | error e =>
      rw [found] at h
      cases h
  | ok rows =>
      rw [found] at h
      exact (Database.mem_of_byReference found).mp (mem_of_scalarOneOrNone h)

theorem Call.free_of_existing
    (h : (db.byReference c.args.referenceId c.direction).bind scalarOneOrNone = .ok none) :
    ∀ e ∈ db.entries, e.key ≠ c.key := by
  cases found : db.byReference c.args.referenceId c.direction with
  | error e =>
      rw [found] at h
      cases h
  | ok rows =>
      rw [found] at h
      intro e member same
      have inside := (Database.mem_of_byReference found).mpr ⟨member, same⟩
      rw [eq_nil_of_scalarOneOrNone h] at inside
      exact absurd inside List.not_mem_nil

theorem Call.existing_of_free (readable : bindable c.args.referenceId)
    (free : ∀ e ∈ db.entries, e.key ≠ c.key) :
    (db.byReference c.args.referenceId c.direction).bind scalarOneOrNone = .ok none := by
  have none_has : db.entries.filter (fun e => e.key = (c.args.referenceId, c.direction)) = [] := by
    apply List.filter_eq_nil_iff.mpr
    intro e member same
    exact free e member (of_decide_eq_true same)
  unfold Database.byReference
  rw [if_pos readable, none_has]
  rfl

theorem Call.readable_of_existing {found : Option CreditLedgerEntry}
    (h : (db.byReference c.args.referenceId c.direction).bind scalarOneOrNone = .ok found) :
    bindable c.args.referenceId := by
  cases rows : db.byReference c.args.referenceId c.direction with
  | error e =>
      rw [rows] at h
      cases h
  | ok rows' => exact Database.byReference_readable rows

theorem Call.mem_of_reselected
    (h : (db.byReference c.args.referenceId c.direction).bind scalarOne = .ok row) :
    row ∈ db.entries ∧ row.key = c.key := by
  cases found : db.byReference c.args.referenceId c.direction with
  | error e =>
      rw [found] at h
      cases h
  | ok rows =>
      rw [found] at h
      exact (Database.mem_of_byReference found).mp (mem_of_scalarOne h)

/-- A call whose key is taken returns the row that has it, whatever it asks for. -/
theorem Call.run_replay (valid : s.working.Valid) (member : row ∈ s.working.entries)
    (same : row.key = c.key) (positive : 0 < c.args.amount) :
    (c.run defaults).run s = .ok row s := by
  have existing : (s.working.byReference c.args.referenceId c.direction).bind scalarOneOrNone =
      .ok (some row) := by
    obtain ⟨reference, direction⟩ := Prod.mk.inj same
    rw [← reference, ← direction, valid.byReference_eq member]
    rfl
  have all := c.run_posting defaults s
  generalize (c.run defaults).run s = r at all ⊢
  cases all with
  | rejected small => exact absurd positive (not_lt.mpr small)
  | unreadable _ found =>
      rw [existing] at found
      cases found
  | replayed _ found =>
      rw [existing] at found
      rw [Option.some.inj (Except.ok.inj found)]
  | refused _ found =>
      rw [existing] at found
      cases found
  | posted _ found =>
      rw [existing] at found
      cases found
  | unstorable _ found =>
      rw [existing] at found
      cases found
  | conflicting _ found =>
      rw [existing] at found
      cases found

/-- A call whose key is free and whose row the ledger takes writes the row. -/
theorem Call.run_post {newBalance : Decimal} (positive : 0 < c.args.amount)
    (free : ∀ e ∈ s.working.entries, e.key ≠ c.key)
    (settled : c.settle (currentBalance (s.working.lastEntry c.args.userId)) = .ok newBalance)
    (stored : (newEntry c.direction c.args defaults newBalance).stored = some row)
    (checks : s.working.Checks row) (unique : s.working.Unique row) :
    (c.run defaults).run s = .ok (newEntry c.direction c.args defaults newBalance)
      { s with working := s.working.append row } := by
  have existing := Call.existing_of_free (CreditLedgerEntry.bindable_of_stored stored) free
  have inserted : s.working.insert (newEntry c.direction c.args defaults newBalance) =
      .ok (s.working.append row) := by
    unfold Database.insert
    rw [stored]
    exact if_pos ⟨checks, unique⟩
  have all := c.run_posting defaults s
  generalize (c.run defaults).run s = r at all ⊢
  cases all with
  | rejected small => exact absurd positive (not_lt.mpr small)
  | unreadable _ found =>
      rw [existing] at found
      cases found
  | replayed _ found =>
      rw [existing] at found
      cases found
  | refused _ _ refused =>
      rw [settled] at refused
      cases refused
  | posted _ _ settled' inserted' =>
      rw [settled] at settled'
      obtain rfl := Except.ok.inj settled'
      rw [inserted] at inserted'
      rw [Except.ok.inj inserted']
  | unstorable _ _ settled' refused =>
      rw [settled] at settled'
      obtain rfl := Except.ok.inj settled'
      rw [inserted] at refused
      cases refused
  | conflicting _ _ settled' refused =>
      rw [settled] at settled'
      obtain rfl := Except.ok.inj settled'
      rw [inserted] at refused
      cases refused

theorem Call.run_settled {newBalance requested available : Decimal} {userId : UUID}
    (settled : c.settle (currentBalance (s.working.lastEntry c.args.userId)) = .ok newBalance) :
    (c.run defaults).run s ≠ .error (.insufficientCredits userId requested available) t := by
  intro raised
  have all := c.run_posting defaults s
  rw [raised] at all
  generalize hr : EStateM.Result.error _ t = r at all
  cases all with
  | rejected => cases hr
  | unreadable _ found =>
      cases hr
      cases Database.lookup_error scalarOneOrNone_error found
  | replayed => cases hr
  | refused _ _ refused =>
      rw [settled] at refused
      cases refused
  | posted => cases hr
  | unstorable => cases hr
  | conflicting =>
      revert hr
      cases again : (s.committed.byReference c.args.referenceId c.direction).bind scalarOne with
      | error e =>
          intro hr
          cases hr
          cases Database.lookup_error scalarOne_error again
      | ok row =>
          intro hr
          cases hr

/-- What a session that sees all that is committed knows of a call that returned. -/
inductive Returned (c : Call) (defaults : Defaults) (s : Session) (entry : CreditLedgerEntry) :
    Session → Prop
  | replayed : 0 < c.args.amount → entry ∈ s.working.entries → entry.key = c.key →
      Returned c defaults s entry s
  | posted {row : CreditLedgerEntry} : 0 < c.args.amount → entry.stored = some row →
      entry.key = c.key →
      s.working.Checks row → s.working.Unique row →
      Returned c defaults s entry { s with working := s.working.append row }

theorem Call.run_returned (sees : s.committed.entries ⊆ s.working.entries)
    (h : (c.run defaults).run s = .ok entry t) : Returned c defaults s entry t := by
  have all := c.run_posting defaults s
  rw [h] at all
  generalize hr : EStateM.Result.ok entry t = r at all
  cases all with
  | rejected => cases hr
  | unreadable => cases hr
  | replayed positive found =>
      cases hr
      obtain ⟨member, same⟩ := Call.mem_of_existing found
      exact .replayed positive member same
  | refused => cases hr
  | posted positive _ _ inserted =>
      cases hr
      obtain ⟨row, stored, checks, unique, rfl⟩ := Database.insert_eq_ok inserted
      exact .posted positive stored rfl checks unique
  | unstorable => cases hr
  | conflicting _ found =>
      cases again : (s.committed.byReference c.args.referenceId c.direction).bind scalarOne with
      | error e =>
          rw [again] at hr
          cases hr
      | ok row =>
          obtain ⟨member, same⟩ := Call.mem_of_reselected again
          exact absurd same (Call.free_of_existing found row (sees member))

end Answers

/-! ## A call in its own transaction -/

def outcome (db : Database) (event : Event) : Except LedgerError CreditLedgerEntry :=
  match (event.call.run event.defaults).run (Session.begin db) with
  | .ok entry _ => .ok entry
  | .error e _ => .error e

def final (db : Database) (events : List Event) : Database := events.foldl transact db

theorem final_append (db : Database) (events rest : List Event) :
    final db (events ++ rest) = final (final db events) rest :=
  List.foldl_append

section Transactions
variable {db : Database} {event : Event} {entry row : CreditLedgerEntry}

theorem Writes.stored {event : Event} (h : Writes db event row) : row.stored = some row := by
  obtain ⟨newBalance, _, stored⟩ := h.settled
  exact CreditLedgerEntry.stored_stored stored

theorem Database.Valid.transact (h : db.Valid) (event : Event) : (transact db event).Valid := by
  rcases transact_cases db event with same | ⟨row, writes, same⟩
  · rw [same]
    exact h
  · rw [same]
    exact h.append writes.stored writes.checks writes.unique

theorem Database.Valid.final (h : db.Valid) (events : List Event) : (final db events).Valid := by
  induction events generalizing db with
  | nil => exact h
  | cons event events ih => exact ih (h.transact event)

/-- What a written row leaves to be read as the last entry of a user. -/
theorem Writes.lastEntry_cases (valid : db.Valid) (writes : Writes db event row) (userId : UUID) :
    (db.append row).lastEntry userId = db.lastEntry userId ∨
      event.call.args.userId = userId ∧ (db.append row).lastEntry userId = some row := by
  have nodup : (db.entries ++ [row]).Nodup :=
    List.Nodup.of_map _ (valid.ids.append_singleton writes.unique.1)
  rcases ledgerView.latest_concat_cases nodup with old | ⟨mine, new⟩
  · exact .inl old
  · exact .inr ⟨writes.row_eq.1.symm.trans mine, new⟩

/-- What a call leaves to be read as the last entry of a user. -/
theorem lastEntry_transact (valid : db.Valid) (event : Event) (userId : UUID) :
    (transact db event).lastEntry userId = db.lastEntry userId ∨
      ∃ row, Writes db event row ∧ event.call.args.userId = userId ∧
        (transact db event).lastEntry userId = some row := by
  rcases transact_cases db event with same | ⟨row, writes, same⟩
  · rw [same]
    exact .inl rfl
  · rw [same]
    rcases writes.lastEntry_cases valid userId with old | ⟨mine, new⟩
    · exact .inl old
    · exact .inr ⟨row, writes, mine, new⟩

theorem mem_transact (event : Event) (member : row ∈ db.entries) :
    row ∈ (transact db event).entries := by
  rcases transact_cases db event with same | ⟨new, _, same⟩
  · rw [same]
    exact member
  · rw [same]
    exact List.mem_append_left [new] member

theorem mem_final (events : List Event) (member : row ∈ db.entries) :
    row ∈ (final db events).entries := by
  induction events generalizing db with
  | nil => exact member
  | cons event events ih => exact ih (mem_transact event member)

/-- The entry a call returns is in the ledger when its transaction ends. -/
theorem mem_transact_of_outcome (valid : db.Valid) (h : outcome db event = .ok entry) :
    ∃ row ∈ (transact db event).entries, row.key = event.call.key ∧ entry.stored = some row := by
  unfold outcome at h
  split at h
  · rename_i returned t ran
    obtain rfl := Except.ok.inj h
    rw [transact_eq, ran]
    cases Call.run_returned (List.Subset.refl _) ran with
    | replayed _ member same => exact ⟨returned, member, same, valid.stored returned member⟩
    | posted _ stored same _ _ =>
        refine ⟨_, List.mem_append_right _ (List.mem_singleton_self _), ?_, stored⟩
        rw [(CreditLedgerEntry.stored_key stored).1, same]
  · cases h

/-- A call with a taken key changes nothing and answers with the row that has it. -/
theorem transact_replay (valid : db.Valid) (member : row ∈ db.entries)
    (same : row.key = event.call.key) (positive : 0 < event.call.args.amount) :
    transact db event = db ∧ outcome db event = .ok row := by
  have ran : (event.call.run event.defaults).run (Session.begin db) = .ok row (Session.begin db) :=
    Call.run_replay valid member same positive
  unfold transact outcome
  rw [ran]
  exact ⟨rfl, rfl⟩

/-! ## A call the ledger takes as it is -/

namespace Event

/-- The row of a call of which nothing is rounded. -/
def written (db : Database) (event : Event) : CreditLedgerEntry :=
  newEntry event.call.direction event.call.args event.defaults
    (currentBalance (db.lastEntry event.call.args.userId) +
      signedAmount event.call.direction event.call.args.amount)

structure Taken (db : Database) (event : Event) : Prop where
  positive : 0 < event.call.args.amount
  amount : Representable event.call.args.amount
  balance : Representable (event.written db).balanceAfter
  nonneg : 0 ≤ (event.written db).balanceAfter
  texts : event.call.args.referenceId.length ≤ 255 ∧ bindable event.call.args.referenceId ∧
    event.call.args.description.all bindable
  account : event.call.args.userId ∈ db.users
  fresh : ∀ e ∈ db.entries, e.id ≠ event.defaults.id ∧ e.key ≠ event.call.key

theorem Taken.settle (taken : event.Taken db) :
    event.call.settle (currentBalance (db.lastEntry event.call.args.userId)) =
      .ok (event.written db).balanceAfter := by
  obtain ⟨whole, size⟩ := taken.balance
  have nonneg := taken.nonneg
  unfold written at whole size nonneg ⊢
  generalize currentBalance _ = current at *
  rcases event with ⟨⟨direction, args⟩, defaults⟩
  cases direction with
  | CREDIT => exact congrArg Except.ok (decimalAdd_exact whole (size.trans (by norm_num)))
  | DEBIT =>
      change Multiple 4 (current + -args.amount) at whole
      change |current + -args.amount| < 10 ^ 8 at size
      change 0 ≤ current + -args.amount at nonneg
      change debitSettle args.userId args.amount current = .ok (current + -args.amount)
      rw [← sub_eq_add_neg] at whole size nonneg ⊢
      exact debitSettle_ok_iff.mpr
        ⟨decimalSub_exact whole (size.trans (by norm_num)), nonneg⟩

theorem Taken.transact (taken : event.Taken db) :
    outcome db event = .ok (event.written db) ∧
      transact db event = db.append (event.written db) := by
  have stored : (event.written db).stored = some (event.written db) := by
    unfold CreditLedgerEntry.stored
    have amount : numeric (event.written db).amount = some (event.written db).amount :=
      taken.amount.numeric
    rw [amount, taken.balance.numeric]
    exact if_pos taken.texts
  have unique : db.Unique (event.written db) := by
    constructor
    · intro there
      obtain ⟨e, member, same⟩ := List.mem_map.mp there
      exact (taken.fresh e member).1 same
    · intro there
      obtain ⟨e, member, same⟩ := List.mem_map.mp there
      exact (taken.fresh e member).2 same
  have ran : (event.call.run event.defaults).run (Session.begin db) = _ :=
    Call.run_post taken.positive (fun e member => (taken.fresh e member).2) taken.settle stored
      ⟨taken.nonneg, taken.account⟩ unique
  unfold outcome Ledger.transact
  rw [ran]
  exact ⟨rfl, rfl⟩

end Event

/-- A call in its own transaction as one function of the ledger. -/
def answer (db : Database) (event : Event) : Except LedgerError CreditLedgerEntry × Database :=
  let c := event.call
  if c.args.amount ≤ 0 then (.error (.valueError c.notPositive), db)
  else match (db.byReference c.args.referenceId c.direction).bind scalarOneOrNone with
    | .error e => (.error e, db)
    | .ok (some row) => (.ok row, db)
    | .ok none =>
        match c.settle (currentBalance (db.lastEntry c.args.userId)) with
        | .error e => (.error e, db)
        | .ok newBalance =>
            let entry := newEntry c.direction c.args event.defaults newBalance
            match db.insert entry with
            | .ok written => (.ok entry, written)
            | .error .dataError => (.error .dataError, db)
            | .error .integrityError =>
                ((db.byReference c.args.referenceId c.direction).bind scalarOne, db)

theorem answer_eq (db : Database) (event : Event) :
    answer db event = (outcome db event, transact db event) := by
  have all := event.call.run_posting event.defaults (Session.begin db)
  unfold answer outcome transact
  generalize (event.call.run event.defaults).run (Session.begin db) = r at all ⊢
  cases all with
  | rejected small => simp only [if_pos small, Session.rollback, Session.begin]
  | unreadable positive existing =>
      simp only [Session.begin] at existing
      simp only [if_neg (not_le.mpr positive), existing, Session.rollback, Session.begin]
  | replayed positive existing =>
      simp only [Session.begin] at existing
      simp only [if_neg (not_le.mpr positive), existing, Session.commit, Session.begin]
  | refused positive existing settled =>
      simp only [Session.begin] at existing settled
      simp only [if_neg (not_le.mpr positive), existing, settled, Session.rollback, Session.begin]
  | posted positive existing settled inserted =>
      simp only [Session.begin] at existing settled inserted
      simp only [if_neg (not_le.mpr positive), existing, settled, inserted, Session.commit]
  | unstorable positive existing settled inserted =>
      simp only [Session.begin] at existing settled inserted
      simp only [if_neg (not_le.mpr positive), existing, settled, inserted, Session.rollback,
        Session.begin]
  | conflicting positive existing settled inserted =>
      simp only [Session.begin] at existing settled inserted
      simp only [if_neg (not_le.mpr positive), existing, settled, inserted, Session.begin]
      cases (db.byReference event.call.args.referenceId event.call.direction).bind scalarOne <;> rfl

/-- A call that the balance does not cover raises and leaves the ledger. -/
theorem transact_refused {e : LedgerError} (positive : 0 < event.call.args.amount)
    (readable : bindable event.call.args.referenceId)
    (free : ∀ row ∈ db.entries, row.key ≠ event.call.key)
    (settled : event.call.settle (currentBalance (db.lastEntry event.call.args.userId)) =
      .error e) : outcome db event = .error e ∧ transact db event = db := by
  have answered : answer db event = (.error e, db) := by
    unfold answer
    simp only [if_neg (not_le.mpr positive), Call.existing_of_free readable free, settled]
  rw [answer_eq] at answered
  exact Prod.mk.inj answered

end Transactions
end RenderTrust.Ledger
