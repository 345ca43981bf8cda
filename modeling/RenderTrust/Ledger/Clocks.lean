import RenderTrust.Ledger.Outcomes

/-!
# Balances and clocks

The entries of a user are told apart by `created_at`, which each process reads from a clock of
its own. What is read as the last entry is the one that was inserted last as long as the clocks
agree with the order of the insertions.
-/
namespace RenderTrust.Ledger
open Lib.Journal Lib.Runs

variable {db : Database} {event : Event} {row : CreditLedgerEntry}

/-- The call writes nothing: its amount is not positive, its key is taken, or the balance does
not cover it. -/
def Event.declined (db : Database) (event : Event) : Bool :=
  event.call.args.amount ≤ 0 ∨ event.call.key ∈ db.entries.map CreditLedgerEntry.key ∨
    !(event.call.settle (currentBalance (db.lastEntry event.call.args.userId))).toBool

/-- The stamp is newer than the user's entries, and the amount rounds like the balance. -/
def Event.timed (db : Database) (event : Event) : Bool :=
  (∀ e ∈ db.entries, e.userId = event.call.args.userId → e.createdAt < event.defaults.createdAt) ∧
    event.call.RoundsAlike (currentBalance (db.lastEntry event.call.args.userId))

def Timely (db : Database) (event : Event) : Prop := event.declined db ∨ event.timed db

instance (db : Database) (event : Event) : Decidable (Timely db event) :=
  inferInstanceAs (Decidable (_ ∨ _))

/-- The user's entry that was inserted last. -/
def Database.lastInserted (db : Database) (userId : UUID) : Option CreditLedgerEntry :=
  (ledgerView.rows userId db.entries).getLast?

structure BalanceSurvives (db : Database) : Prop where
  last : ∀ userId, (getBalance userId).run (Session.begin db) =
    .ok (currentBalance (db.lastInserted userId)) (Session.begin db)
  sum : ∀ userId, (getBalance userId).run (Session.begin db) =
    .ok (signedSum userId db.entries) (Session.begin db)

theorem Writes.not_declined (writes : Writes db event row) : event.declined db = false := by
  obtain ⟨positive, ⟨newBalance, settled, stored⟩, -, unique⟩ := writes
  have free : event.call.key ∉ db.entries.map CreditLedgerEntry.key := by
    have key := (CreditLedgerEntry.stored_key stored).1
    intro taken
    apply unique.2
    rw [key]
    exact taken
  have covered : (event.call.settle
      (currentBalance (db.lastEntry event.call.args.userId))).toBool = true := by
    rw [settled]
    rfl
  simp [Event.declined, free, covered, positive]

theorem Sound.timely (sound : Sound db.entries) (timely : Timely db event) :
    Sound (transact db event).entries := by
  rcases transact_cases db event with same | ⟨row, writes, same⟩
  · rw [same]
    exact sound
  · rw [same]
    rcases timely with declined | timed
    · rw [writes.not_declined] at declined
      cases declined
    · obtain ⟨newer, alike⟩ := of_decide_eq_true timed
      exact sound.writes writes newer alike

/-- What is written is read as the last entry if and only if its stamp is the newest. -/
theorem Writes.lastEntry_iff (writes : Writes db event row) :
    (db.append row).lastEntry event.call.args.userId = some row ↔
      ∀ e ∈ db.entries, e.userId = event.call.args.userId →
        e.createdAt < event.defaults.createdAt := by
  obtain ⟨sameUser, sameTime, -⟩ := writes.row_eq
  have absent : row ∉ db.entries := fun there => writes.unique.1 (List.mem_map_of_mem there)
  have latest := ledgerView.latest_concat_self_iff absent
  change ledgerView.latest row.userId _ = some row ↔ ∀ e ∈ db.entries, e.userId = row.userId →
    e.createdAt < row.createdAt at latest
  rw [sameUser, sameTime] at latest
  exact latest

theorem Sound.balanceSurvives (sound : Sound db.entries) : BalanceSurvives db where
  last := by
    intro userId
    change EStateM.Result.ok (currentBalance (ledgerView.latest userId db.entries)) _ = _
    rw [ledgerView.latest_of_ordered sound.kept.ordered userId]
    rfl
  sum := by
    intro userId
    rw [← sound.currentBalance_eq userId]
    rfl

theorem balanceSurvives_of_run {users : List UUID} {events : List Event}
    (run : Run (fun db event => some (transact db event)) Timely ⟨users, []⟩ events db) :
    BalanceSurvives db := by
  have sound : Sound db.entries := by
    apply Run.invariant (I := fun db => Sound db.entries) _ run Sound.nil
    intro db event db' sound timely accepted
    obtain rfl := Option.some.inj accepted
    exact sound.timely timely
  exact sound.balanceSurvives

/-- The clocks go back for a call that is repeated, for one that is not covered, and for
another user. -/
def clockEvents : List Event :=
  [⟨⟨.CREDIT, ⟨1, 100, .STRIPE, "in_1", none⟩⟩, ⟨11, 8⟩⟩,
   ⟨⟨.CREDIT, ⟨1, 100, .STRIPE, "in_1", none⟩⟩, ⟨12, 3⟩⟩,
   ⟨⟨.DEBIT, ⟨1, 101, .USAGE, "job_1", none⟩⟩, ⟨13, 2⟩⟩,
   ⟨⟨.CREDIT, ⟨2, 50, .STRIPE, "in_2", none⟩⟩, ⟨14, 5⟩⟩,
   ⟨⟨.DEBIT, ⟨1, 60, .USAGE, "job_2", none⟩⟩, ⟨15, 9⟩⟩]

theorem balanceSurvives_clockEvents : ∃ db : Database,
    Run (fun db event => some (transact db event)) Timely ⟨[1, 2], []⟩ clockEvents db ∧
      BalanceSurvives db := by
  have accepted : (exec (fun db event => some (transact db event)) Timely ⟨[1, 2], []⟩
      clockEvents).isSome := by decide +kernel
  obtain ⟨db, run⟩ := run_of_isSome accepted
  exact ⟨db, run, balanceSurvives_of_run run⟩

/-- The second process stamps its entry before that of the first. -/
def backwards : List Event :=
  [⟨⟨.CREDIT, ⟨1, 100, .STRIPE, "in_1", none⟩⟩, ⟨11, 5⟩⟩,
   ⟨⟨.CREDIT, ⟨1, 50, .STRIPE, "in_2", none⟩⟩, ⟨12, 4⟩⟩]

def backwardsLedger : Database where
  users := [1]
  entries :=
    [⟨11, 1, 100, .CREDIT, .STRIPE, "in_1", 100, none, 5⟩,
     ⟨12, 1, 50, .CREDIT, .STRIPE, "in_2", 150, none, 4⟩]

theorem balance_lost : ¬ ∀ (events : List Event) (db : Database),
    Run (fun db event => some (transact db event)) Always ⟨[1], []⟩ events db →
      BalanceSurvives db := by
  intro claim
  have final : exec (fun db event => some (transact db event)) Always ⟨[1], []⟩ backwards =
      some backwardsLedger := by decide +kernel
  have read : currentBalance (backwardsLedger.lastEntry 1) = 100 := by
    cases latest : backwardsLedger.lastEntry 1 with
    | none =>
        have empty := ledgerView.latest_none latest
        exact absurd empty (by decide)
    | some e =>
        have newest := ledgerView.le_latest latest List.mem_cons_self rfl
        obtain ⟨member, -⟩ := ledgerView.latest_mem latest
        simp only [backwardsLedger, List.mem_cons, List.not_mem_nil, or_false] at member
        rcases member with rfl | rfl
        · rfl
        · exact absurd newest (by decide)
  have inserted : currentBalance (backwardsLedger.lastInserted 1) = 150 := by decide +kernel
  have survives := (claim backwards backwardsLedger (exec_eq_some.mp final)).last 1
  change EStateM.Result.ok (currentBalance (backwardsLedger.lastEntry 1)) _ = _ at survives
  rw [read, inserted] at survives
  cases survives

end RenderTrust.Ledger
