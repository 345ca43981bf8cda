import RenderTrust.Ledger.Outcomes

/-!
# Amounts and balances of four decimals

The column rounds the amount of an entry, half away from zero, and the new balance, which the
call has worked out to 28 digits from the balance before. The two agree unless the amount is
half-way between two values of the column, or just past it.
-/
namespace RenderTrust.Ledger
open Lib.Rounding Lib.Journal Lib.Runs

/-- The last half-way point between two values of the column, up to the amount. -/
def halfWay (amount : Decimal) : Decimal := (⌊amount * 10 ^ 4 + 1 / 2⌋ - 1 / 2) / 10 ^ 4

namespace Call
variable (c : Call) (current : Decimal)

/-- Half a unit in the 28th digit of the new balance. -/
def slack : Decimal := ulp 28 (current + signedAmount c.direction c.args.amount) / 2

/-- A credit stays below the next half-way point, and a debit reaches past one. -/
def Clear : Prop :=
  match c.direction with
  | .CREDIT => c.args.amount + c.slack current < halfWay c.args.amount + 1 / 10 ^ 4
  | .DEBIT =>
      1 / 2 / 10 ^ 4 ≤ c.args.amount ∧ halfWay c.args.amount + c.slack current < c.args.amount

instance : Decidable (c.Clear current) := by
  unfold Clear
  split <;> infer_instance

end Call

/-- The stored amount is what the stored balance moves by, and a debit moves it. -/
structure Quantised (current : Decimal) (row : CreditLedgerEntry) : Prop where
  amount : row.amount = |row.balanceAfter - current|
  moves : row.direction = .DEBIT → row.balanceAfter ≠ current

section Units
variable {amount slack : ℚ} {k : ℤ}

theorem floor_moved (k : ℤ) {x y : ℚ} (moved : x = k + y) : ⌊x⌋ = k + ⌊y⌋ := by
  rw [moved, Int.floor_intCast_add]

/-- In units of the column, for a balance of `k` of them. -/
theorem debit_units (nonneg : 0 ≤ slack) (small : slack ≤ 1 / 2) (positive : 0 < amount) :
    (⌊amount + 1 / 2⌋ = |⌊(k - amount) + slack + 1 / 2⌋ - k| ∧
        ⌊((k : ℚ) - amount) + slack + 1 / 2⌋ ≠ k) ↔
      1 / 2 ≤ amount ∧ (⌊amount + 1 / 2⌋ : ℚ) - 1 / 2 + slack < amount := by
  have moved : ⌊((k : ℚ) - amount) + slack + 1 / 2⌋ = k + ⌊slack + 1 / 2 - amount⌋ :=
    floor_moved k (by ring)
  have down : ⌊slack + 1 / 2 - amount⌋ ≤ 0 := by
    apply Int.lt_add_one_iff.mp
    apply Int.floor_lt.mpr
    push_cast
    linarith
  rw [moved, add_sub_cancel_left, abs_of_nonpos down]
  have rounded := Int.lt_floor_add_one (amount + 1 / 2)
  have step := Int.lt_floor_add_one (slack + 1 / 2 - amount)
  constructor
  · rintro ⟨same, moves⟩
    have least : (1 : ℤ) ≤ ⌊amount + 1 / 2⌋ := by omega
    have reached := Int.le_floor.mp least
    have same' : ((⌊slack + 1 / 2 - amount⌋ : ℤ) : ℚ) = -⌊amount + 1 / 2⌋ := by
      rw [same]
      push_cast
      ring
    push_cast at reached
    constructor
    · linarith
    · rw [same'] at step
      linarith
  · rintro ⟨reached, past⟩
    have least : (1 : ℤ) ≤ ⌊amount + 1 / 2⌋ := by
      apply Int.le_floor.mpr
      push_cast
      linarith
    have above : -⌊amount + 1 / 2⌋ ≤ ⌊slack + 1 / 2 - amount⌋ := by
      apply Int.le_floor.mpr
      push_cast
      linarith
    have below : ⌊slack + 1 / 2 - amount⌋ < -⌊amount + 1 / 2⌋ + 1 := by
      apply Int.floor_lt.mpr
      push_cast
      linarith
    omega

theorem credit_units (nonneg : 0 ≤ slack) (positive : 0 < amount) :
    ⌊amount + 1 / 2⌋ = |⌊((k : ℚ) + amount) + slack + 1 / 2⌋ - k| ↔
      amount + slack < (⌊amount + 1 / 2⌋ : ℚ) - 1 / 2 + 1 := by
  have moved : ⌊((k : ℚ) + amount) + slack + 1 / 2⌋ = k + ⌊amount + slack + 1 / 2⌋ :=
    floor_moved k (by ring)
  have up : 0 ≤ ⌊amount + slack + 1 / 2⌋ := Int.floor_nonneg.mpr (by linarith)
  rw [moved, add_sub_cancel_left, abs_of_nonneg up]
  constructor
  · intro same
    have step := Int.lt_floor_add_one (amount + slack + 1 / 2)
    rw [← same] at step
    linarith
  · intro clear
    apply le_antisymm
    · exact Int.floor_le_floor (by linarith)
    · apply Int.lt_add_one_iff.mp
      apply Int.floor_lt.mpr
      push_cast
      linarith

end Units

/-! ## One entry -/

section Entries
variable {db : Database} {event : Event} {row : CreditLedgerEntry} {userId : UUID}

theorem Call.settle_eq {c : Call} {current newBalance : Decimal}
    (settled : c.settle current = .ok newBalance) :
    newBalance = significant 28 (current + signedAmount c.direction c.args.amount) := by
  cases c with
  | mk direction args =>
      cases direction with
      | CREDIT => exact (Except.ok.inj settled).symm
      | DEBIT =>
          obtain ⟨difference, -⟩ := debitSettle_ok_iff.mp settled
          rw [← difference, decimalSub, sub_eq_add_neg]
          rfl

theorem signedAmount_abs (direction : TransactionDirection) (amount : Decimal) :
    |signedAmount direction amount| = |amount| := by
  cases direction with
  | CREDIT => rfl
  | DEBIT => exact abs_neg amount

/-- An amount that a column takes has at most eight digits before the point. -/
theorem numeric_lt {amount stored : Decimal} (positive : 0 < amount)
    (fits : numeric amount = some stored) : amount < 10 ^ 8 + 1 := by
  obtain ⟨-, size⟩ := numeric_bound fits
  have units := fixed_units positive.le fits
  have above := Int.lt_floor_add_one (amount * 10 ^ 4 + 1 / 2)
  rw [← units] at above
  have less := (abs_lt.mp size).2
  linarith

/-- What the columns take of an entry that is written, in their units. -/
theorem Writes.units (valid : db.Valid) (writes : Writes db event row) :
    let current := currentBalance (db.lastEntry event.call.args.userId)
    row.amount * 10 ^ 4 = ⌊event.call.args.amount * 10 ^ 4 + 1 / 2⌋ ∧
      row.balanceAfter * 10 ^ 4 = ⌊(current +
        signedAmount event.call.direction event.call.args.amount + event.call.slack current) *
          10 ^ 4 + 1 / 2⌋ ∧
      event.call.slack current * 10 ^ 4 ≤ 1 / 2 := by
  intro current
  obtain ⟨positive, ⟨newBalance, settled, stored⟩, -, -⟩ := writes
  obtain ⟨amount, balanceAfter, fits, kept, rfl⟩ := CreditLedgerEntry.stored_eq_some stored
  have nonneg := Call.settle_nonneg (valid.currentBalance_nonneg _) positive settled
  change numeric newBalance = some balanceAfter at kept
  rw [Call.settle_eq settled] at kept nonneg
  have small : |current + signedAmount event.call.direction event.call.args.amount| *
      10 ^ (4 + 2) < 10 ^ 28 := by
    have sum := abs_add_le current (signedAmount event.call.direction event.call.args.amount)
    rw [signedAmount_abs, abs_of_pos positive] at sum
    have before := (valid.currentBalance_representable event.call.args.userId).2
    have size := numeric_lt positive fits
    change |current| < _ at before
    have bound : |current + signedAmount event.call.direction event.call.args.amount| < 10 ^ 9 := by
      norm_num at before size ⊢
      linarith
    calc
      _ < (10 : ℚ) ^ 9 * 10 ^ (4 + 2) := mul_lt_mul_of_pos_right bound (by positivity)
      _ < 10 ^ 28 := by norm_num
  have tiny := ulp_small (by norm_num) small
  refine ⟨fixed_units positive.le fits, fixed_significant (by norm_num) small nonneg kept, ?_⟩
  rw [Call.slack]
  linarith

theorem Writes.direction (writes : Writes db event row) :
    row.direction = event.call.direction := by
  obtain ⟨newBalance, -, stored⟩ := writes.settled
  obtain ⟨amount, balanceAfter, -, -, rfl⟩ := CreditLedgerEntry.stored_eq_some stored
  rfl

theorem quantised_units {current : Decimal} {k : ℤ} (whole : current = k / 10 ^ 4) :
    Quantised current row ↔ row.amount * 10 ^ 4 = |row.balanceAfter * 10 ^ 4 - k| ∧
      (row.direction = .DEBIT → row.balanceAfter * 10 ^ 4 ≠ k) := by
  have unit : (0 : ℚ) < 10 ^ 4 := by norm_num
  have count : (k : ℚ) = current * 10 ^ 4 := by
    rw [whole, div_mul_cancel₀ _ unit.ne']
  have scaled : |row.balanceAfter * 10 ^ 4 - k| = |row.balanceAfter - current| * 10 ^ 4 := by
    rw [count, ← sub_mul, abs_mul, abs_of_pos unit]
  rw [scaled, count]
  constructor
  · rintro ⟨amount, moves⟩
    refine ⟨by rw [amount], fun debit same => ?_⟩
    exact moves debit (mul_right_cancel₀ unit.ne' same)
  · rintro ⟨amount, moves⟩
    refine ⟨mul_right_cancel₀ unit.ne' amount, fun debit same => ?_⟩
    exact moves debit (by rw [same])

theorem Writes.quantised_iff (valid : db.Valid) (writes : Writes db event row) :
    Quantised (currentBalance (db.lastEntry event.call.args.userId)) row ↔
      event.call.Clear (currentBalance (db.lastEntry event.call.args.userId)) := by
  obtain ⟨stored, moved, small⟩ := writes.units valid
  obtain ⟨⟨k, whole⟩, -⟩ := valid.currentBalance_representable event.call.args.userId
  have unit : (0 : ℚ) < 10 ^ 4 := by norm_num
  have positive : 0 < event.call.args.amount * 10 ^ 4 := mul_pos writes.positive unit
  have nonneg : 0 ≤ event.call.slack (currentBalance (db.lastEntry event.call.args.userId)) *
      10 ^ 4 := mul_nonneg (half_pos (ulp_pos 28 _)).le unit.le
  rw [quantised_units whole, writes.direction, stored, moved]
  unfold Call.Clear halfWay
  generalize event.call.slack _ = slack at *
  cases event.call.direction with
  | CREDIT =>
      have sum : (currentBalance (db.lastEntry event.call.args.userId) +
          signedAmount .CREDIT event.call.args.amount + slack) * 10 ^ 4 + 1 / 2 =
            ((k : ℚ) + event.call.args.amount * 10 ^ 4) + slack * 10 ^ 4 + 1 / 2 := by
        rw [whole, signedAmount]
        ring
      have units := credit_units (k := k) nonneg positive
      rw [sum]
      simp only [reduceCtorEq, false_implies, and_true]
      rw [← Int.cast_sub, ← Int.cast_abs, Int.cast_inj, units, ← add_div,
        lt_div_iff₀ unit, add_mul]
  | DEBIT =>
      have difference : (currentBalance (db.lastEntry event.call.args.userId) +
          signedAmount .DEBIT event.call.args.amount + slack) * 10 ^ 4 + 1 / 2 =
            ((k : ℚ) - event.call.args.amount * 10 ^ 4) + slack * 10 ^ 4 + 1 / 2 := by
        rw [whole, signedAmount]
        ring
      have units := debit_units (k := k) nonneg small positive
      rw [difference]
      simp only [forall_const]
      rw [← Int.cast_sub, ← Int.cast_abs, Int.cast_inj, Int.cast_inj.ne, units,
        div_le_iff₀ unit]
      apply and_congr_right
      intro _
      rw [div_add' _ _ _ unit.ne', div_lt_iff₀ unit]

/-- A debit does not raise the balance. -/
theorem Writes.debit_le (valid : db.Valid) (writes : Writes db event row)
    (debit : event.call.direction = .DEBIT) :
    row.balanceAfter ≤ currentBalance (db.lastEntry event.call.args.userId) := by
  obtain ⟨-, moved, small⟩ := writes.units valid
  obtain ⟨⟨k, whole⟩, -⟩ := valid.currentBalance_representable event.call.args.userId
  have unit : (0 : ℚ) < 10 ^ 4 := by norm_num
  have positive := mul_pos writes.positive unit
  have sum : (currentBalance (db.lastEntry event.call.args.userId) +
      signedAmount event.call.direction event.call.args.amount +
        event.call.slack (currentBalance (db.lastEntry event.call.args.userId))) * 10 ^ 4 + 1 / 2 =
      k - event.call.args.amount * 10 ^ 4 + event.call.slack
        (currentBalance (db.lastEntry event.call.args.userId)) * 10 ^ 4 + 1 / 2 := by
    generalize event.call.slack _ = slack
    rw [debit, whole, signedAmount]
    ring
  have below : row.balanceAfter * 10 ^ 4 ≤ k := by
    rw [moved, sum]
    apply Int.cast_le.mpr
    apply Int.lt_add_one_iff.mp
    apply Int.floor_lt.mpr
    push_cast
    linarith
  rw [whole]
  exact (le_div_iff₀ unit).mpr below

/-- A credit does not lower it. -/
theorem Writes.le_credit (valid : db.Valid) (writes : Writes db event row)
    (credit : event.call.direction = .CREDIT) :
    currentBalance (db.lastEntry event.call.args.userId) ≤ row.balanceAfter := by
  obtain ⟨-, moved, -⟩ := writes.units valid
  obtain ⟨⟨k, whole⟩, -⟩ := valid.currentBalance_representable event.call.args.userId
  have unit : (0 : ℚ) < 10 ^ 4 := by norm_num
  have positive := mul_pos writes.positive unit
  have nonneg : 0 ≤ event.call.slack (currentBalance (db.lastEntry event.call.args.userId)) *
      10 ^ 4 := mul_nonneg (half_pos (ulp_pos 28 _)).le unit.le
  have above : (k : ℚ) ≤ row.balanceAfter * 10 ^ 4 := by
    rw [moved]
    apply Int.cast_le.mpr
    apply Int.le_floor.mpr
    rw [credit, whole, signedAmount, add_mul, add_mul, div_mul_cancel₀ _ unit.ne']
    rw [whole] at nonneg
    linarith
  rw [whole]
  exact (div_le_iff₀ unit).mpr above

/-- A column value moves the balance by itself. -/
theorem Writes.exact (valid : db.Valid) (writes : Writes db event row)
    (amount : Representable event.call.args.amount) :
    row.balanceAfter = currentBalance (db.lastEntry event.call.args.userId) +
      signedAmount event.call.direction event.call.args.amount := by
  obtain ⟨newBalance, settled, stored⟩ := writes.settled
  obtain ⟨moved, multiple⟩ :=
    Call.settle_exact (valid.currentBalance_representable _) amount settled
  obtain ⟨_, balanceAfter, -, kept, rfl⟩ := CreditLedgerEntry.stored_eq_some stored
  rw [← moved]
  exact fixed_eq_self multiple kept

end Entries

/-! ## Debits in a row -/

/-- A debit of the user that writes an entry, stamped later than those before. -/
def Debits (userId : UUID) (db : Database) (event : Event) : Prop :=
  event.call.direction = .DEBIT ∧ event.call.args.userId = userId ∧ transact db event ≠ db ∧
    ∀ e ∈ db.entries, e.userId = event.call.args.userId → e.createdAt < event.defaults.createdAt

instance (userId : UUID) (db : Database) (event : Event) : Decidable (Debits userId db event) :=
  inferInstanceAs (Decidable (_ ∧ _))

def ClearDebits (userId : UUID) (db : Database) (event : Event) : Prop :=
  Debits userId db event ∧ event.call.Clear (currentBalance (db.lastEntry userId))

instance (userId : UUID) (db : Database) (event : Event) :
    Decidable (ClearDebits userId db event) :=
  inferInstanceAs (Decidable (_ ∧ _))

section Sequences
variable {db db' : Database} {event : Event} {userId : UUID} {events : List Event}

theorem Debits.writes (debits : Debits userId db event) :
    ∃ row, Writes db event row ∧ transact db event = db.append row ∧
      (transact db event).lastEntry userId = some row := by
  obtain ⟨-, rfl, changes, newer⟩ := debits
  rcases transact_cases db event with same | ⟨row, writes, same⟩
  · exact absurd same changes
  · obtain ⟨sameUser, sameTime, -⟩ := writes.row_eq
    refine ⟨row, writes, same, ?_⟩
    rw [same, ← sameUser]
    apply ledgerView.latest_concat_self
    intro e member owner
    change e.createdAt < row.createdAt
    rw [sameTime]
    exact newer e member (owner.trans sameUser)

theorem ClearDebits.falls (valid : db.Valid) (clear : ClearDebits userId db event) :
    currentBalance ((transact db event).lastEntry userId) <
      currentBalance (db.lastEntry userId) := by
  obtain ⟨row, writes, -, latest⟩ := clear.1.writes
  obtain ⟨⟨debit, rfl, -, -⟩, clear⟩ := clear
  have quantised := (writes.quantised_iff valid).mpr clear
  have moves := quantised.moves (writes.direction.trans debit)
  rw [latest]
  exact lt_of_le_of_ne (writes.debit_le valid debit) moves

theorem falls_of_run (valid : db.Valid)
    (run : Run (fun db event => some (transact db event)) (ClearDebits userId) db events db') :
    currentBalance (db'.lastEntry userId) ≤ currentBalance (db.lastEntry userId) ∧
      (events ≠ [] →
        currentBalance (db'.lastEntry userId) < currentBalance (db.lastEntry userId)) := by
  induction run with
  | nil => exact ⟨le_rfl, fun some => absurd rfl some⟩
  | cons allowed accepted rest ih =>
      obtain rfl := Option.some.inj accepted
      have falls := allowed.falls valid
      obtain ⟨later, -⟩ := ih (valid.transact _)
      exact ⟨(later.trans_lt falls).le, fun _ => later.trans_lt falls⟩

/-- Amount and balance agree for the calls whose amount is clear, and for no others; and debits
that are clear lower the balance. -/
theorem quantised_iff_clear (valid : db.Valid) :
    (∀ event row, Writes db event row →
      (Quantised (currentBalance (db.lastEntry event.call.args.userId)) row ↔
        event.call.Clear (currentBalance (db.lastEntry event.call.args.userId)))) ∧
    ∀ userId events db',
      Run (fun db event => some (transact db event)) (ClearDebits userId) db events db' →
        events ≠ [] →
          currentBalance (db'.lastEntry userId) < currentBalance (db.lastEntry userId) := by
  constructor
  · intro event row writes
    exact writes.quantised_iff valid
  · intro userId events db' run
    exact (falls_of_run valid run).2

end Sequences

def hundredCredits : Database where
  users := [1]
  entries := [⟨11, 1, 100, .CREDIT, .STRIPE, "in_1", 100, none, 1⟩]

theorem valid_hundredCredits : hundredCredits.Valid where
  stored := by decide +kernel
  checks := by decide +kernel
  ids := List.nodup_singleton _
  keys := List.nodup_singleton _

def fewDecimals : Event := ⟨⟨.DEBIT, ⟨1, 4000004 / 100000, .USAGE, "job_1", none⟩⟩, ⟨12, 2⟩⟩

theorem quantised_fewDecimals : ∃ row, Writes hundredCredits fewDecimals row ∧
    Quantised (currentBalance (hundredCredits.lastEntry 1)) row ∧
    currentBalance ((transact hundredCredits fewDecimals).lastEntry 1) <
      currentBalance (hundredCredits.lastEntry 1) := by
  have clear : ClearDebits 1 hundredCredits fewDecimals := by decide +kernel
  obtain ⟨row, writes, -, -⟩ := clear.1.writes
  obtain ⟨agree, falls⟩ := quantised_iff_clear valid_hundredCredits
  exact ⟨row, writes, (agree fewDecimals row writes).mpr clear.2,
    falls 1 [fewDecimals] _ (.cons clear rfl (.nil _)) (List.cons_ne_nil _ _)⟩

/-- Half of the last decimal: the amount is rounded up, and so is the balance. -/
def halfUnit : Event := ⟨⟨.DEBIT, ⟨1, 5 / 100000, .USAGE, "job_1", none⟩⟩, ⟨12, 2⟩⟩

theorem not_quantised_halfUnit : ¬ ∀ db : Database, db.Valid →
    (∀ event row, Writes db event row →
      row.amount = |row.balanceAfter - currentBalance (db.lastEntry event.call.args.userId)|) ∧
    ∀ userId events db',
      Run (fun db event => some (transact db event)) (Debits userId) db events db' →
        events ≠ [] →
          currentBalance (db'.lastEntry userId) ≠ currentBalance (db.lastEntry userId) := by
  intro claim
  have debits : Debits 1 hundredCredits halfUnit := by decide +kernel
  obtain ⟨row, -, same, latest⟩ := debits.writes
  obtain ⟨-, lowers⟩ := claim hundredCredits valid_hundredCredits
  have changes := lowers 1 [halfUnit] _ (.cons debits rfl (.nil _)) (List.cons_ne_nil _ _)
  apply changes
  rw [latest]
  have rounded : transact hundredCredits halfUnit =
      hundredCredits.append ⟨12, 1, 1 / 10000, .DEBIT, .USAGE, "job_1", 100, none, 2⟩ := by
    decide +kernel
  have row_eq := List.append_cancel_left (congrArg Database.entries (same.symm.trans rounded))
  rw [List.singleton_inj.mp row_eq]
  decide +kernel

end RenderTrust.Ledger
