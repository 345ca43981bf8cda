import Mathlib.Logic.Function.Basic
import RenderTrust.Ledger.Outcomes
import RenderTrust.Lib.Simulation

/-!
# The ledger as a bank

What the ledger is for: an account has a balance that never falls below zero, and a request
that is made twice is served once. A bank keeps the balances and, for every reference and
direction, the receipt of the request that has used it; it has no rows, no identifiers and no clock.
-/
namespace RenderTrust.Ledger
open Lib.Rounding Lib.Journal Lib.Keyed Lib.Runs Lib.NonInterference Lib.Simulation

structure Receipt where
  userId : UUID
  amount : Decimal
  source : TransactionSource
  description : Option String
  balanceAfter : Decimal
  deriving DecidableEq, Repr

structure Bank where
  accounts : List UUID
  balance : UUID → Decimal
  receipts : String × TransactionDirection → Option Receipt

namespace Bank

def opened (accounts : List UUID) : Bank := ⟨accounts, fun _ => 0, fun _ => none⟩

/-- The balance a request asks for. -/
def asked (bank : Bank) (c : Call) : Decimal :=
  bank.balance c.args.userId + signedAmount c.direction c.args.amount

/-- The limits of the bank: eight digits before the point, and texts that can be kept. -/
def Keeps (bank : Bank) (c : Call) : Prop :=
  bank.asked c < 10 ^ 8 ∧ c.args.referenceId.length ≤ 255 ∧ c.args.description.all bindable

instance (bank : Bank) (c : Call) : Decidable (bank.Keeps c) :=
  inferInstanceAs (Decidable (_ ∧ _))

def receipt (bank : Bank) (c : Call) : Receipt :=
  ⟨c.args.userId, c.args.amount, c.args.source, c.args.description, bank.asked c⟩

def enter (bank : Bank) (c : Call) : Bank where
  accounts := bank.accounts
  balance := Function.update bank.balance c.args.userId (bank.asked c)
  receipts := Function.update bank.receipts c.key (some (bank.receipt c))

def post (bank : Bank) (c : Call) : Except LedgerError Receipt × Bank :=
  if c.args.amount ≤ 0 then (.error (.valueError c.notPositive), bank)
  else if bindable c.args.referenceId = false then (.error .dataError, bank)
  else match bank.receipts c.key with
    | some receipt => (.ok receipt, bank)
    | none =>
        if bank.asked c < 0 then
          (.error (.insufficientCredits c.args.userId c.args.amount
            (bank.balance c.args.userId)), bank)
        else if ¬ bank.Keeps c then (.error .dataError, bank)
        else if c.args.userId ∉ bank.accounts then (.error .noResultFound, bank)
        else (.ok (bank.receipt c), bank.enter c)

def system : System Bank Call (Except LedgerError Receipt) where
  step bank c := (bank.post c).2
  reply bank c := (bank.post c).1

end Bank

/-! ## What a bank sees of the ledger -/

def CreditLedgerEntry.receipt (e : CreditLedgerEntry) : Receipt :=
  ⟨e.userId, e.amount, e.source, e.description, e.balanceAfter⟩

def Database.bank (db : Database) : Bank where
  accounts := db.users
  balance userId := currentBalance (db.lastEntry userId)
  receipts key := (db.entries.find? (fun e => e.key = key)).map CreditLedgerEntry.receipt

def system : System Database Event (Except LedgerError CreditLedgerEntry) where
  step := transact
  reply := outcome

/-- The amount is a column value, the stamp is newer than the user's entries, and the
identifier is new. -/
def Plain (db : Database) (event : Event) : Prop :=
  Admissible db event ∧ ∀ e ∈ db.entries, e.id ≠ event.defaults.id

instance (db : Database) (event : Event) : Decidable (Plain db event) :=
  inferInstanceAs (Decidable (_ ∧ _))

structure Kept (db : Database) (bank : Bank) : Prop where
  sound : Sound db.entries
  valid : db.Valid
  seen : db.bank = bank

section Posts
variable {db : Database} {event : Event}

/-- Column values are added exactly: a request is refused when it overdraws. -/
theorem Call.settle_overdraws {c : Call} {current : Decimal} (hcurrent : Representable current)
    (nonneg : 0 ≤ current) (hamount : Representable c.args.amount) (positive : 0 < c.args.amount) :
    c.settle current = if current + signedAmount c.direction c.args.amount < 0 then
      .error (.insufficientCredits c.args.userId c.args.amount current)
    else .ok (current + signedAmount c.direction c.args.amount) := by
  cases settled : c.settle current with
  | ok newBalance =>
      obtain ⟨moved, -⟩ := c.settle_exact hcurrent hamount settled
      have above := Call.settle_nonneg nonneg positive settled
      rw [moved] at above
      rw [if_neg (not_lt.mpr above), moved]
  | error e =>
      have overdraws : current + signedAmount c.direction c.args.amount < 0 := by
        rcases c with ⟨direction, args⟩
        cases direction with
        | CREDIT => cases settled
        | DEBIT =>
            obtain ⟨short, -⟩ := debitSettle_error_iff.mp settled
            have size := abs_lt.mp hcurrent.2
            have size' := abs_lt.mp hamount.2
            rw [decimalSub_exact (hcurrent.1.sub hamount.1)
              (by rw [abs_lt]; constructor <;> linarith [size.1, size.2, size'.1, size'.2]),
              sub_eq_add_neg] at short
            exact short
      rw [if_pos overdraws, Call.settle_error settled]

theorem signedAmount_multiple {direction : TransactionDirection} {amount : Decimal}
    (h : Multiple 4 amount) : Multiple 4 (signedAmount direction amount) := by
  cases direction with
  | CREDIT => exact h
  | DEBIT =>
      have negated := (Multiple.zero 4).sub h
      rwa [zero_sub] at negated

/-- A balance that is not negative is stored when it has at most eight digits. -/
theorem numeric_eq {x : Decimal} (multiple : Multiple 4 x) (nonneg : 0 ≤ x) :
    numeric x = if x < 10 ^ 8 then some x else none := by
  by_cases small : x < 10 ^ 8
  · rw [if_pos small]
    exact Representable.numeric ⟨multiple, by rwa [abs_of_nonneg nonneg]⟩
  · rw [if_neg small]
    cases fits : numeric x with
    | none => rfl
    | some y =>
        have same : y = x := fixed_eq_self multiple fits
        have bound := (numeric_bound fits).2
        rw [same, abs_of_nonneg nonneg] at bound
        exact absurd bound small

/-- The row of a request with a key of its own, as a request to the bank. -/
theorem Event.insert_eq (plain : Plain db event)
    (multiple : Multiple 4 (db.bank.asked event.call)) (nonneg : 0 ≤ db.bank.asked event.call)
    (readable : bindable event.call.args.referenceId)
    (free : event.call.key ∉ db.entries.map CreditLedgerEntry.key) :
    db.insert (newEntry event.call.direction event.call.args event.defaults
        (db.bank.asked event.call)) =
      if db.bank.Keeps event.call then
        if event.call.args.userId ∈ db.bank.accounts then
          .ok (db.append (newEntry event.call.direction event.call.args event.defaults
            (db.bank.asked event.call)))
        else .error .integrityError
      else .error .dataError := by
  obtain ⟨⟨amount, -⟩, identified⟩ := plain
  unfold Database.insert CreditLedgerEntry.stored
  simp only [newEntry, amount.numeric, numeric_eq multiple nonneg, readable, true_and]
  by_cases keeps : db.bank.Keeps event.call
  · obtain ⟨small, texts⟩ := id keeps
    have unused : event.defaults.id ∉ db.entries.map CreditLedgerEntry.id := by
      intro there
      obtain ⟨e, member, same⟩ := List.mem_map.mp there
      exact identified e member same
    have free' : (event.call.args.referenceId, event.call.direction) ∉
        db.entries.map CreditLedgerEntry.key := free
    simp only [keeps, small, if_true, if_pos texts, Database.Checks, Database.Unique,
      CreditLedgerEntry.key, nonneg, unused, free', true_and, and_true, not_false_eq_true]
    rfl
  · rw [if_neg keeps]
    by_cases small : db.bank.asked event.call < 10 ^ 8
    · have texts : ¬ (event.call.args.referenceId.length ≤ 255 ∧
          event.call.args.description.all bindable) := fun texts => keeps ⟨small, texts⟩
      simp only [small, if_true, if_neg texts]
    · simp only [small, if_false]

theorem Database.bank_append {row : CreditLedgerEntry}
    (newer : ledgerView.Newer db.entries row)
    (fresh : row.key ∉ db.entries.map CreditLedgerEntry.key) :
    (db.append row).bank = ⟨db.users,
      Function.update db.bank.balance row.userId row.balanceAfter,
      Function.update db.bank.receipts row.key (some row.receipt)⟩ := by
  unfold Database.bank
  congr 1
  · funext userId
    by_cases mine : row.userId = userId
    · subst mine
      rw [Function.update_self]
      exact congrArg currentBalance (ledgerView.latest_concat_self newer)
    · rw [Function.update_of_ne (Ne.symm mine)]
      exact congrArg currentBalance (ledgerView.latest_concat_other mine db.entries)
  · funext key
    rw [append_entries, List.find?_append]
    by_cases same : row.key = key
    · subst same
      rw [Function.update_self, find?_key_eq_none.mpr fresh, List.find?_singleton]
      simp only [decide_true, if_true, Option.none_or, Option.map_some]
    · rw [Function.update_of_ne (Ne.symm same), List.find?_singleton]
      simp only [decide_eq_false same, Bool.false_eq_true, if_false, Option.or_none]

theorem Database.byReference_scalarOne {c : Call}
    (h : (db.byReference c.args.referenceId c.direction).bind scalarOneOrNone = .ok none) :
    (db.byReference c.args.referenceId c.direction).bind scalarOne = .error .noResultFound := by
  cases rows : db.byReference c.args.referenceId c.direction with
  | error e =>
      rw [rows] at h
      cases h
  | ok rows' =>
      rw [rows] at h
      rw [eq_nil_of_scalarOneOrNone h]
      rfl

/-- The receipt of a key is that of the row that has it. -/
theorem Database.existing_eq (valid : db.Valid) {c : Call}
    (readable : bindable c.args.referenceId) :
    (db.byReference c.args.referenceId c.direction).bind scalarOneOrNone =
      .ok (db.entries.find? (fun e => e.key = c.key)) := by
  cases found : db.entries.find? (fun e => e.key = c.key) with
  | none =>
      have free := find?_key_eq_none.mp found
      exact Call.existing_of_free readable fun e member same =>
        free (same ▸ List.mem_map_of_mem member)
  | some row =>
      obtain ⟨member, same⟩ := mem_of_find?_key found
      obtain ⟨reference, direction⟩ := Prod.mk.inj same
      rw [← reference, ← direction, valid.byReference_eq member]
      rfl

theorem Database.bank_receipts (db : Database) (key : String × TransactionDirection) :
    db.bank.receipts key =
      (db.entries.find? (fun e => e.key = key)).map CreditLedgerEntry.receipt := rfl

/-- A request with a key of its own is refused, or entered into the account. -/
theorem Database.answer_free (valid : db.Valid) (plain : Plain db event)
    (positive : 0 < event.call.args.amount) (readable : bindable event.call.args.referenceId)
    (found : db.entries.find? (fun e => e.key = event.call.key) = none) :
    ((answer db event).1.map CreditLedgerEntry.receipt, (answer db event).2.bank) =
      db.bank.post event.call := by
  have free : db.bank.receipts event.call.key = none := by
    rw [db.bank_receipts, found, Option.map_none]
  have existing := Database.existing_eq valid readable
  rw [found] at existing
  have current := valid.currentBalance_representable event.call.args.userId
  have multiple : Multiple 4 (db.bank.asked event.call) :=
    current.1.add (signedAmount_multiple plain.1.1.1)
  have settled : event.call.settle (currentBalance (db.lastEntry event.call.args.userId)) =
      if db.bank.asked event.call < 0 then _ else .ok (db.bank.asked event.call) :=
    Call.settle_overdraws current (valid.currentBalance_nonneg _) plain.1.1 positive
  unfold answer Bank.post
  simp only [if_neg (not_le.mpr positive), existing, settled, readable, free, Bool.true_eq_false,
    if_false]
  by_cases overdraws : db.bank.asked event.call < 0
  · simp only [if_pos overdraws, Except.map]
    rfl
  · simp only [if_neg overdraws]
    have unused := find?_key_eq_none.mp found
    rw [event.insert_eq plain multiple (not_lt.mp overdraws) readable unused]
    by_cases keeps : db.bank.Keeps event.call
    · by_cases account : event.call.args.userId ∈ db.bank.accounts
      · simp only [keeps, account, if_true, not_true, if_false, Except.map]
        exact congrArg _ (Database.bank_append plain.1.2 unused)
      · simp only [keeps, account, if_true, not_true, if_false, not_false_eq_true]
        rw [Database.byReference_scalarOne existing]
        rfl
    · simp only [keeps, if_false, not_false_eq_true, if_true, Except.map]

/-- One call of the ledger is one request to the bank. -/
theorem Database.answer_post (valid : db.Valid) (plain : Plain db event) :
    ((answer db event).1.map CreditLedgerEntry.receipt, (answer db event).2.bank) =
      db.bank.post event.call := by
  by_cases positive : 0 < event.call.args.amount
  · cases readable : bindable event.call.args.referenceId with
    | true =>
        cases found : db.entries.find? (fun e => e.key = event.call.key) with
        | none => exact Database.answer_free valid plain positive readable found
        | some row =>
            have existing := Database.existing_eq valid readable
            have taken : db.bank.receipts event.call.key = some row.receipt := by
              rw [db.bank_receipts, found, Option.map_some]
            unfold answer Bank.post
            simp only [if_neg (not_le.mpr positive), existing, found, readable, taken,
              Bool.true_eq_false, if_false, Except.map]
    | false =>
        have unreadable : db.byReference event.call.args.referenceId event.call.direction =
            .error .dataError := by
          unfold Database.byReference
          rw [readable]
          rfl
        unfold answer Bank.post
        simp only [if_neg (not_le.mpr positive), unreadable, readable, Except.bind, Except.map,
          if_true]
  · unfold answer Bank.post
    simp only [if_pos (not_lt.mp positive), Except.map]

end Posts

theorem simulation :
    Simulates system Bank.system Kept Plain Event.call (Except.map CreditLedgerEntry.receipt)
    where
  step := by
    rintro db _ event ⟨sound, valid, rfl⟩ plain
    have posted := Database.answer_post valid plain
    rw [answer_eq] at posted
    exact ⟨transact_sound sound plain.1, valid.transact event, congrArg Prod.snd posted⟩
  reply := by
    rintro db _ event ⟨-, valid, rfl⟩ plain
    have posted := Database.answer_post valid plain
    rw [answer_eq] at posted
    exact congrArg Prod.fst posted

/-- The ledger `db` has served `events` as a bank with these accounts serves their requests. -/
structure ServedAsBank (users : List UUID) (events : List Event) (db : Database)
    (bank : Bank) : Prop where
  answers : (answers system ⟨users, []⟩ events).map (Except.map CreditLedgerEntry.receipt) =
    answers Bank.system (Bank.opened users) (events.map Event.call)
  balance : ∀ userId, (getBalance userId).run (Session.begin db) =
    .ok (bank.balance userId) (Session.begin db)
  receipts : ∀ key, (db.entries.find? (fun e => e.key = key)).map CreditLedgerEntry.receipt =
    bank.receipts key
  nonneg : ∀ userId, 0 ≤ bank.balance userId

theorem servedAsBank_of_run {users : List UUID} {events : List Event} {db : Database}
    (run : Run system.next Plain ⟨users, []⟩ events db) :
    ServedAsBank users events db
      (Bank.system.final (Bank.opened users) (events.map Event.call)) := by
  have empty : (⟨users, []⟩ : Database).bank = Bank.opened users := by
    unfold Database.bank Bank.opened Database.lastEntry
    simp only [View.latest_nil, List.find?_nil, Option.map_none]
    rfl
  obtain ⟨⟨sound, valid, seen⟩, answered⟩ :=
    simulation.run run ⟨Sound.nil, Database.Valid.nil users, empty⟩
  rw [← seen]
  exact ⟨answered, fun _ => rfl, fun _ => rfl, valid.currentBalance_nonneg⟩

/-- A request that overdraws, one too large, one for nobody's account and a repeated one. -/
def bankEvents : List Event :=
  [⟨⟨.CREDIT, ⟨1, 250, .STRIPE, "cs_1", none⟩⟩, ⟨31, 1⟩⟩,
   ⟨⟨.DEBIT, ⟨1, 251, .USAGE, "job_2", none⟩⟩, ⟨32, 2⟩⟩,
   ⟨⟨.CREDIT, ⟨1, 99999999, .STRIPE, "cs_2", none⟩⟩, ⟨33, 3⟩⟩,
   ⟨⟨.CREDIT, ⟨3, 5, .ADJUSTMENT, "adj_1", none⟩⟩, ⟨34, 4⟩⟩,
   ⟨⟨.DEBIT, ⟨1, 40, .USAGE, "job_1", none⟩⟩, ⟨35, 5⟩⟩,
   ⟨⟨.DEBIT, ⟨1, 99, .USAGE, "job_1", none⟩⟩, ⟨36, 6⟩⟩]

theorem servedAsBank_bankEvents : ∃ db, ServedAsBank [1, 2] bankEvents db
    (Bank.system.final (Bank.opened [1, 2]) (bankEvents.map Event.call)) := by
  have accepted : (exec system.next Plain ⟨[1, 2], []⟩ bankEvents).isSome := by decide +kernel
  obtain ⟨db, run⟩ := run_of_isSome accepted
  exact ⟨db, servedAsBank_of_run run⟩

end RenderTrust.Ledger
