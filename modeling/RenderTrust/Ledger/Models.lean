import Mathlib.Data.Rat.Floor
import RenderTrust.Lib.Journal
import RenderTrust.Lib.Rounding

/-!
# The credit ledger table

`core/models/base.py` and the constraints its table has in PostgreSQL. A
finite `Decimal` is a rational number; arithmetic rounds as the default context
does, and a column of type `Numeric(12, 4)` rounds again when a row is stored.
-/
namespace RenderTrust.Ledger
open Lib.Rounding Lib.Journal

abbrev UUID := ℕ
abbrev Decimal := ℚ

/-- The default context: 28 significant digits, `ROUND_HALF_EVEN`. -/
def decimalAdd (x y : Decimal) : Decimal := significant 28 (x + y)
def decimalSub (x y : Decimal) : Decimal := significant 28 (x - y)

def numeric (x : Decimal) : Option Decimal := fixed 12 4 x

inductive TransactionDirection where
  | CREDIT
  | DEBIT
  deriving DecidableEq, Repr

inductive TransactionSource where
  | STRIPE
  | USAGE
  | ADJUSTMENT
  | REFUND
  deriving DecidableEq, Repr

structure CreditLedgerEntry where
  id : UUID
  userId : UUID
  amount : Decimal
  direction : TransactionDirection
  source : TransactionSource
  referenceId : String
  balanceAfter : Decimal
  description : Option String
  createdAt : ℕ
  deriving DecidableEq, Repr

def signedAmount (direction : TransactionDirection) (amount : Decimal) : Decimal :=
  match direction with
  | .CREDIT => amount
  | .DEBIT => -amount

namespace CreditLedgerEntry

def signed (e : CreditLedgerEntry) : Decimal := signedAmount e.direction e.amount

def key (e : CreditLedgerEntry) : String × TransactionDirection := (e.referenceId, e.direction)

end CreditLedgerEntry

def ledgerView : View CreditLedgerEntry UUID Decimal ℕ where
  account := CreditLedgerEntry.userId
  delta := CreditLedgerEntry.signed
  balance := CreditLedgerEntry.balanceAfter
  stamp := CreditLedgerEntry.createdAt

abbrev signedSum (userId : UUID) (entries : List CreditLedgerEntry) : Decimal :=
  ledgerView.total userId entries

/-- PostgreSQL text holds every character but NUL. -/
def bindable (s : String) : Bool := !s.toList.contains (Char.ofNat 0)

theorem bindable_append {s t : String} (hs : bindable s) (ht : bindable t) : bindable (s ++ t) := by
  unfold bindable at hs ht ⊢
  rw [String.toList_append, List.contains_append, Bool.not_or, hs, ht]
  rfl

/-- The row the columns take for an entry: amounts rounded to `Numeric(12, 4)`, the
reference within `String(255)`. `none` is a `DataError`. -/
def CreditLedgerEntry.stored (e : CreditLedgerEntry) : Option CreditLedgerEntry :=
  match numeric e.amount, numeric e.balanceAfter with
  | some amount, some balanceAfter =>
      if e.referenceId.length ≤ 255 ∧ bindable e.referenceId ∧ e.description.all bindable then
        some { e with amount, balanceAfter }
      else none
  | _, _ => none

structure Database where
  users : List UUID
  entries : List CreditLedgerEntry
  deriving DecidableEq, Repr

inductive DbError where
  | integrityError
  | dataError
  deriving DecidableEq, Repr

def Database.Checks (db : Database) (row : CreditLedgerEntry) : Prop :=
  0 ≤ row.balanceAfter ∧ row.userId ∈ db.users

/-- The unique indexes: primary key and `uq_ledger_reference_direction`. -/
def Database.Unique (db : Database) (row : CreditLedgerEntry) : Prop :=
  row.id ∉ db.entries.map CreditLedgerEntry.id ∧ row.key ∉ db.entries.map CreditLedgerEntry.key

instance (db : Database) (row : CreditLedgerEntry) : Decidable (db.Checks row) :=
  inferInstanceAs (Decidable (_ ∧ _))

instance (db : Database) (row : CreditLedgerEntry) : Decidable (db.Unique row) :=
  inferInstanceAs (Decidable (_ ∧ _))

def Database.append (db : Database) (row : CreditLedgerEntry) : Database :=
  { db with entries := db.entries ++ [row] }

def Database.insert (db : Database) (e : CreditLedgerEntry) : Except DbError Database :=
  match e.stored with
  | none => .error .dataError
  | some row =>
      if db.Checks row ∧ db.Unique row then .ok (db.append row) else .error .integrityError

@[simp] theorem Database.append_entries (db : Database) (row : CreditLedgerEntry) :
    (db.append row).entries = db.entries ++ [row] := rfl

theorem CreditLedgerEntry.stored_eq_some {e row : CreditLedgerEntry} (h : e.stored = some row) :
    ∃ amount balanceAfter, numeric e.amount = some amount ∧
      numeric e.balanceAfter = some balanceAfter ∧ row = { e with amount, balanceAfter } := by
  unfold stored at h
  split at h
  · rename_i amount balanceAfter hamount hbalance
    split at h
    · exact ⟨amount, balanceAfter, hamount, hbalance, (Option.some.inj h).symm⟩
    · cases h
  · cases h

theorem Database.insert_eq_ok {db db' : Database} {e : CreditLedgerEntry}
    (h : db.insert e = .ok db') :
    ∃ row, e.stored = some row ∧ db.Checks row ∧ db.Unique row ∧ db' = db.append row := by
  unfold insert at h
  split at h
  · cases h
  · rename_i row hrow
    split at h
    · rename_i admitted
      exact ⟨row, hrow, admitted.1, admitted.2, (Except.ok.inj h).symm⟩
    · cases h

/-! Amounts that are multiples of 0.0001 pass the arithmetic and the column unchanged. -/

theorem decimalAdd_exact {x y : Decimal} (h : Multiple 4 (x + y)) (small : |x + y| < 10 ^ 24) :
    decimalAdd x y = x + y :=
  significant_multiple h (by linarith)

theorem decimalSub_exact {x y : Decimal} (h : Multiple 4 (x - y)) (small : |x - y| < 10 ^ 24) :
    decimalSub x y = x - y :=
  significant_multiple h (by linarith)

theorem numeric_bound {x y : Decimal} (h : numeric x = some y) : Multiple 4 y ∧ |y| < 10 ^ 8 := by
  obtain ⟨multiple, small⟩ := Multiple.of_fixed h
  exact ⟨multiple, by linarith⟩

end RenderTrust.Ledger
