import RenderTrust.Ledger.Outcomes

/-!
# `core/api/v1/credits.py`

The handler of `POST /credits/deduct`. The amount is a text; what `Decimal` makes of a
text is a parameter.
-/
namespace RenderTrust.Ledger

/-- What `Decimal` reads from a text. A `huge` number is finite, and the arithmetic of the
default context overflows on it. -/
inductive DecimalValue where
  | finite (x : Decimal)
  | huge (negative : Bool)
  | infinity (negative : Bool)
  | nan
  deriving DecidableEq, Repr

structure DeductRequest where
  amount : String
  referenceId : String
  description : Option String
  deriving DecidableEq, Repr

/-- What a caller gets: an entry, a response with another status, or an exception that
nothing handles. -/
inductive Reply where
  | entry (entry : CreditLedgerEntry)
  | unprocessable (detail : String)
  | paymentRequired (available : Decimal) (requested : DecimalValue)
  | raised (error : LedgerError)
  | invalidOperation
  | overflow
  deriving DecidableEq, Repr

def replyTo : Except LedgerError CreditLedgerEntry → Reply
  | .ok row => .entry row
  | .error e => .raised e

def DeductRequest.call (payload : DeductRequest) (userId : UUID) (amount : Decimal) : Call :=
  ⟨.DEBIT, ⟨userId, amount, .USAGE, payload.referenceId, payload.description⟩⟩

/-- `deduct_credits` for a positive amount above every balance: the entry that has the
reference, or `refusal` of the current balance. -/
def unpayable (db : Database) (userId : UUID) (referenceId : String) (refusal : Decimal → Reply) :
    Reply :=
  match (db.byReference referenceId .DEBIT).bind scalarOneOrNone with
  | .error e => .raised e
  | .ok (some row) => .entry row
  | .ok none => refusal (currentBalance (db.lastEntry userId))

def creditDeduct (decimal : String → Option DecimalValue) (db : Database) (userId : UUID)
    (payload : DeductRequest) (defaults : Defaults) : Reply × Database :=
  match decimal payload.amount with
  | none => (.unprocessable ("Invalid amount: " ++ payload.amount), db)
  | some .nan => (.invalidOperation, db)
  | some (.infinity true) => (.unprocessable "Amount must be a positive number", db)
  | some (.huge true) => (.unprocessable "Amount must be a positive number", db)
  | some (.infinity false) =>
      (unpayable db userId payload.referenceId fun available =>
        .paymentRequired available (.infinity false), db)
  | some (.huge false) => (unpayable db userId payload.referenceId fun _ => .overflow, db)
  | some (.finite amount) =>
      if amount ≤ 0 then (.unprocessable "Amount must be a positive number", db)
      else
        let event : Event := ⟨payload.call userId amount, defaults⟩
        match outcome db event with
        | .ok entry => (.entry entry, transact db event)
        | .error (.insufficientCredits _ requested available) =>
            (.paymentRequired available (.finite requested), db)
        | .error e => (.raised e, db)

end RenderTrust.Ledger
