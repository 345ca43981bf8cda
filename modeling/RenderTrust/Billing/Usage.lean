import RenderTrust.Ledger.Service
import RenderTrust.Scheduler.Models

/-!
# `core/billing/usage.py`

Prices of job types and the charge for a completed job. `JobPricing` is the table of
`core/billing/models.py`.
-/
namespace RenderTrust.Billing
open Ledger Scheduler

structure JobPricing where
  jobType : String
  creditsPerUnit : Decimal
  isActive : Bool
  deriving DecidableEq, Repr

def DEFAULT_PRICING : List (String × Decimal) :=
  [("render", 10), ("inference", 5), ("echo", 0), ("cpu_benchmark", 1)]

def FALLBACK_PRICE : Decimal := 1

def activePricing (pricing : List JobPricing) (jobType : String) : List JobPricing :=
  pricing.filter fun row => row.jobType = jobType ∧ row.isActive

def getJobPrice (pricing : List JobPricing) (jobType : String) : Except LedgerError Decimal :=
  if bindable jobType then
    match activePricing pricing jobType with
    | [row] => .ok row.creditsPerUnit
    | [] => .ok ((DEFAULT_PRICING.lookup jobType).getD FALLBACK_PRICE)
    | _ :: _ :: _ => .error .multipleResultsFound
  else .error .dataError

/-- The deduction that charges `userId` for `job`. -/
def usageCharge {τ : Type} (job : JobDispatch τ) (userId : UUID) (cost : Decimal) : Args where
  userId := userId
  amount := cost
  source := .USAGE
  referenceId := "job-" ++ job.id.str
  description := some ("Usage charge for " ++ job.jobType ++ " job " ++ job.id.str)

def deductOnCompletion {τ : Type} (pricing : List JobPricing) (job : JobDispatch τ) (userId : UUID)
    (defaults : Defaults) : LedgerM CreditLedgerEntry := do
  let cost ← getJobPrice pricing job.jobType
  deductCredits (usageCharge job userId cost) defaults

def checkSufficientCredits (pricing : List JobPricing) (userId : UUID) (jobType : String) :
    LedgerM Bool := do
  let price ← getJobPrice pricing jobType
  if price ≤ 0 then return true
  let balance ← getBalance userId
  return balance ≥ price

end RenderTrust.Billing
