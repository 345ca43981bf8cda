import RenderTrust.Billing.Usage
import RenderTrust.Lib.Calendar
import RenderTrust.Lib.DecimalText
import RenderTrust.Lib.Keyed

/-!
# `core/billing/payout.py`

The monthly earnings of the edge nodes and the ledger entries that pay them. The clock of
a job is that of the time zone in which the database takes a date for its midnight.
-/
namespace RenderTrust.Billing
open Ledger Scheduler Lib Lib.Keyed Lib.Rounding

def OPERATOR_SHARE : Decimal := 70 / 100

def PLATFORM_SHARE : Decimal := 30 / 100

/-- The rows the service reads, with what their columns and constraints promise. -/
structure Tables where
  nodes : List Uuid
  jobs : List (JobDispatch Timestamp)
  pricing : List JobPricing
  jobKeys : DistinctKeys JobDispatch.id jobs
  jobTypes : ∀ job ∈ jobs, bindable job.jobType
  assigned : ∀ job ∈ jobs, job.nodeId ∈ nodes
  pricingKeys : DistinctKeys JobPricing.jobType pricing
  prices : ∀ row ∈ pricing, numeric row.creditsPerUnit = some row.creditsPerUnit
  deriving DecidableEq

/-- A decimal with the exponent its text is written with. -/
structure Amount where
  value : Decimal
  exponent : ℤ
  deriving DecidableEq, Repr

/-- Decimal arithmetic: how a result is rounded, and the exponent it then has in place of
the smaller one of the operands. -/
structure Context where
  round : Decimal → Decimal
  exponent : Decimal → ℤ → ℤ

namespace Context

def exact : Context where
  round := id
  exponent := fun _ exponent => exponent

/-- 28 significant digits. -/
def default : Context where
  round := significant 28
  exponent := fun x exponent => if x = 0 then exponent else max exponent (Int.log 10 |x| - 27)

def add (context : Context) (x y : Amount) : Amount :=
  let sum := context.round (x.value + y.value)
  ⟨sum, context.exponent sum (min x.exponent y.exponent)⟩

end Context

structure PayoutSummary where
  nodeId : Uuid
  month : Date
  totalJobs : ℕ
  grossRevenue : Amount
  operatorEarnings : Decimal
  platformFee : Decimal
  isPaid : Bool
  deriving DecidableEq

def monthBoundaries (month : Date) : Except LedgerError (Date × Date) :=
  let firstDay := month.firstDay
  let nextMonth :=
    if firstDay.month = 12 then Date.make (firstDay.year + 1) 1 firstDay.day
    else Date.make firstDay.year (firstDay.month + 1) firstDay.day
  match nextMonth with
  | .ok nextMonth => .ok (firstDay, nextMonth)
  | .error message => .error (.valueError message)

/-- `status = 'COMPLETED' AND completed_at >= first_day AND completed_at < next_month`. -/
def completedWithin (bounds : Date × Date) (job : JobDispatch Timestamp) : Bool :=
  job.status = .COMPLETED ∧ job.completedAt.any fun t =>
    Timestamp.midnight bounds.1 ≤ t ∧ t < Timestamp.midnight bounds.2

def getCompletedJobs (T : Tables) (nodeId : Uuid) (month : Date) :
    Except LedgerError (List (JobDispatch Timestamp)) := do
  let bounds ← monthBoundaries month
  return T.jobs.filter fun job => job.nodeId = nodeId ∧ completedWithin bounds job

/-- `SELECT DISTINCT`; its order is any, as that of the rows is. -/
def getActiveNodeIds (T : Tables) (month : Date) : Except LedgerError (List Uuid) := do
  let bounds ← monthBoundaries month
  return ((T.jobs.filter (completedWithin bounds)).map JobDispatch.nodeId).dedup

/-- A price from the table has the four decimals of its column, a default has one. -/
def priceAmount (pricing : List JobPricing) (jobType : String) (price : Decimal) : Amount :=
  ⟨price, if activePricing pricing jobType = [] then -1 else -4⟩

def sumPrices (context : Context) (pricing : List JobPricing) :
    Amount → List (JobDispatch Timestamp) → Except LedgerError Amount
  | gross, [] => .ok gross
  | gross, job :: jobs => do
      let price ← getJobPrice pricing job.jobType
      sumPrices context pricing (context.add gross (priceAmount pricing job.jobType price)) jobs

def calculateEarnings (context : Context) (T : Tables) (nodeId : Uuid) (month : Date) :
    Except LedgerError PayoutSummary := do
  let jobs ← getCompletedJobs T nodeId month
  let grossRevenue ← sumPrices context T.pricing ⟨0, 0⟩ jobs
  return {
    nodeId := nodeId
    month := month.firstDay
    totalJobs := jobs.length
    grossRevenue := grossRevenue
    operatorEarnings := context.round (grossRevenue.value * OPERATOR_SHARE)
    platformFee := context.round (grossRevenue.value * PLATFORM_SHARE)
    isPaid := false }

def generatePayoutReport (context : Context) (T : Tables) (month : Date) :
    Except LedgerError (List PayoutSummary) := do
  let nodeIds ← getActiveNodeIds T month
  nodeIds.mapM fun nodeId => calculateEarnings context T nodeId month

def payoutReference (nodeId : Uuid) (month : Date) : String :=
  "payout-" ++ nodeId.str ++ "-" ++ month.firstDay.isoformat

/-- What `execute_payouts` asks of the ledger for a summary; the account is the node's. -/
def payoutArgs (month : Date) (summary : PayoutSummary) : Args where
  userId := summary.nodeId.val
  amount := summary.operatorEarnings
  source := .ADJUSTMENT
  referenceId := payoutReference summary.nodeId month
  description := some ("Operator payout for " ++ month.firstDay.isoformat ++ ": " ++
    toString summary.totalJobs ++ " jobs, gross " ++
    DecimalText.str summary.grossRevenue.exponent summary.grossRevenue.value)

/-- The body of the loop. The identifiers and times of new rows are given by node. -/
def executePayout (month : Date) (defaults : Uuid → Defaults) (summary : PayoutSummary) :
    LedgerM PayoutSummary := do
  if summary.operatorEarnings ≤ 0 then return summary
  let _ ← allocateCredits (payoutArgs month summary) (defaults summary.nodeId)
  return { summary with isPaid := true }

def executePayouts (context : Context) (T : Tables) (month : Date) (defaults : Uuid → Defaults) :
    LedgerM (List PayoutSummary) := do
  let summaries ← generatePayoutReport context T month
  summaries.mapM (executePayout month defaults)

/-! ## The month of a date -/

def LastMonth (month : Date) : Prop := month.year = 9999 ∧ month.month = 12

instance (month : Date) : Decidable (LastMonth month) := inferInstanceAs (Decidable (_ ∧ _))

theorem monthBoundaries_last {month : Date} (last : LastMonth month) :
    monthBoundaries month = .error (.valueError "year 10000 is out of range") := by
  have firstMonth : month.firstDay.month = 12 := last.2
  have firstYear : month.firstDay.year = 9999 := last.1
  unfold monthBoundaries
  simp only [firstMonth, if_true, firstYear]
  rfl

theorem monthBoundaries_eq {month : Date} (earlier : ¬ LastMonth month) :
    ∃ next : Date, monthBoundaries month = .ok (month.firstDay, next) ∧ next.day = 1 ∧
      next.year * 12 + next.month = month.year * 12 + month.month + 1 := by
  have hy := month.year_mem
  have hm := month.month_mem
  have firstYear : month.firstDay.year = month.year := rfl
  have firstMonth : month.firstDay.month = month.month := rfl
  have firstDay : month.firstDay.day = 1 := rfl
  unfold LastMonth at earlier
  unfold monthBoundaries
  simp only [firstYear, firstMonth, firstDay]
  by_cases december : month.month = 12
  · obtain ⟨next, made, year, month', day⟩ :=
      Date.make_first (show 1 ≤ month.year + 1 ∧ month.year + 1 ≤ 9999 by omega)
        (show 1 ≤ 1 ∧ 1 ≤ 12 by omega)
    refine ⟨next, ?_, day, by omega⟩
    simp only [if_pos december, made]
  · obtain ⟨next, made, year, month', day⟩ :=
      Date.make_first hy (show 1 ≤ month.month + 1 ∧ month.month + 1 ≤ 12 by omega)
    refine ⟨next, ?_, day, by omega⟩
    simp only [if_neg december, made]

/-- The completed jobs of a month, by the date of their clock. -/
def Tables.completed (T : Tables) (month : Date) : List (JobDispatch Timestamp) :=
  T.jobs.filter fun job => job.status = .COMPLETED ∧
    job.completedAt.any fun t => t.date.SameMonth month

theorem Tables.mem_completed {T : Tables} {month : Date} {job : JobDispatch Timestamp} :
    job ∈ T.completed month ↔ job ∈ T.jobs ∧ job.status = .COMPLETED ∧
      ∃ t, job.completedAt = some t ∧ t.date.SameMonth month := by
  simp only [completed, List.mem_filter, Bool.decide_and, Bool.and_eq_true, decide_eq_true_eq,
    Option.any_eq_true]

theorem completedWithin_eq {month next : Date} (day : next.day = 1)
    (follows : next.year * 12 + next.month = month.year * 12 + month.month + 1) :
    completedWithin (month.firstDay, next) =
      fun job => decide (job.status = .COMPLETED ∧
        job.completedAt.any fun t => t.date.SameMonth month) := by
  funext job
  have bounds : ∀ t : Timestamp, decide (Timestamp.midnight month.firstDay ≤ t ∧
      t < Timestamp.midnight next) = decide (t.date.SameMonth month) := fun t =>
    decide_eq_decide.mpr (Timestamp.sameMonth_iff rfl day follows)
  simp only [completedWithin, bounds]

theorem getCompletedJobs_eq (T : Tables) (nodeId : Uuid) {month : Date}
    (earlier : ¬ LastMonth month) :
    getCompletedJobs T nodeId month =
      .ok (group JobDispatch.nodeId (T.completed month) nodeId) := by
  obtain ⟨next, bounds, day, follows⟩ := monthBoundaries_eq earlier
  unfold getCompletedJobs
  rw [bounds]
  refine congrArg Except.ok ?_
  rw [group, Tables.completed, List.filter_filter, completedWithin_eq day follows]
  refine List.filter_congr fun job _ => ?_
  rw [Bool.decide_and, Bool.decide_coe]

theorem getActiveNodeIds_eq (T : Tables) {month : Date} (earlier : ¬ LastMonth month) :
    getActiveNodeIds T month = .ok ((T.completed month).map JobDispatch.nodeId).dedup := by
  obtain ⟨next, bounds, day, follows⟩ := monthBoundaries_eq earlier
  unfold getActiveNodeIds
  rw [bounds]
  refine congrArg Except.ok ?_
  rw [Tables.completed, completedWithin_eq day follows]

end RenderTrust.Billing
