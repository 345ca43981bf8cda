import RenderTrust.Billing.Isolation
import RenderTrust.Billing.Payments
import RenderTrust.Ledger.Quantisation

/-!
# Charges for admitted jobs

A job is admitted on the word of `check_sufficient_credits`, which reads the balance and sets
nothing aside, and is charged when it is completed. The jobs are those of one user; allocations,
and calls for other users, come in between.
-/
namespace RenderTrust.Billing
open Ledger Scheduler Lib.Rounding Lib.Journal Lib.Runs

/-- The ledger, and the jobs that are admitted and not yet charged. -/
structure Admissions (τ : Type) where
  db : Database
  admitted : List (JobDispatch τ)
  deriving DecidableEq, Repr

inductive Activity (τ : Type) where
  | admission (job : JobDispatch τ)
  | completion (job : JobDispatch τ) (defaults : Defaults)
  | other (event : Event)
  deriving DecidableEq, Repr

section Definitions
variable {τ : Type} (pricing : List JobPricing) (userId : UUID)

def sufficient (db : Database) (job : JobDispatch τ) : Bool :=
  match reading (checkSufficientCredits pricing userId job.jobType) db with
  | .ok enough => enough
  | .error _ => false

def charge (db : Database) (job : JobDispatch τ) (defaults : Defaults) : Reply × Database :=
  committed db (deductOnCompletion pricing job userId defaults)

variable [DecidableEq τ]

def Admissions.next (s : Admissions τ) : Activity τ → Option (Admissions τ)
  | .admission job =>
      if sufficient pricing userId s.db job then some { s with admitted := job :: s.admitted }
      else none
  | .completion job defaults =>
      if job ∈ s.admitted then
        some ⟨(charge pricing userId s.db job defaults).2, s.admitted.erase job⟩
      else none
  | .other event =>
      if event.call.direction = .DEBIT ∧ event.call.args.userId = userId then none
      else some { s with db := transact s.db event }

/-- What the charge for a job takes: nothing where the job is free. -/
def due (job : JobDispatch τ) : Decimal := max (price pricing job.jobType) 0

def owed (jobs : List (JobDispatch τ)) : Decimal := (jobs.map (due pricing)).sum

/-- The balance covers the jobs admitted before as well. -/
def Covered (s : Admissions τ) : Activity τ → Prop
  | .admission job => owed pricing (job :: s.admitted) ≤ currentBalance (s.db.lastEntry userId)
  | .completion _ _ => True
  | .other _ => True

instance (s : Admissions τ) (activity : Activity τ) :
    Decidable (Covered pricing userId s activity) :=
  match activity with
  | .admission _ => inferInstanceAs (Decidable (_ ≤ _))
  | .completion _ _ => inferInstanceAs (Decidable True)
  | .other _ => inferInstanceAs (Decidable True)

structure Funded (s : Admissions τ) : Prop where
  valid : s.db.Valid
  covered : owed pricing s.admitted ≤ currentBalance (s.db.lastEntry userId)
  priced : ∀ job ∈ s.admitted,
    getJobPrice pricing job.jobType = .ok (price pricing job.jobType)

end Definitions

section Charges
variable {τ : Type} {pricing : List JobPricing} {userId : UUID} {db : Database}
  {job : JobDispatch τ} {jobs : List (JobDispatch τ)} {defaults : Defaults}

theorem due_nonneg (pricing : List JobPricing) (job : JobDispatch τ) : 0 ≤ due pricing job :=
  le_max_right _ _

theorem owed_cons (job : JobDispatch τ) (jobs : List (JobDispatch τ)) :
    owed pricing (job :: jobs) = due pricing job + owed pricing jobs := by
  rw [owed, List.map_cons, List.sum_cons, owed]

theorem owed_nonneg (pricing : List JobPricing) (jobs : List (JobDispatch τ)) :
    0 ≤ owed pricing jobs := by
  induction jobs with
  | nil => exact le_rfl
  | cons job jobs ih =>
      rw [owed_cons]
      exact add_nonneg (due_nonneg pricing job) ih

theorem owed_erase [DecidableEq τ] (member : job ∈ jobs) :
    owed pricing jobs = due pricing job + owed pricing (jobs.erase job) := by
  have perm := (List.perm_cons_erase member).map (due pricing)
  rw [← owed_cons]
  exact perm.sum_eq

theorem priced_of_sufficient (enough : sufficient pricing userId db job) :
    getJobPrice pricing job.jobType = .ok (price pricing job.jobType) := by
  cases found : getJobPrice pricing job.jobType with
  | error e =>
      have refused : sufficient pricing userId db job = false := by
        unfold sufficient reading checkSufficientCredits
        rw [Lib.Hoare.run_bind_error (run_lift_error found _)]
      rw [refused] at enough
      cases enough
  | ok cost => rw [price_eq found]

def chargeEvent (pricing : List JobPricing) (userId : UUID) (job : JobDispatch τ)
    (defaults : Defaults) : Event :=
  ⟨⟨.DEBIT, usageCharge job userId (price pricing job.jobType)⟩, defaults⟩

theorem charge_eq (userId : UUID) (db : Database) (defaults : Defaults)
    (priced : getJobPrice pricing job.jobType = .ok (price pricing job.jobType)) :
    charge pricing userId db job defaults =
      (replyTo (outcome db (chargeEvent pricing userId job defaults)),
        transact db (chargeEvent pricing userId job defaults)) := by
  unfold charge chargeEvent
  rw [completion_eq, priced]

/-- A charge takes no more from the balance than what is due. -/
theorem charge_le (valid : db.Valid) (userId : UUID) (job : JobDispatch τ) (defaults : Defaults)
    (prices : ∀ row ∈ pricing, numeric row.creditsPerUnit = some row.creditsPerUnit) :
    currentBalance (db.lastEntry userId) - due pricing job ≤ currentBalance
      ((transact db (chargeEvent pricing userId job defaults)).lastEntry userId) := by
  rcases lastEntry_transact valid (chargeEvent pricing userId job defaults) userId with
    same | ⟨row, writes, -, same⟩
  · rw [same]
    exact sub_le_self _ (due_nonneg pricing job)
  · rw [same]
    have moved := writes.exact valid (price_representable prices job.jobType)
    change row.balanceAfter = currentBalance (db.lastEntry userId) + -price pricing job.jobType
      at moved
    change _ ≤ row.balanceAfter
    rw [moved, ← sub_eq_add_neg]
    exact sub_le_sub_left (le_max_left _ _) _

theorem le_other (valid : db.Valid) {event : Event}
    (other : ¬ (event.call.direction = .DEBIT ∧ event.call.args.userId = userId)) :
    currentBalance (db.lastEntry userId) ≤
      currentBalance ((transact db event).lastEntry userId) := by
  rcases lastEntry_transact valid event userId with same | ⟨row, writes, mine, same⟩
  · rw [same]
  · rw [same]
    subst mine
    cases direction : event.call.direction with
    | CREDIT => exact writes.le_credit valid direction
    | DEBIT => exact absurd ⟨direction, rfl⟩ other

theorem settle_covered {args : Args} {current : Decimal} (covered : args.amount ≤ current) :
    Call.settle ⟨.DEBIT, args⟩ current = .ok (decimalSub current args.amount) := by
  have enough : 0 ≤ decimalSub current args.amount :=
    significant_nonneg 28 (sub_nonneg.mpr covered)
  exact debitSettle_ok_iff.mpr ⟨rfl, enough⟩

/-! ## The texts of a charge -/

theorem readable_of_price {jobType : String} {cost : Decimal}
    (found : getJobPrice pricing jobType = .ok cost) : bindable jobType := by
  unfold getJobPrice at found
  split at found
  · assumption
  · cases found

theorem length_usageReference (job : JobDispatch τ) : ("job-" ++ job.id.str).length ≤ 255 := by
  rw [String.length_append, Lib.Uuid.length_str]
  decide

theorem bindable_usageReference (job : JobDispatch τ) : bindable ("job-" ++ job.id.str) :=
  bindable_append (by decide +kernel) (bindable_str job.id)

theorem bindable_usageDescription (readable : bindable job.jobType) :
    bindable ("Usage charge for " ++ job.jobType ++ " job " ++ job.id.str) :=
  bindable_append (bindable_append (bindable_append (by decide +kernel) readable)
    (by decide +kernel)) (bindable_str job.id)

/-- The ledger takes the charge of a registered user whose balance covers it. -/
theorem chargeEvent_taken
    (prices : ∀ row ∈ pricing, numeric row.creditsPerUnit = some row.creditsPerUnit)
    (valid : db.Valid) (account : userId ∈ db.users)
    (fresh : ∀ e ∈ db.entries, e.id ≠ defaults.id ∧ e.key ≠ ("job-" ++ job.id.str, .DEBIT))
    (priced : getJobPrice pricing job.jobType = .ok (price pricing job.jobType))
    (positive : 0 < price pricing job.jobType)
    (covered : price pricing job.jobType ≤ currentBalance (db.lastEntry userId)) :
    (chargeEvent pricing userId job defaults).Taken db := by
  have current := valid.currentBalance_representable userId
  have amount : Representable (price pricing job.jobType) := price_representable prices job.jobType
  exact {
    positive := positive
    amount := amount
    balance := current.sub amount positive.le covered
    nonneg := by
      change 0 ≤ currentBalance (db.lastEntry userId) + -price pricing job.jobType
      linarith
    texts := ⟨length_usageReference job, bindable_usageReference job,
      bindable_usageDescription (readable_of_price priced)⟩
    account := account
    fresh := fresh }

end Charges

section Runs
variable {τ : Type} [DecidableEq τ] {pricing : List JobPricing} {userId : UUID} {db : Database}
  {s t : Admissions τ} {job : JobDispatch τ} {activities : List (Activity τ)}

theorem Funded.next (prices : ∀ row ∈ pricing, numeric row.creditsPerUnit = some row.creditsPerUnit)
    (funded : Funded pricing userId s) {activity : Activity τ}
    (covered : Covered pricing userId s activity)
    (accepted : s.next pricing userId activity = some t) : Funded pricing userId t := by
  cases activity with
  | admission job =>
      obtain ⟨enough, accepted⟩ := Option.ite_none_right_eq_some.mp accepted
      obtain rfl := Option.some.inj accepted
      refine ⟨funded.valid, covered, ?_⟩
      intro other member
      rcases List.mem_cons.mp member with rfl | before
      · exact priced_of_sufficient enough
      · exact funded.priced other before
  | completion job defaults =>
      obtain ⟨member, accepted⟩ := Option.ite_none_right_eq_some.mp accepted
      obtain rfl := Option.some.inj accepted
      have charged := charge_eq userId s.db defaults (funded.priced job member)
      have taken := charge_le funded.valid userId job defaults prices
      have before := funded.covered
      rw [owed_erase member] at before
      rw [charged]
      refine ⟨funded.valid.transact _, ?_, fun other there =>
        funded.priced other (List.mem_of_mem_erase there)⟩
      change owed pricing (s.admitted.erase job) ≤ currentBalance (Database.lastEntry _ userId)
      linarith
  | other event =>
      obtain ⟨other, accepted⟩ := Option.ite_none_left_eq_some.mp accepted
      obtain rfl := Option.some.inj accepted
      exact ⟨funded.valid.transact event, funded.covered.trans (le_other funded.valid other),
        funded.priced⟩

theorem Funded.price_le (funded : Funded pricing userId s) (member : job ∈ s.admitted) :
    price pricing job.jobType ≤ currentBalance (s.db.lastEntry userId) := by
  have before := funded.covered
  rw [owed_erase member] at before
  have rest := owed_nonneg pricing (s.admitted.erase job)
  have priced : price pricing job.jobType ≤ due pricing job := le_max_left _ _
  linarith

/-- The charge for a job that is funded is written, unless its id or its key is taken. -/
theorem Funded.charged
    (prices : ∀ row ∈ pricing, numeric row.creditsPerUnit = some row.creditsPerUnit)
    (funded : Funded pricing userId s) (member : job ∈ s.admitted) {defaults : Defaults}
    (account : userId ∈ s.db.users)
    (fresh : ∀ e ∈ s.db.entries, e.id ≠ defaults.id ∧ e.key ≠ ("job-" ++ job.id.str, .DEBIT))
    (positive : 0 < price pricing job.jobType) :
    ∃ row, charge pricing userId s.db job defaults = (.entry row, s.db.append row) ∧
      row.amount = price pricing job.jobType := by
  have taken := chargeEvent_taken prices funded.valid account fresh (funded.priced job member)
    positive (funded.price_le member)
  obtain ⟨answered, appended⟩ := taken.transact
  refine ⟨(chargeEvent pricing userId job defaults).written s.db, ?_, rfl⟩
  rw [charge_eq userId s.db defaults (funded.priced job member), answered, appended]
  rfl

theorem Funded.payable (funded : Funded pricing userId s) (member : job ∈ s.admitted)
    (defaults : Defaults) {user : UUID} {requested available : Decimal} :
    (charge pricing userId s.db job defaults).1 ≠
      .raised (.insufficientCredits user requested available) := by
  rw [charge_eq userId s.db defaults (funded.priced job member)]
  have settled : Call.settle ⟨.DEBIT, usageCharge job userId (price pricing job.jobType)⟩
      (currentBalance (s.db.lastEntry userId)) = .ok _ := settle_covered (funded.price_le member)
  intro raised
  unfold outcome chargeEvent at raised
  split at raised
  · cases raised
  · rename_i ran
    cases raised
    exact Call.run_settled settled ran

theorem funded_of_run (valid : db.Valid)
    (prices : ∀ row ∈ pricing, numeric row.creditsPerUnit = some row.creditsPerUnit)
    (run : Run (Admissions.next pricing userId) (Covered pricing userId) ⟨db, []⟩ activities s) :
    Funded pricing userId s := by
  apply Run.invariant _ run
  · refine ⟨valid, valid.currentBalance_nonneg userId, ?_⟩
    intro job member
    exact absurd member List.not_mem_nil
  · intro s activity t funded covered accepted
    exact funded.next prices covered accepted

/-- The charge for a job is never declined when the balance, at each admission, covers all jobs
that are admitted and not yet charged. -/
theorem payable_of_run (valid : db.Valid)
    (prices : ∀ row ∈ pricing, numeric row.creditsPerUnit = some row.creditsPerUnit)
    (run : Run (Admissions.next pricing userId) (Covered pricing userId) ⟨db, []⟩ activities s)
    (member : job ∈ s.admitted) (defaults : Defaults) :
    (∀ user requested available, (charge pricing userId s.db job defaults).1 ≠
      .raised (.insufficientCredits user requested available)) ∧
    (userId ∈ s.db.users →
      (∀ e ∈ s.db.entries, e.id ≠ defaults.id ∧ e.key ≠ ("job-" ++ job.id.str, .DEBIT)) →
      0 < price pricing job.jobType →
        ∃ row, charge pricing userId s.db job defaults = (.entry row, s.db.append row) ∧
          row.amount = price pricing job.jobType) := by
  have funded := funded_of_run valid prices run
  constructor
  · intro user requested available
    exact funded.payable member defaults
  · intro account fresh positive
    exact funded.charged prices member account fresh positive

end Runs

def secondJob : JobDispatch ℕ := { renderJob with id := 8 }

theorem payable_secondJob : ∃ s : Admissions ℕ,
    Run (Admissions.next [] 1) (Covered [] 1) ⟨hundredCredits, []⟩
      [.admission renderJob, .admission secondJob, .completion renderJob ⟨12, 2⟩] s ∧
    secondJob ∈ s.admitted ∧ ∀ user requested available,
      (charge [] 1 s.db secondJob ⟨13, 3⟩).1 ≠
        .raised (.insufficientCredits user requested available) := by
  have accepted : (exec (Admissions.next [] 1) (Covered [] 1) ⟨hundredCredits, []⟩
      [.admission renderJob, .admission secondJob, .completion renderJob ⟨12, 2⟩]).any
        fun s => secondJob ∈ s.admitted := by decide +kernel
  obtain ⟨s, run, admitted⟩ := run_of_any accepted
  have member := of_decide_eq_true admitted
  exact ⟨s, run, member, (payable_of_run valid_hundredCredits (by decide +kernel) run member _).1⟩

def sixtyPrice : List JobPricing := [⟨"render", 60, true⟩]

def firstCharge : CreditLedgerEntry :=
  ⟨12, 1, 60, .DEBIT, .USAGE, "job-" ++ renderJob.id.str, 40,
    some ("Usage charge for render job " ++ renderJob.id.str), 2⟩

/-- The ledger after the charge for the first of two jobs, each admitted on a balance of 100. -/
def chargedOnce : Database := hundredCredits.append firstCharge

theorem not_payable_secondJob : ¬ ∀ (pricing : List JobPricing) (userId : UUID) (db : Database)
    (activities : List (Activity ℕ)) (s : Admissions ℕ), db.Valid →
      (∀ row ∈ pricing, numeric row.creditsPerUnit = some row.creditsPerUnit) →
      Run (Admissions.next pricing userId) Always ⟨db, []⟩ activities s →
        ∀ job ∈ s.admitted, ∀ defaults user requested available,
          (charge pricing userId s.db job defaults).1 ≠
            .raised (.insufficientCredits user requested available) := by
  intro claim
  have final : exec (Admissions.next sixtyPrice 1) Always ⟨hundredCredits, []⟩
      [.admission renderJob, .admission secondJob, .completion renderJob ⟨12, 2⟩] =
        some ⟨chargedOnce, [secondJob]⟩ := by decide +kernel
  have latest : currentBalance (chargedOnce.lastEntry 1) = 40 := by
    have newer : ledgerView.Newer hundredCredits.entries firstCharge := by decide +kernel
    have newest : chargedOnce.lastEntry 1 = some firstCharge := ledgerView.latest_concat_self newer
    rw [newest]
    rfl
  have answered : answer chargedOnce (chargeEvent sixtyPrice 1 secondJob ⟨13, 3⟩) =
      (.error (.insufficientCredits 1 60 40), chargedOnce) := by
    have read : currentBalance (chargedOnce.lastEntry
        (chargeEvent sixtyPrice 1 secondJob ⟨13, 3⟩).call.args.userId) = 40 := latest
    unfold answer
    simp only [read]
    decide +kernel
  apply claim sixtyPrice 1 hundredCredits _ _ valid_hundredCredits (by decide +kernel)
    (exec_eq_some.mp final) secondJob List.mem_cons_self ⟨13, 3⟩ 1 60 40
  rw [charge_eq 1 _ _ (by decide +kernel)]
  rw [answer_eq] at answered
  rw [(Prod.mk.inj answered).1]
  rfl

end RenderTrust.Billing
