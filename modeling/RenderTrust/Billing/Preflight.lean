import RenderTrust.Billing.Admissions
import RenderTrust.Ledger.Clocks

/-!
# The pre-flight check and the charge

`check_sufficient_credits` reads the price and the balance without a lock, and
`deduct_on_completion` reads both again. Made on the same ledger they decide alike; what
the user has left is another matter, since the balance is that of the newest stamp.
-/
namespace RenderTrust.Billing
open Ledger Scheduler Lib.Rounding Lib.Journal

/-- What the check promises of a charge of `cost`, and what the charge does. -/
structure Agrees {τ : Type} (pricing : List JobPricing) (userId : UUID) (db : Database)
    (job : JobDispatch τ) (defaults : Defaults) (cost : Decimal) : Prop where
  same : reading (checkSufficientCredits pricing userId job.jobType) db = .ok true ↔
    ∃ row, (charge pricing userId db job defaults).1 = .entry row
  drops : ∀ row, (charge pricing userId db job defaults).1 = .entry row →
    ∃ balance, reading (getBalance userId) db = .ok balance ∧
      reading (getBalance userId) (charge pricing userId db job defaults).2 = .ok (balance - cost)
  others : ∀ other, other ≠ userId →
    reading (getBalance other) (charge pricing userId db job defaults).2 =
      reading (getBalance other) db
  refused : (∀ row, (charge pricing userId db job defaults).1 ≠ .entry row) →
    (∃ available, (charge pricing userId db job defaults).1 =
      .raised (.insufficientCredits userId cost available)) ∧
    (charge pricing userId db job defaults).2 = db

section Preflight
variable {τ : Type} {pricing : List JobPricing} {userId : UUID} {db : Database}
  {job : JobDispatch τ} {defaults : Defaults} {cost : Decimal}

theorem reading_getBalance (userId : UUID) (db : Database) :
    reading (getBalance userId) db = .ok (currentBalance (db.lastEntry userId)) := rfl

theorem reading_check (userId : UUID) (db : Database)
    (priced : getJobPrice pricing job.jobType = .ok cost) (positive : 0 < cost) :
    reading (checkSufficientCredits pricing userId job.jobType) db =
      .ok (decide (cost ≤ currentBalance (db.lastEntry userId))) := by
  unfold reading checkSufficientCredits
  rw [Lib.Hoare.run_bind_ok (run_lift_ok priced _), if_neg (not_le.mpr positive)]
  rfl

/-- Only a user with an entry has a balance to speak of, and entries are of users. -/
theorem account_of_covered (valid : db.Valid) (positive : 0 < cost)
    (covered : cost ≤ currentBalance (db.lastEntry userId)) : userId ∈ db.users := by
  cases latest : db.lastEntry userId with
  | none =>
      rw [latest] at covered
      exact absurd (positive.trans_le covered) (lt_irrefl 0)
  | some e =>
      obtain ⟨member, mine⟩ := ledgerView.latest_mem latest
      have account := (valid.checks e member).2
      change e.userId = userId at mine
      rwa [mine] at account

theorem charge_refused (defaults : Defaults) (valid : db.Valid)
    (prices : ∀ row ∈ pricing, numeric row.creditsPerUnit = some row.creditsPerUnit)
    (priced : getJobPrice pricing job.jobType = .ok (price pricing job.jobType))
    (positive : 0 < price pricing job.jobType)
    (free : ∀ e ∈ db.entries, e.key ≠ ("job-" ++ job.id.str, .DEBIT))
    (uncovered : currentBalance (db.lastEntry userId) < price pricing job.jobType) :
    charge pricing userId db job defaults =
      (.raised (.insufficientCredits userId (price pricing job.jobType)
        (currentBalance (db.lastEntry userId))), db) := by
  have current := valid.currentBalance_representable userId
  have amount : Representable (price pricing job.jobType) := price_representable prices job.jobType
  have exact := decimalSub_exact (current.1.sub amount.1)
    (by
      have := abs_lt.mp current.2
      have := abs_lt.mp amount.2
      rw [abs_lt]
      constructor <;> linarith)
  have settled : (chargeEvent pricing userId job defaults).call.settle
      (currentBalance (db.lastEntry userId)) = .error (.insufficientCredits userId
        (price pricing job.jobType) (currentBalance (db.lastEntry userId))) := by
    have short : decimalSub (currentBalance (db.lastEntry userId)) (price pricing job.jobType) <
        0 := by
      rw [exact]
      exact sub_neg.mpr uncovered
    exact if_pos short
  have refused : outcome db (chargeEvent pricing userId job defaults) = .error _ ∧
      transact db (chargeEvent pricing userId job defaults) = db :=
    transact_refused positive (bindable_usageReference job) free settled
  rw [charge_eq userId db defaults priced, refused.1, refused.2]
  rfl

/-- A charge that returns an entry although its key was free has written it. -/
theorem writes_of_charge (valid : db.Valid)
    (priced : getJobPrice pricing job.jobType = .ok (price pricing job.jobType))
    (free : ∀ e ∈ db.entries, e.key ≠ ("job-" ++ job.id.str, .DEBIT)) {entry : CreditLedgerEntry}
    (charged : (charge pricing userId db job defaults).1 = .entry entry) :
    ∃ row, Writes db (chargeEvent pricing userId job defaults) row ∧
      (charge pricing userId db job defaults).2 = db.append row := by
  rw [charge_eq userId db defaults priced] at charged ⊢
  cases answered : outcome db (chargeEvent pricing userId job defaults) with
  | error e =>
      rw [answered] at charged
      cases charged
  | ok returned =>
      rcases transact_cases db (chargeEvent pricing userId job defaults) with
        same | ⟨row, writes, appended⟩
      · obtain ⟨row, member, key, -⟩ := mem_transact_of_outcome valid answered
        rw [same] at member
        exact absurd key (free row member)
      · exact ⟨row, writes, appended⟩

theorem Agrees.needs (agrees : Agrees pricing userId db job defaults (price pricing job.jobType))
    (valid : db.Valid)
    (priced : getJobPrice pricing job.jobType = .ok (price pricing job.jobType))
    (positive : 0 < price pricing job.jobType)
    (free : ∀ e ∈ db.entries, e.key ≠ ("job-" ++ job.id.str, .DEBIT))
    (covered : price pricing job.jobType ≤ currentBalance (db.lastEntry userId)) :
    (∀ e ∈ db.entries, e.id ≠ defaults.id) ∧
      ∀ e ∈ db.entries, e.userId = userId → e.createdAt < defaults.createdAt := by
  have enough := reading_check userId db priced positive
  rw [decide_eq_true covered] at enough
  obtain ⟨entry, charged⟩ := agrees.same.mp enough
  obtain ⟨row, writes, left⟩ := writes_of_charge valid priced free charged
  constructor
  · obtain ⟨newBalance, -, stored⟩ := writes.settled
    intro e member taken
    apply writes.unique.1
    rw [(CreditLedgerEntry.stored_key stored).2.2]
    exact List.mem_map.mpr ⟨e, member, taken⟩
  · obtain ⟨balance, before, after⟩ := agrees.drops entry charged
    rw [left, reading_getBalance] at after
    rw [reading_getBalance] at before
    have lower := (Except.ok.inj after).trans
      (congrArg (· - price pricing job.jobType) (Except.ok.inj before).symm)
    rcases writes.lastEntry_cases valid userId with old | ⟨-, new⟩
    · rw [old] at lower
      linarith
    · exact writes.lastEntry_iff.mp new

theorem agrees_of_uncovered (valid : db.Valid)
    (prices : ∀ row ∈ pricing, numeric row.creditsPerUnit = some row.creditsPerUnit)
    (priced : getJobPrice pricing job.jobType = .ok (price pricing job.jobType))
    (positive : 0 < price pricing job.jobType)
    (free : ∀ e ∈ db.entries, e.key ≠ ("job-" ++ job.id.str, .DEBIT))
    (uncovered : currentBalance (db.lastEntry userId) < price pricing job.jobType) :
    Agrees pricing userId db job defaults (price pricing job.jobType) := by
  have declined := charge_refused defaults valid prices priced positive free uncovered
  have short := reading_check userId db priced positive
  rw [decide_eq_false (not_le.mpr uncovered)] at short
  refine ⟨?_, ?_, ?_, ?_⟩
  · rw [short, declined]
    simp
  · intro row charged
    rw [declined] at charged
    cases charged
  · intro other _
    rw [declined]
  · intro _
    rw [declined]
    exact ⟨⟨_, rfl⟩, rfl⟩

theorem agrees_of_covered (valid : db.Valid)
    (prices : ∀ row ∈ pricing, numeric row.creditsPerUnit = some row.creditsPerUnit)
    (priced : getJobPrice pricing job.jobType = .ok (price pricing job.jobType))
    (positive : 0 < price pricing job.jobType)
    (free : ∀ e ∈ db.entries, e.key ≠ ("job-" ++ job.id.str, .DEBIT))
    (covered : price pricing job.jobType ≤ currentBalance (db.lastEntry userId))
    (fresh : ∀ e ∈ db.entries, e.id ≠ defaults.id)
    (newer : ∀ e ∈ db.entries, e.userId = userId → e.createdAt < defaults.createdAt) :
    Agrees pricing userId db job defaults (price pricing job.jobType) := by
  have taken : (chargeEvent pricing userId job defaults).Taken db :=
    chargeEvent_taken prices valid (account_of_covered valid positive covered)
      (fun e member => ⟨fresh e member, free e member⟩) priced positive covered
  have charged : charge pricing userId db job defaults =
      (.entry ((chargeEvent pricing userId job defaults).written db),
        db.append ((chargeEvent pricing userId job defaults).written db)) := by
    rw [charge_eq userId db defaults priced, taken.transact.1, taken.transact.2]
    rfl
  have enough := reading_check userId db priced positive
  rw [decide_eq_true covered] at enough
  refine ⟨?_, ?_, ?_, ?_⟩
  · rw [enough, charged]
    simp
  · intro row _
    refine ⟨_, reading_getBalance userId db, ?_⟩
    have newest : ledgerView.Newer db.entries
        ((chargeEvent pricing userId job defaults).written db) := newer
    have latest : (db.append ((chargeEvent pricing userId job defaults).written db)).lastEntry
        userId = some _ := ledgerView.latest_concat_self newest
    rw [charged, reading_getBalance, latest, sub_eq_add_neg]
    rfl
  · intro other apart
    have theirs : ledgerView.account ((chargeEvent pricing userId job defaults).written db) ≠
        other := apart.symm
    have same : (db.append ((chargeEvent pricing userId job defaults).written db)).lastEntry
        other = db.lastEntry other := ledgerView.latest_concat_other theirs _
    rw [charged, reading_getBalance, reading_getBalance, same]
  · intro refused
    rw [charged] at refused
    exact absurd rfl (refused _)

/-- The check and the charge agree exactly when the new row, should there be one, has an id
of its own and the newest stamp of its user. -/
theorem preflight_iff (valid : db.Valid) (invariant : LedgerInvariant db)
    (prices : ∀ row ∈ pricing, numeric row.creditsPerUnit = some row.creditsPerUnit)
    (priced : getJobPrice pricing job.jobType = .ok cost) (positive : 0 < cost)
    (free : ∀ e ∈ db.entries, e.key ≠ ("job-" ++ job.id.str, .DEBIT)) :
    Agrees pricing userId db job defaults cost ↔
      (cost ≤ signedSum userId db.entries →
        (∀ e ∈ db.entries, e.id ≠ defaults.id) ∧
          ∀ e ∈ db.entries, e.userId = userId → e.createdAt < defaults.createdAt) := by
  obtain rfl := price_eq priced
  have balance : currentBalance (db.lastEntry userId) = signedSum userId db.entries :=
    (EStateM.Result.ok.inj (invariant.balance userId)).1
  rw [← balance]
  constructor
  · intro agrees covered
    exact agrees.needs valid priced positive free covered
  · intro condition
    rcases le_or_gt (price pricing job.jobType) (currentBalance (db.lastEntry userId)) with
      covered | uncovered
    · obtain ⟨fresh, newer⟩ := condition covered
      exact agrees_of_covered valid prices priced positive free covered fresh newer
    · exact agrees_of_uncovered valid prices priced positive free uncovered

end Preflight

theorem ledgerInvariant_hundredCredits : LedgerInvariant hundredCredits := by
  have final : Lib.Runs.exec (fun db event => some (transact db event)) Admissible ⟨[1], []⟩
      [⟨⟨.CREDIT, ⟨1, 100, .STRIPE, "in_1", none⟩⟩, ⟨11, 1⟩⟩] = some hundredCredits := by
    decide +kernel
  exact ledgerInvariant_of_run (Lib.Runs.exec_eq_some.mp final)

theorem preflight_renderJob : Agrees [] 1 hundredCredits renderJob ⟨12, 2⟩ 10 :=
  (preflight_iff valid_hundredCredits ledgerInvariant_hundredCredits (by decide +kernel)
    (by decide +kernel) (by decide +kernel) (by decide +kernel)).mpr
    fun _ => ⟨by decide +kernel, by decide +kernel⟩

/-- A gateway whose clock is behind that of the one that wrote the top-up. -/
theorem preflight_behind : ¬ ∀ (pricing : List JobPricing) (userId : UUID) (db : Database)
    (job : JobDispatch ℕ) (defaults : Defaults) (cost : Decimal), db.Valid → LedgerInvariant db →
      (∀ row ∈ pricing, numeric row.creditsPerUnit = some row.creditsPerUnit) →
      getJobPrice pricing job.jobType = .ok cost → 0 < cost →
      (∀ e ∈ db.entries, e.key ≠ ("job-" ++ job.id.str, .DEBIT)) →
        Agrees pricing userId db job defaults cost := by
  intro claim
  have agrees := claim [] 1 hundredCredits renderJob ⟨12, 0⟩ 10 valid_hundredCredits
    ledgerInvariant_hundredCredits (by decide +kernel) (by decide +kernel) (by decide +kernel)
    (by decide +kernel)
  have priced : (10 : Decimal) = price [] renderJob.jobType := by decide +kernel
  rw [priced] at agrees
  have condition := agrees.needs valid_hundredCredits (by decide +kernel) (by decide +kernel)
    (by decide +kernel) (by decide +kernel)
  exact absurd condition.2 (by decide +kernel)

end RenderTrust.Billing
