import RenderTrust.Billing.Payout

/-!
# What a payout report says

The report of a month as a function of its completed jobs: one summary for each of their
nodes, whose revenue is the worth of the jobs of that node.
-/
namespace RenderTrust.Billing
open Ledger Scheduler Lib Lib.Keyed Lib.Rounding

/-- The price of a job type; the table has one row of a type at most. -/
def price (pricing : List JobPricing) (jobType : String) : Decimal :=
  match activePricing pricing jobType with
  | row :: _ => row.creditsPerUnit
  | [] => (DEFAULT_PRICING.lookup jobType).getD FALLBACK_PRICE

theorem price_eq {pricing : List JobPricing} {jobType : String} {cost : Decimal}
    (found : getJobPrice pricing jobType = .ok cost) : cost = price pricing jobType := by
  unfold getJobPrice at found
  unfold price
  split at found
  · split at found
    · rename_i row single
      rw [single]
      exact (Except.ok.inj found).symm
    · rename_i empty
      rw [empty]
      exact (Except.ok.inj found).symm
    · cases found
  · cases found

/-- A price is a column value, also where it is not from the table. -/
theorem price_representable {pricing : List JobPricing}
    (prices : ∀ row ∈ pricing, numeric row.creditsPerUnit = some row.creditsPerUnit)
    (jobType : String) :
    Multiple 4 (price pricing jobType) ∧ |price pricing jobType| < 10 ^ 8 := by
  unfold price
  split
  · rename_i row rest found
    have member : row ∈ activePricing pricing jobType := by
      rw [found]
      exact List.mem_cons_self
    exact numeric_bound (prices row (List.mem_filter.mp member).1)
  · have all : ∀ x ∈ FALLBACK_PRICE :: DEFAULT_PRICING.map Prod.snd,
        Multiple 4 x ∧ |x| < 10 ^ 8 := by
      decide +kernel
    apply all
    cases found : DEFAULT_PRICING.lookup jobType with
    | none => exact List.mem_cons_self
    | some x =>
        obtain ⟨before, after, entry, _⟩ := List.lookup_eq_some_iff.mp found
        have member : (jobType, x) ∈ DEFAULT_PRICING := by
          rw [entry]
          exact List.mem_append_right before List.mem_cons_self
        exact List.mem_cons_of_mem _ (List.mem_map.mpr ⟨_, member, rfl⟩)

namespace Tables
variable (T : Tables)

def priced (job : JobDispatch Timestamp) : Amount :=
  priceAmount T.pricing job.jobType (price T.pricing job.jobType)

def worth (jobs : List (JobDispatch Timestamp)) : Decimal :=
  (jobs.map fun job => price T.pricing job.jobType).sum

variable {T}

theorem getJobPrice_eq {jobType : String} (readable : bindable jobType) :
    getJobPrice T.pricing jobType = .ok (price T.pricing jobType) := by
  have once : DistinctKeys JobPricing.jobType (activePricing T.pricing jobType) :=
    T.pricingKeys.filter _
  have same : ∀ row ∈ activePricing T.pricing jobType, row.jobType = jobType := by
    intro row member
    have active := of_decide_eq_true (List.mem_filter.mp member).2
    exact active.1
  unfold getJobPrice price
  rw [if_pos readable]
  cases found : activePricing T.pricing jobType with
  | nil => rfl
  | cons row rest =>
      cases rest with
      | nil => rfl
      | cons other rest =>
          rw [found] at once same
          have equal : row.jobType = other.jobType := by
            rw [same row List.mem_cons_self, same other (List.mem_cons_of_mem _ List.mem_cons_self)]
          unfold DistinctKeys at once
          rw [List.map_cons, List.map_cons, ← equal, List.nodup_cons] at once
          exact absurd List.mem_cons_self once.1

theorem worth_nil : T.worth [] = 0 := rfl

theorem worth_cons (job : JobDispatch Timestamp) (jobs : List (JobDispatch Timestamp)) :
    T.worth (job :: jobs) = price T.pricing job.jobType + T.worth jobs := by
  rw [worth, List.map_cons, List.sum_cons, worth]

theorem worth_append (jobs rest : List (JobDispatch Timestamp)) :
    T.worth (jobs ++ rest) = T.worth jobs + T.worth rest := by
  rw [worth, List.map_append, List.sum_append, worth, worth]

theorem worth_flatMap {ι : Type} (keys : List ι) (jobs : ι → List (JobDispatch Timestamp)) :
    T.worth (keys.flatMap jobs) = (keys.map fun k => T.worth (jobs k)).sum := by
  induction keys with
  | nil => rfl
  | cons k keys ih => rw [List.flatMap_cons, worth_append, ih, List.map_cons, List.sum_cons]

theorem worth_perm {jobs rest : List (JobDispatch Timestamp)} (h : jobs.Perm rest) :
    T.worth jobs = T.worth rest := (h.map _).sum_eq

variable (T)

def revenue (context : Context) (gross : Amount) (jobs : List (JobDispatch Timestamp)) : Amount :=
  jobs.foldl (fun gross job => context.add gross (T.priced job)) gross

/-- The jobs that earn a node its pay for a month. -/
def earning (month : Date) (nodeId : Uuid) : List (JobDispatch Timestamp) :=
  group JobDispatch.nodeId (T.completed month) nodeId

def summary (context : Context) (month : Date) (nodeId : Uuid) : PayoutSummary :=
  let jobs := T.earning month nodeId
  let grossRevenue := T.revenue context ⟨0, 0⟩ jobs
  { nodeId := nodeId
    month := month.firstDay
    totalJobs := jobs.length
    grossRevenue := grossRevenue
    operatorEarnings := context.round (grossRevenue.value * OPERATOR_SHARE)
    platformFee := context.round (grossRevenue.value * PLATFORM_SHARE)
    isPaid := false }

/-- The nodes with completed jobs. -/
def active (month : Date) : List Uuid := ((T.completed month).map JobDispatch.nodeId).dedup

variable {T}

theorem mem_earning {month : Date} {nodeId : Uuid} {job : JobDispatch Timestamp} :
    job ∈ T.earning month nodeId ↔ job ∈ T.completed month ∧ job.nodeId = nodeId := by
  rw [earning, group, List.mem_filter, decide_eq_true_eq]

theorem mem_active {month : Date} {nodeId : Uuid} :
    nodeId ∈ T.active month ↔ ∃ job ∈ T.completed month, job.nodeId = nodeId := by
  rw [active, List.mem_dedup, List.mem_map]

theorem active_nodup (month : Date) : (T.active month).Nodup := List.nodup_dedup _

theorem completed_congr {month other : Date} (same : month.SameMonth other) :
    T.completed month = T.completed other := by
  refine List.filter_congr fun job _ => ?_
  have bounds : ∀ t : Timestamp,
      decide (t.date.SameMonth month) = decide (t.date.SameMonth other) := fun t =>
    decide_eq_decide.mpr ⟨fun h => h.trans same, fun h => h.trans same.symm⟩
  simp only [bounds]

theorem summary_congr (context : Context) {month other : Date} (same : month.SameMonth other)
    (nodeId : Uuid) : T.summary context month nodeId = T.summary context other nodeId := by
  unfold summary earning
  rw [completed_congr same, Date.firstDay_eq_iff.mpr same]

theorem sumPrices_eq (context : Context) {jobs : List (JobDispatch Timestamp)}
    (inside : ∀ job ∈ jobs, job ∈ T.jobs) (gross : Amount) :
    sumPrices context T.pricing gross jobs = .ok (T.revenue context gross jobs) := by
  induction jobs generalizing gross with
  | nil => rfl
  | cons job jobs ih =>
      have readable := T.jobTypes job (inside job List.mem_cons_self)
      rw [sumPrices, getJobPrice_eq readable]
      exact ih (fun other member => inside other (List.mem_cons_of_mem job member)) _

theorem earning_subset {month : Date} {nodeId : Uuid} {job : JobDispatch Timestamp}
    (h : job ∈ T.earning month nodeId) : job ∈ T.jobs :=
  (mem_completed.mp (mem_earning.mp h).1).1

end Tables

section Report
variable {T : Tables} {context : Context} {month : Date}

theorem calculateEarnings_eq (earlier : ¬ LastMonth month) (nodeId : Uuid) :
    calculateEarnings context T nodeId month = .ok (T.summary context month nodeId) := by
  unfold calculateEarnings
  rw [getCompletedJobs_eq T nodeId earlier]
  have sum : sumPrices context T.pricing ⟨0, 0⟩ (T.earning month nodeId) = _ :=
    Tables.sumPrices_eq context (fun _ member => Tables.earning_subset member) ⟨0, 0⟩
  change (do let grossRevenue ← sumPrices context T.pricing ⟨0, 0⟩ (T.earning month nodeId)
             return _ : Except LedgerError PayoutSummary) = _
  rw [sum]
  rfl

theorem generatePayoutReport_eq (earlier : ¬ LastMonth month) :
    generatePayoutReport context T month =
      .ok ((T.active month).map (T.summary context month)) := by
  have each : (fun nodeId => calculateEarnings context T nodeId month) =
      fun nodeId => pure (T.summary context month nodeId) := by
    funext nodeId
    exact calculateEarnings_eq earlier nodeId
  unfold generatePayoutReport
  rw [getActiveNodeIds_eq T earlier, each]
  exact List.mapM_pure

theorem generatePayoutReport_last (last : LastMonth month) :
    generatePayoutReport context T month = .error (.valueError "year 10000 is out of range") := by
  unfold generatePayoutReport getActiveNodeIds
  rw [monthBoundaries_last last]
  rfl

end Report

/-! ## Exact decimals -/

section Exact
variable {T : Tables} {month : Date}

theorem revenue_exact (gross : Amount) (jobs : List (JobDispatch Timestamp)) :
    (T.revenue .exact gross jobs).value = gross.value + T.worth jobs := by
  induction jobs generalizing gross with
  | nil => exact (add_zero gross.value).symm
  | cons job jobs ih =>
      have step : T.revenue .exact gross (job :: jobs) =
          T.revenue .exact (Context.exact.add gross (T.priced job)) jobs := rfl
      rw [step, ih, Tables.worth_cons, ← add_assoc]
      rfl

theorem gross_exact (nodeId : Uuid) :
    (T.summary .exact month nodeId).grossRevenue.value = T.worth (T.earning month nodeId) :=
  (revenue_exact _ _).trans (zero_add _)

theorem split_exact (nodeId : Uuid) :
    (T.summary .exact month nodeId).operatorEarnings + (T.summary .exact month nodeId).platformFee =
      (T.summary .exact month nodeId).grossRevenue.value := by
  change _ * OPERATOR_SHARE + _ * PLATFORM_SHARE = _
  rw [← mul_add, show OPERATOR_SHARE + PLATFORM_SHARE = 1 by decide +kernel, mul_one]
  rfl

theorem sum_gross_exact :
    (((T.active month).map (T.summary .exact month)).map fun s => s.grossRevenue.value).sum =
      T.worth (T.completed month) := by
  have each : ((T.active month).map (T.summary .exact month)).map (fun s => s.grossRevenue.value) =
      (T.active month).map fun nodeId => T.worth (T.earning month nodeId) := by
    rw [List.map_map]
    exact List.map_congr_left fun nodeId _ => gross_exact nodeId
  rw [each, ← Tables.worth_flatMap]
  exact Tables.worth_perm (groups_perm JobDispatch.nodeId (T.completed month))

/-! ## The default context rounds nothing in a table of fewer than 10^14 jobs -/

theorem price_bound (jobType : String) :
    Multiple 4 (price T.pricing jobType) ∧ |price T.pricing jobType| < 10 ^ 8 :=
  price_representable T.prices jobType

theorem add_default {x y : Amount} (whole : Multiple 4 (x.value + y.value))
    (small : |x.value + y.value| < 10 ^ 22) (hx : -4 ≤ x.exponent) (hy : -4 ≤ y.exponent) :
    Context.default.add x y = Context.exact.add x y := by
  have same : significant 28 (x.value + y.value) = x.value + y.value :=
    significant_multiple whole (by linarith)
  have exponent : Context.default.exponent (x.value + y.value) (min x.exponent y.exponent) =
      min x.exponent y.exponent := by
    simp only [Context.default]
    split
    · rfl
    · rename_i nonzero
      have log : Int.log 10 |x.value + y.value| < 22 :=
        (Int.lt_zpow_iff_log_lt (by norm_num) (abs_pos.mpr nonzero)).mp (by exact_mod_cast small)
      exact max_eq_left (by omega)
  simp only [Context.add]
  rw [show Context.default.round = significant 28 from rfl, same, exponent]
  rfl

theorem revenue_default {jobs : List (JobDispatch Timestamp)} {gross : Amount}
    (whole : Multiple 4 gross.value) (exponent : -4 ≤ gross.exponent)
    (small : |gross.value| + jobs.length * 10 ^ 8 ≤ 10 ^ 22) :
    T.revenue .default gross jobs = T.revenue .exact gross jobs := by
  induction jobs generalizing gross with
  | nil => rfl
  | cons job jobs ih =>
      obtain ⟨wholePrice, smallPrice⟩ := price_bound (T := T) job.jobType
      have low : -4 ≤ (T.priced job).exponent := by
        simp only [Tables.priced, priceAmount]
        split <;> decide
      have triangle : |gross.value + (T.priced job).value| ≤ |gross.value| + _ := abs_add_le _ _
      have priced : (T.priced job).value = price T.pricing job.jobType := rfl
      rw [priced] at triangle
      rw [List.length_cons, Nat.cast_succ] at small
      have rest : (0 : ℚ) ≤ jobs.length := Nat.cast_nonneg _
      have step : Context.default.add gross (T.priced job) =
          Context.exact.add gross (T.priced job) :=
        add_default (whole.add wholePrice) (by rw [priced]; linarith) exponent low
      change T.revenue .default (Context.default.add gross (T.priced job)) jobs =
        T.revenue .exact (Context.exact.add gross (T.priced job)) jobs
      rw [step]
      apply ih
      · exact whole.add wholePrice
      · exact le_min exponent low
      · change |gross.value + price T.pricing job.jobType| + _ ≤ _
        linarith

theorem worth_bound (T : Tables) (jobs : List (JobDispatch Timestamp)) :
    Multiple 4 (T.worth jobs) ∧ |T.worth jobs| ≤ jobs.length * 10 ^ 8 := by
  induction jobs with
  | nil => exact ⟨Multiple.zero 4, by rw [Tables.worth_nil, abs_zero]; positivity⟩
  | cons job jobs ih =>
      obtain ⟨wholePrice, smallPrice⟩ := price_bound (T := T) job.jobType
      have triangle := abs_add_le (price T.pricing job.jobType) (T.worth jobs)
      rw [Tables.worth_cons, List.length_cons, Nat.cast_succ]
      exact ⟨wholePrice.add ih.1, by linarith [ih.2]⟩

theorem share_default {x : Decimal} (whole : Multiple 4 x) (small : |x| < 10 ^ 22) (percent : ℤ)
    (part : 0 ≤ percent ∧ percent ≤ 100) :
    significant 28 (x * (percent / 100)) = x * (percent / 100) := by
  obtain ⟨k, rfl⟩ := whole
  have share : |((percent : ℚ) / 100)| ≤ 1 := by
    have low : (0 : ℚ) ≤ percent := by exact_mod_cast part.1
    have high : (percent : ℚ) ≤ 100 := by exact_mod_cast part.2
    rw [abs_of_nonneg (by positivity)]
    linarith
  have product : Multiple 6 ((k : ℚ) / 10 ^ 4 * (percent / 100)) :=
    ⟨k * percent, by push_cast; ring⟩
  apply significant_multiple product
  rw [abs_mul]
  have bound := mul_le_mul le_rfl share (abs_nonneg _) (abs_nonneg ((k : ℚ) / 10 ^ 4))
  linarith

theorem summary_default (few : T.jobs.length < 10 ^ 14) (nodeId : Uuid) :
    T.summary .default month nodeId = T.summary .exact month nodeId := by
  have length : (T.earning month nodeId).length ≤ T.jobs.length :=
    ((List.filter_sublist).trans List.filter_sublist).length_le
  have count : ((T.earning month nodeId).length : ℚ) * 10 ^ 8 < 10 ^ 22 := by
    have below : ((T.earning month nodeId).length : ℚ) < 10 ^ 14 := by
      exact_mod_cast lt_of_le_of_lt length few
    linarith
  have same : T.revenue .default ⟨0, 0⟩ (T.earning month nodeId) =
      T.revenue .exact ⟨0, 0⟩ (T.earning month nodeId) :=
    revenue_default (Multiple.zero 4) (by decide) (by rw [abs_zero, zero_add]; exact count.le)
  obtain ⟨whole, small⟩ := worth_bound T (T.earning month nodeId)
  have value : (T.revenue .exact ⟨0, 0⟩ (T.earning month nodeId)).value =
      T.worth (T.earning month nodeId) := (revenue_exact _ _).trans (zero_add _)
  have operator := share_default whole (small.trans_lt count) 70 (by decide)
  have platform := share_default whole (small.trans_lt count) 30 (by decide)
  unfold Tables.summary
  simp only [same, value]
  have round : Context.default.round = significant 28 := rfl
  rw [round, show OPERATOR_SHARE = ((70 : ℤ) : ℚ) / 100 by norm_num [OPERATOR_SHARE],
    show PLATFORM_SHARE = ((30 : ℤ) : ℚ) / 100 by norm_num [PLATFORM_SHARE], operator, platform]
  rfl

theorem report_default (few : T.jobs.length < 10 ^ 14) (month : Date) :
    generatePayoutReport .default T month = generatePayoutReport .exact T month := by
  by_cases last : LastMonth month
  · rw [generatePayoutReport_last last, generatePayoutReport_last last]
  · rw [generatePayoutReport_eq last, generatePayoutReport_eq last]
    exact congrArg Except.ok (List.map_congr_left fun nodeId _ => summary_default few nodeId)

end Exact

/-! ## The partition -/

/-- The report of `month` has `summary`, and `job` is one of the jobs it is made from. -/
def Counts (T : Tables) (month : Date) (summary : PayoutSummary) (job : JobDispatch Timestamp) :
    Prop :=
  ∃ report jobs, generatePayoutReport .exact T month = .ok report ∧ summary ∈ report ∧
    getCompletedJobs T summary.nodeId month = .ok jobs ∧ job ∈ jobs

/-- `jobs` are `count` different jobs whose prices add up to `gross`. -/
def SoldFor (T : Tables) (jobs : List (JobDispatch Timestamp)) (count : ℕ) (gross : Decimal) :
    Prop :=
  jobs.Nodup ∧ jobs.length = count ∧ ∃ prices,
    jobs.mapM (fun job => getJobPrice T.pricing job.jobType) = .ok prices ∧ prices.sum = gross

structure Partition (T : Tables) : Prop where
  once : ∀ job ∈ T.jobs, ∀ t, job.status = .COMPLETED → job.completedAt = some t →
    ¬ LastMonth t.date → ∃ summary, summary.nodeId = job.nodeId ∧
      ∀ month other, Counts T month other job ↔ month.SameMonth t.date ∧ other = summary
  only : ∀ month summary job, Counts T month summary job → job ∈ T.jobs ∧
    job.status = .COMPLETED ∧ ∃ t, job.completedAt = some t ∧ ¬ LastMonth t.date
  reports : ∀ month, ¬ LastMonth month → ∃ report,
    generatePayoutReport .exact T month = .ok report ∧ DistinctKeys PayoutSummary.nodeId report
  whole : ∀ month report, generatePayoutReport .exact T month = .ok report →
    SoldFor T (T.completed month) (T.completed month).length
      (report.map fun s => s.grossRevenue.value).sum
  each : ∀ month report, generatePayoutReport .exact T month = .ok report → ∀ s ∈ report,
    s.operatorEarnings + s.platformFee = s.grossRevenue.value ∧
    ∃ jobs, getCompletedJobs T s.nodeId month = .ok jobs ∧
      SoldFor T jobs s.totalJobs s.grossRevenue.value
  anyDay : ∀ month other, month.SameMonth other →
    generatePayoutReport .exact T month = generatePayoutReport .exact T other

section Partition
variable {T : Tables} {month : Date}

theorem report_eq_ok {context : Context} {report : List PayoutSummary}
    (h : generatePayoutReport context T month = .ok report) :
    ¬ LastMonth month ∧ report = (T.active month).map (T.summary context month) := by
  by_cases last : LastMonth month
  · rw [generatePayoutReport_last last] at h
    cases h
  · rw [generatePayoutReport_eq last] at h
    exact ⟨last, (Except.ok.inj h).symm⟩

theorem soldFor {jobs : List (JobDispatch Timestamp)} (inside : ∀ job ∈ jobs, job ∈ T.jobs)
    (once : jobs.Nodup) : SoldFor T jobs jobs.length (T.worth jobs) := by
  refine ⟨once, rfl, jobs.map fun job => price T.pricing job.jobType, ?_, rfl⟩
  clear once
  induction jobs with
  | nil => rfl
  | cons job jobs ih =>
      have readable := T.jobTypes job (inside job List.mem_cons_self)
      rw [List.mapM_cons, Tables.getJobPrice_eq readable,
        ih fun other member => inside other (List.mem_cons_of_mem job member)]
      rfl

theorem counts_iff {summary : PayoutSummary} {job : JobDispatch Timestamp} :
    Counts T month summary job ↔ ¬ LastMonth month ∧ job ∈ T.completed month ∧
      summary = T.summary .exact month job.nodeId := by
  constructor
  · rintro ⟨report, jobs, ran, member, fetched, inside⟩
    obtain ⟨earlier, rfl⟩ := report_eq_ok ran
    obtain ⟨nodeId, _, rfl⟩ := List.mem_map.mp member
    rw [getCompletedJobs_eq T _ earlier] at fetched
    obtain rfl := Except.ok.inj fetched
    obtain ⟨completed, same⟩ := Tables.mem_earning.mp inside
    have node : job.nodeId = nodeId := same
    exact ⟨earlier, completed, by rw [node]⟩
  · rintro ⟨earlier, completed, rfl⟩
    refine ⟨_, _, generatePayoutReport_eq earlier, ?_, getCompletedJobs_eq T _ earlier, ?_⟩
    · exact List.mem_map.mpr ⟨_, Tables.mem_active.mpr ⟨job, completed, rfl⟩, rfl⟩
    · exact Tables.mem_earning.mpr ⟨completed, rfl⟩

theorem lastMonth_congr {other : Date} (same : month.SameMonth other) :
    LastMonth month ↔ LastMonth other := by
  unfold LastMonth
  rw [same.1, same.2]

theorem nodup_completed (month : Date) : (T.completed month).Nodup :=
  (T.jobKeys.of_map _).filter _

theorem reports_partition (T : Tables) :
    Partition T ∧ (T.jobs.length < 10 ^ 14 → ∀ month,
      generatePayoutReport .default T month = generatePayoutReport .exact T month) := by
  refine ⟨?_, report_default⟩
  constructor
  case once =>
    intro job member t completed at_t earlier
    refine ⟨T.summary .exact t.date job.nodeId, rfl, fun month other => ?_⟩
    rw [counts_iff, Tables.mem_completed]
    constructor
    · rintro ⟨_, ⟨_, _, t', at_t', same⟩, rfl⟩
      rw [at_t, Option.some.injEq] at at_t'
      subst at_t'
      exact ⟨same.symm, Tables.summary_congr .exact same.symm job.nodeId⟩
    · rintro ⟨same, rfl⟩
      rw [lastMonth_congr same]
      refine ⟨earlier, ⟨member, completed, t, at_t, same.symm⟩, ?_⟩
      exact Tables.summary_congr .exact same.symm job.nodeId
  case only =>
    intro month summary job counted
    obtain ⟨earlier, inside, _⟩ := counts_iff.mp counted
    obtain ⟨member, completed, t, at_t, same⟩ := Tables.mem_completed.mp inside
    exact ⟨member, completed, t, at_t, by rwa [lastMonth_congr same]⟩
  case reports =>
    intro month earlier
    refine ⟨_, generatePayoutReport_eq earlier, ?_⟩
    unfold DistinctKeys
    rw [List.map_map]
    exact (Tables.active_nodup month).map fun _ _ same => same
  case whole =>
    intro month report ran
    obtain ⟨_, rfl⟩ := report_eq_ok ran
    rw [sum_gross_exact]
    exact soldFor (fun job inside => (Tables.mem_completed.mp inside).1) (nodup_completed month)
  case each =>
    intro month report ran s member
    obtain ⟨earlier, rfl⟩ := report_eq_ok ran
    obtain ⟨nodeId, _, rfl⟩ := List.mem_map.mp member
    refine ⟨split_exact nodeId, _, getCompletedJobs_eq T _ earlier, ?_⟩
    rw [gross_exact]
    exact soldFor (fun job => Tables.earning_subset) ((nodup_completed month).filter _)
  case anyDay =>
    intro month other same
    by_cases last : LastMonth month
    · rw [generatePayoutReport_last last,
        generatePayoutReport_last ((lastMonth_congr same).mp last)]
    · rw [generatePayoutReport_eq last,
        generatePayoutReport_eq (fun h => last ((lastMonth_congr same).mpr h))]
      unfold Tables.active
      rw [Tables.completed_congr same]
      exact congrArg Except.ok
        (List.map_congr_left fun nodeId _ => Tables.summary_congr .exact same nodeId)

end Partition
end RenderTrust.Billing
