import Mathlib.Algebra.BigOperators.Group.List.Basic
import RenderTrust.Ledger.Models
import RenderTrust.Lib.Uuid

/-!
# `core/billing/webhook.py`

The usage events of AgentSpace and the three entries posted for each, over the tables of
`migrations/20240501_usage_events.sql`. The module `db` is not in the repository: what it makes of
the text of an event's identifier is a parameter, its arithmetic is exact.
-/
namespace RenderTrust.Billing
open Ledger Lib Lib.Rounding

def PLATFORM_FEE : Decimal := 15 / 100

/-- USD. -/
def THRESHOLD : Decimal := 1000

structure UsagePayload where
  eventId : String
  moduleId : String
  creatorId : String
  units : ℤ
  unitPriceUsd : Decimal
  deriving DecidableEq

/-- A row of `usage_events`, with what its columns promise. -/
structure UsageEvent where
  eventId : Uuid
  moduleId : String
  creatorId : String
  units : ℤ
  unitPriceUsd : Decimal
  grossUsd : Decimal
  price : Multiple 4 unitPriceUsd
  generated : fixed 12 4 (units * unitPriceUsd) = some grossUsd
  texts : bindable moduleId ∧ bindable creatorId
  deriving DecidableEq

/-- The row the columns take for an event; `none` is a `DataError`. -/
def UsageEvent.stored (eventId : Uuid) (payload : UsagePayload) : Option UsageEvent :=
  match rounded : fixed 10 4 payload.unitPriceUsd with
  | none => none
  | some unitPriceUsd =>
      match generated : fixed 12 4 (payload.units * unitPriceUsd) with
      | none => none
      | some grossUsd =>
          if texts : (-(2 ^ 31) ≤ payload.units ∧ payload.units < 2 ^ 31) ∧
              bindable payload.moduleId ∧ bindable payload.creatorId then
            some {
              eventId := eventId
              moduleId := payload.moduleId
              creatorId := payload.creatorId
              units := payload.units
              unitPriceUsd := unitPriceUsd
              grossUsd := grossUsd
              price := (Multiple.of_fixed rounded).1
              generated := generated
              texts := texts.2 }
          else none

/-- A row of `ledger_entries`. -/
structure LedgerEntry where
  accountId : String
  deltaUsd : Decimal
  deriving DecidableEq, Repr

def LedgerEntry.stored (entry : LedgerEntry) : Option LedgerEntry :=
  match numeric entry.deltaUsd with
  | some deltaUsd => if bindable entry.accountId then some { entry with deltaUsd } else none
  | none => none

structure UsageTables where
  usageEvents : List UsageEvent
  ledgerEntries : List LedgerEntry
  deriving DecidableEq

def sales (events : List UsageEvent) (moduleId : String) : Decimal :=
  ((events.filter fun event => event.moduleId = moduleId).map UsageEvent.grossUsd).sum

/-- The fee of the last of the events, among the sales of its module. -/
def feeOf (events : List UsageEvent) (ue : UsageEvent) : Decimal :=
  let totalSales := sales events ue.moduleId
  let feeRate := if totalSales < THRESHOLD then 0 else PLATFORM_FEE
  ue.grossUsd * feeRate

def postings (events : List UsageEvent) (ue : UsageEvent) : List LedgerEntry :=
  let gross := ue.grossUsd
  let fee := feeOf events ue
  [⟨ue.creatorId, -gross⟩, ⟨"module:" ++ ue.moduleId, gross - fee⟩, ⟨"wtfb_platform", fee⟩]

inductive UsageStatus where
  | ok
  | ignored
  deriving DecidableEq, Repr

/-- A request that raises has no status; its session is closed without a commit. -/
def usageWebhook (column : String → Option Uuid) (T : UsageTables) (payload : UsagePayload) :
    Option (UsageStatus × UsageTables) := do
  let eid ← column payload.eventId
  if T.usageEvents.any fun event => event.eventId = eid then return (.ignored, T)
  let ue ← UsageEvent.stored eid payload
  let usageEvents := T.usageEvents ++ [ue]
  let entries ← (postings usageEvents ue).mapM LedgerEntry.stored
  return (.ok, { usageEvents, ledgerEntries := T.ledgerEntries ++ entries })

/-- The tables after a request. -/
def afterUsage (column : String → Option Uuid) (T : UsageTables) (payload : UsagePayload) :
    UsageTables :=
  match usageWebhook column T payload with
  | some (_, T') => T'
  | none => T

def usageHistory (column : String → Option Uuid) (history : List UsagePayload) : UsageTables :=
  history.foldl (afterUsage column) ⟨[], []⟩

/-! ## One event -/

/-- The row the columns make of an entry that fits. -/
def LedgerEntry.rounded (entry : LedgerEntry) : LedgerEntry :=
  { entry with deltaUsd := roundHalfAway (entry.deltaUsd * 10 ^ 4) / 10 ^ 4 }

section Event
variable {eventId : Uuid} {payload : UsagePayload} {events : List UsageEvent} {ue : UsageEvent}

theorem UsageEvent.eventId_of_stored (h : UsageEvent.stored eventId payload = some ue) :
    ue.eventId = eventId := by
  unfold stored at h
  split at h
  · cases h
  · split at h
    · cases h
    · split at h
      · exact congrArg UsageEvent.eventId (Option.some.inj h).symm
      · cases h

theorem UsageEvent.exists_gross (ue : UsageEvent) :
    ∃ k : ℤ, ue.grossUsd = k / 10 ^ 4 ∧ |k| < 10 ^ 12 := by
  obtain ⟨⟨k, value⟩, small⟩ := Multiple.of_fixed ue.generated
  rw [value, abs_scaled_intCast] at small
  exact ⟨k, value, by exact_mod_cast small⟩

theorem feeOf_eq (events : List UsageEvent) (ue : UsageEvent) :
    feeOf events ue = 0 ∨ feeOf events ue = ue.grossUsd * (15 / 100) := by
  unfold feeOf
  dsimp only
  split
  · left
    exact mul_zero _
  · right
    rfl

theorem LedgerEntry.stored_of_le (ue : UsageEvent) {entry : LedgerEntry}
    (text : bindable entry.accountId) (le : |entry.deltaUsd| ≤ |ue.grossUsd|) :
    entry.stored = some entry.rounded := by
  obtain ⟨k, gross, small⟩ := ue.exists_gross
  have scaled : |entry.deltaUsd * 10 ^ 4| ≤ ((|k| : ℤ) : ℚ) := by
    rw [abs_mul, abs_of_pos (show (0 : ℚ) < 10 ^ 4 by norm_num), ← abs_scaled_intCast 4 k, ← gross]
    exact mul_le_mul_of_nonneg_right le (by norm_num)
  have fits : |roundHalfAway (entry.deltaUsd * 10 ^ 4)| < 10 ^ 12 :=
    lt_of_le_of_lt (abs_roundHalfAway_le scaled) small
  have held : numeric entry.deltaUsd = some entry.rounded.deltaUsd := if_pos fits
  delta stored
  rw [held]
  exact if_pos text

/-- An event that is stored has its entries stored: they are no larger than its gross. -/
theorem stored_postings (events : List UsageEvent) (ue : UsageEvent) :
    (postings events ue).mapM LedgerEntry.stored =
      some ((postings events ue).map LedgerEntry.rounded) := by
  have gross := abs_nonneg ue.grossUsd
  have fee : |feeOf events ue| ≤ |ue.grossUsd| ∧
      |ue.grossUsd - feeOf events ue| ≤ |ue.grossUsd| := by
    rcases feeOf_eq events ue with none | charged
    · rw [none, abs_zero, sub_zero]
      exact ⟨gross, le_rfl⟩
    · have rest : ue.grossUsd - ue.grossUsd * (15 / 100) = ue.grossUsd * (85 / 100) := by ring
      rw [charged, rest, abs_mul, abs_mul]
      norm_num
      constructor <;> linarith
  have creator : LedgerEntry.stored ⟨ue.creatorId, -ue.grossUsd⟩ = some _ :=
    LedgerEntry.stored_of_le ue ue.texts.2 (abs_neg _).le
  have module : LedgerEntry.stored ⟨"module:" ++ ue.moduleId, ue.grossUsd - feeOf events ue⟩ =
      some _ :=
    LedgerEntry.stored_of_le ue (bindable_append (show bindable "module:" by decide) ue.texts.1)
      fee.2
  have platform : LedgerEntry.stored ⟨"wtfb_platform", feeOf events ue⟩ = some _ :=
    LedgerEntry.stored_of_le ue (show bindable "wtfb_platform" by decide) fee.1
  simp [postings, creator, module, platform]

/-! The two parts of a gross of `k` units of 0.0001 are half-way when the fee is, 15 k / 100. -/

theorem tie_fee (k : ℤ) : Tie ((k : ℚ) * (15 / 100)) ↔ k % 20 = 10 := by
  rw [tie_iff]
  have units : ∀ n : ℤ, (k : ℚ) * (15 / 100) = n + 1 / 2 ↔ 3 * k = 20 * n + 10 := by
    intro n
    rw [← Int.cast_inj (α := ℚ)]
    push_cast
    constructor <;> intro h <;> linarith
  simp only [units]
  constructor
  · intro ⟨n, h⟩
    omega
  · intro h
    exact ⟨3 * (k / 20) + 1, by omega⟩

/-- Half-way parts do not make up the whole, whatever the sign of the gross. -/
theorem parts_of_tie {k : ℤ} (tie : Tie ((k : ℚ) * (15 / 100))) :
    roundHalfAway ((k : ℚ) - k * (15 / 100)) + roundHalfAway ((k : ℚ) * (15 / 100)) ≠ k := by
  rcases le_total 0 k with pos | neg
  · have pos' : (0 : ℚ) ≤ k := by exact_mod_cast pos
    have more := roundHalfAway_tied (k := k) tie (by linarith) (by linarith)
    omega
  · have neg' : (k : ℚ) ≤ 0 := by exact_mod_cast neg
    have opposite : Tie (((-k : ℤ) : ℚ) * (15 / 100)) := by
      rw [Int.cast_neg, neg_mul]
      exact tie.neg
    have more := roundHalfAway_tied (k := -k) opposite (by push_cast; linarith)
      (by push_cast; linarith)
    rw [Int.cast_neg, neg_mul, ← neg_sub', roundHalfAway_neg, roundHalfAway_neg] at more
    omega

/-- The fee is half-way for an odd number of tenths of a cent, here in units of 0.0001. -/
theorem halfway_iff {k : ℤ} {gross : ℚ} (units : gross = k / 10 ^ 4) :
    (∃ m : ℤ, gross = (2 * m + 1) / 1000) ↔ Tie ((k : ℚ) * (15 / 100)) := by
  rw [tie_fee, units]
  constructor
  · intro ⟨m, odd⟩
    have scaled : (k : ℚ) = ((20 * m + 10 : ℤ) : ℚ) := by
      push_cast
      linarith
    have whole : k = 20 * m + 10 := Int.cast_injective scaled
    omega
  · intro tie
    refine ⟨k / 20, ?_⟩
    have whole : k = 20 * (k / 20) + 10 := by omega
    have scaled : (k : ℚ) = 20 * ((k / 20 : ℤ) : ℚ) + 10 := by exact_mod_cast whole
    linarith

/-- The sum of the entries as they are stored, for a gross of `k` units of 0.0001. -/
theorem sum_rounded (events : List UsageEvent) {k : ℤ} (whole : ue.grossUsd * 10 ^ 4 = k) :
    (((postings events ue).map LedgerEntry.rounded).map LedgerEntry.deltaUsd).sum =
      ((roundHalfAway ((k : ℚ) - feeOf events ue * 10 ^ 4) +
        roundHalfAway (feeOf events ue * 10 ^ 4) - k : ℤ) : ℚ) / 10 ^ 4 := by
  have rest : (ue.grossUsd - feeOf events ue) * 10 ^ 4 = (k : ℚ) - feeOf events ue * 10 ^ 4 := by
    rw [sub_mul, whole]
  simp only [postings, LedgerEntry.rounded, List.map_cons, List.map_nil, List.sum_cons,
    List.sum_nil, neg_mul, whole, roundHalfAway_neg, roundHalfAway_intCast, rest]
  push_cast
  ring

/-- The entries of an event, as they are stored, add up to 0 unless the fee is half-way. -/
theorem sum_postings (events : List UsageEvent) (ue : UsageEvent) :
    (((postings events ue).map LedgerEntry.rounded).map LedgerEntry.deltaUsd).sum = 0 ↔
      ¬ (THRESHOLD ≤ sales events ue.moduleId ∧ ∃ m : ℤ, ue.grossUsd = (2 * m + 1) / 1000) := by
  obtain ⟨k, gross, -⟩ := ue.exists_gross
  have whole : ue.grossUsd * 10 ^ 4 = k := by rw [gross, scaled_intCast]
  have zero : ∀ n : ℤ, ((n : ℤ) : ℚ) / 10 ^ 4 = 0 ↔ n = 0 := by
    intro n
    rw [div_eq_zero_iff, Int.cast_eq_zero]
    norm_num
  rw [sum_rounded events whole, halfway_iff gross, zero]
  by_cases charged : sales events ue.moduleId < THRESHOLD
  · have none : feeOf events ue * 10 ^ 4 = ((0 : ℤ) : ℚ) := by
      simp [feeOf, charged]
    rw [none, Int.cast_zero, sub_zero, roundHalfAway_intCast, ← Int.cast_zero (R := ℚ),
      roundHalfAway_intCast]
    simp [charged]
  · have fee : feeOf events ue * 10 ^ 4 = (k : ℚ) * (15 / 100) := by
      simp only [feeOf, charged, if_false, PLATFORM_FEE]
      rw [← whole]
      ring
    rw [fee]
    simp only [not_lt.mp charged, true_and]
    constructor
    · intro balanced tie
      exact parts_of_tie tie (by omega)
    · intro untied
      rw [roundHalfAway_parts untied, sub_self]

end Event

/-! ## Histories -/

/-- The entries of a list of events, three for each, after those of the events before. -/
def journal : List UsageEvent → List UsageEvent → List LedgerEntry
  | _, [] => []
  | before, ue :: rest =>
      (postings (before ++ [ue]) ue).map LedgerEntry.rounded ++ journal (before ++ [ue]) rest

theorem journal_concat (before events : List UsageEvent) (ue : UsageEvent) :
    journal before (events ++ [ue]) = journal before events ++
      (postings (before ++ events ++ [ue]) ue).map LedgerEntry.rounded := by
  induction events generalizing before with
  | nil => simp [journal]
  | cons first rest ih =>
      rw [List.cons_append, journal, ih, journal]
      simp only [List.append_assoc, List.cons_append, List.nil_append]

def totalDelta (T : UsageTables) : Decimal := (T.ledgerEntries.map LedgerEntry.deltaUsd).sum

/-- The tables have one event, and its three entries, for each identifier of the history that
came with a row the columns take. -/
structure Booked (column : String → Option Uuid) (history : List UsagePayload) (T : UsageTables) :
    Prop where
  once : (T.usageEvents.map UsageEvent.eventId).Nodup
  three : T.ledgerEntries = journal [] T.usageEvents
  every : ∀ payload ∈ history, ∀ eid, column payload.eventId = some eid →
    eid ∈ T.usageEvents.map UsageEvent.eventId ∨ UsageEvent.stored eid payload = none
  only : ∀ ue ∈ T.usageEvents, ∃ payload ∈ history,
    column payload.eventId = some ue.eventId ∧ UsageEvent.stored ue.eventId payload = some ue

/-- The request brings a new event that is charged a fee and whose gross is an odd number of
thousandths of a dollar: the fee and what is left of the gross are then half-way. -/
def OddMills (column : String → Option Uuid) (T : UsageTables) (payload : UsagePayload) : Prop :=
  ∃ eid ue, column payload.eventId = some eid ∧ eid ∉ T.usageEvents.map UsageEvent.eventId ∧
    UsageEvent.stored eid payload = some ue ∧
    THRESHOLD ≤ sales (T.usageEvents ++ [ue]) ue.moduleId ∧
    ∃ m : ℤ, ue.grossUsd = (2 * m + 1) / 1000

/-- What one request does to the tables. -/
inductive Received (column : String → Option Uuid) (T : UsageTables) (payload : UsagePayload) :
    UsageTables → Prop
  | kept (none : ∀ eid, column payload.eventId = some eid →
      eid ∉ T.usageEvents.map UsageEvent.eventId → UsageEvent.stored eid payload = none) :
      Received column T payload T
  | posted {eid : Uuid} {ue : UsageEvent} (read : column payload.eventId = some eid)
      (new : eid ∉ T.usageEvents.map UsageEvent.eventId)
      (stored : UsageEvent.stored eid payload = some ue) :
      Received column T payload {
        usageEvents := T.usageEvents ++ [ue]
        ledgerEntries := T.ledgerEntries ++
          (postings (T.usageEvents ++ [ue]) ue).map LedgerEntry.rounded }

theorem received (column : String → Option Uuid) (T : UsageTables) (payload : UsagePayload) :
    Received column T payload (afterUsage column T payload) := by
  unfold afterUsage usageWebhook
  cases read : column payload.eventId with
  | none => exact .kept (by simp [read])
  | some eid =>
      by_cases known : eid ∈ T.usageEvents.map UsageEvent.eventId
      · have found : (T.usageEvents.any fun event => event.eventId = eid) = true := by
          simpa using known
        simp only [Option.bind_eq_bind, Option.bind_some, found, if_true, Option.pure_def]
        exact .kept fun other same new =>
          absurd (Option.some.inj (read.symm.trans same) ▸ known) new
      · have absent : (T.usageEvents.any fun event => event.eventId = eid) = false := by
          simpa using known
        cases stored : UsageEvent.stored eid payload with
        | none =>
            simp only [Option.bind_eq_bind, Option.bind_some, absent, Bool.false_eq_true, if_false,
              stored, Option.bind_none]
            exact .kept fun other same _ => Option.some.inj (read.symm.trans same) ▸ stored
        | some ue =>
            simp only [Option.bind_eq_bind, Option.bind_some, absent, Bool.false_eq_true, if_false,
              stored, stored_postings, Option.pure_def]
            exact .posted read known stored

section Runs
variable {column : String → Option Uuid} {history : List UsagePayload} {payload : UsagePayload}
  {T T' : UsageTables}

theorem Booked.received (booked : Booked column history T) (h : Received column T payload T') :
    Booked column (history ++ [payload]) T' := by
  cases h with
  | kept none =>
      refine ⟨booked.once, booked.three, ?_, ?_⟩
      · intro p member eid read
        rcases List.mem_append.mp member with before | last
        · exact booked.every p before eid read
        · rw [List.mem_singleton] at last
          subst last
          by_cases known : eid ∈ T.usageEvents.map UsageEvent.eventId
          · exact Or.inl known
          · exact Or.inr (none eid read known)
      · intro ue member
        obtain ⟨p, before, from_p⟩ := booked.only ue member
        exact ⟨p, List.mem_append_left _ before, from_p⟩
  | @posted eid ue read new stored =>
      have same := UsageEvent.eventId_of_stored stored
      have ids : (T.usageEvents ++ [ue]).map UsageEvent.eventId =
          T.usageEvents.map UsageEvent.eventId ++ [eid] := by
        simp [same]
      refine ⟨?_, ?_, ?_, ?_⟩
      · rw [ids]
        exact List.nodup_append.mpr ⟨booked.once, List.nodup_singleton _, by
          intro a ha b hb
          rw [List.mem_singleton] at hb
          exact fun eq => new (hb ▸ eq ▸ ha)⟩
      · simp only [booked.three, journal_concat, List.nil_append]
      · intro p member eid' read'
        rw [ids, List.mem_append, List.mem_singleton]
        rcases List.mem_append.mp member with before | last
        · rcases booked.every p before eid' read' with known | none
          · exact Or.inl (Or.inl known)
          · exact Or.inr none
        · rw [List.mem_singleton] at last
          subst last
          exact Or.inl (Or.inr (Option.some.inj (read'.symm.trans read)))
      · intro other member
        rcases List.mem_append.mp member with before | last
        · obtain ⟨p, earlier, from_p⟩ := booked.only other before
          exact ⟨p, List.mem_append_left _ earlier, from_p⟩
        · rw [List.mem_singleton] at last
          subst last
          exact ⟨payload, by simp, same ▸ read, same ▸ stored⟩

theorem totalDelta_received (zero : totalDelta T = 0) (h : Received column T payload T') :
    totalDelta T' = 0 ↔ ¬ OddMills column T payload := by
  cases h with
  | kept none =>
      have unposted : ¬ OddMills column T payload := by
        intro ⟨eid, ue, read, new, stored, _⟩
        rw [none eid read new] at stored
        cases stored
      exact iff_of_true zero unposted
  | @posted eid ue read new stored =>
      have odd : OddMills column T payload ↔
          THRESHOLD ≤ sales (T.usageEvents ++ [ue]) ue.moduleId ∧
            ∃ m : ℤ, ue.grossUsd = (2 * m + 1) / 1000 := by
        constructor
        · intro ⟨eid', ue', read', _, stored', condition⟩
          obtain rfl := Option.some.inj (read.symm.trans read')
          obtain rfl := Option.some.inj (stored.symm.trans stored')
          exact condition
        · intro condition
          exact ⟨eid, ue, read, new, stored, condition⟩
      unfold totalDelta at zero ⊢
      rw [odd, List.map_append, List.sum_append, zero, zero_add]
      exact sum_postings (T.usageEvents ++ [ue]) ue

theorem usageHistory_concat (column : String → Option Uuid) (history : List UsagePayload)
    (payload : UsagePayload) :
    usageHistory column (history ++ [payload]) =
      afterUsage column (usageHistory column history) payload := by
  rw [usageHistory, List.foldl_append]
  rfl

theorem booked_history (column : String → Option Uuid) (history : List UsagePayload) :
    Booked column history (usageHistory column history) := by
  induction history using List.reverseRecOn with
  | nil =>
      exact ⟨List.nodup_nil, rfl, by simp, by simp [usageHistory]⟩
  | append_singleton history payload ih =>
      rw [usageHistory_concat]
      exact ih.received (received column _ payload)

end Runs

/-- After each request of a history the entries add up to 0 and each identifier has three of
them, exactly when no request brings a gross that rounding splits unevenly. -/
theorem usage_balanced_iff (column : String → Option Uuid) (history : List UsagePayload) :
    (∀ n, totalDelta (usageHistory column (history.take n)) = 0 ∧
        Booked column (history.take n) (usageHistory column (history.take n))) ↔
      ∀ n payload, history[n]? = some payload →
        ¬ OddMills column (usageHistory column (history.take n)) payload := by
  have next : ∀ n payload, history[n]? = some payload →
      usageHistory column (history.take (n + 1)) =
        afterUsage column (usageHistory column (history.take n)) payload := by
    intro n payload at_n
    rw [List.take_add_one, at_n, Option.toList_some, usageHistory_concat]
  constructor
  · intro holds n payload at_n
    have after := (holds (n + 1)).1
    rw [next n payload at_n] at after
    exact (totalDelta_received (holds n).1 (received column _ payload)).mp after
  · intro even n
    refine ⟨?_, booked_history column _⟩
    induction n with
    | zero => rfl
    | succ n ih =>
        cases at_n : history[n]? with
        | none =>
            rw [List.take_add_one, at_n, Option.toList_none, List.append_nil]
            exact ih
        | some payload =>
            rw [next n payload at_n]
            exact (totalDelta_received ih (received column _ payload)).mpr (even n payload at_n)

/-- 1000.001 dollars: the fee is 150.00015, the rest 850.00085. -/
def oddUsage : UsagePayload := ⟨"event", "module", "creator", 1, 1000001 / 1000⟩

theorem usage_unbalanced :
    ¬ ∀ (column : String → Option Uuid) (history : List UsagePayload) (n : ℕ),
      totalDelta (usageHistory column (history.take n)) = 0 ∧
        Booked column (history.take n) (usageHistory column (history.take n)) := by
  intro holds
  have zero := (holds (fun _ => some 0) [oddUsage] 1).1
  exact absurd zero (by decide +kernel)

end RenderTrust.Billing
