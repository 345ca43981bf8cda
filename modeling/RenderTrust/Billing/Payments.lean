import RenderTrust.Billing.Report
import RenderTrust.Ledger.Outcomes

/-!
# What a payout run writes

`Pay` is what the loop of `execute_payouts` can do with one summary and `Paying` what it
can do with a report, as relations between the ledgers before and after. A payout that
the ledger does not take ends the run, so nothing else returns.
-/
namespace RenderTrust.Billing
open Ledger Lib Lib.Hoare Lib.Keyed

/-! ## The key of a payout -/

def payoutKey (nodeId : Uuid) (month : Date) : String × TransactionDirection :=
  (payoutReference nodeId month, .CREDIT)

theorem toList_payoutReference (nodeId : Uuid) (month : Date) :
    (payoutReference nodeId month).toList =
      "payout-".toList ++
        (nodeId.str.toList ++ ("-".toList ++ month.firstDay.isoformat.toList)) := by
  simp only [payoutReference, String.toList_append, List.append_assoc]

theorem payoutKey_eq_iff {nodeId other : Uuid} {month later : Date} :
    payoutKey nodeId month = payoutKey other later ↔ nodeId = other ∧ month.SameMonth later := by
  constructor
  · intro same
    have chars := congrArg String.toList (Prod.mk.inj same).1
    rw [toList_payoutReference, toList_payoutReference] at chars
    have rest := List.append_cancel_left chars
    have length : nodeId.str.toList.length = other.str.toList.length := by
      rw [String.length_toList, String.length_toList, Uuid.length_str, Uuid.length_str]
    obtain ⟨node, rest⟩ := List.append_inj rest length
    have text := List.append_cancel_left rest
    refine ⟨Uuid.str_inj (String.toList_inj.mp node), Date.firstDay_eq_iff.mp ?_⟩
    exact Date.isoformat_inj (String.toList_inj.mp text)
  · rintro ⟨rfl, same⟩
    rw [payoutKey, payoutReference, Date.firstDay_eq_iff.mpr same, payoutKey, payoutReference]

theorem length_payoutReference (nodeId : Uuid) (month : Date) :
    (payoutReference nodeId month).length = 54 := by
  rw [← String.length_toList, toList_payoutReference]
  simp only [List.length_append, String.length_toList, Uuid.length_str, Date.length_isoformat]
  rfl

/-! ## The texts of an entry can be stored -/

theorem bindable_of_plain {s : String} (plain : ∀ c ∈ s.toList, c ≠ Char.ofNat 0) :
    bindable s := by
  unfold bindable
  rw [Bool.not_eq_true', List.contains_eq_mem, decide_eq_false_iff_not]
  intro null
  exact plain _ null rfl

theorem isDigit_ne {c : Char} (digit : c.isDigit) : c ≠ Char.ofNat 0 := by
  rintro rfl
  exact absurd digit (by decide)

theorem bindable_isoformat (d : Date) : bindable d.isoformat := by
  apply bindable_of_plain
  intro c member
  rcases Date.mem_isoformat member with digit | rfl
  · exact isDigit_ne digit
  · decide

theorem bindable_str (nodeId : Uuid) : bindable nodeId.str := by
  apply bindable_of_plain
  intro c member
  exact Uuid.plain_str member

theorem bindable_natText (n : ℕ) : bindable (toString n) := by
  apply bindable_of_plain
  intro c member
  rw [Nat.toString_eq_repr, Nat.toList_repr] at member
  exact isDigit_ne (DecimalText.isDigit_toDigits member)

theorem bindable_decimalText (exponent : ℤ) (x : ℚ) : bindable (DecimalText.str exponent x) := by
  apply bindable_of_plain
  intro c member
  rcases DecimalText.mem_str member with digit | sign
  · exact isDigit_ne digit
  · rintro rfl
    exact absurd sign (by decide)

theorem bindable_payoutReference (nodeId : Uuid) (month : Date) :
    bindable (payoutReference nodeId month) :=
  bindable_append (bindable_append (bindable_append (by decide +kernel) (bindable_str nodeId))
    (by decide +kernel)) (bindable_isoformat _)

theorem bindable_description (month : Date) (summary : PayoutSummary) :
    (payoutArgs month summary).description.all bindable := by
  rw [payoutArgs, Option.all_some]
  refine bindable_append (bindable_append (bindable_append (bindable_append (bindable_append ?_
    (bindable_isoformat _)) ?_) (bindable_natText _)) ?_) (bindable_decimalText _ _)
  all_goals decide +kernel

/-! ## What one payout can do -/

def PayoutSummary.paid (summary : PayoutSummary) : PayoutSummary := { summary with isPaid := true }

def payoutCall (month : Date) (summary : PayoutSummary) : Call where
  direction := .CREDIT
  args := payoutArgs month summary

/-- The row of a payout over the ledger `db`, before it is rounded to its columns. -/
def payoutEntry (db : Database) (month : Date) (defaults : Uuid → Defaults)
    (summary : PayoutSummary) : CreditLedgerEntry :=
  newEntry .CREDIT (payoutArgs month summary) (defaults summary.nodeId)
    (decimalAdd (currentBalance (db.lastEntry summary.nodeId.val)) summary.operatorEarnings)

inductive Pay (month : Date) (defaults : Uuid → Defaults) (db : Database)
    (summary : PayoutSummary) : PayoutSummary → Database → Prop
  | skipped : summary.operatorEarnings ≤ 0 → Pay month defaults db summary summary db
  | replayed {e} : 0 < summary.operatorEarnings → e ∈ db.entries →
      e.key = payoutKey summary.nodeId month → Pay month defaults db summary summary.paid db
  | posted {row} : 0 < summary.operatorEarnings →
      (∀ e ∈ db.entries, e.key ≠ payoutKey summary.nodeId month) →
      (payoutEntry db month defaults summary).stored = some row →
      db.Checks row → db.Unique row → Pay month defaults db summary summary.paid (db.append row)

inductive Paying (month : Date) (defaults : Uuid → Defaults) :
    Database → List PayoutSummary → List PayoutSummary → Database → Prop
  | nil (db : Database) : Paying month defaults db [] [] db
  | cons {db db' db'' : Database} {summary result : PayoutSummary}
      {rest results : List PayoutSummary} : Pay month defaults db summary result db' →
      Paying month defaults db' rest results db'' →
      Paying month defaults db (summary :: rest) (result :: results) db''

section Session
variable {month : Date} {defaults : Uuid → Defaults} {s t : Session}
  {summary result : PayoutSummary}

theorem pay_of_run (sees : s.committed.entries ⊆ s.working.entries)
    (h : (executePayout month defaults summary).run s = .ok result t) :
    Pay month defaults s.working summary result t.working ∧
      t = { s with working := t.working } := by
  unfold executePayout at h
  split at h
  · rename_i small
    cases h
    exact ⟨.skipped small, rfl⟩
  · rename_i large
    have positive := not_le.mp large
    have all := (payoutCall month summary).run_posting (defaults summary.nodeId) s
    change EStateM.run ((payoutCall month summary).run (defaults summary.nodeId) >>= fun _ =>
      (pure summary.paid : LedgerM PayoutSummary)) s = .ok result t at h
    rw [EStateM.run_bind] at h
    generalize ((payoutCall month summary).run (defaults summary.nodeId)).run s = r at all h
    cases all with
    | rejected small => exact absurd positive (not_lt.mpr small)
    | unreadable => cases h
    | replayed _ found =>
        cases h
        obtain ⟨member, same⟩ := Call.mem_of_existing found
        exact ⟨.replayed positive member same, rfl⟩
    | refused => cases h
    | posted _ found settled inserted =>
        cases h
        obtain rfl := Except.ok.inj settled
        obtain ⟨row, stored, checks, unique, rfl⟩ := Database.insert_eq_ok inserted
        exact ⟨.posted positive (Call.free_of_existing found) stored checks unique, rfl⟩
    | unstorable => cases h
    | conflicting _ found =>
        cases again : (s.committed.byReference (payoutReference summary.nodeId month) .CREDIT).bind
            scalarOne with
        | error e =>
            simp only [payoutCall, payoutArgs] at h
            rw [again] at h
            cases h
        | ok row =>
            obtain ⟨member, same⟩ := Call.mem_of_reselected (c := payoutCall month summary) again
            exact absurd same (Call.free_of_existing found row (sees member))

theorem run_of_pay (valid : s.working.Valid) {db : Database}
    (h : Pay month defaults s.working summary result db) :
    (executePayout month defaults summary).run s = .ok result { s with working := db } := by
  unfold executePayout
  cases h with
  | skipped small => rw [if_pos small]; rfl
  | replayed positive member same =>
      rw [if_neg (not_le.mpr positive)]
      have ran : ((payoutCall month summary).run (defaults summary.nodeId)).run s = _ :=
        Call.run_replay valid member same positive
      exact run_bind_ok ran
  | posted positive free stored checks unique =>
      rw [if_neg (not_le.mpr positive)]
      have ran : ((payoutCall month summary).run (defaults summary.nodeId)).run s = _ :=
        Call.run_post positive free rfl stored checks unique
      exact run_bind_ok ran

end Session

section Pay
variable {month : Date} {defaults : Uuid → Defaults} {db db' : Database}
  {summary result : PayoutSummary}

/-- `e` pays the node of a summary what the summary says it earned in `month`. -/
structure Pays (month : Date) (summary : PayoutSummary) (e : CreditLedgerEntry) : Prop where
  key : e.key = payoutKey summary.nodeId month
  account : e.userId = summary.nodeId.val
  amount : numeric summary.operatorEarnings = some e.amount

theorem pays_of_stored {row : CreditLedgerEntry}
    (h : (payoutEntry db month defaults summary).stored = some row) : Pays month summary row := by
  obtain ⟨amount, balanceAfter, rounded, _, rfl⟩ := CreditLedgerEntry.stored_eq_some h
  exact ⟨rfl, rfl, rounded⟩

theorem Pay.subset (h : Pay month defaults db summary result db') : db.entries ⊆ db'.entries := by
  cases h with
  | skipped => exact List.Subset.refl _
  | replayed => exact List.Subset.refl _
  | posted => exact List.subset_append_left _ _

theorem Pay.users (h : Pay month defaults db summary result db') : db'.users = db.users := by
  cases h <;> rfl

theorem Pay.valid (h : Pay month defaults db summary result db') (valid : db.Valid) :
    db'.Valid := by
  cases h with
  | skipped => exact valid
  | replayed => exact valid
  | posted _ _ stored checks unique =>
      exact valid.append (CreditLedgerEntry.stored_stored stored) checks unique

theorem Pay.result_eq (h : Pay month defaults db summary result db') :
    result = if summary.operatorEarnings ≤ 0 then summary else summary.paid := by
  cases h with
  | skipped small => rw [if_pos small]
  | replayed positive => rw [if_neg (not_le.mpr positive)]
  | posted positive => rw [if_neg (not_le.mpr positive)]

end Pay

section Paying
variable {month : Date} {defaults : Uuid → Defaults} {db db' : Database} {s t : Session}
  {summaries results : List PayoutSummary}

theorem Paying.subset (h : Paying month defaults db summaries results db') :
    db.entries ⊆ db'.entries := by
  induction h with
  | nil db => exact List.Subset.refl _
  | cons first _ ih => exact List.Subset.trans first.subset ih

theorem Paying.valid (h : Paying month defaults db summaries results db') (valid : db.Valid) :
    db'.Valid := by
  induction h with
  | nil db => exact valid
  | cons first _ ih => exact ih (first.valid valid)

theorem Paying.users (h : Paying month defaults db summaries results db') :
    db'.users = db.users := by
  induction h with
  | nil db => rfl
  | cons first _ ih => rw [ih, first.users]

theorem Paying.results_eq (h : Paying month defaults db summaries results db') :
    results = summaries.map fun summary =>
      if summary.operatorEarnings ≤ 0 then summary else summary.paid := by
  induction h with
  | nil db => rfl
  | cons first _ ih => rw [List.map_cons, ← ih, ← first.result_eq]

/-- What a run adds are the payouts of earning nodes that had none. -/
theorem Paying.grows (h : Paying month defaults db summaries results db') :
    ∃ new, db'.entries = db.entries ++ new ∧ ∀ row ∈ new, ∃ summary ∈ summaries,
      0 < summary.operatorEarnings ∧ Pays month summary row ∧
      ∀ e ∈ db.entries, e.key ≠ row.key := by
  induction h with
  | nil db => exact ⟨[], (List.append_nil _).symm, fun _ member => absurd member List.not_mem_nil⟩
  | cons first _ ih =>
      obtain ⟨new, grown, all⟩ := ih
      cases first with
      | skipped =>
          refine ⟨new, grown, fun row member => ?_⟩
          obtain ⟨summary, inside, rest⟩ := all row member
          exact ⟨summary, List.mem_cons_of_mem _ inside, rest⟩
      | replayed =>
          refine ⟨new, grown, fun row member => ?_⟩
          obtain ⟨summary, inside, rest⟩ := all row member
          exact ⟨summary, List.mem_cons_of_mem _ inside, rest⟩
      | @posted row positive free stored checks unique =>
          rw [Database.append_entries, List.append_assoc, List.singleton_append] at grown
          refine ⟨row :: new, grown, ?_⟩
          intro other member
          rcases List.mem_cons.mp member with rfl | later
          · have pays := pays_of_stored stored
            refine ⟨_, List.mem_cons_self, positive, pays, fun e old => ?_⟩
            rw [pays.key]
            exact free e old
          · obtain ⟨summary, inside, positive', pays, fresh⟩ := all other later
            refine ⟨summary, List.mem_cons_of_mem _ inside, positive', pays, fun e old => ?_⟩
            exact fresh e (List.mem_append_left _ old)

theorem paying_of_run (sees : s.committed.entries ⊆ s.working.entries)
    (h : (summaries.mapM (executePayout month defaults)).run s = .ok results t) :
    Paying month defaults s.working summaries results t.working ∧
      t = { s with working := t.working } := by
  induction summaries generalizing s t results with
  | nil =>
      cases h
      exact ⟨.nil _, rfl⟩
  | cons summary rest ih =>
      rw [List.mapM_cons, EStateM.run_bind] at h
      cases first : (executePayout month defaults summary).run s with
      | error e u =>
          rw [first] at h
          cases h
      | ok result u =>
          obtain ⟨pay, same⟩ := pay_of_run sees first
          rw [first] at h
          simp only [EStateM.run_bind] at h
          have sees' : u.committed.entries ⊆ u.working.entries := by
            rw [same]
            exact List.Subset.trans sees pay.subset
          cases tail : (rest.mapM (executePayout month defaults)).run u with
          | error e v =>
              rw [tail] at h
              cases h
          | ok results' v =>
              obtain ⟨paying, same'⟩ := ih sees' tail
              rw [tail] at h
              cases h
              exact ⟨.cons pay paying, by rw [same', same]⟩

theorem run_of_paying (h : Paying month defaults db summaries results db')
    (valid : db.Valid) (here : s.working = db) :
    (summaries.mapM (executePayout month defaults)).run s =
      .ok results { s with working := db' } := by
  induction h generalizing s with
  | nil db =>
      subst here
      rfl
  | cons first _ ih =>
      subst here
      have rest := ih (s := { s with working := _ }) (first.valid valid) rfl
      rw [List.mapM_cons, run_bind_ok (run_of_pay valid first), run_bind_ok rest]
      rfl

end Paying

/-! ## A call of `execute_payouts` in its own transaction -/

/-- A call that raises leaves what was committed before it. -/
def execute (db : Database) (T : Tables) (month : Date) (defaults : Uuid → Defaults) :
    Except LedgerError (List PayoutSummary) × Database :=
  match (executePayouts .default T month defaults).run (Session.begin db) with
  | .ok results s => (.ok results, s.commit.committed)
  | .error e _ => (.error e, db)

theorem execute_eq_ok_iff {db db' : Database} {T : Tables} {month : Date}
    {defaults : Uuid → Defaults} {results : List PayoutSummary} (valid : db.Valid) :
    execute db T month defaults = (.ok results, db') ↔ ¬ LastMonth month ∧
      Paying month defaults db ((T.active month).map (T.summary .default month)) results db' := by
  unfold execute executePayouts
  by_cases last : LastMonth month
  · rw [generatePayoutReport_last last, run_bind_error (run_lift_error rfl _)]
    constructor
    · intro same
      cases (Prod.mk.inj same).1
    · intro paying
      exact absurd last paying.1
  · rw [generatePayoutReport_eq last, run_bind_ok (run_lift_ok rfl _)]
    constructor
    · intro same
      refine ⟨last, ?_⟩
      split at same
      · rename_i results' t ran
        obtain ⟨paying, _⟩ := paying_of_run (List.Subset.refl _) ran
        obtain ⟨returned, rfl⟩ := Prod.mk.inj same
        obtain rfl := Except.ok.inj returned
        exact paying
      · cases (Prod.mk.inj same).1
    · rintro ⟨_, paying⟩
      have ran := run_of_paying (s := Session.begin db) paying valid rfl
      rw [ran]
      rfl

theorem execute_error {db db' : Database} {T : Tables} {month : Date}
    {defaults : Uuid → Defaults} {e : LedgerError}
    (h : execute db T month defaults = (.error e, db')) : db' = db := by
  unfold execute at h
  split at h
  · cases (Prod.mk.inj h).1
  · exact (Prod.mk.inj h).2.symm

end RenderTrust.Billing
