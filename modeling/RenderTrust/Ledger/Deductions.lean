import RenderTrust.Ledger.Api
import RenderTrust.Ledger.Quantisation
import RenderTrust.Lib.Decimal

/-!
# `POST /credits/deduct` for any text

The handler from the text of the amount on: what `Decimal` reads from it, the comparison with
zero, and `deduct_credits` in the arithmetic of the default context.
-/
namespace RenderTrust.Ledger
open Lib.Decimal Lib.Rounding

/-- PostgreSQL takes a number with so many digits after the point. -/
def MAX_SCALE : ℕ := 16383

/-- `session.flush` for a row whose amount has the exponent. -/
def flushDebit (db : Database) (entry : CreditLedgerEntry) (exponent : ℤ) : Reply × Database :=
  if exponent < -(MAX_SCALE : ℤ) then (.raised .dataError, db)
  else match db.insert entry with
    | .ok db' => (.entry entry, db')
    | .error .dataError => (.raised .dataError, db)
    | .error .integrityError =>
        match (db.byReference entry.referenceId .DEBIT).bind scalarOne with
        | .error e => (.raised e, db)
        | .ok row => (.entry row, db)

/-- `deduct_credits` for a finite amount above zero. -/
def deductFinite (db : Database) (userId : UUID) (payload : DeductRequest) (defaults : Defaults)
    (amount : Decimal) (exponent : ℤ) : Reply × Database :=
  match (db.byReference payload.referenceId .DEBIT).bind scalarOneOrNone with
  | .error e => (.raised e, db)
  | .ok (some row) => (.entry row, db)
  | .ok none =>
      let current := currentBalance (db.lastEntry userId)
      match defaultContext.rounded (current - amount) with
      | none => (.overflow, db)
      | some newBalance =>
          if newBalance < 0 then (.paymentRequired current (.finite amount), db)
          else flushDebit db (newEntry .DEBIT (payload.call userId amount).args defaults newBalance)
            exponent

/-- `credit_deduct`. A comparison with a NaN raises. -/
def creditDeductText (db : Database) (userId : UUID) (payload : DeductRequest)
    (defaults : Defaults) : Reply × Database :=
  match ofText payload.amount with
  | none => (.unprocessable ("Invalid amount: " ++ payload.amount), db)
  | some (.nan _ _) => (.invalidOperation, db)
  | some (.infinity true) => (.unprocessable "Amount must be a positive number", db)
  | some (.infinity false) =>
      (unpayable db userId payload.referenceId fun available =>
        .paymentRequired available (.infinity false), db)
  | some (.finite negative coefficient exponent) =>
      if value negative coefficient exponent ≤ 0 then
        (.unprocessable "Amount must be a positive number", db)
      else
        deductFinite db userId payload defaults (value negative coefficient exponent) exponent

/-! ## The service of rational amounts -/

/-- How the handler answers what `deduct_credits` comes to. -/
def replied (db : Database) :
    EStateM.Result LedgerError Session CreditLedgerEntry → Reply × Database
  | .ok entry s => (.entry entry, s.commit.committed)
  | .error (.insufficientCredits _ requested available) _ =>
      (.paymentRequired available (.finite requested), db)
  | .error e _ => (.raised e, db)

section Service
variable {db : Database} {userId : UUID} {payload : DeductRequest} {defaults : Defaults}
  {amount : Decimal} {exponent : ℤ}

theorem replied_error {e : LedgerError} {s : Session} (lookup : e.refusal = false) :
    replied db (.error e s) = (.raised e, db) := by
  cases e with
  | insufficientCredits userId requested available => cases lookup
  | valueError | integrityError | dataError | noResultFound | multipleResultsFound => rfl

/-- What is left after the lookup and the balance is the row. -/
theorem deductFinite_flushed {newBalance : Decimal} (fine : -(MAX_SCALE : ℤ) ≤ exponent)
    (kept : defaultContext.rounded (currentBalance (db.lastEntry userId) - amount) =
      some (decimalSub (currentBalance (db.lastEntry userId)) amount))
    (absent : (db.byReference payload.referenceId .DEBIT).bind scalarOneOrNone = .ok none)
    (settled : debitSettle userId amount (currentBalance (db.lastEntry userId)) = .ok newBalance) :
    let entry := newEntry .DEBIT (payload.call userId amount).args defaults newBalance
    deductFinite db userId payload defaults amount exponent =
      match db.insert entry with
      | .ok db' => (.entry entry, db')
      | .error .dataError => (.raised .dataError, db)
      | .error .integrityError =>
          match (db.byReference payload.referenceId .DEBIT).bind scalarOne with
          | .error e => (.raised e, db)
          | .ok row => (.entry row, db) := by
  obtain ⟨difference, nonneg⟩ := debitSettle_ok_iff.mp settled
  unfold deductFinite
  rw [absent]
  simp only [kept, difference, if_neg (not_lt.mpr nonneg), flushDebit, if_neg (not_lt.mpr fine)]
  rfl

/-- An amount that the context keeps and the driver sends is deducted by the service. -/
theorem deductFinite_eq (positive : 0 < amount) (fine : -(MAX_SCALE : ℤ) ≤ exponent)
    (kept : defaultContext.rounded (currentBalance (db.lastEntry userId) - amount) =
      some (decimalSub (currentBalance (db.lastEntry userId)) amount)) :
    deductFinite db userId payload defaults amount exponent =
      replied db ((deductCredits (payload.call userId amount).args defaults).run
        (Session.begin db)) := by
  have all : Posting .DEBIT "Debit amount must be positive" (debitSettle userId amount)
      (payload.call userId amount).args defaults (Session.begin db)
      ((deductCredits (payload.call userId amount).args defaults).run (Session.begin db)) :=
    postEntry_posting (Session.begin db)
  generalize (deductCredits (payload.call userId amount).args defaults).run (Session.begin db) = r
    at all
  cases all with
  | rejected small => exact absurd positive (not_lt.mpr small)
  | unreadable _ found =>
      have found' : (db.byReference payload.referenceId .DEBIT).bind scalarOneOrNone = _ := found
      rw [replied_error (Database.lookup_error scalarOneOrNone_error found), deductFinite, found']
  | replayed _ found =>
      have found' : (db.byReference payload.referenceId .DEBIT).bind scalarOneOrNone = _ := found
      rw [deductFinite, found']
      rfl
  | refused _ found refused =>
      have found' : (db.byReference payload.referenceId .DEBIT).bind scalarOneOrNone = _ := found
      obtain ⟨short, rfl⟩ := debitSettle_error_iff.mp refused
      have short' : decimalSub (currentBalance (db.lastEntry userId)) amount < 0 := short
      rw [deductFinite, found']
      simp only [kept, if_pos short']
      rfl
  | posted _ found settled inserted =>
      rw [deductFinite_flushed fine kept found settled]
      have inserted' : db.insert (newEntry .DEBIT (payload.call userId amount).args defaults _) =
          _ := inserted
      rw [inserted']
      rfl
  | unstorable _ found settled refused =>
      rw [deductFinite_flushed fine kept found settled]
      have refused' : db.insert (newEntry .DEBIT (payload.call userId amount).args defaults _) =
          _ := refused
      rw [refused']
      rfl
  | conflicting _ found settled refused =>
      rw [deductFinite_flushed fine kept found settled]
      have refused' : db.insert (newEntry .DEBIT (payload.call userId amount).args defaults _) =
          _ := refused
      rw [refused']
      simp only
      change (match (db.byReference payload.referenceId .DEBIT).bind scalarOne with
        | .error e => _
        | .ok row => _ : Reply × Database) = replied db (atSession
          ((db.byReference payload.referenceId .DEBIT).bind scalarOne) (Session.begin db).rollback)
      cases again : (db.byReference payload.referenceId .DEBIT).bind scalarOne with
      | error e => exact (replied_error (Database.lookup_error scalarOne_error again)).symm
      | ok row => rfl

theorem replied_outcome (amount : Decimal) :
    replied db ((deductCredits (payload.call userId amount).args defaults).run
        (Session.begin db)) =
      match outcome db ⟨payload.call userId amount, defaults⟩ with
      | .ok entry => (.entry entry, transact db ⟨payload.call userId amount, defaults⟩)
      | .error (.insufficientCredits _ requested available) =>
          (.paymentRequired available (.finite requested), db)
      | .error e => (.raised e, db) := by
  have called : (payload.call userId amount).run defaults =
      deductCredits (payload.call userId amount).args defaults := rfl
  unfold outcome transact
  rw [called]
  cases (deductCredits (payload.call userId amount).args defaults).run (Session.begin db) with
  | ok entry s => rfl
  | error e s => cases e <;> rfl

/-- The number is what the text says: one whose difference with the balance the context keeps, or a
huge one on which it overflows. -/
inductive SameNumber (db : Database) (userId : UUID) : Option DecimalValue → Option Numeral → Prop
  | malformed : SameNumber db userId none none
  | nan (negative signaling : Bool) :
      SameNumber db userId (some .nan) (some (.nan negative signaling))
  | infinity (negative : Bool) :
      SameNumber db userId (some (.infinity negative)) (some (.infinity negative))
  | rejected {number : DecimalValue} {negative : Bool} {coefficient : ℕ} {exponent : ℤ}
      (same : number = .finite (value negative coefficient exponent) ∨ number = .huge true)
      (small : value negative coefficient exponent ≤ 0) :
      SameNumber db userId (some number) (some (.finite negative coefficient exponent))
  | kept {negative : Bool} {coefficient : ℕ} {exponent : ℤ}
      (positive : 0 < value negative coefficient exponent) (fine : -(MAX_SCALE : ℤ) ≤ exponent)
      (kept : defaultContext.rounded (currentBalance (db.lastEntry userId) -
        value negative coefficient exponent) = some (decimalSub
          (currentBalance (db.lastEntry userId)) (value negative coefficient exponent))) :
      SameNumber db userId (some (.finite (value negative coefficient exponent)))
        (some (.finite negative coefficient exponent))
  | huge {negative : Bool} {coefficient : ℕ} {exponent : ℤ}
      (positive : 0 < value negative coefficient exponent)
      (overflows : defaultContext.rounded (currentBalance (db.lastEntry userId) -
        value negative coefficient exponent) = none) :
      SameNumber db userId (some (.huge false)) (some (.finite negative coefficient exponent))

/-- On the texts that both read, the handler of numbers is the handler of texts. -/
theorem creditDeduct_eq {decimal : String → Option DecimalValue}
    (same : SameNumber db userId (decimal payload.amount) (ofText payload.amount)) :
    creditDeduct decimal db userId payload defaults =
      creditDeductText db userId payload defaults := by
  unfold creditDeduct creditDeductText
  generalize decimal payload.amount = number at same
  generalize ofText payload.amount = text at same
  cases same with
  | malformed => rfl
  | nan negative signaling => rfl
  | infinity negative => cases negative <;> rfl
  | rejected read small =>
      rcases read with rfl | rfl
      · simp only [if_pos small]
      · simp only [if_pos small]
  | kept positive fine kept =>
      simp only [if_neg (not_le.mpr positive)]
      exact ((deductFinite_eq positive fine kept).trans (replied_outcome _)).symm
  | huge positive overflows =>
      simp only [if_neg (not_le.mpr positive), unpayable, deductFinite, overflows]
      cases (db.byReference payload.referenceId .DEBIT).bind scalarOneOrNone with
      | error e => rfl
      | ok found => cases found <;> rfl

end Service

/-! ## What is promised for a text -/

/-- The text is that of a finite number above zero. -/
def positiveAmount (text : String) : Option Decimal :=
  match ofText text with
  | some (.finite negative coefficient exponent) =>
      if value negative coefficient exponent ≤ 0 then none
      else some (value negative coefficient exponent)
  | _ => none

/-- 402, or 200 and one new row, a debit of the user. -/
def Charged (db : Database) (userId : UUID) (amount : Decimal) (answer : Reply × Database) : Prop :=
  if currentBalance (db.lastEntry userId) < amount then
    (∃ available requested, answer.1 = .paymentRequired available requested) ∧ answer.2 = db
  else ∃ entry row, answer = (.entry entry, db.append row) ∧ entry.stored = some row ∧
    row.direction = .DEBIT ∧ row.userId = userId

/-- 422 unless the text is that of an amount to charge. -/
def Promised (db : Database) (userId : UUID) (amount : String) (answer : Reply × Database) : Prop :=
  match positiveAmount amount with
  | none => (∃ detail, answer.1 = .unprocessable detail) ∧ answer.2 = db
  | some amount => Charged db userId amount answer

/-- The balance `current` falls short, by an amount that is neither rounded to zero nor too
large. -/
def Short (current amount : Decimal) : Prop :=
  10 ^ defaultContext.etiny / 2 < amount - current ∧
    |significant 28 (current - amount)| < 10 ^ (defaultContext.emax + 1)

/-- The texts fit into their columns. -/
def DeductRequest.texts (payload : DeductRequest) : Bool :=
  payload.referenceId.length ≤ 255 ∧ payload.description.all bindable

/-- Which requests get what is promised. -/
def Answerable (db : Database) (userId : UUID) (payload : DeductRequest) : Prop :=
  match ofText payload.amount with
  | none => True
  | some (.nan _ _) => False
  | some (.infinity negative) => negative = true
  | some (.finite negative coefficient exponent) =>
      let amount := value negative coefficient exponent
      let current := currentBalance (db.lastEntry userId)
      0 < amount → bindable payload.referenceId ∧
        if current < amount then Short current amount
        else -(MAX_SCALE : ℤ) ≤ exponent ∧ payload.texts

/-! ## The cases of an amount above zero -/

section Finite
variable {db : Database} {userId : UUID} {payload : DeductRequest} {defaults : Defaults}
  {amount newBalance : Decimal} {exponent : ℤ}

theorem existing_none (readable : bindable payload.referenceId)
    (unused : ∀ e ∈ db.entries, e.key ≠ (payload.referenceId, .DEBIT)) :
    (db.byReference payload.referenceId .DEBIT).bind scalarOneOrNone = .ok none :=
  Call.existing_of_free (c := payload.call 0 0) readable unused

theorem stored_debit {amount' balance' : Decimal} (fits : numeric amount = some amount')
    (fits' : numeric newBalance = some balance') (readable : bindable payload.referenceId) :
    let entry := newEntry .DEBIT (payload.call userId amount).args defaults newBalance
    entry.stored =
      if payload.texts then some { entry with amount := amount', balanceAfter := balance' }
      else none := by
  intro entry
  have amounts : numeric entry.amount = some amount' := fits
  have balances : numeric entry.balanceAfter = some balance' := fits'
  have readable' : bindable entry.referenceId = true := readable
  unfold CreditLedgerEntry.stored
  simp only [amounts, balances, readable', true_and, DeductRequest.texts, decide_eq_true_eq]
  rfl

/-- A debit that the balance covers is stored if its texts are. -/
theorem flush_debit (valid : db.Valid) (known : userId ∈ db.users)
    (fresh : ∀ e ∈ db.entries, e.id ≠ defaults.id)
    (unused : ∀ e ∈ db.entries, e.key ≠ (payload.referenceId, .DEBIT)) (positive : 0 < amount)
    (covered : amount ≤ currentBalance (db.lastEntry userId)) (nonneg : 0 ≤ newBalance)
    (less : newBalance ≤ currentBalance (db.lastEntry userId))
    (readable : bindable payload.referenceId) :
    let entry := newEntry .DEBIT (payload.call userId amount).args defaults newBalance
    if payload.texts then ∃ row, db.insert entry = .ok (db.append row) ∧ entry.stored = some row ∧
      row.direction = .DEBIT ∧ row.userId = userId
    else db.insert entry = .error .dataError := by
  obtain ⟨few, size⟩ := valid.currentBalance_representable userId
  have small : currentBalance (db.lastEntry userId) * 10 ^ 4 < 10 ^ 12 := by
    linarith [(abs_lt.mp size).2]
  obtain ⟨amount', fits⟩ := fixed_of_le few small positive.le covered
  obtain ⟨balance', fits'⟩ := fixed_of_le few small nonneg less
  intro entry
  have columns : entry.stored = if payload.texts then
      some { entry with amount := amount', balanceAfter := balance' } else none :=
    stored_debit fits fits' readable
  have checks : db.Checks { entry with amount := amount', balanceAfter := balance' } :=
    ⟨fixed_nonneg fits' nonneg, known⟩
  have unique : db.Unique { entry with amount := amount', balanceAfter := balance' } := by
    constructor
    · rintro taken
      obtain ⟨e, member, same⟩ := List.mem_map.mp taken
      exact fresh e member same
    · rintro taken
      obtain ⟨e, member, same⟩ := List.mem_map.mp taken
      exact unused e member same
  split
  · rename_i texts
    rw [if_pos texts] at columns
    refine ⟨_, ?_, columns, rfl, rfl⟩
    unfold Database.insert
    rw [columns]
    exact if_pos ⟨checks, unique⟩
  · rename_i texts
    rw [if_neg texts] at columns
    unfold Database.insert
    rw [columns]

/-- What the balance does not cover is declined if the difference tells. -/
theorem short_iff {current : Decimal} : Short current amount ↔
    ∃ newBalance, defaultContext.rounded (current - amount) = some newBalance ∧
      newBalance < 0 := by
  have total : (defaultContext.rounded (current - amount)).isSome ↔ _ :=
    Context.rounded_isSome_iff (by decide) (by decide)
  constructor
  · rintro ⟨far, fits⟩
    obtain ⟨newBalance, result⟩ := Option.isSome_iff_exists.mp (total.mpr fits)
    refine ⟨newBalance, result, (Context.rounded_neg_iff (by decide) result).mpr ?_⟩
    linarith
  · rintro ⟨newBalance, result, negative⟩
    have far := (Context.rounded_neg_iff (by decide) result).mp negative
    exact ⟨by linarith, total.mp (Option.isSome_of_eq_some result)⟩

/-- What the balance covers does not overflow. -/
theorem rounded_covered (valid : db.Valid) (positive : 0 < amount)
    (covered : amount ≤ currentBalance (db.lastEntry userId)) :
    significant 28 (currentBalance (db.lastEntry userId) - amount) ≤
        currentBalance (db.lastEntry userId) ∧
      (defaultContext.rounded (currentBalance (db.lastEntry userId) - amount)).isSome := by
  obtain ⟨few, size⟩ := valid.currentBalance_representable userId
  have nonneg := sub_nonneg.mpr covered
  have less : significant 28 (currentBalance (db.lastEntry userId) - amount) ≤
      currentBalance (db.lastEntry userId) :=
    significant_le few (by linarith [(abs_lt.mp size).2]) nonneg (by linarith)
  refine ⟨less, (Context.rounded_isSome_iff (by decide) (by decide)).mpr ?_⟩
  rw [abs_of_nonneg (significant_nonneg _ nonneg)]
  calc
    significant 28 (currentBalance (db.lastEntry userId) - amount) ≤ _ := less
    _ < 10 ^ (8 : ℤ) := (abs_lt.mp size).2
    _ ≤ 10 ^ (defaultContext.emax + 1) := zpow_le_zpow_right₀ (by norm_num) (by decide)

/-- With few digits after the point, a rounded difference tells what the balance covers. -/
theorem covered_of_rounded (valid : db.Valid) (positive : 0 < amount)
    (few : Multiple MAX_SCALE amount)
    (result : defaultContext.rounded (currentBalance (db.lastEntry userId) - amount) =
      some newBalance) (nonneg : 0 ≤ newBalance) :
    amount ≤ currentBalance (db.lastEntry userId) ∧
      newBalance ≤ currentBalance (db.lastEntry userId) := by
  have whole := (valid.currentBalance_representable userId).1.mono (by decide : 4 ≤ MAX_SCALE)
  have below := Context.rounded_neg_iff_of_multiple (by decide) (whole.sub few) (by decide) result
  have covered : amount ≤ currentBalance (db.lastEntry userId) := by
    by_contra short
    exact absurd (below.mpr (sub_neg.mpr (not_le.mp short))) (not_lt.mpr nonneg)
  have same := Context.rounded_of_multiple (c := defaultContext) (whole.sub few) (by decide)
  rw [result] at same
  obtain ⟨-, last⟩ := Option.ite_none_right_eq_some.mp same.symm
  obtain ⟨less, -⟩ := rounded_covered valid positive covered
  exact ⟨covered, (Option.some.inj last).symm.trans_le less⟩

theorem not_charged_raised {e : LedgerError} {db' : Database} :
    ¬ Charged db userId amount (.raised e, db') := by
  unfold Charged
  split
  · rintro ⟨⟨available, requested, same⟩, -⟩
    cases same
  · rintro ⟨entry, row, same, -⟩
    cases (Prod.mk.inj same).1

/-- What is not declined is written if the columns take it. -/
theorem flushDebit_iff (valid : db.Valid) (known : userId ∈ db.users)
    (fresh : ∀ e ∈ db.entries, e.id ≠ defaults.id)
    (unused : ∀ e ∈ db.entries, e.key ≠ (payload.referenceId, .DEBIT)) (positive : 0 < amount)
    (few : -(MAX_SCALE : ℤ) ≤ exponent → Multiple MAX_SCALE amount)
    (readable : bindable payload.referenceId)
    (result : defaultContext.rounded (currentBalance (db.lastEntry userId) - amount) =
      some newBalance) (nonneg : ¬ newBalance < 0) :
    Charged db userId amount
        (flushDebit db (newEntry .DEBIT (payload.call userId amount).args defaults newBalance)
          exponent) ↔
      if currentBalance (db.lastEntry userId) < amount then
        Short (currentBalance (db.lastEntry userId)) amount
      else -(MAX_SCALE : ℤ) ≤ exponent ∧ payload.texts := by
  unfold flushDebit
  by_cases fine : -(MAX_SCALE : ℤ) ≤ exponent
  · obtain ⟨covered, less⟩ :=
      covered_of_rounded valid positive (few fine) result (not_lt.mp nonneg)
    have flushed := flush_debit valid known fresh unused positive covered (not_lt.mp nonneg) less
      readable
    rw [if_neg (not_lt.mpr covered), if_neg (not_lt.mpr fine)]
    simp only at flushed
    split at flushed
    · rename_i texts
      obtain ⟨row, inserted, stored, debit, mine⟩ := flushed
      rw [inserted, Charged, if_neg (not_lt.mpr covered)]
      exact iff_of_true ⟨_, row, rfl, stored, debit, mine⟩ ⟨fine, texts⟩
    · rename_i texts
      rw [flushed]
      exact iff_of_false not_charged_raised fun both => texts both.2
  · rw [if_pos (not_le.mp fine)]
    refine iff_of_false not_charged_raised ?_
    split
    · rw [short_iff, result]
      rintro ⟨y, same, negative⟩
      exact nonneg (Option.some.inj same ▸ negative)
    · exact fun both => fine both.1

/-- An amount above zero is charged as promised if the request fits. -/
theorem deductFinite_iff (valid : db.Valid) (known : userId ∈ db.users)
    (fresh : ∀ e ∈ db.entries, e.id ≠ defaults.id)
    (unused : ∀ e ∈ db.entries, e.key ≠ (payload.referenceId, .DEBIT)) (positive : 0 < amount)
    (few : -(MAX_SCALE : ℤ) ≤ exponent → Multiple MAX_SCALE amount) :
    Charged db userId amount (deductFinite db userId payload defaults amount exponent) ↔
      bindable payload.referenceId ∧
        if currentBalance (db.lastEntry userId) < amount then
          Short (currentBalance (db.lastEntry userId)) amount
        else -(MAX_SCALE : ℤ) ≤ exponent ∧ payload.texts := by
  unfold deductFinite
  by_cases readable : bindable payload.referenceId
  · rw [existing_none readable unused]
    simp only [readable, true_and]
    cases result : defaultContext.rounded (currentBalance (db.lastEntry userId) - amount) with
    | none =>
        have short : currentBalance (db.lastEntry userId) < amount := by
          by_contra covered
          have total := (rounded_covered valid positive (not_lt.mp covered)).2
          rw [result] at total
          cases total
        simp only [Charged, if_pos short, short_iff, result]
        simp
    | some newBalance =>
        simp only
        split
        · rename_i negative
          have far := (Context.rounded_neg_iff (by decide) result).mp negative
          have least : (0 : ℚ) < 10 ^ defaultContext.etiny := zpow_pos (by norm_num) _
          have short : currentBalance (db.lastEntry userId) < amount := by linarith
          rw [Charged, if_pos short, if_pos short]
          exact iff_of_true ⟨⟨_, _, rfl⟩, rfl⟩ (short_iff.mpr ⟨newBalance, result, negative⟩)
        · rename_i nonneg
          exact flushDebit_iff valid known fresh unused positive few readable result nonneg
  · have unread : db.byReference payload.referenceId .DEBIT = .error .dataError := if_neg readable
    rw [unread]
    exact iff_of_false not_charged_raised fun both => readable both.1

end Finite

/-- An infinite amount is not told from one that is too large for the balance. -/
theorem unpayable_answer {db : Database} {userId : UUID} {referenceId detail : String}
    {requested : DecimalValue} : unpayable db userId referenceId
      (fun available => .paymentRequired available requested) ≠ .unprocessable detail := by
  unfold unpayable
  cases (db.byReference referenceId .DEBIT).bind scalarOneOrNone with
  | error e => nofun
  | ok found => cases found <;> nofun

/-- The handler does what it promises exactly for the requests that are answerable. -/
theorem promised_iff {db : Database} {userId : UUID} {payload : DeductRequest}
    {defaults : Defaults} (valid : db.Valid) (known : userId ∈ db.users)
    (fresh : ∀ e ∈ db.entries, e.id ≠ defaults.id)
    (unused : ∀ e ∈ db.entries, e.key ≠ (payload.referenceId, .DEBIT)) :
    Promised db userId payload.amount (creditDeductText db userId payload defaults) ↔
      Answerable db userId payload := by
  unfold Promised positiveAmount creditDeductText Answerable
  cases read : ofText payload.amount with
  | none => exact iff_of_true ⟨⟨_, rfl⟩, rfl⟩ trivial
  | some numeral =>
      cases numeral with
      | nan negative signaling =>
          refine iff_of_false ?_ id
          rintro ⟨⟨detail, same⟩, -⟩
          cases same
      | infinity negative =>
          cases negative with
          | true => exact iff_of_true ⟨⟨_, rfl⟩, rfl⟩ rfl
          | false =>
              refine iff_of_false ?_ Bool.false_ne_true
              rintro ⟨⟨detail, same⟩, -⟩
              exact unpayable_answer same
      | finite negative coefficient exponent =>
          simp only
          by_cases small : value negative coefficient exponent ≤ 0
          · simp only [if_pos small]
            exact iff_of_true ⟨⟨_, rfl⟩, trivial⟩ fun positive => absurd positive (not_lt.mpr small)
          · simp only [if_neg small]
            rw [not_le] at small
            have charged := deductFinite_iff valid known fresh unused small
              (fun few => value_multiple few negative coefficient)
            rw [charged]
            exact ⟨fun holds _ => holds, fun holds => holds small⟩

def thirtyCredits : DeductRequest := ⟨"30.0000", "job_1", none⟩

theorem promised_thirtyCredits :
    Promised hundredCredits 1 thirtyCredits.amount
        (creditDeductText hundredCredits 1 thirtyCredits ⟨12, 2⟩) ↔
      Answerable hundredCredits 1 thirtyCredits := by
  have known : 1 ∈ hundredCredits.users := by decide
  have fresh : ∀ e ∈ hundredCredits.entries, e.id ≠ (⟨12, 2⟩ : Defaults).id := by decide
  have unused : ∀ e ∈ hundredCredits.entries, e.key ≠ (thirtyCredits.referenceId, .DEBIT) := by
    decide
  exact promised_iff valid_hundredCredits known fresh unused

/-- The text of a NaN is a decimal to the constructor and has no order. -/
theorem not_promised_nan : ¬ ∀ (db : Database) (userId : UUID) (payload : DeductRequest)
    (defaults : Defaults), db.Valid → userId ∈ db.users →
    (∀ e ∈ db.entries, e.id ≠ defaults.id) →
    (∀ e ∈ db.entries, e.key ≠ (payload.referenceId, .DEBIT)) →
      Promised db userId payload.amount (creditDeductText db userId payload defaults) := by
  intro promised
  have answered := promised ⟨[1], []⟩ 1 ⟨"NaN", "job_1", none⟩ ⟨12, 2⟩ (.nil [1]) (by decide)
    (by decide) (by decide)
  have read : ofText "NaN" = some (.nan false false) := by decide +kernel
  unfold Promised positiveAmount creditDeductText at answered
  simp only [read] at answered
  obtain ⟨⟨detail, same⟩, -⟩ := answered
  cases same

end RenderTrust.Ledger
