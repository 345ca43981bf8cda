import RenderTrust.Billing.Checkouts

/-!
# Which events are acknowledged

`stripe_hook` is to answer every event that is signed, so that Stripe does not send it again. Here
is for which events and over which ledgers it does.
-/
namespace RenderTrust.Billing
open Ledger Lib

/-! ## The fields of a session -/

namespace Stripe

def metadata (sessObj : StripeObject) : Json := (sessObj.lookup "metadata").getD .null

/-- Of what is read from the metadata, nothing or a dictionary has a `get`. -/
def Gettable (value : Json) : Prop := value.truthy → ∃ fields, value = .obj fields

/-- What is not empty can be looked up in a dictionary. -/
def Askable (value : Json) : Prop := value.truthy → value.hashable

def skuField (sessObj : StripeObject) : Json :=
  match metadata sessObj with
  | .obj fields => (fields.lookup "sku").getD .null
  | _ => .null

/-- The session is for a SKU of the table. -/
def Sells (sessObj : StripeObject) (sku : String) (amount : ℕ) : Prop :=
  skuField sessObj = .str sku ∧ CREDIT_MAP.lookup sku = some amount

theorem Sells.unique {sessObj : StripeObject} {sku sku' : String} {amount amount' : ℕ}
    (sells : Sells sessObj sku amount) (sells' : Sells sessObj sku' amount') :
    sku = sku' ∧ amount = amount' := by
  obtain rfl := Json.str.inj (sells.1.symm.trans sells'.1)
  exact ⟨rfl, Option.some.inj (sells.2.symm.trans sells'.2)⟩

theorem sku_eq (sessObj : StripeObject) : sku sessObj =
    if !(metadata sessObj).truthy then .ok .null
    else match metadata sessObj with
      | .obj fields => .ok ((fields.lookup "sku").getD .null)
      | _ => .error .attributeError := rfl

theorem sku_gettable {sessObj : StripeObject} (gettable : Gettable (metadata sessObj)) :
    sku sessObj = .ok (skuField sessObj) := by
  rw [sku_eq, skuField]
  cases filled : (metadata sessObj).truthy with
  | true =>
      obtain ⟨fields, same⟩ := gettable filled
      rw [same]
      rfl
  | false =>
      cases value : metadata sessObj with
      | obj fields =>
          cases fields with
          | nil => rfl
          | cons field rest =>
              rw [value] at filled
              cases filled
      | null | bool | num | str | arr => rfl

theorem sku_not_gettable {sessObj : StripeObject} (not_gettable : ¬ Gettable (metadata sessObj)) :
    sku sessObj = .error .attributeError := by
  obtain ⟨filled, other⟩ := Classical.not_imp.mp not_gettable
  rw [sku_eq, filled]
  simp only [Bool.not_true, Bool.false_eq_true, if_false]
  cases value : metadata sessObj with
  | obj fields => exact absurd ⟨fields, value⟩ other
  | null | bool | num | str | arr => rfl

end Stripe

/-! ## What can be credited -/

/-- A session whose fields can be read and for whose purchase, if there is one, `Good` holds. -/
def Readable (stripe : Stripe) (sessObj : StripeObject) (Good : Purchase → Prop) : Prop :=
  (Stripe.clientReferenceId sessObj).truthy →
    Stripe.Gettable (Stripe.metadata sessObj) ∧ Stripe.Askable (Stripe.skuField sessObj) ∧
    ∀ sku amount, Stripe.Sells sessObj sku amount →
      ∃ userId, Uuid.parse (stripe.str (Stripe.clientReferenceId sessObj)) = some userId ∧
        Good ⟨stripe.sessionId sessObj, userId, sku, amount⟩

/-- The ledger has a credit for the session, or takes one. -/
def Postable (db : Database) (defaults : Defaults) (p : Purchase) : Prop :=
  bindable p.sessionId ∧
    ((∃ e ∈ db.entries, e.key = (p.sessionId, .CREDIT)) ∨
      p.userId.val ∈ db.users ∧ p.sessionId.length ≤ 255 ∧
        currentBalance (db.lastEntry p.userId.val) + p.creditAmount < 10 ^ 8 ∧
        ∀ e ∈ db.entries, e.id ≠ defaults.id)

def Acknowledgeable (stripe : Stripe) (db : Database) (defaults : Defaults) (event : StripeEvent) :
    Prop :=
  event.type = "checkout.session.completed" →
    Readable stripe event.object (Postable db defaults)

/-- The event is a checkout of a SKU of the table by a user that exists. -/
def Creditable (stripe : Stripe) (db : Database) (event : StripeEvent) : Prop :=
  event.type = "checkout.session.completed" ∧ (Stripe.clientReferenceId event.object).truthy ∧
    ∃ sku amount userId, Stripe.Sells event.object sku amount ∧
      Uuid.parse (stripe.str (Stripe.clientReferenceId event.object)) = some userId ∧
      userId.val ∈ db.users

/-- `{"received": True}`, and no row for what cannot be credited. -/
def Acknowledged (stripe : Stripe) (db : Database) (event : StripeEvent)
    (answer : WebhookReply × Database) : Prop :=
  answer.1 = .received ∧ (¬ Creditable stripe db event → answer.2 = db)

section Purchases
variable {stripe : Stripe} {sessObj : StripeObject} {Good : Purchase → Prop}

theorem creditAmount_not_askable {value : Json} (not_askable : ¬ Stripe.Askable value) :
    value.truthy ∧ Stripe.creditAmount value = .error .typeError := by
  obtain ⟨filled, unhashable⟩ := Classical.not_imp.mp not_askable
  cases value with
  | null | bool | num | str => exact absurd rfl unhashable
  | arr | obj => exact ⟨filled, rfl⟩

theorem creditAmount_askable {value : Json} (askable : Stripe.Askable value)
    (unsold : ∀ sku amount, value = .str sku → CREDIT_MAP.lookup sku ≠ some amount) :
    value.truthy = false ∨ Stripe.creditAmount value = .ok none := by
  cases value with
  | null | bool | num => exact .inr rfl
  | str text =>
      right
      have missing : CREDIT_MAP.lookup text = none :=
        Option.eq_none_iff_forall_ne_some.mpr fun amount => unsold text amount rfl
      unfold Stripe.creditAmount
      simp only [missing, Option.map_none]
  | arr | obj =>
      left
      exact Bool.eq_false_iff.mpr fun filled => Bool.false_ne_true (askable filled)

theorem creditAmount_sold {sku : String} {amount : ℕ} (sold : CREDIT_MAP.lookup sku = some amount) :
    (Json.str sku).truthy ∧ Stripe.creditAmount (.str sku) = .ok (some (sku, amount)) := by
  constructor
  · apply decide_eq_true
    rintro rfl
    cases sold
  · unfold Stripe.creditAmount
    simp only [sold, Option.map_some]

section Present
variable (present : (Stripe.clientReferenceId sessObj).truthy = true)
  (gettable : Stripe.Gettable (Stripe.metadata sessObj))
include present gettable

theorem purchase_sold {sku : String} {amount : ℕ} (sells : Stripe.Sells sessObj sku amount) :
    stripe.purchase sessObj =
      match Uuid.parse (stripe.str (Stripe.clientReferenceId sessObj)) with
      | none => .error .valueError
      | some userId => .ok (some ⟨stripe.sessionId sessObj, userId, sku, amount⟩) := by
  obtain ⟨same, sold⟩ := sells
  obtain ⟨filled, found⟩ := creditAmount_sold sold
  unfold Stripe.purchase
  rw [present, Stripe.sku_gettable gettable, same]
  cases Uuid.parse (stripe.str (Stripe.clientReferenceId sessObj)) with
  | none | some => simp only [Bool.not_true, Bool.false_eq_true, if_false, filled, found]

theorem purchase_unsold (askable : Stripe.Askable (Stripe.skuField sessObj))
    (unsold : ∀ sku amount, ¬ Stripe.Sells sessObj sku amount) :
    stripe.purchase sessObj = .ok none := by
  unfold Stripe.purchase
  rw [present, Stripe.sku_gettable gettable]
  simp only [Bool.not_true, Bool.false_eq_true, if_false]
  rcases creditAmount_askable askable fun sku amount same sold => unsold sku amount ⟨same, sold⟩
    with empty | missing
  · rw [empty]
    rfl
  · rw [missing]
    exact ite_self _

theorem purchase_not_askable (not_askable : ¬ Stripe.Askable (Stripe.skuField sessObj)) :
    stripe.purchase sessObj = .error .typeError := by
  obtain ⟨filled, raised⟩ := creditAmount_not_askable not_askable
  unfold Stripe.purchase
  rw [present, Stripe.sku_gettable gettable]
  simp only [Bool.not_true, Bool.false_eq_true, if_false, filled, raised]

end Present

/-- The handler reads what is readable, and the purchase is that of the fields. -/
theorem purchase_readable :
    (∃ result, stripe.purchase sessObj = .ok result ∧ ∀ p ∈ result, Good p) ↔
      Readable stripe sessObj Good := by
  unfold Readable
  by_cases present : (Stripe.clientReferenceId sessObj).truthy = true
  · rw [imp_iff_right present]
    by_cases gettable : Stripe.Gettable (Stripe.metadata sessObj)
    · by_cases askable : Stripe.Askable (Stripe.skuField sessObj)
      · rw [and_iff_right gettable, and_iff_right askable]
        by_cases sells : ∃ sku amount, Stripe.Sells sessObj sku amount
        · obtain ⟨sku, amount, sells⟩ := sells
          rw [purchase_sold present gettable sells]
          constructor
          · rintro ⟨result, made, good⟩ sku' amount' sells'
            obtain ⟨rfl, rfl⟩ := sells.unique sells'
            cases parsed : Uuid.parse (stripe.str (Stripe.clientReferenceId sessObj)) with
            | none =>
                rw [parsed] at made
                cases made
            | some userId =>
                rw [parsed] at made
                exact ⟨userId, rfl, good _ (Except.ok.inj made).symm⟩
          · intro each
            obtain ⟨userId, parsed, good⟩ := each sku amount sells
            rw [parsed]
            refine ⟨_, rfl, ?_⟩
            rintro p ⟨⟩
            exact good
        · have unsold : ∀ sku amount, ¬ Stripe.Sells sessObj sku amount :=
            fun sku amount sold => sells ⟨sku, amount, sold⟩
          rw [purchase_unsold present gettable askable unsold]
          exact iff_of_true ⟨none, rfl, nofun⟩ fun sku amount sold =>
            absurd sold (unsold sku amount)
      · rw [purchase_not_askable present gettable askable]
        refine iff_of_false ?_ fun readable => askable readable.2.1
        rintro ⟨result, made, -⟩
        cases made
    · refine iff_of_false ?_ fun readable => gettable readable.1
      rintro ⟨result, made, -⟩
      unfold Stripe.purchase at made
      rw [present, Stripe.sku_not_gettable gettable] at made
      cases made
  · refine iff_of_true ⟨none, ?_, nofun⟩ fun filled => absurd filled present
    unfold Stripe.purchase
    rw [Bool.eq_false_iff.mpr present]
    rfl

/-- What is credited is what the session is for. -/
theorem purchase_sells {p : Purchase} (read : stripe.purchase sessObj = .ok (some p)) :
    Stripe.Sells sessObj p.sku p.creditAmount := by
  by_contra unsold
  have itself : Readable stripe sessObj (· = p) :=
    purchase_readable.mp ⟨some p, read, fun _ same => (Option.some.inj same).symm⟩
  have nothing : Readable stripe sessObj fun _ => False := by
    intro present
    obtain ⟨gettable, askable, each⟩ := itself present
    refine ⟨gettable, askable, fun sku amount sells => ?_⟩
    obtain ⟨userId, -, rfl⟩ := each sku amount sells
    exact absurd sells unsold
  obtain ⟨result, made, none_good⟩ := purchase_readable.mpr nothing
  rw [read] at made
  obtain rfl := Except.ok.inj made
  exact none_good p rfl

end Purchases

/-! ## What the ledger answers -/

section Credits
variable {db : Database} {p : Purchase} {defaults : Defaults}

/-- A row that is written for a purchase had room. -/
theorem room_of_writes {row : CreditLedgerEntry} (valid : db.Valid)
    (known : CREDIT_MAP.lookup p.sku = some p.creditAmount)
    (writes : Writes db (p.event defaults) row) :
    currentBalance (db.lastEntry p.userId.val) + p.creditAmount < 10 ^ 8 := by
  obtain ⟨positive, amount, -⟩ := known_amount known
  have balance := valid.currentBalance_representable p.userId.val
  have whole := balance.1.add amount.1
  obtain ⟨newBalance, settled, stored⟩ := writes.settled
  obtain ⟨-, balanceAfter, -, fits, -⟩ := CreditLedgerEntry.stored_eq_some stored
  have added : decimalAdd (currentBalance (db.lastEntry p.userId.val)) p.creditAmount =
      newBalance := Except.ok.inj settled
  have small : |currentBalance (db.lastEntry p.userId.val) + (p.creditAmount : Decimal)| <
      10 ^ 24 := by
    have sum := add_lt_add balance.2 amount.2
    exact (abs_add_le _ _).trans_lt (sum.trans (by norm_num))
  rw [decimalAdd_exact whole small] at added
  have fits' : numeric (currentBalance (db.lastEntry p.userId.val) + p.creditAmount) =
      some balanceAfter := by
    rw [added]
    exact fits
  have bound := (numeric_bound fits').2
  rw [Lib.Rounding.fixed_eq_self whole fits'] at bound
  exact (abs_lt.mp bound).2

/-- The call for a purchase returns if the ledger has the credit or takes it. -/
theorem outcome_purchase (valid : db.Valid)
    (known : CREDIT_MAP.lookup p.sku = some p.creditAmount) :
    (∃ row, outcome db (p.event defaults) = .ok row) ↔ Postable db defaults p := by
  obtain ⟨positive, -⟩ := known_amount known
  have replayed : (∃ e ∈ db.entries, e.key = (p.sessionId, .CREDIT)) →
      ∃ row, outcome db (p.event defaults) = .ok row := by
    rintro ⟨e, member, key⟩
    have again : e.key = (p.event defaults).call.key := key
    exact ⟨e, (transact_replay valid member again positive).2⟩
  constructor
  · rintro ⟨row, answered⟩
    obtain ⟨row', member, key, -⟩ := mem_transact_of_outcome valid answered
    have key' : row'.key = (p.sessionId, .CREDIT) := key
    rcases transact_cases db (p.event defaults) with same | ⟨new, writes, -⟩
    · rw [same] at member
      have text := CreditLedgerEntry.bindable_of_stored (valid.stored row' member)
      have reference : row'.referenceId = p.sessionId := (Prod.mk.inj key').1
      rw [reference] at text
      exact ⟨text, .inl ⟨row', member, key'⟩⟩
    · obtain ⟨newBalance, -, stored⟩ := writes.settled
      obtain ⟨length, text, -⟩ := CreditLedgerEntry.stored_texts stored
      obtain ⟨-, mine, id⟩ := CreditLedgerEntry.stored_key stored
      have account := writes.checks.2
      rw [mine] at account
      refine ⟨text, .inr ⟨account, length, room_of_writes valid known writes, ?_⟩⟩
      intro e there taken
      exact writes.unique.1 (List.mem_map.mpr ⟨e, there, taken.trans id.symm⟩)
  · rintro ⟨text, there | ⟨account, length, room, fresh⟩⟩
    · exact replayed there
    · by_cases taken : ∃ e ∈ db.entries, e.key = (p.sessionId, .CREDIT)
      · exact replayed taken
      · have fits : (p.event defaults).Taken db :=
          purchase_taken valid known account length text room
            fun e member => ⟨fresh e member, fun key => taken ⟨e, member, key⟩⟩
        exact ⟨_, fits.transact.1⟩

/-- A purchase of somebody who is no user leaves no row. -/
theorem transact_stranger (stranger : p.userId.val ∉ db.users) :
    transact db (p.event defaults) = db := by
  rcases transact_cases db (p.event defaults) with same | ⟨row, writes, -⟩
  · exact same
  · obtain ⟨newBalance, -, stored⟩ := writes.settled
    obtain ⟨-, mine, -⟩ := CreditLedgerEntry.stored_key stored
    have account := writes.checks.2
    rw [mine] at account
    exact absurd account stranger

end Credits

section Events
variable {stripe : Stripe} {db : Database} {req : Delivery} {sig : String} {event : StripeEvent}

theorem stripeHook_signed (signature : req.signature = some sig) (present : sig ≠ "")
    (constructed : stripe.constructEvent req.payload sig = .ok event) :
    stripeHook stripe db req =
      if event.type = "checkout.session.completed" then
        handleCheckoutCompleted stripe db event.object req.defaults
      else (.received, db) := by
  unfold stripeHook
  rw [signature]
  dsimp only
  rw [if_neg present, constructed]

/-- A signed event is acknowledged exactly if its fields can be read and the ledger has its credit
or takes it. -/
theorem acknowledged_iff (valid : db.Valid) (signature : req.signature = some sig)
    (present : sig ≠ "") (constructed : stripe.constructEvent req.payload sig = .ok event) :
    Acknowledged stripe db event (stripeHook stripe db req) ↔
      Acknowledgeable stripe db req.defaults event := by
  rw [stripeHook_signed signature present constructed]
  unfold Acknowledgeable
  by_cases completed : event.type = "checkout.session.completed"
  · rw [if_pos completed, ← purchase_readable]
    simp only [completed, true_imp_iff]
    cases read : stripe.purchase event.object with
    | error e =>
        unfold handleCheckoutCompleted
        rw [read]
        refine iff_of_false ?_ ?_
        · rintro ⟨answered, -⟩
          cases answered
        · rintro ⟨result, made, -⟩
          cases made
    | ok result =>
        cases result with
        | none =>
            rw [handleCheckoutCompleted_none read]
            exact iff_of_true ⟨rfl, fun _ => rfl⟩ ⟨none, rfl, nofun⟩
        | some p =>
            obtain ⟨-, known, referenced, parsed⟩ := purchase_some read
            have answers : _ ↔ Postable db req.defaults p := outcome_purchase valid known
            rw [handleCheckoutCompleted_some read]
            have unwritten : ¬ Creditable stripe db event →
                transact db (p.event req.defaults) = db := by
              intro uncreditable
              apply transact_stranger
              intro account
              exact uncreditable ⟨completed, referenced, p.sku, p.creditAmount, p.userId,
                purchase_sells read, parsed, account⟩
            constructor
            · rintro ⟨answered, -⟩
              refine ⟨some p, rfl, ?_⟩
              rintro q ⟨⟩
              apply answers.mp
              cases called : outcome db (p.event req.defaults) with
              | ok row => exact ⟨row, rfl⟩
              | error e =>
                  rw [called] at answered
                  cases answered
            · rintro ⟨result, made, good⟩
              obtain rfl := Except.ok.inj made
              obtain ⟨row, called⟩ := answers.mpr (good p rfl)
              rw [called]
              exact ⟨rfl, unwritten⟩
  · rw [if_neg completed]
    exact iff_of_true ⟨rfl, fun _ => rfl⟩ fun same => absurd same completed

end Events

def sampleEvent : StripeEvent :=
  ⟨"checkout.session.completed", checkoutSession "cs_1" firstUser "cred10"⟩

theorem acknowledged_sampleEvent :
    Acknowledged sampleStripe ⟨[1, 2], []⟩ sampleEvent
        (stripeHook sampleStripe ⟨[1, 2], []⟩ ⟨some "sig", [1], ⟨11, 1⟩⟩) ↔
      Acknowledgeable sampleStripe ⟨[1, 2], []⟩ ⟨11, 1⟩ sampleEvent :=
  acknowledged_iff (.nil [1, 2]) rfl (by decide) rfl

/-- Signed events for a user reference that is no UUID. -/
def malformedStripe : Stripe where
  constructEvent _ _ := .ok ⟨"checkout.session.completed", checkoutSession "cs_1" "bob" "cred10"⟩
  printed _ := ""

theorem not_acknowledged : ¬ ∀ (stripe : Stripe) (db : Database) (req : Delivery) (sig : String)
    (event : StripeEvent), db.Valid → req.signature = some sig → sig ≠ "" →
      stripe.constructEvent req.payload sig = .ok event →
        Acknowledged stripe db event (stripeHook stripe db req) := by
  intro acknowledged
  have answered := (acknowledged malformedStripe ⟨[1], []⟩ ⟨some "sig", [], ⟨11, 1⟩⟩ "sig" _
    (.nil [1]) rfl (by decide) rfl).1
  revert answered
  decide +kernel

end RenderTrust.Billing
