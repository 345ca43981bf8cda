import RenderTrust.Ledger.Outcomes
import RenderTrust.Lib.Json
import RenderTrust.Lib.Uuid

/-!
# `core/billing/stripe/stripe_webhook.py`

The handler of `POST /webhooks/stripe`. What the library makes of a payload and its signature
is a parameter, and so is the text of a value that is not a string.
-/
namespace RenderTrust.Billing
open Ledger Lib Lib.ByteString

abbrev StripeObject := List (String × Json)

/-- `event["type"]` and `event["data"]["object"]`. -/
structure StripeEvent where
  type : String
  object : StripeObject

inductive ConstructError where
  | signatureVerificationError
  | valueError
  deriving DecidableEq, Repr

structure Stripe where
  constructEvent : Bytes → String → Except ConstructError StripeEvent
  printed : Json → String

inductive WebhookError where
  | attributeError
  | typeError
  | valueError
  | ledger (error : LedgerError)
  deriving DecidableEq, Repr

inductive WebhookReply where
  | received
  | badRequest (detail : String)
  | raised (error : WebhookError)
  deriving DecidableEq, Repr

def CREDIT_MAP : List (String × ℕ) := [("cred10", 100), ("cred50", 550)]

/-- What a checkout session says that is credited. -/
structure Purchase where
  sessionId : String
  userId : Uuid
  sku : String
  creditAmount : ℕ
  deriving DecidableEq

/-- A request, and the defaults of the row it may write. -/
structure Delivery where
  signature : Option String
  payload : Bytes
  defaults : Defaults

namespace Stripe
variable (stripe : Stripe)

def str : Json → String
  | .str text => text
  | value => stripe.printed value

def sessionId (sessObj : StripeObject) : String :=
  stripe.str ((sessObj.lookup "id").getD (.str ""))

def clientReferenceId (sessObj : StripeObject) : Json :=
  (sessObj.lookup "client_reference_id").getD .null

/-- `(sess_obj.get("metadata") or {}).get("sku")`. -/
def sku (sessObj : StripeObject) : Except WebhookError Json :=
  let metadata := (sessObj.lookup "metadata").getD .null
  if !metadata.truthy then .ok .null
  else match metadata with
    | .obj fields => .ok ((fields.lookup "sku").getD .null)
    | _ => .error .attributeError

/-- `CREDIT_MAP[sku]`, if it is there: the keys are strings, and a list or a dictionary has no
hash. -/
def creditAmount : Json → Except WebhookError (Option (String × ℕ))
  | .str text => .ok ((CREDIT_MAP.lookup text).map fun amount => (text, amount))
  | .arr _ => .error .typeError
  | .obj _ => .error .typeError
  | _ => .ok none

/-- What the handler reads before it calls the ledger; `none` is logged and ignored. -/
def purchase (sessObj : StripeObject) : Except WebhookError (Option Purchase) :=
  if !(clientReferenceId sessObj).truthy then .ok none
  else match sku sessObj with
    | .error e => .error e
    | .ok sku =>
        if !sku.truthy then .ok none
        else match creditAmount sku with
          | .error e => .error e
          | .ok none => .ok none
          | .ok (some (sku, creditAmount)) =>
              match Uuid.parse (stripe.str (clientReferenceId sessObj)) with
              | none => .error .valueError
              | some userId => .ok (some ⟨stripe.sessionId sessObj, userId, sku, creditAmount⟩)

end Stripe

namespace Purchase

def args (purchase : Purchase) : Args where
  userId := purchase.userId.val
  amount := purchase.creditAmount
  source := .STRIPE
  referenceId := purchase.sessionId
  description := some ("Stripe checkout: " ++ purchase.sku)

def event (purchase : Purchase) (defaults : Defaults) : Event :=
  ⟨⟨.CREDIT, purchase.args⟩, defaults⟩

end Purchase

section Handlers
variable (stripe : Stripe)

/-- A session that is not committed is rolled back when it is closed. -/
def handleCheckoutCompleted (db : Database) (sessObj : StripeObject) (defaults : Defaults) :
    WebhookReply × Database :=
  match stripe.purchase sessObj with
  | .error e => (.raised e, db)
  | .ok none => (.received, db)
  | .ok (some purchase) =>
      match (allocateCredits purchase.args defaults).run (Session.begin db) with
      | .ok _ s => (.received, s.commit.committed)
      | .error e s => (.raised (.ledger e), s.rollback.committed)

def stripeHook (db : Database) (req : Delivery) : WebhookReply × Database :=
  match req.signature with
  | none => (.badRequest "Missing stripe-signature header", db)
  | some sig =>
      if sig = "" then (.badRequest "Missing stripe-signature header", db)
      else match stripe.constructEvent req.payload sig with
        | .error .signatureVerificationError => (.badRequest "Invalid signature", db)
        | .error .valueError => (.badRequest "Invalid payload", db)
        | .ok event =>
            if event.type = "checkout.session.completed" then
              handleCheckoutCompleted stripe db event.object req.defaults
            else (.received, db)

end Handlers

/-! ## What a delivery does -/

section Deliveries
variable {stripe : Stripe} {db : Database} {req : Delivery} {sessObj : StripeObject}
  {purchase : Purchase} {defaults : Defaults}

/-- The session of a delivery that is signed and completes a checkout. -/
def Delivery.session (stripe : Stripe) (req : Delivery) : Option StripeObject :=
  req.signature.bind fun sig =>
    if sig = "" then none
    else match stripe.constructEvent req.payload sig with
      | .error _ => none
      | .ok event => if event.type = "checkout.session.completed" then some event.object else none

theorem stripeHook_session (signed : req.session stripe = some sessObj) :
    stripeHook stripe db req = handleCheckoutCompleted stripe db sessObj req.defaults := by
  obtain ⟨sig, present, rest⟩ := Option.bind_eq_some_iff.mp signed
  obtain ⟨filled, rest⟩ := Option.ite_none_left_eq_some.mp rest
  unfold stripeHook
  rw [present]
  dsimp only
  rw [if_neg filled]
  cases constructed : stripe.constructEvent req.payload sig with
  | error e =>
      rw [constructed] at rest
      cases rest
  | ok event =>
      rw [constructed] at rest
      obtain ⟨completed, same⟩ := Option.ite_none_right_eq_some.mp rest
      obtain rfl := Option.some.inj same
      exact if_pos completed

theorem handleCheckoutCompleted_none (ignored : stripe.purchase sessObj = .ok none) :
    handleCheckoutCompleted stripe db sessObj defaults = (.received, db) := by
  unfold handleCheckoutCompleted
  rw [ignored]

theorem handleCheckoutCompleted_some (read : stripe.purchase sessObj = .ok (some purchase)) :
    handleCheckoutCompleted stripe db sessObj defaults =
      (match outcome db (purchase.event defaults) with
        | .ok _ => .received
        | .error e => .raised (.ledger e), transact db (purchase.event defaults)) := by
  unfold handleCheckoutCompleted outcome transact
  rw [read]
  change (match (allocateCredits purchase.args defaults).run (Session.begin db) with
    | .ok _ s => _
    | .error e s => _) = _
  unfold Purchase.event Call.run
  dsimp only
  cases (allocateCredits purchase.args defaults).run (Session.begin db) <;> rfl

theorem creditAmount_some {value : Json} {sku : String} {amount : ℕ}
    (known : Stripe.creditAmount value = .ok (some (sku, amount))) :
    CREDIT_MAP.lookup sku = some amount := by
  cases value with
  | str text =>
      obtain ⟨found, present, same⟩ := Option.map_eq_some_iff.mp (Except.ok.inj known)
      obtain ⟨rfl, rfl⟩ := Prod.mk.inj same
      exact present
  | null | bool | num => cases known
  | arr | obj => cases known

/-- What is credited: a user, a SKU of the table, and the text of the session's id. -/
theorem purchase_some (read : stripe.purchase sessObj = .ok (some purchase)) :
    purchase.sessionId = stripe.sessionId sessObj ∧
    CREDIT_MAP.lookup purchase.sku = some purchase.creditAmount ∧
    (Stripe.clientReferenceId sessObj).truthy ∧
    Uuid.parse (stripe.str (Stripe.clientReferenceId sessObj)) = some purchase.userId := by
  unfold Stripe.purchase at read
  split at read
  · cases read
  · rename_i present
    rw [Bool.not_eq_true', Bool.not_eq_false] at present
    split at read
    · cases read
    · split at read
      · cases read
      · split at read
        · cases read
        · cases read
        · rename_i known
          split at read
          · cases read
          · rename_i parsed
            obtain rfl := Option.some.inj (Except.ok.inj read)
            exact ⟨rfl, creditAmount_some known, present, parsed⟩

/-- The metadata of a session, if there are any, map strings to strings. -/
def TextMetadata (sessObj : StripeObject) : Prop :=
  ∀ value, sessObj.lookup "metadata" = some value → value = .null ∨
    ∃ fields, value = .obj fields ∧ ∀ field ∈ fields, ∃ text, field.2 = .str text

theorem sku_text (metadata : TextMetadata sessObj) :
    Stripe.sku sessObj = .ok .null ∨ ∃ text, Stripe.sku sessObj = .ok (.str text) := by
  unfold Stripe.sku
  cases found : sessObj.lookup "metadata" with
  | none => exact .inl rfl
  | some value =>
      rcases metadata value found with rfl | ⟨fields, rfl, texts⟩
      · exact .inl rfl
      · dsimp only [Option.getD_some]
        split
        · exact .inl rfl
        · cases sku : fields.lookup "sku" with
          | none => exact .inl rfl
          | some value =>
              obtain ⟨before, after, rfl, -⟩ := List.lookup_eq_some_iff.mp sku
              obtain ⟨text, rfl⟩ := texts ("sku", value) (by simp)
              exact .inr ⟨text, rfl⟩

theorem purchase_ok (metadata : TextMetadata sessObj)
    (user : (Stripe.clientReferenceId sessObj).truthy →
      (Uuid.parse (stripe.str (Stripe.clientReferenceId sessObj))).isSome) :
    ∃ result, stripe.purchase sessObj = .ok result := by
  unfold Stripe.purchase
  split
  · exact ⟨none, rfl⟩
  · rename_i present
    rw [Bool.not_eq_true', Bool.not_eq_false] at present
    obtain ⟨userId, parsed⟩ := Option.isSome_iff_exists.mp (user present)
    rw [parsed]
    rcases sku_text metadata with null | ⟨text, found⟩
    · rw [null]
      exact ⟨none, rfl⟩
    · rw [found]
      dsimp only
      split
      · exact ⟨none, rfl⟩
      · have amount : Stripe.creditAmount (.str text) =
            .ok ((CREDIT_MAP.lookup text).map fun amount => (text, amount)) := rfl
        rw [amount]
        cases CREDIT_MAP.lookup text with
        | none => exact ⟨none, rfl⟩
        | some amount => exact ⟨_, rfl⟩

end Deliveries
end RenderTrust.Billing
