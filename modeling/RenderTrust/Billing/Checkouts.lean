import RenderTrust.Billing.Payments
import RenderTrust.Billing.StripeWebhook
import RenderTrust.Lib.Runs

/-!
# Credits for completed checkouts

Stripe delivers the event of a session any number of times and in any order. The ledger takes the
id of the session for the reference of the credit, so what counts is the set of the sessions that
were delivered.
-/
namespace RenderTrust.Billing
open Ledger Lib Lib.Rounding Lib.Runs

/-- What the purchases credit a user with, each of them once. -/
def credited (userId : UUID) (purchases : List Purchase) : Decimal :=
  ((purchases.dedup.filter fun p => p.userId.val = userId).map fun p =>
    (p.creditAmount : Decimal)).sum

section Sums
variable {userId : UUID} {purchases rest : List Purchase} {p : Purchase}

theorem credited_perm {others : List Purchase} (same : ∀ p, p ∈ others ↔ p ∈ purchases) :
    credited userId others = credited userId purchases := by
  have perm : others.dedup.Perm purchases.dedup := by
    apply (List.perm_ext_iff_of_nodup (List.nodup_dedup _) (List.nodup_dedup _)).mpr
    intro p
    rw [List.mem_dedup, List.mem_dedup, same]
  exact ((perm.filter _).map _).sum_eq

theorem credited_again (member : p ∈ purchases) :
    credited userId (purchases ++ [p]) = credited userId purchases := by
  apply credited_perm
  intro q
  rw [List.mem_append, List.mem_singleton]
  constructor
  · rintro (before | rfl)
    · exact before
    · exact member
  · exact Or.inl

theorem credited_concat (new : p ∉ purchases) :
    credited userId (purchases ++ [p]) =
      credited userId purchases +
        if p.userId.val = userId then (p.creditAmount : Decimal) else 0 := by
  have front : credited userId (purchases ++ [p]) = credited userId (p :: purchases) := by
    apply credited_perm
    intro q
    simp [or_comm]
  rw [front, credited, List.dedup_cons_of_notMem new, List.filter_cons]
  by_cases mine : p.userId.val = userId
  · simp only [mine, decide_true, if_true, List.map_cons, List.sum_cons]
    exact add_comm _ _
  · simp only [mine, decide_false, Bool.false_eq_true, if_false, add_zero]
    rfl

theorem credited_le_concat : credited userId purchases ≤ credited userId (purchases ++ [p]) := by
  by_cases before : p ∈ purchases
  · rw [credited_again before]
  · rw [credited_concat before]
    split
    · exact le_add_of_nonneg_right (Nat.cast_nonneg _)
    · rw [add_zero]

theorem credited_le_append : credited userId purchases ≤ credited userId (purchases ++ rest) := by
  induction rest using List.reverseRecOn with
  | nil => rw [List.append_nil]
  | append_singleton rest p ih =>
      rw [← List.append_assoc]
      exact ih.trans credited_le_concat

end Sums

/-! ## The deliveries -/

section Deliveries
variable (stripe : Stripe)

def sessions (deliveries : List Delivery) : List StripeObject :=
  deliveries.filterMap (Delivery.session stripe)

def purchases (sessions : List StripeObject) : List Purchase :=
  sessions.filterMap fun sessObj => (stripe.purchase sessObj).toOption.join

def answers : Database → List Delivery → List WebhookReply
  | _, [] => []
  | db, req :: rest => (stripeHook stripe db req).1 :: answers (stripeHook stripe db req).2 rest

def hooked (db : Database) (req : Delivery) : Option Database := some (stripeHook stripe db req).2

/-- A new row has an id of its own and the newest stamp. -/
def Fresh (db : Database) (req : Delivery) : Prop :=
  ∀ e ∈ db.entries, e.id ≠ req.defaults.id ∧ e.createdAt < req.defaults.createdAt

instance (db : Database) (req : Delivery) : Decidable (Fresh db req) :=
  inferInstanceAs (Decidable (∀ e ∈ db.entries, _ ∧ _))

/-- Sessions as Stripe sends them to a table of users. -/
structure Genuine (db : Database) (sessions : List StripeObject) : Prop where
  agree : ∀ a ∈ sessions, ∀ b ∈ sessions, stripe.sessionId a = stripe.sessionId b → a = b
  metadata : ∀ a ∈ sessions, TextMetadata a
  users : ∀ a ∈ sessions, (Stripe.clientReferenceId a).truthy →
    ∃ userId, Uuid.parse (stripe.str (Stripe.clientReferenceId a)) = some userId ∧
      userId.val ∈ db.users
  unused : ∀ a ∈ sessions, ∀ e ∈ db.entries, e.key ≠ (stripe.sessionId a, .CREDIT)

/-- The columns take what is credited. -/
structure Storable (db : Database) (purchases : List Purchase) : Prop where
  texts : ∀ p ∈ purchases, p.sessionId.length ≤ 255 ∧ bindable p.sessionId
  sums : ∀ userId ∈ db.users,
    currentBalance (db.lastEntry userId) + credited userId purchases < 10 ^ 8

end Deliveries

/-- What a delivered purchase is to the ledger. -/
structure Consistent (db : Database) (all : List Purchase) : Prop where
  agree : ∀ a ∈ all, ∀ b ∈ all, a.sessionId = b.sessionId → a = b
  known : ∀ p ∈ all, CREDIT_MAP.lookup p.sku = some p.creditAmount
  users : ∀ p ∈ all, p.userId.val ∈ db.users
  unused : ∀ p ∈ all, ∀ e ∈ db.entries, e.key ≠ (p.sessionId, .CREDIT)

/-- The ledger `now` has the credits for `done` over those of `db`. -/
structure Credited (db : Database) (done : List Purchase) (now : Database) : Prop where
  valid : now.Valid
  users : now.users = db.users
  balance : ∀ userId, currentBalance (now.lastEntry userId) =
    currentBalance (db.lastEntry userId) + credited userId done
  taken : ∀ p ∈ done, ∃ e ∈ now.entries, e.key = (p.sessionId, .CREDIT)
  only : ∀ e ∈ now.entries, e ∈ db.entries ∨ ∃ p ∈ done, e.key = (p.sessionId, .CREDIT)

/-! The order of the purchases makes no difference, nor how often each is there. -/

section Among
variable {db now : Database} {all others : List Purchase}

theorem Consistent.among (consistent : Consistent db all) (same : ∀ p, p ∈ others ↔ p ∈ all) :
    Consistent db others where
  agree := fun a ha b hb => consistent.agree a ((same a).mp ha) b ((same b).mp hb)
  known := fun p member => consistent.known p ((same p).mp member)
  users := fun p member => consistent.users p ((same p).mp member)
  unused := fun p member => consistent.unused p ((same p).mp member)

theorem Storable.among (storable : Storable db all) (same : ∀ p, p ∈ others ↔ p ∈ all) :
    Storable db others where
  texts := fun p member => storable.texts p ((same p).mp member)
  sums := by
    intro userId member
    rw [credited_perm same]
    exact storable.sums userId member

theorem Credited.among (credited : Credited db others now) (same : ∀ p, p ∈ others ↔ p ∈ all) :
    Credited db all now where
  valid := credited.valid
  users := credited.users
  balance := by
    intro userId
    rw [credited.balance, credited_perm same]
  taken := fun p member => credited.taken p ((same p).mpr member)
  only := by
    intro e there
    rcases credited.only e there with old | ⟨p, before, key⟩
    · exact .inl old
    · exact .inr ⟨p, (same p).mp before, key⟩

end Among

section Steps
variable {stripe : Stripe} {db now : Database} {req : Delivery} {p : Purchase}
  {all done rest : List Purchase}

theorem known_amount {sku : String} {amount : ℕ} (known : CREDIT_MAP.lookup sku = some amount) :
    0 < (amount : Decimal) ∧ Representable (amount : Decimal) ∧
      bindable ("Stripe checkout: " ++ sku) := by
  obtain ⟨before, after, entry, -⟩ := List.lookup_eq_some_iff.mp known
  have member : (sku, amount) ∈ CREDIT_MAP := by
    rw [entry]
    exact List.mem_append_right before List.mem_cons_self
  have each : ∀ entry ∈ CREDIT_MAP, 0 < (entry.2 : Decimal) ∧ Representable (entry.2 : Decimal) ∧
      bindable ("Stripe checkout: " ++ entry.1) := by decide +kernel
  exact each _ member

theorem Credited.nil (valid : db.Valid) : Credited db [] db where
  valid := valid
  users := rfl
  balance := fun _ => (add_zero _).symm
  taken := fun _ member => absurd member List.not_mem_nil
  only := fun _ member => .inl member

/-- The ledger takes a purchase of a user it knows, with a free key and room for the amount. -/
theorem purchase_taken {defaults : Defaults} (valid : db.Valid)
    (known : CREDIT_MAP.lookup p.sku = some p.creditAmount)
    (account : p.userId.val ∈ db.users) (length : p.sessionId.length ≤ 255)
    (text : bindable p.sessionId)
    (room : currentBalance (db.lastEntry p.userId.val) + p.creditAmount < 10 ^ 8)
    (fresh : ∀ e ∈ db.entries, e.id ≠ defaults.id ∧ e.key ≠ (p.sessionId, .CREDIT)) :
    (p.event defaults).Taken db := by
  obtain ⟨positive, amount, description⟩ := known_amount known
  have nonneg := valid.currentBalance_nonneg p.userId.val
  exact {
    positive := positive
    amount := amount
    balance := by
      refine ⟨(valid.currentBalance_representable _).1.add amount.1, ?_⟩
      change |currentBalance (db.lastEntry p.userId.val) + (p.creditAmount : Decimal)| < 10 ^ 8
      rwa [abs_of_nonneg (add_nonneg nonneg positive.le)]
    nonneg := add_nonneg nonneg positive.le
    texts := ⟨length, text, description⟩
    account := account
    fresh := fresh }

/-- The ledger takes the credit of a session that was not delivered before. -/
theorem Credited.takes (consistent : Consistent db all) (storable : Storable db all)
    (credited : Credited db done now) (split : all = done ++ p :: rest) (new : p ∉ done)
    (fresh : Fresh now req) : (p.event req.defaults).Taken now := by
  have member : p ∈ all := by
    rw [split]
    exact List.mem_append_right done List.mem_cons_self
  obtain ⟨length, text⟩ := storable.texts p member
  have room : currentBalance (now.lastEntry p.userId.val) + p.creditAmount < 10 ^ 8 := by
    have whole := storable.sums p.userId.val (consistent.users p member)
    have part : Billing.credited p.userId.val (done ++ [p]) ≤
        Billing.credited p.userId.val all := by
      rw [split.trans (List.append_cons done p rest)]
      exact credited_le_append
    rw [credited_concat new, if_pos rfl] at part
    rw [credited.balance]
    linarith
  have account : p.userId.val ∈ now.users := by
    rw [credited.users]
    exact consistent.users p member
  apply purchase_taken credited.valid (consistent.known p member) account length text room
  intro e there
  refine ⟨(fresh e there).1, ?_⟩
  rcases credited.only e there with old | ⟨q, before, key⟩
  · exact consistent.unused p member e old
  · intro same
    have sameId := (Prod.mk.inj (key.symm.trans same)).1
    have inside : q ∈ all := by
      rw [split]
      exact List.mem_append_left _ before
    rw [consistent.agree q inside p member sameId] at before
    exact new before

theorem Credited.concat (credited : Credited db done now) (new : p ∉ done) (fresh : Fresh now req)
    (taken : (p.event req.defaults).Taken now) :
    Credited db (done ++ [p]) (now.append ((p.event req.defaults).written now)) where
  valid := by
    rw [← taken.transact.2]
    exact credited.valid.transact _
  users := credited.users
  balance := by
    intro userId
    rw [credited_concat new, ← add_assoc, ← credited.balance]
    by_cases mine : p.userId.val = userId
    · subst mine
      have newer : ledgerView.Newer now.entries ((p.event req.defaults).written now) :=
        fun e member _ => (fresh e member).2
      have latest : (now.append _).lastEntry p.userId.val = some _ :=
        ledgerView.latest_concat_self newer
      rw [latest, if_pos rfl]
      rfl
    · have other : ledgerView.account ((p.event req.defaults).written now) ≠ userId := mine
      have latest : (now.append ((p.event req.defaults).written now)).lastEntry userId =
          now.lastEntry userId := ledgerView.latest_concat_other other _
      rw [latest, if_neg mine, add_zero]
  taken := by
    intro q member
    rcases List.mem_append.mp member with before | last
    · obtain ⟨e, there, key⟩ := credited.taken q before
      exact ⟨e, List.mem_append_left _ there, key⟩
    · rw [List.mem_singleton.mp last]
      exact ⟨_, List.mem_append_right _ (List.mem_singleton_self _), rfl⟩
  only := by
    intro e member
    rcases List.mem_append.mp member with there | last
    · rcases credited.only e there with old | ⟨q, before, key⟩
      · exact .inl old
      · exact .inr ⟨q, List.mem_append_left _ before, key⟩
    · rw [List.mem_singleton.mp last]
      exact .inr ⟨p, List.mem_append_right _ (List.mem_singleton_self p), rfl⟩

/-- A credit is written once, and answered with its row when it is repeated. -/
theorem Credited.next (consistent : Consistent db all) (storable : Storable db all)
    (credited : Credited db done now) (split : all = done ++ p :: rest) (fresh : Fresh now req) :
    (∃ row, outcome now (p.event req.defaults) = .ok row) ∧
      Credited db (done ++ [p]) (transact now (p.event req.defaults)) := by
  by_cases before : p ∈ done
  · have member : p ∈ all := by
      rw [split]
      exact List.mem_append_left _ before
    obtain ⟨positive, -⟩ := known_amount (consistent.known p member)
    obtain ⟨row, there, key⟩ := credited.taken p before
    have absorbed : transact now (p.event req.defaults) = now ∧
        outcome now (p.event req.defaults) = .ok row :=
      transact_replay credited.valid there key positive
    obtain ⟨same, answered⟩ := absorbed
    refine ⟨⟨row, answered⟩, ?_⟩
    rw [same]
    apply credited.among
    intro q
    rw [List.mem_append, List.mem_singleton]
    constructor
    · exact Or.inl
    · rintro (earlier | rfl)
      · exact earlier
      · exact before
  · have taken := credited.takes consistent storable split before fresh
    obtain ⟨answered, appended⟩ := taken.transact
    refine ⟨⟨_, answered⟩, ?_⟩
    rw [appended]
    exact credited.concat before fresh taken

end Steps

section Runs
variable {stripe : Stripe} {db now db' : Database} {deliveries : List Delivery}
  {done : List Purchase}

theorem Genuine.purchase_ok {sessions : List StripeObject} (genuine : Genuine stripe db sessions)
    {sessObj : StripeObject} (member : sessObj ∈ sessions) :
    ∃ result, stripe.purchase sessObj = .ok result := by
  apply Billing.purchase_ok (genuine.metadata sessObj member)
  intro present
  obtain ⟨userId, parsed, -⟩ := genuine.users sessObj member present
  exact Option.isSome_iff_exists.mpr ⟨userId, parsed⟩

theorem mem_purchases {sessions : List StripeObject} {p : Purchase} :
    p ∈ purchases stripe sessions ↔
      ∃ sessObj ∈ sessions, stripe.purchase sessObj = .ok (some p) := by
  unfold purchases
  rw [List.mem_filterMap]
  apply exists_congr
  intro sessObj
  cases stripe.purchase sessObj with
  | error e => simp [Except.toOption]
  | ok result => simp [Except.toOption]

theorem Genuine.consistent {sessions : List StripeObject} (genuine : Genuine stripe db sessions) :
    Consistent db (purchases stripe sessions) where
  agree := by
    intro a ha b hb same
    obtain ⟨x, hx, readA⟩ := mem_purchases.mp ha
    obtain ⟨y, hy, readB⟩ := mem_purchases.mp hb
    rw [(purchase_some readA).1, (purchase_some readB).1] at same
    rw [genuine.agree x hx y hy same, readB] at readA
    exact (Option.some.inj (Except.ok.inj readA)).symm
  known := by
    intro p member
    obtain ⟨sessObj, -, read⟩ := mem_purchases.mp member
    exact (purchase_some read).2.1
  users := by
    intro p member
    obtain ⟨sessObj, inside, read⟩ := mem_purchases.mp member
    obtain ⟨-, -, present, parsed⟩ := purchase_some read
    obtain ⟨userId, parsed', known⟩ := genuine.users sessObj inside present
    rw [parsed] at parsed'
    rwa [Option.some.inj parsed']
  unused := by
    intro p member
    obtain ⟨sessObj, inside, read⟩ := mem_purchases.mp member
    rw [(purchase_some read).1]
    exact genuine.unused sessObj inside

theorem Credited.run {all : List Purchase} (consistent : Consistent db all)
    (storable : Storable db all) (signed : ∀ req ∈ deliveries, (req.session stripe).isSome)
    (readable : ∀ sessObj ∈ sessions stripe deliveries,
      ∃ result, stripe.purchase sessObj = .ok result)
    (run : Run (hooked stripe) Fresh now deliveries db') (credited : Credited db done now)
    (split : all = done ++ purchases stripe (sessions stripe deliveries)) :
    (∀ a ∈ answers stripe now deliveries, a = .received) ∧ Credited db all db' := by
  induction run generalizing done with
  | nil now =>
      rw [split]
      refine ⟨fun _ member => absurd member List.not_mem_nil, ?_⟩
      change Credited db (done ++ []) now
      rwa [List.append_nil]
  | @cons now next last req rest fresh accepted tail ih =>
      obtain rfl := Option.some.inj accepted
      obtain ⟨sessObj, session⟩ := Option.isSome_iff_exists.mp (signed req List.mem_cons_self)
      have signed' := fun req member => signed req (List.mem_cons_of_mem _ member)
      have heads : sessions stripe (req :: rest) = sessObj :: sessions stripe rest :=
        List.filterMap_cons_some session
      rw [heads] at readable split
      have readable' := fun sessObj member => readable sessObj (List.mem_cons_of_mem _ member)
      obtain ⟨result, read⟩ := readable sessObj List.mem_cons_self
      rw [stripeHook_session session] at ih
      simp only [answers, stripeHook_session session, List.forall_mem_cons]
      cases result with
      | none =>
          have skipped : purchases stripe (sessObj :: sessions stripe rest) =
              purchases stripe (sessions stripe rest) :=
            List.filterMap_cons_none (by rw [read]; rfl)
          rw [skipped] at split
          rw [handleCheckoutCompleted_none read] at ih ⊢
          obtain ⟨answered, credited⟩ := ih signed' readable' credited split
          exact ⟨⟨rfl, answered⟩, credited⟩
      | some p =>
          have bought : purchases stripe (sessObj :: sessions stripe rest) =
              p :: purchases stripe (sessions stripe rest) :=
            List.filterMap_cons_some (by rw [read]; rfl)
          rw [bought] at split
          obtain ⟨⟨row, answered⟩, credited⟩ := credited.next consistent storable split fresh
          rw [handleCheckoutCompleted_some read, answered] at ih ⊢
          obtain ⟨answered, credited⟩ :=
            ih signed' readable' credited (split.trans (List.append_cons _ _ _))
          exact ⟨⟨rfl, answered⟩, credited⟩

/-- Whatever the order of the deliveries and however often each is repeated, every one is
acknowledged and every session is credited once. -/
theorem credited_once (valid : db.Valid)
    (signed : ∀ req ∈ deliveries, (req.session stripe).isSome)
    (genuine : Genuine stripe db (sessions stripe deliveries))
    (storable : Storable db (purchases stripe (sessions stripe deliveries)))
    (run : Run (hooked stripe) Fresh db deliveries db') :
    (∀ a ∈ answers stripe db deliveries, a = .received) ∧
    (∀ userId, currentBalance (db'.lastEntry userId) = currentBalance (db.lastEntry userId) +
      credited userId (purchases stripe (sessions stripe deliveries))) ∧
    ∀ others db'', (∀ req ∈ others, (req.session stripe).isSome) →
      (∀ sessObj, sessObj ∈ sessions stripe others ↔ sessObj ∈ sessions stripe deliveries) →
        Run (hooked stripe) Fresh db others db'' →
          ∀ userId, currentBalance (db''.lastEntry userId) =
            currentBalance (db'.lastEntry userId) := by
  have once : ∀ others db'', (∀ req ∈ others, (req.session stripe).isSome) →
      (∀ sessObj, sessObj ∈ sessions stripe others ↔ sessObj ∈ sessions stripe deliveries) →
        Run (hooked stripe) Fresh db others db'' →
          (∀ a ∈ answers stripe db others, a = .received) ∧
            Credited db (purchases stripe (sessions stripe deliveries)) db'' := by
    intro others db'' signed same run
    have readable := fun sessObj member => genuine.purchase_ok ((same sessObj).mp member)
    have among : ∀ p, p ∈ purchases stripe (sessions stripe others) ↔
        p ∈ purchases stripe (sessions stripe deliveries) := by
      intro p
      simp only [mem_purchases, same]
    obtain ⟨answered, credited⟩ := (Credited.nil valid).run (genuine.consistent.among among)
      (storable.among among) signed readable run rfl
    exact ⟨answered, credited.among among⟩
  obtain ⟨answered, credited⟩ := once deliveries db' signed (fun _ => Iff.rfl) run
  refine ⟨answered, credited.balance, ?_⟩
  intro others db'' signed' same run' userId
  obtain ⟨-, credited'⟩ := once others db'' signed' same run'
  rw [credited.balance, credited'.balance]

end Runs

/-! Two sessions, the first of them delivered twice, and one with a SKU that is not sold. -/

def checkoutSession (id userId sku : String) : StripeObject :=
  [("id", .str id), ("client_reference_id", .str userId), ("metadata", .obj [("sku", .str sku)])]

def firstUser : String := "00000000-0000-0000-0000-000000000001"
def secondUser : String := "00000000-0000-0000-0000-000000000002"

def sampleStripe : Stripe where
  constructEvent payload _ := match payload with
    | [1] => .ok ⟨"checkout.session.completed", checkoutSession "cs_1" firstUser "cred10"⟩
    | [2] => .ok ⟨"checkout.session.completed", checkoutSession "cs_2" secondUser "cred50"⟩
    | [3] => .ok ⟨"checkout.session.completed", checkoutSession "cs_3" firstUser "cred100"⟩
    | _ => .error .valueError
  printed _ := ""

def sampleDeliveries : List Delivery :=
  [⟨some "sig", [1], ⟨11, 1⟩⟩, ⟨some "sig", [2], ⟨12, 2⟩⟩, ⟨some "sig", [1], ⟨13, 3⟩⟩,
    ⟨some "sig", [3], ⟨14, 4⟩⟩]

theorem textMetadata_checkoutSession (id userId sku : String) :
    TextMetadata (checkoutSession id userId sku) := by
  intro value found
  right
  refine ⟨[("sku", .str sku)], (Option.some.inj found).symm, ?_⟩
  intro field member
  rw [List.mem_singleton.mp member]
  exact ⟨sku, rfl⟩

theorem genuine_sampleDeliveries :
    Genuine sampleStripe ⟨[1, 2], []⟩ (sessions sampleStripe sampleDeliveries) := by
  have known : Uuid.parse firstUser = some 1 ∧ Uuid.parse secondUser = some 2 := by decide +kernel
  have all : sessions sampleStripe sampleDeliveries =
      [checkoutSession "cs_1" firstUser "cred10", checkoutSession "cs_2" secondUser "cred50",
        checkoutSession "cs_1" firstUser "cred10",
        checkoutSession "cs_3" firstUser "cred100"] := rfl
  rw [all]
  constructor
  · intro a ha b hb same
    simp only [List.mem_cons, List.not_mem_nil, or_false] at ha hb
    rcases ha with rfl | rfl | rfl | rfl <;> rcases hb with rfl | rfl | rfl | rfl <;>
      first | rfl | exact absurd same (by decide)
  · simp only [List.forall_mem_cons, textMetadata_checkoutSession, true_and]
    exact fun _ member => absurd member List.not_mem_nil
  · simp only [List.forall_mem_cons]
    refine ⟨fun _ => ⟨1, known.1, by decide⟩, fun _ => ⟨2, known.2, by decide⟩,
      fun _ => ⟨1, known.1, by decide⟩, fun _ => ⟨1, known.1, by decide⟩, ?_⟩
    exact fun _ member => absurd member List.not_mem_nil
  · exact fun _ _ _ member => absurd member List.not_mem_nil

theorem credited_once_sampleDeliveries : ∃ db' : Database,
    Run (hooked sampleStripe) Fresh ⟨[1, 2], []⟩ sampleDeliveries db' ∧
      (∀ a ∈ answers sampleStripe ⟨[1, 2], []⟩ sampleDeliveries, a = .received) ∧
      currentBalance (db'.lastEntry 1) = 100 := by
  have accepted : (exec (hooked sampleStripe) Fresh ⟨[1, 2], []⟩ sampleDeliveries).isSome := by
    decide +kernel
  obtain ⟨db', run⟩ := run_of_isSome accepted
  have storable : Storable ⟨[1, 2], []⟩
      (purchases sampleStripe (sessions sampleStripe sampleDeliveries)) :=
    ⟨by decide +kernel, by decide +kernel⟩
  obtain ⟨answered, balances, -⟩ :=
    credited_once (Database.Valid.nil [1, 2]) (by decide +kernel) genuine_sampleDeliveries
      storable run
  refine ⟨db', run, answered, ?_⟩
  rw [balances 1]
  decide +kernel

/-- A balance that the column has no room above for. -/
def fullLedger : Database where
  users := [1]
  entries := [⟨10, 1, 99999950, .CREDIT, .ADJUSTMENT, "opening", 99999950, none, 0⟩]

theorem valid_fullLedger : fullLedger.Valid where
  stored := by decide +kernel
  checks := by decide +kernel
  ids := List.nodup_singleton _
  keys := List.nodup_singleton _

theorem not_credited_fullLedger : ¬ ∀ (stripe : Stripe) (db db' : Database)
    (deliveries : List Delivery), db.Valid → (∀ req ∈ deliveries, (req.session stripe).isSome) →
      Genuine stripe db (sessions stripe deliveries) →
        Run (hooked stripe) Fresh db deliveries db' →
          (∀ a ∈ answers stripe db deliveries, a = .received) ∧
          ∀ userId, currentBalance (db'.lastEntry userId) =
            currentBalance (db.lastEntry userId) +
              credited userId (purchases stripe (sessions stripe deliveries)) := by
  intro claim
  have known : Uuid.parse firstUser = some 1 := by decide +kernel
  have genuine : Genuine sampleStripe fullLedger
      (sessions sampleStripe [⟨some "sig", [1], ⟨11, 1⟩⟩]) := by
    have all : sessions sampleStripe [⟨some "sig", [1], ⟨11, 1⟩⟩] =
        [checkoutSession "cs_1" firstUser "cred10"] := rfl
    rw [all]
    constructor
    · intro a ha b hb _
      rw [List.mem_singleton.mp ha, List.mem_singleton.mp hb]
    · intro a ha
      rw [List.mem_singleton.mp ha]
      exact textMetadata_checkoutSession _ _ _
    · intro a ha _
      rw [List.mem_singleton.mp ha]
      exact ⟨1, known, by decide⟩
    · intro a ha
      rw [List.mem_singleton.mp ha]
      decide +kernel
  have accepted : (exec (hooked sampleStripe) Fresh fullLedger
      [⟨some "sig", [1], ⟨11, 1⟩⟩]).isSome := by decide +kernel
  obtain ⟨db', run⟩ := run_of_isSome accepted
  have answered := (claim _ _ _ _ valid_fullLedger (by decide +kernel) genuine run).1
  revert answered
  decide +kernel

end RenderTrust.Billing
