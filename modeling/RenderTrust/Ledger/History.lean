import Mathlib.Data.List.Chain
import RenderTrust.Ledger.Clocks
import RenderTrust.Lib.Pages

/-!
# The credit history

`GET /credits/history` answers with a page of the user's entries, newest first. A client reads
page after page while calls of `allocate_credits` and `deduct_credits` go on.
-/
namespace RenderTrust.Ledger
open Lib.Journal Lib.Pages Lib.Runs

structure HistoryResponse where
  entries : List CreditLedgerEntry
  count : ℕ
  deriving DecidableEq, Repr

inductive HistoryReply where
  | unprocessable
  | history (response : HistoryResponse)
  | raised (error : LedgerError)
  deriving DecidableEq, Repr

def creditHistory (db : Database) (userId : UUID) (limit offset : ℤ) : HistoryReply :=
  if 1 ≤ limit ∧ limit ≤ 100 ∧ 0 ≤ offset then
    match (getHistory userId limit.toNat offset.toNat).run (Session.begin db) with
    | .ok entries _ => .history ⟨entries, entries.length⟩
    | .error e _ => .raised e
  else .unprocessable

/-- All entries of a user, newest first. -/
def Database.history (db : Database) (userId : UUID) : List CreditLedgerEntry :=
  ledgerView.newestFirst (ledgerView.rows userId db.entries)

theorem creditHistory_eq (db : Database) (userId : UUID) (limit offset : ℤ) :
    creditHistory db userId limit offset = if 1 ≤ limit ∧ limit ≤ 100 ∧ 0 ≤ offset then
      let entries := ((db.history userId).drop offset.toNat).take limit.toNat
      .history ⟨entries, entries.length⟩
    else .unprocessable := by
  unfold creditHistory
  split
  · rename_i valid
    have clamped : min limit.toNat 100 = limit.toNat := by omega
    have ran : (getHistory userId limit.toNat offset.toNat).run (Session.begin db) =
        .ok (((db.history userId).drop offset.toNat).take (min limit.toNat 100))
          (Session.begin db) := rfl
    rw [ran, clamped]
  · rfl

/-- What a history answers is a stretch of the user's entries. -/
theorem creditHistory_history {db : Database} {userId : UUID} {limit offset : ℤ}
    {response : HistoryResponse} (h : creditHistory db userId limit offset = .history response) :
    response.entries = ((db.history userId).drop offset.toNat).take limit.toNat ∧
      response.count = response.entries.length ∧ 1 ≤ limit ∧ 0 ≤ offset := by
  rw [creditHistory_eq] at h
  split at h
  · rename_i valid
    cases h
    exact ⟨rfl, rfl, valid.1, valid.2.2⟩
  · cases h

theorem mem_history {db : Database} {userId : UUID} {e : CreditLedgerEntry} :
    e ∈ db.history userId ↔ e ∈ db.entries ∧ e.userId = userId :=
  (ledgerView.newestFirst_perm _).mem_iff.trans ledgerView.mem_rows

/-! ## A history as a statement -/

structure Statement (db : Database) (userId : UUID) : Prop where
  adjacent : ∀ limit offset response, creditHistory db userId limit offset = .history response →
    response.entries.IsChain fun newer older =>
      newer.balanceAfter = older.balanceAfter + newer.signed
  newest : ∀ limit response, creditHistory db userId limit 0 = .history response →
    (getBalance userId).run (Session.begin db) =
      .ok (currentBalance response.entries.head?) (Session.begin db)
  oldest : ∀ limit offset response e, creditHistory db userId limit offset = .history response →
    response.entries.getLast? = some e →
      offset + response.count = (ledgerView.rows userId db.entries).length →
        e.balanceAfter = e.signed

theorem Sound.statement {db : Database} (sound : Sound db.entries) (userId : UUID) :
    Statement db userId where
  adjacent := by
    intro limit offset response answered
    rw [(creditHistory_history answered).1]
    apply (List.IsChain.drop _ _).take
    apply List.isChain_iff_forall_rel_of_append_cons_cons.mpr
    intro newer older before after split
    exact sound.kept.carried_older userId before newer (older :: after) split
  newest := by
    intro limit response answered
    obtain ⟨entries, -, positive, -⟩ := creditHistory_history answered
    have first : response.entries.head? = (db.history userId).head? := by
      rw [entries, Int.toNat_zero, List.drop_zero, List.head?_take, if_neg (by omega)]
    rw [first]
    rfl
  oldest := by
    intro limit offset response e answered last complete
    obtain ⟨entries, count, -, nonneg⟩ := creditHistory_history answered
    have whole : (db.history userId).length = (ledgerView.rows userId db.entries).length :=
      (ledgerView.newestFirst_perm _).length_eq
    have rest : response.entries = (db.history userId).drop offset.toNat := by
      rw [entries]
      apply List.take_of_length_le
      have taken := congrArg List.length entries
      rw [List.length_take, List.length_drop] at taken
      rw [List.length_drop]
      omega
    obtain ⟨newer, split⟩ := List.getLast?_eq_some_iff.mp last
    have shape : db.history userId = ((db.history userId).take offset.toNat ++ newer) ++ [e] := by
      rw [List.append_assoc, ← split, rest, List.take_append_drop]
    have carried := sound.kept.carried_older userId _ e [] shape
    rw [List.head?_nil, View.carried_none, zero_add] at carried
    exact carried

theorem sound_of_timely {users : List UUID} {events : List Event} {db : Database}
    (run : Run (fun db event => some (transact db event)) Timely ⟨users, []⟩ events db) :
    Sound db.entries := by
  apply Run.invariant (I := fun db => Sound db.entries) _ run Sound.nil
  intro db event db' sound timely accepted
  obtain rfl := Option.some.inj accepted
  exact sound.timely timely

theorem statement_of_run {users : List UUID} {events : List Event} {db : Database}
    (run : Run (fun db event => some (transact db event)) Timely ⟨users, []⟩ events db)
    (userId : UUID) : Statement db userId :=
  (sound_of_timely run).statement userId

def statementEvents : List Event :=
  [⟨⟨.CREDIT, ⟨1, 80, .STRIPE, "cs_1", none⟩⟩, ⟨41, 1⟩⟩,
   ⟨⟨.CREDIT, ⟨2, 5, .STRIPE, "cs_2", none⟩⟩, ⟨42, 1⟩⟩,
   ⟨⟨.DEBIT, ⟨1, 30, .USAGE, "job_1", none⟩⟩, ⟨43, 2⟩⟩]

theorem statement_statementEvents : ∃ db : Database,
    Run (fun db event => some (transact db event)) Timely ⟨[1, 2], []⟩ statementEvents db ∧
      Statement db 1 := by
  have accepted : (exec (fun db event => some (transact db event)) Timely ⟨[1, 2], []⟩
      statementEvents).isSome := by decide +kernel
  obtain ⟨db, run⟩ := run_of_isSome accepted
  exact ⟨db, run, statement_of_run run 1⟩

/-! ## Reading while others post -/

inductive Act where
  | post (event : Event)
  | fetch
  deriving DecidableEq, Repr

structure Reading where
  db : Database
  pages : List (List CreditLedgerEntry)

/-- A client that asks for `limit` entries at a time. -/
def browse (userId : UUID) (limit : ℕ) (s : Reading) : Act → Option Reading
  | .post event => some { s with db := transact s.db event }
  | .fetch =>
      match creditHistory s.db userId limit (s.pages.length * limit : ℕ) with
      | .history response => some { s with pages := s.pages ++ [response.entries] }
      | _ => none

def Act.timely (s : Reading) : Act → Prop
  | .post event => Timely s.db event
  | .fetch => True

instance (s : Reading) (act : Act) : Decidable (act.timely s) :=
  match act with
  | .post event => inferInstanceAs (Decidable (Timely s.db event))
  | .fetch => inferInstanceAs (Decidable True)

def Reading.reader (userId : UUID) (s : Reading) : Reader CreditLedgerEntry :=
  ⟨s.db.history userId, s.pages⟩

section Reads
variable {userId : UUID} {limit : ℕ} {s t : Reading} {start : Database}

theorem browse_fetch (h : browse userId limit s .fetch = some t) :
    t.db = s.db ∧ t.reader userId = (s.reader userId).fetch limit := by
  unfold browse at h
  cases answered : creditHistory s.db userId limit (s.pages.length * limit : ℕ) with
  | history response =>
      simp only [answered] at h
      obtain rfl := Option.some.inj h
      obtain ⟨entries, -, -, -⟩ := creditHistory_history answered
      refine ⟨rfl, ?_⟩
      unfold Reading.reader Reader.fetch page
      rw [entries, Int.toNat_natCast, Int.toNat_natCast]
  | unprocessable | raised =>
      simp only [answered] at h
      cases h

/-- What is posted in time is added at the head of the history. -/
theorem history_transact {db : Database} {event : Event} (sound : Sound db.entries)
    (timely : Timely db event) :
    db.history userId <:+ (transact db event).history userId := by
  have later := sound.timely timely
  unfold Database.history
  rw [ledgerView.newestFirst_of_ordered sound.kept.ordered,
    ledgerView.newestFirst_of_ordered later.kept.ordered]
  have grown : db.entries <+: (transact db event).entries := by
    rcases transact_cases db event with same | ⟨row, -, same⟩
    · rw [same]
    · rw [same]
      exact List.prefix_append _ _
  exact (grown.filter _).reverse

structure Reads (start : Database) (userId : UUID) (limit : ℕ) (s : Reading) : Prop where
  sound : Sound s.db.entries
  covers : (s.reader userId).Covers limit (start.history userId)
  ended : (s.reader userId).Ended limit → ∀ e ∈ start.history userId, e ∈ s.pages.flatten
  own : ∀ e ∈ s.pages.flatten, e ∈ s.db.history userId

theorem Reads.initial (sound : Sound start.entries) : Reads start userId limit ⟨start, []⟩ where
  sound := sound
  covers := by
    intro e member
    right
    change e ∈ (start.history userId).drop (0 * limit)
    rwa [Nat.zero_mul, List.drop_zero]
  ended := by
    rintro ⟨page, member, -⟩
    exact absurd member List.not_mem_nil
  own := fun e member => absurd member List.not_mem_nil

theorem Reads.post {event : Event} (reads : Reads start userId limit s)
    (timely : Timely s.db event) :
    Reads start userId limit { s with db := transact s.db event } where
  sound := reads.sound.timely timely
  covers := reads.covers.grow (history_transact reads.sound timely)
  ended := reads.ended
  own := fun e member => (history_transact reads.sound timely).subset (reads.own e member)

theorem Reads.fetch (reads : Reads start userId limit s)
    (fetched : browse userId limit s .fetch = some t) : Reads start userId limit t := by
  obtain ⟨same, reader⟩ := browse_fetch fetched
  have pages : t.pages = ((s.reader userId).fetch limit).pages := congrArg Reader.pages reader
  constructor
  · rw [same]
    exact reads.sound
  · rw [reader]
    exact reads.covers.fetch
  · rintro ⟨short, member, small⟩ e mine
    change short ∈ t.pages at member
    rw [pages] at member ⊢
    rcases List.mem_append.mp member with old | new
    · exact Reader.mem_fetch_flatten.mpr (.inl (reads.ended ⟨short, old, small⟩ e mine))
    · obtain rfl := List.mem_singleton.mp new
      exact reads.covers.short small e mine
  · intro e member
    rw [pages] at member
    rw [same]
    rcases Reader.mem_fetch_flatten.mp member with old | new
    · exact reads.own e old
    · exact List.mem_of_mem_drop (List.mem_of_mem_take new)

theorem reads_of_run {acts : List Act} (sound : Sound start.entries)
    (run : Run (browse userId limit) (fun s act => act.timely s) ⟨start, []⟩ acts s) :
    Reads start userId limit s := by
  apply Run.invariant (I := Reads start userId limit) _ run (Reads.initial sound)
  intro s act t reads timely accepted
  cases act with
  | post event =>
      obtain rfl := Option.some.inj accepted
      exact reads.post timely
  | fetch => exact reads.fetch accepted

/-- A client that reads while nothing is posted. -/
theorem exact_of_fetches {acts : List Act}
    (run : Run (browse userId limit) (fun _ act => act = .fetch) ⟨start, []⟩ acts s) :
    (s.reader userId).Exact limit ∧ s.db = start := by
  have initial : (Reading.reader userId ⟨start, []⟩).Exact limit ∧ start = start := by
    refine ⟨⟨?_, ?_⟩, rfl⟩
    · change [] ++ (start.history userId).drop (0 * limit) = start.history userId
      rw [List.nil_append, Nat.zero_mul, List.drop_zero]
    · rintro ⟨page, member, -⟩
      exact absurd member List.not_mem_nil
  apply Run.invariant (I := fun s => (s.reader userId).Exact limit ∧ s.db = start) _ run initial
  rintro s _ t ⟨exact, same⟩ rfl accepted
  obtain ⟨kept, reader⟩ := browse_fetch accepted
  rw [reader, kept]
  exact ⟨exact.fetch, same⟩

end Reads

/-- A client whose last page is short has all entries there were when it began, and only
entries of its user; it has each of them in its place when nothing was posted meanwhile. -/
structure HistoryRead (start : Database) (userId : UUID) (acts : List Act) (s : Reading) :
    Prop where
  complete : ∀ e ∈ start.entries, e.userId = userId → e ∈ s.pages.flatten
  own : ∀ e ∈ s.pages.flatten, e ∈ s.db.entries ∧ e.userId = userId
  exact : (∀ act ∈ acts, act = .fetch) → s.pages.flatten = start.history userId

theorem historyRead_of_run {users : List UUID} {events : List Event} {start : Database}
    {userId : UUID} {limit : ℕ} {acts : List Act} {s : Reading}
    (before : Run (fun db event => some (transact db event)) Timely ⟨users, []⟩ events start)
    (run : Run (browse userId limit) (fun s act => act.timely s) ⟨start, []⟩ acts s)
    (ended : ∃ page ∈ s.pages, page.length < limit) : HistoryRead start userId acts s := by
  have reads : Reads start userId limit s := reads_of_run (sound_of_timely before) run
  constructor
  · intro e member mine
    exact reads.ended ended e (mem_history.mpr ⟨member, mine⟩)
  · intro e member
    exact mem_history.mp (reads.own e member)
  · intro fetches
    obtain ⟨exact, same⟩ : (s.reader userId).Exact limit ∧ s.db = start :=
      exact_of_fetches (run.among.mono fun s act both => fetches act both.2)
    rw [← same]
    exact exact.flatten ended

theorem browse_fetch_eq (userId : UUID) {limit : ℕ} (bounds : 1 ≤ limit ∧ limit ≤ 100)
    (s : Reading) : browse userId limit s .fetch =
      some ⟨s.db, s.pages ++ [page limit s.pages.length (s.db.history userId)]⟩ := by
  unfold browse page
  rw [creditHistory_eq, if_pos (by omega), Int.toNat_natCast, Int.toNat_natCast]

def readLedger : Database := ⟨[1], [⟨51, 1, 80, .CREDIT, .STRIPE, "cs_1", 80, none, 1⟩]⟩

def readEvent : Event := ⟨⟨.DEBIT, ⟨1, 30, .USAGE, "job_1", none⟩⟩, ⟨52, 2⟩⟩

/-- The entry that is posted after the first page moves the first entry to the second. -/
theorem historyRead_readLedger : ∃ s : Reading,
    Run (browse 1 1) (fun s act => act.timely s) ⟨readLedger, []⟩
        [.fetch, .post readEvent, .fetch, .fetch] s ∧
      HistoryRead readLedger 1 [.fetch, .post readEvent, .fetch, .fetch] s := by
  have before : exec (fun db event => some (transact db event)) Timely ⟨[1], []⟩
      [⟨⟨.CREDIT, ⟨1, 80, .STRIPE, "cs_1", none⟩⟩, ⟨51, 1⟩⟩] = some readLedger := by decide +kernel
  have timely : Timely readLedger readEvent := by decide +kernel
  have two : (ledgerView.rows 1 (transact readLedger readEvent).entries).length = 2 := by
    decide +kernel
  have bounds : 1 ≤ 1 ∧ 1 ≤ 100 := by decide
  have run : Run (browse 1 1) (fun s act => act.timely s) ⟨readLedger, []⟩
      [.fetch, .post readEvent, .fetch, .fetch] _ :=
    .cons trivial (browse_fetch_eq 1 bounds _) (.cons timely rfl
      (.cons trivial (browse_fetch_eq 1 bounds _) (.cons trivial (browse_fetch_eq 1 bounds _)
        (.nil _))))
  refine ⟨_, run, historyRead_of_run (exec_eq_some.mp before) run
    ⟨_, List.mem_append_right _ (List.mem_singleton_self _), ?_⟩⟩
  have short : ((transact readLedger readEvent).history 1).length = 2 :=
    (ledgerView.newestFirst_perm _).length_eq.trans two
  unfold page
  rw [List.length_take, List.length_drop, short]
  decide

end RenderTrust.Ledger
