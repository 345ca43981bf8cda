import RenderTrust.Ledger.Outcomes

/-!
# Many calls in one session

A session makes calls one after another and commits at the end, while other
transactions commit rows. A flush that the database refuses rolls the whole session
back, and with it the rows of the calls before.
-/
namespace RenderTrust.Ledger
open Lib.Rounding Lib.Journal Lib.Keyed Lib.Runs

structure Visit where
  call : Call
  defaults : Defaults
  others : Meanwhile
  deriving DecidableEq, Repr

/-- After a failed statement PostgreSQL refuses every other and turns COMMIT into
ROLLBACK; after a failed flush the session itself refuses, COMMIT included. -/
inductive Status where
  | active
  | aborted
  | inactive
  deriving DecidableEq, Repr

def Visit.statusAfter (v : Visit) : LedgerError → Status
  | .dataError => if bindable v.call.args.referenceId then .inactive else .aborted
  | _ => .active

structure Batch where
  session : Session
  status : Status
  returned : List CreditLedgerEntry

namespace Batch

def begin (db : Database) : Batch := ⟨.begin db, .active, []⟩

def visit (b : Batch) (v : Visit) : Batch :=
  match b.status with
  | .active =>
      match (v.call.runAmid v.defaults v.others).run b.session with
      | .ok entry s => ⟨s, .active, b.returned ++ [entry]⟩
      | .error e s => ⟨s, v.statusAfter e, b.returned⟩
  | _ => b

def commit (b : Batch) : Option Database :=
  match b.status with
  | .active => some b.session.working
  | .aborted => some b.session.committed
  | .inactive => none

def step (b : Batch) (v : Visit) : Option Batch := some (b.visit v)

end Batch

def Holds (db : Database) (returned : List CreditLedgerEntry) : Prop :=
  ∀ entry ∈ returned, ∃ row ∈ db.entries, entry.stored = some row

instance (db : Database) (returned : List CreditLedgerEntry) : Decidable (Holds db returned) :=
  inferInstanceAs (Decidable (∀ entry ∈ returned, ∃ row ∈ db.entries, entry.stored = some row))

/-- Every entry a call returned is in the ledger once the session has committed. -/
def Batch.Kept (b : Batch) : Prop := ∀ db, b.commit = some db → Holds db b.returned

/-! ## The session between calls -/

namespace Session

structure Coherent (s : Session) : Prop where
  working : s.working.Valid
  committed : s.committed.Valid
  sees : s.committed.entries ⊆ s.working.entries
  users : s.committed.users = s.working.users

theorem Coherent.begin {db : Database} (valid : db.Valid) : (Session.begin db).Coherent :=
  ⟨valid, valid, List.Subset.refl _, rfl⟩

theorem Coherent.rollback {s : Session} (h : s.Coherent) : s.rollback.Coherent :=
  ⟨h.committed, h.committed, List.Subset.refl _, rfl⟩

theorem Coherent.unique {s : Session} (h : s.Coherent) {row : CreditLedgerEntry}
    (unique : s.working.Unique row) : s.committed.Unique row :=
  ⟨fun taken => unique.1 (List.map_subset _ h.sees taken),
    fun taken => unique.2 (List.map_subset _ h.sees taken)⟩

theorem receive_cases (s : Session) (e : CreditLedgerEntry) :
    s.receive e = s ∨ ∃ row, e.stored = some row ∧ s.working.Checks row ∧ s.working.Unique row ∧
      s.receive e = ⟨s.committed.append row, s.working.append row⟩ := by
  unfold receive
  split
  · exact .inl rfl
  · rename_i row stored
    split
    · rename_i admitted
      exact .inr ⟨row, stored, admitted.1, admitted.2, rfl⟩
    · exact .inl rfl

theorem Coherent.receive {s : Session} (h : s.Coherent) (e : CreditLedgerEntry) :
    (s.receive e).Coherent := by
  rcases s.receive_cases e with same | ⟨row, stored, checks, unique, same⟩
  · rw [same]
    exact h
  · rw [same]
    have kept := CreditLedgerEntry.stored_stored stored
    refine ⟨h.working.append kept checks unique, ?_, ?_, h.users⟩
    · refine h.committed.append kept ⟨checks.1, ?_⟩ (h.unique unique)
      rw [h.users]
      exact checks.2
    · exact List.append_subset.mpr ⟨fun _ member => List.mem_append_left _ (h.sees member),
        List.subset_append_right _ _⟩

theorem Coherent.meet {s : Session} (h : s.Coherent) (others : List CreditLedgerEntry) :
    (s.meet others).Coherent := by
  induction others generalizing s with
  | nil => exact h
  | cons e others ih => exact ih (h.receive e)

theorem meet_meet (s : Session) (others rest : List CreditLedgerEntry) :
    (s.meet others).meet rest = s.meet (others ++ rest) :=
  List.foldl_append.symm

theorem mem_meet {s : Session} {row : CreditLedgerEntry} (others : List CreditLedgerEntry)
    (member : row ∈ s.working.entries) : row ∈ (s.meet others).working.entries := by
  induction others generalizing s with
  | nil => exact member
  | cons e others ih =>
      refine ih ?_
      rcases s.receive_cases e with same | ⟨new, _, _, _, same⟩
      · rw [same]
        exact member
      · rw [same]
        exact List.mem_append_left _ member

/-- What comes in is a row of the others. -/
theorem mem_of_meet {s : Session} {row : CreditLedgerEntry} {others : List CreditLedgerEntry}
    (h : row ∈ (s.meet others).working.entries) :
    row ∈ s.working.entries ∨ ∃ e ∈ others, e.stored = some row := by
  induction others generalizing s with
  | nil => exact .inl h
  | cons e others ih =>
      rcases ih h with member | ⟨other, among, stored⟩
      · rcases s.receive_cases e with same | ⟨new, stored, _, _, same⟩
        · rw [same] at member
          exact .inl member
        · rw [same] at member
          rcases List.mem_append.mp member with old | added
          · exact .inl old
          · rw [← List.mem_singleton.mp added] at stored
            exact .inr ⟨e, List.mem_cons_self, stored⟩
      · exact .inr ⟨other, List.mem_cons_of_mem e among, stored⟩

theorem meet_users (s : Session) (others : List CreditLedgerEntry) :
    (s.meet others).working.users = s.working.users := by
  induction others generalizing s with
  | nil => rfl
  | cons e others ih =>
      refine (ih (s.receive e)).trans ?_
      rcases s.receive_cases e with same | ⟨new, _, _, _, same⟩ <;> rw [same]
      rfl

theorem Coherent.posted {s : Session} (h : s.Coherent) {e row : CreditLedgerEntry}
    (stored : e.stored = some row) (checks : s.working.Checks row)
    (unique : s.working.Unique row) : Coherent { s with working := s.working.append row } :=
  ⟨h.working.append (CreditLedgerEntry.stored_stored stored) checks unique, h.committed,
    fun _ member => List.mem_append_left _ (h.sees member), h.users⟩

/-- The session has flushed nothing since it began or was rolled back. -/
def Clean (s : Session) : Prop := s.working = s.committed

instance (s : Session) : Decidable s.Clean := inferInstanceAs (Decidable (_ = _))

theorem Clean.rollback {s : Session} (h : s.Clean) : s.rollback = s := by
  cases s with
  | mk committed working =>
      obtain rfl : working = committed := h
      rfl

theorem Clean.meet {s : Session} (h : s.Clean) (others : List CreditLedgerEntry) :
    (s.meet others).Clean := by
  induction others generalizing s with
  | nil => exact h
  | cons e others ih =>
      refine ih ?_
      unfold Clean at h ⊢
      rcases s.receive_cases e with same | ⟨new, _, _, _, same⟩
      · rw [same]
        exact h
      · rw [same, h]

end Session

/-! ## No call is lost -/

/-- The database has no reason to refuse the call: in particular no other transaction
commits its key between its SELECT and its flush. -/
structure Undisturbed (s : Session) (v : Visit) : Prop where
  readable : bindable v.call.args.referenceId
  user : v.call.args.userId ∈ s.working.users
  fresh : ∀ e ∈ s.working.entries ++ (v.others.select ++ v.others.lock ++ v.others.flush),
    e.id ≠ v.defaults.id
  free : ∀ e ∈ v.others.lock ++ v.others.flush, e.key ≠ v.call.key

def Undisturbed.Here (b : Batch) (v : Visit) : Prop :=
  b.status = .active → b.session.Clean ∨ Undisturbed b.session v

section Keeping
variable {b : Batch} {v : Visit} {s t u : Session} {returned : List CreditLedgerEntry}

theorem Holds.meet (h : Holds s.working returned) (others : List CreditLedgerEntry) :
    Holds (s.meet others).working returned := by
  intro entry member
  obtain ⟨row, present, stored⟩ := h entry member
  exact ⟨row, Session.mem_meet others present, stored⟩

theorem Holds.concat {db : Database} {entry row : CreditLedgerEntry} (h : Holds db returned)
    (present : row ∈ db.entries) (stored : entry.stored = some row) :
    Holds db (returned ++ [entry]) := by
  intro e member
  rcases List.mem_append.mp member with old | new
  · exact h e old
  · rw [List.mem_singleton.mp new]
    exact ⟨row, present, stored⟩

theorem Holds.append {db : Database} (h : Holds db returned) (row : CreditLedgerEntry) :
    Holds (db.append row) returned := by
  intro entry member
  obtain ⟨old, present, stored⟩ := h entry member
  exact ⟨old, List.mem_append_left _ present, stored⟩

/-- What reaches the flush of an undisturbed call is admitted. -/
theorem Undisturbed.admits {newBalance : Decimal} {row : CreditLedgerEntry} (h : Undisturbed s v)
    (coherent : s.Coherent) (positive : 0 < v.call.args.amount)
    (ht : t = s.meet v.others.select) (hu : u = t.meet v.others.lock)
    (existing : (t.working.byReference v.call.args.referenceId v.call.direction).bind
      scalarOneOrNone = .ok none)
    (settled : v.call.settle (currentBalance (u.working.lastEntry v.call.args.userId)) =
      .ok newBalance)
    (stored : (newEntry v.call.direction v.call.args v.defaults newBalance).stored = some row) :
    (u.meet v.others.flush).working.Checks row ∧ (u.meet v.others.flush).working.Unique row := by
  obtain ⟨key, user, id⟩ := CreditLedgerEntry.stored_key stored
  have nonneg : 0 ≤ row.balanceAfter := by
    obtain ⟨amount, balanceAfter, _, hbalance, same⟩ := CreditLedgerEntry.stored_eq_some stored
    have current : 0 ≤ currentBalance (u.working.lastEntry v.call.args.userId) := by
      subst ht hu
      exact ((coherent.meet _).meet _).working.currentBalance_nonneg _
    rw [same]
    exact fixed_nonneg hbalance (Call.settle_nonneg current positive settled)
  refine ⟨⟨nonneg, ?_⟩, ?_, ?_⟩
  · rw [user, hu, ht, Session.meet_users, Session.meet_users, Session.meet_users]
    exact h.user
  · rw [id, hu, ht, Session.meet_meet, Session.meet_meet, ← List.append_assoc, List.mem_map]
    rintro ⟨e, member, same⟩
    rcases Session.mem_of_meet member with old | ⟨other, among, stored⟩
    · exact h.fresh e (List.mem_append_left _ old) same
    · refine h.fresh other (List.mem_append_right _ among) ?_
      rw [← (CreditLedgerEntry.stored_key stored).2.2]
      exact same
  · rw [key, hu, Session.meet_meet, List.mem_map]
    rintro ⟨e, member, same⟩
    rcases Session.mem_of_meet member with old | ⟨other, among, stored⟩
    · exact Call.free_of_existing existing e old same
    · refine h.free other among ?_
      rw [← (CreditLedgerEntry.stored_key stored).1]
      exact same

/-- The session and what it has returned, while it can go on. -/
structure Batch.Sound (b : Batch) : Prop where
  coherent : b.session.Coherent
  kept : b.Kept

theorem Batch.Sound.begin {db : Database} (valid : db.Valid) : (Batch.begin db).Sound where
  coherent := .begin valid
  kept := by
    intro left _ entry member
    exact absurd member List.not_mem_nil

theorem kept_active (h : Holds s.working returned) : (Batch.mk s .active returned).Kept := by
  intro db committed
  rwa [← Option.some.inj committed]

theorem kept_failed {e : LedgerError} (working : e ≠ .dataError → Holds s.working returned)
    (committed : e = .dataError → bindable v.call.args.referenceId = false →
      Holds s.committed returned) : (Batch.mk s (v.statusAfter e) returned).Kept := by
  unfold Visit.statusAfter
  split
  · split
    · intro db left
      cases left
    · rename_i unreadable
      intro db left
      rw [← Option.some.inj left]
      exact committed rfl (Bool.eq_false_iff.mpr unreadable)
  · rename_i other
    exact kept_active (working other)

theorem reselected (coherent : s.Coherent) (held : Holds s.working returned)
    (readable : bindable v.call.args.referenceId) :
    Batch.Sound (match atSession
        ((s.working.byReference v.call.args.referenceId v.call.direction).bind scalarOne) s with
      | .ok entry t => ⟨t, .active, returned ++ [entry]⟩
      | .error e t => ⟨t, v.statusAfter e, returned⟩) := by
  cases again : (s.working.byReference v.call.args.referenceId v.call.direction).bind scalarOne with
  | error e =>
      refine ⟨coherent, kept_failed (fun _ => held) ?_⟩
      intro _ unreadable
      rw [readable] at unreadable
      cases unreadable
  | ok row =>
      obtain ⟨member, _⟩ := Call.mem_of_reselected again
      exact ⟨coherent, kept_active (held.concat member (coherent.working.stored row member))⟩

theorem not_unreadable {p : Prop} {db : Database} {found : Option CreditLedgerEntry}
    (existing : (db.byReference v.call.args.referenceId v.call.direction).bind scalarOneOrNone =
      .ok found) (unreadable : bindable v.call.args.referenceId = false) : p := by
  rw [Call.readable_of_existing existing] at unreadable
  cases unreadable

theorem Batch.Sound.visit (h : b.Sound) (here : Undisturbed.Here b v) : (b.visit v).Sound := by
  obtain ⟨session, status, returned⟩ := b
  cases status with
  | aborted => exact h
  | inactive => exact h
  | active =>
      have coherent := h.coherent
      have held : Holds session.working returned := h.kept session.working rfl
      have safe : session.Clean ∨ Undisturbed session v := here rfl
      have all : Passage v.others v.call.direction v.call.notPositive v.call.settle v.call.args
          v.defaults session ((v.call.runAmid v.defaults v.others).run session) :=
        postEntryAmid_passage session
      simp only [Batch.visit]
      generalize (v.call.runAmid v.defaults v.others).run session = r at all ⊢
      cases all with
      | rejected small =>
          refine ⟨coherent, kept_failed (fun _ => held) ?_⟩
          intro same
          cases same
      | unreadable positive ht existing =>
          subst ht
          refine ⟨coherent.meet _, kept_failed (fun _ => held.meet _) ?_⟩
          intro _ unreadable
          cases safe with
          | inl clean =>
              rw [← clean.meet v.others.select]
              exact held.meet _
          | inr undisturbed =>
              rw [undisturbed.readable] at unreadable
              cases unreadable
      | replayed positive ht existing =>
          subst ht
          obtain ⟨member, _⟩ := Call.mem_of_existing existing
          refine ⟨coherent.meet _, kept_active ((held.meet _).concat member ?_)⟩
          exact (coherent.meet _).working.stored _ member
      | refused positive ht hu existing settled =>
          subst ht hu
          refine ⟨(coherent.meet _).meet _, kept_failed (fun _ => (held.meet _).meet _) ?_⟩
          intro same
          rw [Call.settle_error settled] at same
          cases same
      | posted positive ht hu hv existing settled inserted =>
          subst ht hu hv
          obtain ⟨row, stored, checks, unique, rfl⟩ := Database.insert_eq_ok inserted
          have before := ((coherent.meet v.others.select).meet v.others.lock).meet v.others.flush
          refine ⟨before.posted stored checks unique, kept_active ?_⟩
          refine ((((held.meet _).meet _).meet _).append row).concat ?_ stored
          exact List.mem_append_right _ (List.mem_singleton_self row)
      | unstorable positive ht hu hv existing settled inserted =>
          subst ht hu hv
          refine ⟨(((coherent.meet _).meet _).meet _).rollback, kept_failed ?_ ?_⟩
          · intro other
            exact absurd rfl other
          · intro _ unreadable
            exact not_unreadable existing unreadable
      | conflicting positive ht hu hv hw existing settled inserted =>
          obtain ⟨row, stored, refused⟩ := Database.insert_refused inserted
          cases safe with
          | inr undisturbed =>
              rw [hv] at refused
              exact absurd (undisturbed.admits coherent positive ht hu existing settled stored)
                refused
          | inl clean =>
              have same := ((clean.meet v.others.select).meet v.others.lock).meet v.others.flush
              subst ht hu hv hw
              rw [same.rollback]
              exact reselected ((((coherent.meet _).meet _).meet _).meet _)
                ((((held.meet _).meet _).meet _).meet _) (Call.readable_of_existing existing)

/-- In every session whose calls are undisturbed while it has uncommitted rows, nothing
that a call returned is lost. -/
theorem kept_of_run {db : Database} {visits : List Visit} (valid : db.Valid)
    (run : Run Batch.step Undisturbed.Here (Batch.begin db) visits b) : b.Kept := by
  have sound : b.Sound := by
    refine Run.invariant (I := Batch.Sound) ?_ run (.begin valid)
    intro b v b' sound here moved
    obtain rfl := Option.some.inj moved
    exact sound.visit here
  exact sound.kept

end Keeping

def paid (id userId : UUID) (referenceId : String) : CreditLedgerEntry :=
  ⟨id, userId, 50, .CREDIT, .ADJUSTMENT, referenceId, 50, none, 2⟩

def pay (id userId : UUID) (referenceId : String) (others : List CreditLedgerEntry) : Visit :=
  ⟨⟨.CREDIT, ⟨userId, 50, .ADJUSTMENT, referenceId, none⟩⟩, ⟨id, 2⟩,
    { Meanwhile.quiet with flush := others }⟩

/-- The first call loses its key, with nothing uncommitted; the second meets a row of
another key. -/
theorem kept_of_run_firstLoses : ∃ b, b.Kept ∧ Run Batch.step Undisturbed.Here
    (Batch.begin ⟨[1, 2], []⟩)
    [pay 11 1 "payout_1" [paid 21 1 "payout_1"], pay 12 2 "payout_2" [paid 22 1 "payout_3"]] b := by
  have run : Run Batch.step Undisturbed.Here (Batch.begin ⟨[1, 2], []⟩)
      [pay 11 1 "payout_1" [paid 21 1 "payout_1"], pay 12 2 "payout_2" [paid 22 1 "payout_3"]]
      (((Batch.begin ⟨[1, 2], []⟩).visit (pay 11 1 "payout_1" [paid 21 1 "payout_1"])).visit
        (pay 12 2 "payout_2" [paid 22 1 "payout_3"])) := by
    refine .cons (fun _ => .inl rfl) rfl (.cons (fun _ => .inr ?_) rfl (.nil _))
    exact ⟨by decide +kernel, by decide +kernel, by decide +kernel, by decide +kernel⟩
  exact ⟨_, kept_of_run (Database.Valid.nil [1, 2]) run, run⟩

/-- When the second call loses its key, the first has returned an entry that is gone. -/
theorem lost_uncommitted :
    ¬ ∀ (visits : List Visit) (b : Batch),
      Run Batch.step Always (Batch.begin ⟨[1, 2], []⟩) visits b → b.Kept := by
  intro claim
  have accepted : (exec Batch.step Always (Batch.begin ⟨[1, 2], []⟩)
      [pay 11 1 "payout_1" [], pay 12 2 "payout_2" [paid 21 2 "payout_2"]]).any
        (fun b => b.commit.any (fun db => decide ¬ Holds db b.returned)) := by decide +kernel
  obtain ⟨b, run, gone⟩ := run_of_any accepted
  obtain ⟨db, committed, gone⟩ := (Option.any_eq_true _ _).mp gone
  exact of_decide_eq_true gone (claim _ b run db committed)

end RenderTrust.Ledger
