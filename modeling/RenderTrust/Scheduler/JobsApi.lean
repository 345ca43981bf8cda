import Mathlib.Data.Prod.Lex
import RenderTrust.Lib.Pages
import RenderTrust.Scheduler.JobRaces
import RenderTrust.Scheduler.Records
import RenderTrust.Storage.Objects

/-!
# `core/api/v1/jobs.py`

The endpoints of a job over the tables of the scheduler. An answer has the times of the row as they
are; the presigned URL is made by the storage service. `created` is the column `created_at`, which
is stamped when a job is inserted and never written again; `updated_at`, which an answer has as
well, is left out.
-/
namespace RenderTrust.Scheduler
open Lib Lib.Hoare Lib.Keyed Lib.Pages Lib.Runs Lib.Stages
open Storage (S3Client StorageError contains)
open Storage.StorageService (generatePresignedUrl)

structure JobResponse (τ : Type) where
  id : String
  nodeId : String
  jobType : String
  payloadRef : String
  status : String
  resultRef : Option String
  errorMessage : Option String
  retryCount : ℕ
  queuedAt : τ
  dispatchedAt : Option τ
  completedAt : Option τ
  createdAt : τ
  deriving DecidableEq, Repr

structure JobListResponse (τ : Type) where
  jobs : List (JobResponse τ)
  count : ℕ
  deriving DecidableEq, Repr

/-- `unprocessable`: a query parameter is not one the endpoint declares. `serverError`: an exception
that nothing handles. -/
inductive JobReply (α : Type) where
  | ok (response : α)
  | unprocessable
  | httpException (statusCode : ℕ) (detail : String)
  | serverError
  deriving DecidableEq, Repr

section Endpoints
variable {τ L : Type} (created : Uuid → τ)

def JobDispatch.response (job : JobDispatch τ) : JobResponse τ where
  id := job.id.str
  nodeId := job.nodeId.str
  jobType := job.jobType
  payloadRef := job.payloadRef
  status := job.status.value
  resultRef := job.resultRef
  errorMessage := job.errorMessage
  retryCount := job.retryCount
  queuedAt := job.queuedAt
  dispatchedAt := job.dispatchedAt
  completedAt := job.completedAt
  createdAt := created job.id

def JobStatus.all : List JobStatus := [.QUEUED, .DISPATCHED, .RUNNING, .COMPLETED, .FAILED]

/-- `JobStatus(value)`. -/
def JobStatus.ofValue (value : String) : Option JobStatus :=
  JobStatus.all.find? fun status => status.value = value

def invalidStatus (statusFilter : String) : String :=
  "Invalid status: " ++ statusFilter ++ ". Valid values: [" ++
    ", ".intercalate (JobStatus.all.map fun status => "'" ++ status.value ++ "'") ++ "]"

/-- `ORDER BY created_at DESC`. Which of two jobs of one time comes first is not said; `ties` is how
it comes out. -/
def listJobs [LinearOrder τ] (ties : Uuid → ℕ) (s : Store τ L) (status : Option JobStatus)
    (limit offset : ℕ) : List (JobDispatch τ) :=
  ((orderBy (fun job => toLex (OrderDual.toDual (created job.id), ties job.id))
    (s.jobs.filter fun job => status.all (job.status = ·))).drop offset).take limit

def listJobsEndpoint [LinearOrder τ] (ties : Uuid → ℕ) (s : Store τ L)
    (statusFilter : Option String) (limit offset : ℤ) : JobReply (JobListResponse τ) :=
  if 1 ≤ limit ∧ limit ≤ 100 ∧ 0 ≤ offset then
    match statusFilter with
    | none =>
        let jobs := listJobs created ties s none limit.toNat offset.toNat
        .ok ⟨jobs.map (JobDispatch.response created), jobs.length⟩
    | some value =>
        match JobStatus.ofValue value with
        | none => .httpException 422 (invalidStatus value)
        | some status =>
            let jobs := listJobs created ties s (some status) limit.toNat offset.toNat
            .ok ⟨jobs.map (JobDispatch.response created), jobs.length⟩
  else .unprocessable

/-- `text.lower()`, of the ASCII texts of this module. -/
def lower (text : String) : String := String.ofList (text.toList.map Char.toLower)

end Endpoints

/-! ## Results stay -/

section Results
variable {L σ : Type} {created : Uuid → ℕ} {client : S3Client σ} {jobId : String}
  {response : JobResultResponse}

end Results

/-- One job a microsecond, in the order of the identifiers. -/
def sampleCreated (id : Uuid) : ℕ := id.val

def resultStore : Store ℕ ℕ := ⟨twoNodes, [finished], [], []⟩

section Lists
variable {L : Type} [LinearOrder L] [Zero L] [One L]

structure Listing (L : Type) where
  timeline : Timeline L
  pages : List (List (JobResponse ℕ))

inductive ListAct (L : Type) where
  | call (event : Event L)
  | fetch (ties : Uuid → ℕ)

/-- The job that a call inserts. -/
def JobCall.inserts : JobCall → Option Uuid
  | .dispatch _ id _ _ => some id
  | _ => none

def Call.inserts : Call L → Option Uuid
  | .job call => call.inserts
  | _ => none

variable (created : Uuid → ℕ)

/-- A client that asks for `limit` jobs at a time, without a filter. -/
def browseJobs (limit : ℕ) (s : Listing L) : ListAct L → Option (Listing L)
  | .call event => (s.timeline.step event).map fun timeline => { s with timeline }
  | .fetch ties =>
      match listJobsEndpoint created ties s.timeline.world.store none limit
        (s.pages.length * limit : ℕ) with
      | .ok response => some { s with pages := s.pages ++ [response.jobs] }
      | _ => none

/-- A job is inserted with a later stamp than those that are there. -/
def Newer (s : Listing L) : ListAct L → Prop
  | .call event => event.call.inserts.all fun id =>
      ∀ job ∈ s.timeline.world.store.jobs, created job.id < created id
  | .fetch _ => True

instance (s : Listing L) : (act : ListAct L) → Decidable (Newer created s act)
  | .call _ => inferInstanceAs (Decidable (_ = true))
  | .fetch _ => inferInstanceAs (Decidable True)

/-- No two jobs have one stamp. -/
def Store.Stamped (s : Store ℕ L) : Prop := DistinctKeys (fun job => created job.id) s.jobs

/-- The ids of the list, in its order. -/
def listedIds (s : Store ℕ L) : List String :=
  (orderBy (fun id => OrderDual.toDual (created id)) (s.jobs.map JobDispatch.id)).map Uuid.str

def Listing.reader (s : Listing L) : Reader String :=
  ⟨listedIds created s.timeline.world.store, s.pages.map fun page => page.map JobResponse.id⟩

variable {created}

section Steps
omit [LinearOrder L] [Zero L] [One L]
variable {s u v : Store ℕ L} {before : World ℕ L} {now : ℕ} {call : Call L}

theorem Store.stamped_iff :
    s.Stamped created ↔ DistinctKeys created (s.jobs.map JobDispatch.id) := by
  unfold Store.Stamped DistinctKeys
  rw [List.map_map]
  rfl

theorem Store.Stamped.distinct (stamped : s.Stamped created) : s.Distinct :=
  List.Nodup.of_map created (Store.stamped_iff.mp stamped)

/-- A flush rewrites rows in place, and adds the job that the call inserts. -/
theorem Flush.ids (flush : Flush before now call u v) :
    v.jobs.map JobDispatch.id = u.jobs.map JobDispatch.id ∨
      ∃ id, call.inserts = some id ∧ id ∉ u.jobs.map JobDispatch.id ∧
        v.jobs.map JobDispatch.id = u.jobs.map JobDispatch.id ++ [id] := by
  obtain ⟨f, fresh, rows, changed, new⟩ := flush.rows
  have same : (u.jobs.map f).map JobDispatch.id = u.jobs.map JobDispatch.id := by
    rw [List.map_map]
    exact List.map_congr_left fun job member => (changed job member).id
  rw [rows, List.map_append, same]
  cases new with
  | none => exact .inl (List.append_nil _)
  | dispatched called absent => exact .inr ⟨_, by rw [called]; rfl, absent, rfl⟩

/-- The tables of a call, whose jobs are those from before it and the one it inserts. -/
structure Inserting (created : Uuid → ℕ) (before : Store ℕ L) (call : Call L) (s : Store ℕ L) :
    Prop where
  stamped : s.Stamped created
  among : ∀ id ∈ s.jobs.map JobDispatch.id,
    id ∈ before.jobs.map JobDispatch.id ∨ call.inserts = some id

/-- The job that is inserted is newer than those that are there. -/
theorem Inserting.later (inserting : Inserting created before.store call u)
    (newer : ∀ id, call.inserts = some id →
      ∀ job ∈ before.store.jobs, created job.id < created id)
    {id : Uuid} (inserts : call.inserts = some id) (absent : id ∉ u.jobs.map JobDispatch.id) :
    ∀ old ∈ u.jobs.map JobDispatch.id, created old < created id := by
  intro old member
  rcases inserting.among old member with there | inserted
  · obtain ⟨job, inside, rfl⟩ := List.mem_map.mp there
    exact newer id inserts job inside
  · rw [inserts] at inserted
    obtain rfl := Option.some.inj inserted
    exact absurd member absent

/-- The list grows at its head. -/
theorem Inserting.flush (inserting : Inserting created before.store call u)
    (newer : ∀ id, call.inserts = some id →
      ∀ job ∈ before.store.jobs, created job.id < created id)
    (flush : Flush before now call u v) :
    Inserting created before.store call v ∧ listedIds created u <:+ listedIds created v := by
  have stamped := Store.stamped_iff.mp inserting.stamped
  rcases flush.ids with same | ⟨id, inserts, absent, added⟩
  · refine ⟨⟨?_, ?_⟩, ?_⟩
    · rw [Store.stamped_iff, same]
      exact stamped
    · rw [same]
      exact inserting.among
    · rw [listedIds, listedIds, same]
  · have later := inserting.later newer inserts absent
    refine ⟨⟨?_, ?_⟩, ?_⟩
    · rw [Store.stamped_iff, added]
      refine DistinctKeys.append_singleton stamped ?_
      intro taken
      obtain ⟨old, member, stamp⟩ := List.mem_map.mp taken
      exact (later old member).ne stamp
    · intro other member
      rw [added] at member
      rcases List.mem_append.mp member with old | new
      · exact inserting.among other old
      · rw [List.mem_singleton.mp new]
        exact .inr inserts
    · rw [listedIds, listedIds, added, orderBy_concat (fun old member => later old member)]
      exact List.suffix_cons _ _

theorem mem_listedIds {id : String} :
    id ∈ listedIds created s ↔ ∃ job ∈ s.jobs, job.id.str = id := by
  simp only [listedIds, List.mem_map, (orderBy_perm _).mem_iff, exists_exists_and_eq_and]

/-- Where no two stamps are equal there is one order of the list. -/
theorem ids_listJobs (stamped : s.Stamped created) (ties : Uuid → ℕ) (limit n : ℕ) :
    (listJobs created ties s none limit (n * limit)).map (fun job => (job.response created).id) =
      page limit n (listedIds created s) := by
  have unfiltered : (s.jobs.filter fun job =>
      (none : Option JobStatus).all (job.status = ·)) = s.jobs :=
    List.filter_eq_self.mpr fun _ _ => rfl
  have alike : ∀ a ∈ s.jobs, ∀ b ∈ s.jobs,
      toLex (OrderDual.toDual (created a.id), ties a.id) ≤
          toLex (OrderDual.toDual (created b.id), ties b.id) ↔
        OrderDual.toDual (created a.id) ≤ OrderDual.toDual (created b.id) := by
    intro a ha b hb
    rw [Prod.Lex.toLex_le_toLex]
    constructor
    · rintro (before | ⟨same, -⟩)
      · exact before.le
      · exact same.le
    · intro before
      rcases before.lt_or_eq with less | same
      · exact .inl less
      · obtain rfl := List.inj_on_of_nodup_map stamped ha hb same
        exact .inr ⟨rfl, le_rfl⟩
  have ordered : (orderBy (fun job => toLex (OrderDual.toDual (created job.id), ties job.id))
      s.jobs).map JobDispatch.id =
        orderBy (fun id => OrderDual.toDual (created id)) (s.jobs.map JobDispatch.id) :=
    map_orderBy alike
  unfold listJobs page listedIds
  rw [unfiltered, ← ordered, List.map_map, List.map_take, List.map_drop]
  rfl

theorem listJobsEndpoint_ok (stamped : s.Stamped created) {ties : Uuid → ℕ} {limit n : ℕ}
    {response : JobListResponse ℕ}
    (answered : listJobsEndpoint created ties s none limit (n * limit : ℕ) = .ok response) :
    response.jobs.map JobResponse.id = page limit n (listedIds created s) := by
  unfold listJobsEndpoint at answered
  split at answered
  · cases answered
    rw [← ids_listJobs stamped ties, List.map_map, Int.toNat_natCast, Int.toNat_natCast]
    rfl
  · cases answered

end Steps

theorem listedIds_step {t u : Timeline L} {e : Event L} (stamped : t.world.store.Stamped created)
    (newer : ∀ id, e.call.inserts = some id →
      ∀ job ∈ t.world.store.jobs, created job.id < created id)
    (stepped : t.step e = some u) :
    u.world.store.Stamped created ∧
      listedIds created t.world.store <:+ listedIds created u.world.store := by
  obtain rfl := Option.some.inj stepped
  let x := serve e.now e.call t.world
  have start : Inserting created t.world.store e.call t.world.store :=
    ⟨stamped, fun _ member => .inl member⟩
  have path : Path (fun u v => Inserting created t.world.store e.call v ∧
      listedIds created u <:+ listedIds created v) t.world.store x.after.store x.passed :=
    path_of_serve (I := Inserting created t.world.store e.call)
      (fun _ here => here.stamped.distinct) (fun _ _ step _ => step.1)
      (fun _ _ here flush => here.flush newer flush) start
  have ended := path.invariant
    (I := fun v => Inserting created t.world.store e.call v ∧
      listedIds created t.world.store <:+ listedIds created v)
    (fun _ _ step before => ⟨step.1, before.2.trans step.2⟩) ⟨start, List.suffix_rfl⟩
  exact ⟨ended.1.stamped, ended.2⟩

section Reads
variable {limit : ℕ} {s t : Listing L} {start : Store ℕ L} {ties : Uuid → ℕ}

theorem browseJobs_fetch (stamped : s.timeline.world.store.Stamped created)
    (h : browseJobs created limit s (.fetch ties) = some t) :
    t.timeline = s.timeline ∧ t.reader created = (s.reader created).fetch limit := by
  change (match listJobsEndpoint created ties s.timeline.world.store none limit
      (s.pages.length * limit : ℕ) with
    | .ok response => some { s with pages := s.pages ++ [response.jobs] }
    | _ => none) = some t at h
  split at h
  · rename_i response answered
    obtain rfl := Option.some.inj h
    refine ⟨rfl, ?_⟩
    unfold Listing.reader Reader.fetch
    simp only [List.map_append, List.map_cons, List.map_nil,
      listJobsEndpoint_ok stamped answered, List.length_map]
  · cases h

/-- What the client has, and what there still is for it, covers the jobs there were. -/
structure Listed (created : Uuid → ℕ) (limit : ℕ) (start : Store ℕ L) (s : Listing L) : Prop where
  stamped : s.timeline.world.store.Stamped created
  covers : (s.reader created).Covers limit (listedIds created start)
  ended : (s.reader created).Ended limit →
    ∀ id ∈ listedIds created start, id ∈ (s.reader created).pages.flatten
  own : ∀ id ∈ (s.reader created).pages.flatten, id ∈ (s.reader created).rows

omit [LinearOrder L] [Zero L] [One L] in
theorem Listed.initial {timeline : Timeline L} (stamped : timeline.world.store.Stamped created) :
    Listed created limit timeline.world.store ⟨timeline, []⟩ where
  stamped := stamped
  covers := by
    intro id member
    right
    change id ∈ (listedIds created timeline.world.store).drop (0 * limit)
    rwa [Nat.zero_mul, List.drop_zero]
  ended := by
    rintro ⟨page, member, -⟩
    exact absurd member List.not_mem_nil
  own := fun id member => absurd member List.not_mem_nil

theorem Listed.call {e : Event L} (listed : Listed created limit start s)
    (newer : Newer created s (.call e)) (called : browseJobs created limit s (.call e) = some t) :
    Listed created limit start t := by
  change (s.timeline.step e).map (fun timeline => { s with timeline }) = some t at called
  obtain ⟨timeline, stepped, rfl⟩ := Option.map_eq_some_iff.mp called
  have later : ∀ id, e.call.inserts = some id →
      ∀ job ∈ s.timeline.world.store.jobs, created job.id < created id :=
    fun id inserts => of_decide_eq_true ((Option.all_eq_true _ _).mp newer id inserts)
  obtain ⟨stamped, grown⟩ := listedIds_step listed.stamped later stepped
  constructor
  · exact stamped
  · exact listed.covers.grow grown
  · exact listed.ended
  · intro id member
    exact grown.subset (listed.own id member)

theorem Listed.fetch (listed : Listed created limit start s)
    (fetched : browseJobs created limit s (.fetch ties) = some t) :
    Listed created limit start t := by
  obtain ⟨same, reader⟩ := browseJobs_fetch listed.stamped fetched
  constructor
  · rw [same]
    exact listed.stamped
  · rw [reader]
    exact listed.covers.fetch
  · rw [reader]
    rintro ⟨short, member, small⟩ id there
    rcases List.mem_append.mp member with old | new
    · exact Reader.mem_fetch_flatten.mpr (.inl (listed.ended ⟨short, old, small⟩ id there))
    · rw [List.mem_singleton.mp new] at small
      exact listed.covers.short small id there
  · rw [reader]
    intro id member
    rcases Reader.mem_fetch_flatten.mp member with old | new
    · exact listed.own id old
    · exact List.mem_of_mem_drop (List.mem_of_mem_take new)

end Reads

/-- Every job there was when the client began is on one of its pages, and every job on them is in
the table. -/
structure JobsListed (start : Store ℕ L) (s : Listing L) : Prop where
  complete : ∀ job ∈ start.jobs, ∃ page ∈ s.pages, ∃ listed ∈ page, listed.id = job.id.str
  own : ∀ page ∈ s.pages, ∀ listed ∈ page,
    ∃ job ∈ s.timeline.world.store.jobs, job.id.str = listed.id

/-- A client that reads the list until a page is not full has missed no job, whatever the scheduler
did to the jobs meanwhile, as long as no two jobs have one stamp and new ones have later stamps. -/
theorem jobsListed_of_run {limit : ℕ} {timeline : Timeline L} {acts : List (ListAct L)}
    {s : Listing L} (stamped : timeline.world.store.Stamped created)
    (run : Run (browseJobs created limit) (Newer created) ⟨timeline, []⟩ acts s)
    (ended : ∃ page ∈ s.pages, page.length < limit) : JobsListed timeline.world.store s := by
  have listed : Listed created limit timeline.world.store s := by
    apply Run.invariant (I := Listed created limit timeline.world.store) _ run
      (Listed.initial stamped)
    intro s act t listed newer accepted
    cases act with
    | call e => exact listed.call newer accepted
    | fetch ties => exact listed.fetch accepted
  have short : (s.reader created).Ended limit := by
    obtain ⟨page, member, small⟩ := ended
    refine ⟨page.map JobResponse.id, List.mem_map_of_mem member, ?_⟩
    rwa [List.length_map]
  constructor
  · intro job member
    have there := listed.ended short job.id.str (mem_listedIds.mpr ⟨job, member, rfl⟩)
    obtain ⟨ids, inside, id⟩ := List.mem_flatten.mp there
    obtain ⟨page, member, rfl⟩ := List.mem_map.mp inside
    obtain ⟨response, here, same⟩ := List.mem_map.mp id
    exact ⟨page, member, response, here, same⟩
  · intro page member response here
    apply mem_listedIds.mp
    apply listed.own
    exact List.mem_flatten.mpr ⟨_, List.mem_map_of_mem member, List.mem_map_of_mem here⟩

end Lists

/-- The job that is dispatched after the first page moves the first job to the second. -/
def listedActs : List (ListAct ℕ) :=
  [.fetch fun _ => 0, .call ⟨4, .job (.dispatch true 8 "render" "s3://other")⟩, .fetch fun _ => 0,
    .fetch fun _ => 0]

theorem jobsListed_listedActs : ∃ s : Listing ℕ,
    Run (browseJobs sampleCreated 1) (Newer sampleCreated) ⟨.opening ⟨resultStore, .new⟩, []⟩
        listedActs s ∧
      JobsListed resultStore s := by
  have accepted : (exec (browseJobs sampleCreated 1) (Newer sampleCreated)
      ⟨.opening ⟨resultStore, .new⟩, []⟩ listedActs).any
      fun s => ∃ page ∈ s.pages, page.length < 1 := by decide +kernel
  obtain ⟨s, run, ended⟩ := run_of_any accepted
  have stamped : resultStore.Stamped sampleCreated := List.nodup_singleton _
  exact ⟨s, run, jobsListed_of_run stamped run (of_decide_eq_true ended)⟩

end RenderTrust.Scheduler
