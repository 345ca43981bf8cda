import RenderTrust.Billing.Usage
import RenderTrust.Lib.Migrations

/-!
# `alembic/versions`

The six migrations, with their operations in the order of the source.
-/
namespace RenderTrust.Alembic
open Lib Lib.Schema Lib.Migrations
open Ledger (Decimal)

inductive Value where
  | null
  | uuid (id : Uuid)
  | text (s : String)
  | number (d : Decimal)
  | other (s : String)

def idColumn : Column where
  name := "id"
  type := .builtin "Uuid"
  primaryKey := true
  default := some (.sql "gen_random_uuid()")

def timestamp (name : String) : Column where
  name := name
  type := .builtin "DateTime(timezone=True)"
  default := some (.sql "now()")

def moment (name : String) : Column where
  name := name
  type := .builtin "DateTime(timezone=True)"
  nullable := true

def string (length : String) (name : String) : Column where
  name := name
  type := .builtin ("String(" ++ length ++ ")")

def text (name : String) (nullable : Bool) : Column where
  name := name
  type := .builtin "Text"
  nullable := nullable

def json (name : String) (nullable : Bool) : Column where
  name := name
  type := .builtin "JSON"
  nullable := nullable

def flag (name default : String) : Column where
  name := name
  type := .builtin "Boolean"
  default := some (.sql default)

def numeric (name : String) : Column where
  name := name
  type := .builtin "Numeric(12, 4)"

def key (name table : String) (onDelete : Option String) : Column where
  name := name
  type := .builtin "Uuid"
  foreignKey := some ⟨table, "id", onDelete⟩

def retryCount : Column where
  name := "retry_count"
  type := .builtin "Integer"
  default := some (.sql "0")

def users : Table where
  columns := [
    idColumn,
    { string "255" "email" with unique := true },
    string "255" "name",
    string "255" "hashed_password",
    flag "is_active" "true",
    flag "is_admin" "false",
    timestamp "created_at",
    timestamp "updated_at"]

def projects : Table where
  columns := [
    idColumn,
    string "255" "name",
    text "description" true,
    key "owner_id" "users" (some "CASCADE"),
    timestamp "created_at",
    timestamp "updated_at"]

def creditLedgerEntries : Table where
  columns := [
    idColumn,
    key "user_id" "users" (some "CASCADE"),
    numeric "amount",
    { name := "direction", type := .enum "transaction_direction" },
    { name := "source", type := .enum "transaction_source" },
    string "255" "reference_id",
    numeric "balance_after",
    text "description" true,
    timestamp "created_at",
    timestamp "updated_at"]
  constraints := [
    ⟨some "uq_ledger_reference_direction", .unique, ["reference_id", "direction"]⟩,
    ⟨some "ck_ledger_balance_non_negative", .check "balance_after >= 0", ["balance_after"]⟩]

def edgeNodes : Table where
  columns := [
    idColumn,
    text "public_key" false,
    string "255" "name",
    json "capabilities" true,
    { string "20" "status" with default := some (.literal "REGISTERED") },
    moment "last_heartbeat",
    { name := "current_load", type := .builtin "Float", default := some (.sql "0.0") },
    json "metadata" true,
    timestamp "created_at",
    timestamp "updated_at"]

def jobDispatches : Table where
  columns := [
    idColumn,
    key "node_id" "edge_nodes" none,
    string "100" "job_type",
    string "500" "payload_ref",
    { string "20" "status" with default := some (.literal "QUEUED") },
    timestamp "queued_at",
    moment "dispatched_at",
    moment "completed_at",
    timestamp "created_at",
    timestamp "updated_at"]

def deadLetterQueue : Table where
  columns := [
    { name := "id", type := .builtin "Uuid" },
    key "job_id" "job_dispatches" none,
    string "500" "original_payload",
    json "error_history" false,
    timestamp "failed_at",
    retryCount,
    timestamp "created_at",
    timestamp "updated_at"]
  constraints := [⟨none, .primaryKey, ["id"]⟩]

def jobPricing : Table where
  columns := [
    { name := "id", type := .builtin "Uuid" },
    string "100" "job_type",
    numeric "credits_per_unit",
    { string "50" "unit_type" with default := some (.literal "per_job") },
    flag "is_active" "true",
    timestamp "created_at",
    timestamp "updated_at"]
  constraints := [
    ⟨none, .primaryKey, ["id"]⟩,
    ⟨some "uq_job_pricing_job_type", .unique, ["job_type"]⟩]

def _SEED_PRICING : List (String × Decimal × String) :=
  [("render", 10, "per_job"), ("inference", 5, "per_job"), ("echo", 0, "per_job"),
    ("cpu_benchmark", 1, "per_job")]

/-- The seeds are the prices of `core/billing/usage.py`. -/
example : (_SEED_PRICING.map fun (jobType, price, _) => (jobType, price)) =
    Billing.DEFAULT_PRICING := rfl

/-- The seeds, with the id that is drawn for each. -/
def seeds (ids : ℕ → Value) : List (Row Value) :=
  _SEED_PRICING.zipIdx.map fun ((jobType, creditsPerUnit, unitType), i) =>
    [("id", ids i), ("job_type", .text jobType), ("credits_per_unit", .number creditsPerUnit),
      ("unit_type", .text unitType)]

def baselineUsersProjects : Migration Value where
  revision := "0001_baseline"
  downRevision := none
  upgrade := [
    .createTable "users" users,
    .createIndex {
      name := "ix_users_email"
      table := "users"
      columns := ["email"]
      unique := true },
    .createTable "projects" projects,
    .createIndex { name := "ix_projects_owner_id", table := "projects", columns := ["owner_id"] }]
  downgrade := [
    .dropIndex "ix_projects_owner_id",
    .dropTable "projects",
    .dropIndex "ix_users_email",
    .dropTable "users"]

def addCreditLedgerEntries : Migration Value where
  revision := "0002_credit_ledger"
  downRevision := some "0001_baseline"
  upgrade := [
    .createType "transaction_direction" ["CREDIT", "DEBIT"],
    .createType "transaction_source" ["STRIPE", "USAGE", "ADJUSTMENT", "REFUND"],
    .createTable "credit_ledger_entries" creditLedgerEntries,
    .createIndex {
      name := "ix_credit_ledger_entries_user_id"
      table := "credit_ledger_entries"
      columns := ["user_id"] },
    .createIndex {
      name := "ix_credit_ledger_entries_reference_id"
      table := "credit_ledger_entries"
      columns := ["reference_id"] }]
  downgrade := [
    .dropIndex "ix_credit_ledger_entries_reference_id",
    .dropIndex "ix_credit_ledger_entries_user_id",
    .dropTable "credit_ledger_entries",
    .dropType "transaction_source",
    .dropType "transaction_direction"]

def addSchedulerTables : Migration Value where
  revision := "0003_scheduler"
  downRevision := some "0002_credit_ledger"
  upgrade := [
    .createTable "edge_nodes" edgeNodes,
    .createIndex { name := "ix_edge_nodes_status", table := "edge_nodes", columns := ["status"] },
    .createIndex {
      name := "ix_edge_nodes_last_heartbeat"
      table := "edge_nodes"
      columns := ["last_heartbeat"] },
    .createTable "job_dispatches" jobDispatches,
    .createIndex {
      name := "ix_job_dispatches_node_id"
      table := "job_dispatches"
      columns := ["node_id"] },
    .createIndex {
      name := "ix_job_dispatches_status"
      table := "job_dispatches"
      columns := ["status"] }]
  downgrade := [
    .dropIndex "ix_job_dispatches_status",
    .dropIndex "ix_job_dispatches_node_id",
    .dropTable "job_dispatches",
    .dropIndex "ix_edge_nodes_last_heartbeat",
    .dropIndex "ix_edge_nodes_status",
    .dropTable "edge_nodes"]

def addJobResultColumns : Migration Value where
  revision := "0004_job_results"
  downRevision := some "0003_scheduler"
  upgrade := [
    .addColumn "job_dispatches" { string "500" "result_ref" with nullable := true },
    .addColumn "job_dispatches" (text "error_message" true),
    .addColumn "job_dispatches" retryCount]
  downgrade := [
    .dropColumn "job_dispatches" "retry_count",
    .dropColumn "job_dispatches" "error_message",
    .dropColumn "job_dispatches" "result_ref"]

def addDeadLetterQueue : Migration Value where
  revision := "0005_dead_letter_queue"
  downRevision := some "0004_job_results"
  upgrade := [
    .createTable "dead_letter_queue" deadLetterQueue,
    .createIndex {
      name := "ix_dead_letter_queue_job_id"
      table := "dead_letter_queue"
      columns := ["job_id"] }]
  downgrade := [.dropIndex "ix_dead_letter_queue_job_id", .dropTable "dead_letter_queue"]

def addJobPricing : Migration Value where
  revision := "0006_job_pricing"
  downRevision := some "0005_dead_letter_queue"
  upgrade := [
    .createTable "job_pricing" jobPricing,
    .createIndex {
      name := "ix_job_pricing_job_type"
      table := "job_pricing"
      columns := ["job_type"]
      unique := true },
    .bulkInsert "job_pricing" seeds]
  downgrade := [.dropIndex "ix_job_pricing_job_type", .dropTable "job_pricing"]

def versions : List (Migration Value) :=
  [baselineUsersProjects, addCreditLedgerEntries, addSchedulerTables, addJobResultColumns,
    addDeadLetterQueue, addJobPricing]

/-- The catalog after the first `n` upgrades. -/
def catalogAt : ℕ → Catalog
  | 0 => .empty
  | n + 1 =>
      match versions[n]? with
      | none => catalogAt n
      | some m => (alterAll m.upgrade (catalogAt n)).getD (catalogAt n)

/-! ## Each downgrade undoes its upgrade -/

theorem upgrade_alters : ∀ (n : ℕ) (h : n < versions.length),
    alterAll versions[n].upgrade (catalogAt n) = some (catalogAt (n + 1)) := by
  decide +kernel

theorem downgrade_alters : ∀ (n : ℕ) (h : n < versions.length),
    alterAll versions[n].downgrade (catalogAt (n + 1)) = some (catalogAt n) := by
  decide +kernel

def created (n : ℕ) : List String :=
  ((catalogAt (n + 1)).tables.map Prod.fst).filter fun name =>
    name ∉ (catalogAt n).tables.map Prod.fst

def jobResultColumns : List Column :=
  [{ string "500" "result_ref" with nullable := true }, text "error_message" true, retryCount]

theorem restores_jobResultColumns :
    Restores addJobResultColumns.upgrade addJobResultColumns.downgrade (catalogAt 3)
      (catalogAt 4) := by
  have altered : alterAll (jobResultColumns.map fun column =>
      Op.addColumn (V := Value) "job_dispatches" column) (catalogAt 3) = some (catalogAt 4) :=
    upgrade_alters 3 (by decide)
  exact restores_of_columns altered

theorem restores_version (n : ℕ) (h : n < versions.length) :
    Restores versions[n].upgrade versions[n].downgrade (catalogAt n) (catalogAt (n + 1)) := by
  by_cases columns : n = 3
  · subst columns
    exact restores_jobResultColumns
  · have each : ∀ n (h : n < versions.length), n ≠ 3 →
        (∀ name ∈ created n, (catalogAt n).table name = none) ∧
        (∀ op ∈ versions[n].upgrade, ∀ name ∈ op.changes, name ∈ created n) ∧
        (∀ op ∈ versions[n].downgrade, ∀ name ∈ op.changes,
          name ∈ created n ∧ op.razes = some name) ∧
        ∀ name ∈ created n, some name ∈ versions[n].downgrade.map Op.razes := by
      decide +kernel
    obtain ⟨absent, raises, alone, razed⟩ := each n h columns
    exact restores_of_created (created n) absent raises alone razed

/-- The chain of `down_revision`s from the empty database. -/
def ladder : Ladder Value where
  versions := versions
  catalog := catalogAt
  distinct := by decide +kernel
  linked := by decide +kernel
  ground := rfl
  raised := upgrade_alters
  lowered := downgrade_alters
  drops := by decide +kernel
  restores := restores_version

/-! ## Walks -/

/-- A walk from the empty database. -/
abbrev Walk : Site Value → List (Move Value) → Site Value → Prop :=
  Runs.Run (Site.move versions) Runs.Always

/-- The catalog of a revision: that of the migrations up to it. -/
def catalogOf (current : Option String) : Catalog :=
  catalogAt ((heads versions).idxOf current)

theorem closed_catalogAt {n : ℕ} (h : n < 7) : (catalogAt n).closed := by
  have each : ∀ n < 7, (catalogAt n).closed := by decide +kernel
  exact each n h

theorem catalog_of_at {n : ℕ} {site : Site Value} (here : ladder.At n site) :
    site.db.catalog = catalogOf site.current := by
  obtain ⟨bound, current⟩ := List.getElem?_eq_some_iff.mp here.current
  rw [here.catalog, ← current, catalogOf]
  exact congrArg catalogAt (List.Nodup.idxOf_getElem ladder.distinct n bound).symm

/-- No migration raises, whatever the order in which they are applied and undone and whatever is
written between them; and the schema depends on the revision alone. -/
theorem catalog_of_walk (moves : List (Move Value)) : ∃ site, Walk .fresh moves site ∧
    site.current ∈ heads versions ∧ site.db.catalog = catalogOf site.current ∧
    site.db.catalog.closed ∧ Stored site.db := by
  obtain ⟨n, site, here, walk⟩ := ladder.moves_at moves Ladder.fresh_at
  refine ⟨site, walk, ?_, catalog_of_at here, ?_, here.stored⟩
  · exact List.mem_of_getElem? here.current
  · rw [here.catalog]
    exact closed_catalogAt here.bound

def nulls : Draws Value := ⟨fun _ => .null, fun _ => .null⟩

/-- What is put on top of a revision and taken off again leaves the tables of the revision as they
were, apart from what was written to them. -/
theorem restored_of_walk {before moves : List (Move Value)} {site site' : Site Value}
    {name : String} (reached : Walk .fresh before site)
    (spared : Runs.Run (Site.move versions) (Spares site.current name) site moves site')
    (back : site'.current = site.current) :
    site'.db.catalog = site.db.catalog ∧ site'.db.rows name = site.db.rows name := by
  obtain ⟨n, here⟩ := ladder.at_of_run Ladder.fresh_at reached
  exact Ladder.restored nulls here spared back

def queuedJob : Row Value := jobDispatches.fill nulls [("job_type", .text "echo")]

def toScheduler : List (Move Value) :=
  [.up nulls, .up nulls, .up nulls, .write "job_dispatches" [queuedJob]]

def overPricing : List (Move Value) :=
  [.up nulls, .up nulls, .write "edge_nodes" [edgeNodes.fill nulls []], .up nulls, .down nulls,
    .down nulls, .up nulls, .down nulls, .down nulls]

/-- A job that was queued before its table had the result columns. -/
theorem restored_overPricing : ∃ site site' : Site Value,
    Walk .fresh toScheduler site ∧ site.db.rows "job_dispatches" = [queuedJob] ∧
      Runs.Run (Site.move versions) (Spares site.current "job_dispatches") site overPricing site' ∧
      site'.current = site.current ∧
      site'.db.catalog = site.db.catalog ∧
      site'.db.rows "job_dispatches" = site.db.rows "job_dispatches" := by
  have reaches : (Runs.exec (Site.move versions) Runs.Always .fresh toScheduler).isSome := by
    decide +kernel
  have spares : ∀ site ∈ Runs.exec (Site.move versions) Runs.Always .fresh toScheduler,
      ∃ site' ∈ Runs.exec (Site.move versions) (Spares site.current "job_dispatches") site
        overPricing, site'.current = site.current := by
    decide +kernel
  obtain ⟨site, ran⟩ := Option.isSome_iff_exists.mp reaches
  obtain ⟨site', again, back⟩ := spares site ran
  have reached := Runs.exec_eq_some.mp ran
  have spared := Runs.exec_eq_some.mp again
  have queued : (Runs.exec (Site.move versions) Runs.Always .fresh toScheduler).map
      (fun site => site.db.rows "job_dispatches") = some [queuedJob] := rfl
  rw [ran] at queued
  exact ⟨site, site', reached, Option.some.inj queued, spared, back,
    restored_of_walk reached spared back⟩

end RenderTrust.Alembic
