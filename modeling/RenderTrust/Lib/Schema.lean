import Mathlib.Data.List.Basic
import Mathlib.Logic.Relation
import Mathlib.Tactic.TypeStar

/-!
# Tables and the operations on them

The catalog of a database and the rows beside it. An operation that the database refuses is
`none`; what it does to the rows of a table depends on these rows and on the catalog. Not every
refusal is here: that a new table names a column twice, that a constraint is about columns the
table has, and that the index behind a constraint has a name of its own is not checked.
-/
namespace Lib.Schema

inductive ColumnType where
  | builtin (name : String)
  | enum (name : String)
  deriving DecidableEq, Repr

structure ForeignKey where
  table : String
  column : String
  onDelete : Option String
  deriving DecidableEq, Repr

inductive Default where
  | sql (text : String)
  | literal (text : String)
  deriving DecidableEq, Repr

structure Column where
  name : String
  type : ColumnType
  nullable : Bool := false
  default : Option Default := none
  primaryKey : Bool := false
  unique : Bool := false
  foreignKey : Option ForeignKey := none
  deriving DecidableEq, Repr

inductive Rule where
  | primaryKey
  | unique
  | check (condition : String)
  deriving DecidableEq, Repr

structure Constraint where
  name : Option String := none
  rule : Rule
  columns : List String
  deriving DecidableEq, Repr

structure Table where
  columns : List Column
  constraints : List Constraint := []
  deriving DecidableEq, Repr

structure Index where
  name : String
  table : String
  columns : List String
  unique : Bool := false
  deriving DecidableEq, Repr

structure Catalog where
  tables : List (String × Table)
  indexes : List Index
  types : List (String × List String)
  deriving DecidableEq, Repr

abbrev Row (V : Type*) := List (String × V)

/-- The values that a statement draws: those of the defaults, and those that the program makes. -/
structure Draws (V : Type*) where
  default : Option Default → V
  made : ℕ → V

inductive Op (V : Type*) where
  | createType (name : String) (values : List String)
  | dropType (name : String)
  | createTable (name : String) (table : Table)
  | dropTable (name : String)
  | addColumn (table : String) (column : Column)
  | dropColumn (table column : String)
  | createIndex (index : Index)
  | dropIndex (name : String)
  | bulkInsert (table : String) (given : (ℕ → V) → List (Row V))

namespace Table

def names (t : Table) : List String := t.columns.map Column.name

/-- The tables, their columns and the types that the columns need. -/
def resolved (t : Table) (tables : List (String × Table)) (types : List (String × List String)) :
    Bool :=
  t.columns.all fun column =>
    column.foreignKey.all (fun key =>
        (tables.lookup key.table).any fun other => key.column ∈ other.names) &&
      match column.type with
      | .builtin _ => true
      | .enum name => name ∈ types.map Prod.fst

def references (t : Table) (name : String) : Bool :=
  t.columns.any fun column => column.foreignKey.any fun key => key.table = name

def referencesColumn (t : Table) (name column : String) : Bool :=
  t.columns.any fun own =>
    own.foreignKey.any fun key => key.table = name ∧ key.column = column

def without (t : Table) (column : String) : Table where
  columns := t.columns.filter fun other => other.name ≠ column
  constraints := t.constraints.filter fun rule => column ∉ rule.columns

def usesType (t : Table) (name : String) : Bool :=
  t.columns.any fun column => column.type = .enum name

end Table

namespace Catalog

def empty : Catalog := ⟨[], [], []⟩

def table (c : Catalog) (name : String) : Option Table :=
  c.tables.lookup name

/-- The names that tables and indexes share. -/
def relations (c : Catalog) : List String :=
  c.tables.map Prod.fst ++ c.indexes.map Index.name

def setTable (c : Catalog) (name : String) (t : Table) : Catalog :=
  { c with tables := c.tables.map fun entry => if entry.1 = name then (name, t) else entry }

/-- Nothing refers to what is not there. -/
def closed (c : Catalog) : Bool :=
  c.tables.all (fun entry => entry.2.resolved c.tables c.types) &&
    c.indexes.all fun index =>
      (c.table index.table).any fun table => index.columns ⊆ table.names

end Catalog

section Operations
variable {V : Type*}

/-- A type is created unless there is one of the name, and dropped if there is one. A column that
is required and has no default is refused whether or not there are rows. -/
def Op.alter (c : Catalog) : Op V → Option Catalog
  | .createType name values =>
      if name ∈ c.types.map Prod.fst then some c
      else some { c with types := c.types ++ [(name, values)] }
  | .dropType name =>
      if c.tables.any fun entry => entry.2.usesType name then none
      else some { c with types := c.types.filter fun entry => entry.1 ≠ name }
  | .createTable name table =>
      if name ∉ c.relations ∧ table.resolved (c.tables ++ [(name, table)]) c.types then
        some { c with tables := c.tables ++ [(name, table)] }
      else none
  | .dropTable name =>
      if (c.table name).isSome ∧
          c.tables.all (fun entry => entry.1 = name ∨ !entry.2.references name) then
        some { c with
          tables := c.tables.filter fun entry => entry.1 ≠ name
          indexes := c.indexes.filter fun index => index.table ≠ name }
      else none
  | .addColumn name column =>
      match c.table name with
      | none => none
      | some table =>
          if column.name ∉ table.names ∧ (column.nullable ∨ column.default.isSome) ∧
              Table.resolved ⟨[column], []⟩ c.tables c.types then
            some (c.setTable name { table with columns := table.columns ++ [column] })
          else none
  | .dropColumn name column =>
      match c.table name with
      | none => none
      | some table =>
          if column ∈ table.names ∧
              c.tables.all (fun entry => !entry.2.referencesColumn name column) then
            some { c.setTable name (table.without column) with
              indexes := c.indexes.filter fun index =>
                index.table ≠ name ∨ column ∉ index.columns }
          else none
  | .createIndex index =>
      match c.table index.table with
      | none => none
      | some table =>
          if index.name ∉ c.relations ∧ index.columns ⊆ table.names then
            some { c with indexes := c.indexes ++ [index] }
          else none
  | .dropIndex name =>
      if name ∈ c.indexes.map Index.name then
        some { c with indexes := c.indexes.filter fun index => index.name ≠ name }
      else none
  | .bulkInsert name _ => if (c.table name).isSome then some c else none

variable (draws : Draws V)

/-- A row of a table, with the defaults where nothing is given. -/
def Table.fill (t : Table) (given : Row V) : Row V :=
  t.columns.map fun column =>
    (column.name, (given.lookup column.name).getD (draws.default column.default))

/-- What an operation makes of the rows of the table `name`. -/
def Op.change (c : Catalog) (name : String) (rows : List (Row V)) : Op V → List (Row V)
  | .createTable other _ => if other = name then [] else rows
  | .dropTable other => if other = name then [] else rows
  | .addColumn other column =>
      if other = name then rows.map fun row => row ++ [(column.name, draws.default column.default)]
      else rows
  | .dropColumn other column =>
      if other = name then rows.map fun row => row.filter fun entry => entry.1 ≠ column else rows
  | .bulkInsert other given =>
      if other = name then
        rows ++ (given draws.made).map ((c.table name).elim id fun table => table.fill draws)
      else rows
  | .createType _ _ | .dropType _ | .createIndex _ | .dropIndex _ => rows

structure Database (V : Type*) where
  catalog : Catalog
  rows : String → List (Row V)

def Op.exec (op : Op V) (db : Database V) : Option (Database V) :=
  (op.alter db.catalog).map fun catalog =>
    ⟨catalog, fun name => op.change draws db.catalog name (db.rows name)⟩

def alterAll : List (Op V) → Catalog → Option Catalog
  | [], c => some c
  | op :: ops, c => (op.alter c).bind (alterAll ops)

def changeAll (name : String) : List (Op V) → Catalog → List (Row V) → List (Row V)
  | [], _, rows => rows
  | op :: ops, c, rows =>
      changeAll name ops ((op.alter c).getD c) (op.change draws c name rows)

def execAll : List (Op V) → Database V → Option (Database V)
  | [], db => some db
  | op :: ops, db => (op.exec draws db).bind (execAll ops)

/-! ## What operations keep -/

theorem execAll_eq (ops : List (Op V)) (db : Database V) :
    execAll draws ops db = (alterAll ops db.catalog).map fun catalog =>
      ⟨catalog, fun name => changeAll draws name ops db.catalog (db.rows name)⟩ := by
  induction ops generalizing db with
  | nil => rfl
  | cons op ops ih =>
      simp only [execAll, alterAll, changeAll, Op.exec]
      cases altered : op.alter db.catalog with
      | none => rfl
      | some catalog =>
          simp only [Option.map_some, Option.bind_some, ih]
          rfl

/-- The table whose rows an operation changes. -/
def Op.changes : Op V → Option String
  | .createTable name _ => some name
  | .dropTable name => some name
  | .addColumn name _ => some name
  | .dropColumn name _ => some name
  | .bulkInsert name _ => some name
  | .createType _ _ | .dropType _ | .createIndex _ | .dropIndex _ => none

theorem Op.change_other {op : Op V} {name : String} (other : op.changes ≠ some name) (c : Catalog)
    (rows : List (Row V)) : op.change draws c name rows = rows := by
  cases op with
  | createTable | dropTable | addColumn | dropColumn | bulkInsert =>
      exact if_neg fun same => other (congrArg some same)
  | createType | dropType | createIndex | dropIndex => rfl

theorem changeAll_other {ops : List (Op V)} {name : String}
    (others : ∀ op ∈ ops, op.changes ≠ some name) (c : Catalog) (rows : List (Row V)) :
    changeAll draws name ops c rows = rows := by
  induction ops generalizing c rows with
  | nil => rfl
  | cons op ops ih =>
      rw [changeAll, Op.change_other draws (others op List.mem_cons_self), ih]
      exact fun op member => others op (List.mem_cons_of_mem _ member)

/-- There are no rows without a table, and the rows of a table have its columns. -/
def Fits (t : Option Table) (rows : List (Row V)) : Prop :=
  ∀ row ∈ rows, t.map Table.names = some (row.map Prod.fst)

instance (t : Option Table) (rows : List (Row V)) : Decidable (Fits t rows) :=
  inferInstanceAs (Decidable (∀ row ∈ rows, _))

theorem Fits.nil (t : Option Table) : Fits t ([] : List (Row V)) :=
  fun _ member => absurd member List.not_mem_nil

def Stored (db : Database V) : Prop := ∀ name, Fits (db.catalog.table name) (db.rows name)

end Operations

section Catalogs
variable {c : Catalog}

theorem lookup_cons_ne {own name : String} (other : own ≠ name) (t : Table)
    (tables : List (String × Table)) :
    ((own, t) :: tables).lookup name = tables.lookup name := by
  rw [List.lookup_cons, beq_eq_false_iff_ne.mpr other.symm]

theorem Catalog.table_eq_none {name : String} (new : name ∉ c.relations) :
    c.table name = none := by
  apply List.lookup_eq_none_iff.mpr
  intro entry member
  rw [bne_iff_ne]
  rintro rfl
  exact new (List.mem_append_left _ (List.mem_map_of_mem member))

theorem Catalog.table_append {own : String} (absent : c.table own = none) (t : Table)
    (name : String) : (c.tables ++ [(own, t)]).lookup name =
      if own = name then some t else c.table name := by
  unfold Catalog.table at absent ⊢
  rw [List.lookup_append]
  by_cases same : own = name
  · subst same
    rw [absent, if_pos rfl, List.lookup_cons_self]
    rfl
  · rw [lookup_cons_ne same, if_neg same, List.lookup_nil, Option.or_none]

theorem lookup_filter (tables : List (String × Table)) (own name : String) :
    (tables.filter fun entry => entry.1 ≠ own).lookup name =
      if own = name then none else tables.lookup name := by
  induction tables with
  | nil => simp only [List.filter_nil, List.lookup_nil, ite_self]
  | cons entry tables ih =>
      obtain ⟨other, t⟩ := entry
      by_cases this : other = own
      · rw [List.filter_cons_of_neg (by simpa using this), ih]
        by_cases same : own = name
        · rw [if_pos same, if_pos same]
        · rw [if_neg same, if_neg same, lookup_cons_ne (this ▸ same)]
      · rw [List.filter_cons_of_pos (by simpa using this)]
        by_cases here : other = name
        · subst here
          rw [List.lookup_cons_self, List.lookup_cons_self, if_neg (Ne.symm this)]
        · rw [lookup_cons_ne here, lookup_cons_ne here, ih]

theorem lookup_set (tables : List (String × Table)) (own : String) (t : Table) (name : String) :
    (tables.map fun entry => if entry.1 = own then (own, t) else entry).lookup name =
      if own = name then (tables.lookup name).map fun _ => t else tables.lookup name := by
  induction tables with
  | nil => simp only [List.map_nil, List.lookup_nil, Option.map_none, ite_self]
  | cons entry tables ih =>
      obtain ⟨other, old⟩ := entry
      rw [List.map_cons]
      by_cases this : other = own
      · rw [if_pos this]
        by_cases same : own = name
        · subst same this
          rw [List.lookup_cons_self, List.lookup_cons_self, if_pos rfl, Option.map_some]
        · rw [lookup_cons_ne same, lookup_cons_ne (this ▸ same), ih]
      · rw [if_neg this]
        by_cases here : other = name
        · subst here
          rw [List.lookup_cons_self, List.lookup_cons_self, if_neg (Ne.symm this)]
        · rw [lookup_cons_ne here, lookup_cons_ne here, ih]

theorem Catalog.table_setTable (own : String) (t : Table) (name : String) :
    (c.setTable own t).table name =
      if own = name then (c.table name).map fun _ => t else c.table name :=
  lookup_set c.tables own t name

theorem Catalog.setTable_other {own name : String} (other : own ≠ name) (t : Table) :
    (c.setTable own t).table name = c.table name := by
  rw [Catalog.table_setTable, if_neg other]

theorem Catalog.setTable_self {own : String} {t old : Table} (found : c.table own = some old) :
    (c.setTable own t).table own = some t := by
  rw [Catalog.table_setTable, if_pos rfl, found, Option.map_some]

variable {V : Type*} (draws : Draws V) {d : Catalog} {rows : List (Row V)}
  {name : String}

theorem Table.names_fill (t : Table) (given : Row V) :
    (t.fill draws given).map Prod.fst = t.names := by
  unfold Table.fill Table.names
  rw [List.map_map]
  rfl

theorem Op.fits {op : Op V} (altered : op.alter c = some d) (fits : Fits (c.table name) rows) :
    Fits (d.table name) (op.change draws c name rows) := by
  cases op with
  | createType own values =>
      simp only [Op.alter] at altered
      split at altered <;>
        · obtain rfl := Option.some.inj altered
          exact fits
  | dropType own =>
      simp only [Op.alter] at altered
      split at altered
      · cases altered
      · obtain rfl := Option.some.inj altered
        exact fits
  | createTable own table =>
      obtain ⟨⟨new, -⟩, ⟨⟩⟩ := Option.ite_none_right_eq_some.mp altered
      unfold Catalog.table
      rw [Catalog.table_append (Catalog.table_eq_none new)]
      by_cases same : own = name
      · rw [Op.change, if_pos same, if_pos same]
        exact Fits.nil _
      · rw [if_neg same, Op.change, if_neg same]
        exact fits
  | dropTable own =>
      obtain ⟨-, ⟨⟩⟩ := Option.ite_none_right_eq_some.mp altered
      unfold Catalog.table
      rw [lookup_filter]
      by_cases same : own = name
      · rw [Op.change, if_pos same, if_pos same]
        exact Fits.nil _
      · rw [if_neg same, Op.change, if_neg same]
        exact fits
  | addColumn own column =>
      simp only [Op.alter] at altered
      cases found : c.table own with
      | none =>
          rw [found] at altered
          cases altered
      | some table =>
          rw [found] at altered
          obtain ⟨-, ⟨⟩⟩ := Option.ite_none_right_eq_some.mp altered
          by_cases same : own = name
          · subst same
            rw [Catalog.setTable_self found, Op.change, if_pos rfl]
            rw [found] at fits
            intro row member
            obtain ⟨old, before, rfl⟩ := List.mem_map.mp member
            have names : table.names = old.map Prod.fst := Option.some.inj (fits old before)
            rw [List.map_append, ← names, Option.map_some, Table.names, List.map_append]
            rfl
          · rw [Catalog.setTable_other same, Op.change, if_neg same]
            exact fits
  | dropColumn own column =>
      simp only [Op.alter] at altered
      cases found : c.table own with
      | none =>
          rw [found] at altered
          cases altered
      | some table =>
          rw [found] at altered
          obtain ⟨-, ⟨⟩⟩ := Option.ite_none_right_eq_some.mp altered
          by_cases same : own = name
          · subst same
            rw [found] at fits
            intro row member
            rw [Op.change, if_pos rfl] at member
            obtain ⟨old, before, rfl⟩ := List.mem_map.mp member
            refine (congrArg _ (Catalog.setTable_self found)).trans ?_
            have names : table.names = old.map Prod.fst := Option.some.inj (fits old before)
            have kept := congrArg (List.filter fun other => other ≠ column) names
            rw [List.filter_map, Table.names, List.filter_map] at kept
            exact congrArg some kept
          · rw [Op.change, if_neg same]
            exact (congrArg (Fits · rows) (Catalog.setTable_other same _)).mpr fits
  | createIndex index =>
      simp only [Op.alter] at altered
      split at altered
      · cases altered
      · obtain ⟨-, ⟨⟩⟩ := Option.ite_none_right_eq_some.mp altered
        exact fits
  | dropIndex own =>
      obtain ⟨-, ⟨⟩⟩ := Option.ite_none_right_eq_some.mp altered
      exact fits
  | bulkInsert own given =>
      obtain ⟨present, ⟨⟩⟩ := Option.ite_none_right_eq_some.mp altered
      by_cases same : own = name
      · subst same
        obtain ⟨table, found⟩ := Option.isSome_iff_exists.mp present
        rw [Op.change, if_pos rfl, found]
        rw [found] at fits
        intro row member
        rcases List.mem_append.mp member with old | new
        · exact fits row old
        · obtain ⟨given, -, rfl⟩ := List.mem_map.mp new
          exact congrArg some (table.names_fill draws given).symm
      · rw [Op.change, if_neg same]
        exact fits

theorem Stored.execAll {ops : List (Op V)} {db db' : Database V} (stored : Stored db)
    (ran : Schema.execAll draws ops db = some db') : Stored db' := by
  induction ops generalizing db with
  | nil =>
      obtain rfl := Option.some.inj ran
      exact stored
  | cons op ops ih =>
      obtain ⟨mid, first, rest⟩ := Option.bind_eq_some_iff.mp ran
      obtain ⟨catalog, altered, rfl⟩ := Option.map_eq_some_iff.mp first
      apply ih _ rest
      intro name
      exact Op.fits draws altered (stored name)

/-! ## Undoing -/

/-- The rows that fit `c` are again what they were after `up` and then `down`. -/
def Restores (up down : List (Op V)) (c d : Catalog) : Prop :=
  ∀ (draws draws' : Draws V) (name : String) (rows : List (Row V)),
    Fits (c.table name) rows →
      changeAll draws' name down d (changeAll draws name up c rows) = rows

/-- The table that an operation drops. -/
def Op.razes : Op V → Option String
  | .dropTable name => some name
  | .createType _ _ | .dropType _ | .createTable _ _ | .addColumn _ _ | .dropColumn _ _
  | .createIndex _ | .dropIndex _ | .bulkInsert _ _ => none

theorem Op.change_razes {op : Op V} (razes : op.razes = some name) (c : Catalog)
    (rows : List (Row V)) : op.change draws c name rows = [] := by
  cases op with
  | dropTable own =>
      obtain rfl := Option.some.inj razes
      exact if_pos rfl
  | createType | dropType | createTable | addColumn | dropColumn | createIndex | dropIndex
  | bulkInsert => cases razes

theorem changeAll_razed {ops : List (Op V)} (razed : some name ∈ ops.map Op.razes)
    (alone : ∀ op ∈ ops, name ∈ op.changes → op.razes = some name) (c : Catalog)
    (rows : List (Row V)) : changeAll draws name ops c rows = [] := by
  induction ops generalizing c rows with
  | nil => cases razed
  | cons op ops ih =>
      have aloneTail : ∀ op ∈ ops, name ∈ op.changes → op.razes = some name :=
        fun op member => alone op (List.mem_cons_of_mem _ member)
      by_cases again : some name ∈ ops.map Op.razes
      · exact ih again aloneTail _ _
      · have others : ∀ op ∈ ops, op.changes ≠ some name := by
          intro op member same
          exact again (List.mem_map.mpr ⟨op, member, aloneTail op member same⟩)
        have here : op.razes = some name := by
          rcases List.mem_cons.mp razed with first | later
          · exact first.symm
          · exact absurd later again
        rw [changeAll, changeAll_other draws others, Op.change_razes draws here]

/-- Operations on tables that are created, and then dropped. -/
theorem restores_of_created {up down : List (Op V)} (created : List String)
    (absent : ∀ name ∈ created, c.table name = none)
    (raises : ∀ op ∈ up, ∀ name ∈ op.changes, name ∈ created)
    (alone : ∀ op ∈ down, ∀ name ∈ op.changes, name ∈ created ∧ op.razes = some name)
    (razed : ∀ name ∈ created, some name ∈ down.map Op.razes) : Restores up down c d := by
  intro draws draws' name rows fits
  by_cases new : name ∈ created
  · rw [changeAll_razed draws' (razed name new)
      fun op member changes => (alone op member name changes).2]
    rw [absent name new] at fits
    cases rows with
    | nil => rfl
    | cons row rows => cases fits row List.mem_cons_self
  · rw [changeAll_other draws' fun op member changes => new (alone op member name changes).1,
      changeAll_other draws fun op member changes => new (raises op member name changes)]

/-- What drops a thing makes no value. -/
def Op.drops : Op V → Bool
  | .dropType _ | .dropTable _ | .dropColumn _ _ | .dropIndex _ => true
  | .createType _ _ | .createTable _ _ | .addColumn _ _ | .createIndex _ | .bulkInsert _ _ => false

theorem Op.change_drops {op : Op V} (drops : op.drops) (draws' : Draws V) (c d : Catalog)
    (rows : List (Row V)) : op.change draws c name rows = op.change draws' d name rows := by
  cases op with
  | dropType | dropTable | dropColumn | dropIndex => rfl
  | createType | createTable | addColumn | createIndex | bulkInsert => cases drops

theorem changeAll_drops {ops : List (Op V)} (drops : ∀ op ∈ ops, op.drops) (draws' : Draws V)
    (c d : Catalog) (rows : List (Row V)) :
    changeAll draws name ops c rows = changeAll draws' name ops d rows := by
  induction ops generalizing c d rows with
  | nil => rfl
  | cons op ops ih =>
      simp only [changeAll]
      rw [Op.change_drops draws (drops op List.mem_cons_self) draws' c d]
      exact ih (fun op member => drops op (List.mem_cons_of_mem _ member)) _ _ _

theorem changeAll_append_drops {ops more : List (Op V)} (drops : ∀ op ∈ ops, op.drops)
    (drops' : ∀ op ∈ more, op.drops) (c d : Catalog) (rows : List (Row V)) :
    changeAll draws name (ops ++ more) c rows =
      changeAll draws name more d (changeAll draws name ops c rows) := by
  induction ops generalizing c rows with
  | nil => exact changeAll_drops draws drops' draws c d rows
  | cons op ops ih => exact ih (fun op member => drops op (List.mem_cons_of_mem _ member)) _ _

theorem filter_added {row : Row V} {column : String} (fresh : column ∉ row.map Prod.fst) (v : V) :
    (row ++ [(column, v)]).filter (fun entry => entry.1 ≠ column) = row := by
  have kept : row.filter (fun entry => entry.1 ≠ column) = row := by
    apply List.filter_eq_self.mpr
    intro entry member
    apply decide_eq_true
    rintro rfl
    exact fresh (List.mem_map_of_mem member)
  rw [List.filter_append, kept, List.filter_cons_of_neg (by simp), List.filter_nil,
    List.append_nil]

theorem change_addColumn_dropColumn {own : String} {column : Column}
    (altered : (Op.addColumn (V := V) own column).alter c = some d) (draws' : Draws V) (e : Catalog)
    (fits : Fits (c.table name) rows) :
    (Op.dropColumn own column.name).change draws' e name
      ((Op.addColumn own column).change draws c name rows) = rows := by
  simp only [Op.change]
  by_cases same : own = name
  · subst same
    simp only [Op.alter] at altered
    cases found : c.table own with
    | none =>
        rw [found] at altered
        cases altered
    | some t =>
        rw [found] at altered fits
        obtain ⟨⟨fresh, -⟩, -⟩ := Option.ite_none_right_eq_some.mp altered
        rw [if_pos rfl, if_pos rfl, List.map_map]
        refine (List.map_congr_left ?_).trans (List.map_id' rows)
        intro row member
        have names : t.names = row.map Prod.fst := Option.some.inj (fits row member)
        exact filter_added (names ▸ fresh) _
  · rw [if_neg same, if_neg same]

/-- Columns that are added, and then dropped in the reverse order. -/
theorem restores_of_columns {own : String} {columns : List Column} {last : Catalog}
    (altered : alterAll (columns.map fun column => Op.addColumn (V := V) own column) c = some d) :
    Restores (V := V) (columns.map fun column => .addColumn own column)
      (columns.reverse.map fun column => .dropColumn own column.name) c last := by
  intro draws draws' name rows fits
  induction columns generalizing c rows with
  | nil => rfl
  | cons column columns ih =>
      obtain ⟨first, added, rest⟩ := Option.bind_eq_some_iff.mp altered
      have within := ih rest _ (Op.fits draws added fits)
      have drops : ∀ columns : List Column, ∀ op ∈
          columns.map fun column => Op.dropColumn (V := V) own column.name, op.drops := by
        intro columns op member
        obtain ⟨column, -, rfl⟩ := List.mem_map.mp member
        rfl
      rw [List.reverse_cons, List.map_append,
        changeAll_append_drops draws' (drops columns.reverse) (drops [column]) last c]
      simp only [List.map_cons, changeAll] at added ⊢
      rw [added, Option.getD_some, within]
      exact change_addColumn_dropColumn draws added draws' c fits

end Catalogs
end Lib.Schema
