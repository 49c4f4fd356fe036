import Mathlib.Data.List.Nodup

namespace VendingSystem.Sql

/-!
# Statements of a schema migration

A table is a shape (columns, primary key and indexes) with rows whose keys are
distinct.  A statement changes the database or reports the error that SQLite
reports.
-/

/-- A type whose members can be listed. -/
class Enumerated (Name : Type) where
  all : List Name
  mem_all : ∀ name, name ∈ all

section Syntax

variable (Name Index Column Fn Value : Type)

/-- A selected expression; functions are named and given a meaning later. -/
inductive Expr where
  | column (column : Column)
  | rewritten (function : Fn) (column : Column)
  | computed (function : Fn) (reads : List Column)

/-- The expressions of a copy; each target column is named once. -/
structure Selection where
  entries : List (Column × Expr Column Fn)
  distinct : (entries.map Prod.fst).Nodup

/-- What `INSERT` does with a row whose key is taken. -/
inductive Conflict where
  | abort
  | replace
  | ignore
  deriving Repr, DecidableEq

inductive Statement where
  | pragma
  | createTable
      (ifNotExists : Bool)
      (name : Name)
      (columns primaryKey : List Column)
  | createIndex (index : Index) (table : Name) (columns : List Column)
  | renameTable (source target : Name)
  | dropTable (name : Name)
  | addColumn (table : Name) (column : Column) (initial : Value)
  | insertSelect
      (conflict : Conflict)
      (target : Name)
      (selection : Selection Column Fn)
      (source : Name)
      (filter : Option Fn)

/-- The meaning of the named functions. -/
structure Interpretation where
  rewrite : Fn → Value → Value
  compute : Fn → (Column → Value) → Value
  accepts : Fn → (Column → Value) → Bool

/-- The columns, the primary key and the indexes of a table. -/
structure Shape where
  columns : List Column
  primaryKey : List Column
  indexes : List (Index × List Column)
  deriving Repr

-- Compared field by field, so that the kernel need not transport anything.
instance
    [DecidableEq Index]
    [DecidableEq Column] : DecidableEq (Shape Index Column) :=
  fun first second =>
    decidable_of_iff
      (first.columns = second.columns ∧
        first.primaryKey = second.primaryKey ∧
        first.indexes = second.indexes)
      (by cases first; cases second; simp)

end Syntax

section Semantics

variable {Name Index Column Fn Value : Type}
variable [DecidableEq Name] [DecidableEq Index] [DecidableEq Column]
variable [DecidableEq Value] [Inhabited Value]

/-- The values of a row under a key. -/
def rowKey (primaryKey : List Column) (row : Column → Value) : List Value :=
  primaryKey.map row

/-- A stored table; no two rows have one key. -/
structure StoredTable (Index Column Value : Type) where
  shape : Shape Index Column
  rows : List (Column → Value)
  keysDistinct : (rows.map (rowKey shape.primaryKey)).Nodup

/-- A database: a table, or none, under every name. -/
abbrev Database (Name Index Column Value : Type) : Type :=
  Name → Option (StoredTable Index Column Value)

inductive SqlError (Name : Type) where
  | noSuchTable (name : Name)
  | tableExists (name : Name)
  | noSuchColumn (table : Name)
  | duplicateColumn (table : Name)
  | uniqueConstraint (table : Name)
  deriving Repr, DecidableEq

namespace Shape

def hasIndex (shape : Shape Index Column) (index : Index) : Bool :=
  shape.indexes.any fun entry => entry.1 = index

def addIndex
    (shape : Shape Index Column)
    (index : Index)
    (columns : List Column) : Shape Index Column :=
  { shape with indexes := shape.indexes ++ [(index, columns)] }

def addColumn
    (shape : Shape Index Column)
    (column : Column) : Shape Index Column :=
  { shape with columns := shape.columns ++ [column] }

/-- Every listed column is a column of the table. -/
def hasColumns (shape : Shape Index Column) (columns : List Column) : Bool :=
  columns.all fun column => decide (column ∈ shape.columns)

end Shape

namespace Expr

/-- The columns that an expression reads. -/
def reads : Expr Column Fn → List Column
  | .column source => [source]
  | .rewritten _ source => [source]
  | .computed _ sources => sources

def eval
    (meaning : Interpretation Column Fn Value)
    (row : Column → Value) : Expr Column Fn → Value
  | .column source => row source
  | .rewritten function source => meaning.rewrite function (row source)
  | .computed function _ => meaning.compute function row

end Expr

/-- The row that a selection makes of a row. -/
def selectRow
    (meaning : Interpretation Column Fn Value)
    (selection : Selection Column Fn)
    (row : Column → Value) : Column → Value :=
  fun column =>
    ((selection.entries.lookup column).map (Expr.eval meaning row)).getD default

namespace StoredTable

/-- A table without rows. -/
def empty (columns primaryKey : List Column) :
    StoredTable Index Column Value where
  shape := { columns, primaryKey, indexes := [] }
  rows := []
  keysDistinct := List.nodup_nil

/-- A table with another shape under the same key. -/
def reshape
    (table : StoredTable Index Column Value)
    (shape : Shape Index Column)
    (sameKey : shape.primaryKey = table.shape.primaryKey) :
    StoredTable Index Column Value where
  shape := shape
  rows := table.rows
  keysDistinct := sameKey ▸ table.keysDistinct

/-- The row has the key. -/
def holdsKey
    (table : StoredTable Index Column Value)
    (row : Column → Value) : Bool :=
  table.rows.any fun stored =>
    rowKey table.shape.primaryKey stored =
      rowKey table.shape.primaryKey row

/-- The rows without one key. -/
def withoutKey
    (table : StoredTable Index Column Value)
    (row : Column → Value) : List (Column → Value) :=
  table.rows.filter fun stored =>
    rowKey table.shape.primaryKey stored ≠
      rowKey table.shape.primaryKey row

omit [DecidableEq Index] [DecidableEq Column] [Inhabited Value] in
theorem append_keysDistinct
    (table : StoredTable Index Column Value)
    (row : Column → Value) :
    ((table.withoutKey row ++ [row]).map
      (rowKey table.shape.primaryKey)).Nodup := by
  rw [List.map_append, List.nodup_append]
  refine ⟨table.keysDistinct.sublist (List.filter_sublist.map _),
    List.nodup_singleton _, ?_⟩
  intro key keyMember other otherMember
  obtain ⟨stored, storedMember, rfl⟩ := List.mem_map.mp keyMember
  simp only [List.map_cons, List.map_nil, List.mem_singleton] at otherMember
  subst otherMember
  simpa using (List.mem_filter.mp storedMember).2

/-- Put a row in the place of whatever has its key. -/
def replaceRow
    (table : StoredTable Index Column Value)
    (row : Column → Value) : StoredTable Index Column Value where
  shape := table.shape
  rows := table.withoutKey row ++ [row]
  keysDistinct := table.append_keysDistinct row

/-- Insert one row; `none` is a unique constraint that failed. -/
def insertRow
    (conflict : Conflict)
    (table : StoredTable Index Column Value)
    (row : Column → Value) : Option (StoredTable Index Column Value) :=
  match conflict, table.holdsKey row with
  | .abort, true => none
  | .ignore, true => some table
  | _, _ => some (table.replaceRow row)

def insertRows
    (conflict : Conflict)
    (table : StoredTable Index Column Value)
    (rows : List (Column → Value)) :
    Option (StoredTable Index Column Value) :=
  rows.foldlM (insertRow conflict) table

/-- Add a column with one value in every row. -/
def addColumn
    (table : StoredTable Index Column Value)
    (column : Column)
    (initial : Value)
    (fresh : column ∉ table.shape.primaryKey) :
    StoredTable Index Column Value where
  shape := table.shape.addColumn column
  rows := table.rows.map fun row => Function.update row column initial
  keysDistinct := by
    have sameKeys : (table.rows.map fun row =>
        Function.update row column initial).map
          (rowKey table.shape.primaryKey) =
        table.rows.map (rowKey table.shape.primaryKey) := by
      rw [List.map_map]
      apply List.map_congr_left
      intro row _
      apply List.map_congr_left
      intro other member
      have differs : other ≠ column := by
        rintro rfl
        exact fresh member
      exact Function.update_of_ne differs _ _
    change (List.map (rowKey table.shape.primaryKey) _).Nodup
    rw [sameKeys]
    exact table.keysDistinct

end StoredTable

variable [Enumerated Name]

/-- The index exists on some table. -/
def hasIndex
    (db : Database Name Index Column Value)
    (index : Index) : Bool :=
  Enumerated.all.any fun name =>
    (db name).any fun table => table.shape.hasIndex index

/-- The selection and its target name columns that exist. -/
def selectable
    (selection : Selection Column Fn)
    (target source : Shape Index Column) : Bool :=
  target.hasColumns (selection.entries.map Prod.fst) &&
    source.hasColumns (selection.entries.flatMap fun entry => entry.2.reads)

/-- The rows that a filter lets through. -/
def filteredRows
    (meaning : Interpretation Column Fn Value)
    (filter : Option Fn)
    (rows : List (Column → Value)) : List (Column → Value) :=
  match filter with
  | none => rows
  | some function => rows.filter (meaning.accepts function)

/-- One statement, under the meaning of the named functions. -/
def execute
    (meaning : Interpretation Column Fn Value)
    (db : Database Name Index Column Value) :
    Statement Name Index Column Fn Value →
      Except (SqlError Name) (Database Name Index Column Value)
  | .pragma => .ok db
  | .createTable ifNotExists name columns primaryKey =>
    match db name with
    | none =>
      .ok (Function.update db name (some (.empty columns primaryKey)))
    | some _ => if ifNotExists then .ok db else .error (.tableExists name)
  | .createIndex index name columns =>
    match db name with
    | none => .error (.noSuchTable name)
    | some table =>
      if hasIndex db index then .ok db
      else if table.shape.hasColumns columns then
        .ok (Function.update db name
          (some (table.reshape (table.shape.addIndex index columns) rfl)))
      else .error (.noSuchColumn name)
  | .renameTable source target =>
    match db source, db target with
    | none, _ => .error (.noSuchTable source)
    | some _, some _ => .error (.tableExists target)
    | some table, none =>
      .ok (Function.update (Function.update db source none) target
        (some table))
  | .dropTable name =>
    match db name with
    | none => .error (.noSuchTable name)
    | some _ => .ok (Function.update db name none)
  | .addColumn name column initial =>
    match db name with
    | none => .error (.noSuchTable name)
    | some table =>
      if fresh : column ∈ table.shape.columns ∨
          column ∈ table.shape.primaryKey then
        .error (.duplicateColumn name)
      else
        .ok (Function.update db name
          (some (table.addColumn column initial
            fun member => fresh (Or.inr member))))
  | .insertSelect conflict target selection source filter =>
    match db target, db source with
    | some into, some table =>
      if selectable selection into.shape table.shape then
        match into.insertRows conflict
            ((filteredRows meaning filter table.rows).map
              (selectRow meaning selection)) with
        | some filled => .ok (Function.update db target (some filled))
        | none => .error (.uniqueConstraint target)
      else .error (.noSuchColumn target)
    | none, _ => .error (.noSuchTable target)
    | _, none => .error (.noSuchTable source)

omit [DecidableEq Name] [DecidableEq Index] [DecidableEq Column]
  [Inhabited Value] [Enumerated Name]

namespace StoredTable

variable {table : StoredTable Index Column Value} {conflict : Conflict}

variable {row : Column → Value} {next : StoredTable Index Column Value}

theorem insertRow_shape
    (inserted : table.insertRow conflict row = some next) :
    next.shape = table.shape := by
  unfold insertRow at inserted
  split at inserted <;> cases inserted <;> rfl

variable {rows : List (Column → Value)}

theorem insertRows_shape
    (inserted : table.insertRows conflict rows = some next) :
    next.shape = table.shape := by
  induction rows generalizing table with
  | nil =>
    cases inserted
    rfl
  | cons row rest inductionHypothesis =>
    simp only [insertRows, List.foldlM_cons, Option.bind_eq_bind,
      Option.bind_eq_some_iff] at inserted
    obtain ⟨middle, first, later⟩ := inserted
    exact (inductionHypothesis later).trans (insertRow_shape first)

theorem mem_replaceRow
    {other : Column → Value} :
    other ∈ (table.replaceRow row).rows ↔
      (other ∈ table.rows ∧
        rowKey table.shape.primaryKey other ≠
          rowKey table.shape.primaryKey row) ∨ other = row := by
  simp [replaceRow, withoutKey, List.mem_filter]

theorem insertRows_replace
    (distinct : (rows.map (rowKey table.shape.primaryKey)).Nodup) :
    ∃ next, table.insertRows .replace rows = some next ∧
      (∀ row ∈ rows, row ∈ next.rows) ∧
      ∀ row ∈ table.rows,
        rowKey table.shape.primaryKey row ∉
            rows.map (rowKey table.shape.primaryKey) →
          row ∈ next.rows := by
  induction rows generalizing table with
  | nil => exact ⟨table, rfl, fun _ member => (by cases member),
      fun _ member _ => member⟩
  | cons row rest inductionHypothesis =>
    obtain ⟨fresh, restDistinct⟩ := List.nodup_cons.mp distinct
    obtain ⟨next, inserted, all, kept⟩ :=
      @inductionHypothesis (table.replaceRow row) restDistinct
    refine ⟨next, ?_, ?_, ?_⟩
    · simp only [insertRows, List.foldlM_cons]
      exact inserted
    · intro other member
      rcases List.mem_cons.mp member with rfl | later
      · exact kept other (mem_replaceRow.mpr (Or.inr rfl)) fresh
      · exact all other later
    · intro other member absent
      rw [List.map_cons, List.mem_cons, not_or] at absent
      exact kept other (mem_replaceRow.mpr (Or.inl ⟨member, absent.1⟩)) absent.2

theorem insertRows_abort
    (distinct : (rows.map (rowKey table.shape.primaryKey)).Nodup)
    (fresh : ∀ row ∈ rows, table.holdsKey row = false) :
    table.insertRows .abort rows = table.insertRows .replace rows := by
  induction rows generalizing table with
  | nil => rfl
  | cons row rest inductionHypothesis =>
    obtain ⟨rowFresh, restDistinct⟩ := List.nodup_cons.mp distinct
    simp only [insertRows, List.foldlM_cons, insertRow,
      fresh row List.mem_cons_self]
    apply @inductionHypothesis (table.replaceRow row) restDistinct
    intro other member
    have absent := fresh other (List.mem_cons_of_mem _ member)
    simp only [holdsKey, List.any_eq_false, decide_eq_true_eq] at absent ⊢
    intro stored storedMember same
    rcases mem_replaceRow.mp storedMember with ⟨old, _⟩ | rfl
    · exact absent stored old same
    · exact rowFresh (List.mem_map.mpr ⟨other, member, same.symm⟩)

theorem insertRows_ignore
    (rows : List (Column → Value))
    (table : StoredTable Index Column Value) :
    ∃ next, table.insertRows .ignore rows = some next ∧
      ∀ row ∈ table.rows, row ∈ next.rows := by
  induction rows generalizing table with
  | nil => exact ⟨table, rfl, fun _ member => member⟩
  | cons row rest inductionHypothesis =>
    cases taken : table.holdsKey row with
    | true =>
      obtain ⟨next, inserted, kept⟩ := inductionHypothesis table
      refine ⟨next, ?_, kept⟩
      simpa [insertRows, List.foldlM_cons, insertRow, taken] using inserted
    | false =>
      obtain ⟨next, inserted, kept⟩ :=
        inductionHypothesis (table.replaceRow row)
      refine ⟨next, ?_, fun other member => kept other ?_⟩
      · simpa [insertRows, List.foldlM_cons, insertRow, taken] using inserted
      · simp only [holdsKey, List.any_eq_false, decide_eq_true_eq] at taken
        exact mem_replaceRow.mpr (Or.inl ⟨member, taken other member⟩)

end StoredTable

end Semantics

end VendingSystem.Sql
