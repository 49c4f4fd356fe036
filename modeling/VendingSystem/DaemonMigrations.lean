import VendingSystem.DaemonMigrationTexts
import VendingSystem.SqlMigrationRuns

namespace VendingSystem.Daemon

open VendingSystem.Sql

/-!
# Restarting the migrations of the local store

`run_migrations` executes the texts above the persisted version, statement by
statement, and writes the version at the end; only V20 is one transaction.
-/

abbrev DaemonMigration : Type :=
  Migration MigrationTable MigrationIndex MigrationColumn MigrationFunction
    Cell

/-- A text that is executed statement by statement. -/
def statements (text : List MigrationStatement) : List MigrationAction :=
  text.map .statement

/-- A migration that is due below its version. -/
def upgrade
    (version : Nat)
    (text : List MigrationStatement) : DaemonMigration where
  due persisted := persisted < version
  reads := none
  actions _ := some (statements text)

/-- A migration that is skipped when its table has its column. -/
def guardedUpgrade
    (version : Nat)
    (table : MigrationTable)
    (column : MigrationColumn)
    (text : List MigrationStatement) : DaemonMigration where
  due persisted := persisted < version
  reads := some table
  actions columns :=
    if column ∈ columns.getD [] then some [] else some (statements text)

/-- The column that V20 removes. -/
def retiredPlanogramMediaColumn : MigrationColumn := .tryOnSilhouetteUrl

def migrateMachinePlanogramSlotsToV19 : DaemonMigration where
  due persisted := persisted < 19
  reads := some .machinePlanogramSlots
  actions columns :=
    let names := columns.getD []
    if .layerNo ∈ names then some (statements (migrationV19 .layerNo))
    else if .rowNo ∈ names then
      if retiredPlanogramMediaColumn ∈ names then
        some (statements (migrationV19 .rowNo))
      else some []
    else none

def migrateMachinePlanogramSlotsToV20 : DaemonMigration where
  due persisted := persisted < 20
  reads := none
  actions _ :=
    some
      [.statement .pragma,
        .transaction
          (migrationV20Create ++ migrationV20Copy ++ migrationV20Drop ++
            migrationV20Rename)
          [.machinePlanogramSlots, .stockMovements, .stockMovementSync,
            .currentStockProjection, .saleViewProjection,
            .saleSafetyBlockers]
          retiredPlanogramMediaColumn 20,
        .statement .pragma]

/-- Remember the identity of one current task under its task id. -/
def rememberCurrentTask (refill : Bool) : MigrationStatement :=
  .insertSelect .ignore .stockMaintenanceTaskIdentities
    ⟨[(.taskId, .computed .currentTaskId [.valueJson]),
        (.identityJson, .computed .currentTaskIdentity [.valueJson]),
        (.createdAt, .computed .currentTime [])],
      by decide⟩
    .runtimeMetadata (some (.currentTask refill))

def backfillCurrentStockMaintenanceTaskIdentities : DaemonMigration where
  due _ := true
  reads := none
  actions _ :=
    some (statements [rememberCurrentTask false, rememberCurrentTask true])

def putSchemaVersion : DaemonMigration where
  due _ := true
  reads := none
  actions _ := some [.writeVersion 21]

/-- V1 is executed at every start. -/
def migrateToV1 : DaemonMigration where
  due _ := true
  reads := none
  actions _ := some (statements migrationV1)

/-- The migrations to the versions 1 to 21. -/
def upgrades : List DaemonMigration :=
  [migrateToV1,
    upgrade 2 migrationV2, upgrade 3 migrationV3,
    upgrade 4 migrationV4, upgrade 5 migrationV5,
    upgrade 6 migrationV6, upgrade 7 migrationV7,
    upgrade 8 migrationV8, upgrade 9 migrationV9,
    upgrade 10 migrationV10, upgrade 11 migrationV11,
    upgrade 12 migrationV12, upgrade 13 migrationV13,
    upgrade 14 migrationV14, upgrade 15 migrationV15,
    upgrade 16 migrationV16,
    guardedUpgrade 17 .manualDispenseDiagnostics .requestFingerprint
      migrationV17,
    guardedUpgrade 18 .commandLog .sideEffectsCommittedAt migrationV18,
    migrateMachinePlanogramSlotsToV19,
    migrateMachinePlanogramSlotsToV20,
    upgrade 21 migrationV21]

def runMigrations : List DaemonMigration :=
  upgrades.take 15 ++ [backfillCurrentStockMaintenanceTaskIdentities] ++
    upgrades.drop 15 ++ [putSchemaVersion]

/-- What the texts take from the JSON functions and the stored tasks. -/
structure MigrationInputs where
  withSlotSalesState : Cell → Cell → Cell
  taskIdentity : Cell → Cell → Cell → Cell → Cell → Cell
  currentTask : Cell → Option (Cell × Cell)
  now : Cell

/-- The `CASE` of V3 on `slot_sales_state`. -/
def caseSlotSalesState (state : Cell) : Cell :=
  if state = .text "saleable" then .text "sale_ready"
  else if state = .text "unavailable" then .text "frozen"
  else state

def stockMaintenanceTaskKey (refill : Bool) : String :=
  if refill then "stock_maintenance_refill_task"
  else "stock_maintenance_count_task"

/-- The states for which V6 records a blocker. -/
def migratedBlockerStates : List Cell :=
  [.text "needs_count", .text "blocked_for_planogram_change",
    .text "movement_rejected", .text "needs_platform_review"]

/-- The meaning of the functions that the texts name. -/
def meaningOf
    (inputs : MigrationInputs) :
    Interpretation MigrationColumn MigrationFunction Cell where
  rewrite
    | .slotSalesState, value => caseSlotSalesState value
    | _, value => value
  compute
    | .saleViewItem, row =>
      inputs.withSlotSalesState (row .itemJson)
        (caseSlotSalesState (row .slotSalesState))
    | .migratedReason, _ => .text "migrated_reconciliation_blocker"
    | .migratedSource, _ => .text "migration"
    | .taskIdentity, row =>
      inputs.taskIdentity (row .planogramVersion) (row .planogramRevision)
        (row .mode) (row .slotSetJson) (row .taskId)
    | .currentTaskId, row =>
      ((inputs.currentTask (row .valueJson)).map Prod.fst).getD .null
    | .currentTaskIdentity, row =>
      ((inputs.currentTask (row .valueJson)).map Prod.snd).getD .null
    | .currentTime, _ => inputs.now
    | _, _ => .null
  accepts
    | .blockedState, row => row .slotSalesState ∈ migratedBlockerStates
    | .currentTask refill, row =>
      row .key = .text (stockMaintenanceTaskKey refill) ∧
        (inputs.currentTask (row .valueJson)).isSome
    | _, _ => true

theorem meaningOf_idempotent (inputs : MigrationInputs) :
    (meaningOf inputs).Idempotent := by
  intro function value
  cases function with
  | slotSalesState =>
    change caseSlotSalesState (caseSlotSalesState value) =
      caseSlotSalesState value
    unfold caseSlotSalesState
    split
    · rfl
    · split
      · rfl
      · simp_all
  | _ => rfl

abbrev MigrationState : Type :=
  MigratorState MigrationTable MigrationIndex MigrationColumn
    MigrationFunction Cell

/-- The process that runs the migrations, dies and runs them again. -/
def migrationRunner
    (inputs : MigrationInputs) : Machine MigrationState MigratorEvent :=
  migrator (meaningOf inputs) runMigrations

/-- The process before it opens a database of some persisted version. -/
def unopened (db : MigrationDatabase) (version : Nat) : MigrationState where
  db := db
  version := version
  phase := .down

/-- An empty database brought to a version, one upgrade after another. -/
def builtAt
    (inputs : MigrationInputs) : Nat → Option (MigrationDatabase × Nat)
  | 0 => some (fun _ => none, 0)
  | version + 1 =>
    (builtAt inputs version).bind fun built =>
      upgrades[version]?.bind
        (runMigration (meaningOf inputs) built.1 built.2)

/-- The shape of a table in the schema of a version. -/
def schemaAt
    (inputs : MigrationInputs)
    (version : Nat)
    (table : MigrationTable) :
    Option (Shape MigrationIndex MigrationColumn) :=
  ((builtAt inputs version).bind fun built => built.1 table).map
    StoredTable.shape

/-- A database with the schema of a version, whatever its rows. -/
def HasSchema
    (inputs : MigrationInputs)
    (version : Nat)
    (db : MigrationDatabase) : Prop :=
  ∀ table, (db table).map StoredTable.shape = schemaAt inputs version table

/-- The tables whose rows carry the facts of the store. -/
def preservedTables : List MigrationTable :=
  [.orderSessions, .commandLog, .outboxEvents, .stockMovements,
    .stockMovementSync, .currentStockProjection, .machinePlanogramSlots]

/-- The columns that V19 and V20 leave out of the planogram slots. -/
def droppedColumns : List MigrationColumn :=
  [.slotCode, retiredPlanogramMediaColumn]

/-- The column under its name in the last version. -/
def currentColumn (column : MigrationColumn) : MigrationColumn :=
  if column = .layerNo then .rowNo else column

/-- V3 rewrites the sales states of the stock projection. -/
def rewrittenBelowV3
    (version : Nat)
    (table : MigrationTable)
    (column : MigrationColumn) : Option MigrationFunction :=
  if version < 3 ∧ table = .currentStockProjection ∧
      column = .slotSalesState then
    some .slotSalesState
  else none

def migratedValue
    (version : Nat)
    (table : MigrationTable)
    (column : MigrationColumn)
    (value : Cell) : Cell :=
  if version < 3 ∧ table = .currentStockProjection ∧
      column = .slotSalesState then
    caseSlotSalesState value
  else value

/-- Every row is still there, in every column that the last version has. -/
def RowsPreserved
    (version : Nat)
    (start final : MigrationDatabase) : Prop :=
  ∀ table ∈ preservedTables, ∀ original, start table = some original →
    ∃ stored, final table = some stored ∧
      ∀ row ∈ original.rows, ∃ kept ∈ stored.rows,
        ∀ column ∈ original.shape.columns, column ∉ droppedColumns →
          kept (currentColumn column) =
            migratedValue version table column (row column)

/-- The state of one table in which the migrations can be run again. -/
def survivesDeath
    (version : Nat)
    (table : MigrationTable)
    (columns : Option (List MigrationColumn)) : Bool :=
  if 20 ≤ version then true
  else
    match table, columns with
    -- A renamed table that its text has not copied back.
    | .outboxEventsV3, some _ => false
    | .stockMovementSyncV11, some _ => false
    | .stockMaintenanceBatchesV14, some _ => false
    | .machinePlanogramSlotsV19, some _ => false
    -- A dropped table that its text has not replaced.
    | .currentStockProjection, none => version < 2
    | .saleViewProjection, none => version < 2
    | .stockMovements, none => version < 2
    -- A column that a text below its version has added.
    | .stockMovements, some names =>
      7 ≤ version || decide (.beforeQuantity ∉ names)
    | .machinePlanogramSlots, some names =>
      10 ≤ version || decide (retiredPlanogramMediaColumn ∉ names)
    | _, _ => true

/-- Every table is in a state in which the migrations can be run again. -/
def Survivable (version : Nat) (db : MigrationDatabase) : Prop :=
  ∀ table, survivesDeath version table (tableColumns db (some table)) = true

instance (version : Nat) (db : MigrationDatabase) :
    Decidable (Survivable version db) :=
  decidable_of_iff
    ((Enumerated.all.all fun table =>
      survivesDeath version table (tableColumns db (some table))) = true)
    (by
      rw [List.all_eq_true]
      exact ⟨fun all table => all table (Enumerated.mem_all table),
        fun all table _ => all table⟩)

/-- The process dies only where the migrations can be run again. -/
def DiesSurvivably (state : MigrationState) (event : MigratorEvent) : Prop :=
  event = .die → Survivable state.version state.db

instance (state : MigrationState) (event : MigratorEvent) :
    Decidable (DiesSurvivably state event) :=
  inferInstanceAs
    (Decidable (event = .die → Survivable state.version state.db))

/-- The migrations can be brought to an end that keeps every row. -/
def Restartable
    (inputs : MigrationInputs)
    (version : Nat)
    (start : MigrationDatabase)
    (state : MigrationState) : Prop :=
  ∃ events last,
    (∀ event ∈ events, event ≠ .die) ∧
      (migrationRunner inputs).run state events = some last ∧
      last.phase = .finished ∧
      last.version = 21 ∧
      HasSchema inputs 21 last.db ∧
      RowsPreserved version start last.db

end VendingSystem.Daemon
