import VendingSystem.DaemonMigrations
import Mathlib.Tactic.IntervalCases

namespace VendingSystem.Daemon

open VendingSystem.Sql

/-!
# The migrations explored from every released version

For each version, what is known of a database that was brought to it, the
states that a run from there may leave, and the evaluation that every run from
one of these states succeeds.
-/

abbrev MigrationKnowledge : Type :=
  Knowledge MigrationTable MigrationIndex MigrationColumn MigrationFunction

abbrev MigrationPoint : Type :=
  Point MigrationTable MigrationIndex MigrationColumn MigrationFunction

def migrationDeathRule : DeathRule MigrationTable MigrationColumn where
  survives := survivesDeath
  gates :=
    [(.outboxEventsV3, .outboxEvents),
      (.stockMovementSyncV11, .stockMovementSync),
      (.stockMaintenanceBatchesV14, .stockMaintenanceBatches),
      (.machinePlanogramSlotsV19, .machinePlanogramSlots)]

/-- What is known of an empty database that was brought to a version. -/
def builtPoint : Nat → Option MigrationPoint
  | 0 => some (0, .leaf)
  | version + 1 =>
    (builtPoint version).bind fun built =>
      upgrades[version]?.bind fun upgrade =>
        (exploreMigration built upgrade).map Prod.snd

def builtKnowledge (version : Nat) : MigrationKnowledge :=
  ((builtPoint version).map Prod.snd).getD .leaf

/-- A schema whose preserved tables hold some rows of the start. -/
def holding
    (version : Nat)
    (carried :
      MigrationTable →
        Shape MigrationIndex MigrationColumn →
          Option (List (Carried MigrationColumn MigrationFunction))) :
    MigrationKnowledge :=
  Enumerated.all.foldl
    (fun knowledge table =>
      knowledge.set table
        (((builtKnowledge version).of table).map fun state =>
          state.map fun known =>
            { known with
              isEmpty := false
              holds :=
                ((carried table known.shape).map fun columns =>
                  (table, columns)).toList }))
    .leaf

/-- A database of a version holds the rows that it starts with. -/
def startKnowledge (version : Nat) : MigrationKnowledge :=
  holding version fun table shape =>
    if table ∈ preservedTables then
      some (shape.columns.map fun column => (column, none, column))
    else none

/-- The columns of a table in the schema of a version. -/
def builtColumns
    (version : Nat)
    (table : MigrationTable) : Option (List MigrationColumn) :=
  ((builtKnowledge version).of table).head?.bind columnsOf

/-- A migrated database holds them in the columns of the last version. -/
def targetKnowledge (version : Nat) : MigrationKnowledge :=
  holding 21 fun table _ =>
    if table ∈ preservedTables then
      (builtColumns version table).map fun columns =>
        (columns.filter fun column => column ∉ droppedColumns).map
          fun column =>
            (column, rewrittenBelowV3 version table column,
              currentColumn column)
    else none

/-- The states that a run may leave, found by one exploration. -/
def recoveryOf (version : Nat) : List MigrationPoint :=
  migrationDeathRule.widen runMigrations [(version, startKnowledge version)]

/-- The schema of a version is known without doubt. -/
def schemaKnown (version : Nat) : Bool :=
  (builtPoint version).isSome &&
    Enumerated.all.all fun table =>
      ((builtKnowledge version).of table).length == 1

/-- The recovery covers the start, is closed, and ends at the target. -/
def explorationSucceeds (version : Nat) : Bool :=
  let recovery := recoveryOf version
  schemaKnown version && schemaKnown 21 &&
    (preservedTables.all fun table => (builtColumns 21 table).isSome) &&
    decide (recovery.map Prod.fst).Nodup &&
    migrationDeathRule.closedUnder runMigrations 21 recovery &&
    match recovery.lookup version, recovery.lookup 21 with
    | some first, some last =>
      covers (startKnowledge version) first &&
        covers last (targetKnowledge version)
    | _, _ => false

-- One evaluation for each version: the kernel drops what it has cached between.
theorem explorationSucceeds_below_seven
    {version : Nat}
    (below : version < 7) :
    explorationSucceeds version = true := by
  interval_cases version <;> decide +kernel

theorem explorationSucceeds_of_released
    {version : Nat}
    (released : version ≤ 21) :
    explorationSucceeds version = true := by
  by_cases below : version < 7
  · exact explorationSucceeds_below_seven below
  · interval_cases version <;> decide +kernel

end VendingSystem.Daemon
