import VendingSystem.SqlMigrations

namespace VendingSystem.Daemon

open VendingSystem.Sql

/-!
# The migration texts of the local store

The texts V1 to V21, statement by statement.  A table is created with its
columns and primary key; a check, a foreign key or a default of a column is
not part of it, except the default of a column that is added to existing rows.
-/

inductive MigrationTable where
  | runtimeMetadata
  | machineConfig
  | runtimeLocks
  | commandLog
  | outboxEvents
  | orderSessions
  | healthEvents
  | machinePlanogramVersions
  | machinePlanogramSlots
  | stockMovements
  | currentStockProjection
  | saleViewProjection
  | currentStockProjectionV3
  | saleViewProjectionV3
  | outboxEventsV3
  | stockMovementSync
  | currentStockProjectionV5
  | saleViewProjectionV5
  | saleSafetyBlockers
  | wholeMachineLockClearAuditEvents
  | stockMovementsV9
  | destructiveCommandLog
  | stockMovementSyncV11
  | stockMaintenanceBatches
  | stockMaintenanceTaskIdentities
  | stockMaintenanceBatchesV14
  | stockMaintenanceTaskTombstones
  | manualDispenseDiagnostics
  | machinePlanogramSlotsV19
  | machinePlanogramSlotsV20
  | stockMovementsV20
  | stockMovementSyncV20
  | currentStockProjectionV20
  | saleViewProjectionV20
  | saleSafetyBlockersV20
  | environmentControlState
  | environmentControlActions
  deriving Repr, DecidableEq

instance : Enumerated MigrationTable where
  all :=
    [.runtimeMetadata, .machineConfig, .runtimeLocks, .commandLog,
     .outboxEvents, .orderSessions, .healthEvents,
     .machinePlanogramVersions, .machinePlanogramSlots, .stockMovements,
     .currentStockProjection, .saleViewProjection,
     .currentStockProjectionV3, .saleViewProjectionV3, .outboxEventsV3,
     .stockMovementSync, .currentStockProjectionV5, .saleViewProjectionV5,
     .saleSafetyBlockers, .wholeMachineLockClearAuditEvents,
     .stockMovementsV9, .destructiveCommandLog, .stockMovementSyncV11,
     .stockMaintenanceBatches, .stockMaintenanceTaskIdentities,
     .stockMaintenanceBatchesV14, .stockMaintenanceTaskTombstones,
     .manualDispenseDiagnostics, .machinePlanogramSlotsV19,
     .machinePlanogramSlotsV20, .stockMovementsV20, .stockMovementSyncV20,
     .currentStockProjectionV20, .saleViewProjectionV20,
     .saleSafetyBlockersV20, .environmentControlState,
     .environmentControlActions]
  mem_all name := by cases name <;> decide

instance : Keyed MigrationTable where
  key name := (List.range 6).map name.ctorIdx.testBit
  key_injective first second same := by
    have distinct :
        (Enumerated.all.all fun (first : MigrationTable) =>
          Enumerated.all.all fun (second : MigrationTable) =>
            decide (first = second) ||
              (List.range 6).any fun bit =>
                first.ctorIdx.testBit bit != second.ctorIdx.testBit bit) =
          true := by
      decide +kernel
    have choice := List.all_eq_true.mp
      (List.all_eq_true.mp distinct first (Enumerated.mem_all first))
      second (Enumerated.mem_all second)
    rcases Bool.or_eq_true _ _ ▸ choice with equal | different
    · exact of_decide_eq_true equal
    · obtain ⟨bit, member, unequal⟩ := List.any_eq_true.mp different
      exact absurd (List.map_inj_left.mp same bit member)
        (bne_iff_ne.mp unequal)

inductive MigrationColumn where
  | key | valueJson | updatedAt | id | configJson
  | machineSecretConfigured | mqttSigningSecretConfigured
  | mqttPasswordConfigured | lockName | ownerPid | acquiredAt
  | heartbeatAt | commandNo | orderNo | commandPayloadJson | status
  | ackAt | dispensingStartedAt | resultPayloadJson | errorCode
  | errorMessage | expiresAt | kind | transport | topic | targetUrl
  | method | payloadJson | priority | createdAt | nextAttemptAt
  | attemptCount | lastError | paymentMethod | paymentProvider
  | paymentAttemptJson | itemsJson | nextAction | lastBackendStatusJson
  | recoveryStrategy | component | level | code | message | contextJson
  | occurredAt | recoveredAt | planogramVersion | active | source
  | appliedBy | appliedAt | slotId | slotCode | layerNo | cellNo
  | capacity | parLevel | inventoryId | variantId | productId
  | productName | productDescription | coverImageUrl | categoryId
  | categoryName | sku | size | color | priceCents | productSortOrder
  | targetGender | movementId | movementType | quantity | attributedTo
  | physicalStock | saleableStock | slotSalesState | itemJson
  | outboxEventId | acceptedAt | platformReceiptJson | rejectionJson
  | reason | beforeQuantity | afterQuantity | slotMappingSnapshotJson
  | operatorNote | previousLockJson | recoveryEvidenceJson
  | tryOnSilhouetteUrl | messageId | commandType | issuedAt | taskId
  | mode | planogramRevision | slotSetJson | payloadFingerprint
  | operatorId | capacitySnapshotJson | identityJson | prunedAt
  | diagnosticId | idempotencyKey | sessionCorrelationId | controllerJson
  | commandJson | startedAt | completedAt | rawResultJson
  | normalizedResultJson | reconciliationStatus | requestFingerprint
  | sideEffectsCommittedAt | rowNo | snapshotJson | actionId | actionJson
  | acceptedRevision
  deriving Repr, DecidableEq

/-- The indexes that the migrations create, in the order of their names. -/
inductive MigrationIndex where
  | commandLogExpires
  | destructiveCommandLogExpires
  | environmentControlActionsRevision
  | healthEventsComponentTime
  | machinePlanogramVersionsActive
  | manualDispenseDiagnosticsExpiry
  | manualDispenseDiagnosticsTime
  | outboxDue
  | saleSafetyBlockersSlot
  | stockMaintenanceTaskTombstonesExpires
  | stockMovementSyncStatus
  | stockMovementsSlotTime
  | wholeMachineLockClearAuditCreated
  deriving Repr, DecidableEq

instance : Enumerated MigrationIndex where
  all :=
    [.commandLogExpires, .destructiveCommandLogExpires,
     .environmentControlActionsRevision, .healthEventsComponentTime,
     .machinePlanogramVersionsActive, .manualDispenseDiagnosticsExpiry,
     .manualDispenseDiagnosticsTime, .outboxDue, .saleSafetyBlockersSlot,
     .stockMaintenanceTaskTombstonesExpires, .stockMovementSyncStatus,
     .stockMovementsSlotTime, .wholeMachineLockClearAuditCreated]
  mem_all index := by cases index <;> decide

/-- The expressions and conditions of the texts that are not plain columns. -/
inductive MigrationFunction where
  | slotSalesState
  | saleViewItem
  | migratedReason
  | migratedSource
  | blockedState
  | taskIdentity
  | currentTask (refill : Bool)
  | currentTaskId
  | currentTaskIdentity
  | currentTime
  deriving Repr, DecidableEq

/-- A stored value. -/
inductive Cell where
  | null
  | integer (value : Int)
  | text (value : String)
  deriving Repr, DecidableEq, Inhabited

abbrev MigrationStatement : Type :=
  Statement MigrationTable MigrationIndex MigrationColumn MigrationFunction
    Cell

abbrev MigrationAction : Type :=
  Action MigrationTable MigrationIndex MigrationColumn MigrationFunction Cell

abbrev MigrationDatabase : Type :=
  Database MigrationTable MigrationIndex MigrationColumn Cell

/-- Select columns under their own names. -/
def copied
    (columns : List MigrationColumn)
    (distinct : columns.Nodup) :
    Selection MigrationColumn MigrationFunction where
  entries := columns.map fun column => (column, .column column)
  distinct := by
    rw [List.map_map]
    exact (List.map_id columns).symm ▸ distinct

def migrationV1 : List MigrationStatement :=
  [ .pragma,
    .pragma,
    .createTable true .runtimeMetadata
      [.key, .valueJson, .updatedAt]
      [.key],
    .createTable true .machineConfig
      [.id, .configJson, .machineSecretConfigured,
       .mqttSigningSecretConfigured, .mqttPasswordConfigured, .updatedAt]
      [.id],
    .createTable true .runtimeLocks
      [.lockName, .ownerPid, .acquiredAt, .heartbeatAt]
      [.lockName],
    .createTable true .commandLog
      [.commandNo, .orderNo, .commandPayloadJson, .status, .ackAt,
       .dispensingStartedAt, .resultPayloadJson, .errorCode, .errorMessage,
       .updatedAt, .expiresAt]
      [.commandNo],
    .createTable true .outboxEvents
      [.id, .kind, .transport, .topic, .targetUrl, .method, .payloadJson,
       .priority, .createdAt, .nextAttemptAt, .attemptCount, .lastError,
       .expiresAt]
      [.id],
    .createTable true .orderSessions
      [.orderNo, .paymentMethod, .paymentProvider, .paymentAttemptJson,
       .itemsJson, .status, .nextAction, .expiresAt, .lastBackendStatusJson,
       .lastError, .recoveryStrategy, .updatedAt]
      [.orderNo],
    .createTable true .healthEvents
      [.id, .component, .level, .code, .message, .contextJson, .occurredAt,
       .recoveredAt]
      [.id],
    .createIndex .outboxDue .outboxEvents
      [.nextAttemptAt, .priority],
    .createIndex .commandLogExpires .commandLog
      [.expiresAt],
    .createIndex .healthEventsComponentTime .healthEvents
      [.component, .occurredAt] ]

def migrationV2 : List MigrationStatement :=
  [ .pragma,
    .createTable true .machinePlanogramVersions
      [.planogramVersion, .active, .source, .appliedBy, .appliedAt]
      [.planogramVersion],
    .createIndex .machinePlanogramVersionsActive .machinePlanogramVersions
      [.active],
    .createTable true .machinePlanogramSlots
      [.planogramVersion, .slotId, .slotCode, .layerNo, .cellNo, .capacity,
       .parLevel, .inventoryId, .variantId, .productId, .productName,
       .productDescription, .coverImageUrl, .categoryId, .categoryName,
       .sku, .size, .color, .priceCents, .productSortOrder, .targetGender]
      [.planogramVersion, .slotId],
    .createTable true .stockMovements
      [.movementId, .planogramVersion, .slotId, .movementType, .quantity,
       .source, .attributedTo, .occurredAt]
      [.movementId],
    .createIndex .stockMovementsSlotTime .stockMovements
      [.planogramVersion, .slotId, .occurredAt, .movementId],
    .createTable true .currentStockProjection
      [.planogramVersion, .slotId, .physicalStock, .saleableStock,
       .slotSalesState, .updatedAt]
      [.slotId],
    .createTable true .saleViewProjection
      [.planogramVersion, .slotId, .itemJson, .slotSalesState, .updatedAt]
      [.slotId] ]

def migrationV3 : List MigrationStatement :=
  [ .pragma,
    .createTable true .currentStockProjectionV3
      [.planogramVersion, .slotId, .physicalStock, .saleableStock,
       .slotSalesState, .updatedAt]
      [.slotId],
    .insertSelect .replace .currentStockProjectionV3
      ⟨[(.planogramVersion, .column .planogramVersion),
        (.slotId, .column .slotId),
        (.physicalStock, .column .physicalStock),
        (.saleableStock, .column .saleableStock),
        (.slotSalesState, .rewritten .slotSalesState .slotSalesState),
        (.updatedAt, .column .updatedAt)],
       by decide⟩
      .currentStockProjection none,
    .dropTable .currentStockProjection,
    .renameTable .currentStockProjectionV3 .currentStockProjection,
    .createTable true .saleViewProjectionV3
      [.planogramVersion, .slotId, .itemJson, .slotSalesState, .updatedAt]
      [.slotId],
    .insertSelect .replace .saleViewProjectionV3
      ⟨[(.planogramVersion, .column .planogramVersion),
        (.slotId, .column .slotId),
        (.itemJson, .computed .saleViewItem [.itemJson, .slotSalesState]),
        (.slotSalesState, .rewritten .slotSalesState .slotSalesState),
        (.updatedAt, .column .updatedAt)],
       by decide⟩
      .saleViewProjection none,
    .dropTable .saleViewProjection,
    .renameTable .saleViewProjectionV3 .saleViewProjection,
    .pragma ]

def migrationV4 : List MigrationStatement :=
  [ .pragma,
    .renameTable .outboxEvents .outboxEventsV3,
    .createTable true .outboxEvents
      [.id, .kind, .transport, .topic, .targetUrl, .method, .payloadJson,
       .priority, .createdAt, .nextAttemptAt, .attemptCount, .lastError,
       .expiresAt]
      [.id],
    .insertSelect .abort .outboxEvents
      (copied
        [.id, .kind, .transport, .topic, .targetUrl, .method, .payloadJson,
         .priority, .createdAt, .nextAttemptAt, .attemptCount, .lastError,
         .expiresAt]
        (by decide))
      .outboxEventsV3 none,
    .dropTable .outboxEventsV3,
    .createIndex .outboxDue .outboxEvents
      [.nextAttemptAt, .priority],
    .createTable true .stockMovementSync
      [.movementId, .status, .outboxEventId, .attemptCount, .lastError,
       .acceptedAt, .platformReceiptJson, .rejectionJson, .createdAt,
       .updatedAt]
      [.movementId],
    .createIndex .stockMovementSyncStatus .stockMovementSync
      [.status, .updatedAt],
    .pragma ]

def migrationV5 : List MigrationStatement :=
  [ .pragma,
    .createTable true .currentStockProjectionV5
      [.planogramVersion, .slotId, .physicalStock, .saleableStock,
       .slotSalesState, .updatedAt]
      [.slotId],
    .insertSelect .replace .currentStockProjectionV5
      (copied
        [.planogramVersion, .slotId, .physicalStock, .saleableStock,
         .slotSalesState, .updatedAt]
        (by decide))
      .currentStockProjection none,
    .dropTable .currentStockProjection,
    .renameTable .currentStockProjectionV5 .currentStockProjection,
    .createTable true .saleViewProjectionV5
      [.planogramVersion, .slotId, .itemJson, .slotSalesState, .updatedAt]
      [.slotId],
    .insertSelect .replace .saleViewProjectionV5
      (copied
        [.planogramVersion, .slotId, .itemJson, .slotSalesState, .updatedAt]
        (by decide))
      .saleViewProjection none,
    .dropTable .saleViewProjection,
    .renameTable .saleViewProjectionV5 .saleViewProjection,
    .pragma ]

def migrationV6 : List MigrationStatement :=
  [ .pragma,
    .createTable true .saleSafetyBlockers
      [.planogramVersion, .slotId, .slotSalesState, .reason, .source,
       .updatedAt]
      [.planogramVersion, .slotId],
    .createIndex .saleSafetyBlockersSlot .saleSafetyBlockers
      [.slotId, .updatedAt],
    .insertSelect .ignore .saleSafetyBlockers
      ⟨[(.planogramVersion, .column .planogramVersion),
        (.slotId, .column .slotId),
        (.slotSalesState, .column .slotSalesState),
        (.reason, .computed .migratedReason []),
        (.source, .computed .migratedSource []),
        (.updatedAt, .column .updatedAt)],
       by decide⟩
      .currentStockProjection (some .blockedState) ]

def migrationV7 : List MigrationStatement :=
  [ .pragma,
    .addColumn .stockMovements .beforeQuantity (.integer 0),
    .addColumn .stockMovements .afterQuantity (.integer 0),
    .addColumn .stockMovements .slotMappingSnapshotJson .null ]

def migrationV8 : List MigrationStatement :=
  [ .pragma,
    .createTable true .wholeMachineLockClearAuditEvents
      [.id, .operatorNote, .previousLockJson, .recoveryEvidenceJson,
       .createdAt]
      [.id],
    .createIndex .wholeMachineLockClearAuditCreated .wholeMachineLockClearAuditEvents
      [.createdAt] ]

def migrationV9 : List MigrationStatement :=
  [ .pragma,
    .createTable true .stockMovementsV9
      [.movementId, .planogramVersion, .slotId, .movementType, .quantity,
       .source, .attributedTo, .occurredAt, .beforeQuantity, .afterQuantity,
       .slotMappingSnapshotJson]
      [.movementId],
    .insertSelect .replace .stockMovementsV9
      (copied
        [.movementId, .planogramVersion, .slotId, .movementType, .quantity,
         .source, .attributedTo, .occurredAt, .beforeQuantity,
         .afterQuantity, .slotMappingSnapshotJson]
        (by decide))
      .stockMovements none,
    .dropTable .stockMovements,
    .renameTable .stockMovementsV9 .stockMovements,
    .createIndex .stockMovementsSlotTime .stockMovements
      [.planogramVersion, .slotId, .occurredAt, .movementId],
    .pragma ]

def migrationV10 : List MigrationStatement :=
  [ .pragma,
    .addColumn .machinePlanogramSlots .tryOnSilhouetteUrl .null,
    .pragma ]

def migrationV11 : List MigrationStatement :=
  [ .pragma,
    .createTable true .destructiveCommandLog
      [.messageId, .commandType, .payloadJson, .issuedAt, .status,
       .errorMessage, .updatedAt, .expiresAt]
      [.messageId],
    .createIndex .destructiveCommandLogExpires .destructiveCommandLog
      [.expiresAt] ]

def migrationV12 : List MigrationStatement :=
  [ .pragma,
    .renameTable .stockMovementSync .stockMovementSyncV11,
    .createTable true .stockMovementSync
      [.movementId, .status, .outboxEventId, .attemptCount, .lastError,
       .acceptedAt, .platformReceiptJson, .rejectionJson, .createdAt,
       .updatedAt]
      [.movementId],
    .insertSelect .abort .stockMovementSync
      (copied
        [.movementId, .status, .outboxEventId, .attemptCount, .lastError,
         .acceptedAt, .platformReceiptJson, .rejectionJson, .createdAt,
         .updatedAt]
        (by decide))
      .stockMovementSyncV11 none,
    .dropTable .stockMovementSyncV11,
    .createIndex .stockMovementSyncStatus .stockMovementSync
      [.status, .updatedAt],
    .pragma ]

def migrationV13 : List MigrationStatement :=
  [ .pragma,
    .createTable true .stockMaintenanceBatches
      [.taskId, .mode, .planogramVersion, .planogramRevision, .slotSetJson,
       .payloadJson, .payloadFingerprint, .operatorId,
       .capacitySnapshotJson, .createdAt]
      [.taskId] ]

def migrationV14 : List MigrationStatement :=
  [ .pragma,
    .createTable true .stockMaintenanceTaskIdentities
      [.taskId, .identityJson, .createdAt]
      [.taskId] ]

def migrationV15 : List MigrationStatement :=
  [ .pragma,
    .insertSelect .ignore .stockMaintenanceTaskIdentities
      ⟨[(.taskId, .column .taskId),
        (.identityJson,
         .computed .taskIdentity
           [.taskId, .mode, .planogramVersion, .planogramRevision,
            .slotSetJson]),
        (.createdAt, .column .createdAt)],
       by decide⟩
      .stockMaintenanceBatches none,
    .renameTable .stockMaintenanceBatches .stockMaintenanceBatchesV14,
    .createTable false .stockMaintenanceBatches
      [.taskId, .mode, .planogramVersion, .planogramRevision, .slotSetJson,
       .payloadJson, .payloadFingerprint, .operatorId,
       .capacitySnapshotJson, .createdAt]
      [.taskId],
    .insertSelect .abort .stockMaintenanceBatches
      (copied
        [.taskId, .mode, .planogramVersion, .planogramRevision,
         .slotSetJson, .payloadJson, .payloadFingerprint, .operatorId,
         .capacitySnapshotJson, .createdAt]
        (by decide))
      .stockMaintenanceBatchesV14 none,
    .dropTable .stockMaintenanceBatchesV14,
    .createTable true .stockMaintenanceTaskTombstones
      [.taskId, .prunedAt, .expiresAt]
      [.taskId],
    .createIndex .stockMaintenanceTaskTombstonesExpires .stockMaintenanceTaskTombstones
      [.expiresAt],
    .pragma ]

def migrationV16 : List MigrationStatement :=
  [ .createTable true .manualDispenseDiagnostics
      [.diagnosticId, .idempotencyKey, .status, .operatorId,
       .sessionCorrelationId, .controllerJson, .commandJson, .startedAt,
       .completedAt, .rawResultJson, .normalizedResultJson,
       .reconciliationStatus, .expiresAt]
      [.diagnosticId],
    .createIndex .manualDispenseDiagnosticsTime .manualDispenseDiagnostics
      [.completedAt],
    .createIndex .manualDispenseDiagnosticsExpiry .manualDispenseDiagnostics
      [.expiresAt] ]

def migrationV17 : List MigrationStatement :=
  [ .addColumn .manualDispenseDiagnostics .requestFingerprint .null ]

def migrationV18 : List MigrationStatement :=
  [ .addColumn .commandLog .sideEffectsCommittedAt .null ]

/-- The text of V19, with the row coordinate that it was given. -/
def migrationV19 (rowColumn : MigrationColumn) : List MigrationStatement :=
  [ .pragma,
    .createTable false .machinePlanogramSlotsV19
      [.planogramVersion, .slotId, .rowNo, .cellNo, .capacity, .parLevel,
       .inventoryId, .variantId, .productId, .productName,
       .productDescription, .coverImageUrl, .categoryId, .categoryName,
       .sku, .size, .color, .priceCents, .productSortOrder, .targetGender,
       .tryOnSilhouetteUrl]
      [.planogramVersion, .slotId],
    .insertSelect .abort .machinePlanogramSlotsV19
      ⟨[(.planogramVersion, .column .planogramVersion),
        (.slotId, .column .slotId), (.rowNo, .column rowColumn),
        (.cellNo, .column .cellNo), (.capacity, .column .capacity),
        (.parLevel, .column .parLevel),
        (.inventoryId, .column .inventoryId),
        (.variantId, .column .variantId), (.productId, .column .productId),
        (.productName, .column .productName),
        (.productDescription, .column .productDescription),
        (.coverImageUrl, .column .coverImageUrl),
        (.categoryId, .column .categoryId),
        (.categoryName, .column .categoryName), (.sku, .column .sku),
        (.size, .column .size), (.color, .column .color),
        (.priceCents, .column .priceCents),
        (.productSortOrder, .column .productSortOrder),
        (.targetGender, .column .targetGender),
        (.tryOnSilhouetteUrl, .column .tryOnSilhouetteUrl)],
       by simp⟩
      .machinePlanogramSlots none,
    .dropTable .machinePlanogramSlots,
    .renameTable .machinePlanogramSlotsV19 .machinePlanogramSlots,
    .pragma ]

def migrationV20Create : List MigrationStatement :=
  [ .createTable false .machinePlanogramSlotsV20
      [.planogramVersion, .slotId, .rowNo, .cellNo, .capacity, .parLevel,
       .inventoryId, .variantId, .productId, .productName,
       .productDescription, .coverImageUrl, .categoryId, .categoryName,
       .sku, .size, .color, .priceCents, .productSortOrder, .targetGender]
      [.planogramVersion, .slotId],
    .createTable false .stockMovementsV20
      [.movementId, .planogramVersion, .slotId, .movementType, .quantity,
       .source, .attributedTo, .occurredAt, .beforeQuantity, .afterQuantity,
       .slotMappingSnapshotJson]
      [.movementId],
    .createTable false .stockMovementSyncV20
      [.movementId, .status, .outboxEventId, .attemptCount, .lastError,
       .acceptedAt, .platformReceiptJson, .rejectionJson, .createdAt,
       .updatedAt]
      [.movementId],
    .createTable false .currentStockProjectionV20
      [.planogramVersion, .slotId, .physicalStock, .saleableStock,
       .slotSalesState, .updatedAt]
      [.slotId],
    .createTable false .saleViewProjectionV20
      [.planogramVersion, .slotId, .itemJson, .slotSalesState, .updatedAt]
      [.slotId],
    .createTable false .saleSafetyBlockersV20
      [.planogramVersion, .slotId, .slotSalesState, .reason, .source,
       .updatedAt]
      [.planogramVersion, .slotId] ]

def migrationV20Copy : List MigrationStatement :=
  [ .insertSelect .abort .machinePlanogramSlotsV20
      (copied
        [.planogramVersion, .slotId, .rowNo, .cellNo, .capacity, .parLevel,
         .inventoryId, .variantId, .productId, .productName,
         .productDescription, .coverImageUrl, .categoryId, .categoryName,
         .sku, .size, .color, .priceCents, .productSortOrder, .targetGender]
        (by decide))
      .machinePlanogramSlots none,
    .insertSelect .abort .stockMovementsV20
      (copied
        [.movementId, .planogramVersion, .slotId, .movementType, .quantity,
         .source, .attributedTo, .occurredAt, .beforeQuantity,
         .afterQuantity, .slotMappingSnapshotJson]
        (by decide))
      .stockMovements none,
    .insertSelect .abort .stockMovementSyncV20
      (copied
        [.movementId, .status, .outboxEventId, .attemptCount, .lastError,
         .acceptedAt, .platformReceiptJson, .rejectionJson, .createdAt,
         .updatedAt]
        (by decide))
      .stockMovementSync none,
    .insertSelect .abort .currentStockProjectionV20
      (copied
        [.planogramVersion, .slotId, .physicalStock, .saleableStock,
         .slotSalesState, .updatedAt]
        (by decide))
      .currentStockProjection none,
    .insertSelect .abort .saleViewProjectionV20
      (copied
        [.planogramVersion, .slotId, .itemJson, .slotSalesState, .updatedAt]
        (by decide))
      .saleViewProjection none,
    .insertSelect .abort .saleSafetyBlockersV20
      (copied
        [.planogramVersion, .slotId, .slotSalesState, .reason, .source,
         .updatedAt]
        (by decide))
      .saleSafetyBlockers none ]

def migrationV20Drop : List MigrationStatement :=
  [ .dropTable .stockMovementSync,
    .dropTable .saleSafetyBlockers,
    .dropTable .currentStockProjection,
    .dropTable .saleViewProjection,
    .dropTable .stockMovements,
    .dropTable .machinePlanogramSlots ]

def migrationV20Rename : List MigrationStatement :=
  [ .renameTable .machinePlanogramSlotsV20 .machinePlanogramSlots,
    .renameTable .stockMovementsV20 .stockMovements,
    .renameTable .stockMovementSyncV20 .stockMovementSync,
    .renameTable .currentStockProjectionV20 .currentStockProjection,
    .renameTable .saleViewProjectionV20 .saleViewProjection,
    .renameTable .saleSafetyBlockersV20 .saleSafetyBlockers ]

def migrationV21 : List MigrationStatement :=
  [ .pragma,
    .createTable true .environmentControlState
      [.id, .snapshotJson, .updatedAt]
      [.id],
    .createTable true .environmentControlActions
      [.actionId, .actionJson, .acceptedRevision, .acceptedAt]
      [.actionId],
    .createIndex .environmentControlActionsRevision .environmentControlActions
      [.acceptedRevision, .acceptedAt] ]

end VendingSystem.Daemon
