import VendingSystem.Machine
import VendingSystem.DaemonDispense
import VendingSystem.DaemonStockSync

namespace VendingSystem.Daemon

/-!
# Stock keeping as an event machine

One event for each transaction that writes stock, and one for everything else
the daemon does with its store.  A transaction that fails leaves the store as
it was.  The time, the answers of the platform and the slot that an ambiguous
coordinate resolves to are part of the event.
-/

/-- A transaction on the daemon's stock. -/
inductive StockEvent where
  | applyPlanogram (input : MachinePlanogramInput)
  | recordStockMovement (input : StockMovementInput) (upload : Bool)
  | submitRefillBatch
      (input : StockMaintenanceBatchInput)
      (operatorId : Nat)
      (identity : StockMaintenanceTaskIdentity)
  | recordAttestation (input : PhysicalStockAttestationInput)
  | stageAttestation
      (input : PhysicalStockAttestationInput)
      (carried : List PendingPhysicalStockAttestationSlotGeneration)
      (identity : Option StockMaintenanceTaskIdentity)
  | finalizeAttestation
  | uploadAnswered
      (event : OutboxEvent)
      (response : StockMovementUploadResponse)
  | uploadFailed
      (eventId : OutboxId)
      (movementId : MovementId)
      (error : String)
      (nextAttemptAt : Time)
  | applySnapshot (snapshot : MachineStockSnapshot)
  | journalDispense
      (command : DispenseCommandPayload)
      (result : DispenseResultPayload)
  | commitDispense
      (command : DispenseCommandPayload)
      (result : DispenseResultPayload)
      (preferred : PlanogramVersion × SlotId)
  | updateSlotSalesState
      (version : PlanogramVersion)
      (slotId : SlotId)
      (state : SlotSalesState)
      (source : String)
  | pruneStockMovements (taskIds : List TaskId) (cutoff : Time)
  | otherActivity (after : Store)
  deriving DecidableEq

/-- What only the transactions on stock write. -/
def Store.keepsStock (before after : Store) : Bool :=
  decide (after.activePlanogramVersion = before.activePlanogramVersion) &&
    decide (after.machinePlanogramVersions =
      before.machinePlanogramVersions) &&
    decide (after.machinePlanogramSlots = before.machinePlanogramSlots) &&
    decide (after.stockMovements = before.stockMovements) &&
    decide (after.stockMovementSync = before.stockMovementSync) &&
    decide (after.currentStockProjection =
      before.currentStockProjection) &&
    decide (after.saleViewProjection = before.saleViewProjection) &&
    decide (after.saleSafetyBlockers = before.saleSafetyBlockers) &&
    decide (after.stockMaintenanceBatches =
      before.stockMaintenanceBatches) &&
    decide (after.physicalStockAttestation =
      before.physicalStockAttestation) &&
    decide (after.pendingPhysicalStockAttestation =
      before.pendingPhysicalStockAttestation) &&
    decide (after.failedPhysicalStockAttestation =
      before.failedPhysicalStockAttestation)

/-- The movements that a pending attestation still needs. -/
def Store.protectedMovementIds (store : Store) : List MovementId :=
  (store.pendingPhysicalStockAttestation.map
    PendingPhysicalStockAttestation.movementIds).getD []

/-- Prune accepted movements and the batches of tasks that are over. -/
def pruneStockMovementHistory
    (store : Store)
    (taskIds : List TaskId)
    (cutoff : Time) : Store :=
  pruneAcceptedStockMovementHistory
    { store with
      stockMaintenanceBatches := store.stockMaintenanceBatches.deleteWhere
        (fun batch => taskIds.contains batch.taskId) }
    store.protectedMovementIds cutoff

/-- The store after one transaction. -/
def Store.perform (store : Store) (now : Time) : StockEvent → Store
  | .applyPlanogram input => ((applyPlanogram input now).execute store).2
  | .recordStockMovement input upload =>
    match recordStockMovementWithUpload store input upload now with
    | .ok (recorded, _) => recorded
    | .error _ => store
  | .submitRefillBatch input operatorId identity =>
    ((submitRefillBatch input operatorId identity now).execute store).2
  | .recordAttestation input =>
    ((recordPhysicalStockAttestation input now).execute store).2
  | .stageAttestation input carried identity =>
    ((stagePhysicalStockAttestation
      input carried identity now).execute store).2
  | .finalizeAttestation =>
    match finalizePendingPhysicalStockAttestationIfAccepted store now with
    | .ok (finalized, _) => finalized
    | .error _ => store
  | .uploadAnswered event response =>
    ((recordStockMovementUploadResponse event response now).execute
      store).2
  | .uploadFailed eventId movementId error nextAttemptAt =>
    ((markStockMovementUploadFailed
      eventId movementId error nextAttemptAt now).execute store).2
  | .applySnapshot snapshot =>
    ((applyPlatformStockSnapshot snapshot now).execute store).2
  | .journalDispense command result =>
    (recordCommandResultJournal store command result now).1
  | .commitDispense command result preferred =>
    match commitJournaledDispenseSideEffects
        store command result preferred now with
    | .ok (committed, _) => committed
    | .error _ => store
  | .updateSlotSalesState version slotId state source =>
    match updateSlotSalesState store version slotId state source now with
    | .ok updated => updated
    | .error _ => store
  | .pruneStockMovements taskIds cutoff =>
    pruneStockMovementHistory store taskIds cutoff
  | .otherActivity after =>
    if store.keepsStock after then after else store

/-- A transaction and the time at which it runs. -/
structure TimedStockEvent where
  now : Time
  event : StockEvent
  deriving DecidableEq

/-- Stock keeping from any store, in any order of transactions. -/
def stockMachine : Machine Store TimedStockEvent where
  step := fun store timed => some (store.perform timed.now timed.event)

end VendingSystem.Daemon
