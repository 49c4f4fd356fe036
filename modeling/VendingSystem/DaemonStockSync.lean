import VendingSystem.DaemonAttestation

namespace VendingSystem.Daemon

/-!
# Synchronising stock with the platform

The answers to uploaded movements and the platform's stock snapshots.  A
snapshot is deferred while a movement upload is queued or the latest order may
still take stock; otherwise it overwrites the physical stock of every slot.
-/

/-- How an upload answer settles the movement. -/
def StockMovementUploadStatus.syncStatus :
    StockMovementUploadStatus → MovementSyncStatus
  | .accepted
  | .alreadyAccepted => .accepted
  | .rejected => .rejected
  | .reconciliation
  | .unrecognized => .reconciliation

/-- Only reconciliation states can be stored as a blocker. -/
def insertSaleSafetyBlocker
    (store : Store)
    (version : PlanogramVersion)
    (blocker : StockMovementSaleSafetyBlocker) : Except StoreError Store :=
  if blocker.slotSalesState.isReconciliationSaleSafetyBlocker then
    .ok (upsertSaleSafetyBlockerMarker store version blocker.slotId
      blocker.slotSalesState blocker.reason "platform_reconciliation")
  else .error .constraintViolation

/-- Put the platform's blocker on a projected slot of the active planogram. -/
def applySaleSafetyBlocker
    (store : Store)
    (blocker : StockMovementSaleSafetyBlocker)
    (now : Time) : Except StoreError Store :=
  match (store.currentStockProjection.find? blocker.slotId).filter
      (fun row =>
        store.activePlanogramVersion == some row.planogramVersion) with
  | none => .ok store
  | some projection => do
      let version := projection.planogramVersion
      let marked ← insertSaleSafetyBlocker store version blocker
      upsertSaleViewProjection
        { marked with
          currentStockProjection := marked.currentStockProjection.updateWhere
            (fun row =>
              row.planogramVersion == version &&
                row.slotId == blocker.slotId)
            (fun row =>
              { row with
                saleableStock := 0
                slotSalesState := blocker.slotSalesState
                updatedAt := now }) }
        version blocker.slotId now

/-- The planogram version that a queued upload was recorded under. -/
def OutboxEvent.planogramVersion (event : OutboxEvent) :
    Option PlanogramVersion :=
  match event.payload with
  | .stockMovementUpload movement => some movement.planogramVersion
  | .commandAck
  | .dispenseResult _ => none

/-- Write an answer into the upload state of its movement. -/
def settleMovementSync
    (store : Store)
    (event : OutboxEvent)
    (response : StockMovementUploadResponse)
    (now : Time) : Store :=
  { store with
    stockMovementSync := store.stockMovementSync.modify response.movementId
      (fun sync =>
        { sync with
          status := response.status.syncStatus
          attemptCount := event.attemptCount + 1
          lastError := none
          acceptedAt :=
            if response.status.syncStatus = .accepted then
              some (response.acceptedAt.getD now)
            else none
          platformReceipt := some response
          updatedAt := now }) }

/-- Apply the blocker of an answer that concerns the active planogram. -/
def applyResponseBlocker
    (store : Store)
    (event : OutboxEvent)
    (response : StockMovementUploadResponse)
    (now : Time) : Except StoreError Store :=
  match response.saleSafetyBlocker with
  | none => .ok store
  | some blocker =>
    if store.activePlanogramVersion = event.planogramVersion then
      applySaleSafetyBlocker store blocker now
    else .ok store

def removeOutboxEvent (store : Store) (id : OutboxId) : Store :=
  { store with
    outboxEvents := store.outboxEvents.deleteWhere
      (fun event => event.id == id) }

/--
Record the answer to an upload in one transaction.  The caller then tries to
finalise the pending attestation in another one.
-/
def recordStockMovementUploadResponse
    (event : OutboxEvent)
    (response : StockMovementUploadResponse)
    (now : Time) : Transaction Store StoreError Unit := do
  let before ← get
  Transaction.require
    (before.stockMovementSync.find? response.movementId).isSome .rowNotFound
  modify fun store => settleMovementSync store event response now
  Transaction.statement fun store =>
    applyResponseBlocker store event response now
  modify fun store => removeOutboxEvent store event.id

/-- Keep a failed upload queued until its next attempt. -/
def markStockMovementUploadFailed
    (eventId : OutboxId)
    (movementId : MovementId)
    (error : String)
    (nextAttemptAt now : Time) : Transaction Store StoreError Unit := do
  let before ← get
  let event ← Transaction.requireSome
    (before.outboxEvents.find? eventId) .rowNotFound
  Transaction.require
    (before.stockMovementSync.find? movementId).isSome .rowNotFound
  modify fun store =>
    { store with
      outboxEvents := store.outboxEvents.modify eventId
        (fun queued =>
          { queued with
            attemptCount := queued.attemptCount + 1
            nextAttemptAt := nextAttemptAt })
      stockMovementSync := store.stockMovementSync.modify movementId
        (fun sync =>
          { sync with
            status := .failed
            attemptCount := event.attemptCount + 1
            lastError := some error
            updatedAt := now }) }

def orderSessionTerminalStatus (status : String) : Bool :=
  ["payment_expired", "payment_failed", "canceled", "cancelled", "failed",
    "dispense_failed", "fulfilled", "succeeded", "manual_handling",
    "closed"].contains status

def orderSessionTerminalNextAction (nextAction : String) : Bool :=
  ["success", "payment_expired", "payment_failed", "dispense_failed",
    "refund_pending", "refunded", "manual_handling",
    "closed"].contains nextAction

/-- The order may still take stock out of the machine. -/
def orderSessionReservesLocalStock
    (session : OrderSession)
    (now : Time) : Bool :=
  if orderSessionTerminalStatus session.status ||
      orderSessionTerminalNextAction session.nextAction then false
  else if ["paid", "dispensing"].contains session.status ||
      session.nextAction == "dispensing" then true
  else if session.expiresAt.any (fun expiresAt => decide (expiresAt ≤ now))
  then false
  else
    ["waiting_payment", "pending_payment", "payment_submitted", "paid",
      "dispensing"].contains session.status ||
      ["wait_payment", "dispensing"].contains session.nextAction

/-- The order session that was written last and is not closed. -/
def Store.latestOrderSession (store : Store) : Option OrderSession :=
  (store.orderSessions.rows.filter
    (fun session => session.status != "closed")).foldl
      (fun latest session =>
        match latest with
        | none => some session
        | some current =>
          if current.updatedAt ≤ session.updatedAt then some session
          else some current)
      none

structure MachineStockSnapshotSlot where
  slotId : SlotId
  inventoryId : Nat
  capacity : Int
  onHandQty : Int
  reservedQty : Int
  availableQty : Int
  slotSalesState : Option SlotSalesState
  deriving Repr, DecidableEq

/-- The platform's view of a machine's stock. -/
structure MachineStockSnapshot where
  planogramVersion : PlanogramVersion
  slots : List MachineStockSnapshotSlot
  deriving Repr, DecidableEq

def OutboxPayload.isStockMovementUpload : OutboxPayload → Bool
  | .stockMovementUpload _ => true
  | .commandAck
  | .dispenseResult _ => false

/-- A movement upload is queued. -/
def Store.hasPendingUpload (store : Store) : Bool :=
  store.outboxEvents.rows.any
    (fun event => event.payload.isStockMovementUpload)

/-- Remove the blockers that a current snapshot of a ready slot overrules. -/
def clearExplicitStaleReconciliationBlocker
    (store : Store)
    (version : PlanogramVersion)
    (slotId : SlotId) : Store :=
  { store with
    saleSafetyBlockers := store.saleSafetyBlockers.deleteWhere
      (fun blocker =>
        blocker.planogramVersion == version && blocker.slotId == slotId &&
          ((blocker.source == "platform_reconciliation" &&
              blocker.reason == "legacy_task_identity") ||
            (blocker.source == "stock_maintenance_task" &&
              blocker.reason == "stale_stock_maintenance_task"))) }

/-- Check one slot of a snapshot against the local planogram. -/
def checkSnapshotSlot
    (store : Store)
    (version : PlanogramVersion)
    (slot : MachineStockSnapshotSlot) : Except StoreError Unit :=
  if slot.capacity < 0 ∨ slot.onHandQty < 0 ∨ slot.reservedQty < 0 ∨
      slot.availableQty < 0 then
    .error (.invalidStockInput
      "stock snapshot quantities must be nonnegative")
  else
    match store.machinePlanogramSlots.find? (version, slot.slotId) with
    | none => .error (.invalidStockInput
        s!"stock snapshot contains unknown slot {slot.slotId}")
    | some localSlot =>
      if localSlot.inventoryId ≠ slot.inventoryId then
        .error (.invalidStockInput
          s!"stock snapshot inventory mismatch for slot {slot.slotId}")
      else if localSlot.capacity ≠ slot.capacity then
        .error (.invalidStockInput
          s!"stock snapshot capacity mismatch for slot {slot.slotId}")
      else .ok ()

/-- The sales state that a snapshot gives a slot. -/
def MachineStockSnapshotSlot.projectedState
    (slot : MachineStockSnapshotSlot) : SlotSalesState :=
  let rawSaleableStock := max (min slot.availableQty slot.capacity) 0
  match slot.slotSalesState with
  | some .saleReady => if rawSaleableStock ≤ 0 then .soldOut else .saleReady
  | some state => state
  | none => if rawSaleableStock > 0 then .saleReady else .soldOut

/-- Overwrite the projection of one slot with the platform's stock. -/
def projectSnapshotSlot
    (store : Store)
    (version : PlanogramVersion)
    (slot : MachineStockSnapshotSlot)
    (now : Time) : Except StoreError Store :=
  let cleared :=
    if slot.slotSalesState = some .saleReady then
      clearExplicitStaleReconciliationBlocker store version slot.slotId
    else store
  let saleableStock :=
    if slot.projectedState = .saleReady then
      max (min slot.availableQty slot.capacity) 0
    else 0
  upsertSaleViewProjection
    (upsertStockProjectionWithState cleared version slot.slotId
      slot.onHandQty saleableStock slot.projectedState false now)
    version slot.slotId now

/-- Check and overwrite the slots of a snapshot, each at most once. -/
def projectSnapshotSlots
    (version : PlanogramVersion)
    (now : Time) :
    List SlotId → List MachineStockSnapshotSlot →
      Transaction Store StoreError Unit
  | _, [] => pure ()
  | seen, slot :: rest => do
      Transaction.require (!seen.contains slot.slotId)
        (.invalidStockInput
          s!"stock snapshot duplicate slot {slot.slotId}")
      let store ← get
      Transaction.ofExcept (checkSnapshotSlot store version slot)
      Transaction.statement fun store =>
        projectSnapshotSlot store version slot now
      projectSnapshotSlots version now (slot.slotId :: seen) rest

/-- Apply a platform snapshot in one transaction, unless it is deferred. -/
def applyPlatformStockSnapshot
    (snapshot : MachineStockSnapshot)
    (now : Time) : Transaction Store StoreError Unit := do
  let before ← get
  Transaction.require (!before.hasPendingUpload)
    (.invalidStockInput
      "stock snapshot deferred while local stock movements are pending upload")
  Transaction.require
    (!before.latestOrderSession.any fun session =>
      orderSessionReservesLocalStock session now)
    (.invalidStockInput
      "stock snapshot deferred while a local order is active")
  Transaction.require
    (before.activePlanogramVersion == some snapshot.planogramVersion)
    (.invalidStockInput
      s!"stock snapshot planogram {snapshot.planogramVersion} is not active locally")
  Transaction.require
    ((before.planogramSlots snapshot.planogramVersion).length ==
      snapshot.slots.length)
    (.invalidStockInput
      s!"stock snapshot slot count mismatch: local={(before.planogramSlots snapshot.planogramVersion).length}, platform={snapshot.slots.length}")
  projectSnapshotSlots snapshot.planogramVersion now [] snapshot.slots

end VendingSystem.Daemon
