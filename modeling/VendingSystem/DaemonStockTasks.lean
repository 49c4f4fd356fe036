import VendingSystem.DaemonStockMachine

namespace VendingSystem.Daemon

/-!
# The current stock maintenance task

Which task is current is derived from the active planogram, the last
attestation and the uploads of the task that the runtime metadata name.  Its
batch stays until the history is pruned and leaves a tombstone for a while.
A count submission writes no batch and is not modelled here.
-/

/-- A remembered task. -/
structure StockMaintenanceTaskIdentityRow where
  taskId : TaskId
  identity : StockMaintenanceTaskIdentity
  createdAt : Time
  deriving Repr, DecidableEq

/-- What is left of a pruned task until the tombstone expires. -/
structure StockMaintenanceTaskTombstone where
  taskId : TaskId
  prunedAt : Time
  expiresAt : Time
  deriving Repr, DecidableEq

/--
The store with what it keeps about maintenance tasks.  No task identifier from
`nextTaskId` on was issued, and `applied` lists the refills whose additions
were committed.
-/
structure MaintenanceStore where
  store : Store
  stockMaintenanceRefillTask : Option StockMaintenanceTaskIdentity
  stockMaintenanceCountTask : Option StockMaintenanceTaskIdentity
  stockMaintenanceTaskIdentities :
    Table StockMaintenanceTaskIdentityRow
      StockMaintenanceTaskIdentityRow.taskId
  stockMaintenanceTaskTombstones :
    Table StockMaintenanceTaskTombstone
      StockMaintenanceTaskTombstone.taskId
  nextTaskId : TaskId
  applied : List StockMaintenanceBatchInput
  deriving DecidableEq

/-- The revision that a task issued now is for, with the slots it sees. -/
def Store.stockMaintenanceTaskIdentitySnapshot
    (store : Store)
    (version : PlanogramVersion)
    (mode : StockMaintenanceMode) : StockMaintenancePlanogramRevision where
  planogramVersion := version
  mode := mode
  slots := (store.planogramSlots version).map PlanogramSlot.identitySlot

/-- The task was issued for the planogram as it is. -/
def StockMaintenanceTaskIdentity.isFor
    (identity : StockMaintenanceTaskIdentity)
    (snapshot : StockMaintenancePlanogramRevision) : Bool :=
  identity.planogramVersion == snapshot.planogramVersion &&
    identity.planogramRevision == snapshot &&
    identity.slots == snapshot.slots &&
    identity.mode == snapshot.mode

/-- A movement of the task, `<task>:%`. -/
def MovementId.isOfTask (taskId : TaskId) : MovementId → Bool
  | .stockTask ofTask _ => ofTask == taskId
  | .dispense _ => false

/-- The upload states of a task's movements. -/
def Store.taskSyncs
    (store : Store)
    (taskId : TaskId) : List StockMovementSync :=
  store.stockMovementSync.rows.filter
    (fun sync => sync.movementId.isOfTask taskId)

/-- Every recorded movement of a refill task is accepted, and there is one. -/
def Store.refillIsOver (store : Store) (taskId : TaskId) : Bool :=
  let recorded := (store.taskSyncs taskId).filter
    (fun sync => (store.stockMovements.find? sync.movementId).isSome)
  !recorded.isEmpty && recorded.all (fun sync => sync.status == .accepted)

namespace MaintenanceStore

def rememberStockMaintenanceTaskIdentity
    (before : MaintenanceStore)
    (identity : StockMaintenanceTaskIdentity)
    (now : Time) : MaintenanceStore :=
  { before with
    stockMaintenanceTaskIdentities :=
      before.stockMaintenanceTaskIdentities.insertOrIgnore
        { taskId := identity.taskId
          identity := identity
          createdAt := now } }

/-- Remember the task that the metadata name, if they name one. -/
def rememberExisting
    (before : MaintenanceStore)
    (existing : Option StockMaintenanceTaskIdentity)
    (now : Time) : MaintenanceStore :=
  match existing with
  | some identity =>
    before.rememberStockMaintenanceTaskIdentity identity now
  | none => before

def freshIdentity
    (before : MaintenanceStore)
    (snapshot : StockMaintenancePlanogramRevision)
    (predecessorTaskId : Option TaskId) : StockMaintenanceTaskIdentity where
  planogramVersion := snapshot.planogramVersion
  planogramRevision := snapshot
  mode := snapshot.mode
  slots := snapshot.slots
  taskId := before.nextTaskId
  predecessorTaskId := predecessorTaskId

/-- The refill task to continue: for this planogram and not over. -/
def continuedRefillTask
    (before : MaintenanceStore)
    (snapshot : StockMaintenancePlanogramRevision) :
    Option StockMaintenanceTaskIdentity :=
  before.stockMaintenanceRefillTask.filter (fun existing =>
    existing.isFor snapshot && !before.store.refillIsOver existing.taskId)

/-- The current refill task, issued afresh when there is none to continue. -/
def currentRefillTaskId
    (before : MaintenanceStore)
    (version : PlanogramVersion)
    (now : Time) : MaintenanceStore × TaskId :=
  let snapshot :=
    before.store.stockMaintenanceTaskIdentitySnapshot version .routineRefill
  let noted := before.rememberExisting before.stockMaintenanceRefillTask now
  match before.continuedRefillTask snapshot with
  | some existing => (noted, existing.taskId)
  | none =>
    let identity := before.freshIdentity snapshot none
    ({ noted.rememberStockMaintenanceTaskIdentity identity now with
        stockMaintenanceRefillTask := some identity
        nextTaskId := before.nextTaskId + 1 },
      identity.taskId)

/-- The count task that succeeds a predecessor, issued when there is none. -/
def countTaskAfter
    (before : MaintenanceStore)
    (snapshot : StockMaintenancePlanogramRevision)
    (predecessorTaskId : Option TaskId)
    (now : Time) : MaintenanceStore × TaskId :=
  let noted := before.rememberExisting before.stockMaintenanceCountTask now
  match before.stockMaintenanceCountTask.filter (fun existing =>
      existing.isFor snapshot &&
        existing.predecessorTaskId == predecessorTaskId) with
  | some existing => (noted, existing.taskId)
  | none =>
    let identity := before.freshIdentity snapshot predecessorTaskId
    ({ noted.rememberStockMaintenanceTaskIdentity identity now with
        stockMaintenanceCountTask := some identity
        nextTaskId := before.nextTaskId + 1 },
      identity.taskId)

/--
The current count task: the pending attestation itself until the platform
refuses a correction, and then its successor.
-/
def currentCountTaskId
    (before : MaintenanceStore)
    (version : PlanogramVersion)
    (now : Time) : MaintenanceStore × TaskId :=
  let mode : StockMaintenanceMode :=
    if before.store.stockLedgerRebuiltAfterQuarantine then .recoveryCount
    else .initialCount
  let snapshot :=
    before.store.stockMaintenanceTaskIdentitySnapshot version mode
  match before.store.pendingPhysicalStockAttestation.filter (fun pending =>
      pending.input.planogramVersion == version) with
  | none => before.countTaskAfter snapshot none now
  | some pending =>
    if (pending.movementIds.filterMap before.store.syncStatus).any
        MovementSyncStatus.isTerminalRejection then
      before.countTaskAfter snapshot (some pending.input.attestationId) now
    else (before, pending.input.attestationId)

end MaintenanceStore

/-- The current task, without the quantities it shows for every slot. -/
structure StockMaintenanceTask where
  taskId : TaskId
  mode : StockMaintenanceMode
  deriving Repr, DecidableEq

structure StockMaintenanceBatchResponse where
  task : StockMaintenanceTask
  duplicate : Bool
  deriving Repr, DecidableEq

namespace MaintenanceStore

/-- The task of the active planogram version. -/
def taskOf
    (before : MaintenanceStore)
    (version : PlanogramVersion)
    (now : Time) : MaintenanceStore × StockMaintenanceTask :=
  if before.store.physicalStockAttestation.any (fun stored =>
      stored.planogramVersion == version) then
    let current := before.currentRefillTaskId version now
    (current.1, { taskId := current.2, mode := .routineRefill })
  else
    let current := before.currentCountTaskId version now
    (current.1,
      { taskId := current.2
        mode :=
          if before.store.stockLedgerRebuiltAfterQuarantine then
            .recoveryCount
          else .initialCount })

/-- Read the current task, after finalising what the platform accepted. -/
def stockMaintenanceTask
    (before : MaintenanceStore)
    (now : Time) :
    MaintenanceStore × Except StoreError StockMaintenanceTask :=
  match before.store.activePlanogramVersion with
  | none => (before, .error (.invalidStockInput
      "active acknowledged planogram is required for stock maintenance"))
  | some version =>
    match finalizePendingPhysicalStockAttestationIfAccepted
        before.store now with
    | .error refusal => (before, .error refusal)
    | .ok (finalized, _) =>
      let current := { before with store := finalized }.taskOf version now
      (current.1, .ok current.2)

/-- The identity under which the metadata hold the current refill task. -/
def stockMaintenanceTaskIdentity
    (before : MaintenanceStore)
    (task : StockMaintenanceTask) :
    Except StoreError StockMaintenanceTaskIdentity :=
  match before.stockMaintenanceRefillTask.filter (fun identity =>
      identity.taskId == task.taskId && identity.mode == task.mode) with
  | some identity => .ok identity
  | none => .error (.invalidStockInput
      "stock maintenance task identity is stale; refresh the task")

/-- The task was pruned and its tombstone has not expired. -/
def stockMaintenanceTaskWasPruned
    (before : MaintenanceStore)
    (taskId : TaskId)
    (now : Time) : Bool :=
  (before.stockMaintenanceTaskTombstones.find? taskId).any
    (fun tombstone => decide (now ≤ tombstone.expiresAt))

end MaintenanceStore

/-- The submission repeats the batch that is stored for its task. -/
def historicalStockMaintenanceBatchMatches
    (store : Store)
    (input : StockMaintenanceBatchInput) : Bool :=
  match normalizeRefillBatch input with
  | .error _ => false
  | .ok slots =>
    (store.stockMaintenanceBatches.find? input.taskId).any
      (fun stored => stored.slots == slots)

/-- Every submitted slot is in the planogram, and none twice. -/
def checkTaskSlots
    (planogram : List SlotId) :
    List SlotId → List StockMaintenanceBatchSlotInput →
      Except StoreError Unit
  | _, [] => .ok ()
  | seen, slot :: rest =>
    if slot.slotId ∈ seen ∨ slot.slotId ∉ planogram then
      .error (.invalidStockInput
        s!"stock task slot {slot.slotId} is duplicate or not in the active planogram")
    else checkTaskSlots planogram (slot.slotId :: seen) rest

/-- The slots of the active planogram, which a submission reads. -/
def Store.activeSlotIds (store : Store) : Except StoreError (List SlotId) :=
  match store.activePlanogramVersion with
  | none => .error .rowNotFound
  | some version => .ok ((store.planogramSlots version).map
      (fun row => row.slotId))

namespace MaintenanceStore

def answerForOtherTask
    (opened : MaintenanceStore)
    (input : StockMaintenanceBatchInput)
    (task : StockMaintenanceTask)
    (now : Time) : Except StoreError StockMaintenanceBatchResponse :=
  if historicalStockMaintenanceBatchMatches opened.store input then
    .ok { task := task, duplicate := true }
  else if opened.stockMaintenanceTaskWasPruned input.taskId now then
    .error (.invalidStockInput
      "stock maintenance task expired from retained history; refresh the current task")
  else .error (.invalidStockInput
    "stock maintenance task is stale; refresh the current task")

/-- What a submission reads of its task before the transaction starts. -/
def admitRefill
    (opened : MaintenanceStore)
    (input : StockMaintenanceBatchInput)
    (task : StockMaintenanceTask) :
    Except StoreError StockMaintenanceTaskIdentity := do
  let identity ← opened.stockMaintenanceTaskIdentity task
  let planogram ← opened.store.activeSlotIds
  checkTaskSlots planogram [] input.slots
  pure identity

/-- Run the transaction of a refill on the store that it finds. -/
def submitRefillBatchInTx
    (opened : MaintenanceStore)
    (input : StockMaintenanceBatchInput)
    (operatorId : Nat)
    (identity : StockMaintenanceTaskIdentity)
    (found : Store)
    (now : Time) : MaintenanceStore × Except StoreError Bool :=
  match (submitRefillBatch input operatorId identity now).execute found with
  | (.error refusal, after) =>
    ({ opened with store := after }, .error refusal)
  | (.ok (.error refusal), after) =>
    ({ opened with store := after }, .error refusal)
  | (.ok (.ok duplicate), after) =>
    ({ opened with
        store := after
        applied :=
          if duplicate then opened.applied
          else opened.applied ++ [input] },
      .ok duplicate)

/-- Answer with the current task, read again. -/
def answerWithTask
    (recorded : MaintenanceStore)
    (duplicate : Bool)
    (now : Time) :
    MaintenanceStore × Except StoreError StockMaintenanceBatchResponse :=
  let current := recorded.stockMaintenanceTask now
  (current.1, current.2.map fun task =>
    { task := task, duplicate := duplicate })

def submitForCurrentTask
    (opened : MaintenanceStore)
    (input : StockMaintenanceBatchInput)
    (operatorId : Nat)
    (task : StockMaintenanceTask)
    (found : Store)
    (now : Time) :
    MaintenanceStore × Except StoreError StockMaintenanceBatchResponse :=
  match opened.admitRefill input task with
  | .error refusal => (opened, .error refusal)
  | .ok identity =>
    match opened.submitRefillBatchInTx
        input operatorId identity found now with
    | (recorded, .error refusal) => (recorded, .error refusal)
    | (recorded, .ok duplicate) => recorded.answerWithTask duplicate now

/--
Submit a refill.  The operator is `none` when its name is blank; `found` is
the store that the transaction finds when other operations wrote it after the
task was read.
-/
def submitStockMaintenanceBatch
    (before : MaintenanceStore)
    (input : StockMaintenanceBatchInput)
    (operatorId : Option Nat)
    (found : Option Store)
    (now : Time) :
    MaintenanceStore × Except StoreError StockMaintenanceBatchResponse :=
  match operatorId.filter (fun _ => !input.slots.isEmpty) with
  | none => (before, .error (.invalidStockInput
      "local operator and stock task slots are required"))
  | some operatorId =>
    match before.stockMaintenanceTask now with
    | (opened, .error refusal) => (opened, .error refusal)
    | (opened, .ok task) =>
      if task.taskId ≠ input.taskId ∨ task.mode ≠ input.mode then
        (opened, opened.answerForOtherTask input task now)
      else
        opened.submitForCurrentTask input operatorId task
          (found.getD opened.store) now

def pendingGenerations (before : MaintenanceStore) : List TaskId :=
  match before.store.pendingPhysicalStockAttestation with
  | none => []
  | some pending =>
    pending.input.attestationId ::
      pending.slotGenerations.map
        PendingPhysicalStockAttestationSlotGeneration.generation

/-- The tasks that pruning leaves alone. -/
def protectedTaskIds (before : MaintenanceStore) : List TaskId :=
  (before.stockMaintenanceCountTask.toList ++
      before.stockMaintenanceRefillTask.toList).map
        StockMaintenanceTaskIdentity.taskId ++
    before.pendingGenerations

def hasQueuedUpload (before : MaintenanceStore) (taskId : TaskId) : Bool :=
  before.store.outboxEvents.rows.any (fun event =>
    match event.id with
    | .stockMovement movementId => movementId.isOfTask taskId
    | .ack _ => false
    | .result _ => false)

/-- An old task of which nothing is needed any more. -/
def isPrunable
    (before : MaintenanceStore)
    (cutoff : Time)
    (row : StockMaintenanceTaskIdentityRow) : Bool :=
  decide (row.createdAt < cutoff) &&
    !before.protectedTaskIds.contains row.taskId &&
    !row.identity.predecessorTaskId.any before.pendingGenerations.contains &&
    !(before.store.stockMaintenanceBatches.find? row.taskId).any
      (fun batch => decide (cutoff ≤ batch.createdAt)) &&
    (before.store.taskSyncs row.taskId).all
      (fun sync => sync.status == .accepted) &&
    !before.hasQueuedUpload row.taskId

def taskIdsToPrune
    (before : MaintenanceStore)
    (cutoff : Time) : List TaskId :=
  (before.stockMaintenanceTaskIdentities.rows.filter
    (before.isPrunable cutoff)).map StockMaintenanceTaskIdentityRow.taskId

/-- The retention, between a day and a year, in seconds. -/
def retention (retentionDays : Int) : Time :=
  (max 1 (min retentionDays 366)).toNat * secondsPerDay

/-- Prune accepted movements and the tasks that are over. -/
def pruneAcceptedStockMovementHistory
    (before : MaintenanceStore)
    (retentionDays : Int)
    (now : Time) : MaintenanceStore :=
  let cutoff := now - retention retentionDays
  let taskIds := before.taskIdsToPrune cutoff
  { before with
    store := pruneStockMovementHistory before.store taskIds cutoff
    stockMaintenanceTaskTombstones :=
      taskIds.foldl
        (fun tombstones taskId =>
          let tombstone : StockMaintenanceTaskTombstone :=
            { taskId := taskId
              prunedAt := now
              expiresAt := now + retention retentionDays }
          tombstones.insertOrUpdate tombstone (fun stored =>
            { tombstone with taskId := stored.taskId }))
        (before.stockMaintenanceTaskTombstones.deleteWhere
          (fun tombstone => decide (tombstone.expiresAt < now)))
    stockMaintenanceTaskIdentities :=
      before.stockMaintenanceTaskIdentities.deleteWhere
        (fun row => taskIds.contains row.taskId) }

end MaintenanceStore

/-- One operation on a store with maintenance tasks. -/
inductive MaintenanceEvent where
  | submit
      (input : StockMaintenanceBatchInput)
      (operatorId : Option Nat)
      (found : Option Store)
  | readTask
  | prune (retentionDays : Int)
  | other (after : Store)
  deriving DecidableEq

/-- An operation and the time at which it runs. -/
structure TimedMaintenanceEvent where
  now : Time
  event : MaintenanceEvent
  deriving DecidableEq

/-- The projection satisfies the schema: no physical stock is negative. -/
def Store.StockChecked (store : Store) : Prop :=
  ∀ row ∈ store.currentStockProjection.rows, 0 ≤ row.physicalStock

instance (store : Store) : Decidable store.StockChecked :=
  inferInstanceAs
    (Decidable (∀ row ∈ store.currentStockProjection.rows,
      0 ≤ row.physicalStock))

/-- What other operations leave: they write no batch and keep the schema. -/
def Store.allowsOther (before after : Store) : Bool :=
  decide (after.stockMaintenanceBatches =
    before.stockMaintenanceBatches) && decide after.StockChecked

/-- The store after one operation, if the operation is one of the daemon's. -/
def MaintenanceStore.perform
    (before : MaintenanceStore)
    (now : Time) : MaintenanceEvent → Option MaintenanceStore
  | .submit input operatorId found =>
    if input.mode = .routineRefill ∧
        found.all before.store.allowsOther then
      some (before.submitStockMaintenanceBatch
        input operatorId found now).1
    else none
  | .readTask => some (before.stockMaintenanceTask now).1
  | .prune retentionDays =>
    some (before.pruneAcceptedStockMovementHistory retentionDays now)
  | .other after =>
    if before.store.allowsOther after then
      some { before with store := after }
    else none

/-- Refills in any order among the daemon's other operations. -/
def maintenanceMachine : Machine MaintenanceStore TimedMaintenanceEvent where
  step := fun before timed => before.perform timed.now timed.event

end VendingSystem.Daemon
