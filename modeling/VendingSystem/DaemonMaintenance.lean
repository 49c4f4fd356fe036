import VendingSystem.DaemonPlanogram

namespace VendingSystem.Daemon

/-!
# Stock maintenance tasks and refill batches

A submission for a revision that is no longer current freezes the slots that
changed and reports the task as stale.  A current refill batch is recorded
once, with one movement and one upload for every refilled slot.
-/

inductive StockMaintenanceMode where
  | initialCount
  | recoveryCount
  | routineRefill
  deriving Repr, DecidableEq

structure StockMaintenanceTaskIdentitySlot where
  slotId : SlotId
  sku : String
  capacity : Int
  inventoryId : Nat
  variantId : Nat
  deriving Repr, DecidableEq

/-- The revision of a planogram, with the hashed payload for its hash. -/
structure StockMaintenancePlanogramRevision where
  planogramVersion : PlanogramVersion
  mode : StockMaintenanceMode
  slots : List StockMaintenanceTaskIdentitySlot
  deriving Repr, DecidableEq

structure StockMaintenanceTaskIdentity where
  planogramVersion : PlanogramVersion
  planogramRevision : StockMaintenancePlanogramRevision
  mode : StockMaintenanceMode
  slots : List StockMaintenanceTaskIdentitySlot
  taskId : TaskId
  predecessorTaskId : Option TaskId
  deriving Repr, DecidableEq

/-- How a slot, or the whole planogram, differs from what a task saw. -/
inductive StockMaintenanceSlotChange where
  | mappingAmbiguity
  | slotAdded
  | slotRemoved
  | mappingChanged
  | skuChanged
  | capacityChanged
  | planogramVersionChanged
  | revisionMismatch
  deriving Repr, DecidableEq

def StockMaintenanceSlotChange.text : StockMaintenanceSlotChange → String
  | .mappingAmbiguity => "mapping_ambiguity"
  | .slotAdded => "slot_added"
  | .slotRemoved => "slot_removed"
  | .mappingChanged => "mapping_changed"
  | .skuChanged => "sku_changed"
  | .capacityChanged => "capacity_changed"
  | .planogramVersionChanged => "planogram_version_changed"
  | .revisionMismatch => "revision_mismatch"

/-- One difference; the slot is `none` when it concerns the planogram. -/
structure StockMaintenanceSlotDifference where
  slotId : Option SlotId
  changes : List StockMaintenanceSlotChange
  oldSlots : List StockMaintenanceTaskIdentitySlot
  currentSlots : List StockMaintenanceTaskIdentitySlot
  currentPlanogramVersion : Option PlanogramVersion
  deriving Repr, DecidableEq

/-- The slots of a version in display order. -/
def Store.planogramSlots
    (store : Store)
    (version : PlanogramVersion) : List PlanogramSlot :=
  (store.machinePlanogramSlots.rows.filter
    (fun slot => slot.planogramVersion == version)).insertionSort
      (fun first second =>
        first.rowNo < second.rowNo ∨
          (first.rowNo = second.rowNo ∧
            (first.cellNo < second.cellNo ∨
              (first.cellNo = second.cellNo ∧
                first.slotId ≤ second.slotId))))

def PlanogramSlot.identitySlot (slot : PlanogramSlot) :
    StockMaintenanceTaskIdentitySlot where
  slotId := slot.slotId
  sku := slot.sku
  capacity := slot.capacity
  inventoryId := slot.inventoryId
  variantId := slot.variantId

/-- The slots that a task issued now would remember. -/
def Store.currentIdentitySlots (store : Store) :
    List StockMaintenanceTaskIdentitySlot :=
  match store.activePlanogramVersion with
  | some version =>
    (store.planogramSlots version).map PlanogramSlot.identitySlot
  | none => []

/-- The changes between what a task saw of one slot and what is there now. -/
def slotChanges
    (oldSlots currentSlots : List StockMaintenanceTaskIdentitySlot) :
    List StockMaintenanceSlotChange :=
  if oldSlots.length > 1 ∨ currentSlots.length > 1 then [.mappingAmbiguity]
  else
    match oldSlots.head?, currentSlots.head? with
    | none, some _ => [.slotAdded]
    | some _, none => [.slotRemoved]
    | some old, some current =>
      (if old.slotId ≠ current.slotId then [.slotRemoved, .slotAdded]
        else []) ++
      (if old.inventoryId ≠ current.inventoryId ∨
          old.variantId ≠ current.variantId then [.mappingChanged]
        else []) ++
      (if old.sku ≠ current.sku then [.skuChanged] else []) ++
      (if old.capacity ≠ current.capacity then [.capacityChanged]
        else [])
    | none, none => []

def Store.slotDifference
    (store : Store)
    (identity : StockMaintenanceTaskIdentity)
    (slotId : SlotId) : Option StockMaintenanceSlotDifference :=
  let oldSlots := identity.slots.filter (fun slot => slot.slotId == slotId)
  let currentSlots := store.currentIdentitySlots.filter
    (fun slot => slot.slotId == slotId)
  let changes := slotChanges oldSlots currentSlots
  if changes.isEmpty then none
  else some
    { slotId := some slotId
      changes := changes
      oldSlots := oldSlots
      currentSlots := currentSlots
      currentPlanogramVersion := store.activePlanogramVersion }

/-- The differences between the planogram a task was issued for and today's. -/
def Store.stockMaintenanceIdentityDifferences
    (store : Store)
    (identity : StockMaintenanceTaskIdentity) :
    List StockMaintenanceSlotDifference :=
  let slotIds := ((identity.slots ++ store.currentIdentitySlots).map
    StockMaintenanceTaskIdentitySlot.slotId).dedup.insertionSort (· ≤ ·)
  let differences := slotIds.filterMap (store.slotDifference identity)
  let currentRevision := store.activePlanogramVersion.map fun version =>
    StockMaintenancePlanogramRevision.mk version identity.mode
      store.currentIdentitySlots
  if differences.isEmpty ∧
      (store.activePlanogramVersion ≠ some identity.planogramVersion ∨
        currentRevision ≠ some identity.planogramRevision) then
    [{ slotId := none
       changes :=
         [if store.activePlanogramVersion ≠
              some identity.planogramVersion then .planogramVersionChanged
          else .revisionMismatch]
       oldSlots := []
       currentSlots := []
       currentPlanogramVersion := store.activePlanogramVersion }]
  else differences

/-- Put a slot up for platform review, with nothing of it for sale. -/
def blockSlotForReview
    (store : Store)
    (version : PlanogramVersion)
    (slotId : SlotId)
    (reason source : String)
    (now : Time) : Except StoreError Store :=
  let marked := upsertSaleSafetyBlockerMarker store version slotId
    .needsPlatformReview reason source
  upsertSaleViewProjection
    { marked with
      currentStockProjection := marked.currentStockProjection.updateWhere
        (fun row =>
          row.planogramVersion == version && row.slotId == slotId)
        (fun row =>
          { row with
            saleableStock := 0
            slotSalesState := .needsPlatformReview
            updatedAt := now })
        (fun row => Eq.refl row.slotId) }
    version slotId now

/-- Freeze the slots of one difference; a slot is in one difference only. -/
def freezeStockIdentityDifference
    (now : Time)
    (difference : StockMaintenanceSlotDifference) :
    Transaction Store StoreError Unit :=
  match difference.currentPlanogramVersion with
  | none => pure ()
  | some version =>
    forM difference.currentSlots fun slot =>
      Transaction.statement fun store =>
        blockSlotForReview store version slot.slotId
          (",".intercalate
            (difference.changes.map StockMaintenanceSlotChange.text))
          "stock_maintenance_task" now

/-- Freeze every slot that changed since the task was issued. -/
def freezeStockIdentityDifferences
    (differences : List StockMaintenanceSlotDifference)
    (now : Time) : Transaction Store StoreError Unit :=
  forM differences (freezeStockIdentityDifference now)

/-- What a submission for a stale task is told, after the freeze committed. -/
def staleStockMaintenanceTask : StoreError :=
  .invalidStockInput
    "stock maintenance task is stale; affected slots require reconciliation"

structure StockMaintenanceBatchSlotInput where
  slotId : SlotId
  quantity : Option Int
  addition : Option Int
  deriving Repr, DecidableEq

structure StockMaintenanceBatchInput where
  taskId : TaskId
  mode : StockMaintenanceMode
  slots : List StockMaintenanceBatchSlotInput
  deriving Repr, DecidableEq

/-- A refilled slot must submit a positive addition and nothing else. -/
def StockMaintenanceBatchSlotInput.normalized
    (slot : StockMaintenanceBatchSlotInput) :
    Except StoreError NormalizedStockMaintenanceRefillSlot :=
  match slot.quantity, slot.addition with
  | none, some addition =>
    if 0 < addition then
      .ok { slotId := slot.slotId, addition := addition }
    else .error (.invalidStockInput
      "refill task must submit positive additions")
  | _, _ => .error (.invalidStockInput
      "refill task must submit positive additions")

/-- The refilled slots in slot order, each once. -/
def normalizeRefillBatch (input : StockMaintenanceBatchInput) :
    Except StoreError (List NormalizedStockMaintenanceRefillSlot) :=
  if input.mode ≠ .routineRefill ∨ input.slots.isEmpty then
    .error (.invalidStockInput
      "refill task must submit positive additions")
  else do
    let slots ← input.slots.mapM StockMaintenanceBatchSlotInput.normalized
    let slots := slots.insertionSort
      (fun first second => first.slotId ≤ second.slotId)
    if (slots.map NormalizedStockMaintenanceRefillSlot.slotId).Nodup then
      .ok slots
    else .error (.invalidStockInput
      "refill task contains duplicate slots")

/-- The movement that refills one slot, from the stock read at its start. -/
def refillMovement
    (store : Store)
    (identity : StockMaintenanceTaskIdentity)
    (taskId : TaskId)
    (operatorId : Nat)
    (now : Time)
    (refill : NormalizedStockMaintenanceRefillSlot) :
    Except StoreError (StockMovement × Int) :=
  match store.machinePlanogramSlots.find?
      (identity.planogramVersion, refill.slotId) with
  | none => .error (.invalidStockInput
      s!"stock task slot {refill.slotId} is not in the active planogram")
  | some slot =>
    let beforeQuantity :=
      ((store.projectionOf identity.planogramVersion refill.slotId).map
        StockProjection.physicalStock).getD 0
    let afterQuantity := beforeQuantity + refill.addition
    if afterQuantity > slot.capacity then
      .error (.invalidStockInput
        s!"refill slot {refill.slotId} exceeds capacity")
    else
      .ok
        ({ movementId := .stockTask taskId refill.slotId
           planogramVersion := identity.planogramVersion
           slotId := refill.slotId
           movementType := .plannedRefill
           quantity := refill.addition
           beforeQuantity := beforeQuantity
           afterQuantity := afterQuantity
           source := .localMaintenance
           attributedTo := some operatorId
           occurredAt := now }, slot.capacity)

/-- A movement identifier that is neither in the ledger nor queued. -/
def Store.movementIsFresh (store : Store) (movementId : MovementId) : Bool :=
  (store.stockMovements.find? movementId).isNone &&
    (store.stockMovementSync.find? movementId).isNone

/-- Record, upload and project one refilled slot. -/
def writeRefill
    (now : Time)
    (refill : StockMovement × Int) : Transaction Store StoreError Unit := do
  let store ← get
  Transaction.require (store.movementIsFresh refill.1.movementId)
    .constraintViolation
  Transaction.statement fun store =>
    applyStockMovement store refill.1 refill.2 true now

/-- Record a batch that was not submitted before. -/
def recordRefillBatch
    (input : StockMaintenanceBatchInput)
    (slots : List NormalizedStockMaintenanceRefillSlot)
    (operatorId : Nat)
    (identity : StockMaintenanceTaskIdentity)
    (now : Time) : Transaction Store StoreError Unit := do
  let before ← get
  let refills ← Transaction.ofExcept (slots.mapM
    (refillMovement before identity input.taskId operatorId now))
  modify fun store =>
    { store with
      stockMaintenanceBatches := store.stockMaintenanceBatches.insertOrIgnore
        { taskId := input.taskId
          planogramVersion := identity.planogramVersion
          operatorId := operatorId
          slots := slots
          createdAt := now } }
  forM refills (writeRefill now)

/-- Whether a stored batch is the same submission again. -/
def replayRefillBatch
    (stored : StockMaintenanceBatch)
    (slots : List NormalizedStockMaintenanceRefillSlot) :
    Except StoreError Bool :=
  if stored.slots = slots then .ok true
  else .error (.invalidStockInput
    "stock maintenance refill batch is immutable; refresh and use a new task or reconcile the original batch")

/-- Submit a batch for a task whose planogram is still current. -/
def submitCurrentRefillBatch
    (input : StockMaintenanceBatchInput)
    (slots : List NormalizedStockMaintenanceRefillSlot)
    (operatorId : Nat)
    (identity : StockMaintenanceTaskIdentity)
    (now : Time) :
    Transaction Store StoreError (Except StoreError Bool) := do
  let before ← get
  match before.stockMaintenanceBatches.find? input.taskId with
  | some stored => .ok <$> Transaction.ofExcept (replayRefillBatch stored slots)
  | none => do
      recordRefillBatch input slots operatorId identity now
      pure (.ok false)

/-- Freeze what changed and report the task as stale. -/
def refuseStaleTask
    (Answer : Type)
    (differences : List StockMaintenanceSlotDifference)
    (now : Time) :
    Transaction Store StoreError (Except StoreError Answer) := do
  freezeStockIdentityDifferences differences now
  pure (.error staleStockMaintenanceTask)

/--
Submit a refill batch in one transaction.  The answer says whether it was
submitted before; the inner error is reported after a committed freeze.
-/
def submitRefillBatch
    (input : StockMaintenanceBatchInput)
    (operatorId : Nat)
    (identity : StockMaintenanceTaskIdentity)
    (now : Time) :
    Transaction Store StoreError (Except StoreError Bool) := do
  let slots ← Transaction.ofExcept (normalizeRefillBatch input)
  let before ← get
  if (before.stockMaintenanceIdentityDifferences identity).isEmpty then
    submitCurrentRefillBatch input slots operatorId identity now
  else
    refuseStaleTask Bool
      (before.stockMaintenanceIdentityDifferences identity) now

end VendingSystem.Daemon
