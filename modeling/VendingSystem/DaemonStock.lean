import VendingSystem.DaemonStore
import VendingSystem.Transaction

namespace VendingSystem.Daemon

/-!
# Slots, projections and the stock ledger

The store functions that read the active planogram and write a slot's stock
projection, its sale view, its sale-safety blocker and the movement ledger.
A slot that carries a blocker keeps a saleable stock of zero and its state; a
slot held after a dispense failure keeps its hold unless the writer resets it.
-/

/-- The slot belongs to the active planogram version. -/
def Store.isActiveSlot (store : Store) (slot : PlanogramSlot) : Bool :=
  store.activePlanogramVersion == some slot.planogramVersion

/--
A slot of the active planogram at a coordinate.  Coordinates are not unique in
the table, so the preferred slot decides between several.
-/
def Store.activeSlotByCoordinate
    (store : Store)
    (slot : SlotPayload)
    (preferred : PlanogramVersion × SlotId) : Option PlanogramSlot :=
  store.machinePlanogramSlots.anyRow
    (fun candidate =>
      store.isActiveSlot candidate &&
        candidate.rowNo == slot.rowNo && candidate.cellNo == slot.cellNo)
    preferred

/-- The projection of a slot under one planogram version. -/
def Store.projectionOf
    (store : Store)
    (version : PlanogramVersion)
    (slotId : SlotId) : Option StockProjection :=
  (store.currentStockProjection.find? slotId).filter
    (fun row => row.planogramVersion == version)

def Store.hasSaleSafetyBlocker
    (store : Store)
    (version : PlanogramVersion)
    (slotId : SlotId) : Bool :=
  (store.saleSafetyBlockers.find? (version, slotId)).isSome

def upsertSaleSafetyBlockerMarker
    (store : Store)
    (version : PlanogramVersion)
    (slotId : SlotId)
    (state : SlotSalesState)
    (reason source : String) : Store :=
  { store with
    saleSafetyBlockers := store.saleSafetyBlockers.insertOrUpdate
      { planogramVersion := version
        slotId := slotId
        slotSalesState := state
        reason := reason
        source := source }
      (fun stored =>
        { stored with
          slotSalesState := state
          reason := reason
          source := source }) }

def clearSaleSafetyBlockerMarker
    (store : Store)
    (version : PlanogramVersion)
    (slotId : SlotId) : Store :=
  { store with
    saleSafetyBlockers := store.saleSafetyBlockers.deleteWhere
      (fun blocker =>
        blocker.planogramVersion == version && blocker.slotId == slotId) }

def clearStockLedgerLossBlocker
    (store : Store)
    (version : PlanogramVersion)
    (slotId : SlotId) : Store :=
  { store with
    saleSafetyBlockers := store.saleSafetyBlockers.deleteWhere
      (fun blocker =>
        blocker.planogramVersion == version && blocker.slotId == slotId &&
          blocker.reason == "stock_ledger_loss") }

/-- Insert a slot's projection, or rewrite it under its blocker and hold. -/
def upsertStockProjectionWithState
    (store : Store)
    (version : PlanogramVersion)
    (slotId : SlotId)
    (physicalStock saleableStock : Int)
    (state : SlotSalesState)
    (resetLocalSlotHold : Bool)
    (now : Time) : Store :=
  { store with
    currentStockProjection := store.currentStockProjection.insertOrUpdate
      { planogramVersion := version
        slotId := slotId
        physicalStock := max physicalStock 0
        saleableStock := max saleableStock 0
        slotSalesState := state
        updatedAt := now }
      (fun current =>
        { current with
          planogramVersion := version
          physicalStock := max physicalStock 0
          saleableStock :=
            if store.hasSaleSafetyBlocker
                current.planogramVersion current.slotId then 0
            else max saleableStock 0
          slotSalesState :=
            if store.hasSaleSafetyBlocker
                current.planogramVersion current.slotId then
              current.slotSalesState
            else if !resetLocalSlotHold &&
                current.slotSalesState.isDispenseHold then
              current.slotSalesState
            else state
          updatedAt := now }) }

/-- Project a physical count within a slot's capacity. -/
def upsertStockProjection
    (store : Store)
    (version : PlanogramVersion)
    (slotId : SlotId)
    (physicalStock capacity : Int)
    (resetLocalSlotHold : Bool)
    (now : Time) : Store :=
  let physicalStock := max physicalStock 0
  let saleableStock := max (min physicalStock capacity) 0
  upsertStockProjectionWithState store version slotId physicalStock
    saleableStock
    (if saleableStock > 0 then .saleReady else .soldOut)
    resetLocalSlotHold now

/-- A slot's mapping with its projected quantities. -/
def saleViewItem
    (slot : PlanogramSlot)
    (projection : StockProjection)
    (now : Time) : SaleViewItem where
  planogramVersion := slot.planogramVersion
  slotId := slot.slotId
  rowNo := slot.rowNo
  cellNo := slot.cellNo
  inventoryId := slot.inventoryId
  variantId := slot.variantId
  productId := slot.productId
  capacity := slot.capacity
  physicalStock := projection.physicalStock
  saleableStock := projection.saleableStock
  slotSalesState := projection.slotSalesState
  updatedAt := now

/-- Copy a slot's mapping and projection into the sale view. -/
def upsertSaleViewProjection
    (store : Store)
    (version : PlanogramVersion)
    (slotId : SlotId)
    (now : Time) : Except StoreError Store :=
  match store.machinePlanogramSlots.find? (version, slotId),
      store.projectionOf version slotId with
  | some slot, some projection =>
    let item := saleViewItem slot projection now
    .ok { store with
      saleViewProjection := store.saleViewProjection.insertOrUpdate item
        (fun stored => { item with slotId := stored.slotId }) }
  | _, _ => .error .rowNotFound

/-- Set or clear the sale-safety blocker that a sales state calls for. -/
def markSlotSalesState
    (store : Store)
    (version : PlanogramVersion)
    (slotId : SlotId)
    (state : SlotSalesState)
    (source : String) : Store :=
  if state.isReconciliationSaleSafetyBlocker then
    upsertSaleSafetyBlockerMarker store version slotId state
      "field_action" source
  else clearSaleSafetyBlockerMarker store version slotId

/-- Write the sales state into a slot's projection and sale view. -/
def projectSlotSalesState
    (store : Store)
    (version : PlanogramVersion)
    (slotId : SlotId)
    (state : SlotSalesState)
    (now : Time) : Except StoreError Store :=
  match store.projectionOf version slotId with
  | none => .error (.invalidStockInput "slot stock projection is missing")
  | some _ =>
    upsertSaleViewProjection
      { store with
        currentStockProjection := store.currentStockProjection.modify
          slotId
          (fun row =>
            { row with slotSalesState := state, updatedAt := now }) }
      version slotId now

/-- Set the sales state of a slot of the active planogram. -/
def updateSlotSalesState
    (store : Store)
    (version : PlanogramVersion)
    (slotId : SlotId)
    (state : SlotSalesState)
    (source : String)
    (now : Time) : Except StoreError Store :=
  match (store.machinePlanogramSlots.find? (version, slotId)).filter
      store.isActiveSlot with
  | none => .error (.invalidStockInput
      "slot is not in the active planogram version")
  | some _ =>
    projectSlotSalesState
      (markSlotSalesState store version slotId state source)
      version slotId state now

variable {store next : Store} {version : PlanogramVersion} {slotId : SlotId}
  {now : Time} {state : SlotSalesState}

theorem activeSlotByCoordinate_sound
    {coordinate : SlotPayload}
    {preferred : PlanogramVersion × SlotId}
    {slot : PlanogramSlot}
    (found :
      store.activeSlotByCoordinate coordinate preferred = some slot) :
    slot ∈ store.machinePlanogramSlots ∧
      store.activePlanogramVersion = some slot.planogramVersion ∧
      slot.rowNo = coordinate.rowNo ∧ slot.cellNo = coordinate.cellNo := by
  obtain ⟨member, qualifies⟩ := Table.anyRow_sound found
  simp only [Store.isActiveSlot, Bool.and_eq_true, beq_iff_eq] at qualifies
  exact ⟨member, qualifies.1.1, qualifies.1.2, qualifies.2⟩

theorem upsertSaleViewProjection_frame
    (result : upsertSaleViewProjection store version slotId now = .ok next) :
    next = { store with saleViewProjection := next.saleViewProjection } := by
  unfold upsertSaleViewProjection at result
  split at result
  · cases result
    rfl
  · cases result

theorem upsertSaleViewProjection_shows
    (result : upsertSaleViewProjection store version slotId now = .ok next) :
    ∃ item row,
      next.saleViewProjection.find? slotId = some item ∧
      store.currentStockProjection.find? slotId = some row ∧
      item.physicalStock = row.physicalStock ∧
      item.saleableStock = row.saleableStock ∧
      item.slotSalesState = row.slotSalesState := by
  unfold upsertSaleViewProjection at result
  split at result
  · rename_i slot row slotFound projected
    obtain ⟨rowFound, _⟩ := Option.filter_eq_some_iff.mp projected
    have sameSlot : slotId = (saleViewItem slot row now).slotId := by
      have keys := Table.key_of_find? slotFound
      exact (congrArg Prod.snd keys).symm
    cases result
    refine ⟨saleViewItem slot row now, row, ?_, rowFound, rfl, rfl, rfl⟩
    rw [Table.find?_insertOrUpdate, if_pos sameSlot]
    cases existing : store.saleViewProjection.find? slotId with
    | none => rfl
    | some stored =>
      have storedSlot := Table.key_of_find? existing
      simp only [Option.map_some, Option.getD_some, storedSlot, sameSlot]
  · cases result

theorem markSlotSalesState_frame
    (store : Store)
    (version : PlanogramVersion)
    (slotId : SlotId)
    (state : SlotSalesState)
    (source : String) :
    markSlotSalesState store version slotId state source =
      { store with
        saleSafetyBlockers :=
          (markSlotSalesState
            store version slotId state source).saleSafetyBlockers } := by
  unfold markSlotSalesState
  split <;> rfl

theorem projectSlotSalesState_spec
    (result :
      projectSlotSalesState store version slotId state now = .ok next) :
    (next = { store with
      currentStockProjection := next.currentStockProjection
      saleViewProjection := next.saleViewProjection }) ∧
    (∃ row, next.currentStockProjection.find? slotId = some row ∧
      row.slotSalesState = state) ∧
    ∀ other, (next.currentStockProjection.find? other).map
        StockProjection.physicalStock =
      (store.currentStockProjection.find? other).map
        StockProjection.physicalStock := by
  unfold projectSlotSalesState at result
  split at result
  · cases result
  · rename_i projection stored
    have frame := upsertSaleViewProjection_frame result
    have projections := congrArg Store.currentStockProjection frame
    obtain ⟨found, _⟩ := Option.filter_eq_some_iff.mp stored
    refine ⟨?_, ?_, ?_⟩
    · rw [frame]
    · refine ⟨{ projection with slotSalesState := state, updatedAt := now },
        ?_, rfl⟩
      rw [projections, Table.find?_modify, if_pos rfl, found]
      rfl
    · intro other
      rw [projections, Table.find?_modify]
      split
      · cases store.currentStockProjection.find? other <;> rfl
      · rfl

theorem projectSlotSalesState_succeeds
    (state : SlotSalesState)
    (now : Time)
    (mapped :
      (store.machinePlanogramSlots.find? (version, slotId)).isSome = true)
    (projected : (store.projectionOf version slotId).isSome = true) :
    ∃ next, projectSlotSalesState store version slotId state now =
      .ok next := by
  obtain ⟨slot, slotFound⟩ := Option.isSome_iff_exists.mp mapped
  obtain ⟨row, stored⟩ := Option.isSome_iff_exists.mp projected
  obtain ⟨rowFound, sameVersion⟩ := Option.filter_eq_some_iff.mp stored
  unfold projectSlotSalesState
  rw [stored]
  simp only [upsertSaleViewProjection, Store.projectionOf, slotFound,
    Table.find?_modify, ↓reduceIte, rowFound, Option.map_some]
  simp only [Option.filter, sameVersion, ↓reduceIte]
  exact ⟨_, rfl⟩

theorem updateSlotSalesState_spec
    {source : String}
    (result :
      updateSlotSalesState store version slotId state source now = .ok next) :
    (next = { store with
      currentStockProjection := next.currentStockProjection
      saleViewProjection := next.saleViewProjection
      saleSafetyBlockers := next.saleSafetyBlockers }) ∧
    (∃ row, next.currentStockProjection.find? slotId = some row ∧
      row.slotSalesState = state) ∧
    ∀ other, (next.currentStockProjection.find? other).map
        StockProjection.physicalStock =
      (store.currentStockProjection.find? other).map
        StockProjection.physicalStock := by
  unfold updateSlotSalesState at result
  split at result
  · cases result
  · obtain ⟨frame, held, physical⟩ := projectSlotSalesState_spec result
    have marked :=
      markSlotSalesState_frame store version slotId state source
    refine ⟨?_, held, ?_⟩
    · rw [frame, marked]
    · rw [marked] at physical
      exact physical

/-- A refill or a count entered on the machine for one slot. -/
structure StockMovementInput where
  taskId : TaskId
  planogramVersion : PlanogramVersion
  slotId : SlotId
  movementType : MovementType
  quantity : Int
  source : MovementSource
  attributedTo : Option Nat
  deriving Repr, DecidableEq

/-- The identifier under which a local entry is recorded. -/
def StockMovementInput.movementId (input : StockMovementInput) : MovementId :=
  .stockTask input.taskId input.slotId

def stageMovementUpload
    (store : Store)
    (movement : StockMovement)
    (now : Time) : Store :=
  insertOutbox
    { store with
      stockMovementSync := store.stockMovementSync.insertOrIgnore
        { movementId := movement.movementId
          status := .pending
          attemptCount := 0
          lastError := none
          acceptedAt := none
          platformReceipt := none
          updatedAt := now } }
    { id := .stockMovement movement.movementId
      payload := .stockMovementUpload movement
      priority := 250
      createdAt := now
      nextAttemptAt := now
      attemptCount := 0
      expiresAt := now + outboxTtlDays * secondsPerDay }

/-- The stored movement is a replay of the same entry. -/
def StockMovement.replays
    (movement : StockMovement)
    (input : StockMovementInput) : Bool :=
  movement.planogramVersion == input.planogramVersion &&
    movement.slotId == input.slotId &&
    movement.movementType == input.movementType &&
    movement.quantity == input.quantity &&
    movement.source == input.source &&
    movement.attributedTo == input.attributedTo

/-- The movement an entry makes: a count replaces the stock, a refill adds. -/
def enteredMovement
    (store : Store)
    (input : StockMovementInput)
    (now : Time) : StockMovement :=
  let current := store.projectionOf input.planogramVersion input.slotId
  let beforeQuantity := (current.map StockProjection.physicalStock).getD 0
  let replacesLocalFact :=
    input.movementType == .stockCountCorrection ||
      (current.map StockProjection.slotSalesState ==
        some .blockedForPlanogramChange)
  { movementId := input.movementId
    planogramVersion := input.planogramVersion
    slotId := input.slotId
    movementType := input.movementType
    quantity := input.quantity
    beforeQuantity := beforeQuantity
    afterQuantity :=
      if replacesLocalFact then input.quantity
      else beforeQuantity + input.quantity
    source := input.source
    attributedTo := input.attributedTo
    occurredAt := now }

/-- Freeze a slot whose entry exceeds its capacity, keeping its stock. -/
def freezeOverCapacity
    (store : Store)
    (version : PlanogramVersion)
    (slotId : SlotId)
    (now : Time) : Except StoreError Store :=
  let marked := upsertSaleSafetyBlockerMarker store version slotId
    .needsPlatformReview "local_capacity_exceeded" "local_maintenance"
  upsertSaleViewProjection
    { marked with
      currentStockProjection := marked.currentStockProjection.updateWhere
        (fun row =>
          row.planogramVersion == version && row.slotId == slotId)
        (fun row =>
          { row with
            saleableStock := 0
            slotSalesState := .needsPlatformReview
            updatedAt := now }) }
    version slotId now

/-- Add a movement to the ledger and stage its upload. -/
def recordMovement
    (store : Store)
    (movement : StockMovement)
    (upload : Bool)
    (now : Time) : Store :=
  let recorded : Store :=
    { store with
      stockMovements := store.stockMovements.insertOrIgnore movement }
  if upload then stageMovementUpload recorded movement now else recorded

/-- Record a local stock fact and project it into the slot. -/
def applyStockMovement
    (store : Store)
    (movement : StockMovement)
    (capacity : Int)
    (upload : Bool)
    (now : Time) : Except StoreError Store :=
  let recorded := recordMovement store movement upload now
  let resetLocalSlotHold := movement.source == .localMaintenance
  let cleared :=
    if resetLocalSlotHold then
      clearSaleSafetyBlockerMarker recorded
        movement.planogramVersion movement.slotId
    else
      clearStockLedgerLossBlocker recorded
        movement.planogramVersion movement.slotId
  upsertSaleViewProjection
    (upsertStockProjection cleared movement.planogramVersion
      movement.slotId movement.afterQuantity capacity
      resetLocalSlotHold now)
    movement.planogramVersion movement.slotId now

/--
Record a refill or a count of one slot.  The outer error leaves the store as it
was; an entry over the slot's capacity freezes the slot, keeps its stock and
reports the inner error.
-/
def recordStockMovementWithUpload
    (store : Store)
    (input : StockMovementInput)
    (upload : Bool)
    (now : Time) : Except StoreError (Store × Option StoreError) :=
  if input.quantity < 0 then
    .error (.invalidStockInput "movement quantity must be nonnegative")
  else if input.movementType = .dispenseSucceeded then
    .error (.invalidStockInput "unsupported movement type")
  else if input.movementType = .plannedRefill ∧
      input.source ≠ .localMaintenance then
    .error (.invalidStockInput
      "planned refill source must be local_maintenance")
  else
    match store.stockMovements.find? input.movementId with
    | some existing =>
      if existing.replays input then .ok (store, none)
      else .error (.invalidStockInput
        "movement idempotency key was already used with different stock data")
    | none =>
      match (store.machinePlanogramSlots.find?
          (input.planogramVersion, input.slotId)).filter
          store.isActiveSlot with
      | none => .error (.invalidStockInput
          "movement slot is not in the active planogram version")
      | some slot =>
        let movement := enteredMovement store input now
        if movement.afterQuantity > slot.capacity then
          (freezeOverCapacity store
            input.planogramVersion input.slotId now).map
            fun frozen => (frozen, some (.invalidStockInput
              "movement exceeds capacity; slot frozen for reconciliation"))
        else
          (applyStockMovement
            store movement slot.capacity upload now).map
            fun projected => (projected, none)

/-- What a writer that owns no dispense record leaves alone. -/
structure LeavesDispenseRecords (before after : Store) : Prop where
  commandLog : after.commandLog = before.commandLog
  movements : ∀ commandNo,
    after.stockMovements.find? (.dispense commandNo) =
      before.stockMovements.find? (.dispense commandNo)
  movementSync : ∀ commandNo,
    after.stockMovementSync.find? (.dispense commandNo) =
      before.stockMovementSync.find? (.dispense commandNo)

namespace LeavesDispenseRecords

theorem refl (store : Store) : LeavesDispenseRecords store store where
  commandLog := rfl
  movements := fun _ => rfl
  movementSync := fun _ => rfl

theorem upsertSaleViewProjection
    {before after : Store}
    (earlier : LeavesDispenseRecords before store)
    (refreshed :
      Daemon.upsertSaleViewProjection store version slotId now =
        .ok after) :
    LeavesDispenseRecords before after := by
  rw [upsertSaleViewProjection_frame refreshed]
  exact ⟨earlier.commandLog, earlier.movements, earlier.movementSync⟩

variable {taskId : TaskId}

theorem recordMovement
    (store : Store)
    (movement : StockMovement)
    (upload : Bool)
    (now : Time)
    (stockTask : movement.movementId = .stockTask taskId slotId) :
    LeavesDispenseRecords store
      (Daemon.recordMovement store movement upload now) := by
  cases upload
  · refine ⟨rfl, ?_, fun _ => rfl⟩
    intro commandNo
    simp [Daemon.recordMovement, stockTask]
  · refine ⟨rfl, ?_, ?_⟩ <;> intro commandNo
    · simp [Daemon.recordMovement, stageMovementUpload, insertOutbox,
        stockTask]
    · simp [Daemon.recordMovement, stageMovementUpload, insertOutbox,
        stockTask]

theorem applyStockMovement
    {movement : StockMovement}
    {capacity : Int}
    {upload : Bool}
    (stockTask : movement.movementId = .stockTask taskId slotId)
    (applied :
      Daemon.applyStockMovement store movement capacity upload now =
        .ok next) :
    LeavesDispenseRecords store next := by
  have recorded := recordMovement store movement upload now stockTask
  refine upsertSaleViewProjection ?_ applied
  cases movement.source <;>
    exact ⟨recorded.commandLog, recorded.movements, recorded.movementSync⟩

theorem freezeOverCapacity
    (froze :
      Daemon.freezeOverCapacity store version slotId now = .ok next) :
    LeavesDispenseRecords store next := by
  unfold Daemon.freezeOverCapacity at froze
  refine upsertSaleViewProjection ?_ froze
  exact ⟨rfl, fun _ => rfl, fun _ => rfl⟩

end LeavesDispenseRecords

theorem recordStockMovementWithUpload_leaves
    {input : StockMovementInput}
    {upload : Bool}
    {reported : Option StoreError}
    (recorded :
      recordStockMovementWithUpload store input upload now =
        .ok (next, reported)) :
    LeavesDispenseRecords store next := by
  unfold recordStockMovementWithUpload at recorded
  split at recorded
  · cases recorded
  split at recorded
  · cases recorded
  split at recorded
  · cases recorded
  split at recorded
  · split at recorded <;> cases recorded
    exact LeavesDispenseRecords.refl store
  split at recorded
  · cases recorded
  simp only at recorded
  split at recorded
  · obtain ⟨frozen, froze, same⟩ := Transaction.map_eq_ok_iff.mp recorded
    cases same
    exact LeavesDispenseRecords.freezeOverCapacity froze
  · obtain ⟨projected, applied, same⟩ :=
      Transaction.map_eq_ok_iff.mp recorded
    cases same
    exact LeavesDispenseRecords.applyStockMovement rfl applied

def stockMovementRetentionDays : Nat := 30

/-- The movement was accepted by the platform before the cutoff. -/
def StockMovementSync.prunable
    (sync : StockMovementSync)
    (protectedIds : List MovementId)
    (cutoff : Time) : Bool :=
  sync.status == .accepted &&
    decide (sync.acceptedAt.getD sync.updatedAt < cutoff) &&
    !protectedIds.contains sync.movementId

/--
Delete the movements, with their sync rows, that the platform accepted before
the cutoff, except those a pending attestation still needs.
-/
def pruneAcceptedStockMovementHistory
    (store : Store)
    (protectedIds : List MovementId)
    (cutoff : Time) : Store :=
  { store with
    stockMovements := store.stockMovements.deleteWhere
      (fun movement =>
        (store.stockMovementSync.find? movement.movementId).any
          (fun sync => sync.prunable protectedIds cutoff))
    stockMovementSync := store.stockMovementSync.deleteWhere
      (fun sync => sync.prunable protectedIds cutoff) }

/-- No dispense movement is queued for upload. -/
def Store.NoDispenseSync (store : Store) : Prop :=
  ∀ commandNo, store.stockMovementSync.find? (.dispense commandNo) = none

theorem pruneAcceptedStockMovementHistory_leaves
    (noSync : store.NoDispenseSync)
    (protectedIds : List MovementId)
    (cutoff : Time) :
    LeavesDispenseRecords store
      (pruneAcceptedStockMovementHistory store protectedIds cutoff) where
  commandLog := rfl
  movements := by
    intro commandNo
    simp only [pruneAcceptedStockMovementHistory, Table.find?_deleteWhere]
    cases found : store.stockMovements.find? (.dispense commandNo) with
    | none => rfl
    | some movement =>
      have movementId := Table.key_of_find? found
      simp [Option.filter, movementId, noSync commandNo]
  movementSync := by
    intro commandNo
    simp only [pruneAcceptedStockMovementHistory, Table.find?_deleteWhere]
    rw [noSync commandNo]
    rfl

end VendingSystem.Daemon
