import VendingSystem.PlatformDispatch
import VendingSystem.PlatformRefunds

namespace VendingSystem.Platform

/-!
# Stock movements of machines

The repository behind a machine's stock uploads: storing a raw movement,
confirming the order-bound dispense that it reports, applying a trusted field
movement to the platform's stock, and an operator's resolution of a movement
that went to review.
-/

/-- The database with one more stored movement. -/
def Db.addRawMovement
    (db : Db)
    (machineId : MachineId)
    (input : RawMachineStockMovement)
    (status : RawMovementStatus)
    (reconciliation : Option Reconciliation) : Db :=
  { db with
    machineRawStockMovements := db.machineRawStockMovements.insertOrIgnore
      { machineId
        movementId := input.movementId
        payload := input
        status, reconciliation } }

def Db.findByMachineMovement
    (db : Db)
    (machineId : MachineId)
    (movementId : MovementName) : Option StoredRawMachineStockMovement :=
  db.machineRawStockMovements.find? (machineId, movementId)

/-- A movement identifier is stored once per machine. -/
def insertRaw
    (machineId : MachineId)
    (input : RawMachineStockMovement)
    (status : RawMovementStatus)
    (reconciliation : Option Reconciliation) : DrizzleTransaction Unit := do
  let db ← get
  Transaction.require
    (db.findByMachineMovement machineId input.movementId).isNone
    (.uniqueViolation "machine_raw_stock_movements_machine_movement_unique")
  modify fun db => db.addRawMovement machineId input status reconciliation

def insertAccepted
    (machineId : MachineId)
    (input : RawMachineStockMovement) : DrizzleTransaction Unit :=
  insertRaw machineId input .accepted none

def insertReconciliation
    (machineId : MachineId)
    (input : RawMachineStockMovement)
    (reconciliation : Reconciliation) : DrizzleTransaction Unit :=
  insertRaw machineId input .reconciliation (some reconciliation)

def insertConflictReconciliation
    (machineId : MachineId)
    (input : RawMachineStockMovement)
    (reconciliation : Reconciliation) : DrizzleTransaction Unit :=
  modify fun db =>
    { db with
      machineRawStockMovementConflicts :=
        db.machineRawStockMovementConflicts.insertNext fun id =>
          { id, machineId
            movementId := input.movementId
            payload := input
            reconciliation } }

/-- Send a stored movement to review. -/
def markReconciliation
    (machineId : MachineId)
    (movementId : MovementName)
    (reconciliation : Reconciliation) : DrizzleTransaction Unit :=
  modify fun db =>
    { db with
      machineRawStockMovements :=
        db.machineRawStockMovements.modify (machineId, movementId) fun row =>
          { row with
            status := .reconciliation
            reconciliation := some reconciliation } }

structure OrderBoundDispenseConfirmationContext where
  orderId : OrderId
  orderItemId : OrderItemId
  inventoryId : InventoryId
  quantity : Nat
  vendingCommandId : CommandId
  deriving Repr, DecidableEq

/-- An active reservation that covers a quantity of the line. -/
def Db.lineIsReserved
    (db : Db)
    (orderId : OrderId)
    (inventoryId : InventoryId)
    (orderItemId : OrderItemId)
    (quantity : Nat) : Bool :=
  db.inventoryReservations.rows.any fun reservation =>
    reservation.orderId = orderId &&
      reservation.inventoryId = inventoryId &&
      reservation.orderItemId = some orderItemId &&
      reservation.status = .active && quantity ≤ reservation.quantity

/-- The order snapshot of the line names the slot the machine dispensed. -/
def ProductSnapshot.matchesMovement
    (snapshot : ProductSnapshot)
    (line : OrderItem)
    (inventoryId : InventoryId)
    (input : RawMachineStockMovement) : Bool :=
  snapshot.planogramVersion = input.planogramVersion &&
    snapshot.slotId = input.slotId &&
    snapshot.inventoryId = inventoryId &&
    snapshot.variantId = line.variantId && snapshot.productId.isSome &&
    snapshot.vendingCommandQuantity = input.quantity

/-- The order line and the command that a dispense movement confirms. -/
def Db.getOrderBoundDispenseConfirmationContext
    (db : Db)
    (machineId : MachineId)
    (input : RawMachineStockMovement) :
    Option OrderBoundDispenseConfirmationContext := do
  let orderContext ← input.orderContext
  let order ← db.orders.find? orderContext.orderNo
  let line ← db.orderItems.find? orderContext.orderItemId
  let command ← db.vendingCommands.find? orderContext.vendingCommandNo
  if 0 < input.quantity && order.machineId = machineId &&
      line.orderId = order.id &&
      line.inventoryId = orderContext.inventoryId &&
      line.slotId = input.slotId && line.quantity = input.quantity &&
      db.lineIsReserved order.id line.inventoryId line.id input.quantity &&
      command.orderId = order.id && command.orderItemId = some line.id &&
      command.slotId = input.slotId &&
      command.payloadJson.quantity = input.quantity &&
      line.productSnapshot.matchesMovement line orderContext.inventoryId
        input then
    pure
      { orderId := order.id
        orderItemId := line.id
        inventoryId := line.inventoryId
        quantity := line.quantity
        vendingCommandId := command.id }
  else none

/-- The statuses from which a command can still be settled. -/
def unsettledStatuses : List VendingCommandStatus :=
  [.pending, .sent, .acknowledged, .resultUnknown, .timeout]

def Db.confirmLineReservations
    (db : Db)
    (context : OrderBoundDispenseConfirmationContext) : Db :=
  { db with
    inventoryReservations := db.inventoryReservations.updateWhere
      (fun reservation =>
        reservation.orderId = context.orderId &&
          reservation.inventoryId = context.inventoryId &&
          reservation.orderItemId = some context.orderItemId &&
          reservation.status = .active)
      (fun reservation => { reservation with status := .confirmed }) }

/-- The line was dispensed. -/
def Db.fulfillLine (db : Db) (orderItemId : OrderItemId) : Db :=
  { db with
    orderItems := db.orderItems.modify orderItemId fun line =>
      { line with
        fulfillmentStatus := .dispensed
        refundStatus := .notRequired } }

structure PartialRefundDecision where
  orderItemIds : List OrderItemId
  amountCents : Nat
  deriving Repr, DecidableEq

/-- The price of some lines. -/
def linesAmountCents (lines : List OrderItem) : Nat :=
  (lines.map fun line => line.unitPriceCents * line.quantity).sum

/-- A line that no settled dispense has decided yet. -/
def OrderItem.isOpen (line : OrderItem) : Bool :=
  line.fulfillmentStatus = .pending || line.fulfillmentStatus = .dispensing

/-- The failed lines to refund once the last line of the order was settled. -/
def Db.pendingFailedLinePartialRefund
    (db : Db)
    (orderId : OrderId) : Option PartialRefundDecision :=
  let lines := db.linesOfOrder orderId
  let pendingFailedLines := lines.filter fun line =>
    line.fulfillmentStatus = .dispenseFailed && line.refundStatus = .pending
  if lines.any OrderItem.isOpen then none
  else if countLines lines .dispensed > 0 && pendingFailedLines ≠ [] then
    some
      { orderItemIds := pendingFailedLines.map OrderItem.id
        amountCents := linesAmountCents pendingFailedLines }
  else none

/-- Project the order and stage the refund that its failed lines await. -/
def syncOrderAndStagePartialRefund
    (orderId : OrderId)
    (now : Time) : DrizzleTransaction Unit := do
  syncOrderFulfillmentStateFromLines stockFulfillmentState orderId
  let db ← get
  match db.pendingFailedLinePartialRefund orderId with
  | none => pure ()
  | some decision =>
    stageAutomaticPartialRefund orderId decision.orderItemIds
      decision.amountCents now

/--
A confirmed dispense settles its command, takes the stock, closes the
reservation, fulfils the line and stages the refund of failed lines.
-/
def confirmOrderBoundDispenseSucceededInTransaction
    (machineId : MachineId)
    (input : RawMachineStockMovement)
    (context : OrderBoundDispenseConfirmationContext)
    (now : Time) : DrizzleTransaction Unit := do
  lockMachineForVendingMutation machineId
  let db ← get
  Transaction.require (db.orders.find? context.orderId).isSome
    (.orderBoundDispenseConfirmationFailed "Order not found")
  Transaction.require (db.inventories.find? context.inventoryId).isSome
    (.orderBoundDispenseConfirmationFailed "Inventory not found")
  let claimed ← claimCommand context.vendingCommandId unsettledStatuses
    .succeeded (some input.occurredAt) none
  Transaction.require claimed
    (.orderBoundDispenseConfirmationFailed
      "Vending command is not claimable for success")
  let db ← get
  updateOneInventory context.inventoryId
    (fun row =>
      context.quantity ≤ row.onHandQty &&
        context.quantity ≤ row.reservedQty &&
        db.lineIsReserved context.orderId context.inventoryId
          context.orderItemId context.quantity)
    (fun row => row.onHandQty - context.quantity)
    (fun row => row.reservedQty - context.quantity)
    (.orderBoundDispenseConfirmationFailed
      "Reserved inventory could not be confirmed")
  modify fun db => db.confirmLineReservations context
  insertInventoryMovement context.inventoryId (-context.quantity)
    .purchaseConfirmed (some context.orderId)
    (some (.machineStockMovement machineId input.movementId))
  let db ← get
  Transaction.require (db.orderItems.find? context.orderItemId).isSome
    (.orderBoundDispenseConfirmationFailed
      "Order item could not be fulfilled")
  modify fun db => db.fulfillLine context.orderItemId
  syncOrderAndStagePartialRefund context.orderId now

/-- Store the movement as accepted and confirm the dispense, or neither. -/
def insertAcceptedWithOrderBoundDispenseConfirmation
    (machineId : MachineId)
    (input : RawMachineStockMovement)
    (context : OrderBoundDispenseConfirmationContext)
    (now : Time) : DrizzleTransaction Unit := do
  insertRaw machineId input .accepted none
  confirmOrderBoundDispenseSucceededInTransaction machineId input context now

/-- A replayed dispense movement leaves its command succeeded. -/
def repairAcceptedOrderBoundDispenseCommand
    (machineId : MachineId)
    (input : RawMachineStockMovement) : DrizzleTransaction Bool := do
  match input.orderContext with
  | none => pure false
  | some orderContext => do
      let db ← get
      match (db.vendingCommands.find? orderContext.vendingCommandNo).filter
          (fun command => command.machineId = machineId) with
      | none => pure false
      | some command =>
        claimCommand command.id (.succeeded :: unsettledStatuses)
          .succeeded (some input.occurredAt) none

/-- The inventory row is still the one the machine mapped the slot to. -/
def Inventory.isMappedTo
    (row : Inventory)
    (machineId : MachineId)
    (slotId : SlotId)
    (variantId : VariantId) : Bool :=
  row.machineId = machineId && row.slotId = slotId &&
    row.variantId = variantId

/--
Write a trusted field movement into the stock.  A count replaces whatever is
there; a refill demands the quantity that the machine started from.
-/
def applyTrustedFieldStockMovement
    (machineId : MachineId)
    (input : RawMachineStockMovement) : DrizzleTransaction Bool := do
  match input.slotMappingSnapshot.bind SlotMappingSnapshot.inventoryId,
      input.slotMappingSnapshot.bind SlotMappingSnapshot.variantId,
      input.beforeQuantity, input.afterQuantity with
  | some inventoryId, some variantId, some beforeQuantity,
      some afterQuantity => do
      let updated ← updateInventory inventoryId
        (fun row =>
          row.isMappedTo machineId input.slotId variantId &&
            (input.movementType = .stockCountCorrection ||
              row.onHandQty = beforeQuantity))
        (fun _ => afterQuantity)
        (fun row => row.reservedQty)
      match updated with
      | none => pure false
      | some row => do
          insertInventoryMovement inventoryId
            ((afterQuantity : Int) - row.onHandQty) .hardwareSync none
            (some (.machineStockMovement machineId input.movementId))
          pure true
  | _, _, _, _ => pure false

/-- Accepted maintenance re-enables the slot and closes its open reviews. -/
def restoreSlotAfterAcceptedLocalMaintenance
    (machineId : MachineId)
    (slotId : SlotId) : DrizzleTransaction Unit :=
  modify fun db =>
    let resolve (reconciliation : Reconciliation) : Reconciliation :=
      if reconciliation.saleSafetyBlockerSlotId = some slotId ∧
          reconciliation.saleSafetyBlockerState.isSome then
        { reconciliation with platformReviewStatus := .resolved }
      else reconciliation
    { db with
      machineSlots := db.machineSlots.updateWhere
        (fun slot =>
          slot.machineId = machineId && slot.id = slotId &&
            slot.status = .faulted && slot.deletedAt.isNone)
        (fun slot => { slot with status := .enabled })
      machineRawStockMovements := db.machineRawStockMovements.updateWhere
        (fun row => row.machineId = machineId)
        (fun row =>
          { row with reconciliation := row.reconciliation.map resolve })
      machineRawStockMovementConflicts :=
        db.machineRawStockMovementConflicts.updateWhere
          (fun row => row.machineId = machineId)
          (fun row =>
            { row with reconciliation := resolve row.reconciliation }) }

/-- A movement under review: a stored one, or a conflicting replay of one. -/
inductive StockReconciliationCaseId where
  | rawMovement (machineId : MachineId) (movementId : MovementName)
  | conflict (id : Nat)
  deriving Repr, DecidableEq

structure StockReconciliationCase where
  machineId : MachineId
  slotId : SlotId
  reconciliation : Reconciliation
  deriving Repr, DecidableEq

/-- The open case under an identifier. -/
def Db.openCase (db : Db) :
    StockReconciliationCaseId → Option StockReconciliationCase
  | .rawMovement machineId movementId => do
      let row ← db.findByMachineMovement machineId movementId
      let reconciliation ← row.reconciliation
      if row.status = .reconciliation &&
          reconciliation.platformReviewStatus = .open then
        pure { machineId, slotId := row.payload.slotId, reconciliation }
      else none
  | .conflict id => do
      let row ← db.machineRawStockMovementConflicts.find? id
      if row.reconciliation.platformReviewStatus = .open then
        pure
          { machineId := row.machineId
            slotId := row.payload.slotId
            reconciliation := row.reconciliation }
      else none

/-- The inventory at the slot that the case is about. -/
def Db.caseInventory (db : Db) (case : StockReconciliationCase) :
    Option Inventory :=
  db.inventories.rows.find? fun row =>
    row.machineId = case.machineId &&
      row.slotId =
        case.reconciliation.saleSafetyBlockerSlotId.getD case.slotId

inductive StockReconciliationResolveAction where
  | rejectMachineStock
  | manualCorrect (correctedOnHandQty : Nat)
  deriving Repr, DecidableEq

/-- Close a case under its identifier. -/
def Db.closeCase
    (db : Db)
    (action : StockReconciliationResolveAction) :
    StockReconciliationCaseId → Db
  | .rawMovement machineId movementId =>
    { db with
      machineRawStockMovements :=
        db.machineRawStockMovements.modify (machineId, movementId) fun row =>
          { row with
            status :=
              if action = .rejectMachineStock then .rejected else .accepted
            reconciliation := row.reconciliation.map fun reconciliation =>
              { reconciliation with platformReviewStatus := .resolved } } }
  | .conflict id =>
    { db with
      machineRawStockMovementConflicts :=
        db.machineRawStockMovementConflicts.modify id fun row =>
          { row with
            reconciliation :=
              { row.reconciliation with
                platformReviewStatus := .resolved } } }

/-- Another open review blocks the slot of the case. -/
def Db.slotIsBlocked
    (db : Db)
    (machineId : MachineId)
    (slotId : SlotId) : Bool :=
  let blocks (reconciliation : Reconciliation) : Bool :=
    reconciliation.saleSafetyBlockerSlotId = some slotId &&
      reconciliation.platformReviewStatus = .open &&
      reconciliation.saleSafetyBlockerState.isSome
  (db.machineRawStockMovements.rows.any fun row =>
      row.machineId = machineId && row.status = .reconciliation &&
        row.reconciliation.any blocks) ||
    db.machineRawStockMovementConflicts.rows.any fun row =>
      row.machineId = machineId && blocks row.reconciliation

/-- Re-enable the slot of a resolved case when nothing else blocks it. -/
def clearResolvedCaseBlocker
    (case : StockReconciliationCase)
    (clearBlocker : Bool) : DrizzleTransaction Unit :=
  match clearBlocker, case.reconciliation.saleSafetyBlockerSlotId,
      case.reconciliation.saleSafetyBlockerState with
  | true, some slotId, some _ =>
    modify fun db =>
      { db with
        machineSlots := db.machineSlots.updateWhere
          (fun slot =>
            slot.id = slotId && slot.machineId = case.machineId &&
              slot.status = .faulted && slot.deletedAt.isNone &&
              !db.slotIsBlocked case.machineId slotId)
          (fun slot => { slot with status := .enabled }) }
  | _, _, _ => pure ()

structure StockReconciliationResolveInput where
  action : StockReconciliationResolveAction
  note : String
  clearBlocker : Bool
  deriving Repr, DecidableEq

/-- Close the case, and set the stock on hand where the operator names it. -/
def applyResolution
    (id : StockReconciliationCaseId)
    (current : StockReconciliationCase)
    (input : StockReconciliationResolveInput) : DrizzleTransaction Unit := do
  let db ← get
  match input.action with
  | .rejectMachineStock => modify fun db => db.closeCase input.action id
  | .manualCorrect correctedOnHandQty => do
      let inventory ← Transaction.requireSome (db.caseInventory current)
        (.conflict
          "Stock reconciliation case cannot determine target inventory quantity")
      Transaction.require (inventory.reservedQty ≤ correctedOnHandQty)
        (.conflict
          "Resolution would make inventory on-hand quantity below reserved quantity")
      modify fun db => db.closeCase input.action id
      updateOneInventory inventory.id
        (fun row => row.onHandQty = inventory.onHandQty)
        (fun _ => correctedOnHandQty)
        (fun row => row.reservedQty)
        (.conflict
          "Inventory changed while resolving stock reconciliation case")
      insertInventoryMovement inventory.id
        ((correctedOnHandQty : Int) - inventory.onHandQty) .adjust none
        (some (.operator input.note))

/-- An operator closes a case, and can re-enable its slot. -/
def resolveCase
    (id : StockReconciliationCaseId)
    (input : StockReconciliationResolveInput) : DrizzleTransaction Bool := do
  let db ← get
  match db.openCase id with
  | none => pure false
  | some current => do
      applyResolution id current input
      clearResolvedCaseBlocker current input.clearBlocker
      pure true

section Commits

open Transaction

variable {before after : Db}

/-- The stock side of a confirmed dispense. -/
def Db.settleDispense
    (db : Db)
    (machineId : MachineId)
    (input : RawMachineStockMovement)
    (context : OrderBoundDispenseConfirmationContext)
    (row : Inventory)
    (valid :
      row.reservedQty - context.quantity ≤ row.onHandQty - context.quantity) :
    Db :=
  ((((db.setCommandStatus context.vendingCommandId .succeeded
        (some input.occurredAt) none).setInventory context.inventoryId
      (row.onHandQty - context.quantity)
      (row.reservedQty - context.quantity) valid).confirmLineReservations
    context).addMovement context.inventoryId (-context.quantity)
      .purchaseConfirmed (some context.orderId)
      (some (.machineStockMovement machineId input.movementId))).fulfillLine
    context.orderItemId

theorem OrderSideOnly.syncOrderAndStagePartialRefund
    (orderId : OrderId)
    (now : Time) :
    Within OrderSideOnly (syncOrderAndStagePartialRefund orderId now) := by
  apply Within.bind (sync _ _)
  intro _
  apply Within.bind Within.get
  intro db
  split
  · exact Within.pure _
  · exact stageAutomaticPartialRefund _ _ _ _

theorem commits_claimCommand
    {commandId : CommandId}
    {eligibleStatuses : List VendingCommandStatus}
    {status : VendingCommandStatus}
    {resultAt : Option Time}
    {lastError : Option String}
    {claimed : Bool} :
    Commits
        (claimCommand commandId eligibleStatuses status resultAt lastError)
        before claimed after ↔
      (claimed = false ∧ after = before ∧
        ∀ command, before.vendingCommands.find? commandId = some command →
          command.status ∉ eligibleStatuses) ∨
      (claimed = true ∧
        after = before.setCommandStatus commandId status resultAt lastError ∧
        ∃ command, before.vendingCommands.find? commandId = some command ∧
          command.status ∈ eligibleStatuses) := by
  unfold claimCommand
  rw [commits_get_bind]
  cases found : before.vendingCommands.find? commandId with
  | none => simp
  | some command =>
    by_cases eligible : command.status ∈ eligibleStatuses
    · simp [Option.filter, eligible, and_comm]
    · simp [Option.filter, eligible]

/-- A confirmation settled an unsettled command against reserved stock. -/
theorem commits_confirmOrderBoundDispenseSucceeded
    {machineId : MachineId}
    {input : RawMachineStockMovement}
    {context : OrderBoundDispenseConfirmationContext}
    {now : Time}
    {answer : Unit}
    (confirmed :
      Commits
        (confirmOrderBoundDispenseSucceededInTransaction machineId input
          context now)
        before answer after) :
    ∃ command row valid,
      before.vendingCommands.find? context.vendingCommandId = some command ∧
      command.status ∈ unsettledStatuses ∧
      before.inventories.find? context.inventoryId = some row ∧
      context.quantity ≤ row.onHandQty ∧
      context.quantity ≤ row.reservedQty ∧
      before.lineIsReserved context.orderId context.inventoryId
        context.orderItemId context.quantity = true ∧
      (before.orderItems.find? context.orderItemId).isSome = true ∧
      Commits (syncOrderAndStagePartialRefund context.orderId now)
        (before.settleDispense machineId input context row valid)
        answer after := by
  simp only [confirmOrderBoundDispenseSucceededInTransaction,
    commits_bind, commits_lockMachine, commits_get, commits_require,
    commits_claimCommand, commits_updateOneInventory, commits_modify,
    insertInventoryMovement] at confirmed
  obtain ⟨_, _, ⟨_, rfl⟩, _, _, ⟨rfl, rfl⟩, _, _, ⟨_, rfl⟩, _, _, ⟨_, rfl⟩,
    claimed, _, claim, _, _, ⟨isClaimed, rfl⟩, _, _, ⟨rfl, rfl⟩, _, _,
    ⟨row, found, guard, valid, rfl⟩, _, _, rfl, _, _, rfl, _, _,
    ⟨rfl, rfl⟩, _, _, ⟨hasLine, rfl⟩, _, _, rfl, finished⟩ := confirmed
  rcases claim with ⟨rfl, _⟩ | ⟨_, rfl, command, stored, eligible⟩
  · cases isClaimed
  · simp only [Bool.and_eq_true, decide_eq_true_eq] at guard
    obtain ⟨⟨onHand, reserved⟩, lineReserved⟩ := guard
    exact ⟨command, row, valid, stored, eligible, found, onHand, reserved,
      lineReserved, hasLine, finished⟩

end Commits

end VendingSystem.Platform
