import VendingSystem.PlatformOrders

namespace VendingSystem.Platform

/-!
# Vending commands

A paid order gets its dispatch commands in the transaction that records the
payment; an operator can add a compensation command for a line.  A command is
a row first and is published afterwards, so a process death between the two
only delays it.
-/

/-- A band of rows with the same number of cells. -/
structure SlotBand where
  maxRowNo : Nat
  maxCellNo : Nat
  deriving Repr, DecidableEq

def machineSlotHardwareBands : List SlotBand :=
  [{ maxRowNo := 6, maxCellNo := 5 },
    { maxRowNo := 8, maxCellNo := 4 },
    { maxRowNo := 9, maxCellNo := 3 }]

def getMachineSlotMaxCellNo (rowNo : Nat) : Option Nat :=
  if rowNo < 1 then none
  else
    (machineSlotHardwareBands.find? fun band => rowNo ≤ band.maxRowNo).map
      SlotBand.maxCellNo

/-- The coordinate exists in the hardware layout. -/
def isValidMachineSlotCoordinate (slot : SlotPayload) : Bool :=
  match getMachineSlotMaxCellNo slot.rowNo with
  | none => false
  | some maxCellNo => 1 ≤ slot.cellNo && slot.cellNo ≤ maxCellNo

/-- The fields of a command payload that its schema refuses. -/
def dispenseCommandPayloadIssue (payload : DispenseCommandPayload) :
    Option String :=
  if !isValidMachineSlotCoordinate payload.slot then some "slot"
  else if payload.quantity = 0 then some "quantity"
  else if payload.timeoutSeconds = 0 then some "timeoutSeconds"
  else if payload.recovery.any (fun recovery =>
      recovery.note.length = 0 || 500 < recovery.note.length) then
    some "recovery.note"
  else none

def parseDispenseCommandPayload (payload : DispenseCommandPayload) :
    DrizzleTransaction Unit :=
  match dispenseCommandPayloadIssue payload with
  | none => pure ()
  | some path => throw (.invalidPayload path)

variable {after before : Db} {answer : Unit}

@[simp] theorem commits_parseDispenseCommandPayload
    {payload : DispenseCommandPayload} :
    (parseDispenseCommandPayload payload).Commits before answer after ↔
      dispenseCommandPayloadIssue payload = none ∧ after = before := by
  unfold parseDispenseCommandPayload
  cases dispenseCommandPayloadIssue payload <;> simp

def Db.dispatchCommands (db : Db) (orderId : OrderId) :
    List VendingCommand :=
  db.vendingCommands.rows.filter fun command =>
    command.orderId = orderId && command.commandKind = .dispatch

def Db.dispatchCommandForSlot?
    (db : Db)
    (orderId : OrderId)
    (slotId : SlotId) : Option VendingCommand :=
  (db.dispatchCommands orderId).find? fun command => command.slotId = slotId

/-- An order line joined with its slot. -/
structure DispatchItem where
  orderItemId : OrderItemId
  inventoryId : InventoryId
  slotId : SlotId
  quantity : Nat
  rowNo : Nat
  cellNo : Nat
  deriving Repr, DecidableEq

/-- The lines of an order, each with the coordinate of its slot. -/
def Db.dispatchItems (db : Db) (orderId : OrderId) : List DispatchItem :=
  (db.linesOfOrder orderId).filterMap fun line =>
    (db.machineSlots.find? line.slotId).map fun slot =>
      { orderItemId := line.id
        inventoryId := line.inventoryId
        slotId := line.slotId
        quantity := line.quantity
        rowNo := slot.rowNo
        cellNo := slot.cellNo }

def dispatchCommand
    (order : Order)
    (item : DispatchItem)
    (id : CommandId) : VendingCommand where
  id := id
  orderId := order.id
  machineId := order.machineId
  slotId := item.slotId
  orderItemId := some item.orderItemId
  commandKind := .dispatch
  recoveryActionId := none
  payloadJson :=
    { commandNo := id
      orderNo := order.id
      slot := { rowNo := item.rowNo, cellNo := item.cellNo }
      quantity := item.quantity
      timeoutSeconds := 120
      recovery := none }
  status := .pending
  sentAt := none
  ackAt := none
  resultAt := none
  lastError := none

/-- The database with one more command. -/
def Db.addCommand (db : Db) (make : CommandId → VendingCommand) : Db :=
  { db with vendingCommands := db.vendingCommands.insertNext make }

/-- Insert the command of a line unless its slot already has one. -/
def insertDispatchCommand
    (order : Order)
    (item : DispatchItem) : DrizzleTransaction Unit := do
  let db ← get
  parseDispenseCommandPayload
    (dispatchCommand order item db.vendingCommands.nextId).payloadJson
  if (db.dispatchCommandForSlot? order.id item.slotId).isSome then pure ()
  else modify fun db => db.addCommand (dispatchCommand order item)

def createPendingDispatchCommands (orderId : OrderId) :
    DrizzleTransaction (List VendingCommand) := do
  let db ← get
  let order ← Transaction.requireSome (db.orders.find? orderId)
    (.notFound "Order not found")
  lockMachineForVendingMutation order.machineId
  lockOrderForVendingMutation orderId
  if db.dispatchCommands orderId ≠ [] then
    pure (db.dispatchCommands orderId)
  else do
    let items := db.dispatchItems orderId
    lockInventoriesForVendingMutation (items.map (·.inventoryId))
    forM items (insertDispatchCommand order)
    let db ← get
    pure (db.dispatchCommands orderId)

/-- The original command of a compensation, with its line and slot. -/
structure CompensationRow where
  order : Order
  command : VendingCommand
  line : OrderItem
  slot : MachineSlot
  deriving Repr, DecidableEq

def Db.compensationRow
    (db : Db)
    (orderId : OrderId)
    (originalCommandNo : CommandId) : Option CompensationRow := do
  let command ← db.vendingCommands.find? originalCommandNo
  if command.orderId = orderId then do
    let order ← db.orders.find? command.orderId
    let orderItemId ← command.orderItemId
    let line ← db.orderItems.find? orderItemId
    let slot ← db.machineSlots.find? command.slotId
    pure { order, command, line, slot }
  else none

structure CompensationInput where
  orderId : OrderId
  recoveryActionId : Nat
  originalCommandNo : CommandId
  note : String
  deriving Repr, DecidableEq

def compensationCommand
    (row : CompensationRow)
    (input : CompensationInput)
    (id : CommandId) : VendingCommand where
  id := id
  orderId := row.order.id
  machineId := row.order.machineId
  slotId := row.command.slotId
  orderItemId := some row.line.id
  commandKind := .compensation
  recoveryActionId := some input.recoveryActionId
  payloadJson :=
    { commandNo := id
      orderNo := row.order.id
      slot := { rowNo := row.slot.rowNo, cellNo := row.slot.cellNo }
      quantity := row.line.quantity
      timeoutSeconds := 120
      recovery :=
        some
          { originalCommandNo := input.originalCommandNo
            note := input.note } }
  status := .pending
  sentAt := none
  ackAt := none
  resultAt := none
  lastError := none

def compensationReservationSeconds : Nat := 15 * 60

def createCompensationDispenseCommand
    (input : CompensationInput)
    (now : Time) : DrizzleTransaction Unit := do
  let db ← get
  let order ← Transaction.requireSome (db.orders.find? input.orderId)
    (.notFound "Order not found for compensation")
  lockMachineForVendingMutation order.machineId
  lockOrderForVendingMutation order.id
  let row ← Transaction.requireSome
    (db.compensationRow input.orderId input.originalCommandNo)
    (.notFound "Original vending command item not found for compensation")
  lockInventoriesForVendingMutation [row.line.inventoryId]
  parseDispenseCommandPayload
    (compensationCommand row input db.vendingCommands.nextId).payloadJson
  updateOneInventory row.line.inventoryId
    (fun inventory =>
      row.line.quantity ≤ inventory.onHandQty - inventory.reservedQty)
    (fun inventory => inventory.onHandQty)
    (fun inventory => inventory.reservedQty + row.line.quantity)
    (.conflict "Insufficient inventory for compensation dispense")
  insertActiveReservation row.order.id row.line.inventoryId
    (some row.line.id) row.line.quantity
    (now + compensationReservationSeconds)
  Transaction.require
    (db.vendingCommands.rows.all fun command =>
      command.recoveryActionId ≠ some input.recoveryActionId)
    (.uniqueViolation "vending_commands_recovery_action_unique")
  modify fun db => db.addCommand (compensationCommand row input)

theorem commits_createCompensationDispenseCommand
    {input : CompensationInput}
    {now : Time}
    (created :
      (createCompensationDispenseCommand input now).Commits before answer
        after) :
    ∃ row inventory positive valid,
      before.compensationRow input.orderId input.originalCommandNo =
        some row ∧
      before.inventories.find? row.line.inventoryId = some inventory ∧
      row.line.quantity ≤ inventory.onHandQty - inventory.reservedQty ∧
      after =
        ((before.setInventory row.line.inventoryId inventory.onHandQty
            (inventory.reservedQty + row.line.quantity) valid).addReservation
          row.order.id row.line.inventoryId (some row.line.id)
          row.line.quantity (now + compensationReservationSeconds)
          positive).addCommand (compensationCommand row input) := by
  simp only [createCompensationDispenseCommand, Transaction.commits_bind,
    Transaction.commits_get, Transaction.commits_requireSome,
    commits_lockMachine, commits_lockOrder, commits_lockInventories,
    commits_parseDispenseCommandPayload, commits_updateOneInventory,
    commits_insertActiveReservation, Transaction.commits_require,
    Transaction.commits_modify] at created
  obtain ⟨_, _, ⟨rfl, rfl⟩, order, _, ⟨_, rfl⟩, _, _, ⟨_, rfl⟩, _, _,
    ⟨_, rfl⟩, row, _, ⟨isRow, rfl⟩, _, _, ⟨_, rfl⟩, _, _, ⟨_, rfl⟩, _, _,
    ⟨inventory, found, guard, valid, rfl⟩, _, _, ⟨positive, rfl⟩, _, _,
    ⟨_, rfl⟩, rfl⟩ := created
  exact ⟨row, inventory, positive, valid, isRow, found,
    by simpa using guard, rfl⟩

/-- The database with one command changed. -/
def Db.setCommandStatus
    (db : Db)
    (commandId : CommandId)
    (status : VendingCommandStatus)
    (resultAt : Option Time)
    (lastError : Option String) : Db :=
  { db with
    vendingCommands := db.vendingCommands.modify commandId fun command =>
      { command with status, resultAt, lastError } }

/--
Move a command to a status if it is in one of the eligible ones; the answer
says whether it was.
-/
def claimCommand
    (commandId : CommandId)
    (eligibleStatuses : List VendingCommandStatus)
    (status : VendingCommandStatus)
    (resultAt : Option Time)
    (lastError : Option String) : DrizzleTransaction Bool := do
  let db ← get
  match (db.vendingCommands.find? commandId).filter
      (fun command => command.status ∈ eligibleStatuses) with
  | none => pure false
  | some _ => do
      modify fun db => db.setCommandStatus commandId status resultAt lastError
      pure true

/-- A published command is sent, unless it has moved on meanwhile. -/
def markPendingCommandSent
    (commandId : CommandId)
    (now : Time) : DrizzleTransaction Unit := do
  let db ← get
  match db.vendingCommands.find? commandId with
  | none => pure ()
  | some command => do
      lockMachineForVendingMutation command.machineId
      lockOrderForVendingMutation command.orderId
      modify fun db =>
        { db with
          vendingCommands := db.vendingCommands.updateWhere
            (fun row => row.id = commandId && row.status = .pending)
            (fun row =>
              { row with
                status := .sent
                sentAt := some now
                lastError := none }) }

/-- The machine acknowledged the command. -/
def handleCommandAck
    (machineId : MachineId)
    (commandId : CommandId)
    (now : Time) : DrizzleTransaction Unit := do
  let db ← get
  match (db.vendingCommands.find? commandId).filter
      (fun command => command.machineId = machineId) with
  | none => pure ()
  | some command => do
      lockOrderForVendingMutation command.orderId
      modify fun db =>
        { db with
          vendingCommands := db.vendingCommands.updateWhere
            (fun row =>
              row.id = commandId && row.machineId = machineId &&
                (row.status = .pending || row.status = .sent))
            (fun row =>
              { row with
                status := .acknowledged
                ackAt := some now }) }

section Within

open Transaction

/-- What every insertion of a command keeps is kept. -/
theorem createPendingDispatchCommands_within
    {relation : Db → Db → Prop}
    [IsPreorder Db relation]
    (adds : ∀ db make, relation db (db.addCommand make))
    (orderId : OrderId) :
    Within relation (createPendingDispatchCommands orderId) := by
  have locks (condition : Db → Bool) (refusal : ServiceError) :
      Within relation (do
        let db ← get
        Transaction.require (condition db) refusal) := by
    apply Within.bind Within.get
    intro db
    exact Within.require _ _
  apply Within.bind Within.get
  intro db
  apply Within.bind
  · exact Within.requireSome _ _
  intro order
  apply Within.bind
  · exact locks _ _
  intro _
  apply Within.bind
  · exact locks _ _
  intro _
  split
  · exact Within.pure _
  · apply Within.bind
    · exact locks _ _
    intro _
    apply Within.bind
    · refine Within.forM (fun item => ?_) _
      apply Within.bind Within.get
      intro later
      apply Within.bind
      · unfold parseDispenseCommandPayload
        split
        · exact Within.pure _
        · exact Within.throw _
      intro _
      split
      · exact Within.pure _
      · exact Within.modify fun db => adds db _
    intro _
    apply Within.bind Within.get
    intro later
    exact Within.pure _

end Within

end VendingSystem.Platform
