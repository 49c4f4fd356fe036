import VendingSystem.PlatformAppliedMovements

namespace VendingSystem.Platform

/-!
# Resolution of reviews among other calls

`resolveCase` reads its case and the stock at its slot, and then claims the
case with conditional writes.  Resolutions are interleaved with uploads of
movements and with everything else that the platform does to its stock.
-/

/-- What a resolution has read before it claims its case. -/
structure CaseReading where
  current : StockReconciliationCase
  inventory : Option Inventory
  deriving Repr, DecidableEq

/-- `findCaseById(id, true)` with the stock that it joins. -/
def Db.readCase
    (db : Db)
    (id : StockReconciliationCaseId) : Option CaseReading :=
  (db.openCase id).map fun current =>
    { current, inventory := db.caseInventory current }

/-- The stock write of a manual correction, against what was read. -/
def correctStock
    (inventory : Inventory)
    (correctedOnHandQty : Nat)
    (note : String) : DrizzleTransaction Unit := do
  updateOneInventory inventory.id
    (fun row => row.onHandQty = inventory.onHandQty)
    (fun _ => correctedOnHandQty)
    (fun row => row.reservedQty)
    (.conflict "Inventory changed while resolving stock reconciliation case")
  insertInventoryMovement inventory.id
    ((correctedOnHandQty : Int) - inventory.onHandQty) .adjust none
    (some (.operator note))

/-- The inventory that a manual correction may write. -/
def correctedInventory
    (reading : CaseReading)
    (correctedOnHandQty : Nat) : DrizzleTransaction Inventory := do
  let inventory ← Transaction.requireSome reading.inventory
    (.conflict
      "Stock reconciliation case cannot determine target inventory quantity")
  Transaction.require (inventory.reservedQty ≤ correctedOnHandQty)
    (.conflict
      "Resolution would make inventory on-hand quantity below reserved quantity")
  pure inventory

/-- Claim a case that is still open. -/
def claimCase
    (id : StockReconciliationCaseId)
    (action : StockReconciliationResolveAction) :
    DrizzleTransaction Bool := do
  let db ← get
  match db.openCase id with
  | none => pure false
  | some _ => do
      modify fun db => db.closeCase action id
      pure true

/-- What `resolveCase` does once it has read its case. -/
def resolveReadCase
    (id : StockReconciliationCaseId)
    (input : StockReconciliationResolveInput)
    (reading : CaseReading) : DrizzleTransaction Bool :=
  match input.action with
  | .rejectMachineStock => do
      let claimed ← claimCase id input.action
      if claimed then do
        clearResolvedCaseBlocker reading.current input.clearBlocker
        pure true
      else pure false
  | .manualCorrect correctedOnHandQty => do
      let inventory ← correctedInventory reading correctedOnHandQty
      let claimed ← claimCase id input.action
      if claimed then do
        correctStock inventory correctedOnHandQty input.note
        clearResolvedCaseBlocker reading.current input.clearBlocker
        pure true
      else pure false

/-- A call of the ingestion service or of the reconciliation service. -/
inductive CaseTask where
  | upload (task : MovementTask)
  | resolve
      (id : StockReconciliationCaseId)
      (input : StockReconciliationResolveInput)
  | claim
      (id : StockReconciliationCaseId)
      (input : StockReconciliationResolveInput)
      (reading : CaseReading)
  deriving Repr, DecidableEq

/-- The next step of a resolution; one without a case finds nothing. -/
def resolveNext
    (id : StockReconciliationCaseId)
    (input : StockReconciliationResolveInput) :
    DrizzleTransaction (List CaseTask) := do
  let db ← get
  pure ((db.readCase id).map (CaseTask.claim id input)).toList

/-- Uploads and resolutions, interleaved at the database. -/
def caseService : Service Db ServiceError CaseTask Time where
  starts
    | .upload task => movementService.starts task
    | .resolve _ _ => true
    | .claim _ _ _ => false
  perform
    | .upload task, now => List.map .upload <$> receiveRawMovement task now
    | .resolve id input, _ => resolveNext id input
    | .claim id input reading, _ =>
      (fun _ => []) <$> resolveReadCase id input reading
  recover
    | .upload task, refusal => (task.afterFailure refusal).map .upload
    | .resolve _ _, _ => []
    | .claim _ _ _, _ => []

/-- The ledger rows that stored movements left. -/
def Db.movementRows (db : Db) : List InventoryMovement :=
  db.inventoryMovements.rows.filter fun row =>
    match row.note with
    | some (.machineStockMovement _ _) => true
    | _ => false

/-- The command is still there, with its quantity, and settled as before. -/
def Db.keepsCommand (db : Db) (command : VendingCommand) : Bool :=
  (db.vendingCommands.find? command.id).any fun later =>
    later.payloadJson.quantity = command.payloadJson.quantity &&
      decide (later.status = .succeeded ↔ command.status = .succeeded)

/--
What reservations, releases, failures, adjustments and the rest of the
platform may do: they write no movement, no ledger row of one, and let no
command succeed.
-/
structure LeavesMovements (before after : Db) : Prop where
  stored : after.machineRawStockMovements = before.machineRawStockMovements
  conflicts : after.machineRawStockMovementConflicts =
    before.machineRawStockMovementConflicts
  movementRows : after.movementRows = before.movementRows
  keepsCommands : ∀ command ∈ before.vendingCommands.rows,
    after.keepsCommand command = true
  newCommands : ∀ command ∈ after.vendingCommands.rows,
    (before.vendingCommands.find? command.id).isNone →
      command.status ≠ .succeeded

instance (before after : Db) : Decidable (LeavesMovements before after) :=
  decidable_of_iff
    (after.machineRawStockMovements = before.machineRawStockMovements ∧
      after.machineRawStockMovementConflicts =
        before.machineRawStockMovementConflicts ∧
      after.movementRows = before.movementRows ∧
      (∀ command ∈ before.vendingCommands.rows,
        after.keepsCommand command = true) ∧
      ∀ command ∈ after.vendingCommands.rows,
        (before.vendingCommands.find? command.id).isNone →
          command.status ≠ .succeeded)
    ⟨fun ⟨stored, conflicts, rows, kept, new⟩ =>
        ⟨stored, conflicts, rows, kept, new⟩,
      fun leaves => ⟨leaves.stored, leaves.conflicts, leaves.movementRows,
        leaves.keepsCommands, leaves.newCommands⟩⟩

/-- The calls in hand, and the cases that resolutions have closed. -/
structure CaseRuntime where
  service : Service.Runtime Db CaseTask
  closures : List StockReconciliationCaseId

inductive CaseEvent where
  | service (event : Service.Event ServiceError CaseTask Time)
  | other (after : Db)

/-- The task that an event advances. -/
def CaseRuntime.taskOf (runtime : CaseRuntime) : CaseEvent → Option CaseTask
  | .service (.advance position _) => runtime.service.tasks[position]?
  | _ => none

def CaseRuntime.closes
    (runtime : CaseRuntime)
    (event : CaseEvent) : Option StockReconciliationCaseId :=
  match runtime.taskOf event with
  | some (.claim id input reading) =>
    match ((resolveReadCase id input reading).execute
        runtime.service.db).1 with
    | .ok true => some id
    | _ => none
  | _ => none

def caseMachine : Machine CaseRuntime CaseEvent where
  step runtime event :=
    match event with
    | .service inner =>
      (caseService.machine.step runtime.service inner).map fun service =>
        { service
          closures := runtime.closures ++ (runtime.closes event).toList }
    | .other after =>
      if LeavesMovements runtime.service.db after then
        some { runtime with service := { runtime.service with db := after } }
      else none

/-- The movement reports that a command was dispensed. -/
def RawMachineStockMovement.dispenses
    (input : RawMachineStockMovement)
    (commandNo : CommandId) : Bool :=
  input.isOrderBoundDispenseMovement &&
    input.orderContext.any fun context =>
      context.vendingCommandNo = commandNo

/-- The ledger row is that of a stored dispense of the command. -/
def Db.isDispenseOf
    (db : Db)
    (commandNo : CommandId)
    (row : InventoryMovement) : Bool :=
  match row.note with
  | some (.machineStockMovement machineId movementId) =>
    (db.findByMachineMovement machineId movementId).any fun stored =>
      stored.payload.dispenses commandNo
  | _ => false

def Db.dispenseRows
    (db : Db)
    (commandNo : CommandId) : List InventoryMovement :=
  db.movementRows.filter (db.isDispenseOf commandNo)

/-- One dispense of the command took its quantity off the stock. -/
def Db.DeductedOnce
    (db : Db)
    (commandNo : CommandId)
    (quantity : Nat) : Prop :=
  ∃ row, db.dispenseRows commandNo = [row] ∧ row.deltaQty = -(quantity : Int)

/-- The command that an upload names, among those of its machine. -/
def Db.commandOf (db : Db) (upload : MovementUpload) : Option VendingCommand :=
  upload.input.orderContext.bind fun context =>
    (db.vendingCommands.find? context.vendingCommandNo).filter fun command =>
      command.machineId = upload.machineId

/-- A resolution closed the review of the movement. -/
def StoredRawMachineStockMovement.closedByOperator
    (stored : StoredRawMachineStockMovement) : Bool :=
  stored.status ≠ .reconciliation && stored.reconciliation.isSome

/-- An answer that is given from a stored movement. -/
structure MovementReport where
  upload : MovementUpload
  existing : StoredRawMachineStockMovement
  response : MachineStockMovementIngestionResponse
  deriving Repr, DecidableEq

/-- The answer that an event gives from a stored movement. -/
def CaseRuntime.reports
    (runtime : CaseRuntime)
    (event : CaseEvent) : Option MovementReport :=
  match runtime.taskOf event with
  | some (.upload (.respondForExisting upload existing)) =>
    match ((responseForExisting upload existing).execute
        runtime.service.db).1 with
    | .ok response => some { upload, existing, response }
    | .error _ => none
  | _ => none

/-- The same dispense is uploaded again after an operator closed its review. -/
def isClosedRedelivery
    (upload : MovementUpload)
    (existing : StoredRawMachineStockMovement) : Bool :=
  existing.payload = upload.input &&
    upload.input.isOrderBoundDispenseMovement && existing.closedByOperator

/--
The inventory that was read holds what was counted, with as much reserved as
before, and the ledger lists the change.
-/
def CorrectsStock
    (reading : CaseReading)
    (correctedOnHandQty : Nat)
    (before after : Db) : Prop :=
  ∃ inventory row note, ∃ covered : row.reservedQty ≤ correctedOnHandQty,
    reading.inventory = some inventory ∧
      before.inventories.find? inventory.id = some row ∧
      after.inventories = (before.setInventory inventory.id
        correctedOnHandQty row.reservedQty covered).inventories ∧
      after.inventoryMovements = (before.addMovement inventory.id
        ((correctedOnHandQty : Int) - row.onHandQty) .adjust none
        note).inventoryMovements

/-- What one step may do to stock, slots and reported movements. -/
structure ReconcilesSoundly
    (before : CaseRuntime)
    (event : CaseEvent)
    (after : CaseRuntime) : Prop where
  /-- A manual correction lists what it changes, or changes nothing. -/
  corrected : ∀ id input reading correctedOnHandQty,
    before.taskOf event = some (.claim id input reading) →
      input.action = .manualCorrect correctedOnHandQty →
        after.service.db = before.service.db ∨
          CorrectsStock reading correctedOnHandQty before.service.db
            after.service.db
  /-- A faulted slot comes back when no open review blocks it. -/
  enabled : ∀ inner, event = .service inner → ∀ slotId faulted restored,
    before.service.db.machineSlots.find? slotId = some faulted →
      faulted.status = .faulted →
        after.service.db.machineSlots.find? slotId = some restored →
          restored.status = .enabled →
            after.service.db.slotIsBlocked faulted.machineId slotId = false
  /-- A closed dispense is reported as done when it was deducted. -/
  reported : ∀ report ∈ before.reports event,
    isClosedRedelivery report.upload report.existing = true →
      report.response.acceptsMovement = true →
        ∀ command ∈ after.service.db.commandOf report.upload,
          command.status = .succeeded →
            after.service.db.DeductedOnce command.id
              report.upload.input.quantity

/-- A redelivered dispense finds its command settled, for its quantity. -/
def FindsSettled (db : Db) : CaseTask → Prop
  | .upload (.respondForExisting upload existing) =>
    isClosedRedelivery upload existing = true →
      ∀ command ∈ db.commandOf upload,
        (existing.status = .accepted →
          command.status ∉ unsettledStatuses) ∧
        (command.status = .succeeded →
          command.payloadJson.quantity = upload.input.quantity)
  | _ => True

/--
No dispense that an operator closed as accepted is uploaded again while its
command is unsettled, and none whose command succeeded for another quantity.
-/
def RedeliversSettled (runtime : CaseRuntime) (event : CaseEvent) : Prop :=
  ∀ task ∈ runtime.taskOf event, FindsSettled runtime.service.db task

instance decidableFindsSettled (db : Db) :
    ∀ task, Decidable (FindsSettled db task)
  | .upload (.respondForExisting _ _) =>
    inferInstanceAs (Decidable (_ → ∀ command ∈ _, _ ∧ _))
  | .upload (.lookUp _)
  | .upload (.findContext _)
  | .upload (.checkPlanogram _)
  | .upload (.checkField _ _)
  | .upload (.review _ _)
  | .upload (.accept _ _)
  | .upload (.dispatchRefunds _)
  | .upload (.apply _)
  | .upload (.markUnapplied _)
  | .upload (.restoreSlot _)
  | .upload (.lookUpAgain _)
  | .upload (.answered _ _)
  | .upload (.refused _ _)
  | .resolve _ _
  | .claim _ _ _ => isTrue trivial

instance (runtime : CaseRuntime) (event : CaseEvent) :
    Decidable (RedeliversSettled runtime event) :=
  inferInstanceAs (Decidable (∀ task ∈ _, _))

/--
Every succeeded command was deducted once, no other was, and every movement
in the ledger is stored.
-/
structure Db.DispensesMatch (db : Db) : Prop where
  noted : ∀ row ∈ db.movementRows, ∀ machineId movementId,
    row.note = some (.machineStockMovement machineId movementId) →
      (db.findByMachineMovement machineId movementId).isSome = true
  deducted : ∀ {commandNo command},
    db.vendingCommands.find? commandNo = some command →
      command.status = .succeeded →
        db.DeductedOnce commandNo command.payloadJson.quantity
  untouched : ∀ {commandNo},
    (∀ command ∈ db.vendingCommands.find? commandNo,
      command.status ≠ .succeeded) →
        db.dispenseRows commandNo = []
  confirmed : ∀ {machineId movementId stored commandNo},
    db.findByMachineMovement machineId movementId = some stored →
      stored.status = .accepted → stored.reconciliation = none →
        stored.payload.dispenses commandNo = true →
          ∃ command, db.vendingCommands.find? commandNo = some command ∧
            command.status = .succeeded

end VendingSystem.Platform
