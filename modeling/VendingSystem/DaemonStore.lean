import VendingSystem.Table

namespace VendingSystem.Daemon

/-!
# The daemon's local state store

The durable tables of the vending daemon that dispensing and stock keeping read
and write.  Identifiers are only compared, so they are natural numbers; times
are seconds, since the timestamps written by the daemon are ordered as times.
An error rolls the transaction of a store function back.
-/

abbrev CommandNo := Nat
abbrev OrderNo := Nat
abbrev SlotId := Nat
abbrev PlanogramVersion := Nat
abbrev TaskId := Nat
abbrev Time := Nat

/-- A slot's coordinate in the machine. -/
structure SlotPayload where
  rowNo : Nat
  cellNo : Nat
  deriving Repr, DecidableEq

/-- The only recovery a command can carry. -/
inductive DispenseRecoveryAction where
  | compensationDispense
  deriving Repr, DecidableEq

/-- Why a compensation command was issued. -/
structure DispenseRecoveryPayload where
  action : DispenseRecoveryAction
  originalCommandNo : CommandNo
  note : String
  deriving Repr, DecidableEq

structure DispenseCommandPayload where
  commandNo : CommandNo
  orderNo : OrderNo
  slot : SlotPayload
  quantity : Nat
  timeoutSeconds : Nat
  recovery : Option DispenseRecoveryPayload
  deriving Repr, DecidableEq

/-- Controller faults that concern hardware shared by all slots. -/
inductive LowerControllerFault where
  | sharedMechanical
  | pickupPlatformBlocked
  deriving Repr, DecidableEq

def LowerControllerFault.requiresWholeMachineLock :
    LowerControllerFault → Bool
  | .sharedMechanical => true
  | .pickupPlatformBlocked => true

/-- The controller's answer to a dispense command. -/
structure DispenseResultPayload where
  commandNo : CommandNo
  success : Bool
  errorCode : Option String
  message : String
  reportedAt : Time
  lowerControllerFault : Option LowerControllerFault
  deriving Repr, DecidableEq

/-- The result is a failure that names shared hardware. -/
def DispenseResultPayload.requiresLock (result : DispenseResultPayload) :
    Bool :=
  result.lowerControllerFault.any
    LowerControllerFault.requiresWholeMachineLock

inductive CommandLogStatus where
  | received
  | acknowledged
  | dispensing
  | succeeded
  | failed
  deriving Repr, DecidableEq

structure CommandLogRecord where
  commandNo : CommandNo
  orderNo : OrderNo
  commandPayload : DispenseCommandPayload
  status : CommandLogStatus
  ackAt : Option Time
  dispensingStartedAt : Option Time
  resultPayload : Option DispenseResultPayload
  errorCode : Option String
  errorMessage : Option String
  updatedAt : Time
  expiresAt : Time
  sideEffectsCommittedAt : Option Time
  deriving Repr, DecidableEq

/-- The result is journaled but its side effects are not committed. -/
def CommandLogRecord.pendingSideEffects (record : CommandLogRecord) : Bool :=
  record.resultPayload.isSome && record.sideEffectsCommittedAt.isNone

/--
The two formats of a movement identifier: `dispense:<command number>`, and
`<task>:<slot>` for a refill batch, a count or an attestation.
-/
inductive MovementId where
  | dispense (commandNo : CommandNo)
  | stockTask (taskId : TaskId) (slotId : SlotId)
  deriving Repr, DecidableEq

inductive OutboxId where
  | ack (commandNo : CommandNo)
  | result (commandNo : CommandNo)
  | stockMovement (movementId : MovementId)
  deriving Repr, DecidableEq

inductive MovementType where
  | plannedRefill
  | stockCountCorrection
  | dispenseSucceeded
  deriving Repr, DecidableEq

inductive MovementSource where
  | localMaintenance
  | vendingCommand
  | platform
  | physicalStockAttestation
  deriving Repr, DecidableEq

/-- A row of the stock-movement ledger. -/
structure StockMovement where
  movementId : MovementId
  planogramVersion : PlanogramVersion
  slotId : SlotId
  movementType : MovementType
  quantity : Int
  beforeQuantity : Int
  afterQuantity : Int
  source : MovementSource
  attributedTo : Option Nat
  occurredAt : Time
  deriving Repr, DecidableEq

inductive OutboxPayload where
  | commandAck
  | dispenseResult (result : DispenseResultPayload)
  | stockMovementUpload (movement : StockMovement)
  deriving Repr, DecidableEq

structure OutboxEvent where
  id : OutboxId
  payload : OutboxPayload
  priority : Int
  createdAt : Time
  nextAttemptAt : Time
  attemptCount : Nat
  expiresAt : Time
  deriving Repr, DecidableEq

/-- What the backend last said about an order's vending command. -/
structure BackendVending where
  commandNo : Option CommandNo
  status : Option String
  resultAt : Option Time
  lastError : Option String
  fulfillmentProgressStage : Option String
  pickupReminder : Option String
  deriving Repr, DecidableEq

structure BackendPayment where
  method : Option String
  providerCode : Option String
  expiresAt : Option Time
  deriving Repr, DecidableEq

inductive AttemptValue where
  | null
  | text (value : String)
  | flag (value : Bool)
  | number (value : Nat)
  deriving Repr, DecidableEq

/-- A payment-code attempt as the JSON object that is stored for it. -/
abbrev PaymentCodeAttempt := List (String × AttemptValue)

/-- The fields of the stored backend status that the daemon reads or patches. -/
structure BackendStatus where
  orderStatus : Option String
  fulfillmentState : Option String
  nextAction : Option String
  payment : Option BackendPayment
  paymentMethod : Option String
  paymentProviderCode : Option String
  expiresAt : Option Time
  paymentCodeAttempt : Option PaymentCodeAttempt
  vending : Option BackendVending
  deriving Repr, DecidableEq

/-- An item of an order, as the checkout request named it. -/
structure OrderItem where
  slotId : SlotId
  quantity : Nat
  deriving Repr, DecidableEq

structure OrderSession where
  orderNo : OrderNo
  paymentMethod : String
  paymentProvider : Option String
  paymentAttempt : Option PaymentCodeAttempt
  items : List OrderItem
  status : String
  nextAction : String
  expiresAt : Option Time
  lastBackendStatus : Option BackendStatus
  lastError : Option String
  recoveryStrategy : String
  updatedAt : Time
  deriving Repr, DecidableEq

inductive SlotSalesState where
  | saleReady
  | soldOut
  | suspect
  | frozen
  | needsCount
  | blockedForPlanogramChange
  | movementRejected
  | needsPlatformReview
  deriving Repr, DecidableEq

def SlotSalesState.isReconciliationSaleSafetyBlocker : SlotSalesState → Bool
  | .needsCount
  | .blockedForPlanogramChange
  | .movementRejected
  | .needsPlatformReview => true
  | .saleReady
  | .soldOut
  | .suspect
  | .frozen => false

/-- The holds a dispense failure puts a slot into. -/
def SlotSalesState.isDispenseHold : SlotSalesState → Bool
  | .suspect
  | .frozen => true
  | _ => false

/-- The catalog entry that a slot shows. -/
structure ProductListing where
  productName : String
  productDescription : Option String
  coverImageUrl : Option String
  categoryId : Option Nat
  categoryName : Option String
  size : Option String
  color : Option String
  productSortOrder : Int
  targetGender : Option String
  deriving Repr, DecidableEq

structure MachinePlanogramSlotInput where
  slotId : SlotId
  rowNo : Nat
  cellNo : Nat
  capacity : Int
  parLevel : Int
  inventoryId : Nat
  variantId : Nat
  productId : Nat
  sku : String
  priceCents : Int
  listing : ProductListing
  deriving Repr, DecidableEq

structure PlanogramSlot extends MachinePlanogramSlotInput where
  planogramVersion : PlanogramVersion
  deriving Repr, DecidableEq

/-- A planogram version that was applied at some time. -/
structure MachinePlanogramVersion where
  planogramVersion : PlanogramVersion
  source : String
  appliedBy : Option Nat
  appliedAt : Time
  deriving Repr, DecidableEq

structure StockProjection where
  planogramVersion : PlanogramVersion
  slotId : SlotId
  physicalStock : Int
  saleableStock : Int
  slotSalesState : SlotSalesState
  updatedAt : Time
  deriving Repr, DecidableEq

/-- The sale view of one slot: its mapping with the projected quantities. -/
structure SaleViewItem where
  planogramVersion : PlanogramVersion
  slotId : SlotId
  rowNo : Nat
  cellNo : Nat
  inventoryId : Nat
  variantId : Nat
  productId : Nat
  capacity : Int
  physicalStock : Int
  saleableStock : Int
  slotSalesState : SlotSalesState
  updatedAt : Time
  deriving Repr, DecidableEq

structure SaleSafetyBlocker where
  planogramVersion : PlanogramVersion
  slotId : SlotId
  slotSalesState : SlotSalesState
  reason : String
  source : String
  deriving Repr, DecidableEq

inductive MovementSyncStatus where
  | pending
  | failed
  | accepted
  | rejected
  | reconciliation
  deriving Repr, DecidableEq

/-- What the platform answers to an uploaded movement. -/
inductive StockMovementUploadStatus where
  | accepted
  | alreadyAccepted
  | rejected
  | reconciliation
  | unrecognized
  deriving Repr, DecidableEq

/-- A blocker that a reconciliation answer puts on a slot. -/
structure StockMovementSaleSafetyBlocker where
  slotId : SlotId
  slotSalesState : SlotSalesState
  reason : String
  deriving Repr, DecidableEq

structure StockMovementUploadResponse where
  movementId : MovementId
  status : StockMovementUploadStatus
  acceptedAt : Option Time
  saleSafetyBlocker : Option StockMovementSaleSafetyBlocker
  deriving Repr, DecidableEq

/-- The upload state of a movement. -/
structure StockMovementSync where
  movementId : MovementId
  status : MovementSyncStatus
  attemptCount : Nat
  lastError : Option String
  acceptedAt : Option Time
  platformReceipt : Option StockMovementUploadResponse
  updatedAt : Time
  deriving Repr, DecidableEq

structure PhysicalStockAttestationSlotInput where
  slotId : SlotId
  sku : String
  quantity : Int
  enabled : Bool
  deriving Repr, DecidableEq

/-- A count of every slot of the active planogram. -/
structure PhysicalStockAttestationInput where
  attestationId : TaskId
  planogramVersion : PlanogramVersion
  operatorId : Nat
  slots : List PhysicalStockAttestationSlotInput
  deriving Repr, DecidableEq

/--
The upload generation of one attested slot.  A corrected retry carries the
generations that the platform already accepted.
-/
structure PendingPhysicalStockAttestationSlotGeneration where
  slotId : SlotId
  movementId : MovementId
  generation : TaskId
  beforeQuantity : Int
  afterQuantity : Int
  occurredAt : Time
  deriving Repr, DecidableEq

/-- An attestation that waits for the platform's acceptance. -/
structure PendingPhysicalStockAttestation where
  input : PhysicalStockAttestationInput
  attestedAt : Time
  movementIds : List MovementId
  slotGenerations : List PendingPhysicalStockAttestationSlotGeneration
  deriving Repr, DecidableEq

/-- The last attestation that became a local stock fact. -/
structure StoredPhysicalStockAttestation where
  attestationId : TaskId
  planogramVersion : PlanogramVersion
  operatorId : Nat
  attestedAt : Time
  slots : List PhysicalStockAttestationSlotInput
  deriving Repr, DecidableEq

structure NormalizedStockMaintenanceRefillSlot where
  slotId : SlotId
  addition : Int
  deriving Repr, DecidableEq

/-- A refill batch as it is stored, so that a resubmission is recognized. -/
structure StockMaintenanceBatch where
  taskId : TaskId
  planogramVersion : PlanogramVersion
  operatorId : Nat
  slots : List NormalizedStockMaintenanceRefillSlot
  createdAt : Time
  deriving Repr, DecidableEq

structure WholeMachineMaintenanceLock where
  code : String
  message : String
  source : String
  orderNo : OrderNo
  commandNo : CommandNo
  slotId : SlotId
  errorCode : Option String
  createdAt : Time
  deriving Repr, DecidableEq

/-- The durable tables.  At most one planogram version is active. -/
structure Store where
  commandLog : Table CommandLogRecord CommandLogRecord.commandNo
  outboxEvents : Table OutboxEvent OutboxEvent.id
  orderSessions : Table OrderSession OrderSession.orderNo
  activePlanogramVersion : Option PlanogramVersion
  machinePlanogramVersions : Table MachinePlanogramVersion
    MachinePlanogramVersion.planogramVersion
  machinePlanogramSlots : Table PlanogramSlot
    (fun slot => (slot.planogramVersion, slot.slotId))
  stockMovements : Table StockMovement StockMovement.movementId
  stockMovementSync : Table StockMovementSync StockMovementSync.movementId
  currentStockProjection : Table StockProjection StockProjection.slotId
  saleViewProjection : Table SaleViewItem SaleViewItem.slotId
  saleSafetyBlockers : Table SaleSafetyBlocker
    (fun blocker => (blocker.planogramVersion, blocker.slotId))
  wholeMachineMaintenanceLock : Option WholeMachineMaintenanceLock
  stockMaintenanceBatches : Table StockMaintenanceBatch
    StockMaintenanceBatch.taskId
  physicalStockAttestation : Option StoredPhysicalStockAttestation
  pendingPhysicalStockAttestation : Option PendingPhysicalStockAttestation
  failedPhysicalStockAttestation : Option PendingPhysicalStockAttestation
  stockLedgerRebuiltAfterQuarantine : Bool
  deriving DecidableEq

/-- A store without rows. -/
def Store.empty : Store where
  commandLog := .empty
  outboxEvents := .empty
  orderSessions := .empty
  activePlanogramVersion := none
  machinePlanogramVersions := .empty
  machinePlanogramSlots := .empty
  stockMovements := .empty
  stockMovementSync := .empty
  currentStockProjection := .empty
  saleViewProjection := .empty
  saleSafetyBlockers := .empty
  wholeMachineMaintenanceLock := none
  stockMaintenanceBatches := .empty
  physicalStockAttestation := none
  pendingPhysicalStockAttestation := none
  failedPhysicalStockAttestation := none
  stockLedgerRebuiltAfterQuarantine := false

/-- Errors a store function reports; each message names what it refused. -/
inductive StoreError where
  | invalidStockInput (message : String)
  | integrityCheckFailed (message : String)
  | invalidCheckoutFlowAction (action : String)
  | activePaymentCodeAttempt
  | paymentCodeOrderNotPayable
  | constraintViolation
  | rowNotFound
  deriving Repr, DecidableEq

def commandLogTtlDays : Nat := 30
def commandLogMaxEntries : Nat := 2000
def secondsPerDay : Nat := 86400

/-- Insert the received command unless its number is already logged. -/
def upsertCommandReceived
    (store : Store)
    (command : DispenseCommandPayload)
    (now : Time) : Store :=
  { store with
    commandLog := store.commandLog.insertOrIgnore
      { commandNo := command.commandNo
        orderNo := command.orderNo
        commandPayload := command
        status := .received
        ackAt := none
        dispensingStartedAt := none
        resultPayload := none
        errorCode := none
        errorMessage := none
        updatedAt := now
        expiresAt := now + commandLogTtlDays * secondsPerDay
        sideEffectsCommittedAt := none } }

def outboxTtlDays : Nat := 7

/-- Insert an outbox event, or refresh the stored event with the same id. -/
def insertOutbox (store : Store) (event : OutboxEvent) : Store :=
  { store with
    outboxEvents := store.outboxEvents.insertOrUpdate event
      (fun stored =>
        { stored with
          payload := event.payload
          priority := event.priority
          createdAt := event.createdAt
          nextAttemptAt := event.nextAttemptAt }) }

/-- The acknowledgement of a command. -/
def OutboxEvent.commandAck (commandNo : CommandNo) (now : Time) :
    OutboxEvent where
  id := .ack commandNo
  payload := .commandAck
  priority := 100
  createdAt := now
  nextAttemptAt := now
  attemptCount := 0
  expiresAt := now + outboxTtlDays * secondsPerDay

def OutboxEvent.dispenseResult
    (result : DispenseResultPayload)
    (now : Time) : OutboxEvent where
  id := .result result.commandNo
  payload := .dispenseResult result
  priority := 150
  createdAt := now
  nextAttemptAt := now
  attemptCount := 0
  expiresAt := now + outboxTtlDays * secondsPerDay

end VendingSystem.Daemon
