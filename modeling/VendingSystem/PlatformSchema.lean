import VendingSystem.Table
import VendingSystem.Transaction

namespace VendingSystem.Platform

/-!
# The platform's database

The tables that the order, payment, refund, stock and vending code reads and
writes.  Identifiers and business numbers are only compared, so they are
natural numbers.  An error rolls a `DrizzleTransaction` back.
-/

abbrev MachineId := Nat
abbrev SlotId := Nat
abbrev InventoryId := Nat
abbrev VariantId := Nat
abbrev ProductId := Nat
abbrev PlanogramVersionId := Nat
abbrev PlanogramVersionName := Nat
abbrev OrderId := Nat
abbrev OrderItemId := Nat
abbrev PaymentId := Nat
abbrev RefundId := Nat
abbrev CommandId := Nat
abbrev MessageId := Nat
abbrev Time := Nat

inductive MachineSlotStatus where
  | enabled
  | disabled
  | faulted
  deriving Repr, DecidableEq

inductive CatalogStatus where
  | draft
  | active
  | inactive
  deriving Repr, DecidableEq

inductive PlanogramVersionStatus where
  | published
  | active
  | retired
  deriving Repr, DecidableEq

inductive InventoryReservationStatus where
  | active
  | confirmed
  | released
  | expired
  deriving Repr, DecidableEq

inductive InventoryMovementReason where
  | refill
  | adjust
  | purchaseReserved
  | purchaseConfirmed
  | reservationReleased
  | refundReturn
  | hardwareSync
  deriving Repr, DecidableEq

inductive OrderStatus where
  | pendingPayment
  | paymentExpired
  | canceled
  | paid
  | dispensing
  | fulfilled
  | dispenseFailed
  | manualHandling
  | refundPending
  | refunded
  | closed
  deriving Repr, DecidableEq

inductive OrderPaymentState where
  | awaitingPayment
  | paid
  | paymentFailed
  | paymentExpired
  | paymentUnknown
  | canceled
  | refundPending
  | partialRefundPending
  | manualHandling
  | refunded
  | partialRefunded
  deriving Repr, DecidableEq

inductive OrderFulfillmentState where
  | awaitingFulfillment
  | dispensing
  | dispensed
  | partialDispensed
  | dispenseFailed
  | manualHandling
  | canceled
  deriving Repr, DecidableEq

inductive OrderLineFulfillmentStatus where
  | pending
  | dispensing
  | dispensed
  | dispenseFailed
  | manualHandling
  deriving Repr, DecidableEq

inductive OrderLineRefundStatus where
  | notRequired
  | pending
  | refunded
  | failed
  | manualHandling
  deriving Repr, DecidableEq

inductive PaymentProviderCode where
  | mock
  | wechatPay
  | alipay
  deriving Repr, DecidableEq

inductive PaymentMethod where
  | mock
  | qrCode
  | paymentCode
  | facePay
  deriving Repr, DecidableEq

inductive PaymentStatus where
  | created
  | pending
  | processing
  | succeeded
  | failed
  | expired
  | canceled
  | unknown
  | refundPending
  | partialRefundPending
  | manualHandling
  | refunded
  | partialRefunded
  deriving Repr, DecidableEq

inductive RefundStatus where
  | created
  | processing
  | succeeded
  | failed
  | canceled
  deriving Repr, DecidableEq

inductive RefundReason where
  | autoDispenseFailed
  | adminRefund
  | autoPartialDispenseFailed
  deriving Repr, DecidableEq

inductive VendingCommandKind where
  | dispatch
  | compensation
  deriving Repr, DecidableEq

inductive VendingCommandStatus where
  | pending
  | sent
  | acknowledged
  | succeeded
  | failed
  | resultUnknown
  | timeout
  deriving Repr, DecidableEq

inductive RawMovementType where
  | plannedRefill
  | stockCountCorrection
  | dispenseSucceeded
  deriving Repr, DecidableEq

/--
Movement identifiers: the service makes `mqtt-dispense:<command>` and
`manual-dispense:<command>`, a machine names its own.
-/
inductive MovementName where
  | mqttDispense (commandNo : CommandId)
  | manualDispense (commandNo : CommandId)
  | machineNamed (text : String)
  deriving Repr, DecidableEq

/-- The sources that the service tells apart. -/
inductive RawMovementSource where
  | approvedCount
  | platformApprovedCount
  | physicalStockAttestation
  | localMaintenance
  | vendingCommand
  | manualConfirmation
  | other (text : String)
  deriving Repr, DecidableEq

inductive RawMovementStatus where
  | accepted
  | rejected
  | reconciliation
  deriving Repr, DecidableEq

inductive PlatformReviewStatus where
  | open
  | resolved
  deriving Repr, DecidableEq

inductive SaleSafetyBlockerState where
  | needsCount
  | blockedForPlanogramChange
  | movementRejected
  | needsPlatformReview
  deriving Repr, DecidableEq

inductive MachineStockReconciliationReason where
  | unknownSlot
  | unknownPlanogramVersion
  | inactivePlanogramVersion
  | mappingMismatch
  | localMaintenance
  | weakAttribution
  | abnormalVariance
  | movementIdPayloadConflict
  | orderContextMissing
  | orderContextMismatch
  deriving Repr, DecidableEq

structure MachineRecord where
  id : MachineId
  deriving Repr, DecidableEq

structure MachineSlot where
  id : SlotId
  machineId : MachineId
  rowNo : Nat
  cellNo : Nat
  status : MachineSlotStatus
  deletedAt : Option Time
  deriving Repr, DecidableEq

structure Product where
  id : ProductId
  status : CatalogStatus
  deriving Repr, DecidableEq

structure ProductVariant where
  id : VariantId
  productId : ProductId
  priceCents : Nat
  status : CatalogStatus
  deriving Repr, DecidableEq

structure MachinePlanogramVersion where
  id : PlanogramVersionId
  machineId : MachineId
  planogramVersion : PlanogramVersionName
  status : PlanogramVersionStatus
  acknowledgedAt : Option Time
  deriving Repr, DecidableEq

structure MachinePlanogramSlot where
  machinePlanogramVersionId : PlanogramVersionId
  slotId : SlotId
  capacity : Nat
  inventoryId : InventoryId
  variantId : VariantId
  deriving Repr, DecidableEq

/-- An inventory row; its check constraint is a field. -/
structure Inventory where
  id : InventoryId
  machineId : MachineId
  slotId : SlotId
  variantId : VariantId
  onHandQty : Nat
  reservedQty : Nat
  reservedLteOnHand : reservedQty ≤ onHandQty
  deriving Repr, DecidableEq

/-- A reservation row; its check constraint is a field. -/
structure InventoryReservation where
  id : Nat
  orderId : OrderId
  inventoryId : InventoryId
  orderItemId : Option OrderItemId
  quantity : Nat
  status : InventoryReservationStatus
  expiresAt : Time
  quantityPositive : 0 < quantity
  deriving Repr, DecidableEq

/-- Why a reservation was given back. -/
inductive ReservationReleaseReason where
  | paymentFailed
  | paymentExpired
  | canceled
  | dispenseFailed
  deriving Repr, DecidableEq

/-- The notes that the service writes beside a movement and looks up. -/
inductive InventoryMovementNote where
  | released (reason : ReservationReleaseReason)
  | machineStockMovement (machineId : MachineId) (movementId : MovementName)
  | operator (text : String)
  deriving Repr, DecidableEq

structure InventoryMovement where
  id : Nat
  inventoryId : InventoryId
  deltaQty : Int
  reason : InventoryMovementReason
  orderId : Option OrderId
  note : Option InventoryMovementNote
  deriving Repr, DecidableEq

structure Order where
  id : OrderId
  machineId : MachineId
  status : OrderStatus
  paymentState : OrderPaymentState
  fulfillmentState : OrderFulfillmentState
  totalAmountCents : Nat
  paymentId : Option PaymentId
  deriving Repr, DecidableEq

/-- The fields of the product snapshot that the service compares. -/
structure ProductSnapshot where
  productId : Option ProductId
  variantId : VariantId
  inventoryId : InventoryId
  planogramVersion : PlanogramVersionName
  slotId : SlotId
  vendingCommandQuantity : Nat
  deriving Repr, DecidableEq

/-- An order line; its check constraint is a field. -/
structure OrderItem where
  id : OrderItemId
  orderId : OrderId
  variantId : VariantId
  inventoryId : InventoryId
  slotId : SlotId
  quantity : Nat
  unitPriceCents : Nat
  productSnapshot : ProductSnapshot
  fulfillmentStatus : OrderLineFulfillmentStatus
  refundStatus : OrderLineRefundStatus
  refundId : Option RefundId
  quantityPositive : 0 < quantity
  deriving Repr, DecidableEq

structure PaymentProvider where
  code : PaymentProviderCode
  enabled : Bool
  deriving Repr, DecidableEq

/-- A lease on a row: its fence grows with every claim. -/
structure Lease where
  ownerToken : Option Nat
  expiresAt : Option Time
  fence : Nat
  deriving Repr, DecidableEq

/-- Why the service keeps a payment as it is, or closed it. -/
inductive PaymentFailedReason where
  | providerTradeNotExist
  | providerTradeRetryClaimed
  | other (text : String)
  deriving Repr, DecidableEq

structure Payment where
  id : PaymentId
  orderId : OrderId
  providerCode : PaymentProviderCode
  method : PaymentMethod
  status : PaymentStatus
  amountCents : Nat
  providerTradeNo : Option String
  paymentUrl : Option String
  expiresAt : Option Time
  failedReason : Option PaymentFailedReason
  intentCreationLease : Lease
  deriving Repr, DecidableEq

inductive PaymentCodeAttemptStatus where
  | created
  | submitting
  | userConfirming
  | querying
  | succeeded
  | failed
  | reversing
  | reversed
  | unknown
  | reversalUnknown
  | manualHandling
  | canceled
  deriving Repr, DecidableEq

/-- A code that a customer presented for a payment. -/
structure PaymentCodeAttempt where
  id : Nat
  paymentId : PaymentId
  orderId : OrderId
  idempotencyKey : Nat
  status : PaymentCodeAttemptStatus
  isActive : Bool
  recoveryLease : Lease
  recoveryNextAt : Option Time
  deriving Repr, DecidableEq

/-- Event identifiers: the service makes its own, a provider names the rest. -/
inductive PaymentEventName where
  | mockSucceed (paymentNo : PaymentId)
  | mockFail (paymentNo : PaymentId)
  | expired (paymentNo : PaymentId)
  | machineCancel (paymentNo : PaymentId)
  | createFailed (paymentNo : PaymentId)
  | named (text : String)
  deriving Repr, DecidableEq

structure PaymentEvent where
  providerCode : PaymentProviderCode
  providerEventId : PaymentEventName
  paymentId : PaymentId
  deriving Repr, DecidableEq

structure Refund where
  id : RefundId
  paymentId : PaymentId
  orderId : OrderId
  amountCents : Nat
  status : RefundStatus
  reason : RefundReason
  updatedAt : Time
  deriving Repr, DecidableEq

inductive RefundEventType where
  | created
  | processing
  | requestUncertain
  | succeeded
  | failed
  deriving Repr, DecidableEq

structure RefundEvent where
  id : Nat
  refundId : RefundId
  eventType : RefundEventType
  deriving Repr, DecidableEq

structure SlotPayload where
  rowNo : Nat
  cellNo : Nat
  deriving Repr, DecidableEq

/-- Why a compensation command was issued. -/
structure DispenseRecoveryPayload where
  originalCommandNo : CommandId
  note : String
  deriving Repr, DecidableEq

structure DispenseCommandPayload where
  commandNo : CommandId
  orderNo : OrderId
  slot : SlotPayload
  quantity : Nat
  timeoutSeconds : Nat
  recovery : Option DispenseRecoveryPayload
  deriving Repr, DecidableEq

structure VendingCommand where
  id : CommandId
  orderId : OrderId
  machineId : MachineId
  slotId : SlotId
  orderItemId : Option OrderItemId
  commandKind : VendingCommandKind
  recoveryActionId : Option Nat
  payloadJson : DispenseCommandPayload
  status : VendingCommandStatus
  sentAt : Option Time
  ackAt : Option Time
  resultAt : Option Time
  lastError : Option String
  deriving Repr, DecidableEq

/-- The mapping that the machine believed in when it moved stock. -/
structure SlotMappingSnapshot where
  capacity : Nat
  inventoryId : Option InventoryId
  variantId : Option VariantId
  deriving Repr, DecidableEq

/-- The order line that a dispense movement belongs to. -/
structure MovementOrderContext where
  orderNo : OrderId
  orderItemId : OrderItemId
  vendingCommandNo : CommandId
  inventoryId : InventoryId
  deriving Repr, DecidableEq

structure RawMachineStockMovement where
  movementId : MovementName
  planogramVersion : PlanogramVersionName
  slotId : SlotId
  movementType : RawMovementType
  quantity : Nat
  beforeQuantity : Option Nat
  afterQuantity : Option Nat
  slotMappingSnapshot : Option SlotMappingSnapshot
  source : RawMovementSource
  attributedTo : Option String
  orderContext : Option MovementOrderContext
  occurredAt : Time
  deriving Repr, DecidableEq

/-- The four columns that record why a movement awaits review. -/
structure Reconciliation where
  reconciliationReason : MachineStockReconciliationReason
  platformReviewStatus : PlatformReviewStatus
  saleSafetyBlockerState : Option SaleSafetyBlockerState
  saleSafetyBlockerSlotId : Option SlotId
  deriving Repr, DecidableEq

/-- A stored movement.  The payload stands for its collision-free hash. -/
structure StoredRawMachineStockMovement where
  machineId : MachineId
  movementId : MovementName
  payload : RawMachineStockMovement
  status : RawMovementStatus
  reconciliation : Option Reconciliation
  deriving Repr, DecidableEq

structure RawMovementConflict where
  id : Nat
  machineId : MachineId
  movementId : MovementName
  payload : RawMachineStockMovement
  reconciliation : Reconciliation
  deriving Repr, DecidableEq

/-- A processed message of a machine. -/
structure MachineEvent where
  machineId : MachineId
  messageId : MessageId
  deriving Repr, DecidableEq

/-- The tables; the key of each is its unique index. -/
structure Db where
  machines : Table MachineRecord MachineRecord.id
  machineSlots : Table MachineSlot MachineSlot.id
  products : Table Product Product.id
  productVariants : Table ProductVariant ProductVariant.id
  machinePlanogramVersions :
    Table MachinePlanogramVersion MachinePlanogramVersion.id
  machinePlanogramSlots : Table MachinePlanogramSlot
    (fun slot => (slot.machinePlanogramVersionId, slot.slotId))
  inventories : Table Inventory Inventory.id
  inventoryReservations : Table InventoryReservation InventoryReservation.id
  inventoryMovements : Table InventoryMovement InventoryMovement.id
  orders : Table Order Order.id
  orderItems : Table OrderItem OrderItem.id
  paymentProviders : Table PaymentProvider PaymentProvider.code
  payments : Table Payment Payment.id
  paymentCodeAttempts : Table PaymentCodeAttempt PaymentCodeAttempt.id
  paymentEvents : Table PaymentEvent
    (fun event => (event.providerCode, event.providerEventId))
  refunds : Table Refund Refund.id
  refundEvents : Table RefundEvent RefundEvent.id
  vendingCommands : Table VendingCommand VendingCommand.id
  machineRawStockMovements : Table StoredRawMachineStockMovement
    (fun stored => (stored.machineId, stored.movementId))
  machineRawStockMovementConflicts :
    Table RawMovementConflict RawMovementConflict.id
  machineEvents : Table MachineEvent
    (fun event => (event.machineId, event.messageId))
  deriving DecidableEq

/-- A database without rows. -/
def Db.empty : Db where
  machines := .empty
  machineSlots := .empty
  products := .empty
  productVariants := .empty
  machinePlanogramVersions := .empty
  machinePlanogramSlots := .empty
  inventories := .empty
  inventoryReservations := .empty
  inventoryMovements := .empty
  orders := .empty
  orderItems := .empty
  paymentProviders := .empty
  payments := .empty
  paymentCodeAttempts := .empty
  paymentEvents := .empty
  refunds := .empty
  refundEvents := .empty
  vendingCommands := .empty
  machineRawStockMovements := .empty
  machineRawStockMovementConflicts := .empty
  machineEvents := .empty

inductive ServiceError where
  | badRequest (message : String)
  | notFound (message : String)
  | conflict (message : String)
  | unprocessable (message : String)
  | orderBoundDispenseConfirmationFailed (message : String)
  | checkViolation (constraint : String)
  | uniqueViolation (constraint : String)
  | invalidPayload (path : String)
  deriving Repr, DecidableEq

/-- A database transaction of the service. -/
abbrev DrizzleTransaction (Answer : Type) : Type :=
  Transaction Db ServiceError Answer

namespace Lease

/-- The lease of a new row. -/
def unclaimed : Lease where
  ownerToken := none
  expiresAt := none
  fence := 0

/-- A claim takes the next fence. -/
def claim (lease : Lease) (ownerToken : Nat) (expiresAt : Time) : Lease where
  ownerToken := some ownerToken
  expiresAt := some expiresAt
  fence := lease.fence + 1

/-- Giving up a lease keeps its fence. -/
def clear (lease : Lease) : Lease where
  ownerToken := none
  expiresAt := none
  fence := lease.fence

/-- The claim is still in force. -/
def heldBy
    (lease : Lease)
    (ownerToken fence : Nat)
    (now : Time) : Bool :=
  lease.ownerToken = some ownerToken && lease.fence = fence &&
    lease.expiresAt.any (now < ·)

end Lease

/-- Serialises machine-local mutations; the machine must exist. -/
def lockMachineForVendingMutation (machineId : MachineId) :
    DrizzleTransaction Unit := do
  let db ← get
  Transaction.require (db.machines.find? machineId).isSome
    (.notFound "Machine not found")

def lockOrderForVendingMutation (orderId : OrderId) :
    DrizzleTransaction Unit := do
  let db ← get
  Transaction.require (db.orders.find? orderId).isSome
    (.notFound "Order not found")

def lockInventoriesForVendingMutation (inventoryIds : List InventoryId) :
    DrizzleTransaction Unit := do
  let db ← get
  Transaction.require
    (inventoryIds.all fun id => (db.inventories.find? id).isSome)
    (.notFound "Inventory not found")

section Locks

open Transaction

variable {before after : Db} {answer : Unit}

@[simp] theorem commits_lockMachine
    {machineId : MachineId} :
    Commits (lockMachineForVendingMutation machineId) before answer after ↔
      (before.machines.find? machineId).isSome = true ∧ after = before := by
  simp [lockMachineForVendingMutation, and_comm]

@[simp] theorem commits_lockOrder
    {orderId : OrderId} :
    Commits (lockOrderForVendingMutation orderId) before answer after ↔
      (before.orders.find? orderId).isSome = true ∧ after = before := by
  simp [lockOrderForVendingMutation, and_comm]

@[simp] theorem commits_lockInventories
    {inventoryIds : List InventoryId} :
    Commits (lockInventoriesForVendingMutation inventoryIds)
        before answer after ↔
      (∀ id ∈ inventoryIds, (before.inventories.find? id).isSome = true) ∧
        after = before := by
  simp [lockInventoriesForVendingMutation, and_comm]

end Locks

end VendingSystem.Platform
