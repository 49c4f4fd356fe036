import VendingSystem.PlatformStock

namespace VendingSystem.Platform

/-!
# Dispense results

A failure settles the command, releases its reservation and stages the refund
in one transaction; an unknown result parks the command for an operator; a
success is confirmed afterwards through a stock movement.
-/

inductive HardwareErrorCode where
  | noDrop
  | jammed
  | doorOpen
  | motorTimeout
  | unknown
  deriving Repr, DecidableEq

/-- A machine's signed report about one command. -/
structure DispenseResultPayload where
  commandNo : CommandId
  success : Bool
  errorCode : Option HardwareErrorCode
  message : String
  reportedAt : Time
  deriving Repr, DecidableEq

/-- The inbox keeps one row per message. -/
def insertDispenseResultInboxEvent
    (machineId : MachineId)
    (messageId : MessageId) : DrizzleTransaction Unit :=
  modify fun db =>
    { db with
      machineEvents :=
        db.machineEvents.insertOrIgnore { machineId, messageId } }

inductive FailedLineRefundDecision where
  | noRefund
  | fullRefund
  | partialRefund (orderItemIds : List OrderItemId) (amountCents : Nat)
  deriving Repr, DecidableEq

/-- The lines failed and await their refund. -/
def markLinesFailed (orderItemIds : List OrderItemId) :
    DrizzleTransaction Unit :=
  modify fun db =>
    { db with
      orderItems := db.orderItems.updateWhere
        (fun line => line.id ∈ orderItemIds)
        (fun line =>
          { line with
            fulfillmentStatus := .dispenseFailed
            refundStatus := .pending }) }

/-- The refund to stage once no line of the order is open. -/
def refundDecision (lines : List OrderItem) : FailedLineRefundDecision :=
  let failed := lines.filter fun line =>
    line.fulfillmentStatus = .dispenseFailed
  if lines.any OrderItem.isOpen then .noRefund
  else if failed.length = lines.length then .fullRefund
  else if failed.length > 0 && countLines lines .dispensed > 0 then
    .partialRefund (failed.map OrderItem.id) (linesAmountCents failed)
  else .noRefund

def markOrderLinesFailedAndBuildRefundDecision
    (orderId : OrderId)
    (orderItemId : Option OrderItemId)
    (slotId : SlotId) : DrizzleTransaction FailedLineRefundDecision := do
  let db ← get
  let failedLineIds :=
    (db.affectedLines orderId orderItemId slotId).map OrderItem.id
  if failedLineIds = [] then pure .noRefund
  else do
    markLinesFailed failedLineIds
    syncOrderFulfillmentStateFromLines vendingFulfillmentState orderId
    let db ← get
    pure (refundDecision (db.linesOfOrder orderId))

def stageFailedLineRefund
    (orderId : OrderId)
    (decision : FailedLineRefundDecision)
    (now : Time) : DrizzleTransaction Unit :=
  match decision with
  | .noRefund => pure ()
  | .fullRefund => stageAutomaticFullRefund orderId now
  | .partialRefund orderItemIds amountCents =>
    stageAutomaticPartialRefund orderId orderItemIds amountCents now

/-- Release, mark and refund the line of a command that was just failed. -/
def compensateFailedCommand
    (command : VendingCommand)
    (faultSlot : Bool)
    (requestRefund : Bool)
    (preferred : OrderItem → Nat)
    (now : Time) : DrizzleTransaction FailedLineRefundDecision := do
  releaseAffectedReservationForDispenseFailure command.orderId
    command.orderItemId command.slotId faultSlot preferred
  let decision ← markOrderLinesFailedAndBuildRefundDecision command.orderId
    command.orderItemId command.slotId
  stageFailedLineRefund command.orderId
    (if requestRefund then decision else .noRefund) now
  pure decision

/-- The order of a command with an unknown outcome goes to an operator. -/
def moveOrderToManualHandling (orderId : OrderId) :
    DrizzleTransaction Unit := do
  let db ← get
  match (db.orders.find? orderId).filter
      (fun order => order.status ≠ .manualHandling) with
  | none => pure ()
  | some order =>
    modify fun db =>
      db.setOrderStates orderId
        (projectOrderStatus order.paymentState .manualHandling)
        order.paymentState .manualHandling

/-- The database with one slot taken out of sale. -/
def Db.faultSlot (db : Db) (slotId : SlotId) : Db :=
  { db with
    machineSlots := db.machineSlots.modify slotId
      (fun slot => { slot with status := .faulted })
      (fun slot => Eq.refl slot.id) }

def markDispenseResultUnknown
    (command : VendingCommand)
    (message : String)
    (resultAt : Time)
    (eligibleStatuses : List VendingCommandStatus) :
    DrizzleTransaction Bool := do
  lockMachineForVendingMutation command.machineId
  lockOrderForVendingMutation command.orderId
  let updated ← claimCommand command.id eligibleStatuses .resultUnknown
    (some resultAt) (some message)
  if updated then do
    moveOrderToManualHandling command.orderId
    modify fun db => db.faultSlot command.slotId
    pure true
  else pure false

/-- What the first transaction of a result leaves to do. -/
inductive DispenseResultContext where
  | nothing
  | success (command : VendingCommand)
  | refundRecovery
  | unknown
  | failure (decision : FailedLineRefundDecision)
  deriving Repr, DecidableEq

/-- A result as it reaches the handler, with the policy of its error code. -/
structure DispenseResultDelivery where
  machineId : MachineId
  messageId : MessageId
  payload : DispenseResultPayload
  faultSlot : Bool
  deriving Repr, DecidableEq

/-- A failure that is not about a settled command. -/
def receiveDispenseFailure
    (delivery : DispenseResultDelivery)
    (command : VendingCommand)
    (preferred : OrderItem → Nat)
    (now : Time) : DrizzleTransaction DispenseResultContext := do
  insertDispenseResultInboxEvent delivery.machineId delivery.messageId
  if delivery.payload.errorCode = some .unknown then do
    let changed ← markDispenseResultUnknown command delivery.payload.message
      delivery.payload.reportedAt [.pending, .sent, .acknowledged]
    pure (if changed then .unknown else .nothing)
  else do
    lockOrderForVendingMutation command.orderId
    let updated ← claimCommand command.id unsettledStatuses .failed
      (some now) (some delivery.payload.message)
    if updated then do
      let decision ← compensateFailedCommand command delivery.faultSlot true
        preferred now
      pure (.failure decision)
    else pure .nothing

/-- The first transaction of a delivered result. -/
def receiveDispenseResult
    (delivery : DispenseResultDelivery)
    (preferred : OrderItem → Nat)
    (now : Time) : DrizzleTransaction DispenseResultContext := do
  lockMachineForVendingMutation delivery.machineId
  let db ← get
  match (db.vendingCommands.find? delivery.payload.commandNo).filter
      (fun command => command.machineId = delivery.machineId) with
  | none => do
      insertDispenseResultInboxEvent delivery.machineId delivery.messageId
      pure .nothing
  | some command =>
    if delivery.payload.success then
      match command.status with
      | .succeeded => do
          insertDispenseResultInboxEvent delivery.machineId
            delivery.messageId
          pure .refundRecovery
      | .failed => do
          insertDispenseResultInboxEvent delivery.machineId
            delivery.messageId
          pure .nothing
      | _ => pure (.success command)
    else
      match command.status with
      | .succeeded => do
          insertDispenseResultInboxEvent delivery.machineId
            delivery.messageId
          pure .nothing
      | .failed => do
          insertDispenseResultInboxEvent delivery.machineId
            delivery.messageId
          pure .refundRecovery
      | _ => receiveDispenseFailure delivery command preferred now

/-- The operator found that nothing was dispensed. -/
def resolveCommandAsNotDispensed
    (command : VendingCommand)
    (note : Option String)
    (requestRefund : Bool)
    (faultSlot : Bool)
    (preferred : OrderItem → Nat)
    (now : Time) : DrizzleTransaction FailedLineRefundDecision := do
  lockMachineForVendingMutation command.machineId
  lockOrderForVendingMutation command.orderId
  let updated ← claimCommand command.id
    [.sent, .acknowledged, .resultUnknown, .timeout] .failed (some now)
    (some (note.getD "manual confirmation: not dispensed"))
  if updated then
    compensateFailedCommand command faultSlot requestRefund preferred now
  else do
    Transaction.require (command.status = .failed)
      (.conflict "Command status cannot be resolved as not dispensed")
    pure .noRefund

def VendingCommand.isOverdue (command : VendingCommand) (now : Time) : Bool :=
  (command.status = .sent || command.status = .acknowledged) &&
    match command.ackAt.or command.sentAt with
    | none => false
    | some baseAt =>
      baseAt + (command.payloadJson.timeoutSeconds + 10) ≤ now

/-- Park one command that the sweep found overdue. -/
def markTimedOutCommand
    (command : VendingCommand)
    (now : Time) : DrizzleTransaction Bool :=
  markDispenseResultUnknown command
    "dispense result unknown after command timeout" now
    [.sent, .acknowledged]

end VendingSystem.Platform
