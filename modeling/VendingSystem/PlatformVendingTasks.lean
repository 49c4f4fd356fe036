import VendingSystem.PlatformDispenseResults
import VendingSystem.Service

namespace VendingSystem.Platform

/-!
# The vending operations as tasks

They are cut where the service leaves the database.  A command is read for
publication by its status alone.  A reported success is confirmed by a stock
movement, which is a task of its own.
-/

/-- The commands of an order that wait for their publication. -/
def Db.pendingCommandsOfOrder (db : Db) (orderId : OrderId) :
    List VendingCommand :=
  db.vendingCommands.rows.filter fun command =>
    command.orderId = orderId && command.status = .pending

/-- The orders that have a command waiting for its publication. -/
def Db.ordersWithPendingCommands (db : Db) : List OrderId :=
  ((db.vendingCommands.rows.filter fun command =>
    command.status = .pending).map VendingCommand.orderId).dedup

/-- A command that could not be published stays pending with its error. -/
def recordPendingCommandDispatchFailure
    (commandId : CommandId)
    (error : String) : DrizzleTransaction Unit := do
  let db ← get
  match db.vendingCommands.find? commandId with
  | none => pure ()
  | some command => do
      lockMachineForVendingMutation command.machineId
      lockOrderForVendingMutation command.orderId
      modify fun db =>
        { db with
          vendingCommands := db.vendingCommands.updateWhere
            (fun row => row.id = commandId && row.status = .pending)
            (fun row => { row with lastError := some error }) }

/-- What a step takes from outside the database. -/
structure VendingInput where
  now : Time
  publishError : Option String
  faultSlot : Bool
  preferred : OrderItem → Nat

inductive VendingTask where
  -- publication
  | dispatchPendingCommands
  | dispatchPendingCommandsForOrder (orderId : OrderId)
  | publishing (command : VendingCommand)
  | markingSent (commandId : CommandId)
  | recordingFailure (commandId : CommandId) (error : String)
  -- messages of a machine
  | commandAck (machineId : MachineId) (commandId : CommandId)
  | dispenseResult (delivery : DispenseResultDelivery)
  | storingReceipt (delivery : DispenseResultDelivery)
  -- markTimedOutCommands
  | markTimedOutCommands
  | timingOut (command : VendingCommand) (now : Time)
  -- an operator's resolution
  | resolveNotDispensed
      (commandId : CommandId)
      (note : Option String)
      (requestRefund : Bool)
  | resolvingNotDispensed
      (command : VendingCommand)
      (note : Option String)
      (requestRefund : Bool)
  | compensate (input : CompensationInput)
  deriving Repr, DecidableEq

/-- Every other task follows one of these. -/
def VendingTask.starts : VendingTask → Bool
  | .dispatchPendingCommands
  | .dispatchPendingCommandsForOrder _
  | .commandAck _ _
  | .dispenseResult _
  | .markTimedOutCommands
  | .resolveNotDispensed _ _ _
  | .compensate _ => true
  | _ => false

def DispenseResultDelivery.afterContext
    (delivery : DispenseResultDelivery) :
    DispenseResultContext → List VendingTask
  | .success _ => [.storingReceipt delivery]
  | _ => []

/-- The next step of a task: one transaction, and what follows it. -/
def VendingTask.perform :
    VendingTask → VendingInput → DrizzleTransaction (List VendingTask)
  | .dispatchPendingCommands, _ => do
      let db ← get
      pure
        (db.ordersWithPendingCommands.map .dispatchPendingCommandsForOrder)
  | .dispatchPendingCommandsForOrder orderId, _ => do
      let db ← get
      pure ((db.pendingCommandsOfOrder orderId).map .publishing)
  | .publishing command, input =>
    match input.publishError with
    | none => pure [.markingSent command.id]
    | some error => pure [.recordingFailure command.id error]
  | .markingSent commandId, input => do
      markPendingCommandSent commandId input.now
      pure []
  | .recordingFailure commandId error, _ => do
      recordPendingCommandDispatchFailure commandId error
      pure []
  | .commandAck machineId commandId, input => do
      handleCommandAck machineId commandId input.now
      pure []
  | .dispenseResult delivery, input => do
      let context ← receiveDispenseResult delivery input.preferred input.now
      pure (delivery.afterContext context)
  | .storingReceipt delivery, _ => do
      insertDispenseResultInboxEvent delivery.machineId delivery.messageId
      pure []
  | .markTimedOutCommands, input => do
      let db ← get
      pure
        ((db.vendingCommands.rows.filter fun command =>
          command.isOverdue input.now).map fun command =>
            .timingOut command input.now)
  | .timingOut command now, _ => do
      let _ ← markTimedOutCommand command now
      pure []
  | .resolveNotDispensed commandId note requestRefund, _ => do
      let db ← get
      let command ← Transaction.requireSome
        (db.vendingCommands.find? commandId)
        (.notFound "Vending command not found")
      pure [.resolvingNotDispensed command note requestRefund]
  | .resolvingNotDispensed command note requestRefund, input => do
      let _ ← resolveCommandAsNotDispensed command note requestRefund
        input.faultSlot input.preferred input.now
      pure []
  | .compensate compensation, input => do
      createCompensationDispenseCommand compensation input.now
      pure [.dispatchPendingCommandsForOrder compensation.orderId]

/-- A command that was published but not marked is recorded as failed. -/
def VendingTask.recover : VendingTask → ServiceError → List VendingTask
  | .markingSent commandId, _ => [.recordingFailure commandId "not marked"]
  | _, _ => []

/-- The vending operations of the platform. -/
def vendingService :
    Service Db ServiceError VendingTask VendingInput where
  starts := VendingTask.starts
  perform := VendingTask.perform
  recover := VendingTask.recover

end VendingSystem.Platform
