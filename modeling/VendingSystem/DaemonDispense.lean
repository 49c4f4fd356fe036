import VendingSystem.DaemonStock
import Mathlib.Data.List.Sort

namespace VendingSystem.Daemon

/-!
# Durable steps of a dispense command

One definition for each transaction or statement that handling, replaying and
recovering a dispense command performs on the store, and for each the lemma
that says what a successful execution did.
-/

/-- The log row of a command. -/
def Store.getCommand (store : Store) (commandNo : CommandNo) :
    Option CommandLogRecord :=
  store.commandLog.find? commandNo

/-- Log the command, enqueue its acknowledgement and mark it acknowledged. -/
def recordCommandAck
    (store : Store)
    (command : DispenseCommandPayload)
    (now : Time) : Store :=
  let enqueued := insertOutbox (upsertCommandReceived store command now)
    (OutboxEvent.commandAck command.commandNo now)
  { enqueued with
    commandLog := enqueued.commandLog.updateWhere
      (fun record =>
        record.commandNo == command.commandNo &&
          (record.status == .received || record.status == .acknowledged))
      (fun record =>
        { record with
          status := .acknowledged
          ackAt := some now
          updatedAt := now }) }

def markCommandDispensing
    (store : Store)
    (commandNo : CommandNo)
    (now : Time) : Store :=
  { store with
    commandLog := store.commandLog.updateWhere
      (fun record =>
        record.commandNo == commandNo && record.status == .acknowledged)
      (fun record =>
        { record with
          status := .dispensing
          dispensingStartedAt := some now
          updatedAt := now }) }

/--
Journal the controller's result, once.  A command that already has a result
keeps it, and the transaction is rolled back.
-/
def recordCommandResultJournal
    (store : Store)
    (command : DispenseCommandPayload)
    (result : DispenseResultPayload)
    (now : Time) : Store × Bool :=
  let received := upsertCommandReceived store command now
  if ((received.getCommand command.commandNo).bind
      CommandLogRecord.resultPayload).isSome then
    (store, false)
  else
    ({ received with
      commandLog := received.commandLog.modify command.commandNo
        (fun record =>
          { record with
            status := if result.success then .succeeded else .failed
            resultPayload := some result
            errorCode := result.errorCode
            errorMessage := some result.message
            updatedAt := now }) }, true)

/--
Take a successful dispense off the slot at the command's coordinate, under the
movement identifier of the command.  A movement already recorded under it is
not repeated.
-/
def applyDispenseSuccessToLocalStock
    (store : Store)
    (command : DispenseCommandPayload)
    (preferred : PlanogramVersion × SlotId)
    (now : Time) : Except StoreError Store :=
  let counted := fun slot : PlanogramSlot =>
    store.isActiveSlot slot && slot.rowNo == command.slot.rowNo &&
      slot.cellNo == command.slot.cellNo &&
      (store.projectionOf slot.planogramVersion slot.slotId).isSome
  match store.machinePlanogramSlots.anyRow counted preferred with
  | none => .error (.invalidStockInput
      s!"dispense coordinates ({command.slot.rowNo},{command.slot.cellNo}) are missing from the active counted planogram")
  | some slot =>
    if (store.stockMovements.find?
        (.dispense command.commandNo)).isSome then
      .ok store
    else
      let physicalStock :=
        ((store.projectionOf slot.planogramVersion slot.slotId).map
          StockProjection.physicalStock).getD 0
      let afterQuantity := physicalStock - command.quantity
      if afterQuantity < 0 then
        .error (.invalidStockInput
          s!"dispense quantity exceeds counted stock for coordinates ({command.slot.rowNo},{command.slot.cellNo})")
      else
        let recorded : Store :=
          { store with
            stockMovements := store.stockMovements.insertOrIgnore
              { movementId := .dispense command.commandNo
                planogramVersion := slot.planogramVersion
                slotId := slot.slotId
                movementType := .dispenseSucceeded
                quantity := command.quantity
                beforeQuantity := physicalStock
                afterQuantity := afterQuantity
                source := .vendingCommand
                attributedTo := some command.commandNo
                occurredAt := now } }
        upsertSaleViewProjection
          (upsertStockProjection recorded slot.planogramVersion slot.slotId
            afterQuantity slot.capacity false now)
          slot.planogramVersion slot.slotId now

def markCommandSideEffectsCommitted
    (store : Store)
    (commandNo : CommandNo)
    (now : Time) : Store :=
  { store with
    commandLog := store.commandLog.modify commandNo
      (fun record => { record with sideEffectsCommittedAt := some now }) }

/-- The backend status of a session whose stored status is absent. -/
def BackendStatus.blank : BackendStatus where
  orderStatus := none
  fulfillmentState := none
  nextAction := none
  payment := none
  paymentMethod := none
  paymentProviderCode := none
  expiresAt := none
  paymentCodeAttempt := none
  vending := none

/-- The vending part of a backend status that has none. -/
def BackendVending.blank : BackendVending where
  commandNo := none
  status := none
  resultAt := none
  lastError := none
  fulfillmentProgressStage := none
  pickupReminder := none

def patchBackendStatusForDispenseResult
    (status : BackendStatus)
    (command : DispenseCommandPayload)
    (result : DispenseResultPayload) : BackendStatus :=
  { status with
    orderStatus :=
      some (if result.success then "fulfilled" else "dispense_failed")
    fulfillmentState :=
      some (if result.success then "dispensed" else "dispense_failed")
    nextAction :=
      some (if result.success then "success" else "dispense_failed")
    vending := some
      { status.vending.getD .blank with
        commandNo := some command.commandNo
        status := some (if result.success then "succeeded" else "failed")
        resultAt := some result.reportedAt
        lastError := if result.success then none else some result.message
        pickupReminder := none } }

/-- Close an order session with the outcome of its command. -/
def closeOrderSession
    (store : Store)
    (command : DispenseCommandPayload)
    (result : DispenseResultPayload)
    (now : Time) : Store :=
  { store with
    orderSessions := store.orderSessions.modify command.orderNo
      (fun session =>
        { session with
          status := if result.success then "succeeded" else "failed"
          nextAction :=
            if result.success then "success" else "dispense_failed"
          lastBackendStatus := some (patchBackendStatusForDispenseResult
            (session.lastBackendStatus.getD .blank) command result)
          updatedAt := now }) }

/-- The command that an order session's backend status names. -/
def OrderSession.currentCommandNo (session : OrderSession) :
    Option CommandNo :=
  ((session.lastBackendStatus.getD .blank).vending).bind
    BackendVending.commandNo

/--
Project a journaled result into the ledger, the outbox and the order session,
in one transaction.  The flag tells whether the call changed something that
was still outstanding.
-/
def commitJournaledDispenseSideEffects
    (store : Store)
    (command : DispenseCommandPayload)
    (result : DispenseResultPayload)
    (preferred : PlanogramVersion × SlotId)
    (now : Time) : Except StoreError (Store × Bool) :=
  match (store.getCommand command.commandNo).bind
      CommandLogRecord.resultPayload with
  | none => .error (.invalidStockInput
      "dispense result side effects require a durable controller result journal")
  | some journaled =>
    if journaled ≠ result then
      .error (.invalidStockInput "dispense result journal is immutable")
    else
      let resultEvent := OutboxEvent.dispenseResult result now
      let outboxExisted :=
        (store.outboxEvents.find? resultEvent.id).isSome
      let movementExisted :=
        (store.stockMovements.find? (.dispense command.commandNo)).isSome
      match store.orderSessions.find? command.orderNo with
      | none =>
        if result.success then
          .error (.invalidStockInput
            "dispense result order session is missing")
        else
          .ok (markCommandSideEffectsCommitted
            (insertOutbox store resultEvent) command.commandNo now,
            !outboxExisted)
      | some session =>
        if session.currentCommandNo ≠ some command.commandNo then
          .error (.invalidStockInput
            "dispense result does not belong to the order session's current command")
        else
          let stocked :=
            if result.success then
              applyDispenseSuccessToLocalStock store command preferred now
            else .ok store
          stocked.map fun stocked =>
            (markCommandSideEffectsCommitted
              (closeOrderSession (insertOutbox stocked resultEvent)
                command result now)
              command.commandNo now,
              !outboxExisted || (result.success && !movementExisted) ||
                session.nextAction == "dispensing")

/-- The hold that a dispense failure asks for. -/
def dispenseFailureSlotSalesState (errorCode : Option String) :
    SlotSalesState :=
  if errorCode = some "NO_DROP" then .suspect else .frozen

/-- Record the whole-machine maintenance lock of a failed command. -/
def putWholeMachineMaintenanceLock
    (store : Store)
    (command : DispenseCommandPayload)
    (result : DispenseResultPayload)
    (slotId : SlotId)
    (now : Time) : Store :=
  { store with
    wholeMachineMaintenanceLock := some
      { code := "WHOLE_MACHINE_HARDWARE_FAULT"
        message :=
          if result.message.toList.all Char.isWhitespace then
            "dispense hardware fault requires operator reset"
          else result.message
        source := "dispense_failure"
        orderNo := command.orderNo
        commandNo := command.commandNo
        slotId := slotId
        errorCode := result.errorCode
        createdAt := now } }

/-- Rows that pruning may delete: without a result, or fully committed. -/
def CommandLogRecord.prunable (record : CommandLogRecord) : Bool :=
  record.resultPayload.isNone || record.sideEffectsCommittedAt.isSome

/-- The prunable rows beyond the newest ones that the log retains. -/
def oversizeCommandNos (log : List CommandLogRecord) : List CommandNo :=
  (((log.filter CommandLogRecord.prunable).insertionSort
    (fun first second => second.updatedAt ≤ first.updatedAt)).drop
      commandLogMaxEntries).map CommandLogRecord.commandNo

/-- Delete expired rows, then the oldest rows beyond the log's size. -/
def pruneCommandLog (store : Store) (now : Time) : Store :=
  let unexpired := store.commandLog.deleteWhere
    (fun record => decide (record.expiresAt < now) && record.prunable)
  { store with
    commandLog := unexpired.deleteWhere
      (fun record =>
        (oversizeCommandNos unexpired.rows).contains record.commandNo) }

def dispenseLocalTimeoutGraceSeconds : Nat := 15
def dispenseRestartRecoveryGraceSeconds : Nat := 30

def commandActiveSince (record : CommandLogRecord) : Option Time :=
  match record.status with
  | .dispensing => some (record.dispensingStartedAt.getD record.updatedAt)
  | .acknowledged => some (record.ackAt.getD record.updatedAt)
  | .received
  | .succeeded
  | .failed => none

/-- The command outlived its timeout and both grace periods. -/
def isStaleForRestartRecovery (record : CommandLogRecord) (now : Time) :
    Bool :=
  (commandActiveSince record).any fun activeSince =>
    decide (activeSince + (max record.commandPayload.timeoutSeconds 1 +
      dispenseLocalTimeoutGraceSeconds +
      dispenseRestartRecoveryGraceSeconds) ≤ now)

def listJournaledCommandsPendingSideEffects (store : Store) :
    List CommandLogRecord :=
  (store.commandLog.rows.filter
    CommandLogRecord.pendingSideEffects).insertionSort
      (fun first second => first.updatedAt ≤ second.updatedAt)

/-- The command is acknowledged or dispensing. -/
def CommandLogRecord.active (record : CommandLogRecord) : Bool :=
  record.status == .acknowledged || record.status == .dispensing

def CommandLogRecord.activeUnfinished (record : CommandLogRecord) : Bool :=
  record.active && record.resultPayload.isNone

/-- Commands that started and have no result. -/
def listActiveUnfinishedCommands (store : Store) : List CommandLogRecord :=
  (store.commandLog.rows.filter
    CommandLogRecord.activeUnfinished).insertionSort
      (fun first second => first.updatedAt ≤ second.updatedAt)

/-- The failure that stale recovery reports for an unfinished command. -/
def unknownDispenseResult (commandNo : CommandNo) (now : Time) :
    DispenseResultPayload where
  commandNo := commandNo
  success := false
  errorCode := some "UNKNOWN"
  message := "dispense result unknown after daemon restart"
  reportedAt := now
  lowerControllerFault := none

/-- The row with which a command enters the log. -/
def receivedRecord (command : DispenseCommandPayload) (now : Time) :
    CommandLogRecord where
  commandNo := command.commandNo
  orderNo := command.orderNo
  commandPayload := command
  status := .received
  ackAt := none
  dispensingStartedAt := none
  resultPayload := none
  errorCode := none
  errorMessage := none
  updatedAt := now
  expiresAt := now + commandLogTtlDays * secondsPerDay
  sideEffectsCommittedAt := none

variable (store : Store) (command : DispenseCommandPayload)

theorem getCommand_upsertCommandReceived
    (now : Time)
    (commandNo : CommandNo) :
    (upsertCommandReceived store command now).getCommand commandNo =
      if commandNo = command.commandNo then
        some ((store.getCommand commandNo).getD
          (receivedRecord command now))
      else store.getCommand commandNo := by
  unfold upsertCommandReceived Store.getCommand
  exact Table.find?_insertOrIgnore _ _ _

/-- The row of a command after its acknowledgement. -/
def CommandLogRecord.acknowledge (record : CommandLogRecord) (now : Time) :
    CommandLogRecord :=
  if record.status == .received || record.status == .acknowledged then
    { record with
      status := .acknowledged
      ackAt := some now
      updatedAt := now }
  else record

theorem getCommand_recordCommandAck
    (now : Time)
    (commandNo : CommandNo) :
    (recordCommandAck store command now).getCommand commandNo =
      if commandNo = command.commandNo then
        some (((store.getCommand commandNo).getD
          (receivedRecord command now)).acknowledge now)
      else store.getCommand commandNo := by
  have received :=
    getCommand_upsertCommandReceived store command now commandNo
  unfold recordCommandAck Store.getCommand at *
  simp only [insertOutbox, Table.find?_updateWhere]
  rw [received]
  by_cases same : commandNo = command.commandNo
  · subst same
    have rowKey :
        ((store.commandLog.find? command.commandNo).getD
          (receivedRecord command now)).commandNo = command.commandNo := by
      cases found : store.commandLog.find? command.commandNo with
      | none => rfl
      | some record => exact Table.key_of_find? found
    simp [CommandLogRecord.acknowledge, rowKey]
  · rw [if_neg same, if_neg same]
    cases found : store.commandLog.find? commandNo with
    | none => rfl
    | some record =>
      have rowKey := Table.key_of_find? found
      simp [rowKey, same]

/-- The row of a command after dispensing was marked. -/
def CommandLogRecord.startDispensing
    (record : CommandLogRecord)
    (now : Time) : CommandLogRecord :=
  if record.status == .acknowledged then
    { record with
      status := .dispensing
      dispensingStartedAt := some now
      updatedAt := now }
  else record

theorem getCommand_markCommandDispensing
    (marked : CommandNo)
    (now : Time)
    (commandNo : CommandNo) :
    (markCommandDispensing store marked now).getCommand commandNo =
      (store.getCommand commandNo).map fun record =>
        if commandNo = marked then record.startDispensing now
        else record := by
  unfold markCommandDispensing Store.getCommand
  rw [Table.find?_updateWhere]
  cases found : store.commandLog.find? commandNo with
  | none => rfl
  | some record =>
    have rowKey := Table.key_of_find? found
    by_cases same : commandNo = marked
    · simp [rowKey, same, CommandLogRecord.startDispensing]
    · simp [rowKey, same]

/-- The row of a command after its result was journaled. -/
def CommandLogRecord.finish
    (record : CommandLogRecord)
    (result : DispenseResultPayload)
    (now : Time) : CommandLogRecord :=
  { record with
    status := if result.success then .succeeded else .failed
    resultPayload := some result
    errorCode := result.errorCode
    errorMessage := some result.message
    updatedAt := now }

/-- Journaling either finds a result and changes nothing, or writes the first. -/
theorem recordCommandResultJournal_cases
    (result : DispenseResultPayload)
    (now : Time) :
    (∃ record stored, store.getCommand command.commandNo = some record ∧
      record.resultPayload = some stored ∧
      recordCommandResultJournal store command result now =
        (store, false)) ∨
    (((store.getCommand command.commandNo).bind
        CommandLogRecord.resultPayload = none) ∧
      (recordCommandResultJournal store command result now).2 = true ∧
      ∀ commandNo,
        (recordCommandResultJournal store command result now).1.getCommand
            commandNo =
          if commandNo = command.commandNo then
            some (((store.getCommand commandNo).getD
              (receivedRecord command now)).finish result now)
          else store.getCommand commandNo) := by
  have received := getCommand_upsertCommandReceived store command now
  have own := received command.commandNo
  rw [if_pos rfl] at own
  unfold recordCommandResultJournal
  simp only [own, Option.bind_some]
  cases found : store.getCommand command.commandNo with
  | none =>
    right
    refine ⟨rfl, by simp [receivedRecord], ?_⟩
    intro commandNo
    simp only [Option.getD_none, receivedRecord, Option.isSome_none,
      Bool.false_eq_true, ↓reduceIte]
    unfold Store.getCommand at *
    rw [Table.find?_modify, received]
    by_cases same : commandNo = command.commandNo
    · subst same
      simp [found, CommandLogRecord.finish, receivedRecord]
    · simp [same]
  | some record =>
    cases stored : record.resultPayload with
    | some result =>
      left
      exact ⟨record, result, rfl, stored, by simp [stored]⟩
    | none =>
      right
      refine ⟨by simp [stored], by simp [stored], ?_⟩
      intro commandNo
      simp only [Option.getD_some, stored, Option.isSome_none,
        Bool.false_eq_true, ↓reduceIte]
      unfold Store.getCommand at *
      rw [Table.find?_modify, received]
      by_cases same : commandNo = command.commandNo
      · subst same
        simp [found, CommandLogRecord.finish]
      · simp [same]

theorem recordCommandResultJournal_frame
    (result : DispenseResultPayload)
    (now : Time) :
    (recordCommandResultJournal store command result now).1 =
      { store with
        commandLog :=
          (recordCommandResultJournal store command result now).1.commandLog
      } := by
  unfold recordCommandResultJournal
  simp only
  split <;> rfl

end VendingSystem.Daemon
