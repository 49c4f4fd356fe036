import VendingSystem.Machine
import VendingSystem.DaemonDispense

namespace VendingSystem.Daemon

/-!
# The daemon as an event machine

The message loop handles one dispense command at a time, so its state is the
next durable step of the command in hand; the periodic journal recovery runs
beside it.  A crash keeps the store and loses both.  Everything the daemon
does not decide is in the event.  Four histories are kept for the statements
about runs; no step reads them.
-/

/-- What a blocking step did for a command. -/
inductive Effect where
  | slotHeld (commandNo : CommandNo) (slotId : SlotId)
  | coordinateAbsent (commandNo : CommandNo)
  | machineLocked (commandNo : CommandNo)
  deriving Repr, DecidableEq

structure StockChange where
  slotId : SlotId
  before : Option Int
  after : Int
  deriving Repr, DecidableEq

/-- The physical stocks that differ between two stores. -/
def stockChanges (before after : Store) : List StockChange :=
  after.currentStockProjection.rows.filterMap fun row =>
    let stored := (before.currentStockProjection.find? row.slotId).map
      StockProjection.physicalStock
    if stored = some row.physicalStock then none
    else some
      { slotId := row.slotId
        before := stored
        after := row.physicalStock }

/-- The durable steps after a result is journaled. -/
inductive SettleStage where
  | commit
  | lockLookup
  | lockWrite (slotId : SlotId)
  | slotLookup
  | slotUpdate (version : PlanogramVersion) (slotId : SlotId)
  deriving Repr, DecidableEq

/-- A journaled result on its way through commit and block. -/
structure Settlement where
  command : DispenseCommandPayload
  result : DispenseResultPayload
  source : String
  stage : SettleStage
  deriving Repr, DecidableEq

/-- The first stage of blocking after a failure was committed. -/
def Settlement.firstBlockStage (work : Settlement) : SettleStage :=
  if work.result.requiresLock then .lockLookup else .slotLookup

/-- The outcome of one durable step of a settlement. -/
inductive SettleOutcome where
  | next (stage : SettleStage)
  | returned
  | refused
  deriving Repr, DecidableEq

/-- One durable step of a settlement: the store after it and its outcome. -/
def settleStep
    (store : Store)
    (work : Settlement)
    (preferred : PlanogramVersion × SlotId)
    (now : Time) : Store × SettleOutcome :=
  match work.stage with
  | .commit =>
    match commitJournaledDispenseSideEffects
        store work.command work.result preferred now with
    | .error _ => (store, .refused)
    | .ok (committed, _) =>
      (committed,
        if work.result.success then .returned
        else .next work.firstBlockStage)
  | .lockLookup =>
    match store.activeSlotByCoordinate work.command.slot preferred with
    | none => (store, .returned)
    | some slot => (store, .next (.lockWrite slot.slotId))
  | .lockWrite slotId =>
    (putWholeMachineMaintenanceLock
      store work.command work.result slotId now, .next .slotLookup)
  | .slotLookup =>
    match store.activeSlotByCoordinate work.command.slot preferred with
    | none => (store, .returned)
    | some slot =>
      (store, .next (.slotUpdate slot.planogramVersion slot.slotId))
  | .slotUpdate version slotId =>
    match updateSlotSalesState store version slotId
        (dispenseFailureSlotSalesState work.result.errorCode)
        work.source now with
    | .error _ => (store, .refused)
    | .ok held => (held, .returned)

/-- The slot's projection is in a dispense hold. -/
def Store.holdsSlot (store : Store) (slotId : SlotId) : Bool :=
  (store.currentStockProjection.find? slotId).any
    (fun row => row.slotSalesState.isDispenseHold)

/-- The maintenance lock names the command. -/
def Store.lockedBy (store : Store) (commandNo : CommandNo) : Bool :=
  store.wholeMachineMaintenanceLock.any
    (fun lock => lock.commandNo == commandNo)

/-- The holds and locks observed after a step of a settlement. -/
def settleEffects
    (work : Settlement)
    (after : Store)
    (outcome : SettleOutcome) : List Effect :=
  match work.stage, outcome with
  | .lockWrite _, .next _ =>
    if after.lockedBy work.command.commandNo then
      [.machineLocked work.command.commandNo]
    else []
  | .slotLookup, .returned => [.coordinateAbsent work.command.commandNo]
  | .slotUpdate _ slotId, .returned =>
    if after.holdsSlot slotId then
      [.slotHeld work.command.commandNo slotId]
    else []
  | _, _ => []

/-- The next durable step of the daemon's main task. -/
inductive MainPhase where
  | down
  | startupJournal (remaining : List CommandLogRecord)
  | startupStale (remaining : List CommandLogRecord)
  | startupSettling
      (work : Settlement)
      (remaining : List CommandLogRecord)
  | idle
  | lookUp (command : DispenseCommandPayload)
  | acknowledge (command : DispenseCommandPayload)
  | markDispensing (command : DispenseCommandPayload)
  | dispense (command : DispenseCommandPayload)
  | awaitHardware (command : DispenseCommandPayload)
  | journal
      (command : DispenseCommandPayload)
      (result : DispenseResultPayload)
  | settling (work : Settlement)
  deriving Repr, DecidableEq

/-- The message loop, and with it the recovery worker, is running. -/
def MainPhase.running : MainPhase → Bool
  | .down
  | .startupJournal _
  | .startupStale _
  | .startupSettling _ _ => false
  | _ => true

/-- The settlement in hand. -/
def MainPhase.settlement : MainPhase → Option Settlement
  | .startupSettling work _
  | .settling work => some work
  | _ => none

/-- The daemon with its volatile tasks and its histories. -/
structure Runtime where
  store : Store
  main : MainPhase
  worker : Option (List CommandLogRecord)
  invocations : List CommandNo
  pruned : List CommandNo
  effects : List Effect
  committedChanges : List (CommandNo × StockChange)
  deriving DecidableEq

/-- A daemon that is not running, over a store, with empty histories. -/
def Runtime.initial (store : Store) : Runtime where
  store := store
  main := .down
  worker := none
  invocations := []
  pruned := []
  effects := []
  committedChanges := []

/-- The log rows of the first store that the second does not have. -/
def deletedCommandNos (before after : Store) : List CommandNo :=
  (before.commandLog.rows.map CommandLogRecord.commandNo).filter
    fun commandNo => (after.getCommand commandNo).isNone

/-- The movement was recorded by a dispense commit. -/
def StockMovement.isDispense (movement : StockMovement) : Bool :=
  match movement.movementId with
  | .dispense _ => true
  | .stockTask _ _ => false

def StockMovementSync.isDispense (sync : StockMovementSync) : Bool :=
  match sync.movementId with
  | .dispense _ => true
  | .stockTask _ _ => false

/--
What the daemon's other activity (planogram application, attestations, platform
snapshots, operator actions, order-session and outbox maintenance) leaves
alone: the command log and the dispense movements, which it never uploads.
-/
def Store.keepsDispenseRecords (before after : Store) : Bool :=
  decide (after.commandLog = before.commandLog) &&
    decide (after.stockMovements.rows.filter StockMovement.isDispense =
      before.stockMovements.rows.filter StockMovement.isDispense) &&
    after.stockMovementSync.rows.all (fun sync => !sync.isDispense)

inductive Event where
  | start (now : Time)
  | deliver (command : DispenseCommandPayload)
  | advance (now : Time) (preferred : PlanogramVersion × SlotId)
  | hardwareAnswers (result : DispenseResultPayload)
  | giveUp
  | crash
  | workerScan
  | workerAdvance (now : Time) (preferred : PlanogramVersion × SlotId)
  | workerGiveUp
  | recordStockMovement
      (input : StockMovementInput) (upload : Bool) (now : Time)
  | pruneStockMovements (protectedIds : List MovementId) (cutoff : Time)
  | otherActivity (after : Store)
  deriving DecidableEq

/-- Store the outcome of a commit and remember the stock it changed. -/
def Runtime.afterCommit
    (daemon : Runtime)
    (commandNo : CommandNo)
    (after : Store) : Runtime :=
  { daemon with
    store := after
    committedChanges := daemon.committedChanges ++
      (stockChanges daemon.store after).map (fun change =>
        (commandNo, change)) }

/-- Commit one journaled record; an error leaves it pending. -/
def Runtime.recoverJournaled
    (daemon : Runtime)
    (record : CommandLogRecord)
    (preferred : PlanogramVersion × SlotId)
    (now : Time) : Runtime :=
  match record.resultPayload with
  | none => daemon
  | some result =>
    match commitJournaledDispenseSideEffects
        daemon.store record.commandPayload result preferred now with
    | .ok (committed, _) =>
      daemon.afterCommit record.commandPayload.commandNo committed
    | .error _ => daemon

/-- One durable step of the settlement in hand, with its histories. -/
def Runtime.settle
    (daemon : Runtime)
    (work : Settlement)
    (preferred : PlanogramVersion × SlotId)
    (now : Time) : Runtime :=
  let stepped := settleStep daemon.store work preferred now
  let committed :=
    if work.stage = .commit then
      daemon.afterCommit work.command.commandNo stepped.1
    else { daemon with store := stepped.1 }
  { committed with
    effects := daemon.effects ++
      settleEffects work stepped.1 stepped.2 }

/-- Whether a logged command is new, finished, active or mismatched. -/
def Runtime.lookUpCommand
    (daemon : Runtime)
    (command : DispenseCommandPayload) : MainPhase :=
  match daemon.store.getCommand command.commandNo with
  | none => .acknowledge command
  | some existing =>
    if existing.commandPayload ≠ command then .idle
    else
      match existing.resultPayload with
      | some result => .settling
          { command := command
            result := result
            source := "dispense_failure"
            stage := .commit }
      | none =>
        if existing.active then .idle
        else .acknowledge command

/-- One durable step of the main task. -/
def Runtime.advance
    (daemon : Runtime)
    (now : Time)
    (preferred : PlanogramVersion × SlotId) : Option Runtime :=
  match daemon.main with
  | .down
  | .idle
  | .awaitHardware _ => none
  | .startupJournal [] =>
    some { daemon with
      main := .startupStale (listActiveUnfinishedCommands daemon.store) }
  | .startupJournal (record :: remaining) =>
    some { daemon.recoverJournaled record preferred now with
      main := .startupJournal remaining }
  | .startupStale [] => some { daemon with main := .idle }
  | .startupStale (record :: remaining) =>
    if isStaleForRestartRecovery record now then
      let result :=
        unknownDispenseResult record.commandPayload.commandNo now
      let journaled := recordCommandResultJournal
        daemon.store record.commandPayload result now
      some { daemon with
        store := journaled.1
        main :=
          if journaled.2 then
            .startupSettling
              { command := record.commandPayload
                result := result
                source := "dispense_result_unknown"
                stage := .commit } remaining
          else .startupStale remaining }
    else some { daemon with main := .startupStale remaining }
  | .startupSettling work remaining =>
    some { daemon.settle work preferred now with
      main :=
        match (settleStep daemon.store work preferred now).2 with
        | .next stage => .startupSettling { work with stage } remaining
        | .returned => .startupStale remaining
        | .refused => .idle }
  | .lookUp command =>
    some { daemon with main := daemon.lookUpCommand command }
  | .acknowledge command =>
    some { daemon with
      store := recordCommandAck daemon.store command now
      main := .markDispensing command }
  | .markDispensing command =>
    some { daemon with
      store := markCommandDispensing daemon.store command.commandNo now
      main := .dispense command }
  | .dispense command =>
    some { daemon with
      invocations := daemon.invocations ++ [command.commandNo]
      main := .awaitHardware command }
  | .journal command result =>
    some { daemon with
      store :=
        (recordCommandResultJournal daemon.store command result now).1
      main := .settling
        { command := command
          result := result
          source := "dispense_failure"
          stage := .commit } }
  | .settling work =>
    some { daemon.settle work preferred now with
      main :=
        match (settleStep daemon.store work preferred now).2 with
        | .next stage => .settling { work with stage }
        | .returned
        | .refused => .idle }

/-- Where an error that ends the current function leaves the main task. -/
def Runtime.giveUp (daemon : Runtime) : Option Runtime :=
  match daemon.main with
  | .down
  | .idle => none
  | .startupJournal _ =>
    some { daemon with
      main := .startupStale (listActiveUnfinishedCommands daemon.store) }
  | _ => some { daemon with main := .idle }

/-- The step function of the daemon. -/
def Runtime.step (daemon : Runtime) : Event → Option Runtime
  | .start now =>
    if daemon.main = .down then
      let store := pruneCommandLog daemon.store now
      some { daemon with
        store := store
        main := .startupJournal
          (listJournaledCommandsPendingSideEffects store)
        pruned := daemon.pruned ++
          deletedCommandNos daemon.store store }
    else none
  | .deliver command =>
    if daemon.main = .idle then
      some { daemon with main := .lookUp command }
    else none
  | .advance now preferred => daemon.advance now preferred
  | .hardwareAnswers result =>
    match daemon.main with
    | .awaitHardware command =>
      some { daemon with main := .journal command result }
    | _ => none
  | .giveUp => daemon.giveUp
  | .crash => some { daemon with main := .down, worker := none }
  | .workerScan =>
    if daemon.main.running ∧ daemon.worker = none then
      some { daemon with
        worker := some
          (listJournaledCommandsPendingSideEffects daemon.store) }
    else none
  | .workerAdvance now preferred =>
    match daemon.worker with
    | none => none
    | some [] => some { daemon with worker := none }
    | some (record :: remaining) =>
      some { daemon.recoverJournaled record preferred now with
        worker := some remaining }
  | .workerGiveUp => some { daemon with worker := none }
  | .recordStockMovement input upload now =>
    match recordStockMovementWithUpload daemon.store input upload now with
    | .ok (recorded, _) => some { daemon with store := recorded }
    | .error _ => some daemon
  | .pruneStockMovements protectedIds cutoff =>
    some { daemon with
      store := pruneAcceptedStockMovementHistory
        daemon.store protectedIds cutoff }
  | .otherActivity after =>
    if daemon.store.keepsDispenseRecords after then
      some { daemon with store := after }
    else none

/-- The daemon and its environment. -/
def machine : Machine Runtime Event where
  step := Runtime.step

/-- The daemon after a run, or its initial state if the run is impossible. -/
def Runtime.after (store : Store) (events : List Event) : Runtime :=
  (machine.run (Runtime.initial store) events).getD (Runtime.initial store)

theorem Runtime.run_after
    {store : Store}
    {events : List Event}
    (possible :
      (machine.run (Runtime.initial store) events).isSome = true) :
    machine.run (Runtime.initial store) events =
      some (Runtime.after store events) := by
  obtain ⟨daemon, run⟩ := Option.isSome_iff_exists.mp possible
  rw [Runtime.after, run, Option.getD_some]

theorem Runtime.step_otherActivity
    {daemon next : Runtime}
    {after : Store}
    (step : daemon.step (.otherActivity after) = some next) :
    next = { daemon with store := after } ∧
      after.commandLog = daemon.store.commandLog ∧
      after.stockMovements.rows.filter StockMovement.isDispense =
        daemon.store.stockMovements.rows.filter StockMovement.isDispense ∧
      after.stockMovementSync.rows.all (fun sync => !sync.isDispense) := by
  simp only [Runtime.step, Store.keepsDispenseRecords, Bool.and_eq_true,
    decide_eq_true_eq, Option.ite_none_right_eq_some] at step
  obtain ⟨⟨⟨commandLog, movements⟩, syncs⟩, same⟩ := step
  cases same
  exact ⟨rfl, commandLog, movements, syncs⟩

/-- A slot at row 2, cell 3 that sells one product. -/
def oneSlotInput : MachinePlanogramSlotInput where
  slotId := 5
  rowNo := 2
  cellNo := 3
  capacity := 10
  parLevel := 2
  inventoryId := 50
  variantId := 60
  productId := 70
  sku := "SKU-60"
  priceCents := 300
  listing :=
    { productName := "Water"
      productDescription := none
      coverImageUrl := none
      categoryId := none
      categoryName := none
      size := none
      color := none
      productSortOrder := 0
      targetGender := none }

/-- One counted slot in the active planogram and one paid order. -/
def oneSlotStore : Store :=
  { Store.empty with
    activePlanogramVersion := some 1
    machinePlanogramVersions := Table.empty.insertOrIgnore
      { planogramVersion := 1
        source := "platform"
        appliedBy := none
        appliedAt := 0 }
    machinePlanogramSlots := Table.empty.insertOrIgnore
      { oneSlotInput with planogramVersion := 1 }
    currentStockProjection := Table.empty.insertOrIgnore
      { planogramVersion := 1
        slotId := 5
        physicalStock := 4
        saleableStock := 4
        slotSalesState := .saleReady
        updatedAt := 0 }
    orderSessions := Table.empty.insertOrIgnore
      { orderNo := 11
        paymentMethod := "payment_code"
        paymentProvider := none
        paymentAttempt := none
        items := [{ slotId := 5, quantity := 1 }]
        status := "paid"
        nextAction := "dispensing"
        expiresAt := none
        lastBackendStatus := some
          { BackendStatus.blank with
            vending := some
              { BackendVending.blank with commandNo := some 1 } }
        lastError := none
        recoveryStrategy := "local"
        updatedAt := 0 } }

/-- The command that dispenses the paid order. -/
def oneSlotCommand : DispenseCommandPayload where
  commandNo := 1
  orderNo := 11
  slot := { rowNo := 2, cellNo := 3 }
  quantity := 1
  timeoutSeconds := 120
  recovery := none

/-- The controller reports a jam of the shared mechanism. -/
def jammedResult : DispenseResultPayload where
  commandNo := 1
  success := false
  errorCode := some "MOTOR_JAM"
  message := "shared mechanism jammed"
  reportedAt := 104
  lowerControllerFault := some .sharedMechanical

/-- The controller reports success. -/
def dispensedResult : DispenseResultPayload where
  commandNo := 1
  success := true
  errorCode := none
  message := "dispensed"
  reportedAt := 104
  lowerControllerFault := none

/-- Consecutive durable steps of the main task. -/
def advances (count : Nat) (now : Time) : List Event :=
  List.replicate count (.advance now (1, 5))

/-- Start, take the command up to the hardware and journal its answer. -/
def journaledRun (result : DispenseResultPayload) : List Event :=
  [.start 100] ++ advances 2 100 ++ [.deliver oneSlotCommand] ++
    advances 4 101 ++ [.hardwareAnswers result] ++ advances 1 105

/-- The one-slot machine with its success journaled and not committed. -/
def dispensedStore : Store :=
  (Runtime.after oneSlotStore (journaledRun dispensedResult)).store

end VendingSystem.Daemon
