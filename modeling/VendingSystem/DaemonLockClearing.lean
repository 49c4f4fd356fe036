import VendingSystem.DaemonDispense
import VendingSystem.Service
import VendingSystem.Text

namespace VendingSystem.Daemon

/-!
# Clearing the whole-machine maintenance lock

A fault reset and an explicit request read the lock, wait for evidence of a
recovery and delete whatever is stored then.  Every record carries the number
of the step that made it, which the program does not see.
-/

/-- A record with the number of the step that made it. -/
structure Stamped (Value : Type) where
  value : Value
  step : Nat
  deriving Repr, DecidableEq

/-- What a self-check of the lower controller found. -/
structure HardwareStatus where
  adapter : String
  online : Bool
  message : String
  portPath : Option String
  lowerControllerFault : Option LowerControllerFault
  deriving Repr, DecidableEq

inductive LowerControllerResetStatus where
  | succeeded
  | mechanicalFault
  | pickupPlatformBlocked
  | failed
  | unsupported
  deriving Repr, DecidableEq

/-- What a fault reset of the lower controller reports, but for its time. -/
structure LowerControllerResetResult where
  adapter : String
  status : LowerControllerResetStatus
  message : String
  portPath : Option String
  deriving Repr, DecidableEq

structure WholeMachineMaintenanceLockClearEvidence where
  adapter : String
  online : Bool
  message : String
  portPath : Option String
  checkedAt : Time
  productionDispensePathReady : Bool
  productionDispensePathCode : String
  productionDispensePathMessage : String
  deriving Repr, DecidableEq

abbrev LockEvidence : Type :=
  Stamped WholeMachineMaintenanceLockClearEvidence

abbrev LockRecord : Type :=
  Stamped WholeMachineMaintenanceLock

structure WholeMachineMaintenanceLockClearAudit where
  operatorNote : String
  clearedAt : Time
  previous : LockRecord
  recoveryEvidence : LockEvidence
  deriving Repr, DecidableEq

/-- The stored rows, the clock and the number of steps so far. -/
structure LockStore where
  wholeMachineMaintenanceLock : Option LockRecord
  recoveryEvidence : Option LockEvidence
  clearAudits : List WholeMachineMaintenanceLockClearAudit
  clock : Time
  steps : Nat
  deriving Repr, DecidableEq

/-- A simulated controller is reached over TCP. -/
def isTcpPath (path : String) : Bool :=
  "tcp://".toList.isPrefixOf (trimStart path)

def productionDispensePathReady
    (adapter : String)
    (portPath : Option String) : Bool :=
  adapter = "serial" && portPath.any fun path => !isTcpPath path

def productionDispensePathCode (ready : Bool) : String :=
  if ready then "PRODUCTION_DISPENSE_PATH_READY"
  else "PRODUCTION_DISPENSE_PATH_REQUIRED"

/-- The evidence of a self-check that found the controller online. -/
def selfCheckEvidence
    (status : HardwareStatus)
    (checkedAt : Time) : WholeMachineMaintenanceLockClearEvidence :=
  let ready := productionDispensePathReady status.adapter status.portPath
  { adapter := status.adapter
    online := status.online
    message := status.message
    portPath := status.portPath
    checkedAt
    productionDispensePathReady := ready
    productionDispensePathCode := productionDispensePathCode ready
    productionDispensePathMessage :=
      if ready then
        "lower-controller self-check confirmed a production serial path"
      else
        "lower-controller self-check did not confirm a production serial path" }

def faultResetEvidence
    (reset : LowerControllerResetResult)
    (reportedAt : Time) : WholeMachineMaintenanceLockClearEvidence :=
  let ready := productionDispensePathReady reset.adapter reset.portPath
  { adapter := reset.adapter
    online := true
    message := reset.message
    portPath := reset.portPath
    checkedAt := reportedAt
    productionDispensePathReady := ready
    productionDispensePathCode := productionDispensePathCode ready
    productionDispensePathMessage :=
      if ready then
        "lower-controller fault reset confirmed a production serial path"
      else
        "lower-controller fault reset did not confirm a production serial path" }

/-- The evidence that an explicit request accepts for a lock. -/
def WholeMachineMaintenanceLockClearEvidence.allowsClear
    (evidence : WholeMachineMaintenanceLockClearEvidence)
    (previous : WholeMachineMaintenanceLock) : Bool :=
  !(!evidence.online || evidence.checkedAt < previous.createdAt ||
    !evidence.productionDispensePathReady || evidence.adapter = "mock" ||
    evidence.portPath.any isTcpPath)

def sameWholeMachineFault
    (current previous : WholeMachineMaintenanceLock) : Bool :=
  current.code = previous.code && current.errorCode = previous.errorCode

/--
The lock that the watcher records for a faulty controller.  It names no order,
command or slot; zero stands for the empty text.
-/
def hardwareFaultLock
    (source message : String)
    (errorCode : Option String)
    (now : Time) : WholeMachineMaintenanceLock where
  code := "WHOLE_MACHINE_HARDWARE_FAULT"
  message :=
    if isBlank message then
      "lower controller hardware fault requires operator reset"
    else message
  source := source
  orderNo := 0
  commandNo := 0
  slotId := 0
  errorCode := errorCode
  createdAt := now

/-- The lock of a dispense that failed on shared hardware. -/
def dispenseFailureLock
    (command : DispenseCommandPayload)
    (result : DispenseResultPayload)
    (slotId : SlotId)
    (now : Time) : WholeMachineMaintenanceLock where
  code := "WHOLE_MACHINE_HARDWARE_FAULT"
  message :=
    if isBlank result.message then
      "dispense hardware fault requires operator reset"
    else result.message
  source := "dispense_failure"
  orderNo := command.orderNo
  commandNo := command.commandNo
  slotId := slotId
  errorCode := result.errorCode
  createdAt := now

inductive LockError where
  | selfCheckEvidenceRequired
  | productionDispensePathRequired
  | storeFailed
  deriving Repr, DecidableEq

abbrev LockTransaction (Answer : Type) : Type :=
  Transaction LockStore LockError Answer

/-- What a step takes from outside: the time, the hardware, the planogram. -/
structure LockInput where
  elapsed : Nat
  status : HardwareStatus
  reset : LowerControllerResetResult
  activeSlotId : Option SlotId
  deriving Repr, DecidableEq

inductive LockTask where
  -- run_hardware_health_watcher
  | watchHardware
  | lockingForStatus (message : String)
  -- block_slot_for_dispense_failure
  | dispenseFailed
      (command : DispenseCommandPayload)
      (result : DispenseResultPayload)
  | lockingForDispense
      (command : DispenseCommandPayload)
      (result : DispenseResultPayload)
      (slotId : SlotId)
  -- hardware_self_check
  | hardwareSelfCheck
  | selfChecked (status : HardwareStatus) (step : Nat)
  | storingSelfCheck (evidence : LockEvidence)
  -- fault_reset
  | faultReset (operatorNote : String)
  | resetting (operatorNote : String) (previous : Option LockRecord)
  | storingReset
      (operatorNote : String)
      (previous : Option LockRecord)
      (evidence : LockEvidence)
  | comparingFault
      (operatorNote : String)
      (previous : LockRecord)
      (evidence : LockEvidence)
  -- clear_whole_machine_maintenance_lock
  | clearLock (operatorNote : String)
  | checkingEvidence (operatorNote : String) (previous : LockRecord)
  -- clear_whole_machine_maintenance_lock_with_audit
  | clearing (audit : WholeMachineMaintenanceLockClearAudit)
  deriving Repr, DecidableEq

/-- Every other task follows one of these. -/
def LockTask.starts : LockTask → Bool
  | .watchHardware
  | .dispenseFailed _ _
  | .hardwareSelfCheck
  | .faultReset _
  | .clearLock _ => true
  | _ => false

/-- Time passes and one more step is made. -/
def LockStore.tick (db : LockStore) (elapsed : Nat) : LockStore :=
  { db with
    clock := db.clock + elapsed
    steps := db.steps + 1 }

def recordWholeMachineLock
    (lock : Time → WholeMachineMaintenanceLock) : LockTransaction Unit :=
  modify fun db =>
    { db with
      wholeMachineMaintenanceLock :=
        some { value := lock db.clock, step := db.steps } }

def recordLockRecoveryEvidence
    (evidence : LockEvidence) : LockTransaction Unit :=
  modify fun db => { db with recoveryEvidence := some evidence }

/-- Delete the stored lock, whichever it is, with the audit of another. -/
def clearLockWithAudit
    (audit : WholeMachineMaintenanceLockClearAudit) : LockTransaction Unit :=
  modify fun db =>
    { db with
      clearAudits := db.clearAudits ++ [audit]
      wholeMachineMaintenanceLock := none }

/-- The status names a fault of shared hardware. -/
def HardwareStatus.locksMachine (status : HardwareStatus) : Bool :=
  status.lowerControllerFault.any
    LowerControllerFault.requiresWholeMachineLock

/-- The audit of a removal. -/
def clearAudit
    (operatorNote : String)
    (previous : LockRecord)
    (recoveryEvidence : LockEvidence)
    (clearedAt : Time) : WholeMachineMaintenanceLockClearAudit where
  operatorNote := trim operatorNote
  clearedAt := clearedAt
  previous := previous
  recoveryEvidence := recoveryEvidence

/-- The next step of a task. -/
def LockTask.act
    (task : LockTask)
    (input : LockInput) : LockTransaction (List LockTask) :=
  match task with
  | .watchHardware =>
    pure
      (if input.status.locksMachine then
        [.lockingForStatus input.status.message]
      else [])
  | .lockingForStatus message => do
      recordWholeMachineLock
        (hardwareFaultLock "hardware_health_watcher" message (some "JAMMED"))
      pure []
  | .dispenseFailed command result =>
    pure
      (if result.requiresLock then
        input.activeSlotId.toList.map (.lockingForDispense command result)
      else [])
  | .lockingForDispense command result slotId => do
      recordWholeMachineLock (dispenseFailureLock command result slotId)
      pure []
  | .hardwareSelfCheck => do
      let db ← get
      pure
        (if input.status.online then [.selfChecked input.status db.steps]
        else [])
  | .selfChecked status step => do
      let db ← get
      pure
        [.storingSelfCheck
          { value := selfCheckEvidence status db.clock, step }]
  | .storingSelfCheck evidence => do
      recordLockRecoveryEvidence evidence
      pure []
  | .faultReset operatorNote => do
      let db ← get
      pure [.resetting operatorNote db.wholeMachineMaintenanceLock]
  | .resetting operatorNote previous => do
      let db ← get
      pure
        (if input.reset.status = .succeeded then
          [.storingReset operatorNote previous
            { value := faultResetEvidence input.reset db.clock
              step := db.steps }]
        else [])
  | .storingReset operatorNote previous evidence => do
      recordLockRecoveryEvidence evidence
      pure
        (previous.toList.map fun previous =>
          .comparingFault operatorNote previous evidence)
  | .comparingFault operatorNote previous evidence => do
      let db ← get
      match db.wholeMachineMaintenanceLock.filter
          (fun current =>
            sameWholeMachineFault current.value previous.value) with
      | some _ =>
        pure
          [.clearing (clearAudit operatorNote previous evidence db.clock)]
      | none => pure []
  | .clearLock operatorNote => do
      let db ← get
      pure
        (db.wholeMachineMaintenanceLock.toList.map
          (.checkingEvidence operatorNote))
  | .checkingEvidence operatorNote previous => do
      let db ← get
      let evidence ← Transaction.requireSome db.recoveryEvidence
        .selfCheckEvidenceRequired
      Transaction.require (evidence.value.allowsClear previous.value)
        .productionDispensePathRequired
      pure [.clearing (clearAudit operatorNote previous evidence db.clock)]
  | .clearing audit => do
      clearLockWithAudit audit
      pure []

def LockTask.perform
    (task : LockTask)
    (input : LockInput) : LockTransaction (List LockTask) := do
  modify fun db => db.tick input.elapsed
  task.act input

/-- The handlers and the watcher, interleaved at the store. -/
def lockService : Service LockStore LockError LockTask LockInput where
  starts := LockTask.starts
  perform := LockTask.perform
  recover _ _ := []

end VendingSystem.Daemon
