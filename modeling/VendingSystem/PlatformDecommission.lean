import VendingSystem.PlatformMachines
import VendingSystem.Service

namespace VendingSystem.Platform

/-!
# Delivering a decommission and handling its result

The delivery loop and the handler of result messages as tasks over the
database.  Each read, each publish and each update is a step of its own; only
the decommission itself and the recording of a result are transactions.
-/

/-- A result message of a machine, as it arrives on the topic of a machine. -/
structure SecureDecommissionReport where
  topicMachineId : MachineId
  machineId : MachineId
  messageCommandNo : CommandId
  issuedAt : Time
  signedWith : Secret
  result : SecureDecommissionResult
  deriving Repr, DecidableEq

/-- How the broker took a publish; a failed one may have gone out. -/
inductive PublishOutcome where
  | accepted
  | failed (error : String) (wentOut : Bool)
  deriving Repr, DecidableEq

structure DecommissionInput where
  now : Time
  publish : PublishOutcome
  deriving Repr, DecidableEq

/-- A delivery works on the command that it read. -/
structure Delivery where
  command : MachineCommand
  topic : CommandTopic
  payload : SignedEnvelope
  now : Time
  deriving Repr, DecidableEq

inductive DecommissionTask where
  | setStatus (machineId : MachineId) (status : MachineStatus)
  -- secureDecommissionMachine
  | decommission (machineId : MachineId)
  -- deliverDueSecureDecommissionCommands
  | deliverDue
  -- deliverSecureDecommissionCommand
  | deliver (commandId : CommandId) (now : Time)
  | readingCredential (delivery : Delivery)
  | timingOut (delivery : Delivery)
  | resigning (delivery : Delivery) (expiresAt : Time)
  | publishing (delivery : Delivery)
  | delivered (delivery : Delivery)
  | notDelivered (delivery : Delivery) (error : String)
  -- handleSecureDecommissionResult
  | reported (report : SecureDecommissionReport)
  | redelivering
      (commandId : CommandId)
      (result : SecureDecommissionResult)
  | recording
      (machineId : MachineId)
      (acknowledgement : SignedEnvelope)
      (result : SecureDecommissionResult)
  deriving Repr, DecidableEq

/-- Every other task follows one of these. -/
def DecommissionTask.starts : DecommissionTask → Bool
  | .setStatus _ _
  | .decommission _
  | .deliverDue
  | .reported _ => true
  | _ => false

abbrev DecommissionStep : Type :=
  MachineTransaction (List DecommissionTask)

def retryDelay : Nat := 10000

/-- The states from which a delivery moves on. -/
def MachineCommandStatus.deliverable : MachineCommandStatus → Bool
  | .pending
  | .sent
  | .failed
  | .timeout => true
  | .acknowledged
  | .succeeded => false

def MachineCommand.isCleanupAcknowledgement
    (command : MachineCommand) : Bool :=
  command.status = .succeeded &&
    command.deliveryTopic.any CommandTopic.isAcknowledgement

def MachineCommand.isDue (command : MachineCommand) (now : Time) : Bool :=
  command.status != .acknowledged && command.deliveryPayload.isSome &&
    command.nextDeliveryAttemptAt.any fun attemptAt =>
      decide (attemptAt ≤ now)

/-- Update one command, or none when its guard is not met. -/
def updateCommand
    (commandId : CommandId)
    (guarded : MachineCommand → Bool)
    (change : MachineCommand → MachineCommand)
    (keepsId : ∀ command, (change command).id = command.id := by
      intro command; rfl) : MachineTransaction Unit :=
  modify fun db =>
    { db with
      machineCommands := db.machineCommands.updateWhere
        (fun command => command.id = commandId && guarded command)
        change keepsId }

/-- Whether a delivery takes place, from the command that it reads. -/
def deliverSecureDecommissionCommand
    (commandId : CommandId)
    (now : Time) : DecommissionStep := do
  let db ← get
  match db.machineCommands.find? commandId with
  | none => pure []
  | some command =>
    match command.deliveryTopic, command.deliveryPayload with
    | some topic, some payload =>
      let delivery := { command, topic, payload, now }
      if command.isCleanupAcknowledgement then
        pure [.publishing delivery]
      else if command.status = .succeeded then pure []
      else if command.deliveryExpiresAt.any fun expiresAt =>
          decide (now < expiresAt) then
        pure [.publishing delivery]
      else pure [.readingCredential delivery]
    | _, _ => pure []

/-- An expired command is signed again, or times out without a credential. -/
def readCredential
    (delivery : Delivery)
    (toleranceSeconds : Nat)
    (issuedAt : Time) : DecommissionStep := do
  let db ← get
  match (db.machines.find? delivery.command.machineId).bind
      MachineAccount.mqttSigningSecret with
  | none => pure [.timingOut delivery]
  | some secret =>
    pure
      [.resigning
        { delivery with
          payload := signSecureDecommissionCommand
            delivery.command.machineId delivery.command.id
            delivery.command.requestedAt issuedAt secret }
        (issuedAt + toleranceSeconds * 1000)]

/-- By the id of the command alone. -/
def timeOut (delivery : Delivery) : DecommissionStep := do
  updateCommand delivery.command.id (fun _ => true) fun command =>
    { command with
      status := .timeout
      resultAt := some delivery.now
      nextDeliveryAttemptAt := none
      lastError :=
        some "secure decommission delivery credential is unavailable" }
  pure []

/-- By the id of the command alone. -/
def resign
    (delivery : Delivery)
    (expiresAt : Time) : DecommissionStep := do
  updateCommand delivery.command.id (fun _ => true) fun command =>
    { command with
      deliveryPayload := some delivery.payload
      deliveryExpiresAt := some expiresAt
      status := .pending
      resultAt := none
      lastError := none }
  pure [.publishing delivery]

def publishDelivery
    (delivery : Delivery)
    (outcome : PublishOutcome) : DecommissionStep := do
  let send : MachineTransaction Unit := modify fun db =>
    { db with
      published := db.published ++ [⟨delivery.topic, delivery.payload⟩] }
  match outcome with
  | .accepted => do
      send
      pure [.delivered delivery]
  | .failed error true => do
      send
      pure [.notDelivered delivery error]
  | .failed error false => pure [.notDelivered delivery error]

/-- The guard of an update after a delivery. -/
def Delivery.settles
    (delivery : Delivery)
    (command : MachineCommand) : Bool :=
  if delivery.command.isCleanupAcknowledgement then
    command.status = .succeeded &&
      command.deliveryTopic = some delivery.topic
  else command.status.deliverable

def Delivery.delivered
    (delivery : Delivery)
    (command : MachineCommand) : MachineCommand :=
  if delivery.command.isCleanupAcknowledgement then
    { command with
      deliveryAttemptCount := command.deliveryAttemptCount + 1
      nextDeliveryAttemptAt := none
      lastError := none }
  else
    { command with
      status := .sent
      sentAt := some (delivery.command.sentAt.getD delivery.now)
      deliveryAttemptCount := command.deliveryAttemptCount + 1
      nextDeliveryAttemptAt := some (delivery.now + retryDelay)
      lastError := none }

def Delivery.notDelivered
    (delivery : Delivery)
    (error : String)
    (command : MachineCommand) : MachineCommand :=
  { command with
    status :=
      if delivery.command.isCleanupAcknowledgement then command.status
      else .pending
    deliveryAttemptCount := command.deliveryAttemptCount + 1
    nextDeliveryAttemptAt := some (delivery.now + retryDelay)
    lastError := some error }

theorem Delivery.id_delivered
    (delivery : Delivery)
    (command : MachineCommand) :
    (delivery.delivered command).id = command.id := by
  unfold Delivery.delivered
  split
  · rfl
  · rfl

/-- The platform's checks on a result message, with the stored credential. -/
def verifySecureDecommissionResult
    (report : SecureDecommissionReport)
    (credential : Option Secret)
    (toleranceSeconds : Nat)
    (now : Time) : MachineTransaction Secret := do
  Transaction.require (report.machineId = report.topicMachineId)
    (.unauthorized "MQTT machine code mismatch")
  Transaction.require
    (now ≤ report.issuedAt + toleranceSeconds * 1000 ∧
      report.issuedAt ≤ now + toleranceSeconds * 1000)
    (.unauthorized "MQTT message is outside time window")
  let secret ← Transaction.requireSome credential
    (.unauthorized "Machine MQTT credential is missing or invalid")
  Transaction.require (report.signedWith = secret)
    (.unauthorized "Invalid MQTT signature")
  Transaction.require (report.messageCommandNo = report.result.commandNo)
    (.unauthorized
      "Secure decommission result message identity is invalid")
  pure secret

/-- The command that a report names, on the machine of its topic. -/
def MachineDb.reportedCommand?
    (db : MachineDb)
    (report : SecureDecommissionReport) :
    Option (MachineCommand × MachineAccount) := do
  let machine ← db.machines.find? report.topicMachineId
  let command ← db.machineCommands.find? report.result.commandNo
  if command.machineId = machine.id then some (command, machine) else none

def handleSecureDecommissionResult
    (report : SecureDecommissionReport)
    (toleranceSeconds : Nat)
    (now : Time) : DecommissionStep := do
  let db ← get
  match db.reportedCommand? report with
  | none => pure []
  | some (command, machine) =>
    if command.status = .succeeded ∧ machine.mqttSigningSecret = none then
      pure
        (if command.deliveryTopic.isSome && command.deliveryPayload.isSome
          then [.redelivering command.id report.result]
        else [])
    else do
      let secret ← verifySecureDecommissionResult report
        machine.mqttSigningSecret toleranceSeconds now
      pure
        [.recording machine.id
          (signSecureDecommissionAcknowledgement report.topicMachineId
            report.result.commandNo now secret)
          report.result]

def redeliver
    (commandId : CommandId)
    (now : Time) : DecommissionStep := do
  updateCommand commandId (fun _ => true) fun command =>
    { command with nextDeliveryAttemptAt := some now }
  pure [.deliver commandId now]

/-- A stored result is only replaced by a success after a failure. -/
def MachineDb.refusesResult
    (db : MachineDb)
    (machineId : MachineId)
    (result : SecureDecommissionResult) : Bool :=
  match db.machineEvents.find? (machineId, result.commandNo) with
  | none => false
  | some event => event.payload.success || !result.success

/-- The columns of a command after an accepted result. -/
def MachineCommand.settle
    (machineId : MachineId)
    (acknowledgement : SignedEnvelope)
    (result : SecureDecommissionResult)
    (now : Time)
    (command : MachineCommand) : MachineCommand :=
  if result.success then
    { command with
      status := .succeeded
      result := some (.reported result)
      resultAt := some result.reportedAt
      nextDeliveryAttemptAt := some now
      deliveryTopic := some (.secureDecommissionAck machineId)
      deliveryPayload := some acknowledgement
      deliveryExpiresAt := none
      lastError := none }
  else
    { command with
      status := .failed
      result := some (.reported result)
      resultAt := some result.reportedAt
      nextDeliveryAttemptAt := some now
      lastError := some (result.error.getD "local cleanup failed") }

theorem MachineCommand.id_settle
    (machineId : MachineId)
    (acknowledgement : SignedEnvelope)
    (result : SecureDecommissionResult)
    (now : Time)
    (command : MachineCommand) :
    (command.settle machineId acknowledgement result now).id =
      command.id := by
  unfold MachineCommand.settle
  split
  · rfl
  · rfl

def recordSecureDecommissionResult
    (machineId : MachineId)
    (acknowledgement : SignedEnvelope)
    (result : SecureDecommissionResult)
    (now : Time) : DecommissionStep := do
  let db ← get
  if db.refusesResult machineId result then pure []
  else do
    modify fun db =>
      { db with
        machineEvents := db.machineEvents.insertOrIgnore
          { machineId, commandNo := result.commandNo, payload := result } }
    updateCommand result.commandNo (fun _ => true)
      (MachineCommand.settle machineId acknowledgement result now)
      (MachineCommand.id_settle machineId acknowledgement result now)
    if result.success then do
      modify fun db =>
        { db with
          machines := db.machines.modify machineId fun machine =>
            { machine with
              mqttClientId := none
              mqttSigningSecret := none } }
      pure [.deliver result.commandNo now]
    else pure []

/-- The next step of a task. -/
def DecommissionTask.perform
    (toleranceSeconds : Nat)
    (task : DecommissionTask)
    (input : DecommissionInput) : DecommissionStep :=
  match task with
  | .setStatus machineId status => do
      setMachineStatus machineId status
      pure []
  | .decommission machineId => do
      let (command, _) ←
        secureDecommissionMachine machineId toleranceSeconds input.now
      pure
        ((command.toList.filter fun command =>
          command.deliveryPayload.isSome &&
            (command.status != .succeeded ||
              command.nextDeliveryAttemptAt.isSome)).map fun command =>
          .deliver command.id input.now)
  | .deliverDue => do
      let db ← get
      pure
        ((db.machineCommands.rows.filter fun command =>
          command.isDue input.now).map fun command =>
            .deliver command.id input.now)
  | .deliver commandId now => deliverSecureDecommissionCommand commandId now
  | .readingCredential delivery =>
    readCredential delivery toleranceSeconds input.now
  | .timingOut delivery => timeOut delivery
  | .resigning delivery expiresAt => resign delivery expiresAt
  | .publishing delivery => publishDelivery delivery input.publish
  | .delivered delivery => do
      updateCommand delivery.command.id delivery.settles
        delivery.delivered delivery.id_delivered
      pure []
  | .notDelivered delivery error => do
      updateCommand delivery.command.id delivery.settles
        (delivery.notDelivered error)
      pure []
  | .reported report =>
    handleSecureDecommissionResult report toleranceSeconds input.now
  | .redelivering commandId _ => redeliver commandId input.now
  | .recording machineId acknowledgement result =>
    recordSecureDecommissionResult machineId acknowledgement result
      input.now

/-- An error after the publish is handled as one of the publish. -/
def DecommissionTask.recover
    (task : DecommissionTask)
    (refusal : MachineError) : List DecommissionTask :=
  match task with
  | .publishing delivery
  | .delivered delivery => [.notDelivered delivery refusal.message]
  | _ => []

/-- The decommissioning of machines, interleaved at the database. -/
def decommissionService (toleranceSeconds : Nat) :
    Service MachineDb MachineError DecommissionTask DecommissionInput where
  starts := DecommissionTask.starts
  perform := DecommissionTask.perform toleranceSeconds
  recover := DecommissionTask.recover

end VendingSystem.Platform
