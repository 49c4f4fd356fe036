import VendingSystem.PlatformSchema

namespace VendingSystem.Platform

/-!
# Machines, their credentials and commands

The tables behind the provisioning of a machine: its credentials, the claim
codes that hand them out, and the commands that decommission it.  Secrets,
digests and hashes are only compared, so they are natural numbers.
-/

abbrev ClaimCodeId := Nat
abbrev Secret := Nat
abbrev Digest := Nat

inductive MachineStatus where
  | online
  | offline
  | maintenance
  | disabled
  deriving Repr, DecidableEq

/-- What a machine needs to sign in and to sign its messages. -/
structure CredentialBundle where
  machineSecret : Secret
  mqttSigningSecret : Secret
  deriving Repr, DecidableEq

/-- A machine with its credentials, each kept as the secret it is made of. -/
structure MachineAccount where
  id : MachineId
  status : MachineStatus
  secretHash : Option Secret
  secretVersion : Nat
  secretRotatedAt : Option Time
  credentialRevokedAt : Option Time
  mqttClientId : Option MachineId
  mqttSigningSecret : Option Secret
  deletedAt : Option Time
  deriving Repr, DecidableEq

inductive MachineClaimCodeState where
  | pending
  | consumed
  | expired
  | revoked
  | locked
  deriving Repr, DecidableEq

inductive MachineClaimCodePurpose where
  | firstClaim
  | reclaim
  deriving Repr, DecidableEq

structure ProvisioningProfilePaymentProjection where
  qrCodeEnabled : Bool
  paymentCodeEnabled : Bool
  deriving Repr, DecidableEq

/-- The answer to a successful claim, with the credentials that it hands out. -/
structure MachineProvisioningProfile where
  claimCodeId : ClaimCodeId
  claimedAt : Time
  machineId : MachineId
  machineStatus : MachineStatus
  mqttClientId : MachineId
  payment : ProvisioningProfilePaymentProjection
  machineSecret : Secret
  machineSecretVersion : Nat
  mqttSigningSecret : Secret
  deriving Repr, DecidableEq

structure MachineClaimCode where
  id : ClaimCodeId
  machineId : MachineId
  lookupDigest : Digest
  verifierHash : Digest
  purpose : MachineClaimCodePurpose
  state : MachineClaimCodeState
  failedAttemptCount : Nat
  maxFailedAttempts : Nat
  expiresAt : Time
  consumedAt : Option Time
  revokedAt : Option Time
  lockedAt : Option Time
  claimResponse : Option MachineProvisioningProfile
  deriving Repr, DecidableEq

inductive MachineCommandStatus where
  | pending
  | sent
  | acknowledged
  | succeeded
  | failed
  | timeout
  deriving Repr, DecidableEq

/-- `vem/machines/<code>/commands/secure-decommission` and its `-ack`. -/
inductive CommandTopic where
  | secureDecommission (machineId : MachineId)
  | secureDecommissionAck (machineId : MachineId)
  deriving Repr, DecidableEq

/-- The topic ends with the suffix of acknowledgements. -/
def CommandTopic.isAcknowledgement : CommandTopic → Bool
  | .secureDecommission _ => false
  | .secureDecommissionAck _ => true

inductive DecommissionPayload where
  | command (commandNo : CommandId) (requestedAt : Time)
  | acknowledgement (commandNo : CommandId) (acknowledgedAt : Time)
  deriving Repr, DecidableEq

/-- A payload of the platform signed with the secret of the machine. -/
structure SignedEnvelope where
  machineId : MachineId
  issuedAt : Time
  payload : DecommissionPayload
  signedWith : Secret
  deriving Repr, DecidableEq

/-- What a machine reports about its local cleanup. -/
structure SecureDecommissionResult where
  commandNo : CommandId
  success : Bool
  reportedAt : Time
  error : Option String
  deriving Repr, DecidableEq

/-- The stored outcome of a command. -/
inductive CommandResult where
  | reported (result : SecureDecommissionResult)
  | deniedOnReconnect (reportedAt : Time)
  deriving Repr, DecidableEq

/-- A decommission command; its number identifies it. -/
structure MachineCommand where
  id : CommandId
  machineId : MachineId
  status : MachineCommandStatus
  requestedAt : Time
  result : Option CommandResult
  resultAt : Option Time
  deliveryTopic : Option CommandTopic
  deliveryPayload : Option SignedEnvelope
  deliveryAttemptCount : Nat
  nextDeliveryAttemptAt : Option Time
  deliveryExpiresAt : Option Time
  sentAt : Option Time
  lastError : Option String
  deriving Repr, DecidableEq

/-- A result is stored once under the number of its command. -/
structure DecommissionEvent where
  machineId : MachineId
  commandNo : CommandId
  payload : SecureDecommissionResult
  deriving Repr, DecidableEq

structure PublishedMessage where
  topic : CommandTopic
  payload : SignedEnvelope
  deriving Repr, DecidableEq

/-- The tables, and what was published through the broker. -/
structure MachineDb where
  machines : Table MachineAccount MachineAccount.id
  machineClaimCodes : Table MachineClaimCode MachineClaimCode.id
  machineCommands : Table MachineCommand MachineCommand.id
  machineEvents : Table DecommissionEvent
    (fun event => (event.machineId, event.commandNo))
  published : List PublishedMessage
  deriving DecidableEq

inductive MachineError where
  | badRequest (message : String)
  | unauthorized (message : String)
  | notFound (message : String)
  | conflict (message : String)
  | uniqueViolation (constraint : String)
  deriving Repr, DecidableEq

def MachineError.message : MachineError → String
  | .badRequest message
  | .unauthorized message
  | .notFound message
  | .conflict message
  | .uniqueViolation message => message

abbrev MachineTransaction (Answer : Type) : Type :=
  Transaction MachineDb MachineError Answer

/-- The machine, unless it was deleted. -/
def MachineDb.machine? (db : MachineDb) (machineId : MachineId) :
    Option MachineAccount :=
  (db.machines.find? machineId).filter fun machine =>
    machine.deletedAt.isNone

/-- The codes that count against the unique index. -/
def MachineClaimCodeState.isOpen : MachineClaimCodeState → Bool
  | .pending
  | .locked => true
  | .consumed
  | .expired
  | .revoked => false

/-- Sign the command for the machine with its own secret. -/
def signSecureDecommissionCommand
    (machineId : MachineId)
    (commandNo : CommandId)
    (requestedAt issuedAt : Time)
    (secret : Secret) : SignedEnvelope where
  machineId := machineId
  issuedAt := issuedAt
  payload := .command commandNo requestedAt
  signedWith := secret

def signSecureDecommissionAcknowledgement
    (machineId : MachineId)
    (commandNo : CommandId)
    (acknowledgedAt : Time)
    (secret : Secret) : SignedEnvelope where
  machineId := machineId
  issuedAt := acknowledgedAt
  payload := .acknowledgement commandNo acknowledgedAt
  signedWith := secret

/-- The command as it is inserted: to be delivered, or settled at once. -/
def newDecommissionCommand
    (machineId : MachineId)
    (deliveryPayload : Option SignedEnvelope)
    (toleranceSeconds : Nat)
    (now : Time)
    (id : CommandId) : MachineCommand where
  id := id
  machineId := machineId
  status := if deliveryPayload.isSome then .pending else .succeeded
  requestedAt := now
  result :=
    if deliveryPayload.isSome then none else some (.deniedOnReconnect now)
  resultAt := if deliveryPayload.isSome then none else some now
  deliveryTopic := deliveryPayload.map fun _ => .secureDecommission machineId
  deliveryPayload := deliveryPayload
  deliveryAttemptCount := 0
  nextDeliveryAttemptAt := deliveryPayload.map fun _ => now
  deliveryExpiresAt := deliveryPayload.map fun payload =>
    payload.issuedAt + toleranceSeconds * 1000
  sentAt := none
  lastError := none

/-- The newest decommission command of the machine. -/
def MachineDb.latestCommand? (db : MachineDb) (machineId : MachineId) :
    Option MachineCommand :=
  (db.machineCommands.rows.filter fun command =>
    decide (command.machineId = machineId)).foldl
      (fun latest command =>
        match latest with
        | some newest =>
          if newest.id < command.id then some command else latest
        | none => some command)
      none

/-- The command is only sent to a machine that is online and can verify it. -/
def MachineAccount.deliveryPayload
    (machine : MachineAccount)
    (commandNo : CommandId)
    (now : Time) : Option SignedEnvelope :=
  if machine.status = .online then
    machine.mqttSigningSecret.map
      (signSecureDecommissionCommand machine.id commandNo now now)
  else none

/-- The secret stays only while the command has to be delivered. -/
def MachineAccount.decommissioned
    (deliverable : Bool)
    (now : Time)
    (machine : MachineAccount) : MachineAccount :=
  { machine with
    status := .disabled
    secretHash := none
    credentialRevokedAt := some now
    mqttClientId := none
    mqttSigningSecret :=
      if deliverable then machine.mqttSigningSecret else none }

theorem MachineAccount.id_decommissioned
    (deliverable : Bool)
    (now : Time)
    (machine : MachineAccount) :
    (machine.decommissioned deliverable now).id = machine.id := rfl

def MachineClaimCode.revoke
    (now : Time)
    (code : MachineClaimCode) : MachineClaimCode :=
  { code with state := .revoked, revokedAt := some now }

theorem MachineClaimCode.id_revoke (now : Time) (code : MachineClaimCode) :
    (code.revoke now).id = code.id := rfl

/--
The transaction of a decommission: it answers the command, and whether the
machine was decommissioned before.
-/
def secureDecommissionMachine
    (machineId : MachineId)
    (toleranceSeconds : Nat)
    (now : Time) : MachineTransaction (Option MachineCommand × Bool) := do
  let db ← get
  let machine ← Transaction.requireSome (db.machine? machineId)
    (.notFound "Machine not found")
  if machine.status = .disabled ∧ machine.credentialRevokedAt.isSome then
    pure (db.latestCommand? machineId, true)
  else do
    let commandNo := db.machineCommands.nextId
    let deliveryPayload := machine.deliveryPayload commandNo now
    modify fun db =>
      { db with
        machineCommands := db.machineCommands.insertNext
          (newDecommissionCommand machineId deliveryPayload
            toleranceSeconds now) }
    modify fun db =>
      { db with
        machineClaimCodes := db.machineClaimCodes.updateWhere
          (fun code => code.machineId = machineId && code.state.isOpen)
          (MachineClaimCode.revoke now) (MachineClaimCode.id_revoke now) }
    modify fun db =>
      { db with
        machines := db.machines.modify machineId
          (MachineAccount.decommissioned deliveryPayload.isSome now)
          (MachineAccount.id_decommissioned deliveryPayload.isSome now) }
    pure
      (some (newDecommissionCommand machineId deliveryPayload
        toleranceSeconds now commandNo), false)

theorem secureDecommissionMachine_cases
    {machineId : MachineId}
    {toleranceSeconds : Nat}
    {now : Time}
    {before after : MachineDb}
    {answer : Option MachineCommand × Bool}
    (commits : (secureDecommissionMachine machineId toleranceSeconds
      now).Commits before answer after) :
    after = before ∨
      ∃ machine, before.machine? machineId = some machine ∧
        ∃ deliveryPayload,
          deliveryPayload =
            machine.deliveryPayload before.machineCommands.nextId now ∧
          after =
            { before with
              machineCommands := before.machineCommands.insertNext
                (newDecommissionCommand machineId deliveryPayload
                  toleranceSeconds now)
              machineClaimCodes := before.machineClaimCodes.updateWhere
                (fun code =>
                  code.machineId = machineId && code.state.isOpen)
                (MachineClaimCode.revoke now) (MachineClaimCode.id_revoke now)
              machines := before.machines.modify machineId
                (MachineAccount.decommissioned deliveryPayload.isSome now)
                (MachineAccount.id_decommissioned
                  deliveryPayload.isSome now) } := by
  unfold secureDecommissionMachine at commits
  replace commits := Transaction.commits_get_bind.mp commits
  obtain ⟨machine, found, commits⟩ :=
    Transaction.commits_requireSome_bind.mp commits
  split at commits
  · exact .inl (Transaction.commits_pure.mp commits).2
  · replace commits := Transaction.commits_modify_bind.mp commits
    replace commits := Transaction.commits_modify_bind.mp commits
    replace commits := Transaction.commits_modify_bind.mp commits
    exact .inr ⟨machine, found, _, rfl,
      (Transaction.commits_pure.mp commits).2⟩

/-- A heartbeat, the offline sweep or an administrator sets the status. -/
def setMachineStatus
    (machineId : MachineId)
    (status : MachineStatus) : MachineTransaction Unit :=
  modify fun db =>
    { db with
      machines := db.machines.modify machineId fun machine =>
        { machine with status } }

end VendingSystem.Platform
