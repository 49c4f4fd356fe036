import VendingSystem.PlatformMachines
import VendingSystem.Service

namespace VendingSystem.Platform

/-!
# Claiming a machine

Claim codes are generated, claimed, revoked and locked by tasks that read and
write in separate steps; only the consumption of a code with the rotation of
the credentials is a transaction.  Beside the database stand the answers of
successful claims and every rotation of credentials, with its claim code.
-/

/-- New credentials of a machine, from a claim code or from a rotation. -/
structure CredentialRotation where
  machineId : MachineId
  claimCodeId : Option ClaimCodeId
  deriving Repr, DecidableEq

structure ClaimDb where
  store : MachineDb
  answers : List MachineProvisioningProfile
  rotations : List CredentialRotation
  deriving DecidableEq

abbrev ClaimTransaction (Answer : Type) : Type :=
  Transaction ClaimDb MachineError Answer

/-- A transaction of the database alone. -/
def onStore
    {Answer : Type}
    (transaction : MachineTransaction Answer) : ClaimTransaction Answer :=
  fun db => (transaction db.store).map fun (answer, store) =>
    (answer, { db with store })

/-- The text of a claim, as its keyed digest and its hash. -/
structure MachineClaimRequest where
  lookupDigest : Digest
  verifier : Digest
  deriving Repr, DecidableEq

/-- The clock, and what the platform draws at random or reads elsewhere. -/
structure ClaimInput where
  now : Time
  generated : MachineClaimRequest
  bundle : CredentialBundle
  payment : ProvisioningProfilePaymentProjection
  deriving Repr, DecidableEq

def machineClaimCodeMaxFailedAttempts : Nat := 5

inductive ClaimTask where
  | setStatus (machineId : MachineId) (status : MachineStatus)
  -- generateMachineClaimCode
  | generate (machineId : MachineId) (purpose : MachineClaimCodePurpose)
  | readingOpenCodes
      (machineId : MachineId)
      (purpose : MachineClaimCodePurpose)
  | expiring
      (machineId : MachineId)
      (purpose : MachineClaimCodePurpose)
      (expired : List ClaimCodeId)
      (now : Time)
  | inserting
      (machineId : MachineId)
      (purpose : MachineClaimCodePurpose)
      (now : Time)
  -- claimMachine
  | claim (request : MachineClaimRequest)
  | recordingFailure (code : MachineClaimCode) (now : Time)
  | replaying (profile : MachineProvisioningProfile)
  | consuming
      (code : MachineClaimCode)
      (machine : MachineAccount)
      (bundle : CredentialBundle)
      (now : Time)
  -- revokeMachineClaimCode
  | revoke (machineId : MachineId) (claimCodeId : ClaimCodeId)
  | revoking (claimCodeId : ClaimCodeId) (now : Time)
  -- rotateMachineCredentials
  | rotate (machineId : MachineId)
  | rotating (machineId : MachineId)
  -- secureDecommissionMachine
  | decommission (machineId : MachineId)
  deriving Repr, DecidableEq

/-- Every other task follows one of these. -/
def ClaimTask.starts : ClaimTask → Bool
  | .setStatus _ _
  | .generate _ _
  | .claim _
  | .revoke _ _
  | .rotate _
  | .decommission _ => true
  | _ => false

abbrev ClaimStep : Type := ClaimTransaction (List ClaimTask)

/-- Rewrite the claim codes that satisfy a test. -/
def updateClaimCodes
    (test : MachineClaimCode → Bool)
    (change : MachineClaimCode → MachineClaimCode)
    (keepsId : ∀ code, (change code).id = code.id := by
      intro code; rfl) : ClaimTransaction Unit :=
  modify fun db =>
    { db with
      store :=
        { db.store with
          machineClaimCodes :=
            db.store.machineClaimCodes.updateWhere test change keepsId } }

/-- Another open code of the machine, for the partial unique index. -/
def MachineDb.otherOpenCode
    (db : MachineDb)
    (machineId : MachineId)
    (claimCodeId : ClaimCodeId) : Bool :=
  db.machineClaimCodes.rows.any fun code =>
    code.machineId = machineId && code.state.isOpen &&
      code.id != claimCodeId

def generateMachineClaimCode
    (machineId : MachineId)
    (purpose : MachineClaimCodePurpose) : ClaimStep := do
  let db ← get
  let machine ← Transaction.requireSome (db.store.machine? machineId)
    (.notFound "Machine not found")
  Transaction.require
    (!(purpose = .firstClaim &&
      (machine.secretHash.isSome || 1 < machine.secretVersion)))
    (.conflict
      "Machine is already claimed; generate a reclaim code explicitly")
  Transaction.require
    (!(purpose = .reclaim && machine.secretHash.isNone &&
      machine.secretVersion ≤ 1))
    (.conflict "Machine has not been claimed; generate a first-claim code")
  pure [.readingOpenCodes machineId purpose]

def readOpenCodes
    (machineId : MachineId)
    (purpose : MachineClaimCodePurpose)
    (now : Time) : ClaimStep := do
  let db ← get
  let openCodes := db.store.machineClaimCodes.rows.filter fun code =>
    code.machineId = machineId && code.state.isOpen
  Transaction.require
    (!openCodes.any fun code =>
      code.state = .locked || decide (now < code.expiresAt))
    (.conflict "Machine already has an active claim code")
  let expired := openCodes.filter fun code =>
    code.state = .pending && decide (code.expiresAt ≤ now)
  pure
    (if expired = [] then [.inserting machineId purpose now]
    else [.expiring machineId purpose (expired.map MachineClaimCode.id) now])

def MachineClaimCode.expire (code : MachineClaimCode) : MachineClaimCode :=
  { code with state := .expired }

theorem MachineClaimCode.id_expire (code : MachineClaimCode) :
    code.expire.id = code.id := rfl

/-- By the ids of the codes alone. -/
def expireCodes
    (machineId : MachineId)
    (purpose : MachineClaimCodePurpose)
    (expired : List ClaimCodeId)
    (now : Time) : ClaimStep := do
  updateClaimCodes (fun code => expired.contains code.id)
    MachineClaimCode.expire MachineClaimCode.id_expire
  pure [.inserting machineId purpose now]

/-- A fresh code, open for the time that the configuration gives it. -/
def newClaimCode
    (machineId : MachineId)
    (purpose : MachineClaimCodePurpose)
    (generated : MachineClaimRequest)
    (expiresAt : Time)
    (id : ClaimCodeId) : MachineClaimCode where
  id := id
  machineId := machineId
  lookupDigest := generated.lookupDigest
  verifierHash := generated.verifier
  purpose := purpose
  state := .pending
  failedAttemptCount := 0
  maxFailedAttempts := machineClaimCodeMaxFailedAttempts
  expiresAt := expiresAt
  consumedAt := none
  revokedAt := none
  lockedAt := none
  claimResponse := none

def insertClaimCode
    (machineId : MachineId)
    (purpose : MachineClaimCodePurpose)
    (generated : MachineClaimRequest)
    (expiresAt : Time) : ClaimStep := do
  let db ← get
  Transaction.require
    (!db.store.machineClaimCodes.rows.any fun code =>
      decide (code.lookupDigest = generated.lookupDigest))
    (.uniqueViolation "machine_claim_codes_lookup_digest_unique")
  Transaction.require
    (!db.store.otherOpenCode machineId db.store.machineClaimCodes.nextId)
    (.conflict "Machine already has an active claim code")
  modify fun db =>
    { db with
      store :=
        { db.store with
          machineClaimCodes := db.store.machineClaimCodes.insertNext
            (newClaimCode machineId purpose generated expiresAt) } }
  pure []

/-- The code of a lookup digest, with its machine unless that was deleted. -/
def MachineDb.claimCandidate?
    (db : MachineDb)
    (lookupDigest : Digest) : Option (MachineClaimCode × MachineAccount) := do
  let code ← db.machineClaimCodes.rows.find? fun code =>
    decide (code.lookupDigest = lookupDigest)
  let machine ← db.machine? code.machineId
  pure (code, machine)

def invalidMachineClaimCode : MachineError :=
  .unauthorized "Invalid or expired machine claim code"

def claimMachine
    (request : MachineClaimRequest)
    (bundle : CredentialBundle)
    (now : Time) : ClaimStep := do
  let db ← get
  let (code, machine) ← Transaction.requireSome
    (db.store.claimCandidate? request.lookupDigest) invalidMachineClaimCode
  if request.verifier ≠ code.verifierHash then
    pure [.recordingFailure code now]
  else
    match code.state, code.claimResponse, decide (now < code.expiresAt) with
    | .consumed, some profile, true => pure [.replaying profile]
    | .pending, _, true => pure [.consuming code machine bundle now]
    | _, _, _ => pure [.recordingFailure code now]

/-- The state that a failed attempt writes, from the one that it read. -/
def MachineClaimCode.failedState
    (read : MachineClaimCode)
    (now : Time)
    (stored : MachineClaimCode) : MachineClaimCodeState :=
  if read.state = .pending then
    if read.expiresAt ≤ now then .expired
    else if stored.maxFailedAttempts ≤ stored.failedAttemptCount + 1 then
      .locked
    else stored.state
  else read.state

/-- A stored code after a failed attempt at the one that was read. -/
def MachineClaimCode.recordFailure
    (read : MachineClaimCode)
    (now : Time)
    (stored : MachineClaimCode) : MachineClaimCode :=
  { stored with
    failedAttemptCount := stored.failedAttemptCount + 1
    state := read.failedState now stored
    lockedAt :=
      if read.state = .pending ∧ now < read.expiresAt then
        if stored.maxFailedAttempts ≤ stored.failedAttemptCount + 1 ∧
            stored.lockedAt = none then some now
        else stored.lockedAt
      else read.lockedAt
    claimResponse :=
      if read.expiresAt ≤ now then none else stored.claimResponse }

theorem MachineClaimCode.id_recordFailure
    (read : MachineClaimCode)
    (now : Time)
    (stored : MachineClaimCode) :
    (read.recordFailure now stored).id = stored.id := rfl

/-- By the id of the code alone; the unique index can refuse an open state. -/
def recordFailedMachineClaim
    (read : MachineClaimCode)
    (now : Time) : ClaimStep := do
  let db ← get
  match db.store.machineClaimCodes.find? read.id with
  | none => pure []
  | some stored => do
      Transaction.require
        (!((read.failedState now stored).isOpen &&
          db.store.otherOpenCode stored.machineId stored.id))
        (.uniqueViolation "machine_claim_codes_machine_open_unique")
      updateClaimCodes (fun code => decide (code.id = read.id))
        (MachineClaimCode.recordFailure read now)
        (MachineClaimCode.id_recordFailure read now)
      pure []

/-- The answer of a successful claim leaves the platform. -/
def answerClaim (profile : MachineProvisioningProfile) : ClaimStep := do
  modify fun db => { db with answers := db.answers ++ [profile] }
  pure []

def MachineAccount.rotateCredentials
    (bundle : CredentialBundle)
    (mqttClientId : Option MachineId)
    (now : Time)
    (machine : MachineAccount) : MachineAccount :=
  { machine with
    secretHash := some bundle.machineSecret
    secretVersion := machine.secretVersion + 1
    secretRotatedAt := some now
    credentialRevokedAt := none
    mqttClientId := mqttClientId
    mqttSigningSecret := some bundle.mqttSigningSecret }

theorem MachineAccount.id_rotateCredentials
    (bundle : CredentialBundle)
    (mqttClientId : Option MachineId)
    (now : Time)
    (machine : MachineAccount) :
    (machine.rotateCredentials bundle mqttClientId now).id = machine.id :=
  rfl

/-- Rotate the credentials of a machine and log what they were for. -/
def rotateCredentials
    (machineId : MachineId)
    (claimCodeId : Option ClaimCodeId)
    (bundle : CredentialBundle)
    (mqttClientId : MachineAccount → Option MachineId)
    (now : Time) : ClaimTransaction Unit :=
  modify fun db =>
    { db with
      store :=
        { db.store with
          machines := db.store.machines.modify machineId
            (fun machine =>
              machine.rotateCredentials bundle (mqttClientId machine) now)
            (fun machine => MachineAccount.id_rotateCredentials bundle
              (mqttClientId machine) now machine) }
      rotations := db.rotations ++ [{ machineId, claimCodeId }] }

def projectMachineClaimProfile
    (code : MachineClaimCode)
    (machine : MachineAccount)
    (bundle : CredentialBundle)
    (secretVersion : Nat)
    (payment : ProvisioningProfilePaymentProjection)
    (now : Time) : MachineProvisioningProfile where
  claimCodeId := code.id
  claimedAt := now
  machineId := code.machineId
  machineStatus := machine.status
  mqttClientId := machine.mqttClientId.getD code.machineId
  payment := payment
  machineSecret := bundle.machineSecret
  machineSecretVersion := secretVersion
  mqttSigningSecret := bundle.mqttSigningSecret

def MachineClaimCode.consume
    (now : Time)
    (profile : MachineProvisioningProfile)
    (code : MachineClaimCode) : MachineClaimCode :=
  { code with
    state := .consumed
    consumedAt := some now
    claimResponse := some profile }

theorem MachineClaimCode.id_consume
    (now : Time)
    (profile : MachineProvisioningProfile)
    (code : MachineClaimCode) :
    (code.consume now profile).id = code.id := rfl

/-- The transaction of a claim: consume the code, or replay its winner. -/
def consumeClaimCode
    (code : MachineClaimCode)
    (machine : MachineAccount)
    (bundle : CredentialBundle)
    (payment : ProvisioningProfilePaymentProjection)
    (now : Time) : ClaimStep := do
  let db ← get
  let stored ← Transaction.requireSome
    (db.store.machineClaimCodes.find? code.id) invalidMachineClaimCode
  if stored.state = .pending ∧ now < stored.expiresAt then do
    let rotated ← Transaction.requireSome (db.store.machine? code.machineId)
      invalidMachineClaimCode
    rotateCredentials code.machineId (some code.id) bundle
      (fun _ => some (machine.mqttClientId.getD code.machineId)) now
    let profile := projectMachineClaimProfile code machine bundle
      (rotated.secretVersion + 1) payment now
    updateClaimCodes (fun other => decide (other.id = code.id))
      (MachineClaimCode.consume now profile)
      (MachineClaimCode.id_consume now profile)
    answerClaim profile
  else
    match stored.state, stored.claimResponse,
        decide (now < stored.expiresAt) with
    | .consumed, some profile, true => answerClaim profile
    | _, _, _ => throw invalidMachineClaimCode

def revokeMachineClaimCode
    (machineId : MachineId)
    (claimCodeId : ClaimCodeId)
    (now : Time) : ClaimStep := do
  let db ← get
  Transaction.require (db.store.machine? machineId).isSome
    (.notFound "Machine not found")
  let current ← Transaction.requireSome
    ((db.store.machineClaimCodes.find? claimCodeId).filter fun code =>
      decide (code.machineId = machineId))
    (.notFound "Machine claim code not found")
  Transaction.require
    (current.state = .pending && decide (now < current.expiresAt))
    (.conflict "Only pending claim codes can be revoked")
  pure [.revoking claimCodeId now]

def writeRevocation
    (claimCodeId : ClaimCodeId)
    (now : Time) : ClaimStep := do
  updateClaimCodes
    (fun code => code.id = claimCodeId && code.state = .pending)
    (MachineClaimCode.revoke now) (MachineClaimCode.id_revoke now)
  pure []

def rotateMachineCredentials (machineId : MachineId) : ClaimStep := do
  let db ← get
  Transaction.require (db.store.machine? machineId).isSome
    (.notFound "Machine not found")
  pure [.rotating machineId]

/-- The next step of a task. -/
def ClaimTask.perform
    (toleranceSeconds ttlSeconds : Nat)
    (task : ClaimTask)
    (input : ClaimInput) : ClaimStep :=
  match task with
  | .setStatus machineId status => do
      onStore (setMachineStatus machineId status)
      pure []
  | .generate machineId purpose => generateMachineClaimCode machineId purpose
  | .readingOpenCodes machineId purpose =>
    readOpenCodes machineId purpose input.now
  | .expiring machineId purpose expired now =>
    expireCodes machineId purpose expired now
  | .inserting machineId purpose now =>
    insertClaimCode machineId purpose input.generated
      (now + ttlSeconds * 1000)
  | .claim request => claimMachine request input.bundle input.now
  | .recordingFailure code now => recordFailedMachineClaim code now
  | .replaying profile => answerClaim profile
  | .consuming code machine bundle now =>
    consumeClaimCode code machine bundle input.payment now
  | .revoke machineId claimCodeId =>
    revokeMachineClaimCode machineId claimCodeId input.now
  | .revoking claimCodeId now => writeRevocation claimCodeId now
  | .rotate machineId => rotateMachineCredentials machineId
  | .rotating machineId => do
      rotateCredentials machineId none input.bundle
        MachineAccount.mqttClientId input.now
      pure []
  | .decommission machineId => do
      let _ ← onStore
        (secureDecommissionMachine machineId toleranceSeconds input.now)
      pure []

/-- The claiming of machines, interleaved at the database. -/
def claimService (toleranceSeconds ttlSeconds : Nat) :
    Service ClaimDb MachineError ClaimTask ClaimInput where
  starts := ClaimTask.starts
  perform := ClaimTask.perform toleranceSeconds ttlSeconds
  recover _ _ := []

end VendingSystem.Platform
