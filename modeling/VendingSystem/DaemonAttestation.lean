import VendingSystem.DaemonMaintenance

namespace VendingSystem.Daemon

/-!
# Physical stock attestations

An attestation counts every slot of the active planogram.  With a platform it
is staged: the count stays out of ledger and projection until the platform has
accepted all corrections, and a later transaction finalises it.
-/

def attestationInputRequired : StoreError :=
  .invalidStockInput
    "attestation id, planogram version, operator id, and slots are required"

/-- Every attested quantity is nonnegative and every slot occurs once. -/
def checkAttestedSlots :
    List SlotId → List PhysicalStockAttestationSlotInput →
      Except StoreError Unit
  | _, [] => .ok ()
  | seen, slot :: rest =>
    if slot.quantity < 0 then
      .error (.invalidStockInput "attested quantity must be nonnegative")
    else if slot.slotId ∈ seen then
      .error (.invalidStockInput s!"duplicate attested slot {slot.slotId}")
    else checkAttestedSlots (slot.slotId :: seen) rest

/-- The count of a planogram slot, if it fits that slot. -/
def attestedSlotFor
    (slots : List PhysicalStockAttestationSlotInput)
    (row : PlanogramSlot) :
    Except StoreError PhysicalStockAttestationSlotInput :=
  match slots.find? (fun slot => slot.slotId == row.slotId) with
  | none => .error (.invalidStockInput
      s!"missing attested slot {row.slotId}")
  | some slot =>
    if slot.slotId ≠ row.slotId ∨ slot.sku ≠ row.sku then
      .error (.invalidStockInput
        s!"attested slot {slot.slotId} does not match active planogram mapping")
    else if slot.quantity > row.capacity then
      .error (.invalidStockInput
        s!"attested slot {slot.slotId} exceeds capacity")
    else .ok slot

/-- Project a counted slot as a fresh local fact. -/
def projectAttestedSlot
    (store : Store)
    (version : PlanogramVersion)
    (slot : PhysicalStockAttestationSlotInput)
    (now : Time) : Except StoreError Store :=
  let slotSalesState : SlotSalesState :=
    if !slot.enabled then .frozen
    else if slot.quantity > 0 then .saleReady
    else .soldOut
  let saleableStock :=
    if slotSalesState = .saleReady then slot.quantity else 0
  upsertSaleViewProjection
    (upsertStockProjectionWithState
      (clearSaleSafetyBlockerMarker store version slot.slotId)
      version slot.slotId slot.quantity saleableStock slotSalesState
      true now)
    version slot.slotId now

/-- The ledger entry of a counted slot. -/
def attestedMovement
    (input : PhysicalStockAttestationInput)
    (slot : PhysicalStockAttestationSlotInput)
    (movementId : MovementId)
    (beforeQuantity : Int)
    (occurredAt : Time) : StockMovement where
  movementId := movementId
  planogramVersion := input.planogramVersion
  slotId := slot.slotId
  movementType := .stockCountCorrection
  quantity := slot.quantity
  beforeQuantity := beforeQuantity
  afterQuantity := slot.quantity
  source := .physicalStockAttestation
  attributedTo := some input.operatorId
  occurredAt := occurredAt

/-- Add a movement to the ledger; an identifier already used is refused. -/
def insertStockMovement
    (store : Store)
    (movement : StockMovement) : Except StoreError Store :=
  if (store.stockMovements.find? movement.movementId).isSome then
    .error .constraintViolation
  else
    .ok { store with
      stockMovements := store.stockMovements.insertOrIgnore movement }

/-- The physical stock projected for a slot, zero without a projection. -/
def Store.projectedStock
    (store : Store)
    (version : PlanogramVersion)
    (slotId : SlotId) : Int :=
  ((store.projectionOf version slotId).map
    StockProjection.physicalStock).getD 0

/-- Record and project the count of one planogram slot. -/
def attestSlot
    (input : PhysicalStockAttestationInput)
    (now : Time)
    (row : PlanogramSlot) : Transaction Store StoreError Unit := do
  let slot ← Transaction.ofExcept (attestedSlotFor input.slots row)
  Transaction.statement fun store =>
    insertStockMovement store
      (attestedMovement input slot
        (.stockTask input.attestationId slot.slotId)
        (store.projectedStock input.planogramVersion slot.slotId) now)
  Transaction.statement fun store =>
    projectAttestedSlot store input.planogramVersion slot now

/-- The checks that every attestation passes before its slots are counted. -/
def admitAttestation
    (input : PhysicalStockAttestationInput) :
    Transaction Store StoreError (List PlanogramSlot) := do
  let store ← get
  Transaction.require
    (store.activePlanogramVersion == some input.planogramVersion)
    (.invalidStockInput "attestation planogram version is not active")
  let rows := store.planogramSlots input.planogramVersion
  Transaction.require (rows.length == input.slots.length)
    (.invalidStockInput
      "attestation must include every active planogram slot exactly once")
  Transaction.ofExcept (checkAttestedSlots [] input.slots)
  pure rows

/-- Count every active slot at once, without a platform. -/
def recordPhysicalStockAttestation
    (input : PhysicalStockAttestationInput)
    (now : Time) : Transaction Store StoreError Unit := do
  Transaction.require (!input.slots.isEmpty) attestationInputRequired
  let rows ← admitAttestation input
  forM rows (attestSlot input now)
  modify fun store =>
    { store with
      physicalStockAttestation := some
        { attestationId := input.attestationId
          planogramVersion := input.planogramVersion
          operatorId := input.operatorId
          attestedAt := now
          slots := input.slots } }

/-- The upload status of a movement. -/
def Store.syncStatus
    (store : Store)
    (movementId : MovementId) : Option MovementSyncStatus :=
  (store.stockMovementSync.find? movementId).map StockMovementSync.status

/-- The platform will not accept the movement as it is. -/
def MovementSyncStatus.isTerminalRejection : MovementSyncStatus → Bool
  | .rejected
  | .reconciliation => true
  | .pending
  | .failed
  | .accepted => false

/-- The movement still waits for an answer. -/
def MovementSyncStatus.isUnanswered : MovementSyncStatus → Bool
  | .pending
  | .failed => true
  | .accepted
  | .rejected
  | .reconciliation => false

/-- A pending attestation may be replaced by a corrected retry. -/
def PendingPhysicalStockAttestation.replaceable
    (pending : PendingPhysicalStockAttestation)
    (store : Store) : Bool :=
  let statuses := pending.movementIds.filterMap store.syncStatus
  statuses.any MovementSyncStatus.isTerminalRejection &&
    !statuses.any MovementSyncStatus.isUnanswered

/-- The generation under which a pending attestation uploaded a slot. -/
def PendingPhysicalStockAttestation.generationOf
    (pending : PendingPhysicalStockAttestation)
    (slotId : SlotId) :
    Option PendingPhysicalStockAttestationSlotGeneration :=
  pending.slotGenerations.find? (fun generation =>
    generation.slotId == slotId)

/-- The generation that an accepted slot hands to a corrected retry. -/
def PendingPhysicalStockAttestation.carriedGeneration
    (pending : PendingPhysicalStockAttestation)
    (store : Store)
    (slot : PhysicalStockAttestationSlotInput)
    (movementId : MovementId) :
    PendingPhysicalStockAttestationSlotGeneration :=
  (pending.generationOf slot.slotId).getD
    { slotId := slot.slotId
      movementId := movementId
      generation := pending.input.attestationId
      beforeQuantity :=
        store.projectedStock pending.input.planogramVersion slot.slotId
      afterQuantity := slot.quantity
      occurredAt := pending.attestedAt }

/-- What a corrected retry takes over from one slot of the pending one. -/
def carrySlotGeneration
    (store : Store)
    (pending : PendingPhysicalStockAttestation)
    (input : PhysicalStockAttestationInput)
    (slot : PhysicalStockAttestationSlotInput) :
    Except StoreError
      (Option PendingPhysicalStockAttestationSlotGeneration) :=
  let movementId :=
    ((pending.generationOf slot.slotId).map
      PendingPhysicalStockAttestationSlotGeneration.movementId).getD
      (.stockTask pending.input.attestationId slot.slotId)
  match store.stockMovementSync.find? movementId with
  | none => .error (.integrityCheckFailed
      s!"physical stock attestation slot generation is missing sync state: {slot.slotId}")
  | some sync =>
    if sync.status ≠ .accepted then .ok none
    else if sync.platformReceipt.isNone then
      .error (.integrityCheckFailed
        s!"accepted physical stock attestation slot is missing Platform receipt: {slot.slotId}")
    else if pending.input.planogramVersion ≠ input.planogramVersion ∨
        input.slots.find? (fun other => other.slotId == slot.slotId) ≠
          some slot then
      .error (.invalidStockInput
        s!"Platform-accepted attested slot {slot.slotId} cannot be changed; retry only rejected slots")
    else .ok (some (pending.carriedGeneration store slot movementId))

/-- What a submission finds pending before it starts its transaction. -/
inductive StagingAdmission where
  | replayed
  | admitted
      (carried : List PendingPhysicalStockAttestationSlotGeneration)
  deriving Repr, DecidableEq

/-- Read the pending attestation: a replay, a conflict, or what to carry. -/
def readPendingAttestation
    (store : Store)
    (input : PhysicalStockAttestationInput) :
    Except StoreError StagingAdmission :=
  if input.slots.isEmpty then .error attestationInputRequired
  else
    match store.pendingPhysicalStockAttestation.filter (fun pending =>
        pending.input.planogramVersion == input.planogramVersion) with
    | none => .ok (.admitted [])
    | some pending =>
      if pending.input = input then .ok .replayed
      else if !pending.replaceable store then
        .error (.invalidStockInput
          "a physical stock attestation is awaiting platform acknowledgement; refresh its status before submitting another")
      else
        (pending.input.slots.mapM
          (carrySlotGeneration store pending input)).map
            fun carried => .admitted (carried.filterMap id)

/-- Queue the correction of one slot and remember its generation. -/
def stageSlot
    (input : PhysicalStockAttestationInput)
    (carried : List PendingPhysicalStockAttestationSlotGeneration)
    (now : Time)
    (row : PlanogramSlot) :
    Transaction Store StoreError
      PendingPhysicalStockAttestationSlotGeneration := do
  let slot ← Transaction.ofExcept (attestedSlotFor input.slots row)
  let store ← get
  match carried.find? (fun generation =>
      generation.slotId == row.slotId) with
  | some generation => pure generation
  | none => do
      let movementId : MovementId :=
        .stockTask input.attestationId row.slotId
      let beforeQuantity :=
        store.projectedStock input.planogramVersion row.slotId
      Transaction.require
        (store.stockMovementSync.find? movementId).isNone
        .constraintViolation
      modify fun store =>
        stageMovementUpload store
          (attestedMovement input slot movementId beforeQuantity now) now
      pure
        { slotId := row.slotId
          movementId := movementId
          generation := input.attestationId
          beforeQuantity := beforeQuantity
          afterQuantity := slot.quantity
          occurredAt := now }

/-- Stage the corrections of every active slot. -/
def stageAdmittedAttestation
    (input : PhysicalStockAttestationInput)
    (carried : List PendingPhysicalStockAttestationSlotGeneration)
    (now : Time) : Transaction Store StoreError Unit := do
  let rows ← admitAttestation input
  let generations ← rows.mapM (stageSlot input carried now)
  modify fun store =>
    { store with
      pendingPhysicalStockAttestation := some
        { input := input
          attestedAt := now
          movementIds := generations.map
            PendingPhysicalStockAttestationSlotGeneration.movementId
          slotGenerations := generations }
      failedPhysicalStockAttestation := none }

/-- The slots that changed since the submitted task was issued, if any. -/
def Store.taskDifferences
    (store : Store)
    (identity : Option StockMaintenanceTaskIdentity) :
    List StockMaintenanceSlotDifference :=
  match identity with
  | some identity => store.stockMaintenanceIdentityDifferences identity
  | none => []

def stageCurrentAttestation
    (input : PhysicalStockAttestationInput)
    (carried : List PendingPhysicalStockAttestationSlotGeneration)
    (now : Time) :
    Transaction Store StoreError (Except StoreError Unit) := do
  stageAdmittedAttestation input carried now
  pure (.ok ())

/--
Stage an attestation in one transaction, with what its submission read before.
The inner error is reported after a committed freeze.
-/
def stagePhysicalStockAttestation
    (input : PhysicalStockAttestationInput)
    (carried : List PendingPhysicalStockAttestationSlotGeneration)
    (identity : Option StockMaintenanceTaskIdentity)
    (now : Time) :
    Transaction Store StoreError (Except StoreError Unit) := do
  let before ← get
  if (before.taskDifferences identity).isEmpty then
    stageCurrentAttestation input carried now
  else
    refuseStaleTask Unit (before.taskDifferences identity) now

/-- Every staged correction is accepted by the platform. -/
def PendingPhysicalStockAttestation.accepted
    (pending : PendingPhysicalStockAttestation)
    (store : Store) : Bool :=
  decide pending.movementIds.Nodup &&
    pending.movementIds.all (fun movementId =>
      store.syncStatus movementId == some .accepted)

/-- Under which movement, from which stock and at what time a slot was counted. -/
def PendingPhysicalStockAttestation.observationOf
    (pending : PendingPhysicalStockAttestation)
    (store : Store)
    (slot : PhysicalStockAttestationSlotInput) :
    Option (MovementId × Int × Time) :=
  match pending.generationOf slot.slotId with
  | some generation =>
    if generation.afterQuantity ≠ slot.quantity ∨
        generation.movementId ≠
          .stockTask generation.generation slot.slotId then none
    else some
      (generation.movementId, generation.beforeQuantity,
        generation.occurredAt)
  | none => some
      (.stockTask pending.input.attestationId slot.slotId,
        store.projectedStock pending.input.planogramVersion slot.slotId,
        pending.attestedAt)

/--
Turn the count of one slot into a local fact.  The error `none` rolls the
finalisation back without reporting an error.
-/
def finalizeSlot
    (pending : PendingPhysicalStockAttestation)
    (now : Time)
    (slot : PhysicalStockAttestationSlotInput) :
    Transaction Store (Option StoreError) Unit := do
  let store ← get
  let row ← Transaction.requireSome
    (store.machinePlanogramSlots.find?
      (pending.input.planogramVersion, slot.slotId)) none
  Transaction.require
    (slot.slotId == row.slotId && decide (slot.quantity ≤ row.capacity))
    none
  let observation ← Transaction.requireSome
    (pending.observationOf store slot) none
  Transaction.statement fun store =>
    (insertStockMovement store
      (attestedMovement pending.input slot observation.1
        observation.2.1 observation.2.2)).mapError some
  Transaction.statement fun store =>
    (projectAttestedSlot store pending.input.planogramVersion
      slot now).mapError some

/-- Turn the counts of all slots into local facts. -/
def finalizeSlots
    (pending : PendingPhysicalStockAttestation)
    (now : Time) : Transaction Store (Option StoreError) Unit := do
  forM pending.input.slots (finalizeSlot pending now)
  modify fun store =>
    { store with
      physicalStockAttestation := some
        { attestationId := pending.input.attestationId
          planogramVersion := pending.input.planogramVersion
          operatorId := pending.input.operatorId
          attestedAt := pending.attestedAt
          slots := pending.input.slots }
      pendingPhysicalStockAttestation := none
      failedPhysicalStockAttestation := none }

/-- Finalise the pending attestation if the platform accepted all of it. -/
def finalizePendingPhysicalStockAttestationIfAccepted
    (store : Store)
    (now : Time) : Except StoreError (Store × Bool) :=
  match store.pendingPhysicalStockAttestation with
  | none => .ok (store, false)
  | some pending =>
    if !pending.accepted store then .ok (store, false)
    else if store.activePlanogramVersion ≠
        some pending.input.planogramVersion then .ok (store, false)
    else
      match (finalizeSlots pending now).run store with
      | .ok (_, finalized) => .ok (finalized, true)
      | .error none => .ok (store, false)
      | .error (some refusal) => .error refusal

/--
The movement of a slot that occurred last.  `idBefore` is the text order of
the identifiers, which decides between movements of the same time.
-/
def Store.latestMovement
    (store : Store)
    (idBefore : MovementId → MovementId → Bool)
    (version : PlanogramVersion)
    (slotId : SlotId) : Option StockMovement :=
  (store.stockMovements.rows.filter (fun movement =>
    movement.planogramVersion == version && movement.slotId == slotId)).foldl
      (fun latest movement =>
        match latest with
        | none => some movement
        | some current =>
          if current.occurredAt < movement.occurredAt ∨
              (current.occurredAt = movement.occurredAt ∧
                idBefore current.movementId movement.movementId = true) then
            some movement
          else some current)
      none

inductive PhysicalStockAttestationCode where
  | uploadFailed
  | rejected
  | pending
  | missing
  | stale
  | ready
  | inconsistent
  deriving Repr, DecidableEq

structure PhysicalStockAttestationStatus where
  code : PhysicalStockAttestationCode
  message : String
  attestationId : Option TaskId
  planogramVersion : Option PlanogramVersion
  attestedAt : Option Time
  inconsistentSlots : List SlotId
  deriving Repr, DecidableEq

/-- The status of an attestation that waits for the platform. -/
def pendingAttestationStatus
    (store : Store)
    (pending : PendingPhysicalStockAttestation) :
    PhysicalStockAttestationStatus :=
  let syncs := pending.movementIds.filterMap store.stockMovementSync.find?
  let shown : PhysicalStockAttestationCode × String :=
    match syncs.find? (fun sync =>
        sync.status == .failed || sync.status.isTerminalRejection) with
    | some sync =>
      let reason :=
        sync.lastError.getD "platform rejected the stock correction"
      (if sync.status = .failed then .uploadFailed else .rejected,
        s!"physical stock attestation was not accepted by Platform; correct the count and submit again ({reason})")
    | none =>
      (.pending,
        "physical stock attestation is awaiting Platform acknowledgement; keep the record-stock cursor open and refresh status")
  { code := shown.1
    message := shown.2
    attestationId := some pending.input.attestationId
    planogramVersion := some pending.input.planogramVersion
    attestedAt := some pending.attestedAt
    inconsistentSlots := [] }

/-- The projected stock of a slot is not what its attestation and ledger say. -/
def Store.slotIsInconsistent
    (store : Store)
    (idBefore : MovementId → MovementId → Bool)
    (stored : StoredPhysicalStockAttestation)
    (row : PlanogramSlot) : Bool :=
  let physicalStock :=
    (store.projectionOf stored.planogramVersion row.slotId).map
      StockProjection.physicalStock
  let replayedStock :=
    (store.latestMovement idBefore stored.planogramVersion row.slotId).map
      StockMovement.afterQuantity
  match stored.slots.find? (fun slot => slot.slotId == row.slotId) with
  | none => true
  | some attested =>
    attested.slotId != row.slotId || attested.sku != row.sku ||
      decide (attested.quantity > row.capacity) ||
      physicalStock.isNone ||
      physicalStock.any (fun quantity => decide (quantity > row.capacity)) ||
      replayedStock.isNone || physicalStock != replayedStock

/-- The status of the last attestation that became a stock fact. -/
def storedAttestationStatus
    (store : Store)
    (idBefore : MovementId → MovementId → Bool)
    (stored : StoredPhysicalStockAttestation) :
    PhysicalStockAttestationStatus :=
  let inconsistentSlots :=
    ((store.planogramSlots stored.planogramVersion).filter
      (store.slotIsInconsistent idBefore stored)).map
        (fun row => row.slotId)
  let shown : PhysicalStockAttestationCode × String × List SlotId :=
    if store.activePlanogramVersion ≠ some stored.planogramVersion then
      (.stale, "physical stock attestation is for a stale planogram", [])
    else if inconsistentSlots.isEmpty then
      (.ready, "physical stock attestation is ready", [])
    else
      (.inconsistent,
        "physical stock attestation is inconsistent with local stock state",
        inconsistentSlots)
  { code := shown.1
    message := shown.2.1
    attestationId := some stored.attestationId
    planogramVersion := some stored.planogramVersion
    attestedAt := some stored.attestedAt
    inconsistentSlots := shown.2.2 }

/-- The status that the store shows after a finalisation was tried. -/
def Store.attestationStatus
    (store : Store)
    (idBefore : MovementId → MovementId → Bool) :
    PhysicalStockAttestationStatus :=
  match store.pendingPhysicalStockAttestation,
      store.failedPhysicalStockAttestation,
      store.physicalStockAttestation with
  | some pending, _, _ => pendingAttestationStatus store pending
  | none, some failed, _ =>
    { code := .rejected
      message :=
        "physical stock attestation was rejected by Platform; correct the count and submit a new attestation"
      attestationId := some failed.input.attestationId
      planogramVersion := some failed.input.planogramVersion
      attestedAt := some failed.attestedAt
      inconsistentSlots := [] }
  | none, none, none =>
    { code := .missing
      message := "physical stock attestation is missing"
      attestationId := none
      planogramVersion := none
      attestedAt := none
      inconsistentSlots := [] }
  | none, none, some stored => storedAttestationStatus store idBefore stored

/-- Finalise if possible, then report the attestation. -/
def physicalStockAttestationStatus
    (store : Store)
    (idBefore : MovementId → MovementId → Bool)
    (now : Time) :
    Except StoreError (Store × PhysicalStockAttestationStatus) :=
  (finalizePendingPhysicalStockAttestationIfAccepted store now).map
    fun finalized =>
      (finalized.1, finalized.1.attestationStatus idBefore)

end VendingSystem.Daemon
