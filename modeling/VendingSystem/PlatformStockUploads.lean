import VendingSystem.PlatformDispenseResults
import VendingSystem.Service

namespace VendingSystem.Platform

/-!
# Uploaded stock movements

`receiveRawMovement` in the steps that it takes at the database.  A field
movement is applied to the stock in a second transaction, and a third one
sends it to review or restores its slot.
-/

/-- An open review of a movement whose slot is taken out of sale. -/
def openReview
    (slotId : SlotId)
    (reason : MachineStockReconciliationReason)
    (blocker : SaleSafetyBlockerState) : Reconciliation where
  reconciliationReason := reason
  platformReviewStatus := .open
  saleSafetyBlockerState := some blocker
  saleSafetyBlockerSlotId := some slotId

def orderBoundDispenseReconciliation
    (slotId : SlotId)
    (reason : MachineStockReconciliationReason) : Reconciliation :=
  openReview slotId reason .needsPlatformReview

def fieldStockReconciliation
    (slotId : SlotId)
    (reason : MachineStockReconciliationReason) : Reconciliation :=
  openReview slotId reason .needsPlatformReview

def fieldStockApplicationFailedReconciliation
    (slotId : SlotId) : Reconciliation :=
  fieldStockReconciliation slotId .mappingMismatch

def movementConflictReconciliation (slotId : SlotId) : Reconciliation :=
  openReview slotId .movementIdPayloadConflict .movementRejected

namespace RawMachineStockMovement

def isOrderBoundDispenseMovement (input : RawMachineStockMovement) : Bool :=
  input.movementType = .dispenseSucceeded

def isFieldStockMovement (input : RawMachineStockMovement) : Bool :=
  input.movementType = .plannedRefill ||
    input.movementType = .stockCountCorrection

/-- Every field movement is applied as soon as it is accepted. -/
def isAutoAppliedFieldStockMovement
    (input : RawMachineStockMovement) : Bool :=
  input.isFieldStockMovement

def isOperatorVerifiedRecoveryMovement
    (input : RawMachineStockMovement) : Bool :=
  input.isFieldStockMovement &&
    (input.source = .localMaintenance ||
      input.source = .physicalStockAttestation)

end RawMachineStockMovement

/-- The characters that `String.prototype.trim` removes. -/
def isTrimmed (character : Char) : Bool :=
  character.val ∈
      [0x20, 0xA0, 0x1680, 0x2028, 0x2029, 0x202F, 0x205F, 0x3000, 0xFEFF] ||
    (0x09 ≤ character.val && character.val ≤ 0x0D) ||
    (0x2000 ≤ character.val && character.val ≤ 0x200A)

/-- `!attributedTo?.trim()` -/
def lacksAttribution (attributedTo : Option String) : Bool :=
  attributedTo.all fun text => text.toList.all isTrimmed

/-- The version of a machine's planogram under a name. -/
def Db.planogramVersion
    (db : Db)
    (machineId : MachineId)
    (planogramVersion : PlanogramVersionName) :
    Option MachinePlanogramVersion :=
  db.machinePlanogramVersions.rows.find? fun version =>
    version.machineId = machineId &&
      version.planogramVersion = planogramVersion

structure MovementApplicationContext where
  machineSlotKnown : Bool
  planogramKnown : Bool
  planogramActive : Bool
  slotInPlanogram : Bool
  deriving Repr, DecidableEq

def Db.getMovementApplicationContext
    (db : Db)
    (machineId : MachineId)
    (planogramVersion : PlanogramVersionName)
    (slotId : SlotId) : MovementApplicationContext :=
  let slot := (db.machineSlots.find? slotId).filter fun slot =>
    slot.machineId = machineId && slot.deletedAt.isNone
  let version := db.planogramVersion machineId planogramVersion
  let versionSlot := version.bind fun version =>
    db.machinePlanogramSlots.find? (version.id, slotId)
  { machineSlotKnown := slot.isSome
    planogramKnown := version.isSome
    planogramActive := version.any fun version => version.status = .active
    slotInPlanogram := versionSlot.isSome }

/-- Why a movement does not fit the planogram of its machine. -/
def Db.reconciliationForMovement
    (db : Db)
    (machineId : MachineId)
    (input : RawMachineStockMovement) : Option Reconciliation :=
  let context := db.getMovementApplicationContext machineId
    input.planogramVersion input.slotId
  if !context.machineSlotKnown then
    some (openReview input.slotId .unknownSlot .needsPlatformReview)
  else if !context.planogramKnown then
    some (openReview input.slotId .unknownPlanogramVersion
      .blockedForPlanogramChange)
  else if !context.planogramActive then
    some (openReview input.slotId .inactivePlanogramVersion
      .blockedForPlanogramChange)
  else if !context.slotInPlanogram then
    some (openReview input.slotId .mappingMismatch .blockedForPlanogramChange)
  else none

/-- The slot in the machine's active planogram, once it is acknowledged. -/
def Db.getActiveAcknowledgedPlanogramSlot
    (db : Db)
    (machineId : MachineId)
    (planogramVersion : PlanogramVersionName)
    (slotId : SlotId) : Option MachinePlanogramSlot := do
  let version ← (db.planogramVersion machineId planogramVersion).filter
    fun version => version.status = .active && version.acknowledgedAt.isSome
  db.machinePlanogramSlots.find? (version.id, slotId)

def slotMappingSnapshotMatchesPlatformSlot
    (snapshot : SlotMappingSnapshot)
    (platformSlot : MachinePlanogramSlot) : Bool :=
  snapshot.capacity = platformSlot.capacity &&
    snapshot.inventoryId = some platformSlot.inventoryId &&
    snapshot.variantId = some platformSlot.variantId

/-- Quantities that the slot cannot hold, or that do not add up. -/
def RawMachineStockMovement.hasAbnormalVariance
    (input : RawMachineStockMovement)
    (capacity beforeQuantity afterQuantity : Nat) : Bool :=
  beforeQuantity > capacity || afterQuantity > capacity ||
    (input.movementType = .plannedRefill &&
      (afterQuantity : Int) - beforeQuantity ≠ input.quantity) ||
    (input.movementType = .stockCountCorrection &&
      afterQuantity ≠ input.quantity)

/-- Whoever entered the movement may not enter one of its type. -/
def RawMachineStockMovement.hasUntrustedSource
    (input : RawMachineStockMovement) : Bool :=
  (input.movementType = .stockCountCorrection &&
      input.source ≠ .approvedCount &&
      input.source ≠ .platformApprovedCount &&
      input.source ≠ .physicalStockAttestation &&
      input.source ≠ .localMaintenance) ||
    (input.movementType = .plannedRefill &&
      input.source ≠ .localMaintenance)

/-- Why a field movement is not trusted. -/
def Db.reconciliationForFieldStockMovement
    (db : Db)
    (machineId : MachineId)
    (input : RawMachineStockMovement) : Option Reconciliation :=
  if !input.isFieldStockMovement then none
  else if lacksAttribution input.attributedTo then
    some (fieldStockReconciliation input.slotId .weakAttribution)
  else
    match input.beforeQuantity, input.afterQuantity,
        input.slotMappingSnapshot with
    | some beforeQuantity, some afterQuantity, some snapshot =>
      if snapshot.inventoryId.isNone || snapshot.variantId.isNone then
        some (fieldStockReconciliation input.slotId .mappingMismatch)
      else if input.hasAbnormalVariance snapshot.capacity beforeQuantity
          afterQuantity then
        some (fieldStockReconciliation input.slotId .abnormalVariance)
      else if input.hasUntrustedSource then
        some (fieldStockReconciliation input.slotId .weakAttribution)
      else if (db.getActiveAcknowledgedPlanogramSlot machineId
            input.planogramVersion input.slotId).any
          (slotMappingSnapshotMatchesPlatformSlot snapshot) then
        none
      else some (fieldStockReconciliation input.slotId .mappingMismatch)
    | _, _, _ =>
      some (fieldStockReconciliation input.slotId .mappingMismatch)

inductive IngestionStatus where
  | accepted
  | alreadyAccepted
  | rejected
  | reconciliation
  deriving Repr, DecidableEq

inductive MovementRejectionReason where
  | orderConfirmationFailed
  | movementIdPayloadConflict
  deriving Repr, DecidableEq

structure MachineStockMovementIngestionResponse where
  movementId : MovementName
  status : IngestionStatus
  reconciliation : Option Reconciliation
  rejection : Option MovementRejectionReason
  deriving Repr, DecidableEq

def acceptedResponse
    (movementId : MovementName)
    (status : IngestionStatus) : MachineStockMovementIngestionResponse where
  movementId := movementId
  status := status
  reconciliation := none
  rejection := none

def rejectedResponse
    (movementId : MovementName)
    (reason : MovementRejectionReason) :
    MachineStockMovementIngestionResponse where
  movementId := movementId
  status := .rejected
  reconciliation := none
  rejection := some reason

def reconciliationResponse
    (movementId : MovementName)
    (reconciliation : Reconciliation) :
    MachineStockMovementIngestionResponse where
  movementId := movementId
  status := .reconciliation
  reconciliation := some reconciliation
  rejection := none

/-- The review of a stored movement, as a replay is told about it. -/
def StoredRawMachineStockMovement.reviewToReport
    (existing : StoredRawMachineStockMovement) : Reconciliation where
  reconciliationReason :=
    (existing.reconciliation.map
      Reconciliation.reconciliationReason).getD .unknownSlot
  platformReviewStatus := .open
  saleSafetyBlockerState :=
    existing.reconciliation.bind Reconciliation.saleSafetyBlockerState
  saleSafetyBlockerSlotId :=
    existing.reconciliation.bind Reconciliation.saleSafetyBlockerSlotId

/-- A movement as the authenticated machine uploads it. -/
structure MovementUpload where
  machineId : MachineId
  input : RawMachineStockMovement
  deriving Repr, DecidableEq

/-- What a call of `receiveRawMovement` does next. -/
inductive MovementTask where
  | lookUp (upload : MovementUpload)
  | findContext (upload : MovementUpload)
  | checkPlanogram (upload : MovementUpload)
  | checkField
      (upload : MovementUpload)
      (context : Option OrderBoundDispenseConfirmationContext)
  | review (upload : MovementUpload) (reconciliation : Reconciliation)
  | accept
      (upload : MovementUpload)
      (context : Option OrderBoundDispenseConfirmationContext)
  | dispatchRefunds (upload : MovementUpload)
  | apply (upload : MovementUpload)
  | markUnapplied (upload : MovementUpload)
  | restoreSlot (upload : MovementUpload)
  | lookUpAgain (upload : MovementUpload)
  | respondForExisting
      (upload : MovementUpload)
      (existing : StoredRawMachineStockMovement)
  | answered
      (upload : MovementUpload)
      (response : MachineStockMovementIngestionResponse)
  | refused (upload : MovementUpload) (error : ServiceError)
  deriving Repr, DecidableEq

/-- The movement that a step is about. -/
def MovementTask.upload : MovementTask → MovementUpload
  | .lookUp upload
  | .findContext upload
  | .checkPlanogram upload
  | .checkField upload _
  | .review upload _
  | .accept upload _
  | .dispatchRefunds upload
  | .apply upload
  | .markUnapplied upload
  | .restoreSlot upload
  | .lookUpAgain upload
  | .respondForExisting upload _
  | .answered upload _
  | .refused upload _ => upload

/-- The order line of a dispense, or the review that it goes to without one. -/
def orderBoundDispenseContextForMovement
    (db : Db)
    (upload : MovementUpload) : MovementTask :=
  let slotId := upload.input.slotId
  if !upload.input.isOrderBoundDispenseMovement then .checkPlanogram upload
  else if upload.input.orderContext.isNone then
    .review upload
      (orderBoundDispenseReconciliation slotId .orderContextMissing)
  else
    match db.getOrderBoundDispenseConfirmationContext upload.machineId
        upload.input with
    | none =>
      .review upload
        (orderBoundDispenseReconciliation slotId .orderContextMismatch)
    | some context => .checkField upload (some context)

/-- Answer a call from the row that is stored under its movement. -/
def responseForExisting
    (upload : MovementUpload)
    (existing : StoredRawMachineStockMovement) :
    DrizzleTransaction MachineStockMovementIngestionResponse := do
  let movementId := upload.input.movementId
  if existing.payload = upload.input then
    if existing.status = .reconciliation then
      pure (reconciliationResponse movementId existing.reviewToReport)
    else if existing.status = .accepted &&
        upload.input.isOrderBoundDispenseMovement then do
      let repaired ← repairAcceptedOrderBoundDispenseCommand
        upload.machineId upload.input
      pure
        (if repaired then acceptedResponse movementId .alreadyAccepted
        else rejectedResponse movementId .orderConfirmationFailed)
    else pure (acceptedResponse movementId .alreadyAccepted)
  else do
    let conflict := movementConflictReconciliation upload.input.slotId
    insertConflictReconciliation upload.machineId upload.input conflict
    pure
      { reconciliationResponse movementId conflict with
        rejection := some .movementIdPayloadConflict }

/-- What follows the acceptance of a movement without an order line. -/
def MovementUpload.afterAcceptance (upload : MovementUpload) : MovementTask :=
  if upload.input.isAutoAppliedFieldStockMovement then .apply upload
  else
    .answered upload (acceptedResponse upload.input.movementId .accepted)

/-- What follows the application of a field movement. -/
def MovementUpload.afterApplication
    (upload : MovementUpload)
    (applied : Bool) : MovementTask :=
  if !applied then .markUnapplied upload
  else if upload.input.isOperatorVerifiedRecoveryMovement then
    .restoreSlot upload
  else
    .answered upload (acceptedResponse upload.input.movementId .accepted)

/-- The next step of a call. -/
def receiveRawMovement
    (task : MovementTask)
    (now : Time) : DrizzleTransaction (List MovementTask) := do
  let upload := task.upload
  let movementId := upload.input.movementId
  match task with
  | .lookUp _ => do
      let db ← get
      match db.findByMachineMovement upload.machineId movementId with
      | some existing => pure [.respondForExisting upload existing]
      | none => pure [.findContext upload]
  | .findContext _ => do
      let db ← get
      pure [orderBoundDispenseContextForMovement db upload]
  | .checkPlanogram _ => do
      let db ← get
      match db.reconciliationForMovement upload.machineId upload.input with
      | some reconciliation => pure [.review upload reconciliation]
      | none => pure [.checkField upload none]
  | .checkField _ context => do
      let db ← get
      match db.reconciliationForFieldStockMovement upload.machineId
          upload.input with
      | some reconciliation => pure [.review upload reconciliation]
      | none => pure [.accept upload context]
  | .review _ reconciliation => do
      insertReconciliation upload.machineId upload.input reconciliation
      pure [.answered upload (reconciliationResponse movementId reconciliation)]
  | .accept _ (some context) => do
      insertAcceptedWithOrderBoundDispenseConfirmation upload.machineId
        upload.input context now
      pure [.dispatchRefunds upload]
  -- The refunds themselves are dispatched in transactions of their own.
  | .dispatchRefunds _ =>
    pure [.answered upload (acceptedResponse movementId .accepted)]
  | .accept _ none => do
      insertAccepted upload.machineId upload.input
      pure [upload.afterAcceptance]
  | .apply _ => do
      let applied ← applyTrustedFieldStockMovement upload.machineId
        upload.input
      pure [upload.afterApplication applied]
  | .markUnapplied _ => do
      let reconciliation :=
        fieldStockApplicationFailedReconciliation upload.input.slotId
      markReconciliation upload.machineId movementId reconciliation
      pure [.answered upload (reconciliationResponse movementId reconciliation)]
  | .restoreSlot _ => do
      restoreSlotAfterAcceptedLocalMaintenance upload.machineId
        upload.input.slotId
      pure [.answered upload (acceptedResponse movementId .accepted)]
  | .lookUpAgain _ => do
      let db ← get
      match db.findByMachineMovement upload.machineId movementId with
      | some existing => pure [.respondForExisting upload existing]
      | none => throw (.uniqueViolation
          "machine_raw_stock_movements_machine_movement_unique")
  | .respondForExisting _ existing => do
      let response ← responseForExisting upload existing
      pure [.answered upload response]
  | .answered _ _ => pure []
  | .refused _ _ => pure []

def isUniqueConstraintViolation (error : ServiceError) : Bool :=
  error = .uniqueViolation
    "machine_raw_stock_movements_machine_movement_unique"

/-- What a failed step leaves of its call. -/
def MovementTask.afterFailure
    (task : MovementTask)
    (refusal : ServiceError) : List MovementTask :=
  match task, refusal with
  | .accept upload (some _), .orderBoundDispenseConfirmationFailed _ =>
    [.answered upload
      (rejectedResponse upload.input.movementId .orderConfirmationFailed)]
  | .accept upload _, refusal =>
    if isUniqueConstraintViolation refusal then [.lookUpAgain upload]
    else [.refused upload refusal]
  | .answered _ _, _ => []
  | .refused _ _, _ => []
  | task, refusal => [.refused task.upload refusal]

/-- Calls of `receiveRawMovement`, interleaved at the database. -/
def movementService :
    Service Db ServiceError MovementTask Time where
  starts
    | .lookUp _ => true
    | _ => false
  perform := receiveRawMovement
  recover := MovementTask.afterFailure

section Commits

open Transaction

variable {before after : Db} {machineId : MachineId}
  {input : RawMachineStockMovement}

@[simp] theorem commits_insertRaw
    {status : RawMovementStatus}
    {reconciliation : Option Reconciliation}
    {answer : Unit} :
    Commits (insertRaw machineId input status reconciliation)
        before answer after ↔
      before.findByMachineMovement machineId input.movementId = none ∧
        after = before.addRawMovement machineId input status
          reconciliation := by
  simp [insertRaw, commits_bind]

/-- What the row of a trusted field movement must be to be written. -/
def RawMachineStockMovement.fieldGuard
    (input : RawMachineStockMovement)
    (machineId : MachineId)
    (variantId : VariantId)
    (beforeQuantity : Nat)
    (row : Inventory) : Bool :=
  row.isMappedTo machineId input.slotId variantId &&
    (input.movementType = .stockCountCorrection ||
      row.onHandQty = beforeQuantity)

/-- The inventory, variant and quantities that a field movement names. -/
structure FieldMovementData where
  inventoryId : InventoryId
  variantId : VariantId
  beforeQuantity : Nat
  afterQuantity : Nat
  deriving Repr, DecidableEq

def RawMachineStockMovement.fieldData
    (input : RawMachineStockMovement) : Option FieldMovementData := do
  let inventoryId ←
    input.slotMappingSnapshot.bind SlotMappingSnapshot.inventoryId
  let variantId ←
    input.slotMappingSnapshot.bind SlotMappingSnapshot.variantId
  let beforeQuantity ← input.beforeQuantity
  let afterQuantity ← input.afterQuantity
  pure { inventoryId, variantId, beforeQuantity, afterQuantity }

/-- An application wrote the quantity that the movement left, or nothing. -/
theorem commits_applyTrusted
    {applied : Bool}
    (committed :
      Commits (applyTrustedFieldStockMovement machineId input)
        before applied after) :
    (applied = false ∧ after = before) ∨
      (applied = true ∧ ∃ data row valid,
        input.fieldData = some data ∧
        before.inventories.find? data.inventoryId = some row ∧
        input.fieldGuard machineId data.variantId data.beforeQuantity row =
          true ∧
        after = (before.setInventory data.inventoryId data.afterQuantity
          row.reservedQty valid).addMovement data.inventoryId
            ((data.afterQuantity : Int) - row.onHandQty) .hardwareSync none
            (some (.machineStockMovement machineId input.movementId))) := by
  unfold applyTrustedFieldStockMovement at committed
  split at committed
  · rename_i inventoryId variantId beforeQuantity afterQuantity
      mapped ofVariant started left
    obtain ⟨updated, middle, wrote, finished⟩ := commits_bind.mp committed
    rcases commits_updateInventory.mp wrote with
      ⟨_, rfl, rfl⟩ | ⟨row, found, guard, rfl, valid, rfl⟩
    · exact Or.inl (commits_pure.mp finished)
    · right
      simp only [insertInventoryMovement, commits_modify_bind,
        commits_pure] at finished
      refine ⟨finished.1,
        ⟨inventoryId, variantId, beforeQuantity, afterQuantity⟩, row, valid,
        ?_, found, guard, finished.2⟩
      simp [RawMachineStockMovement.fieldData, mapped, ofVariant, started,
        left]
  · exact Or.inl (commits_pure.mp committed)

/-- What an answer from a stored row can do to the database. -/
inductive AnswersExisting
    (upload : MovementUpload)
    (existing : StoredRawMachineStockMovement)
    (before : Db) : Db → MachineStockMovementIngestionResponse → Prop where
  | underReview
      (same : existing.payload = upload.input)
      (reviewed : existing.status = .reconciliation) :
      AnswersExisting upload existing before before
        (reconciliationResponse upload.input.movementId
          existing.reviewToReport)
  | repaired
      {after : Db}
      {claimed : Bool}
      (same : existing.payload = upload.input)
      (accepted : existing.status = .accepted)
      (dispensed : upload.input.isOrderBoundDispenseMovement = true)
      (repair :
        Commits
          (repairAcceptedOrderBoundDispenseCommand upload.machineId
            upload.input)
          before claimed after) :
      AnswersExisting upload existing before after
        (if claimed then
          acceptedResponse upload.input.movementId .alreadyAccepted
        else
          rejectedResponse upload.input.movementId .orderConfirmationFailed)
  | alreadyAccepted
      (same : existing.payload = upload.input)
      (notReviewed : existing.status ≠ .reconciliation)
      (notDispensed : existing.status = .accepted →
        upload.input.isOrderBoundDispenseMovement = false) :
      AnswersExisting upload existing before before
        (acceptedResponse upload.input.movementId .alreadyAccepted)
  | conflicts
      {after : Db}
      (differs : existing.payload ≠ upload.input)
      (inserted :
        Commits
          (insertConflictReconciliation upload.machineId upload.input
            (movementConflictReconciliation upload.input.slotId))
          before () after) :
      AnswersExisting upload existing before after
        { reconciliationResponse upload.input.movementId
            (movementConflictReconciliation upload.input.slotId) with
          rejection := some .movementIdPayloadConflict }

theorem commits_responseForExisting
    {upload : MovementUpload}
    {existing : StoredRawMachineStockMovement}
    {response : MachineStockMovementIngestionResponse}
    (committed :
      Commits (responseForExisting upload existing) before response after) :
    AnswersExisting upload existing before after response := by
  unfold responseForExisting at committed
  by_cases same : existing.payload = upload.input
  · by_cases reviewed : existing.status = .reconciliation
    · simp only [same, reviewed, ↓reduceIte, commits_pure] at committed
      obtain ⟨rfl, rfl⟩ := committed
      exact .underReview same reviewed
    · by_cases dispensed : (existing.status = .accepted &&
          upload.input.isOrderBoundDispenseMovement) = true
      · simp only [same, reviewed, dispensed, ↓reduceIte] at committed
        obtain ⟨claimed, middle, repair, finished⟩ :=
          commits_bind.mp committed
        obtain ⟨rfl, rfl⟩ := commits_pure.mp finished
        simp only [Bool.and_eq_true, decide_eq_true_eq] at dispensed
        exact .repaired same dispensed.1 dispensed.2 repair
      · simp only [same, reviewed, dispensed, ↓reduceIte, Bool.false_eq_true,
          commits_pure] at committed
        obtain ⟨rfl, rfl⟩ := committed
        refine .alreadyAccepted same reviewed fun accepted => ?_
        simpa [accepted] using dispensed
  · simp only [same, ↓reduceIte, insertConflictReconciliation,
      commits_modify_bind, commits_pure] at committed
    obtain ⟨rfl, rfl⟩ := committed
    exact .conflicts same (commits_modify.mpr rfl)

end Commits

end VendingSystem.Platform
