import Mathlib.Algebra.Ring.Int.Defs
import VendingSystem.PlatformConservation
import VendingSystem.PlatformStockUploads

namespace VendingSystem.Platform

/-!
# Accepted movements are applied

A field movement is accepted in one transaction and applied in another.  What
comes between them can be the end of the process, a failure of the database,
or a second call that finds the movement stored.
-/

/-- The ledger rows that a stored movement left. -/
def Db.ledgerRows
    (db : Db)
    (machineId : MachineId)
    (movementId : MovementName) : List InventoryMovement :=
  db.inventoryMovements.rows.filter fun row =>
    row.note = some (.machineStockMovement machineId movementId)

/-- The movement that is stored as accepted under an identifier. -/
def Db.acceptedMovement
    (db : Db)
    (machineId : MachineId)
    (movementId : MovementName) : Option RawMachineStockMovement :=
  ((db.findByMachineMovement machineId movementId).filter
    fun stored => stored.status = .accepted).map
      StoredRawMachineStockMovement.payload

/-- What the ledger lists for an inventory. -/
def Db.ledgerQty (db : Db) (inventoryId : InventoryId) : Int :=
  ((db.inventoryMovements.rows.filter fun row =>
    row.inventoryId = inventoryId).map InventoryMovement.deltaQty).sum

/-- The stock on hand that the ledger does not explain. -/
def Db.unlistedQty (db : Db) (inventoryId : InventoryId) : Int :=
  db.onHandQty inventoryId - db.ledgerQty inventoryId

def RawMachineStockMovement.mappedInventory
    (input : RawMachineStockMovement) : Option InventoryId :=
  input.slotMappingSnapshot.bind SlotMappingSnapshot.inventoryId

/--
A field movement was written into its inventory once: the ledger has one row
for it, of the inventory that it is mapped to.
-/
def Db.HasApplied (db : Db) (upload : MovementUpload) : Prop :=
  ∃ row, db.ledgerRows upload.machineId upload.input.movementId = [row] ∧
    upload.input.mappedInventory = some row.inventoryId ∧
    row.reason = .hardwareSync

/-- The call has stored the movement and has not settled its stock. -/
def MovementTask.settles
    (machineId : MachineId)
    (movementId : MovementName) : MovementTask → Bool
  | .apply upload
  | .markUnapplied upload =>
    (upload.machineId, upload.input.movementId) = (machineId, movementId)
  | _ => false

/-- The call has stored some movement and has not settled its stock. -/
def MovementTask.isUnsettled (task : MovementTask) : Bool :=
  task.settles task.upload.machineId task.upload.input.movementId

abbrev MovementRuntime : Type := Service.Runtime Db MovementTask

abbrev MovementEvent : Type := Service.Event ServiceError MovementTask Time

/-- The movement of an identifier is not between its two transactions. -/
def SettledMovement
    (runtime : MovementRuntime)
    (upload : MovementUpload) : Prop :=
  ∀ task ∈ runtime.tasks,
    task.settles upload.machineId upload.input.movementId = false

/-- No operator rejected the movement that is stored. -/
def Db.NotRejected (db : Db) (upload : MovementUpload) : Prop :=
  ∀ stored ∈
      db.findByMachineMovement upload.machineId upload.input.movementId,
    stored.status ≠ .rejected

/-- The quantity that the movement left covers the reserved stock. -/
def Db.CoversReserved (db : Db) (upload : MovementUpload) : Prop :=
  ∀ data ∈ upload.input.fieldData,
    ∀ row ∈ db.inventories.find? data.inventoryId,
      upload.input.fieldGuard upload.machineId data.variantId
          data.beforeQuantity row = true →
        row.reservedQty ≤ data.afterQuantity

/-- What a call may find when it takes its next step. -/
def AdvancesUndisturbed
    (runtime : MovementRuntime) : MovementTask → Prop
  | .lookUp upload
  | .lookUpAgain upload =>
    SettledMovement runtime upload ∧ runtime.db.NotRejected upload
  | .apply upload => runtime.db.CoversReserved upload
  | _ => True

/--
Nothing comes between the acceptance of a field movement and the settlement of
its stock: no end of the process, no failure, no second call that looks the
movement up, and no quantity that the reserved stock forbids.
-/
def Undisturbed (runtime : MovementRuntime) : MovementEvent → Prop
  | .submit _ => True
  | .advance position _ =>
    ∀ task ∈ runtime.tasks[position]?, AdvancesUndisturbed runtime task
  | .fail position _ =>
    ∀ task ∈ runtime.tasks[position]?, task.isUnsettled = false
  | .crash => ∀ task ∈ runtime.tasks, task.isUnsettled = false

instance (runtime : MovementRuntime) (upload : MovementUpload) :
    Decidable (SettledMovement runtime upload) :=
  inferInstanceAs (Decidable (∀ task ∈ _, _))

instance (db : Db) (upload : MovementUpload) :
    Decidable (db.NotRejected upload) :=
  inferInstanceAs (Decidable (∀ stored ∈ _, _))

instance (db : Db) (upload : MovementUpload) :
    Decidable (db.CoversReserved upload) :=
  inferInstanceAs (Decidable (∀ data ∈ _, ∀ row ∈ _, _ → _))

instance decidableAdvancesUndisturbed (runtime : MovementRuntime) :
    ∀ task, Decidable (AdvancesUndisturbed runtime task)
  | .lookUp _
  | .lookUpAgain _ => inferInstanceAs (Decidable (_ ∧ _))
  | .apply upload =>
    inferInstanceAs (Decidable (runtime.db.CoversReserved upload))
  | .findContext _
  | .checkPlanogram _
  | .checkField _ _
  | .review _ _
  | .accept _ _
  | .dispatchRefunds _
  | .markUnapplied _
  | .restoreSlot _
  | .respondForExisting _ _
  | .answered _ _
  | .refused _ _ => isTrue trivial

instance decidableUndisturbed (runtime : MovementRuntime) :
    ∀ event, Decidable (Undisturbed runtime event)
  | .submit _ => isTrue trivial
  | .advance _ _ => inferInstanceAs (Decidable (∀ task ∈ _, _))
  | .fail _ _ => inferInstanceAs (Decidable (∀ task ∈ _, _))
  | .crash => inferInstanceAs (Decidable (∀ task ∈ _, _))

/-- The ledger lists exactly the accepted movements, each once. -/
structure Db.LedgerMatches (db : Db) : Prop where
  once : ∀ stored ∈ db.machineRawStockMovements.rows,
    stored.status = .accepted →
      (db.ledgerRows stored.machineId stored.movementId).length = 1
  accepted : ∀ row ∈ db.inventoryMovements.rows,
    ∀ machineId movementId,
      row.note = some (.machineStockMovement machineId movementId) →
        ∃ input, db.acceptedMovement machineId movementId = some input ∧
          (input.isFieldStockMovement = true →
            input.mappedInventory = some row.inventoryId ∧
              row.reason = .hardwareSync)

/-- The answers that tell the machine that its movement is done. -/
def MachineStockMovementIngestionResponse.acceptsMovement
    (response : MachineStockMovementIngestionResponse) : Bool :=
  response.status = .accepted || response.status = .alreadyAccepted

section Writes

variable (db : Db)

theorem Db.ledgerRows_addMovement
    (inventoryId : InventoryId)
    (deltaQty : Int)
    (reason : InventoryMovementReason)
    (orderId : Option OrderId)
    (noted : MachineId × MovementName)
    (machineId : MachineId)
    (movementId : MovementName) :
    (db.addMovement inventoryId deltaQty reason orderId
        (some (.machineStockMovement noted.1 noted.2))).ledgerRows
          machineId movementId =
      db.ledgerRows machineId movementId ++
        if noted = (machineId, movementId) then
          [{ id := db.inventoryMovements.nextId
             inventoryId, deltaQty, reason, orderId
             note := some (.machineStockMovement noted.1 noted.2) }]
        else [] := by
  unfold Db.ledgerRows Db.addMovement
  simp only [Table.rows_insertNext, List.filter_append, List.filter_cons,
    List.filter_nil, Option.some.injEq,
    InventoryMovementNote.machineStockMovement.injEq, decide_eq_true_eq,
    Prod.ext_iff]

theorem Db.ledgerQty_addMovement
    (inventoryId : InventoryId)
    (deltaQty : Int)
    (reason : InventoryMovementReason)
    (orderId : Option OrderId)
    (note : Option InventoryMovementNote)
    (other : InventoryId) :
    (db.addMovement inventoryId deltaQty reason orderId note).ledgerQty
        other =
      db.ledgerQty other + if inventoryId = other then deltaQty else 0 := by
  unfold Db.ledgerQty Db.addMovement
  simp only [Table.rows_insertNext, List.filter_append, List.filter_cons,
    List.filter_nil, decide_eq_true_eq]
  split <;> simp

theorem Db.unlistedQty_setInventory
    {db : Db}
    {inventoryId : InventoryId}
    {row : Inventory}
    (found : db.inventories.find? inventoryId = some row)
    {onHandQty reservedQty : Nat}
    (valid : reservedQty ≤ onHandQty)
    {after : Db}
    (written : after.inventories =
      (db.setInventory inventoryId onHandQty reservedQty valid).inventories)
    (listed : ∀ other, after.ledgerQty other =
      db.ledgerQty other +
        if inventoryId = other then (onHandQty : Int) - row.onHandQty else 0)
    (other : InventoryId) :
    after.unlistedQty other = db.unlistedQty other := by
  have onHand : after.onHandQty other =
      if other = inventoryId then onHandQty else db.onHandQty other := by
    rw [← Db.onHandQty_setInventory found valid, Db.onHandQty, written]
    rfl
  unfold Db.unlistedQty
  rw [onHand, listed other]
  by_cases same : other = inventoryId
  · subst same
    rw [Db.onHandQty_of_found found, if_pos rfl, if_pos rfl]
    omega
  · have differs : inventoryId ≠ other := fun equal => same equal.symm
    simp [same, differs]

theorem Db.acceptedMovement_addRawMovement
    {db : Db}
    {upload : MovementUpload}
    (fresh :
      db.findByMachineMovement upload.machineId upload.input.movementId =
        none)
    (status : RawMovementStatus)
    (reconciliation : Option Reconciliation)
    (machineId : MachineId)
    (movementId : MovementName) :
    (db.addRawMovement upload.machineId upload.input status
        reconciliation).acceptedMovement machineId movementId =
      if (upload.machineId, upload.input.movementId) =
          (machineId, movementId) then
        if status = .accepted then some upload.input else none
      else db.acceptedMovement machineId movementId := by
  unfold Db.acceptedMovement Db.findByMachineMovement Db.addRawMovement
  unfold Db.findByMachineMovement at fresh
  simp only [Table.find?_insertOrIgnore]
  by_cases same : (machineId, movementId) =
      (upload.machineId, upload.input.movementId)
  · rw [if_pos same, if_pos same.symm, same, fresh]
    by_cases accepted : status = .accepted <;> simp [accepted, Option.filter]
  · rw [if_neg same, if_neg fun equal => same equal.symm]

end Writes

/-- A step that accepts nothing and moves no stock. -/
structure KeepsLedger (before after : Db) : Prop where
  accepted : ∀ machineId movementId,
    after.acceptedMovement machineId movementId =
      before.acceptedMovement machineId movementId
  movements : after.inventoryMovements = before.inventoryMovements
  inventories : after.inventories = before.inventories

theorem KeepsLedger.refl (db : Db) : KeepsLedger db db :=
  ⟨fun _ _ => rfl, rfl, rfl⟩

/-- A committed step keeps the ledger, or accepts, lists or reviews. -/
inductive LedgerStep
    (before : Db) : MovementTask → List MovementTask → Db → Prop where
  | keeps
      {task : MovementTask}
      {answer : List MovementTask}
      {after : Db}
      (kept : KeepsLedger before after)
      (settling : ∀ machineId movementId,
        answer.countP (MovementTask.settles machineId movementId) =
          if task.settles machineId movementId then 1 else 0) :
      LedgerStep before task answer after
  | accepts
      {upload : MovementUpload}
      {after : Db}
      (fresh : before.acceptedMovement upload.machineId
        upload.input.movementId = none)
      (accepted : ∀ machineId movementId,
        after.acceptedMovement machineId movementId =
          if (upload.machineId, upload.input.movementId) =
              (machineId, movementId) then some upload.input
          else before.acceptedMovement machineId movementId)
      (movements : after.inventoryMovements = before.inventoryMovements)
      (inventories : after.inventories = before.inventories) :
      LedgerStep before (.accept upload none) [.apply upload] after
  | confirms
      {upload : MovementUpload}
      {context : OrderBoundDispenseConfirmationContext}
      {after : Db}
      {row : InventoryMovement}
      (fresh : before.acceptedMovement upload.machineId
        upload.input.movementId = none)
      (accepted : ∀ machineId movementId,
        after.acceptedMovement machineId movementId =
          if (upload.machineId, upload.input.movementId) =
              (machineId, movementId) then some upload.input
          else before.acceptedMovement machineId movementId)
      (listed : ∀ machineId movementId,
        after.ledgerRows machineId movementId =
          before.ledgerRows machineId movementId ++
            if (upload.machineId, upload.input.movementId) =
              (machineId, movementId) then [row] else [])
      (explained : ∀ inventoryId,
        after.unlistedQty inventoryId = before.unlistedQty inventoryId) :
      LedgerStep before (.accept upload (some context))
        [.dispatchRefunds upload] after
  | applies
      {upload : MovementUpload}
      {after : Db}
      {row : InventoryMovement}
      (kept : ∀ machineId movementId,
        after.acceptedMovement machineId movementId =
          before.acceptedMovement machineId movementId)
      (listed : ∀ machineId movementId,
        after.ledgerRows machineId movementId =
          before.ledgerRows machineId movementId ++
            if (upload.machineId, upload.input.movementId) =
              (machineId, movementId) then [row] else [])
      (mapped : upload.input.mappedInventory = some row.inventoryId)
      (reason : row.reason = .hardwareSync)
      (explained : ∀ inventoryId,
        after.unlistedQty inventoryId = before.unlistedQty inventoryId) :
      LedgerStep before (.apply upload) [upload.afterApplication true] after
  | reviews
      {upload : MovementUpload}
      {after : Db}
      {response : MachineStockMovementIngestionResponse}
      (accepted : ∀ machineId movementId,
        after.acceptedMovement machineId movementId =
          if (upload.machineId, upload.input.movementId) =
              (machineId, movementId) then none
          else before.acceptedMovement machineId movementId)
      (movements : after.inventoryMovements = before.inventoryMovements)
      (inventories : after.inventories = before.inventories)
      (reviewed : response.acceptsMovement = false) :
      LedgerStep before (.markUnapplied upload) [.answered upload response]
        after

section Steps

open Transaction

variable {before after : Db} {upload : MovementUpload}

theorem KeepsLedger.review
    {reconciliation : Option Reconciliation}
    (fresh :
      before.findByMachineMovement upload.machineId
        upload.input.movementId = none) :
    KeepsLedger before
      (before.addRawMovement upload.machineId upload.input .reconciliation
        reconciliation) := by
  refine ⟨fun machineId movementId => ?_, rfl, rfl⟩
  rw [Db.acceptedMovement_addRawMovement fresh]
  split
  · rename_i same
    obtain ⟨rfl, rfl⟩ := Prod.ext_iff.mp same
    simp [Db.acceptedMovement, fresh]
  · rfl

theorem KeepsLedger.restoreSlot
    {machineId : MachineId}
    {slotId : SlotId}
    (restored :
      Commits (restoreSlotAfterAcceptedLocalMaintenance machineId slotId)
        before () after) :
    KeepsLedger before after := by
  obtain rfl := commits_modify.mp restored
  refine ⟨fun ofMachine movementId => ?_, rfl, rfl⟩
  unfold Db.acceptedMovement Db.findByMachineMovement
  simp only [Table.find?_updateWhere]
  cases before.machineRawStockMovements.find? (ofMachine, movementId) with
  | none => rfl
  | some stored =>
    by_cases ofThis : stored.machineId = machineId <;>
      by_cases accepted : stored.status = .accepted <;>
        simp [ofThis, accepted, Option.filter]

theorem KeepsLedger.repair
    {claimed : Bool}
    (repaired :
      Commits
        (repairAcceptedOrderBoundDispenseCommand upload.machineId
          upload.input)
        before claimed after) :
    KeepsLedger before after := by
  unfold repairAcceptedOrderBoundDispenseCommand at repaired
  split at repaired
  · obtain ⟨_, rfl⟩ := commits_pure.mp repaired
    exact .refl _
  · rw [commits_get_bind] at repaired
    split at repaired
    · obtain ⟨_, rfl⟩ := commits_pure.mp repaired
      exact .refl _
    · rcases commits_claimCommand.mp repaired with
        ⟨_, rfl, _⟩ | ⟨_, rfl, _⟩
      · exact .refl _
      · exact ⟨fun _ _ => rfl, rfl, rfl⟩

theorem AnswersExisting.keepsLedger
    {existing : StoredRawMachineStockMovement}
    {response : MachineStockMovementIngestionResponse}
    (answers : AnswersExisting upload existing before after response) :
    KeepsLedger before after := by
  cases answers with
  | underReview => exact .refl _
  | alreadyAccepted => exact .refl _
  | repaired _ _ _ repair => exact .repair repair
  | conflicts _ inserted =>
    obtain rfl := commits_modify.mp inserted
    exact ⟨fun _ _ => rfl, rfl, rfl⟩

theorem confirmDispense_listed
    {context : OrderBoundDispenseConfirmationContext}
    {now : Time}
    {answer : Unit}
    (confirmed :
      Commits
        (confirmOrderBoundDispenseSucceededInTransaction upload.machineId
          upload.input context now)
        before answer after) :
    (∃ row : InventoryMovement, ∀ machineId movementId,
      after.ledgerRows machineId movementId =
        before.ledgerRows machineId movementId ++
          if (upload.machineId, upload.input.movementId) =
            (machineId, movementId) then [row] else []) ∧
    (∀ inventoryId,
      after.unlistedQty inventoryId = before.unlistedQty inventoryId) ∧
    after.machineRawStockMovements = before.machineRawStockMovements := by
  obtain ⟨command, row, valid, _, _, found, enough, _, _, _, finished⟩ :=
    commits_confirmOrderBoundDispenseSucceeded confirmed
  have orderSide := OrderSideOnly.syncOrderAndStagePartialRefund _ _ finished
  have movements : after.inventoryMovements =
      (before.addMovement context.inventoryId (-context.quantity)
        .purchaseConfirmed (some context.orderId)
        (some (.machineStockMovement upload.machineId
          upload.input.movementId))).inventoryMovements :=
    orderSide.inventoryMovements
  have rows : ∀ machineId movementId,
      after.ledgerRows machineId movementId =
        (before.addMovement context.inventoryId (-context.quantity)
          .purchaseConfirmed (some context.orderId)
          (some (.machineStockMovement upload.machineId
            upload.input.movementId))).ledgerRows machineId movementId := by
    intro machineId movementId
    unfold Db.ledgerRows
    rw [movements]
  refine ⟨⟨_, fun machineId movementId => (rows _ _).trans
      (Db.ledgerRows_addMovement before context.inventoryId
        (-context.quantity) .purchaseConfirmed (some context.orderId)
        (upload.machineId, upload.input.movementId) _ _)⟩,
    fun inventoryId => ?_, orderSide.machineRawStockMovements⟩
  · apply Db.unlistedQty_setInventory found valid orderSide.inventories
    intro other
    unfold Db.ledgerQty
    rw [movements]
    have listed := Db.ledgerQty_addMovement before context.inventoryId
      (-context.quantity) .purchaseConfirmed (some context.orderId)
      (some (.machineStockMovement upload.machineId
        upload.input.movementId)) other
    unfold Db.ledgerQty at listed
    rw [listed, Int.ofNat_sub enough]
    congr 2
    omega

theorem applyTrusted_ledgerStep
    {applied : Bool}
    (committed :
      Commits
        (applyTrustedFieldStockMovement upload.machineId upload.input)
        before applied after) :
    LedgerStep before (.apply upload) [upload.afterApplication applied]
      after := by
  rcases commits_applyTrusted committed with
    ⟨rfl, rfl⟩ | ⟨rfl, data, row, valid, named, found, _, rfl⟩
  · refine .keeps (.refl _) fun machineId movementId => ?_
    simp [MovementUpload.afterApplication, MovementTask.settles,
      List.countP_cons]
  · have mapped : upload.input.mappedInventory = some data.inventoryId := by
      simp only [RawMachineStockMovement.fieldData, Option.bind_eq_bind,
        Option.bind_eq_some_iff, Option.pure_def, Option.some.injEq]
        at named
      obtain ⟨_, ofInventory, _, _, _, _, _, _, rfl⟩ := named
      simpa [RawMachineStockMovement.mappedInventory,
        Option.bind_eq_some_iff] using ofInventory
    refine .applies (fun _ _ => rfl)
      (fun machineId movementId =>
        Db.ledgerRows_addMovement _ data.inventoryId
          ((data.afterQuantity : Int) - row.onHandQty) .hardwareSync none
          (upload.machineId, upload.input.movementId) machineId movementId)
      mapped rfl
      (Db.unlistedQty_setInventory found valid rfl fun other =>
        Db.ledgerQty_addMovement _ _ _ _ _ _ other)

end Steps

/-- What is known of a call by the step that it takes next. -/
def MovementTask.InOrder (db : Db) : MovementTask → Prop
  | .checkPlanogram upload
  | .checkField upload none
  | .accept upload none => upload.input.isFieldStockMovement = true
  | .checkField upload (some _)
  | .accept upload (some _)
  | .dispatchRefunds upload => upload.input.isFieldStockMovement = false
  | .apply upload
  | .markUnapplied upload =>
    db.acceptedMovement upload.machineId upload.input.movementId =
      some upload.input
  | .restoreSlot upload => db.HasApplied upload
  | .respondForExisting upload existing =>
    existing.payload = upload.input → existing.status ≠ .reconciliation →
      upload.input.isFieldStockMovement = true → db.HasApplied upload
  | .answered upload response =>
    response.acceptsMovement = true →
      upload.input.isFieldStockMovement = true → db.HasApplied upload
  | .lookUp _
  | .findContext _
  | .review _ _
  | .lookUpAgain _
  | .refused _ _ => True

theorem isFieldStockMovement_eq (input : RawMachineStockMovement) :
    input.isFieldStockMovement = !input.isOrderBoundDispenseMovement := by
  unfold RawMachineStockMovement.isFieldStockMovement
    RawMachineStockMovement.isOrderBoundDispenseMovement
  cases input.movementType <;> rfl

section Calls

open Transaction

variable {before after : Db}

theorem ledgerStep_of_commits
    {task : MovementTask}
    {now : Time}
    {answer : List MovementTask}
    (inOrder : task.InOrder before)
    (committed : Commits (receiveRawMovement task now) before answer after) :
    LedgerStep before task answer after := by
  have quiet : ∀ {task follow : MovementTask},
      (∀ machineId movementId, task.settles machineId movementId = false) →
      (∀ machineId movementId, follow.settles machineId movementId = false) →
      ∀ machineId movementId,
        [follow].countP (MovementTask.settles machineId movementId) =
          if task.settles machineId movementId then 1 else 0 := by
    intro task follow taskQuiet followQuiet machineId movementId
    simp [taskQuiet, followQuiet]
  cases task with
  | lookUp upload | lookUpAgain upload =>
    simp only [receiveRawMovement, MovementTask.upload, commits_get_bind]
      at committed
    split at committed
    · obtain ⟨rfl, rfl⟩ := commits_pure.mp committed
      exact .keeps (.refl _) (quiet (fun _ _ => rfl) (fun _ _ => rfl))
    · first
      | obtain ⟨rfl, rfl⟩ := commits_pure.mp committed
        exact .keeps (.refl _) (quiet (fun _ _ => rfl) (fun _ _ => rfl))
      | exact (commits_throw committed).elim
  | findContext upload =>
    simp only [receiveRawMovement, MovementTask.upload, commits_get_bind,
      commits_pure] at committed
    obtain ⟨rfl, rfl⟩ := committed
    refine .keeps (.refl _) (quiet (fun _ _ => rfl) fun _ _ => ?_)
    unfold orderBoundDispenseContextForMovement
    dsimp only
    split
    · rfl
    · split
      · rfl
      · split <;> rfl
  | checkPlanogram upload | checkField upload context =>
    simp only [receiveRawMovement, MovementTask.upload, commits_get_bind]
      at committed
    split at committed
    all_goals
      obtain ⟨rfl, rfl⟩ := commits_pure.mp committed
      exact .keeps (.refl _) (quiet (fun _ _ => rfl) (fun _ _ => rfl))
  | review upload reconciliation =>
    obtain ⟨_, _, stored, finished⟩ := commits_bind.mp committed
    obtain ⟨rfl, rfl⟩ := commits_pure.mp finished
    obtain ⟨fresh, rfl⟩ := commits_insertRaw.mp stored
    exact .keeps (.review fresh) (quiet (fun _ _ => rfl) (fun _ _ => rfl))
  | accept upload context =>
    cases context with
    | none =>
      obtain ⟨_, _, stored, finished⟩ := commits_bind.mp committed
      obtain ⟨rfl, rfl⟩ := commits_pure.mp finished
      obtain ⟨fresh, rfl⟩ := commits_insertRaw.mp stored
      have applied : upload.afterAcceptance = .apply upload := by
        simp only [MovementUpload.afterAcceptance,
          RawMachineStockMovement.isAutoAppliedFieldStockMovement]
        exact if_pos inOrder
      simp only [MovementTask.upload, applied]
      refine .accepts ?_
        (Db.acceptedMovement_addRawMovement fresh .accepted none)
        rfl rfl
      simp only [MovementTask.upload] at fresh
      simp [Db.acceptedMovement, fresh]
    | some context =>
      simp only [receiveRawMovement, MovementTask.upload,
        insertAcceptedWithOrderBoundDispenseConfirmation, commits_bind,
        commits_insertRaw, commits_pure] at committed
      obtain ⟨_, _, ⟨_, _, ⟨fresh, rfl⟩, confirmed⟩, rfl, rfl⟩ :=
        committed
      obtain ⟨⟨row, listed⟩, explained, stored⟩ :=
        confirmDispense_listed confirmed
      refine .confirms (by simp [Db.acceptedMovement, fresh]) ?_ listed
        explained
      intro machineId movementId
      have accepted := Db.acceptedMovement_addRawMovement fresh .accepted
        none machineId movementId
      simp only [↓reduceIte] at accepted
      refine Eq.trans ?_ accepted
      unfold Db.acceptedMovement Db.findByMachineMovement
      rw [stored]
  | dispatchRefunds upload =>
    obtain ⟨rfl, rfl⟩ := commits_pure.mp committed
    exact .keeps (.refl _) (quiet (fun _ _ => rfl) (fun _ _ => rfl))
  | apply upload =>
    obtain ⟨applied, _, wrote, finished⟩ := commits_bind.mp committed
    obtain ⟨rfl, rfl⟩ := commits_pure.mp finished
    exact applyTrusted_ledgerStep wrote
  | markUnapplied upload =>
    simp only [receiveRawMovement, MovementTask.upload, markReconciliation,
      commits_modify_bind, commits_pure] at committed
    obtain ⟨rfl, rfl⟩ := committed
    refine .reviews (fun machineId movementId => ?_) rfl rfl rfl
    unfold Db.acceptedMovement Db.findByMachineMovement
    simp only [Table.find?_modify]
    by_cases same : (machineId, movementId) =
        (upload.machineId, upload.input.movementId)
    · rw [if_pos same, if_pos same.symm]
      cases before.machineRawStockMovements.find? (machineId, movementId)
        <;> simp [Option.filter]
    · rw [if_neg same, if_neg fun equal => same equal.symm]
  | restoreSlot upload =>
    obtain ⟨_, _, restored, finished⟩ := commits_bind.mp committed
    obtain ⟨rfl, rfl⟩ := commits_pure.mp finished
    exact .keeps (.restoreSlot restored)
      (quiet (fun _ _ => rfl) (fun _ _ => rfl))
  | respondForExisting upload existing =>
    obtain ⟨response, _, responded, finished⟩ := commits_bind.mp committed
    obtain ⟨rfl, rfl⟩ := commits_pure.mp finished
    exact .keeps (commits_responseForExisting responded).keepsLedger
      (quiet (fun _ _ => rfl) (fun _ _ => rfl))
  | answered upload response | refused upload error =>
    obtain ⟨rfl, rfl⟩ := commits_pure.mp committed
    exact .keeps (.refl _) fun _ _ => rfl

end Calls

/--
An accepted movement has one row in the ledger, or one call that still settles
its stock; every other movement has neither.
-/
structure Accounted
    (first : Db)
    (runtime : MovementRuntime) : Prop where
  explained : ∀ inventoryId,
    runtime.db.unlistedQty inventoryId = first.unlistedQty inventoryId
  counted : ∀ machineId movementId,
    (runtime.db.ledgerRows machineId movementId).length +
        runtime.tasks.countP (MovementTask.settles machineId movementId) =
      if (runtime.db.acceptedMovement machineId movementId).isSome then 1
      else 0
  mapped : ∀ machineId movementId input,
    runtime.db.acceptedMovement machineId movementId = some input →
      input.isFieldStockMovement = true →
        ∀ row ∈ runtime.db.ledgerRows machineId movementId,
          input.mappedInventory = some row.inventoryId ∧
            row.reason = .hardwareSync
  inOrder : ∀ task ∈ runtime.tasks, task.InOrder runtime.db

section Invariant

variable {first before after : Db} {runtime next : MovementRuntime}
  {upload : MovementUpload} {existing : StoredRawMachineStockMovement}
  {now : Time} {refusal : ServiceError}

theorem Db.LedgerMatches.accounted
    (ledgerMatches : first.LedgerMatches) :
    Accounted first { db := first, tasks := [] } where
  explained _ := rfl
  counted machineId movementId := by
    simp only [List.countP_nil, Nat.add_zero]
    cases accepted : first.acceptedMovement machineId movementId with
    | some input =>
      simp only [Db.acceptedMovement, Db.findByMachineMovement,
        Option.map_eq_some_iff, Option.filter_eq_some_iff,
        decide_eq_true_eq] at accepted
      obtain ⟨stored, ⟨found, accepted⟩, _⟩ := accepted
      have once := ledgerMatches.once stored (Table.mem_of_find? found) accepted
      have key := Table.key_of_find? found
      obtain ⟨rfl, rfl⟩ := Prod.ext_iff.mp key
      simpa using once
    | none =>
      simp only [Option.isSome_none, Bool.false_eq_true, ↓reduceIte,
        List.length_eq_zero_iff, Db.ledgerRows, List.filter_eq_nil_iff,
        decide_eq_true_eq]
      intro row member noted
      obtain ⟨input, found, _⟩ :=
        ledgerMatches.accepted row member machineId movementId noted
      rw [accepted] at found
      cases found
  mapped machineId movementId input accepted field row member := by
    obtain ⟨stored, noted⟩ := List.mem_filter.mp member
    obtain ⟨other, found, fits⟩ := ledgerMatches.accepted row stored
      machineId movementId (by simpa using noted)
    rw [accepted] at found
    cases found
    exact fits field
  inOrder _ member := by cases member

theorem Accounted.ledgerRows_length_le
    (accounted : Accounted first runtime)
    (machineId : MachineId)
    (movementId : MovementName) :
    (runtime.db.ledgerRows machineId movementId).length +
      runtime.tasks.countP (MovementTask.settles machineId movementId) ≤
        1 := by
  rw [accounted.counted machineId movementId]
  split <;> omega

theorem Accounted.hasApplied
    (accounted : Accounted first runtime)
    (accepted : runtime.db.acceptedMovement upload.machineId
      upload.input.movementId = some upload.input)
    (field : upload.input.isFieldStockMovement = true)
    (settled : SettledMovement runtime upload) :
    runtime.db.HasApplied upload := by
  have counted := accounted.counted upload.machineId upload.input.movementId
  have noneSettles : runtime.tasks.countP (MovementTask.settles
      upload.machineId upload.input.movementId) = 0 := by
    rw [List.countP_eq_zero]
    intro task member
    simp [settled task member]
  rw [noneSettles, accepted, Nat.add_zero] at counted
  obtain ⟨row, only⟩ := List.length_eq_one_iff.mp counted
  exact ⟨row, only, accounted.mapped _ _ _ accepted field row (by simp [only])⟩

theorem Db.HasApplied.later
    (applied : before.HasApplied upload)
    (grown : ∃ added, after.ledgerRows upload.machineId
      upload.input.movementId =
        before.ledgerRows upload.machineId upload.input.movementId ++ added)
    (atMostOne : (after.ledgerRows upload.machineId
      upload.input.movementId).length ≤ 1) :
    after.HasApplied upload := by
  obtain ⟨row, only, mapped⟩ := applied
  obtain ⟨added, grown⟩ := grown
  rw [grown, only] at atMostOne
  have nothing : added = [] := by
    cases added with
    | nil => rfl
    | cons _ _ => simp at atMostOne
  exact ⟨row, by rw [grown, only, nothing, List.append_nil], mapped⟩

theorem LedgerStep.grows
    {task : MovementTask}
    {answer : List MovementTask}
    (step : LedgerStep before task answer after)
    (machineId : MachineId)
    (movementId : MovementName) :
    ∃ added, after.ledgerRows machineId movementId =
      before.ledgerRows machineId movementId ++ added := by
  have same : after.inventoryMovements = before.inventoryMovements →
      ∃ added, after.ledgerRows machineId movementId =
        before.ledgerRows machineId movementId ++ added := by
    intro movements
    exact ⟨[], by simp [Db.ledgerRows, movements]⟩
  cases step with
  | keeps kept => exact same kept.movements
  | accepts _ _ movements => exact same movements
  | reviews _ movements => exact same movements
  | confirms _ _ listed => exact ⟨_, listed machineId movementId⟩
  | applies _ listed => exact ⟨_, listed machineId movementId⟩

theorem LedgerStep.explained
    {task : MovementTask}
    {answer : List MovementTask}
    (step : LedgerStep before task answer after)
    (inventoryId : InventoryId) :
    after.unlistedQty inventoryId = before.unlistedQty inventoryId := by
  have same : after.inventoryMovements = before.inventoryMovements →
      after.inventories = before.inventories →
        after.unlistedQty inventoryId = before.unlistedQty inventoryId := by
    intro movements inventories
    simp [Db.unlistedQty, Db.ledgerQty, Db.onHandQty, movements, inventories]
  cases step with
  | keeps kept => exact same kept.movements kept.inventories
  | accepts _ _ movements inventories => exact same movements inventories
  | reviews _ movements inventories => exact same movements inventories
  | confirms _ _ _ explained => exact explained inventoryId
  | applies _ _ _ _ explained => exact explained inventoryId

theorem afterApplication_settled
    (upload : MovementUpload)
    (machineId : MachineId)
    (movementId : MovementName) :
    (upload.afterApplication true).settles machineId movementId = false := by
  simp only [MovementUpload.afterApplication]
  split
  · contradiction
  · split <;> rfl

section Committed

variable
  {position : Nat}
  {task : MovementTask}
  {answer : List MovementTask}
  (accounted : Accounted first runtime)
  (found : runtime.tasks[position]? = some task)
  (step : LedgerStep runtime.db task answer after)

include accounted found step

/-- Ledger rows and settling calls stay the accepted movements. -/
theorem LedgerStep.counted
    (machineId : MachineId)
    (movementId : MovementName) :
    (after.ledgerRows machineId movementId).length +
        (runtime.tasks.eraseIdx position ++ answer).countP
          (MovementTask.settles machineId movementId) =
      if (after.acceptedMovement machineId movementId).isSome then 1
      else 0 := by
  have before := accounted.counted machineId movementId
  have tasks := Service.countP_followUps found
    (MovementTask.settles machineId movementId) answer
  have sameRows : after.inventoryMovements = runtime.db.inventoryMovements →
      after.ledgerRows machineId movementId =
        runtime.db.ledgerRows machineId movementId := by
    intro movements
    simp [Db.ledgerRows, movements]
  cases step with
  | keeps kept settling =>
    rw [settling machineId movementId] at tasks
    rw [sameRows kept.movements, kept.accepted]
    omega
  | @accepts upload _ fresh accepted movements =>
    rw [sameRows movements, accepted]
    simp only [List.countP_singleton, MovementTask.settles,
      decide_eq_true_eq, Bool.false_eq_true, ↓reduceIte] at tasks
    by_cases same : (upload.machineId, upload.input.movementId) =
        (machineId, movementId)
    · obtain ⟨rfl, rfl⟩ := Prod.ext_iff.mp same
      simp only [fresh, Option.isSome_none, Option.isSome_some,
        Bool.false_eq_true, ↓reduceIte] at before tasks ⊢
      omega
    · simp only [if_neg same] at tasks ⊢
      omega
  | @confirms upload _ _ _ fresh accepted listed =>
    rw [listed, accepted, List.length_append]
    simp only [List.countP_singleton, MovementTask.settles,
      Bool.false_eq_true, ↓reduceIte] at tasks
    by_cases same : (upload.machineId, upload.input.movementId) =
        (machineId, movementId)
    · obtain ⟨rfl, rfl⟩ := Prod.ext_iff.mp same
      simp only [fresh, Option.isSome_none, Option.isSome_some,
        Bool.false_eq_true, ↓reduceIte, List.length_singleton]
        at before tasks ⊢
      omega
    · simp only [if_neg same, List.length_nil] at tasks ⊢
      omega
  | @applies upload _ _ kept listed =>
    have quiet := afterApplication_settled upload machineId movementId
    rw [listed, kept, List.length_append]
    simp only [List.countP_singleton, quiet, Bool.false_eq_true,
      ↓reduceIte] at tasks
    simp only [MovementTask.settles, decide_eq_true_eq] at tasks
    by_cases same : (upload.machineId, upload.input.movementId) =
        (machineId, movementId)
    · simp only [if_pos same, List.length_singleton] at tasks ⊢
      omega
    · simp only [if_neg same, List.length_nil] at tasks ⊢
      omega
  | @reviews upload _ _ accepted movements =>
    rw [sameRows movements, accepted]
    simp only [List.countP_singleton, MovementTask.settles,
      decide_eq_true_eq, Bool.false_eq_true, ↓reduceIte] at tasks
    by_cases same : (upload.machineId, upload.input.movementId) =
        (machineId, movementId)
    · have atMostOne :=
        accounted.ledgerRows_length_le machineId movementId
      simp only [if_pos same, Option.isSome_none, Bool.false_eq_true,
        ↓reduceIte] at tasks ⊢
      omega
    · simp only [if_neg same] at tasks ⊢
      omega

/-- The rows of an accepted field movement stay of its inventory. -/
theorem LedgerStep.mapped
    (inOrder : task.InOrder runtime.db)
    (machineId : MachineId)
    (movementId : MovementName)
    (input : RawMachineStockMovement)
    (isAccepted :
      after.acceptedMovement machineId movementId = some input)
    (field : input.isFieldStockMovement = true)
    (row : InventoryMovement)
    (member : row ∈ after.ledgerRows machineId movementId) :
    input.mappedInventory = some row.inventoryId ∧
      row.reason = .hardwareSync := by
  have noRows : ∀ {upload : MovementUpload},
      runtime.db.acceptedMovement upload.machineId
          upload.input.movementId = none →
        runtime.db.ledgerRows upload.machineId upload.input.movementId =
          [] := by
    intro upload fresh
    have before :=
      accounted.counted upload.machineId upload.input.movementId
    rw [fresh] at before
    simp only [Option.isSome_none, Bool.false_eq_true, ↓reduceIte,
      Nat.add_eq_zero_iff, List.length_eq_zero_iff] at before
    exact before.1
  have sameRows : after.inventoryMovements = runtime.db.inventoryMovements →
      row ∈ runtime.db.ledgerRows machineId movementId := by
    intro movements
    simpa [Db.ledgerRows, movements] using member
  cases step with
  | keeps kept =>
    rw [kept.accepted] at isAccepted
    exact accounted.mapped _ _ _ isAccepted field row (sameRows kept.movements)
  | @accepts upload _ fresh accepted movements =>
    have old := sameRows movements
    rw [accepted] at isAccepted
    split at isAccepted
    · rename_i same
      obtain ⟨rfl, rfl⟩ := Prod.ext_iff.mp same
      rw [noRows fresh] at old
      cases old
    · exact accounted.mapped _ _ _ isAccepted field row old
  | @confirms upload _ _ _ fresh accepted listed =>
    rw [accepted] at isAccepted
    rw [listed] at member
    split at isAccepted
    · cases isAccepted
      rw [show upload.input.isFieldStockMovement = false from inOrder] at field
      cases field
    · rename_i differs
      rw [if_neg differs, List.append_nil] at member
      exact accounted.mapped _ _ _ isAccepted field row member
  | @applies upload _ _ kept listed ofInventory reason =>
    rw [kept] at isAccepted
    rw [listed] at member
    rcases List.mem_append.mp member with old | added
    · exact accounted.mapped _ _ _ isAccepted field row old
    · split at added
      · rename_i same
        obtain ⟨rfl, rfl⟩ := Prod.ext_iff.mp same
        rw [show runtime.db.acceptedMovement upload.machineId
          upload.input.movementId = some upload.input from inOrder]
          at isAccepted
        cases isAccepted
        rw [List.mem_singleton.mp added]
        exact ⟨ofInventory, reason⟩
      · cases added
  | reviews accepted movements =>
    rw [accepted] at isAccepted
    split at isAccepted
    · cases isAccepted
    · exact accounted.mapped _ _ _ isAccepted field row (sameRows movements)

theorem LedgerStep.hasApplied
    (applied : runtime.db.HasApplied upload) :
    after.HasApplied upload := by
  refine applied.later (step.grows _ _) ?_
  have counted := step.counted accounted found upload.machineId
    upload.input.movementId
  split at counted <;> omega

/-- The calls that are not advanced stay in order. -/
theorem LedgerStep.others_inOrder
    {other : MovementTask}
    (member : other ∈ runtime.tasks.eraseIdx position)
    (otherInOrder : other.InOrder runtime.db) :
    other.InOrder after := by
  have applied : ∀ {upload : MovementUpload},
      runtime.db.HasApplied upload → after.HasApplied upload :=
    fun before => step.hasApplied accounted found before
  -- Two calls that settle one movement would be one too many.
  have alone : ∀ {upload : MovementUpload},
      other.settles upload.machineId upload.input.movementId = true →
        task.settles upload.machineId upload.input.movementId = false := by
    intro upload settles
    have atMostOne := accounted.ledgerRows_length_le upload.machineId
      upload.input.movementId
    have tasks := Service.countP_followUps found
      (MovementTask.settles upload.machineId upload.input.movementId) []
    have one : 0 < (runtime.tasks.eraseIdx position).countP
        (MovementTask.settles upload.machineId upload.input.movementId) :=
      List.countP_pos_iff.mpr ⟨other, member, settles⟩
    rw [List.append_nil, List.countP_nil] at tasks
    by_contra taskSettles
    rw [if_pos (by simpa using taskSettles)] at tasks
    omega
  have accepted : ∀ {upload : MovementUpload},
      other.settles upload.machineId upload.input.movementId = true →
      runtime.db.acceptedMovement upload.machineId upload.input.movementId =
        some upload.input →
      after.acceptedMovement upload.machineId upload.input.movementId =
        some upload.input := by
    intro upload settles before
    have quiet := alone settles
    cases step with
    | keeps kept => rw [kept.accepted, before]
    | applies kept => rw [kept, before]
    | @accepts mine _ fresh accepted
    | @confirms mine _ _ _ fresh accepted =>
      rw [accepted]
      split
      · rename_i same
        obtain ⟨sameMachine, sameMovement⟩ := Prod.ext_iff.mp same
        simp only at sameMachine sameMovement
        rw [sameMachine, sameMovement, before] at fresh
        cases fresh
      · exact before
    | reviews accepted =>
      rw [accepted, if_neg (by simpa [MovementTask.settles] using quiet),
        before]
  cases other with
  | apply upload | markUnapplied upload =>
    exact accepted (by simp [MovementTask.settles]) otherInOrder
  | restoreSlot upload => exact applied otherInOrder
  | respondForExisting upload existing =>
    exact fun same notReviewed field =>
      applied (otherInOrder same notReviewed field)
  | answered upload response =>
    exact fun accepts field => applied (otherInOrder accepts field)
  | checkField upload context | accept upload context =>
    cases context <;> exact otherInOrder
  | checkPlanogram | dispatchRefunds => exact otherInOrder
  | lookUp | findContext | review | lookUpAgain | refused => trivial

end Committed

open Transaction

theorem Accounted.existing_inOrder
    (accounted : Accounted first runtime)
    (stored : runtime.db.findByMachineMovement upload.machineId
      upload.input.movementId = some existing)
    (settled : SettledMovement runtime upload)
    (notRejected : runtime.db.NotRejected upload) :
    (MovementTask.respondForExisting upload existing).InOrder
      runtime.db := by
  intro same notReviewed field
  have accepted : existing.status = .accepted := by
    cases status : existing.status with
    | accepted => rfl
    | rejected => exact (notRejected existing stored status).elim
    | reconciliation => exact (notReviewed status).elim
  apply accounted.hasApplied _ field settled
  simp [Db.acceptedMovement, stored, accepted, same, Option.filter]

theorem afterApplication_inOrder
    (applied : after.HasApplied upload) :
    (upload.afterApplication true).InOrder after := by
  simp only [MovementUpload.afterApplication]
  split
  · contradiction
  · split
    · exact applied
    · exact fun _ _ => applied

/-- An application settled its movement, or goes on to review it. -/
theorem LedgerStep.apply_inOrder
    {position : Nat}
    {applied : Bool}
    (step : LedgerStep runtime.db (.apply upload)
      [upload.afterApplication applied] after)
    (accounted : Accounted first runtime)
    (found : runtime.tasks[position]? = some (.apply upload))
    (inOrder : (MovementTask.apply upload).InOrder runtime.db) :
    (upload.afterApplication applied).InOrder after := by
  have inHand : 0 < runtime.tasks.countP (MovementTask.settles
      upload.machineId upload.input.movementId) :=
    List.countP_pos_iff.mpr
      ⟨_, List.mem_of_getElem? found, by simp [MovementTask.settles]⟩
  have atMostOne := accounted.ledgerRows_length_le upload.machineId
    upload.input.movementId
  generalize shape : [upload.afterApplication applied] = answer at step
  cases step with
  | keeps kept settling =>
    have settles := settling upload.machineId upload.input.movementId
    subst shape
    cases applied with
    | false => exact (kept.accepted _ _).trans inOrder
    | true =>
      rw [List.countP_singleton, afterApplication_settled] at settles
      simp [MovementTask.settles] at settles
  | @applies _ _ row kept listed ofInventory reason =>
    have left : applied = true := by
      cases applied with
      | true => rfl
      | false =>
        have settles := congrArg (List.countP (MovementTask.settles
          upload.machineId upload.input.movementId)) shape
        rw [List.countP_singleton, List.countP_singleton,
          afterApplication_settled] at settles
        simp [MovementUpload.afterApplication, MovementTask.settles] at settles
    subst left
    have none : runtime.db.ledgerRows upload.machineId
        upload.input.movementId = [] :=
      List.length_eq_zero_iff.mp (by omega)
    apply afterApplication_inOrder
    refine ⟨row, ?_, ofInventory, reason⟩
    rw [listed, none, if_pos rfl, List.nil_append]

theorem respondForExisting_inOrder
    {response : MachineStockMovementIngestionResponse}
    (answers : AnswersExisting upload existing before after response)
    (applied : existing.payload = upload.input →
      existing.status ≠ .reconciliation →
        upload.input.isFieldStockMovement = true → after.HasApplied upload) :
    (MovementTask.answered upload response).InOrder after := by
  intro accepts field
  cases answers with
  | underReview =>
    simp [reconciliationResponse,
      MachineStockMovementIngestionResponse.acceptsMovement] at accepts
  | alreadyAccepted same notReviewed =>
    exact applied same notReviewed field
  | repaired _ _ dispensed =>
    rw [isFieldStockMovement_eq, dispensed] at field
    cases field
  | conflicts =>
    simp [reconciliationResponse,
      MachineStockMovementIngestionResponse.acceptsMovement] at accepts

theorem findContext_inOrder (db : Db) (upload : MovementUpload) :
    (orderBoundDispenseContextForMovement db upload).InOrder db := by
  unfold orderBoundDispenseContextForMovement
  dsimp only
  split
  · rename_i notDispensed
    change upload.input.isFieldStockMovement = true
    rw [isFieldStockMovement_eq, notDispensed]
  · rename_i dispensed
    split
    · trivial
    · split
      · trivial
      · change upload.input.isFieldStockMovement = false
        rw [isFieldStockMovement_eq]
        simpa using dispensed

theorem followUps_inOrder
    {position : Nat}
    {task : MovementTask}
    {answer : List MovementTask}
    (accounted : Accounted first runtime)
    (found : runtime.tasks[position]? = some task)
    (undisturbed : AdvancesUndisturbed runtime task)
    (committed :
      Commits (receiveRawMovement task now) runtime.db answer after) :
    ∀ follow ∈ answer, follow.InOrder after := by
  have inOrder := accounted.inOrder task (List.mem_of_getElem? found)
  have step := ledgerStep_of_commits inOrder committed
  have counted := step.counted accounted found
  cases task with
  | lookUp upload | lookUpAgain upload =>
    simp only [receiveRawMovement, MovementTask.upload, commits_get_bind]
      at committed
    split at committed
    · rename_i existing stored
      obtain ⟨rfl, rfl⟩ := commits_pure.mp committed
      simpa using accounted.existing_inOrder stored undisturbed.1 undisturbed.2
    · first
      | obtain ⟨rfl, rfl⟩ := commits_pure.mp committed
        simp [MovementTask.InOrder]
      | exact (commits_throw committed).elim
  | findContext upload =>
    simp only [receiveRawMovement, MovementTask.upload, commits_get_bind,
      commits_pure] at committed
    obtain ⟨rfl, rfl⟩ := committed
    simpa using findContext_inOrder runtime.db upload
  | checkPlanogram upload =>
    simp only [receiveRawMovement, MovementTask.upload, commits_get_bind]
      at committed
    split at committed
    all_goals obtain ⟨rfl, rfl⟩ := commits_pure.mp committed
    · simp [MovementTask.InOrder]
    · intro follow member
      rw [List.mem_singleton.mp member]
      exact inOrder
  | checkField upload context =>
    simp only [receiveRawMovement, MovementTask.upload, commits_get_bind]
      at committed
    split at committed
    all_goals obtain ⟨rfl, rfl⟩ := commits_pure.mp committed
    · simp [MovementTask.InOrder]
    · intro follow member
      rw [List.mem_singleton.mp member]
      cases context <;> exact inOrder
  | review upload reconciliation =>
    obtain ⟨_, _, stored, finished⟩ := commits_bind.mp committed
    obtain ⟨rfl, rfl⟩ := commits_pure.mp finished
    simp [MovementTask.InOrder, reconciliationResponse,
      MachineStockMovementIngestionResponse.acceptsMovement]
  | accept upload context =>
    cases step with
    | keeps _ settling =>
      cases context with
      | none =>
        obtain ⟨_, _, _, finished⟩ := commits_bind.mp committed
        obtain ⟨rfl, rfl⟩ := commits_pure.mp finished
        have quiet := settling upload.machineId upload.input.movementId
        have applies : upload.afterAcceptance = .apply upload :=
          if_pos inOrder
        simp [MovementTask.upload, applies, MovementTask.settles] at quiet
      | some context =>
        obtain ⟨_, _, _, finished⟩ := commits_bind.mp committed
        obtain ⟨rfl, rfl⟩ := commits_pure.mp finished
        intro follow member
        rw [List.mem_singleton.mp member]
        exact inOrder
    | accepts _ accepted =>
      intro follow member
      rw [List.mem_singleton.mp member]
      exact (accepted _ _).trans (if_pos rfl)
    | confirms =>
      intro follow member
      rw [List.mem_singleton.mp member]
      exact inOrder
  | dispatchRefunds upload =>
    obtain ⟨rfl, rfl⟩ := commits_pure.mp committed
    intro follow member
    rw [List.mem_singleton.mp member]
    intro _ field
    exact absurd (inOrder.symm.trans field) Bool.false_ne_true
  | apply upload =>
    obtain ⟨applied, _, wrote, finished⟩ := commits_bind.mp committed
    obtain ⟨rfl, rfl⟩ := commits_pure.mp finished
    intro follow member
    rw [List.mem_singleton.mp member]
    exact step.apply_inOrder accounted found inOrder
  | markUnapplied upload =>
    simp only [receiveRawMovement, MovementTask.upload, markReconciliation,
      commits_modify_bind, commits_pure] at committed
    obtain ⟨rfl, rfl⟩ := committed
    simp [MovementTask.InOrder, reconciliationResponse,
      MachineStockMovementIngestionResponse.acceptsMovement]
  | restoreSlot upload =>
    obtain ⟨_, _, restored, finished⟩ := commits_bind.mp committed
    obtain ⟨rfl, rfl⟩ := commits_pure.mp finished
    intro follow member
    rw [List.mem_singleton.mp member]
    exact fun _ _ => step.hasApplied accounted found inOrder
  | respondForExisting upload existing =>
    obtain ⟨response, _, responded, finished⟩ := commits_bind.mp committed
    obtain ⟨rfl, rfl⟩ := commits_pure.mp finished
    intro follow member
    rw [List.mem_singleton.mp member]
    exact respondForExisting_inOrder
      (commits_responseForExisting responded)
      fun same notReviewed field => step.hasApplied accounted found
        (inOrder same notReviewed field)
  | answered upload response | refused upload error =>
    obtain ⟨rfl, rfl⟩ := commits_pure.mp committed
    exact fun _ member => by cases member

/-- An undisturbed application commits. -/
theorem applyTrusted_commits
    (covers : before.CoversReserved upload) :
    ∃ applied later,
      Commits (applyTrustedFieldStockMovement upload.machineId upload.input)
        before applied later := by
  unfold applyTrustedFieldStockMovement
  split
  · rename_i inventoryId variantId beforeQuantity afterQuantity
      mapped ofVariant started left
    cases found : (before.inventories.find? inventoryId).filter
        (fun row => row.isMappedTo upload.machineId upload.input.slotId
            variantId &&
          (upload.input.movementType = .stockCountCorrection ||
            row.onHandQty = beforeQuantity)) with
    | none =>
      refine ⟨false, before, commits_bind.mpr ⟨none, before, ?_,
        commits_pure.mpr ⟨rfl, rfl⟩⟩⟩
      exact commits_updateInventory.mpr (Or.inl ⟨found, rfl, rfl⟩)
    | some row =>
      obtain ⟨stored, guard⟩ := Option.filter_eq_some_iff.mp found
      have valid : row.reservedQty ≤ afterQuantity :=
        covers ⟨inventoryId, variantId, beforeQuantity, afterQuantity⟩
          (by simp [RawMachineStockMovement.fieldData, mapped, ofVariant,
            started, left]) row stored guard
      refine ⟨true, _, commits_bind.mpr
        ⟨some row,
          before.setInventory inventoryId afterQuantity row.reservedQty valid,
          ?_,
          commits_bind.mpr ⟨(), _, commits_modify.mpr rfl,
            commits_pure.mpr ⟨rfl, rfl⟩⟩⟩⟩
      exact commits_updateInventory.mpr
        (Or.inr ⟨row, stored, guard, rfl, valid, rfl⟩)
  · exact ⟨false, before, commits_pure.mpr ⟨rfl, rfl⟩⟩

theorem aborted_settled
    {task : MovementTask}
    (undisturbed : AdvancesUndisturbed runtime task)
    (aborted :
      (receiveRawMovement task now).execute runtime.db =
        (.error refusal, runtime.db)) :
    task.isUnsettled = false := by
  have commitsNot : ∀ {answer later},
      ¬ Commits (receiveRawMovement task now) runtime.db answer later := by
    intro answer later committed
    simp only [Commits] at committed
    simp [execute, committed] at aborted
  cases task with
  | apply upload =>
    obtain ⟨applied, later, wrote⟩ := applyTrusted_commits undisturbed
    exact (commitsNot (commits_bind.mpr
      ⟨applied, later, wrote, commits_pure.mpr ⟨rfl, rfl⟩⟩)).elim
  | markUnapplied upload =>
    exact (commitsNot (commits_bind.mpr
      ⟨(), _, commits_modify.mpr rfl,
        commits_pure.mpr ⟨rfl, rfl⟩⟩)).elim
  | _ => rfl

theorem afterFailure_inOrder
    {task : MovementTask}
    (db : Db) :
    ∀ follow ∈ task.afterFailure refusal,
      follow.InOrder db ∧ follow.isUnsettled = false := by
  intro follow member
  unfold MovementTask.afterFailure at member
  split at member
  · rw [List.mem_singleton.mp member]
    refine ⟨fun accepts => ?_, rfl⟩
    simp [rejectedResponse,
      MachineStockMovementIngestionResponse.acceptsMovement] at accepts
  · split at member <;> rw [List.mem_singleton.mp member] <;>
      exact ⟨trivial, rfl⟩
  · cases member
  · cases member
  · rw [List.mem_singleton.mp member]
    exact ⟨trivial, rfl⟩

theorem settles_of_settled
    {task : MovementTask}
    (settled : task.isUnsettled = false)
    (machineId : MachineId)
    (movementId : MovementName) :
    task.settles machineId movementId = false := by
  cases task with
  | apply upload | markUnapplied upload =>
    simp [MovementTask.isUnsettled, MovementTask.settles,
      MovementTask.upload] at settled
  | _ => rfl

theorem Accounted.replaceTasks
    (accounted : Accounted first runtime)
    {tasks : List MovementTask}
    (sameCount : ∀ machineId movementId,
      tasks.countP (MovementTask.settles machineId movementId) =
        runtime.tasks.countP (MovementTask.settles machineId movementId))
    (inOrder : ∀ task ∈ tasks, task.InOrder runtime.db) :
    Accounted first { runtime with tasks } where
  explained := accounted.explained
  counted machineId movementId := by
    rw [sameCount]
    exact accounted.counted machineId movementId
  mapped := accounted.mapped
  inOrder := inOrder

theorem Accounted.afterFailure
    (accounted : Accounted first runtime)
    {position : Nat}
    {task : MovementTask}
    (found : runtime.tasks[position]? = some task)
    (settled : task.isUnsettled = false) :
    Accounted first
      { runtime with
        tasks :=
          runtime.tasks.eraseIdx position ++ task.afterFailure refusal } := by
  apply accounted.replaceTasks
  · intro machineId movementId
    have tasks := Service.countP_followUps found
      (MovementTask.settles machineId movementId)
      (task.afterFailure refusal)
    have quiet : (task.afterFailure refusal).countP
        (MovementTask.settles machineId movementId) = 0 := by
      rw [List.countP_eq_zero]
      intro follow member
      simp [settles_of_settled
        (afterFailure_inOrder runtime.db follow member).2]
    rw [settles_of_settled settled, quiet] at tasks
    simpa using tasks
  · intro other member
    rcases List.mem_append.mp member with old | new
    · exact accounted.inOrder other (List.mem_of_mem_eraseIdx old)
    · exact (afterFailure_inOrder runtime.db other new).1

theorem Accounted.step
    (accounted : Accounted first runtime)
    {event : MovementEvent}
    (undisturbed : Undisturbed runtime event)
    (step : movementService.machine.step runtime event = some next) :
    Accounted first next := by
  cases Service.takes_of_step step with
  | @submitted task starts =>
    cases task with
    | lookUp upload =>
      apply accounted.replaceTasks
      · intro machineId movementId
        simp [MovementTask.settles]
      · intro other member
        rcases List.mem_append.mp member with old | new
        · exact accounted.inOrder other old
        · rw [List.mem_singleton.mp new]
          trivial
    | _ => cases starts
  | @committed position now task answer after found commits =>
    have inOrder := accounted.inOrder task (List.mem_of_getElem? found)
    have ledger := ledgerStep_of_commits inOrder commits
    refine ⟨fun inventoryId => ?_, ?_, ?_, fun other member => ?_⟩
    · exact (ledger.explained inventoryId).trans
        (accounted.explained inventoryId)
    · exact ledger.counted accounted found
    · exact ledger.mapped accounted found inOrder
    · rcases List.mem_append.mp member with old | new
      · exact ledger.others_inOrder accounted found old
          (accounted.inOrder other (List.mem_of_mem_eraseIdx old))
      · exact followUps_inOrder accounted found (undisturbed task found)
          commits other new
  | aborted found refused =>
    exact accounted.afterFailure found
      (aborted_settled (undisturbed _ found) refused)
  | failed found => exact accounted.afterFailure found (undisturbed _ found)
  | crashed =>
    apply accounted.replaceTasks
    · intro machineId movementId
      rw [List.countP_nil, eq_comm, List.countP_eq_zero]
      intro task member
      simp [settles_of_settled (undisturbed task member)]
    · intro _ member
      cases member

end Invariant

end VendingSystem.Platform
