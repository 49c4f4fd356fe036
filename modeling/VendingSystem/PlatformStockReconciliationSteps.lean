import VendingSystem.PlatformStockReconciliation

namespace VendingSystem.Platform

/-!
# Steps of uploads and resolutions

What a committed step writes, and what it leaves of the cases: a stored
movement keeps its payload, one without a review stays as it is unless its own
call sends it to review, and a settled one stays settled.
-/

open Transaction

variable {before after : Db} {id : StockReconciliationCaseId} {resolved : Bool}
  {reading : CaseReading} {input : StockReconciliationResolveInput}
  {answer : List MovementTask} {task : MovementTask} {now : Time}
  {marked : Option (MachineId × MovementName)} {machineId : MachineId}
  {movementId : MovementName} {stored : StoredRawMachineStockMovement}

theorem commits_clearBlocker
    {current : StockReconciliationCase}
    {clearBlocker : Bool}
    (cleared :
      Commits (clearResolvedCaseBlocker current clearBlocker)
        before () after) :
    ∃ slots, after = { before with machineSlots := slots } := by
  unfold clearResolvedCaseBlocker at cleared
  split at cleared
  · exact ⟨_, commits_modify.mp cleared⟩
  · exact ⟨_, (commits_pure.mp cleared).2⟩

theorem commits_claimCase
    {action : StockReconciliationResolveAction}
    {claimed : Bool} :
    Commits (claimCase id action) before claimed after ↔
      (claimed = false ∧ after = before ∧ before.openCase id = none) ∨
      (claimed = true ∧ after = before.closeCase action id ∧
        (before.openCase id).isSome = true) := by
  unfold claimCase
  rw [commits_get_bind]
  cases opened : before.openCase id with
  | none => simp
  | some current => simp [and_comm]

theorem commits_correctStock
    {inventory : Inventory}
    {correctedOnHandQty : Nat}
    {note : String} :
    Commits (correctStock inventory correctedOnHandQty note)
        before () after ↔
      ∃ row, ∃ covered : row.reservedQty ≤ correctedOnHandQty,
        before.inventories.find? inventory.id = some row ∧
        row.onHandQty = inventory.onHandQty ∧
        after = (before.setInventory inventory.id correctedOnHandQty
          row.reservedQty covered).addMovement inventory.id
            ((correctedOnHandQty : Int) - row.onHandQty) .adjust none
            (some (.operator note)) := by
  simp only [correctStock, commits_bind, commits_updateOneInventory,
    insertInventoryMovement, commits_modify, decide_eq_true_eq]
  constructor
  · rintro ⟨_, _, ⟨row, found, same, covered, rfl⟩, rfl⟩
    exact ⟨row, covered, found, same, by rw [same]⟩
  · rintro ⟨row, covered, found, same, rfl⟩
    exact ⟨(), _, ⟨row, found, same, covered, rfl⟩, by rw [same]⟩

/-- What a resolution did with the case that it had read. -/
inductive ResolvesCase
    (id : StockReconciliationCaseId)
    (input : StockReconciliationResolveInput)
    (reading : CaseReading)
    (before : Db) : Bool → Db → Prop where
  | missed : ResolvesCase id input reading before false before
  | closed
      {stocked after : Db}
      (opened : (before.openCase id).isSome = true)
      (corrects : ∀ correctedOnHandQty,
        input.action = .manualCorrect correctedOnHandQty →
          ∃ inventory, reading.inventory = some inventory ∧
            Commits
              (correctStock inventory correctedOnHandQty input.note)
              (before.closeCase input.action id) () stocked)
      (rejects : input.action = .rejectMachineStock →
        stocked = before.closeCase input.action id)
      (cleared :
        Commits (clearResolvedCaseBlocker reading.current input.clearBlocker)
          stocked () after) :
      ResolvesCase id input reading before true after

theorem commits_resolveReadCase
    (committed :
      Commits (resolveReadCase id input reading) before resolved after) :
    ResolvesCase id input reading before resolved after := by
  unfold resolveReadCase at committed
  split at committed
  · rename_i rejects
    obtain ⟨claimed, middle, claim, finished⟩ := commits_bind.mp committed
    rcases commits_claimCase.mp claim with
      ⟨rfl, rfl, _⟩ | ⟨rfl, rfl, opened⟩
    · obtain ⟨rfl, rfl⟩ := commits_pure.mp finished
      exact .missed
    · obtain ⟨_, _, cleared, ended⟩ := commits_bind.mp finished
      obtain ⟨rfl, rfl⟩ := commits_pure.mp ended
      refine .closed opened (fun _ corrects => ?_) (fun _ => rfl) cleared
      rw [rejects] at corrects
      cases corrects
  · rename_i correctedOnHandQty corrects
    obtain ⟨inventory, _, named, later⟩ := commits_bind.mp committed
    simp only [correctedInventory, commits_requireSome_bind,
      commits_require_bind, commits_pure] at named
    obtain ⟨_, isNamed, _, rfl, rfl⟩ := named
    obtain ⟨claimed, middle, claim, finished⟩ := commits_bind.mp later
    rcases commits_claimCase.mp claim with
      ⟨rfl, rfl, _⟩ | ⟨rfl, rfl, opened⟩
    · obtain ⟨rfl, rfl⟩ := commits_pure.mp finished
      exact .missed
    · obtain ⟨_, stocked, wrote, remaining⟩ := commits_bind.mp finished
      obtain ⟨_, _, cleared, ended⟩ := commits_bind.mp remaining
      obtain ⟨rfl, rfl⟩ := commits_pure.mp ended
      refine .closed opened (fun other same => ?_) (fun rejects => ?_) cleared
      · rw [corrects] at same
        cases same
        exact ⟨inventory, isNamed, wrote⟩
      · rw [corrects] at rejects
        cases rejects

/-- The step of a call, with what it finds and what it writes. -/
inductive MovementStep
    (before : Db) : MovementTask → List MovementTask → Db → Prop where
  | found
      {task : MovementTask}
      {existing : StoredRawMachineStockMovement}
      (looksUp : task = .lookUp task.upload ∨ task = .lookUpAgain task.upload)
      (stored : before.findByMachineMovement task.upload.machineId
        task.upload.input.movementId = some existing) :
      MovementStep before task [.respondForExisting task.upload existing]
        before
  | new (upload : MovementUpload) :
      MovementStep before (.lookUp upload) [.findContext upload] before
  | context (upload : MovementUpload) :
      MovementStep before (.findContext upload)
        [orderBoundDispenseContextForMovement before upload] before
  | toReview
      {task : MovementTask}
      {upload : MovementUpload}
      (reconciliation : Reconciliation) :
      MovementStep before task [.review upload reconciliation] before
  | onPlanogram (upload : MovementUpload) :
      MovementStep before (.checkPlanogram upload)
        [.checkField upload none] before
  | trusted
      (upload : MovementUpload)
      (context : Option OrderBoundDispenseConfirmationContext) :
      MovementStep before (.checkField upload context)
        [.accept upload context] before
  | reviewed
      {upload : MovementUpload}
      {reconciliation : Reconciliation}
      {response : MachineStockMovementIngestionResponse}
      (fresh : before.findByMachineMovement upload.machineId
        upload.input.movementId = none) :
      MovementStep before (.review upload reconciliation)
        [.answered upload response]
        (before.addRawMovement upload.machineId upload.input .reconciliation
          (some reconciliation))
  | accepted
      {upload : MovementUpload}
      (fresh : before.findByMachineMovement upload.machineId
        upload.input.movementId = none) :
      MovementStep before (.accept upload none) [upload.afterAcceptance]
        (before.addRawMovement upload.machineId upload.input .accepted none)
  | confirmed
      {upload : MovementUpload}
      {context : OrderBoundDispenseConfirmationContext}
      {now : Time}
      {after : Db}
      (fresh : before.findByMachineMovement upload.machineId
        upload.input.movementId = none)
      (confirms :
        Commits
          (confirmOrderBoundDispenseSucceededInTransaction upload.machineId
            upload.input context now)
          (before.addRawMovement upload.machineId upload.input .accepted none)
          () after) :
      MovementStep before (.accept upload (some context))
        [.dispatchRefunds upload] after
  | applied
      {upload : MovementUpload}
      {isApplied : Bool}
      {after : Db}
      (applies :
        Commits
          (applyTrustedFieldStockMovement upload.machineId upload.input)
          before isApplied after) :
      MovementStep before (.apply upload)
        [upload.afterApplication isApplied] after
  | marked
      {upload : MovementUpload}
      {response : MachineStockMovementIngestionResponse}
      {after : Db}
      (marks :
        Commits
          (markReconciliation upload.machineId upload.input.movementId
            (fieldStockApplicationFailedReconciliation upload.input.slotId))
          before () after) :
      MovementStep before (.markUnapplied upload)
        [.answered upload response] after
  | restored
      {upload : MovementUpload}
      {response : MachineStockMovementIngestionResponse}
      {after : Db}
      (restores :
        Commits
          (restoreSlotAfterAcceptedLocalMaintenance upload.machineId
            upload.input.slotId)
          before () after) :
      MovementStep before (.restoreSlot upload) [.answered upload response]
        after
  | responded
      {upload : MovementUpload}
      {existing : StoredRawMachineStockMovement}
      {response : MachineStockMovementIngestionResponse}
      {after : Db}
      (answers : AnswersExisting upload existing before after response) :
      MovementStep before (.respondForExisting upload existing)
        [.answered upload response] after
  | dispatched
      {upload : MovementUpload}
      {response : MachineStockMovementIngestionResponse} :
      MovementStep before (.dispatchRefunds upload)
        [.answered upload response] before
  | done {task : MovementTask} : MovementStep before task [] before

theorem movementStep_of_commits
    (committed : Commits (receiveRawMovement task now) before answer after) :
    MovementStep before task answer after := by
  cases task with
  | lookUp upload =>
    simp only [receiveRawMovement, MovementTask.upload, commits_get_bind]
      at committed
    split at committed
    · rename_i existing stored
      obtain ⟨rfl, rfl⟩ := commits_pure.mp committed
      exact .found (Or.inl rfl) stored
    · obtain ⟨rfl, rfl⟩ := commits_pure.mp committed
      exact .new upload
  | lookUpAgain upload =>
    simp only [receiveRawMovement, MovementTask.upload, commits_get_bind]
      at committed
    split at committed
    · rename_i existing stored
      obtain ⟨rfl, rfl⟩ := commits_pure.mp committed
      exact .found (Or.inr rfl) stored
    · exact (commits_throw committed).elim
  | findContext upload =>
    simp only [receiveRawMovement, MovementTask.upload, commits_get_bind,
      commits_pure] at committed
    obtain ⟨rfl, rfl⟩ := committed
    exact .context upload
  | checkPlanogram upload =>
    simp only [receiveRawMovement, MovementTask.upload, commits_get_bind]
      at committed
    split at committed
    · obtain ⟨rfl, rfl⟩ := commits_pure.mp committed
      exact .toReview _
    · obtain ⟨rfl, rfl⟩ := commits_pure.mp committed
      exact .onPlanogram upload
  | checkField upload context =>
    simp only [receiveRawMovement, MovementTask.upload, commits_get_bind]
      at committed
    split at committed
    · obtain ⟨rfl, rfl⟩ := commits_pure.mp committed
      exact .toReview _
    · obtain ⟨rfl, rfl⟩ := commits_pure.mp committed
      exact .trusted upload context
  | review upload reconciliation =>
    obtain ⟨_, _, stored, finished⟩ := commits_bind.mp committed
    obtain ⟨rfl, rfl⟩ := commits_pure.mp finished
    obtain ⟨fresh, rfl⟩ := commits_insertRaw.mp stored
    exact .reviewed fresh
  | accept upload context =>
    cases context with
    | none =>
      obtain ⟨_, _, stored, finished⟩ := commits_bind.mp committed
      obtain ⟨rfl, rfl⟩ := commits_pure.mp finished
      obtain ⟨fresh, rfl⟩ := commits_insertRaw.mp stored
      exact .accepted fresh
    | some context =>
      simp only [receiveRawMovement, MovementTask.upload,
        insertAcceptedWithOrderBoundDispenseConfirmation, commits_bind,
        commits_insertRaw, commits_pure] at committed
      obtain ⟨_, _, ⟨_, _, ⟨fresh, rfl⟩, confirms⟩, rfl, rfl⟩ :=
        committed
      exact .confirmed fresh confirms
  | dispatchRefunds upload =>
    obtain ⟨rfl, rfl⟩ := commits_pure.mp committed
    exact .dispatched
  | apply upload =>
    obtain ⟨_, _, applies, finished⟩ := commits_bind.mp committed
    obtain ⟨rfl, rfl⟩ := commits_pure.mp finished
    exact .applied applies
  | markUnapplied upload =>
    obtain ⟨_, _, marks, finished⟩ := commits_bind.mp committed
    obtain ⟨rfl, rfl⟩ := commits_pure.mp finished
    exact .marked marks
  | restoreSlot upload =>
    obtain ⟨_, _, restores, finished⟩ := commits_bind.mp committed
    obtain ⟨rfl, rfl⟩ := commits_pure.mp finished
    exact .restored restores
  | respondForExisting upload existing =>
    obtain ⟨_, _, responded, finished⟩ := commits_bind.mp committed
    obtain ⟨rfl, rfl⟩ := commits_pure.mp finished
    exact .responded (commits_responseForExisting responded)
  | answered upload response | refused upload error =>
    obtain ⟨rfl, rfl⟩ := commits_pure.mp committed
    exact .done

/-- The case is closed for good. -/
def Db.isShut (db : Db) : StockReconciliationCaseId → Prop
  | .rawMovement machineId movementId =>
    ∃ stored, db.findByMachineMovement machineId movementId = some stored ∧
      stored.status ≠ .reconciliation ∧ stored.reconciliation.isSome = true
  | .conflict id =>
    ∃ row, db.machineRawStockMovementConflicts.find? id = some row ∧
      row.reconciliation.platformReviewStatus = .resolved

theorem Db.isShut.not_open
    (shut : before.isShut id) : before.openCase id = none := by
  cases id with
  | rawMovement machineId movementId =>
    obtain ⟨stored, found, settled, _⟩ := shut
    cases reviewed : stored.reconciliation with
    | none => simp [Db.openCase, found, reviewed]
    | some reconciliation =>
      simp [Db.openCase, found, reviewed, settled]
  | conflict id =>
    obtain ⟨row, found, resolved⟩ := shut
    simp [Db.openCase, found, resolved]

theorem isShut_closeCase
    (opened : (before.openCase id).isSome = true)
    (action : StockReconciliationResolveAction) :
    (before.closeCase action id).isShut id := by
  obtain ⟨current, opened⟩ := Option.isSome_iff_exists.mp opened
  cases id with
  | rawMovement machineId movementId =>
    simp only [Db.openCase, Option.bind_eq_bind, Option.bind_eq_some_iff]
      at opened
    obtain ⟨stored, found, reconciliation, reviewed, _⟩ := opened
    unfold Db.findByMachineMovement at found
    refine ⟨_, by
      simp only [Db.findByMachineMovement, Db.closeCase,
        Table.find?_modify, ↓reduceIte, found, Option.map_some]
      rfl, ?_, ?_⟩
    · dsimp only
      split <;> simp
    · simp [reviewed]
  | conflict id =>
    simp only [Db.openCase, Option.bind_eq_bind, Option.bind_eq_some_iff]
      at opened
    obtain ⟨row, found, _⟩ := opened
    exact ⟨_, by
      simp only [Db.closeCase, Table.find?_modify, ↓reduceIte, found,
        Option.map_some]
      rfl, rfl⟩

/--
A stored movement stays as it is; one that went to review keeps its payload
and, once it is settled, stays settled.
-/
inductive RowKept :
    Option StoredRawMachineStockMovement →
      Option StoredRawMachineStockMovement → Prop where
  | same (row : Option StoredRawMachineStockMovement) : RowKept row row
  | stored (row : StoredRawMachineStockMovement) : RowKept none (some row)
  | reviewed
      {row later : StoredRawMachineStockMovement}
      (wasReviewed : row.reconciliation.isSome = true)
      (isReviewed : later.reconciliation.isSome = true)
      (payload : later.payload = row.payload)
      (settled : row.status ≠ .reconciliation →
        later.status ≠ .reconciliation) :
      RowKept (some row) (some later)

/-- The cases after a step; one movement may be sent to review by it. -/
structure CasesKept
    (marked : Option (MachineId × MovementName))
    (before after : Db) : Prop where
  stored : ∀ machineId movementId, marked ≠ some (machineId, movementId) →
    RowKept (before.findByMachineMovement machineId movementId)
      (after.findByMachineMovement machineId movementId)
  conflicts : ∀ id, before.isShut (.conflict id) →
    after.isShut (.conflict id)

theorem CasesKept.of_same
    (stored : after.machineRawStockMovements =
      before.machineRawStockMovements)
    (conflicts : after.machineRawStockMovementConflicts =
      before.machineRawStockMovementConflicts) :
    CasesKept marked before after where
  stored machineId movementId _ := by
    rw [Db.findByMachineMovement, Db.findByMachineMovement, stored]
    exact .same _
  conflicts id shut := by
    simpa only [Db.isShut, conflicts] using shut

theorem CasesKept.isShut
    (kept : CasesKept marked before after)
    (notMarked : ∀ machineId movementId,
      id = .rawMovement machineId movementId →
        marked ≠ some (machineId, movementId))
    (shut : before.isShut id) : after.isShut id := by
  cases id with
  | conflict id => exact kept.conflicts id shut
  | rawMovement machineId movementId =>
    obtain ⟨stored, found, settled, reviewed⟩ := shut
    have moved := kept.stored machineId movementId
      (notMarked machineId movementId rfl)
    simp only [Db.isShut]
    rw [found] at moved
    generalize after.findByMachineMovement machineId movementId = later
      at moved ⊢
    cases moved with
    | same => exact ⟨stored, rfl, settled, reviewed⟩
    | reviewed _ isReviewed _ keeps =>
      exact ⟨_, rfl, keeps settled, isReviewed⟩

theorem CasesKept.unreviewed
    (kept : CasesKept marked before after)
    (notMarked : marked ≠ some (machineId, movementId))
    (found : before.findByMachineMovement machineId movementId = some stored)
    (unreviewed : stored.reconciliation = none) :
    after.findByMachineMovement machineId movementId = some stored := by
  have moved := kept.stored machineId movementId notMarked
  rw [found] at moved
  generalize after.findByMachineMovement machineId movementId = later at moved ⊢
  cases moved with
  | same => rfl
  | reviewed wasReviewed => simp [unreviewed] at wasReviewed

theorem CasesKept.payload
    (kept : CasesKept marked before after)
    (notMarked : marked ≠ some (machineId, movementId))
    (found :
      before.findByMachineMovement machineId movementId = some stored) :
    ∃ later, after.findByMachineMovement machineId movementId = some later ∧
      later.payload = stored.payload := by
  have moved := kept.stored machineId movementId notMarked
  rw [found] at moved
  generalize after.findByMachineMovement machineId movementId = later at moved ⊢
  cases moved with
  | same => exact ⟨stored, rfl, rfl⟩
  | reviewed _ _ payload => exact ⟨_, rfl, payload⟩

theorem CasesKept.then_same
    {middle : Db}
    (kept : CasesKept marked before middle)
    (stored : after.machineRawStockMovements =
      middle.machineRawStockMovements)
    (conflicts : after.machineRawStockMovementConflicts =
      middle.machineRawStockMovementConflicts) :
    CasesKept marked before after where
  stored machineId movementId notMarked := by
    rw [Db.findByMachineMovement, Db.findByMachineMovement, stored]
    exact kept.stored machineId movementId notMarked
  conflicts id shut := by
    simpa only [Db.isShut, conflicts] using kept.conflicts id shut

theorem casesKept_addRawMovement
    {input : RawMachineStockMovement}
    (fresh :
      before.findByMachineMovement machineId input.movementId = none)
    (status : RawMovementStatus)
    (reconciliation : Option Reconciliation) :
    CasesKept none before
      (before.addRawMovement machineId input status reconciliation) where
  stored ofMachine movementId _ := by
    unfold Db.findByMachineMovement at fresh ⊢
    simp only [Db.addRawMovement, Table.find?_insertOrIgnore]
    split
    · rename_i same
      rw [same, fresh]
      exact .stored _
    · exact .same _
  conflicts id shut := shut

theorem casesKept_closeCase
    (opened : (before.openCase id).isSome = true)
    (action : StockReconciliationResolveAction) :
    CasesKept none before (before.closeCase action id) := by
  cases id with
  | rawMovement machineId movementId =>
    obtain ⟨current, opened⟩ := Option.isSome_iff_exists.mp opened
    simp only [Db.openCase, Option.bind_eq_bind, Option.bind_eq_some_iff]
      at opened
    obtain ⟨stored, found, reconciliation, reviewed, _⟩ := opened
    refine ⟨fun ofMachine other _ => ?_, fun id shut => shut⟩
    unfold Db.findByMachineMovement at found ⊢
    simp only [Db.closeCase, Table.find?_modify]
    split
    · rename_i same
      rw [same, found]
      refine .reviewed (by simp [reviewed]) (by simp [reviewed]) rfl ?_
      intro _
      dsimp only
      split <;> simp
    · exact .same _
  | conflict id =>
    refine ⟨fun _ _ _ => .same _, fun other shut => ?_⟩
    obtain ⟨row, found, resolved⟩ := shut
    simp only [Db.isShut, Db.closeCase, Table.find?_modify, found]
    split
    · exact ⟨_, rfl, rfl⟩
    · exact ⟨row, rfl, resolved⟩

/-- Restoring a slot resolves reviews and settles no movement. -/
theorem casesKept_restoreSlot
    {slotId : SlotId}
    (restores :
      Commits (restoreSlotAfterAcceptedLocalMaintenance machineId slotId)
        before () after) :
    CasesKept none before after := by
  obtain rfl := commits_modify.mp restores
  constructor
  · intro ofMachine movementId _
    simp only [Db.findByMachineMovement, Table.find?_updateWhere]
    cases before.machineRawStockMovements.find? (ofMachine, movementId) with
    | none => exact .same _
    | some row =>
      rw [Option.map_some]
      split
      · cases reviewed : row.reconciliation with
        | none =>
          have same : { row with reconciliation := none } = row := by
            rw [← reviewed]
          simp only [Option.map_none, same]
          exact .same _
        | some reconciliation =>
          exact .reviewed (by simp [reviewed]) rfl rfl id
      · exact .same _
  · rintro id ⟨row, found, resolved⟩
    simp only [Db.isShut, Table.find?_updateWhere, found, Option.map_some]
    refine ⟨_, rfl, ?_⟩
    split
    · dsimp only
      split
      · rfl
      · exact resolved
    · exact resolved

theorem casesKept_mark
    {reconciliation : Reconciliation}
    (marks :
      Commits (markReconciliation machineId movementId reconciliation)
        before () after) :
    CasesKept (some (machineId, movementId)) before after := by
  obtain rfl := commits_modify.mp marks
  refine ⟨fun ofMachine other notMarked => ?_, fun id shut => shut⟩
  simp only [Db.findByMachineMovement, Table.find?_modify]
  rw [if_neg fun same => notMarked (congrArg some same.symm)]
  exact .same _

structure ConflictsKept (before after : Db) : Prop where
  conflicts : after.machineRawStockMovementConflicts =
    before.machineRawStockMovementConflicts

namespace ConflictsKept

instance : IsPreorder Db ConflictsKept where
  refl _ := ⟨rfl⟩
  trans _ _ _ leading trailing :=
    ⟨trailing.conflicts.trans leading.conflicts⟩

theorem sync
    (project : List OrderItem → OrderFulfillmentState)
    (orderId : OrderId) :
    Within ConflictsKept
      (syncOrderFulfillmentStateFromLines project orderId) := by
  apply Within.bind Within.get
  intro db
  dsimp only
  split
  · exact Within.pure _
  · split
    · exact Within.pure _
    · split
      · exact Within.pure _
      · exact Within.modify fun _ => ⟨rfl⟩

theorem stageAutomaticPartialRefund
    (orderId : OrderId)
    (orderItemIds : List OrderItemId)
    (amountCents : Nat)
    (now : Time) :
    Within ConflictsKept
      (stageAutomaticPartialRefund orderId orderItemIds amountCents now) := by
  apply Within.bind (Within.require _ _)
  intro _
  apply Within.bind Within.get
  intro db
  apply Within.bind (Within.requireSome _ _)
  intro row
  apply Within.bind (Within.require _ _)
  intro _
  split
  · apply Within.bind (Within.modify fun _ => ⟨rfl⟩)
    intro _
    apply Within.bind (Within.modify fun _ => ⟨rfl⟩)
    intro _
    exact Within.modify fun _ => ⟨rfl⟩
  · apply Within.bind
    · apply Within.bind Within.get
      intro later
      split
      · exact Within.pure _
      · apply Within.bind (Within.modify fun _ => ⟨rfl⟩)
        intro _
        exact Within.pure _
    · intro inserted
      cases inserted with
      | none => exact Within.pure _
      | some refundId =>
        apply Within.bind (Within.modify fun _ => ⟨rfl⟩)
        intro _
        apply Within.bind (Within.modify fun _ => ⟨rfl⟩)
        intro _
        apply Within.bind (Within.modify fun _ => ⟨rfl⟩)
        intro _
        exact Within.modify fun _ => ⟨rfl⟩

theorem syncOrderAndStagePartialRefund
    (orderId : OrderId)
    (now : Time) :
    Within ConflictsKept (syncOrderAndStagePartialRefund orderId now) := by
  apply Within.bind (sync _ _)
  intro _
  apply Within.bind Within.get
  intro db
  split
  · exact Within.pure _
  · exact stageAutomaticPartialRefund _ _ _ _

end ConflictsKept

theorem confirmDispense_movements
    {input : RawMachineStockMovement}
    {context : OrderBoundDispenseConfirmationContext}
    (confirmed :
      Commits
        (confirmOrderBoundDispenseSucceededInTransaction machineId input
          context now)
        before () after) :
    after.machineRawStockMovements = before.machineRawStockMovements ∧
      after.machineRawStockMovementConflicts =
        before.machineRawStockMovementConflicts := by
  obtain ⟨_, row, valid, _, _, _, _, _, _, _, finished⟩ :=
    commits_confirmOrderBoundDispenseSucceeded confirmed
  have orderSide := OrderSideOnly.syncOrderAndStagePartialRefund _ _ finished
  have conflicts :=
    ConflictsKept.syncOrderAndStagePartialRefund _ _ finished
  exact ⟨orderSide.machineRawStockMovements, conflicts.conflicts⟩

/-- The movement that a step sends to review. -/
def MovementTask.marks : MovementTask → Option (MachineId × MovementName)
  | .markUnapplied upload =>
    some (upload.machineId, upload.input.movementId)
  | _ => none

theorem MovementStep.casesKept
    (step : MovementStep before task answer after) :
    CasesKept task.marks before after := by
  have untouched : CasesKept task.marks before before := .of_same rfl rfl
  cases step with
  | found | new | context | toReview | onPlanogram | trusted | dispatched
  | done => exact untouched
  | reviewed fresh => exact casesKept_addRawMovement fresh _ _
  | accepted fresh => exact casesKept_addRawMovement fresh _ _
  | confirmed fresh confirms =>
    obtain ⟨stored, conflicts⟩ := confirmDispense_movements confirms
    exact (casesKept_addRawMovement fresh _ _).then_same stored conflicts
  | applied applies =>
    rcases commits_applyTrusted applies with
      ⟨_, rfl⟩ | ⟨_, _, _, _, _, _, _, rfl⟩
    · exact .of_same rfl rfl
    · exact .of_same rfl rfl
  | marked marks => exact casesKept_mark marks
  | restored restores => exact casesKept_restoreSlot restores
  | responded answers =>
    cases answers with
    | underReview | alreadyAccepted => exact .of_same rfl rfl
    | conflicts _ inserted =>
      obtain rfl := commits_modify.mp inserted
      refine ⟨fun _ _ _ => .same _, fun id shut => ?_⟩
      obtain ⟨row, found, resolved⟩ := shut
      have used : id ≠ before.machineRawStockMovementConflicts.nextId := by
        rintro rfl
        rw [Table.find?_nextId] at found
        cases found
      refine ⟨row, ?_, resolved⟩
      rw [Table.find?_insertNext _ rfl, if_neg used]
      exact found
    | repaired _ _ _ repair =>
      unfold repairAcceptedOrderBoundDispenseCommand at repair
      split at repair
      · obtain ⟨_, rfl⟩ := commits_pure.mp repair
        exact .of_same rfl rfl
      · rw [commits_get_bind] at repair
        split at repair
        · obtain ⟨_, rfl⟩ := commits_pure.mp repair
          exact .of_same rfl rfl
        · rcases commits_claimCommand.mp repair with
            ⟨_, rfl, _⟩ | ⟨_, rfl, _⟩
          · exact .of_same rfl rfl
          · exact .of_same rfl rfl

theorem ResolvesCase.casesKept
    (resolves : ResolvesCase id input reading before resolved after) :
    CasesKept none before after := by
  cases resolves with
  | missed => exact .of_same rfl rfl
  | @closed stocked _ opened corrects rejects cleared =>
    have kept := casesKept_closeCase opened input.action
    obtain ⟨slots, rfl⟩ := commits_clearBlocker cleared
    cases action : input.action with
    | rejectMachineStock =>
      rw [rejects action]
      exact kept.then_same rfl rfl
    | manualCorrect correctedOnHandQty =>
      obtain ⟨inventory, _, wrote⟩ := corrects _ action
      obtain ⟨_, _, _, _, rfl⟩ := commits_correctStock.mp wrote
      exact kept.then_same rfl rfl

end VendingSystem.Platform
