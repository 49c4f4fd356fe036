import VendingSystem.PlatformStockReconciliationSteps

namespace VendingSystem.Platform

/-!
# Dispenses in the ledger

Every success of a command comes from a confirmed dispense, which the ledger
lists, as long as no closed movement is redelivered while its command is
unsettled.
-/

open Transaction

variable {before after : Db} {upload : MovementUpload}
  {context : OrderBoundDispenseConfirmationContext} {task : MovementTask}
  {marked : Option (MachineId × MovementName)} {answer : List MovementTask}
  {claimed : Bool}

/-- Every ledger row of a movement belongs to a stored one. -/
def Db.Noted (db : Db) : Prop :=
  ∀ row ∈ db.movementRows, ∀ machineId movementId,
    row.note = some (.machineStockMovement machineId movementId) →
      (db.findByMachineMovement machineId movementId).isSome = true

/-- Stored movements keep their payloads. -/
structure PayloadsKept (before after : Db) : Prop where
  later : ∀ {machineId movementId stored},
    before.findByMachineMovement machineId movementId = some stored →
      ∃ later,
        after.findByMachineMovement machineId movementId = some later ∧
          later.payload = stored.payload

theorem PayloadsKept.isDispenseOf
    (kept : PayloadsKept before after)
    (noted : before.Noted)
    {row : InventoryMovement}
    (listed : row ∈ before.movementRows)
    (commandNo : CommandId) :
    after.isDispenseOf commandNo row = before.isDispenseOf commandNo row := by
  unfold Db.isDispenseOf
  split
  · rename_i machineId movementId isNote
    obtain ⟨stored, found⟩ := Option.isSome_iff_exists.mp
      (noted row listed machineId movementId isNote)
    obtain ⟨later, foundLater, same⟩ := kept.later found
    rw [found, foundLater, Option.any_some, Option.any_some, same]
  · rfl

theorem PayloadsKept.dispenseRows
    (kept : PayloadsKept before after)
    (noted : before.Noted)
    {added : List InventoryMovement}
    (rows : after.movementRows = before.movementRows ++ added)
    (commandNo : CommandId) :
    after.dispenseRows commandNo =
      before.dispenseRows commandNo ++
        added.filter (after.isDispenseOf commandNo) := by
  unfold Db.dispenseRows
  rw [rows, List.filter_append]
  congr 1
  exact List.filter_congr fun row listed =>
    kept.isDispenseOf noted listed commandNo

theorem PayloadsKept.noted
    (kept : PayloadsKept before after)
    (noted : before.Noted)
    (rows : after.movementRows = before.movementRows) : after.Noted := by
  intro row listed machineId movementId isNote
  rw [rows] at listed
  obtain ⟨stored, found⟩ := Option.isSome_iff_exists.mp
    (noted row listed machineId movementId isNote)
  obtain ⟨later, foundLater, _⟩ := kept.later found
  rw [foundLater]
  rfl

/-- Commands keep their quantities, and the same ones have succeeded. -/
structure CommandsKept (before after : Db) : Prop where
  kept : ∀ {commandNo command},
    before.vendingCommands.find? commandNo = some command →
      ∃ later, after.vendingCommands.find? commandNo = some later ∧
        later.payloadJson.quantity = command.payloadJson.quantity ∧
        (later.status = .succeeded ↔ command.status = .succeeded)
  new : ∀ {commandNo command},
    after.vendingCommands.find? commandNo = some command →
      command.status = .succeeded →
        (before.vendingCommands.find? commandNo).isSome = true

theorem CommandsKept.of_same
    (same : after.vendingCommands = before.vendingCommands) :
    CommandsKept before after where
  kept found := ⟨_, by rw [same]; exact found, rfl, Iff.rfl⟩
  new found _ := by rw [← same, found]; rfl

theorem LeavesMovements.commandsKept
    (leaves : LeavesMovements before after) : CommandsKept before after where
  kept {commandNo command} found := by
    have kept := leaves.keepsCommands command (Table.mem_of_find? found)
    obtain rfl := Table.key_of_find? found
    simp only [Db.keepsCommand, Option.any_eq_true, Bool.and_eq_true,
      decide_eq_true_eq] at kept
    obtain ⟨later, foundLater, quantity, settled⟩ := kept
    exact ⟨later, foundLater, quantity, settled⟩
  new {commandNo command} found succeeded := by
    have new := leaves.newCommands command (Table.mem_of_find? found)
    obtain rfl := Table.key_of_find? found
    cases old : before.vendingCommands.find? command.id with
    | some _ => rfl
    | none => exact absurd succeeded (new (by rw [old]; rfl))

theorem commandsKept_setSucceeded
    {commandId : CommandId}
    {command : VendingCommand}
    (found : before.vendingCommands.find? commandId = some command)
    (succeeded : command.status = .succeeded)
    (resultAt : Option Time)
    (lastError : Option String) :
    CommandsKept before
      (before.setCommandStatus commandId .succeeded resultAt lastError) where
  kept {commandNo other} isFound := by
    simp only [Db.setCommandStatus, Table.find?_modify, isFound]
    split
    · rename_i same
      rw [same, found] at isFound
      cases isFound
      exact ⟨_, rfl, rfl, by simp [succeeded]⟩
    · exact ⟨other, rfl, rfl, Iff.rfl⟩
  new {commandNo other} isFound _ := by
    simp only [Db.setCommandStatus, Table.find?_modify] at isFound
    split at isFound
    · rename_i same
      rw [same, found]
      rfl
    · rw [isFound]
      rfl

namespace Db.DispensesMatch

/-- A step that lists no dispense and lets no command succeed. -/
theorem of_kept
    (matched : before.DispensesMatch)
    (cases : CasesKept marked before after)
    (noted : after.Noted)
    (rows : ∀ commandNo,
      after.dispenseRows commandNo = before.dispenseRows commandNo)
    (commands : CommandsKept before after)
    (new : ∀ {machineId movementId stored commandNo},
      before.findByMachineMovement machineId movementId = none →
        after.findByMachineMovement machineId movementId = some stored →
          stored.status = .accepted →
            stored.payload.dispenses commandNo = false)
    (reviewed : ∀ {machineId movementId stored},
      marked = some (machineId, movementId) →
        after.findByMachineMovement machineId movementId = some stored →
          stored.status ≠ .accepted) : after.DispensesMatch where
  noted := noted
  deducted {commandNo later} found succeeded := by
    obtain ⟨command, foundBefore⟩ := Option.isSome_iff_exists.mp
      (commands.new found succeeded)
    obtain ⟨same, foundSame, quantity, settled⟩ := commands.kept foundBefore
    rw [found] at foundSame
    cases foundSame
    rw [DeductedOnce, rows, quantity]
    exact matched.deducted foundBefore (settled.mp succeeded)
  untouched {commandNo} unsettled := by
    rw [rows]
    refine matched.untouched fun command found succeeded => ?_
    obtain ⟨later, foundLater, _, settled⟩ := commands.kept found
    exact unsettled later foundLater (settled.mpr succeeded)
  confirmed {machineId movementId stored commandNo} found accepted unreviewed
      dispenses := by
    have notMarked : marked ≠ some (machineId, movementId) :=
      fun isMarked => reviewed isMarked found accepted
    have wasStored : before.findByMachineMovement machineId movementId =
        some stored := by
      have moved := cases.stored machineId movementId notMarked
      rw [found] at moved
      cases old : before.findByMachineMovement machineId movementId with
      | none =>
        exact absurd dispenses (Bool.eq_false_iff.mp
          (new old found accepted))
      | some row =>
        rw [old] at moved
        cases moved with
        | same => rfl
        | reviewed _ isReviewed => simp [unreviewed] at isReviewed
    obtain ⟨command, foundCommand, succeeded⟩ :=
      matched.confirmed wasStored accepted unreviewed dispenses
    obtain ⟨later, foundLater, _, settled⟩ := commands.kept foundCommand
    exact ⟨later, foundLater, settled.mpr succeeded⟩

theorem of_same
    (matched : before.DispensesMatch)
    (stored : after.machineRawStockMovements =
      before.machineRawStockMovements)
    (conflicts : after.machineRawStockMovementConflicts =
      before.machineRawStockMovementConflicts)
    (rows : after.movementRows = before.movementRows)
    (commands : CommandsKept before after) : after.DispensesMatch := by
  have lookups : ∀ machineId movementId,
      after.findByMachineMovement machineId movementId =
        before.findByMachineMovement machineId movementId := by
    intro machineId movementId
    rw [Db.findByMachineMovement, Db.findByMachineMovement, stored]
  have payloads : PayloadsKept before after :=
    ⟨fun {_ _ row} found => ⟨row, by rw [lookups, found], rfl⟩⟩
  have kept : CasesKept none before after := .of_same stored conflicts
  refine matched.of_kept kept (payloads.noted matched.noted rows)
    (fun commandNo => ?_) commands ?_ (by simp)
  · have listed := payloads.dispenseRows matched.noted
      (rows.trans (List.append_nil _).symm) commandNo
    simpa using listed
  · intro machineId movementId row commandNo old found _
    rw [lookups, old] at found
    cases found

end Db.DispensesMatch

theorem CasesKept.payloads
    (kept : CasesKept none before after) : PayloadsKept before after :=
  ⟨fun found => kept.payload (by simp) found⟩

theorem Db.movementRows_addMovement
    (db : Db)
    (inventoryId : InventoryId)
    (deltaQty : Int)
    (reason : InventoryMovementReason)
    (orderId : Option OrderId)
    (machineId : MachineId)
    (movementId : MovementName) :
    (db.addMovement inventoryId deltaQty reason orderId
        (some (.machineStockMovement machineId movementId))).movementRows =
      db.movementRows ++
        [{ id := db.inventoryMovements.nextId
           inventoryId, deltaQty, reason, orderId
           note := some (.machineStockMovement machineId movementId) }] := by
  unfold Db.movementRows Db.addMovement
  rw [Table.rows_insertNext _ rfl, List.filter_append]
  rfl

theorem Db.movementRows_of_same
    (same : after.inventoryMovements = before.inventoryMovements) :
    after.movementRows = before.movementRows := by
  unfold Db.movementRows
  rw [same]

theorem Db.movementRows_addOperator
    (db : Db)
    (inventoryId : InventoryId)
    (deltaQty : Int)
    (reason : InventoryMovementReason)
    (orderId : Option OrderId)
    (note : String) :
    (db.addMovement inventoryId deltaQty reason orderId
        (some (.operator note))).movementRows = db.movementRows := by
  unfold Db.movementRows Db.addMovement
  rw [Table.rows_insertNext _ rfl, List.filter_append]
  exact List.append_nil _

/-- The context of a dispense is that of the command it names. -/
structure Db.FitsCommand
    (db : Db)
    (upload : MovementUpload)
    (context : OrderBoundDispenseConfirmationContext) : Prop where
  names : ∀ commandNo, upload.input.dispenses commandNo = true ↔
    commandNo = context.vendingCommandId
  quantity : ∃ command,
    db.vendingCommands.find? context.vendingCommandId = some command ∧
      command.payloadJson.quantity = context.quantity

theorem fitsCommand_of_context
    (dispensed : upload.input.isOrderBoundDispenseMovement = true)
    (found : before.getOrderBoundDispenseConfirmationContext
      upload.machineId upload.input = some context) :
    before.FitsCommand upload context := by
  simp only [Db.getOrderBoundDispenseConfirmationContext,
    Option.bind_eq_bind, Option.bind_eq_some_iff] at found
  obtain ⟨named, isNamed, order, _, line, _, command, isCommand, found⟩ :=
    found
  split at found
  · rename_i fits
    simp only [Bool.and_eq_true, decide_eq_true_eq] at fits
    obtain ⟨⟨⟨⟨⟨⟨⟨_, ofLine⟩, _⟩, _⟩, _⟩, _⟩, ofCommand⟩, _⟩ := fits
    cases found
    have isKey := Table.key_of_find? isCommand
    refine ⟨fun commandNo => ?_, command, ?_, ?_⟩
    · simp only [RawMachineStockMovement.dispenses, dispensed, isNamed,
        Bool.true_and, Option.any_some, decide_eq_true_eq]
      exact ⟨fun same => same.symm.trans isKey.symm,
        fun same => isKey.symm.trans same.symm⟩
    · rw [isKey]
      exact isCommand
    · exact ofCommand.trans ofLine.symm
  · cases found

/-- The movement is accepted, its stock is not written yet. -/
def Db.AwaitsStock (db : Db) (upload : MovementUpload) : Prop :=
  upload.input.isOrderBoundDispenseMovement = false ∧
    ∃ stored,
      db.findByMachineMovement upload.machineId upload.input.movementId =
          some stored ∧
        stored.status = .accepted ∧ stored.reconciliation = none ∧
        stored.payload = upload.input

/-- What is known of a call by the step that it takes next. -/
def MovementTask.Proceeds (db : Db) : MovementTask → Prop
  | .checkPlanogram upload
  | .checkField upload none
  | .accept upload none => upload.input.isOrderBoundDispenseMovement = false
  | .checkField upload (some context)
  | .accept upload (some context) => db.FitsCommand upload context
  | .apply upload
  | .markUnapplied upload => db.AwaitsStock upload
  | .respondForExisting upload existing =>
    existing.payload = upload.input → existing.status = .accepted →
      existing.reconciliation = none →
        ∀ commandNo, upload.input.dispenses commandNo = true →
          ∃ command, db.vendingCommands.find? commandNo = some command ∧
            command.status = .succeeded
  | _ => True

/-- Commands keep their quantities, and none that succeeded is taken back. -/
structure CommandsGrow (before after : Db) : Prop where
  later : ∀ {commandNo command},
    before.vendingCommands.find? commandNo = some command →
      ∃ later, after.vendingCommands.find? commandNo = some later ∧
        later.payloadJson.quantity = command.payloadJson.quantity ∧
        (command.status = .succeeded → later.status = .succeeded)

theorem CommandsKept.grow
    (kept : CommandsKept before after) : CommandsGrow before after := by
  refine ⟨fun found => ?_⟩
  obtain ⟨later, foundLater, quantity, settled⟩ := kept.kept found
  exact ⟨later, foundLater, quantity, settled.mpr⟩

theorem MovementTask.settles_upload
    {machineId : MachineId}
    {movementId : MovementName}
    (settles : task.settles machineId movementId = true) :
    (task = .apply task.upload ∨ task = .markUnapplied task.upload) ∧
      task.upload.machineId = machineId ∧
      task.upload.input.movementId = movementId := by
  cases task with
  | apply upload =>
    exact ⟨Or.inl rfl, Prod.ext_iff.mp (of_decide_eq_true settles)⟩
  | markUnapplied upload =>
    exact ⟨Or.inr rfl, Prod.ext_iff.mp (of_decide_eq_true settles)⟩
  | _ => cases settles

theorem Db.AwaitsStock.later
    (awaits : before.AwaitsStock upload)
    (kept : CasesKept marked before after)
    (notMarked :
      marked ≠ some (upload.machineId, upload.input.movementId)) :
    after.AwaitsStock upload := by
  obtain ⟨isField, stored, found, accepted, unreviewed, same⟩ := awaits
  exact ⟨isField, stored, kept.unreviewed notMarked found unreviewed,
    accepted, unreviewed, same⟩

theorem Db.FitsCommand.later
    (fits : before.FitsCommand upload context)
    (grow : CommandsGrow before after) : after.FitsCommand upload context := by
  obtain ⟨names, command, found, quantity⟩ := fits
  obtain ⟨later, foundLater, same, _⟩ := grow.later found
  exact ⟨names, later, foundLater, same.trans quantity⟩

/-- What is known of a call stays known while others take their steps. -/
theorem MovementTask.Proceeds.later
    (proceeds : task.Proceeds before)
    (kept : CasesKept marked before after)
    (grow : CommandsGrow before after)
    (notMarked : ∀ machineId movementId,
      task.settles machineId movementId = true →
        marked ≠ some (machineId, movementId)) : task.Proceeds after := by
  cases task with
  | checkField upload context | accept upload context =>
    cases context with
    | none => exact proceeds
    | some context => exact Db.FitsCommand.later proceeds grow
  | apply upload | markUnapplied upload =>
    exact Db.AwaitsStock.later proceeds kept
      (notMarked _ _ (decide_eq_true rfl))
  | respondForExisting upload existing =>
    intro same accepted unreviewed commandNo dispenses
    obtain ⟨command, found, succeeded⟩ :=
      proceeds same accepted unreviewed commandNo dispenses
    obtain ⟨later, foundLater, _, settled⟩ := grow.later found
    exact ⟨later, foundLater, settled succeeded⟩
  | checkPlanogram upload => exact proceeds
  | _ => trivial

/-- What follows a step is known to be in order. -/
theorem MovementStep.proceeds
    (matched : before.DispensesMatch)
    (proceeds : task.Proceeds before)
    (step : MovementStep before task answer after) :
    ∀ follow ∈ answer, follow.Proceeds after := by
  have single : ∀ follow : MovementTask, follow.Proceeds after →
      ∀ other ∈ [follow], other.Proceeds after := by
    intro follow known other member
    rw [List.mem_singleton.mp member]
    exact known
  have kept := step.casesKept
  cases step with
  | found looksUp stored =>
    apply single
    intro same accepted unreviewed commandNo dispenses
    exact matched.confirmed stored accepted unreviewed (same ▸ dispenses)
  | context upload =>
    apply single
    unfold orderBoundDispenseContextForMovement
    dsimp only
    split
    · rename_i notDispensed
      simpa [MovementTask.Proceeds] using notDispensed
    · rename_i dispensed
      split
      · trivial
      · split
        · trivial
        · rename_i context found
          exact fitsCommand_of_context (by simpa using dispensed) found
  | trusted upload context =>
    apply single
    cases context with
    | none => exact proceeds
    | some context => exact proceeds
  | onPlanogram upload => exact single _ proceeds
  | @accepted upload fresh =>
    apply single
    unfold MovementUpload.afterAcceptance
    split
    · refine ⟨proceeds,
        { machineId := upload.machineId
          movementId := upload.input.movementId
          payload := upload.input
          status := .accepted
          reconciliation := none }, ?_, rfl, rfl, rfl⟩
      unfold Db.findByMachineMovement at fresh ⊢
      simp only [Db.addRawMovement, Table.find?_insertOrIgnore, ↓reduceIte,
        fresh, Option.getD_none]
    · trivial
  | @applied upload isApplied _ applies =>
    apply single
    unfold MovementUpload.afterApplication
    split
    · apply Db.AwaitsStock.later proceeds kept
      simp [MovementTask.marks]
    · split
      · trivial
      · trivial
  | new | toReview | reviewed | confirmed | marked | restored | responded
  | dispatched => exact single _ trivial
  | done =>
    intro follow member
    cases member

theorem CommandsGrow.of_same
    (same : after.vendingCommands = before.vendingCommands) :
    CommandsGrow before after :=
  (CommandsKept.of_same same).grow

theorem commandsGrow_setSucceeded
    (commandId : CommandId)
    (resultAt : Option Time)
    (lastError : Option String) :
    CommandsGrow before
      (before.setCommandStatus commandId .succeeded resultAt lastError) := by
  refine ⟨fun {commandNo command} found => ?_⟩
  simp only [Db.setCommandStatus, Table.find?_modify, found]
  split
  · exact ⟨_, rfl, rfl, fun _ => rfl⟩
  · exact ⟨command, rfl, rfl, id⟩

theorem confirmDispense_commands
    {machineId : MachineId}
    {input : RawMachineStockMovement}
    {now : Time}
    (confirmed :
      Commits
        (confirmOrderBoundDispenseSucceededInTransaction machineId input
          context now)
        before () after) :
    after.vendingCommands = (before.setCommandStatus context.vendingCommandId
      .succeeded (some input.occurredAt) none).vendingCommands := by
  obtain ⟨_, row, valid, _, _, _, _, _, _, _, finished⟩ :=
    commits_confirmOrderBoundDispenseSucceeded confirmed
  exact (OrderSideOnly.syncOrderAndStagePartialRefund _ _
    finished).vendingCommands

/-- What a repair claimed: a command that its movement names. -/
theorem commits_repair
    (repaired :
      Commits
        (repairAcceptedOrderBoundDispenseCommand upload.machineId
          upload.input)
        before claimed after) :
    after = before ∨
      ∃ command, before.commandOf upload = some command ∧
        before.vendingCommands.find? command.id = some command ∧
        command.status ∈ VendingCommandStatus.succeeded :: unsettledStatuses ∧
        (∀ context ∈ upload.input.orderContext,
          context.vendingCommandNo = command.id) ∧
        after = before.setCommandStatus command.id .succeeded
          (some upload.input.occurredAt) none := by
  unfold repairAcceptedOrderBoundDispenseCommand at repaired
  split at repaired
  · exact Or.inl (commits_pure.mp repaired).2
  · rename_i context isContext
    rw [commits_get_bind] at repaired
    split at repaired
    · exact Or.inl (commits_pure.mp repaired).2
    · rename_i command found
      obtain ⟨isFound, _⟩ := Option.filter_eq_some_iff.mp found
      have isKey := Table.key_of_find? isFound
      rw [← isKey] at isFound
      rcases commits_claimCommand.mp repaired with
        ⟨_, rfl, _⟩ | ⟨_, rfl, other, isOther, eligible⟩
      · exact Or.inl rfl
      · rw [isFound] at isOther
        cases isOther
        refine Or.inr ⟨command, ?_, isFound, eligible, ?_, rfl⟩
        · rw [Db.commandOf, isContext, Option.bind_some]
          exact found
        · intro named isNamed
          rw [isContext] at isNamed
          cases isNamed
          exact isKey.symm

theorem MovementStep.commandsGrow
    (step : MovementStep before task answer after) :
    CommandsGrow before after := by
  cases step with
  | found | new | context | toReview | onPlanogram | trusted | dispatched
  | done | reviewed | accepted => exact .of_same rfl
  | confirmed fresh confirms =>
    have commands := confirmDispense_commands confirms
    refine ⟨fun found => ?_⟩
    rw [commands]
    exact (commandsGrow_setSucceeded _ _ _).later found
  | applied applies =>
    rcases commits_applyTrusted applies with
      ⟨_, rfl⟩ | ⟨_, _, _, _, _, _, _, rfl⟩
    · exact .of_same rfl
    · exact .of_same rfl
  | marked marks =>
    obtain rfl := commits_modify.mp marks
    exact .of_same rfl
  | restored restores =>
    obtain rfl := commits_modify.mp restores
    exact .of_same rfl
  | responded answers =>
    cases answers with
    | underReview | alreadyAccepted => exact .of_same rfl
    | conflicts _ inserted =>
      obtain rfl := commits_modify.mp inserted
      exact .of_same rfl
    | repaired _ _ _ repair =>
      rcases commits_repair repair with rfl | ⟨_, _, _, _, _, rfl⟩
      · exact .of_same rfl
      · exact commandsGrow_setSucceeded _ _ _

/-- A redelivery repairs only what has succeeded. -/
theorem repair_commandsKept
    {existing : StoredRawMachineStockMovement}
    (proceeds :
      (MovementTask.respondForExisting upload existing).Proceeds before)
    (settled :
      FindsSettled before (.upload (.respondForExisting upload existing)))
    (same : existing.payload = upload.input)
    (accepted : existing.status = .accepted)
    (dispensed : upload.input.isOrderBoundDispenseMovement = true)
    (repair :
      Commits
        (repairAcceptedOrderBoundDispenseCommand upload.machineId
          upload.input)
        before claimed after) :
    CommandsKept before after ∧
      (after = before ∨
        ∃ commandId, after = before.setCommandStatus commandId .succeeded
          (some upload.input.occurredAt) none) := by
  rcases commits_repair repair with
    rfl | ⟨command, isNamed, found, eligible, names, rfl⟩
  · exact ⟨.of_same rfl, Or.inl rfl⟩
  · refine ⟨commandsKept_setSucceeded found ?_ _ _, Or.inr ⟨_, rfl⟩⟩
    cases unreviewed : existing.reconciliation with
    | none =>
      have dispenses : upload.input.dispenses command.id = true := by
        unfold Db.commandOf at isNamed
        obtain ⟨context, isContext, _⟩ := Option.bind_eq_some_iff.mp isNamed
        simp [RawMachineStockMovement.dispenses, dispensed, isContext,
          names context isContext]
      obtain ⟨other, isOther, succeeded⟩ :=
        proceeds same accepted unreviewed command.id dispenses
      rw [found] at isOther
      cases isOther
      exact succeeded
    | some reconciliation =>
      have isClosed : isClosedRedelivery upload existing = true := by
        simp [isClosedRedelivery, same, dispensed,
          StoredRawMachineStockMovement.closedByOperator, accepted,
          unreviewed]
      have isSettled := (settled isClosed command isNamed).1 accepted
      exact (List.mem_cons.mp eligible).resolve_right isSettled

/-- What a resolution leaves: commands, dispenses and absent movements. -/
theorem ResolvesCase.frame
    {id : StockReconciliationCaseId}
    {input : StockReconciliationResolveInput}
    {reading : CaseReading}
    {resolved : Bool}
    (resolves : ResolvesCase id input reading before resolved after) :
    after.vendingCommands = before.vendingCommands ∧
      after.movementRows = before.movementRows ∧
      ∀ machineId movementId,
        before.findByMachineMovement machineId movementId = none →
          after.findByMachineMovement machineId movementId = none := by
  have closes : ∀ action machineId movementId,
      before.findByMachineMovement machineId movementId = none →
        (before.closeCase action id).findByMachineMovement machineId
          movementId = none := by
    intro action machineId movementId absent
    cases id with
    | conflict id => exact absent
    | rawMovement ofMachine other =>
      unfold Db.findByMachineMovement at absent ⊢
      simp only [Db.closeCase, Table.find?_modify, absent, Option.map_none,
        ite_self]
  have sameSide : ∀ action,
      (before.closeCase action id).vendingCommands = before.vendingCommands ∧
        (before.closeCase action id).movementRows = before.movementRows := by
    intro action
    cases id with
    | conflict id => exact ⟨rfl, rfl⟩
    | rawMovement machineId movementId => exact ⟨rfl, rfl⟩
  cases resolves with
  | missed => exact ⟨rfl, rfl, fun _ _ absent => absent⟩
  | @closed stocked _ opened corrects rejects cleared =>
    obtain ⟨commands, rows⟩ := sameSide input.action
    obtain ⟨slots, rfl⟩ := commits_clearBlocker cleared
    cases action : input.action with
    | rejectMachineStock =>
      rw [rejects action]
      exact ⟨commands, rows, closes _⟩
    | manualCorrect correctedOnHandQty =>
      obtain ⟨inventory, _, wrote⟩ := corrects _ action
      obtain ⟨row, covered, _, _, rfl⟩ := commits_correctStock.mp wrote
      refine ⟨commands, Eq.trans ?_ rows, closes _⟩
      exact Db.movementRows_addOperator
        ((before.closeCase input.action id).setInventory inventory.id
          correctedOnHandQty row.reservedQty covered) _ _ _ _ _

section Matches

variable (matched : before.DispensesMatch)

include matched

variable {machineId : MachineId} {now : Time}

theorem addRawMovement_dispensesMatch
    {input : RawMachineStockMovement}
    {status : RawMovementStatus}
    {reconciliation : Option Reconciliation}
    (fresh :
      before.findByMachineMovement machineId input.movementId = none)
    (notConfirmed : status = .accepted →
      input.isOrderBoundDispenseMovement = false) :
    (before.addRawMovement machineId input status
      reconciliation).DispensesMatch := by
  have kept := casesKept_addRawMovement fresh status reconciliation
  refine matched.of_kept kept (kept.payloads.noted matched.noted rfl)
    (fun commandNo => ?_) (.of_same rfl) ?_ nofun
  · have listed := kept.payloads.dispenseRows matched.noted
      (List.append_nil _).symm commandNo
    simpa using listed
  · intro ofMachine movementId stored commandNo old found accepted
    unfold Db.findByMachineMovement at old found
    simp only [Db.addRawMovement, Table.find?_insertOrIgnore] at found
    split at found
    · rename_i same
      rw [same] at old
      rw [same, old] at found
      cases found
      simp [RawMachineStockMovement.dispenses, notConfirmed accepted]
    · rw [old] at found
      cases found

/-- What a confirmation adds to the dispenses in the ledger. -/
theorem confirmDispense_dispenseRows
    (fits : before.FitsCommand upload context)
    (fresh : before.findByMachineMovement upload.machineId
      upload.input.movementId = none)
    (confirms :
      Commits
        (confirmOrderBoundDispenseSucceededInTransaction upload.machineId
          upload.input context now)
        (before.addRawMovement upload.machineId upload.input .accepted none)
        () after) :
    after.Noted ∧
      ∃ row : InventoryMovement, row.deltaQty = -(context.quantity : Int) ∧
        ∀ commandNo, after.dispenseRows commandNo =
          before.dispenseRows commandNo ++
            if commandNo = context.vendingCommandId then [row] else [] := by
  obtain ⟨stored, conflicts⟩ := confirmDispense_movements confirms
  obtain ⟨_, _, _, _, _, _, _, _, _, _, finished⟩ :=
    commits_confirmOrderBoundDispenseSucceeded confirms
  have ledger := (OrderSideOnly.syncOrderAndStagePartialRefund _ _
    finished).inventoryMovements
  have kept := (casesKept_addRawMovement fresh .accepted none).then_same
    stored conflicts
  have isStored : after.findByMachineMovement upload.machineId
      upload.input.movementId =
        some
          { machineId := upload.machineId
            movementId := upload.input.movementId
            payload := upload.input
            status := .accepted
            reconciliation := none } := by
    unfold Db.findByMachineMovement at fresh ⊢
    rw [stored]
    simp only [Db.addRawMovement, Table.find?_insertOrIgnore, ↓reduceIte,
      fresh, Option.getD_none]
  have sameLedger : after.inventoryMovements =
      (before.addMovement context.inventoryId (-context.quantity)
        .purchaseConfirmed (some context.orderId)
        (some (.machineStockMovement upload.machineId
          upload.input.movementId))).inventoryMovements := ledger
  obtain ⟨row, hasNote, deducted, rows⟩ : ∃ row : InventoryMovement,
      row.note = some (.machineStockMovement upload.machineId
        upload.input.movementId) ∧
      row.deltaQty = -(context.quantity : Int) ∧
      after.movementRows = before.movementRows ++ [row] :=
    ⟨_, rfl, rfl, (Db.movementRows_of_same sameLedger).trans
      (Db.movementRows_addMovement before context.inventoryId
        (-context.quantity) .purchaseConfirmed (some context.orderId)
        upload.machineId upload.input.movementId)⟩
  have listed := kept.payloads.dispenseRows matched.noted rows
  refine ⟨?_, row, deducted, fun commandNo => ?_⟩
  · intro other member machineId movementId isNote
    rw [rows] at member
    rcases List.mem_append.mp member with old | new
    · obtain ⟨stored, found⟩ := Option.isSome_iff_exists.mp
        (matched.noted other old machineId movementId isNote)
      obtain ⟨later, foundLater, _⟩ := kept.payloads.later found
      rw [foundLater]
      rfl
    · rw [List.mem_singleton.mp new, hasNote] at isNote
      cases isNote
      rw [isStored]
      rfl
  · have isDispense : after.isDispenseOf commandNo row =
        decide (commandNo = context.vendingCommandId) := by
      simp only [Db.isDispenseOf, hasNote, isStored, Option.any_some]
      rw [Bool.eq_iff_iff, fits.names commandNo, decide_eq_true_eq]
    rw [listed commandNo, List.filter_singleton, isDispense]
    simp only [Bool.cond_decide]

theorem confirmDispense_dispensesMatch
    (fits : before.FitsCommand upload context)
    (fresh : before.findByMachineMovement upload.machineId
      upload.input.movementId = none)
    (confirms :
      Commits
        (confirmOrderBoundDispenseSucceededInTransaction upload.machineId
          upload.input context now)
        (before.addRawMovement upload.machineId upload.input .accepted none)
        () after) : after.DispensesMatch := by
  obtain ⟨stored, _⟩ := confirmDispense_movements confirms
  have commands := confirmDispense_commands confirms
  obtain ⟨noted, row, deducted, rows⟩ :=
    confirmDispense_dispenseRows matched fits fresh confirms
  obtain ⟨command, _, _, isCommand, unsettled, _⟩ :=
    commits_confirmOrderBoundDispenseSucceeded confirms
  obtain ⟨other, isOther, quantity⟩ := fits.quantity
  have wasCommand : before.vendingCommands.find? context.vendingCommandId =
      some command := isCommand
  rw [isOther] at wasCommand
  cases wasCommand
  have notSucceeded : command.status ≠ .succeeded := by
    intro succeeded
    simp [succeeded, unsettledStatuses] at unsettled
  have noneBefore : before.dispenseRows context.vendingCommandId = [] := by
    refine matched.untouched fun command found => ?_
    rw [isOther] at found
    cases found
    exact notSucceeded
  have settled : after.vendingCommands.find? context.vendingCommandId =
      some
        { command with
          status := .succeeded
          resultAt := some upload.input.occurredAt
          lastError := none } := by
    rw [commands]
    simp only [Db.setCommandStatus, Table.find?_modify, ↓reduceIte,
      isCommand, Option.map_some]
  have others : ∀ commandNo, commandNo ≠ context.vendingCommandId →
      after.vendingCommands.find? commandNo =
        before.vendingCommands.find? commandNo := by
    intro commandNo differs
    rw [commands]
    simp only [Db.setCommandStatus, Table.find?_modify, if_neg differs]
    rfl
  refine ⟨noted, ?_, ?_, ?_⟩
  · intro commandNo later found succeeded
    by_cases same : commandNo = context.vendingCommandId
    · subst same
      rw [settled] at found
      cases found
      refine ⟨row, ?_, ?_⟩
      · rw [rows, noneBefore, if_pos rfl]
        rfl
      · rw [deducted, ← quantity]
    · rw [others commandNo same] at found
      obtain ⟨listed, only, matches'⟩ := matched.deducted found succeeded
      exact ⟨listed, by rw [rows, only, if_neg same]; rfl, matches'⟩
  · intro commandNo notSettled
    by_cases same : commandNo = context.vendingCommandId
    · subst same
      exact absurd rfl (notSettled _ settled)
    · rw [rows, if_neg same, List.append_nil]
      refine matched.untouched fun command found => notSettled command ?_
      rw [others commandNo same]
      exact found
  · intro machineId movementId later commandNo found accepted unreviewed
      dispenses
    by_cases same : commandNo = context.vendingCommandId
    · subst same
      exact ⟨_, settled, rfl⟩
    · rw [others commandNo same]
      unfold Db.findByMachineMovement at found fresh
      rw [stored] at found
      simp only [Db.addRawMovement, Table.find?_insertOrIgnore] at found
      split at found
      · rename_i isKey
        rw [isKey, fresh] at found
        cases found
        exact absurd ((fits.names commandNo).mp dispenses) same
      · exact matched.confirmed found accepted unreviewed dispenses

/-- A field movement that is applied lists no dispense. -/
theorem applyTrusted_dispensesMatch
    {isApplied : Bool}
    (awaits : before.AwaitsStock upload)
    (applies :
      Commits
        (applyTrustedFieldStockMovement upload.machineId upload.input)
        before isApplied after) : after.DispensesMatch := by
  rcases commits_applyTrusted applies with
    ⟨_, rfl⟩ | ⟨_, data, row, valid, _, _, _, rfl⟩
  · exact matched
  · obtain ⟨isField, stored, found, _, _, payload⟩ := awaits
    have payloads : PayloadsKept before
        ((before.setInventory data.inventoryId data.afterQuantity
          row.reservedQty valid).addMovement data.inventoryId
            ((data.afterQuantity : Int) - row.onHandQty) .hardwareSync none
            (some (.machineStockMovement upload.machineId
              upload.input.movementId))) :=
      ⟨fun found => ⟨_, found, rfl⟩⟩
    have rows := Db.movementRows_addMovement
      (before.setInventory data.inventoryId data.afterQuantity
        row.reservedQty valid) data.inventoryId
      ((data.afterQuantity : Int) - row.onHandQty) .hardwareSync none
      upload.machineId upload.input.movementId
    have kept : CasesKept none before
        ((before.setInventory data.inventoryId data.afterQuantity
          row.reservedQty valid).addMovement data.inventoryId
            ((data.afterQuantity : Int) - row.onHandQty) .hardwareSync none
            (some (.machineStockMovement upload.machineId
              upload.input.movementId))) := .of_same rfl rfl
    refine matched.of_kept kept ?_ (fun commandNo => ?_) (.of_same rfl) ?_ nofun
    · intro listed member machineId movementId isNote
      rw [rows] at member
      rcases List.mem_append.mp member with old | new
      · exact matched.noted listed old machineId movementId isNote
      · rw [List.mem_singleton.mp new] at isNote
        cases isNote
        exact Option.isSome_iff_exists.mpr ⟨stored, found⟩
    · rw [payloads.dispenseRows matched.noted rows commandNo]
      have notDispense : stored.payload.dispenses commandNo = false := by
        simp [RawMachineStockMovement.dispenses, payload, isField]
      have isFound :
          ((before.setInventory data.inventoryId data.afterQuantity
            row.reservedQty valid).addMovement data.inventoryId
              ((data.afterQuantity : Int) - row.onHandQty) .hardwareSync none
              (some (.machineStockMovement upload.machineId
                upload.input.movementId))).findByMachineMovement
            upload.machineId upload.input.movementId = some stored := found
      simp only [List.filter_cons, List.filter_nil, Db.isDispenseOf, isFound,
        Option.any_some, notDispense, Bool.false_eq_true, ↓reduceIte,
        List.append_nil]
    · intro machineId movementId row commandNo absent isStored _
      exact absurd (isStored.symm.trans absent) (by simp)

/-- A movement that goes to review is not accepted any more. -/
theorem mark_dispensesMatch
    {movementId : MovementName}
    {reconciliation : Reconciliation}
    (marks :
      Commits (markReconciliation machineId movementId reconciliation)
        before () after) : after.DispensesMatch := by
  have kept := casesKept_mark marks
  obtain rfl := commits_modify.mp marks
  have payloads : PayloadsKept before
      { before with
        machineRawStockMovements :=
          before.machineRawStockMovements.modify (machineId, movementId)
            fun row =>
              { row with
                status := .reconciliation
                reconciliation := some reconciliation } } := by
    refine ⟨fun {ofMachine other stored} found => ?_⟩
    unfold Db.findByMachineMovement at found ⊢
    simp only [Table.find?_modify, found]
    split
    · exact ⟨_, rfl, rfl⟩
    · exact ⟨stored, rfl, rfl⟩
  refine matched.of_kept kept (payloads.noted matched.noted rfl)
    (fun commandNo => ?_) (.of_same rfl) ?_ ?_
  · have listed := payloads.dispenseRows matched.noted
      (List.append_nil _).symm commandNo
    simpa using listed
  · intro ofMachine other stored commandNo absent found _
    unfold Db.findByMachineMovement at absent found
    simp only [Table.find?_modify, absent] at found
    split at found <;> cases found
  · intro ofMachine other stored isMarked found
    cases isMarked
    unfold Db.findByMachineMovement at found
    simp only [Table.find?_modify, ↓reduceIte, Option.map_eq_some_iff] at found
    obtain ⟨row, _, rfl⟩ := found
    simp

theorem restoreSlot_dispensesMatch
    {slotId : SlotId}
    (restores :
      Commits (restoreSlotAfterAcceptedLocalMaintenance machineId slotId)
        before () after) : after.DispensesMatch := by
  have kept := casesKept_restoreSlot restores
  obtain rfl := commits_modify.mp restores
  refine matched.of_kept kept (kept.payloads.noted matched.noted rfl)
    (fun commandNo => ?_) (.of_same rfl) ?_ nofun
  · have listed := kept.payloads.dispenseRows matched.noted
      (List.append_nil _).symm commandNo
    simpa using listed
  · intro ofMachine other stored commandNo absent found _
    unfold Db.findByMachineMovement at absent found
    simp only [Table.find?_updateWhere, absent] at found
    cases found

theorem MovementStep.dispensesMatch
    (proceeds : task.Proceeds before)
    (settled : FindsSettled before (.upload task))
    (step : MovementStep before task answer after) :
    after.DispensesMatch := by
  cases step with
  | found | new | context | toReview | onPlanogram | trusted | dispatched
  | done => exact matched
  | reviewed fresh => exact addRawMovement_dispensesMatch matched fresh nofun
  | accepted fresh =>
    exact addRawMovement_dispensesMatch matched fresh fun _ => proceeds
  | confirmed fresh confirms =>
    exact confirmDispense_dispensesMatch matched proceeds fresh confirms
  | applied applies =>
    exact applyTrusted_dispensesMatch matched proceeds applies
  | marked marks => exact mark_dispensesMatch matched marks
  | restored restores => exact restoreSlot_dispensesMatch matched restores
  | responded answers =>
    cases answers with
    | underReview | alreadyAccepted => exact matched
    | conflicts _ inserted =>
      obtain rfl := commits_modify.mp inserted
      exact ⟨matched.noted, matched.deducted, matched.untouched,
        matched.confirmed⟩
    | repaired same accepted dispensed repair =>
      obtain ⟨commands, rfl | ⟨commandId, rfl⟩⟩ := repair_commandsKept
        proceeds settled same accepted dispensed repair
      · exact matched
      · exact matched.of_same rfl rfl rfl commands

theorem ResolvesCase.dispensesMatch
    {id : StockReconciliationCaseId}
    {input : StockReconciliationResolveInput}
    {reading : CaseReading}
    {resolved : Bool}
    (resolves : ResolvesCase id input reading before resolved after) :
    after.DispensesMatch := by
  have kept := resolves.casesKept
  obtain ⟨commands, rows, absent⟩ := resolves.frame
  refine matched.of_kept kept (kept.payloads.noted matched.noted rows)
    (fun commandNo => ?_) (.of_same commands) ?_ nofun
  · have listed := kept.payloads.dispenseRows matched.noted
      (rows.trans (List.append_nil _).symm) commandNo
    simpa using listed
  · intro machineId movementId stored commandNo notStored found _
    rw [absent machineId movementId notStored] at found
    cases found

theorem LeavesMovements.dispensesMatch
    (leaves : LeavesMovements before after) : after.DispensesMatch :=
  matched.of_same leaves.stored leaves.conflicts leaves.movementRows
    leaves.commandsKept

end Matches

end VendingSystem.Platform
