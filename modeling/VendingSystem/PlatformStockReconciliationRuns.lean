import VendingSystem.PlatformStockReconciliationLedger

namespace VendingSystem.Platform

/-!
# Runs of uploads and resolutions

A resolution closes a case that is open, and nothing opens it again: a stored
movement is sent to review once, by the call that stored it.
-/

open Transaction

variable {before after : Db} {machineId : MachineId} {reading : CaseReading}
  {id : StockReconciliationCaseId} {input : StockReconciliationResolveInput}
  {resolved : Bool} {runtime next : CaseRuntime} {task : CaseTask}
  {answer : List CaseTask} {position : Nat}
  {closed : Option StockReconciliationCaseId} {now : Time} {event : CaseEvent}

/-- The slot comes back from a fault when nothing blocks it. -/
def RestoresUnblocked (before after : Db) : Prop :=
  ∀ slotId faulted restored,
    before.machineSlots.find? slotId = some faulted →
      faulted.status = .faulted →
        after.machineSlots.find? slotId = some restored →
          restored.status = .enabled →
            after.slotIsBlocked faulted.machineId slotId = false

theorem RestoresUnblocked.of_same
    (same : after.machineSlots = before.machineSlots) :
    RestoresUnblocked before after := by
  intro slotId faulted restored found isFaulted foundLater enabled
  rw [same, found] at foundLater
  cases foundLater
  rw [isFaulted] at enabled
  cases enabled

theorem resolved_unblocks
    (slotId : SlotId)
    (reconciliation : Reconciliation) :
    let later :=
      if reconciliation.saleSafetyBlockerSlotId = some slotId ∧
          reconciliation.saleSafetyBlockerState.isSome then
        { reconciliation with platformReviewStatus := .resolved }
      else reconciliation
    (decide (later.saleSafetyBlockerSlotId = some slotId) &&
        decide (later.platformReviewStatus = .open) &&
        later.saleSafetyBlockerState.isSome) = false := by
  dsimp only
  split
  · simp
  · rename_i notBlocking
    by_contra blocks
    simp only [Bool.not_eq_false, Bool.and_eq_true, decide_eq_true_eq] at blocks
    exact notBlocking ⟨blocks.1.1, blocks.2⟩

/-- After a slot was restored, none of its reviews is open. -/
theorem restoreSlot_unblocked
    {slotId : SlotId}
    (restores :
      Commits (restoreSlotAfterAcceptedLocalMaintenance machineId slotId)
        before () after) : RestoresUnblocked before after := by
  obtain rfl := commits_modify.mp restores
  intro other faulted restored found isFaulted foundLater enabled
  simp only [Table.find?_updateWhere, found, Option.map_some,
    Option.some.injEq] at foundLater
  split at foundLater
  · rename_i qualifies
    simp only [Bool.and_eq_true, decide_eq_true_eq] at qualifies
    obtain ⟨⟨⟨ofMachine, isSlot⟩, _⟩, _⟩ := qualifies
    have isKey := Table.key_of_find? found
    have same : other = slotId := isKey.symm.trans isSlot
    subst same
    subst ofMachine
    unfold Db.slotIsBlocked
    rw [Bool.or_eq_false_iff, List.any_eq_false, List.any_eq_false]
    constructor
    · intro row member
      simp only [Table.updateWhere, List.mem_map] at member
      obtain ⟨old, _, rfl⟩ := member
      by_cases ofThis : old.machineId = faulted.machineId
      · cases reviewed : old.reconciliation with
        | none => simp [ofThis]
        | some reconciliation =>
          have closed := resolved_unblocks other reconciliation
          simp only [ofThis, decide_true, ↓reduceIte,
            Option.map_some, Option.any_some, closed, Bool.and_false,
            Bool.false_eq_true, not_false_eq_true]
      · simp [ofThis]
    · intro row member
      simp only [Table.updateWhere, List.mem_map] at member
      obtain ⟨old, _, rfl⟩ := member
      by_cases ofThis : old.machineId = faulted.machineId
      · have closed := resolved_unblocks other old.reconciliation
        simp only [ofThis, decide_true, ↓reduceIte, closed, Bool.and_false,
          Bool.false_eq_true, not_false_eq_true]
      · simp [ofThis]
  · rw [← foundLater, isFaulted] at enabled
    cases enabled

theorem clearBlocker_unblocked
    {current : StockReconciliationCase}
    {clearBlocker : Bool}
    (cleared :
      Commits (clearResolvedCaseBlocker current clearBlocker)
        before () after) : RestoresUnblocked before after := by
  unfold clearResolvedCaseBlocker at cleared
  split at cleared
  · obtain rfl := commits_modify.mp cleared
    intro other faulted restored found isFaulted foundLater enabled
    simp only [Table.find?_updateWhere, found, Option.map_some,
      Option.some.injEq] at foundLater
    split at foundLater
    · rename_i qualifies
      simp only [Bool.and_eq_true, decide_eq_true_eq,
        Bool.not_eq_eq_eq_not, Bool.not_true] at qualifies
      obtain ⟨⟨⟨⟨isSlot, ofMachine⟩, _⟩, _⟩, unblocked⟩ := qualifies
      have isKey := Table.key_of_find? found
      rw [ofMachine, ← isKey, isSlot]
      exact unblocked
    · rw [← foundLater, isFaulted] at enabled
      cases enabled
  · obtain ⟨_, rfl⟩ := commits_pure.mp cleared
    exact .of_same rfl

theorem Db.machineSlots_settleDispense
    (db : Db)
    (machineId : MachineId)
    (input : RawMachineStockMovement)
    (context : OrderBoundDispenseConfirmationContext)
    (row : Inventory)
    (valid :
      row.reservedQty - context.quantity ≤ row.onHandQty - context.quantity) :
    (db.settleDispense machineId input context row valid).machineSlots =
      db.machineSlots := by
  have lines : ∀ (first : Db) orderItemId,
      (first.fulfillLine orderItemId).machineSlots = first.machineSlots :=
    fun _ _ => rfl
  have ledger : ∀ (first : Db) inventoryId deltaQty reason orderId note,
      (first.addMovement inventoryId deltaQty reason orderId
        note).machineSlots = first.machineSlots :=
    fun _ _ _ _ _ _ => rfl
  have reservations : ∀ first : Db,
      (first.confirmLineReservations context).machineSlots =
        first.machineSlots :=
    fun _ => rfl
  have stock : ∀ (first : Db) inventoryId onHandQty reservedQty valid,
      (first.setInventory inventoryId onHandQty reservedQty
        valid).machineSlots = first.machineSlots :=
    fun _ _ _ _ _ => rfl
  unfold Db.settleDispense
  rw [lines, ledger, reservations, stock]
  rfl

/-- A call restores a slot only with all its reviews. -/
theorem MovementStep.unblocked
    {task : MovementTask}
    {answer : List MovementTask}
    (step : MovementStep before task answer after) :
    RestoresUnblocked before after := by
  cases step with
  | found | new | context | toReview | onPlanogram | trusted | dispatched
  | done | reviewed | accepted => exact .of_same rfl
  | confirmed fresh confirms =>
    obtain ⟨_, _, _, _, _, _, _, _, _, _, finished⟩ :=
      commits_confirmOrderBoundDispenseSucceeded confirms
    have orderSide :=
      OrderSideOnly.syncOrderAndStagePartialRefund _ _ finished
    exact .of_same (orderSide.machineSlots.trans
      (Db.machineSlots_settleDispense _ _ _ _ _ _))
  | applied applies =>
    rcases commits_applyTrusted applies with
      ⟨_, rfl⟩ | ⟨_, _, _, _, _, _, _, rfl⟩
    · exact .of_same rfl
    · exact .of_same rfl
  | marked marks =>
    obtain rfl := commits_modify.mp marks
    exact .of_same rfl
  | restored restores => exact restoreSlot_unblocked restores
  | responded answers =>
    cases answers with
    | underReview | alreadyAccepted => exact .of_same rfl
    | conflicts _ inserted =>
      obtain rfl := commits_modify.mp inserted
      exact .of_same rfl
    | repaired _ _ _ repair =>
      rcases commits_repair repair with rfl | ⟨_, _, _, _, _, rfl⟩
      · exact .of_same rfl
      · exact .of_same rfl

theorem ResolvesCase.unblocked
    (resolves : ResolvesCase id input reading before resolved after) :
    RestoresUnblocked before after := by
  have sameSlots : ∀ action,
      (before.closeCase action id).machineSlots = before.machineSlots := by
    intro action
    cases id with
    | conflict id => rfl
    | rawMovement machineId movementId => rfl
  cases resolves with
  | missed => exact .of_same rfl
  | @closed stocked _ opened corrects rejects cleared =>
    have stockedSlots : stocked.machineSlots = before.machineSlots := by
      cases action : input.action with
      | rejectMachineStock =>
        rw [rejects action]
        exact sameSlots _
      | manualCorrect correctedOnHandQty =>
        obtain ⟨inventory, _, wrote⟩ := corrects _ action
        obtain ⟨_, _, _, _, rfl⟩ := commits_correctStock.mp wrote
        exact sameSlots input.action
    intro slotId faulted restored found
    rw [← stockedSlots] at found
    exact clearBlocker_unblocked cleared slotId faulted restored found

/-- The call has stored the movement and has not settled its stock. -/
def CaseTask.settles
    (machineId : MachineId)
    (movementId : MovementName) : CaseTask → Bool
  | .upload task => task.settles machineId movementId
  | _ => false

def CaseTask.Proceeds (db : Db) : CaseTask → Prop
  | .upload task => task.Proceeds db
  | _ => True

/--
The ledger matches, what was closed is shut and was closed once, and a stored
movement has at most one call that settles its stock.
-/
structure CaseInvariant (runtime : CaseRuntime) : Prop where
  matched : runtime.service.db.DispensesMatch
  shut : ∀ id ∈ runtime.closures, runtime.service.db.isShut id
  nodup : runtime.closures.Nodup
  single : ∀ machineId movementId,
    runtime.service.tasks.countP (CaseTask.settles machineId movementId) ≤ 1
  proceeds : ∀ task ∈ runtime.service.tasks,
    task.Proceeds runtime.service.db

theorem CaseInvariant.settles_unreviewed
    (invariant : CaseInvariant runtime)
    (inHand : task ∈ runtime.service.tasks)
    {movementId : MovementName}
    (settles : task.settles machineId movementId = true) :
    ∃ stored,
      runtime.service.db.findByMachineMovement machineId movementId =
          some stored ∧
        stored.reconciliation = none := by
  have known := invariant.proceeds task inHand
  cases task with
  | upload call =>
    obtain ⟨isCall, rfl, rfl⟩ := MovementTask.settles_upload settles
    have awaits : runtime.service.db.AwaitsStock call.upload := by
      rcases isCall with isApply | isMark
      · rw [isApply] at known
        exact known
      · rw [isMark] at known
        exact known
    obtain ⟨_, stored, found, _, unreviewed, _⟩ := awaits
    exact ⟨stored, found, unreviewed⟩
  | resolve | claim => cases settles

/-- One step of a task keeps the invariant. -/
theorem CaseInvariant.advance
    (invariant : CaseInvariant runtime)
    (found : runtime.service.tasks[position]? = some task)
    {marked : Option (MachineId × MovementName)}
    (kept : CasesKept marked runtime.service.db after)
    (grow : CommandsGrow runtime.service.db after)
    (matched : after.DispensesMatch)
    (marks : ∀ machineId movementId,
      marked = some (machineId, movementId) →
        task.settles machineId movementId = true)
    (follows : ∀ follow ∈ answer, follow.Proceeds after)
    (counted : ∀ machineId movementId,
      answer.countP (CaseTask.settles machineId movementId) ≤
          (if task.settles machineId movementId then 1 else 0) ∨
        runtime.service.db.findByMachineMovement machineId movementId =
            none ∧
          answer.countP (CaseTask.settles machineId movementId) ≤ 1)
    (shuts : ∀ id ∈ closed, after.isShut id ∧
      (runtime.service.db.openCase id).isSome = true) :
    CaseInvariant
      { service :=
          { db := after
            tasks := runtime.service.tasks.eraseIdx position ++ answer }
        closures := runtime.closures ++ closed.toList } := by
  have inHand := List.mem_of_getElem? found
  have stillShut : ∀ id ∈ runtime.closures, after.isShut id := by
    intro id isClosed
    refine kept.isShut ?_ (invariant.shut id isClosed)
    rintro machineId movementId rfl isMarked
    obtain ⟨stored, isStored, unreviewed⟩ := invariant.settles_unreviewed
      inHand (marks machineId movementId isMarked)
    obtain ⟨other, isOther, _, reviewed⟩ := invariant.shut _ isClosed
    rw [isStored] at isOther
    cases isOther
    simp [unreviewed] at reviewed
  refine ⟨matched, fun id member => ?_, ?_, fun machineId movementId => ?_,
    fun other member => ?_⟩
  · rcases List.mem_append.mp member with old | new
    · exact stillShut id old
    · exact (shuts id (Option.mem_toList.mp new)).1
  · refine List.nodup_append.mpr ⟨invariant.nodup, ?_, ?_⟩
    · cases closed <;> simp
    · rintro id old other new rfl
      have shut := (invariant.shut id old).not_open
      have opened := (shuts id (Option.mem_toList.mp new)).2
      rw [shut] at opened
      cases opened
  · have tasks := Service.countP_followUps found
      (CaseTask.settles machineId movementId) answer
    have atMost := invariant.single machineId movementId
    dsimp only
    rcases counted machineId movementId with fewer | ⟨fresh, one⟩
    · omega
    · have noneBefore : runtime.service.tasks.countP
          (CaseTask.settles machineId movementId) = 0 := by
        rw [List.countP_eq_zero]
        intro other otherInHand settles
        obtain ⟨stored, isStored, _⟩ :=
          invariant.settles_unreviewed otherInHand settles
        rw [fresh] at isStored
        cases isStored
      omega
  · rcases List.mem_append.mp member with old | new
    · have known := invariant.proceeds other (List.mem_of_mem_eraseIdx old)
      cases other with
      | upload call =>
        refine MovementTask.Proceeds.later known kept grow ?_
        intro machineId movementId settles isMarked
        have tasks := Service.countP_followUps found
          (CaseTask.settles machineId movementId) []
        have atMost := invariant.single machineId movementId
        have isPositive : 0 < (runtime.service.tasks.eraseIdx
            position).countP (CaseTask.settles machineId movementId) :=
          List.countP_pos_iff.mpr ⟨_, old, settles⟩
        rw [if_pos (marks machineId movementId isMarked), List.append_nil,
          List.countP_nil] at tasks
        omega
      | resolve | claim => trivial
    · exact follows other new

/-- At most the call that settled a movement still settles it. -/
theorem MovementStep.counted
    {task : MovementTask}
    {answer : List MovementTask}
    (step : MovementStep before task answer after)
    (machineId : MachineId)
    (movementId : MovementName) :
    answer.countP (MovementTask.settles machineId movementId) ≤
        (if task.settles machineId movementId then 1 else 0) ∨
      before.findByMachineMovement machineId movementId = none ∧
        answer.countP (MovementTask.settles machineId movementId) ≤ 1 := by
  have quiet : ∀ follow : MovementTask,
      follow.settles machineId movementId = false →
        [follow].countP (MovementTask.settles machineId movementId) ≤
            (if task.settles machineId movementId then 1 else 0) := by
    intro follow silent
    rw [List.countP_singleton, silent]
    exact Nat.zero_le _
  cases step with
  | found | new | toReview | onPlanogram | trusted | dispatched | reviewed
  | confirmed | marked | restored | responded => exact Or.inl (quiet _ rfl)
  | context upload =>
    refine Or.inl (quiet _ ?_)
    unfold orderBoundDispenseContextForMovement
    dsimp only
    split
    · rfl
    · split
      · rfl
      · split <;> rfl
  | done => exact Or.inl (Nat.zero_le _)
  | @accepted upload fresh =>
    by_cases settles :
        upload.afterAcceptance.settles machineId movementId = true
    · refine Or.inr ⟨?_, ?_⟩
      · obtain ⟨_, ofMachine, isMovement⟩ :=
          MovementTask.settles_upload settles
        have isUpload : upload.afterAcceptance.upload = upload := by
          unfold MovementUpload.afterAcceptance
          split <;> rfl
        rw [isUpload] at ofMachine isMovement
        rw [← ofMachine, ← isMovement]
        exact fresh
      · rw [List.countP_singleton, settles]
        exact Nat.le_refl _
    · exact Or.inl (quiet _ (by simpa using settles))
  | @applied upload isApplied _ applies =>
    by_cases settles :
        (upload.afterApplication isApplied).settles machineId movementId = true
    · left
      have isUpload :
          (upload.afterApplication isApplied).upload = upload := by
        unfold MovementUpload.afterApplication
        split
        · rfl
        · split <;> rfl
      obtain ⟨_, ofMachine, isMovement⟩ :=
        MovementTask.settles_upload settles
      rw [isUpload] at ofMachine isMovement
      have same : (MovementTask.apply upload).settles machineId
          movementId = true :=
        decide_eq_true (Prod.ext ofMachine isMovement)
      rw [List.countP_singleton, settles, same]
    · exact Or.inl (quiet _ (by simpa using settles))

/-- What a failed call leaves settles nothing. -/
theorem afterFailure_proceeds
    (db : Db)
    (task : MovementTask)
    (refusal : ServiceError) :
    ∀ follow ∈ task.afterFailure refusal,
      follow.Proceeds db ∧
        ∀ machineId movementId,
          follow.settles machineId movementId = false := by
  intro follow member
  unfold MovementTask.afterFailure at member
  split at member
  · rw [List.mem_singleton.mp member]
    exact ⟨trivial, fun _ _ => rfl⟩
  · split at member
    · rw [List.mem_singleton.mp member]
      exact ⟨trivial, fun _ _ => rfl⟩
    · rw [List.mem_singleton.mp member]
      exact ⟨trivial, fun _ _ => rfl⟩
  · cases member
  · cases member
  · rw [List.mem_singleton.mp member]
    exact ⟨trivial, fun _ _ => rfl⟩

theorem recover_proceeds
    (db : Db)
    (task : CaseTask)
    (refusal : ServiceError) :
    ∀ follow ∈ caseService.recover task refusal,
      follow.Proceeds db ∧
        ∀ machineId movementId,
          follow.settles machineId movementId = false := by
  intro follow member
  cases task with
  | upload call =>
    obtain ⟨left, isLeft, rfl⟩ := List.mem_map.mp member
    exact afterFailure_proceeds db call refusal left isLeft
  | resolve | claim => cases member

/-- A call begins with a look-up, a resolution with its case. -/
theorem starts_proceeds
    (db : Db)
    (starts : caseService.starts task = true) :
    task.Proceeds db ∧
      ∀ machineId movementId, task.settles machineId movementId = false := by
  cases task with
  | upload call =>
    cases call with
    | lookUp upload => exact ⟨trivial, fun _ _ => rfl⟩
    | _ => cases starts
  | resolve id input => exact ⟨trivial, fun _ _ => rfl⟩
  | claim id input reading => cases starts

/-- A committed step of a task, with the case that it closes. -/
inductive CaseStep
    (before : Db) :
    CaseTask → List CaseTask → Option StockReconciliationCaseId → Db →
      Prop where
  | called
      {task : MovementTask}
      {answer : List MovementTask}
      {after : Db}
      (step : MovementStep before task answer after) :
      CaseStep before (.upload task) (answer.map .upload) none after
  | read
      {id : StockReconciliationCaseId}
      {input : StockReconciliationResolveInput}
      {answer : List CaseTask}
      (claims : ∀ follow ∈ answer, ∃ reading,
        follow = .claim id input reading) :
      CaseStep before (.resolve id input) answer none before
  | resolved
      {id : StockReconciliationCaseId}
      {input : StockReconciliationResolveInput}
      {reading : CaseReading}
      {resolved : Bool}
      {after : Db}
      (resolves : ResolvesCase id input reading before resolved after) :
      CaseStep before (.claim id input reading) []
        (if resolved then some id else none) after

theorem caseStep_of_commits
    (found : runtime.service.tasks[position]? = some task)
    (commits :
      Commits (caseService.perform task now) runtime.service.db answer
        after) :
    CaseStep runtime.service.db task answer
      (runtime.closes (.service (.advance position now))) after := by
  have isTask : runtime.taskOf (.service (.advance position now)) =
      some task := found
  cases task with
  | upload call =>
    obtain ⟨left, called, rfl⟩ := commits_map.mp commits
    rw [CaseRuntime.closes, isTask]
    exact .called (movementStep_of_commits called)
  | resolve id input =>
    simp only [caseService, resolveNext, commits_get_bind, commits_pure]
      at commits
    obtain ⟨rfl, rfl⟩ := commits
    rw [CaseRuntime.closes, isTask]
    refine .read fun follow member => ?_
    obtain ⟨reading, _, rfl⟩ :=
      Option.map_eq_some_iff.mp (Option.mem_toList.mp member)
    exact ⟨reading, rfl⟩
  | claim id input reading =>
    obtain ⟨resolved, claimed, rfl⟩ := commits_map.mp commits
    have executed := execute_of_commits claimed
    rw [CaseRuntime.closes, isTask]
    simp only [executed]
    have resolves := commits_resolveReadCase claimed
    cases resolved with
    | false => exact .resolved resolves
    | true => exact .resolved resolves

theorem CaseRuntime.closes_of_refused
    {refusal : ServiceError}
    (found : runtime.service.tasks[position]? = some task)
    (refused :
      (caseService.perform task now).execute runtime.service.db =
        (.error refusal, runtime.service.db)) :
    runtime.closes (.service (.advance position now)) = none := by
  have isTask : runtime.taskOf (.service (.advance position now)) =
      some task := found
  cases closed : runtime.closes (.service (.advance position now)) with
  | none => rfl
  | some id =>
    rw [CaseRuntime.closes, isTask] at closed
    cases task with
    | upload | resolve => cases closed
    | claim ofCase input reading =>
      rcases execute_cases (resolveReadCase ofCase input reading)
          runtime.service.db with
        ⟨_, failed⟩ | ⟨resolved, later, claimed, executed⟩
      · simp only [failed] at closed
        cases closed
      · have committed :
            Commits (caseService.perform (.claim ofCase input reading)
              now) runtime.service.db [] later :=
          commits_map.mpr ⟨resolved, claimed, rfl⟩
        rw [execute_of_commits committed] at refused
        cases refused

theorem closed_isShut
    {stocked : Db}
    (opened : (before.openCase id).isSome = true)
    (corrects : ∀ correctedOnHandQty,
      input.action = .manualCorrect correctedOnHandQty →
        ∃ inventory, reading.inventory = some inventory ∧
          Commits (correctStock inventory correctedOnHandQty input.note)
            (before.closeCase input.action id) () stocked)
    (rejects : input.action = .rejectMachineStock →
      stocked = before.closeCase input.action id)
    (cleared :
      Commits (clearResolvedCaseBlocker reading.current input.clearBlocker)
        stocked () after) : after.isShut id := by
  have shut := isShut_closeCase opened input.action
  have kept : CasesKept none (before.closeCase input.action id) after := by
    obtain ⟨slots, rfl⟩ := commits_clearBlocker cleared
    cases action : input.action with
    | rejectMachineStock =>
      rw [rejects action, action]
      exact .of_same rfl rfl
    | manualCorrect correctedOnHandQty =>
      obtain ⟨inventory, _, wrote⟩ := corrects _ action
      obtain ⟨_, _, _, _, rfl⟩ := commits_correctStock.mp wrote
      rw [action]
      exact .of_same rfl rfl
  exact kept.isShut (by simp) shut

theorem CaseInvariant.committed
    {runtime : CaseRuntime}
    (invariant : CaseInvariant runtime)
    {position : Nat}
    {task : CaseTask}
    (found : runtime.service.tasks[position]? = some task)
    (settled : FindsSettled runtime.service.db task)
    {answer : List CaseTask}
    {closed : Option StockReconciliationCaseId}
    (step : CaseStep runtime.service.db task answer closed after) :
    CaseInvariant
      { service :=
          { db := after
            tasks := runtime.service.tasks.eraseIdx position ++ answer }
        closures := runtime.closures ++ closed.toList } := by
  have known := invariant.proceeds task (List.mem_of_getElem? found)
  cases step with
  | @called call left _ step =>
    refine invariant.advance found step.casesKept step.commandsGrow
      (step.dispensesMatch invariant.matched known settled) ?_ ?_ ?_
      (by simp)
    · intro machineId movementId isMarked
      cases call with
      | markUnapplied upload =>
        cases isMarked
        exact decide_eq_true rfl
      | _ => cases isMarked
    · intro follow member
      obtain ⟨other, isLeft, rfl⟩ := List.mem_map.mp member
      exact step.proceeds invariant.matched known other isLeft
    · intro machineId movementId
      rw [List.countP_map]
      exact step.counted machineId movementId
  | read claims =>
    have kept : CasesKept none runtime.service.db runtime.service.db :=
      .of_same rfl rfl
    refine invariant.advance found kept (.of_same rfl) invariant.matched
      (by simp) ?_ ?_ (by simp)
    · intro follow member
      obtain ⟨_, rfl⟩ := claims follow member
      trivial
    · intro machineId movementId
      refine Or.inl (Nat.le_of_eq (List.countP_eq_zero.mpr ?_))
      intro follow member
      obtain ⟨_, rfl⟩ := claims follow member
      exact nofun
  | @resolved id input reading isResolved _ resolves =>
    obtain ⟨commands, _, _⟩ := resolves.frame
    refine invariant.advance found resolves.casesKept (.of_same commands)
      (resolves.dispensesMatch invariant.matched) (by simp) (by simp)
      (fun _ _ => Or.inl (Nat.zero_le _)) ?_
    cases resolves with
    | missed => simp
    | closed opened corrects rejects cleared =>
      intro other member
      obtain rfl : id = other := by simpa using member
      exact ⟨closed_isShut opened corrects rejects cleared, opened⟩

/-- Every event keeps the invariant. -/
theorem CaseInvariant.step
    (invariant : CaseInvariant runtime)
    (settled : RedeliversSettled runtime event)
    (step : caseMachine.step runtime event = some next) :
    CaseInvariant next := by
  cases event with
  | other after =>
    simp only [caseMachine, Option.ite_none_right_eq_some,
      Option.some.injEq] at step
    obtain ⟨leaves, rfl⟩ := step
    have kept : CasesKept none runtime.service.db after :=
      .of_same leaves.stored leaves.conflicts
    refine ⟨leaves.dispensesMatch invariant.matched,
      fun id closed => kept.isShut (by simp) (invariant.shut id closed),
      invariant.nodup, invariant.single, fun task member => ?_⟩
    have known := invariant.proceeds task member
    cases task with
    | upload call =>
      exact MovementTask.Proceeds.later known kept
        leaves.commandsKept.grow (by simp)
    | resolve | claim => trivial
  | service inner =>
    simp only [caseMachine, Option.map_eq_some_iff] at step
    obtain ⟨service, step, rfl⟩ := step
    have recovered : ∀ {position : Nat} {task : CaseTask}
        {refusal : ServiceError},
        runtime.service.tasks[position]? = some task →
          CaseInvariant
            { service :=
                { runtime.service with
                  tasks :=
                    runtime.service.tasks.eraseIdx position ++
                      caseService.recover task refusal }
              closures := runtime.closures ++ none.toList } := by
      intro position task refusal found
      have kept : CasesKept none runtime.service.db runtime.service.db :=
        .of_same rfl rfl
      have follows := recover_proceeds runtime.service.db task refusal
      refine invariant.advance found kept (.of_same rfl) invariant.matched
        (by simp) (fun follow member => (follows follow member).1) ?_
        (by simp)
      intro machineId movementId
      refine Or.inl (Nat.le_trans (Nat.le_of_eq
        (List.countP_eq_zero.mpr ?_)) (Nat.zero_le _))
      intro follow member settles
      rw [(follows follow member).2 machineId movementId] at settles
      cases settles
    cases Service.takes_of_step step with
    | @submitted task starts =>
      have begins := starts_proceeds runtime.service.db starts
      refine ⟨invariant.matched, ?_, ?_, fun machineId movementId => ?_,
        fun other member => ?_⟩
      · simpa [CaseRuntime.closes, CaseRuntime.taskOf] using invariant.shut
      · simpa [CaseRuntime.closes, CaseRuntime.taskOf] using invariant.nodup
      · have atMost := invariant.single machineId movementId
        simpa [List.countP_append, List.countP_singleton,
          begins.2 machineId movementId] using atMost
      · rcases List.mem_append.mp member with old | new
        · exact invariant.proceeds other old
        · rw [List.mem_singleton.mp new]
          exact begins.1
    | crashed =>
      refine ⟨invariant.matched, ?_, ?_, fun _ _ => Nat.zero_le _,
        fun _ member => by cases member⟩
      · simpa [CaseRuntime.closes, CaseRuntime.taskOf] using invariant.shut
      · simpa [CaseRuntime.closes, CaseRuntime.taskOf] using invariant.nodup
    | failed found => exact recovered found
    | aborted found refused =>
      rw [CaseRuntime.closes_of_refused found refused]
      exact recovered found
    | committed found commits =>
      exact invariant.committed found (settled _ found)
        (caseStep_of_commits found commits)

theorem CaseRuntime.taskOf_eq_some
    (isTask : runtime.taskOf event = some task) :
    ∃ position now, event = .service (.advance position now) ∧
      runtime.service.tasks[position]? = some task := by
  cases event with
  | other after => cases isTask
  | service inner =>
    cases inner with
    | advance position now => exact ⟨position, now, rfl, isTask⟩
    | submit | fail | crash => cases isTask

theorem ResolvesCase.correctsStock
    {correctedOnHandQty : Nat}
    (resolves : ResolvesCase id input reading before resolved after)
    (action : input.action = .manualCorrect correctedOnHandQty) :
    after = before ∨
      CorrectsStock reading correctedOnHandQty before after := by
  have sameStock : ∀ action,
      (before.closeCase action id).inventories = before.inventories ∧
        (before.closeCase action id).inventoryMovements =
          before.inventoryMovements := by
    intro action
    cases id with
    | conflict id => exact ⟨rfl, rfl⟩
    | rawMovement machineId movementId => exact ⟨rfl, rfl⟩
  cases resolves with
  | missed => exact Or.inl rfl
  | closed opened corrects rejects cleared =>
    obtain ⟨stock, ledger⟩ := sameStock input.action
    obtain ⟨inventory, isRead, wrote⟩ := corrects _ action
    obtain ⟨row, covered, found, _, rfl⟩ := commits_correctStock.mp wrote
    obtain ⟨slots, rfl⟩ := commits_clearBlocker cleared
    rw [stock] at found
    refine Or.inr ⟨inventory, row, some (.operator input.note), covered,
      isRead, found, ?_, ?_⟩
    · simp only [Db.addMovement, Db.setInventory, stock]
    · simp only [Db.addMovement, Db.setInventory, ledger]

theorem AnswersExisting.commandOf
    {upload : MovementUpload}
    {existing : StoredRawMachineStockMovement}
    {response : MachineStockMovementIngestionResponse}
    (proceeds :
      (MovementTask.respondForExisting upload existing).Proceeds before)
    (settled :
      FindsSettled before (.upload (.respondForExisting upload existing)))
    (answers : AnswersExisting upload existing before after response)
    {command : VendingCommand}
    (isNamed : after.commandOf upload = some command)
    (succeeded : command.status = .succeeded) :
    ∃ old, before.commandOf upload = some old ∧ old.status = .succeeded ∧
      old.payloadJson.quantity = command.payloadJson.quantity := by
  cases answers with
  | underReview | alreadyAccepted =>
    exact ⟨command, isNamed, succeeded, rfl⟩
  | conflicts _ inserted =>
    obtain rfl := commits_modify.mp inserted
    exact ⟨command, isNamed, succeeded, rfl⟩
  | repaired same accepted dispensed repair =>
    obtain ⟨commands, rfl | ⟨commandId, rfl⟩⟩ :=
      repair_commandsKept proceeds settled same accepted dispensed repair
    · exact ⟨command, isNamed, succeeded, rfl⟩
    · obtain ⟨context, isContext, found⟩ :=
        Option.bind_eq_some_iff.mp isNamed
      obtain ⟨isFound, ofMachine⟩ := Option.filter_eq_some_iff.mp found
      obtain ⟨old, isOld⟩ := Option.isSome_iff_exists.mp
        (commands.new isFound succeeded)
      obtain ⟨later, isLater, quantity, status⟩ := commands.kept isOld
      rw [isFound] at isLater
      cases isLater
      have sameMachine : command.machineId = old.machineId := by
        simp only [Db.setCommandStatus, Table.find?_modify, isOld] at isFound
        split at isFound
        · cases isFound
          rfl
        · cases isFound
          rfl
      refine ⟨old, ?_, status.mp succeeded, quantity.symm⟩
      rw [Db.commandOf, isContext, Option.bind_some, isOld]
      rw [sameMachine] at ofMachine
      simp only [Option.filter, ofMachine, ↓reduceIte]

theorem CaseStep.unblocked
    (step : CaseStep before task answer closed after) :
    RestoresUnblocked before after := by
  cases step with
  | called step => exact step.unblocked
  | read => exact .of_same rfl
  | resolved resolves => exact resolves.unblocked

theorem CaseRuntime.reports_eq_some
    {report : MovementReport}
    (isReport : report ∈ runtime.reports event) :
    runtime.taskOf event =
        some (.upload
          (.respondForExisting report.upload report.existing)) ∧
      ((responseForExisting report.upload report.existing).execute
        runtime.service.db).1 = .ok report.response := by
  unfold CaseRuntime.reports at isReport
  split at isReport
  · rename_i upload existing isTask
    split at isReport
    · rename_i response answered
      cases isReport
      exact ⟨isTask, answered⟩
    · cases isReport
  · cases isReport

/-- An event that meets the condition does what it may. -/
theorem CaseInvariant.reconcilesSoundly
    (invariant : CaseInvariant runtime)
    (settled : RedeliversSettled runtime event)
    (step : caseMachine.step runtime event = some next) :
    ReconcilesSoundly runtime event next := by
  have kept := invariant.step settled step
  constructor
  · intro id input reading correctedOnHandQty isTask action
    obtain ⟨position, now, rfl, found⟩ :=
      CaseRuntime.taskOf_eq_some isTask
    simp only [caseMachine, Option.map_eq_some_iff] at step
    obtain ⟨service, step, rfl⟩ := step
    cases Service.takes_of_step step with
    | aborted => exact Or.inl rfl
    | committed isFound commits =>
      rw [found] at isFound
      cases isFound
      obtain ⟨_, resolves, _⟩ := commits_map.mp commits
      exact (commits_resolveReadCase resolves).correctsStock action
  · rintro inner rfl
    simp only [caseMachine, Option.map_eq_some_iff] at step
    obtain ⟨service, step, rfl⟩ := step
    have unblocked : RestoresUnblocked runtime.service.db service.db := by
      rcases Service.step_db_cases step with
        same | ⟨position, now, task, answer, rfl, found, commits⟩
      · exact .of_same (congrArg Db.machineSlots same)
      · exact (caseStep_of_commits found commits).unblocked
    exact unblocked
  · intro report isReport isClosed _ command isNamed succeeded
    obtain ⟨isTask, answered⟩ := CaseRuntime.reports_eq_some isReport
    obtain ⟨position, now, rfl, found⟩ :=
      CaseRuntime.taskOf_eq_some isTask
    have proceeds := invariant.proceeds _ (List.mem_of_getElem? found)
    have finds := settled _ found
    simp only [caseMachine, Option.map_eq_some_iff] at step
    obtain ⟨service, step, rfl⟩ := step
    cases Service.takes_of_step step with
    | @aborted _ _ _ refusal isFound refused =>
      rw [found] at isFound
      cases isFound
      rcases execute_cases (responseForExisting report.upload
          report.existing) runtime.service.db with
        ⟨_, failed⟩ | ⟨response, later, responded, _⟩
      · rw [failed] at answered
        cases answered
      · have committed : Commits
            (caseService.perform
              (.upload (.respondForExisting report.upload report.existing))
              now) runtime.service.db
            [.upload (.answered report.upload response)] later :=
          commits_map.mpr ⟨[.answered report.upload response],
            commits_bind.mpr ⟨response, later, responded,
              commits_pure.mpr ⟨rfl, rfl⟩⟩, rfl⟩
        rw [execute_of_commits committed] at refused
        cases refused
    | committed isFound commits =>
      rw [found] at isFound
      cases isFound
      obtain ⟨_, called, _⟩ := commits_map.mp commits
      obtain ⟨response, _, responded, finished⟩ := commits_bind.mp called
      obtain ⟨_, rfl⟩ := commits_pure.mp finished
      obtain ⟨old, isOld, oldSucceeded, quantity⟩ :=
        (commits_responseForExisting responded).commandOf proceeds finds
          isNamed succeeded
      obtain ⟨context, _, isCommand⟩ := Option.bind_eq_some_iff.mp isNamed
      obtain ⟨isCommand, _⟩ := Option.filter_eq_some_iff.mp isCommand
      have deducted := kept.matched.deducted isCommand succeeded
      rw [← quantity, (finds isClosed old isOld).2 oldSucceeded] at deducted
      rw [Table.key_of_find? isCommand]
      exact deducted

/-- No call is in hand and no case was closed. -/
def CaseRuntime.idle (db : Db) : CaseRuntime where
  service := { db, tasks := [] }
  closures := []

/-- Cases are closed once, and every event does what it may. -/
structure Reconciles (first : Db) (events : List CaseEvent) : Prop where
  closedOnce : ∀ last,
    caseMachine.run (.idle first) events = some last →
      last.closures.Nodup
  sound : ∀ leading event trailing before after,
    events = leading ++ event :: trailing →
      caseMachine.run (.idle first) leading = some before →
        caseMachine.step before event = some after →
          ReconcilesSoundly before event after

theorem CaseInvariant.idle
    {first : Db}
    (matched : first.DispensesMatch) : CaseInvariant (.idle first) where
  matched := matched
  shut _ closed := by cases closed
  nodup := List.nodup_nil
  single _ _ := Nat.zero_le _
  proceeds _ inHand := by cases inHand

theorem CaseInvariant.run
    {last : CaseRuntime}
    {events : List CaseEvent}
    (invariant : CaseInvariant runtime)
    (meets : caseMachine.RunMeets RedeliversSettled runtime events)
    (run : caseMachine.run runtime events = some last) :
    CaseInvariant last :=
  Machine.run_keeps_of_meets
    (fun invariant settled step => CaseInvariant.step invariant settled step)
    invariant meets run

/--
As long as no dispense that an operator closed as accepted is uploaded again
while its command is unsettled, cases are closed once, corrections are listed,
blocked slots stay faulted, and what is reported as done was deducted.
-/
theorem reconciles_of_redeliversSettled
    {first : Db}
    {events : List CaseEvent}
    (matched : first.DispensesMatch)
    (meets :
      caseMachine.RunMeets RedeliversSettled (.idle first) events) :
    Reconciles first events := by
  have start := CaseInvariant.idle matched
  refine ⟨fun last run => (start.run meets run).nodup, ?_⟩
  rintro leading event trailing before after rfl run step
  obtain ⟨meetsLeading, meetsTrailing⟩ := meets.split
  exact (start.run meetsLeading run).reconcilesSoundly
    (meetsTrailing before run).1 step

theorem Db.DispensesMatch.of_new
    {db : Db}
    (noLedger : db.inventoryMovements = .empty)
    (noMovements : db.machineRawStockMovements = .empty)
    (noSuccess : ∀ command ∈ db.vendingCommands.rows,
      command.status ≠ .succeeded) : db.DispensesMatch where
  noted row listed := by
    simp [Db.movementRows, noLedger, Table.empty] at listed
  deducted found succeeded :=
    absurd succeeded (noSuccess _ (Table.mem_of_find? found))
  untouched _ := by
    simp [Db.dispenseRows, Db.movementRows, noLedger, Table.empty]
  confirmed found := by
    simp [Db.findByMachineMovement, noMovements] at found

/-- One piece was sent to be dispensed, and its reservation was swept. -/
def sweptReservationDb : Db :=
  { twoSlotDb with
    orders := Table.empty.insertOrIgnore
      { id := 1, machineId := 1, status := .dispensing
        paymentState := .paid, fulfillmentState := .dispensing
        totalAmountCents := 300, paymentId := none }
    orderItems := Table.empty.insertOrIgnore
      { id := 1, orderId := 1, variantId := 7, inventoryId := 50
        slotId := 5, quantity := 1, unitPriceCents := 300
        productSnapshot :=
          { productId := some 8, variantId := 7, inventoryId := 50
            planogramVersion := 1, slotId := 5
            vendingCommandQuantity := 1 }
        fulfillmentStatus := .dispensing, refundStatus := .notRequired
        refundId := none, quantityPositive := by decide }
    inventoryReservations := Table.empty.insertOrIgnore
      { id := 1, orderId := 1, inventoryId := 50, orderItemId := some 1
        quantity := 1, status := .released, expiresAt := 90
        quantityPositive := by decide }
    vendingCommands := Table.empty.insertOrIgnore
      { id := 1, orderId := 1, machineId := 1, slotId := 5
        orderItemId := some 1, commandKind := .dispatch
        recoveryActionId := none
        payloadJson :=
          { commandNo := 1, orderNo := 1, slot := { rowNo := 1, cellNo := 1 }
            quantity := 1, timeoutSeconds := 30, recovery := none }
        status := .sent, sentAt := some 80, ackAt := none
        resultAt := none, lastError := none } }

/-- The machine's report of the dispense. -/
def sweptUpload : MovementUpload where
  machineId := 1
  input :=
    { movementId := .machineNamed "dispense-1"
      planogramVersion := 1
      slotId := 5
      movementType := .dispenseSucceeded
      quantity := 1
      beforeQuantity := some 5
      afterQuantity := some 4
      slotMappingSnapshot := none
      source := .vendingCommand
      attributedTo := none
      orderContext :=
        some
          { orderNo := 1, orderItemId := 1, vendingCommandNo := 1
            inventoryId := 50 }
      occurredAt := 100 }

def sweptCase : StockReconciliationCaseId :=
  .rawMovement 1 (.machineNamed "dispense-1")

/-- The report goes to review, and the next calls find nothing in hand. -/
def sweptToReview : List CaseEvent :=
  [.service (.submit (.upload (.lookUp sweptUpload))),
    .service (.advance 0 101), .service (.advance 0 101),
    .service (.advance 0 101), .service (.advance 0 101)]

/-- Two operators resolve the case at the same time. -/
def resolvedTwice (action : StockReconciliationResolveAction) :
    List CaseEvent :=
  let call : CaseTask := .resolve sweptCase
    { action, note := "counted on site", clearBlocker := false }
  [.service (.submit call), .service (.submit call),
    .service (.advance 0 102), .service (.advance 0 102),
    .service (.advance 0 103), .service (.advance 0 103)]

/-- The machine did not hear the answer and asks again. -/
def uploadedAgain : List CaseEvent :=
  [.service (.submit (.upload (.lookUp sweptUpload))),
    .service (.advance 0 104)]

/-- A rejected movement is redelivered. -/
theorem reconciles_of_redeliversSettled_rejected :
    Reconciles sweptReservationDb
      (sweptToReview ++ resolvedTwice .rejectMachineStock ++ uploadedAgain ++
        [.service (.advance 0 105)]) := by
  have meets : caseMachine.RunMeets RedeliversSettled
      (.idle sweptReservationDb)
      (sweptToReview ++ resolvedTwice .rejectMachineStock ++ uploadedAgain ++
        [.service (.advance 0 105)]) := by
    decide +kernel
  exact reconciles_of_redeliversSettled (.of_new rfl rfl (by decide)) meets

/--
An operator counts five pieces where five are on hand, which closes the case
as accepted.  The same dispense is uploaded again: its command has succeeded,
the machine is told that it is already accepted, and nothing was deducted.
-/
theorem reconciles_fails_for_countedDispense :
    ¬ ∀ first events, first.DispensesMatch → Reconciles first events := by
  intro always
  have counted : (caseMachine.run (.idle sweptReservationDb)
      (sweptToReview ++ resolvedTwice (.manualCorrect 5) ++
        uploadedAgain)).any (fun before =>
          (before.reports (.service (.advance 0 105))).any (fun report =>
            isClosedRedelivery report.upload report.existing &&
              report.response.acceptsMovement &&
              (caseMachine.step before (.service (.advance 0 105))).any
                fun after =>
                  (after.service.db.commandOf report.upload).any fun command =>
                    command.status = .succeeded &&
                      (after.service.db.dispenseRows command.id).isEmpty)) =
        true := by
    decide +kernel
  obtain ⟨before, run, counted⟩ := (Option.any_eq_true _ _).mp counted
  obtain ⟨report, isReport, counted⟩ := (Option.any_eq_true _ _).mp counted
  obtain ⟨isClosed, counted⟩ := Bool.and_eq_true_iff.mp counted
  obtain ⟨after, step, counted⟩ := (Option.any_eq_true _ _).mp counted
  obtain ⟨command, isCommand, counted⟩ := (Option.any_eq_true _ _).mp counted
  simp only [Bool.and_eq_true, decide_eq_true_eq, List.isEmpty_iff]
    at isClosed counted
  have sound := (always sweptReservationDb _
    (.of_new rfl rfl (by decide))).sound _ _ [] before after rfl run step
  obtain ⟨row, only, _⟩ := sound.reported report isReport isClosed.1
    isClosed.2 command isCommand counted.1
  rw [counted.2] at only
  cases only

end VendingSystem.Platform
