import VendingSystem.DaemonAccounting
import VendingSystem.DaemonSafetyHold
import VendingSystem.DaemonOrderSessions

namespace VendingSystem.Daemon

/-!
# Redelivery of a finished command

A redelivered command whose result is journaled is committed and blocked once
more, without a look at whether that was done before.  A replay writes over
whatever was settled since.
-/

/-- The status and the action of an order. -/
def Store.sessionOutcome (store : Store) (orderNo : OrderNo) :
    Option (String × String) :=
  (store.orderSessions.find? orderNo).map fun session =>
    (session.status, session.nextAction)

/-- A slot's projection, whenever it was written. -/
def Store.slotRecord (store : Store) (slotId : SlotId) :
    Option StockProjection :=
  (store.currentStockProjection.find? slotId).map fun row =>
    { row with updatedAt := 0 }

/-- Every slot's state and stock are the same. -/
structure SameSlotStates (before after : Store) : Prop where
  slots : ∀ slotId, after.slotRecord slotId = before.slotRecord slotId
  blockers : ∀ version slotId,
    after.saleSafetyBlockers.find? (version, slotId) =
      before.saleSafetyBlockers.find? (version, slotId)

/-- Sessions, ledger, slots and lock are the same. -/
structure SameSettled (before after : Store) : Prop where
  sessions : ∀ orderNo,
    after.sessionOutcome orderNo = before.sessionOutcome orderNo
  ledger : after.stockMovements = before.stockMovements
  slotStates : SameSlotStates before after
  lock :
    after.wholeMachineMaintenanceLock = before.wholeMachineMaintenanceLock

theorem SameSlotStates.refl (store : Store) : SameSlotStates store store where
  slots := fun _ => rfl
  blockers := fun _ _ => rfl

theorem SameSettled.refl (store : Store) : SameSettled store store where
  sessions := fun _ => rfl
  ledger := rfl
  slotStates := SameSlotStates.refl store
  lock := rfl

/-- The row that a hold would be written to is in that hold already. -/
def HoldQuiet
    (store : Store)
    (command : DispenseCommandPayload)
    (result : DispenseResultPayload)
    (preferred : PlanogramVersion × SlotId) : Prop :=
  ∀ slot ∈ store.activeSlotByCoordinate command.slot preferred,
    ∀ row ∈ store.projectionOf slot.planogramVersion slot.slotId,
      row.slotSalesState = dispenseFailureSlotSalesState result.errorCode ∧
        store.saleSafetyBlockers.find?
          (slot.planogramVersion, slot.slotId) = none

/-- The machine is locked by the lock that would be written, time included. -/
def LockQuiet
    (store : Store)
    (command : DispenseCommandPayload)
    (result : DispenseResultPayload)
    (preferred : PlanogramVersion × SlotId)
    (now : Time) : Prop :=
  ∀ slot ∈ store.activeSlotByCoordinate command.slot preferred,
    store.wholeMachineMaintenanceLock =
      (putWholeMachineMaintenanceLock
        store command result slot.slotId now).wholeMachineMaintenanceLock

/--
The session is on another command, or the success has no slot any more, or the
session still carries the outcome of the command.
-/
def CommitQuiet
    (store : Store)
    (command : DispenseCommandPayload)
    (result : DispenseResultPayload)
    (preferred : PlanogramVersion × SlotId) : Prop :=
  ∀ session ∈ store.orderSessions.find? command.orderNo,
    session.currentCommandNo = some command.commandNo →
    (result.success = true →
      (store.dispenseSlot command preferred).isSome = true) →
    session.status = (if result.success then "succeeded" else "failed") ∧
      session.nextAction =
        if result.success then "success" else "dispense_failed"

/-- The lock and the hold of a failure are in place. -/
def BlockQuiet
    (store : Store)
    (command : DispenseCommandPayload)
    (result : DispenseResultPayload)
    (choices : List (Time × (PlanogramVersion × SlotId))) : Prop :=
  if result.requiresLock then
    match choices with
    | lookup :: write :: hold :: _ =>
      LockQuiet store command result lookup.2 write.1 ∧
        HoldQuiet store command result hold.2
    | _ => True
  else
    match choices with
    | hold :: _ => HoldQuiet store command result hold.2
    | [] => True

/-- The commit writes what is there, and so does the blocking after it. -/
def ReplayQuiet
    (store : Store)
    (command : DispenseCommandPayload)
    (result : DispenseResultPayload)
    (choices : List (Time × (PlanogramVersion × SlotId))) : Prop :=
  match choices with
  | commit :: block =>
    CommitQuiet store command result commit.2 ∧
      (result.success = false → store.sessionAdmits command →
        BlockQuiet store command result block)
  | [] => True

/-- A settlement ran to its end with the times and slots that were chosen. -/
inductive Settles : Store → Settlement →
    List (Time × (PlanogramVersion × SlotId)) → Store → Prop where
  | ends {store final : Store} {work : Settlement}
      {now : Time} {preferred : PlanogramVersion × SlotId}
      {outcome : SettleOutcome}
      (settled : settleStep store work preferred now = (final, outcome))
      (last : ∀ stage, outcome ≠ .next stage) :
      Settles store work [(now, preferred)] final
  | goesOn {store next final : Store} {work : Settlement}
      {now : Time} {preferred : PlanogramVersion × SlotId}
      {stage : SettleStage}
      {rest : List (Time × (PlanogramVersion × SlotId))}
      (settled : settleStep store work preferred now = (next, .next stage))
      (later : Settles next { work with stage } rest final) :
      Settles store work ((now, preferred) :: rest) final

/-- The main task takes its next steps. -/
def advancesWith (choices : List (Time × (PlanogramVersion × SlotId))) :
    List Event :=
  choices.map fun choice => .advance choice.1 choice.2

variable {choices : List (Time × (PlanogramVersion × SlotId))}
  {daemon : Runtime} {work : Settlement} {version : PlanogramVersion}
  {slotId : SlotId} {state : SlotSalesState} {source : String} {final : Store}
  {slot : PlanogramSlot} {event : Event}

theorem run_advancesWith_idle
    {final : Runtime}
    (idle : daemon.main = .idle)
    (run : machine.run daemon (advancesWith choices) = some final) :
    choices = [] ∧ final = daemon := by
  cases choices with
  | nil =>
    cases run
    exact ⟨rfl, rfl⟩
  | cons choice rest =>
    obtain ⟨next, step, _⟩ := Machine.run_cons_iff.mp run
    simp [machine, Runtime.step, Runtime.advance, idle] at step

/-- A main task that settles until it is idle ran the settlement to its end. -/
theorem settles_of_run
    {final : Runtime}
    (settling : daemon.main = .settling work)
    (run : machine.run daemon (advancesWith choices) = some final)
    (done : final.main = .idle) :
    Settles daemon.store work choices final.store := by
  induction choices generalizing daemon work with
  | nil =>
    cases run
    rw [settling] at done
    cases done
  | cons choice rest inductionHypothesis =>
    obtain ⟨now, preferred⟩ := choice
    obtain ⟨next, step, later⟩ := Machine.run_cons_iff.mp run
    simp only [machine, Runtime.step, Runtime.advance, settling,
      Option.some.injEq] at step
    have store : next.store =
        (settleStep daemon.store work preferred now).1 := by
      rw [← step]
      exact Runtime.settle_store _ _ _ _
    have main := congrArg Runtime.main step
    simp only at main
    cases outcome : (settleStep daemon.store work preferred now).2 with
    | next stage =>
      rw [outcome] at main
      have rest := inductionHypothesis main.symm later
      rw [store] at rest
      exact .goesOn (Prod.ext rfl outcome) rest
    | returned
    | refused =>
      rw [outcome] at main
      obtain ⟨rfl, rfl⟩ := run_advancesWith_idle main.symm later
      refine .ends (Prod.ext store.symm outcome) ?_
      intro stage same
      cases same

/-- What a hold leaves alone whatever it finds. -/
structure KeepsOutcome (before after : Store) : Prop where
  sessions : after.orderSessions = before.orderSessions
  ledger : after.stockMovements = before.stockMovements
  lock :
    after.wholeMachineMaintenanceLock = before.wholeMachineMaintenanceLock

theorem updateSlotSalesState_hold
    {store next : Store}
    {now : Time}
    (hold : state.isReconciliationSaleSafetyBlocker = false)
    (held :
      updateSlotSalesState store version slotId state source now =
        .ok next) :
    (store.projectionOf version slotId).isSome = true ∧
      next = { store with
        saleViewProjection := next.saleViewProjection
        saleSafetyBlockers := store.saleSafetyBlockers.deleteWhere
          (fun blocker =>
            blocker.planogramVersion == version &&
              blocker.slotId == slotId)
        currentStockProjection := store.currentStockProjection.modify slotId
          (fun row =>
            { row with slotSalesState := state, updatedAt := now }) } := by
  unfold updateSlotSalesState at held
  split at held
  · cases held
  · simp only [markSlotSalesState, hold, Bool.false_eq_true, ↓reduceIte] at held
    unfold projectSlotSalesState at held
    split at held
    · cases held
    · rename_i row projected
      refine ⟨?_, upsertSaleViewProjection_frame held⟩
      exact Option.isSome_iff_exists.mpr ⟨row, projected⟩

/-- A hold changes nothing exactly when the slot is in it, unblocked. -/
theorem sameSlotStates_hold_iff
    {store next : Store}
    {now : Time}
    (hold : state.isReconciliationSaleSafetyBlocker = false)
    (held :
      updateSlotSalesState store version slotId state source now =
        .ok next) :
    SameSlotStates store next ↔
      ∀ row ∈ store.projectionOf version slotId,
        row.slotSalesState = state ∧
          store.saleSafetyBlockers.find? (version, slotId) = none := by
  obtain ⟨projected, frame⟩ := updateSlotSalesState_hold hold held
  obtain ⟨row, stored⟩ := Option.isSome_iff_exists.mp projected
  obtain ⟨found, _⟩ := Option.filter_eq_some_iff.mp stored
  constructor
  · intro same other member
    rw [stored] at member
    cases member
    constructor
    · have record := same.slots slotId
      rw [frame] at record
      simp only [Store.slotRecord, Table.find?_modify, ↓reduceIte, found,
        Option.map_some, Option.some.injEq] at record
      exact (congrArg StockProjection.slotSalesState record).symm
    · have blocker := same.blockers version slotId
      rw [frame] at blocker
      simp only [Table.find?_deleteWhere] at blocker
      cases marked : store.saleSafetyBlockers.find? (version, slotId) with
      | none => rfl
      | some marker =>
        have key := Table.key_of_find? marked
        simp only [Prod.mk.injEq] at key
        rw [marked, Option.filter_some, if_neg (by simp [key.1, key.2])]
          at blocker
        cases blocker
  · intro quiet
    obtain ⟨inHold, unblocked⟩ := quiet row stored
    rw [frame]
    refine ⟨fun other => ?_, fun otherVersion otherSlot => ?_⟩
    · simp only [Store.slotRecord, Table.find?_modify]
      split
      · rename_i same
        rw [same, found]
        simp [← inHold]
      · rfl
    · simp only [Table.find?_deleteWhere]
      cases marked : store.saleSafetyBlockers.find?
          (otherVersion, otherSlot) with
      | none => rfl
      | some marker =>
        have key := Table.key_of_find? marked
        simp only [Prod.mk.injEq] at key
        rw [Option.filter_some, if_pos]
        simp only [Bool.not_eq_true', Bool.and_eq_false_iff,
          beq_eq_false_iff_ne]
        by_cases sameVersion : otherVersion = version
        · right
          rintro sameSlot
          rw [sameVersion, ← key.2, sameSlot, unblocked] at marked
          cases marked
        · left
          rw [key.1]
          exact sameVersion

theorem projectionOf_of_refused
    {store : Store}
    {now : Time}
    {refusal : StoreError}
    (active : ((store.machinePlanogramSlots.find? (version, slotId)).filter
      store.isActiveSlot).isSome = true)
    (refused :
      updateSlotSalesState store version slotId state source now =
        .error refusal) :
    store.projectionOf version slotId = none := by
  cases projected : store.projectionOf version slotId with
  | none => rfl
  | some row =>
    obtain ⟨held, ok⟩ := updateSlotSalesState_succeeds state source now
      (show store.canHold version slotId from
        ⟨active, by rw [projected]; rfl⟩)
    rw [refused] at ok
    cases ok

theorem dispenseFailureSlotSalesState_notReconciliation
    (errorCode : Option String) :
    (dispenseFailureSlotSalesState
      errorCode).isReconciliationSaleSafetyBlocker = false := by
  unfold dispenseFailureSlotSalesState
  split <;> rfl

/-- The hold of a slot found at the command's coordinate. -/
theorem settles_slotUpdate
    {store : Store}
    (stage : work.stage =
      .slotUpdate slot.planogramVersion slot.slotId)
    (active : ((store.machinePlanogramSlots.find?
      (slot.planogramVersion, slot.slotId)).filter
        store.isActiveSlot).isSome = true)
    (settles : Settles store work choices final) :
    KeepsOutcome store final ∧
      (SameSlotStates store final ↔
        ∀ row ∈ store.projectionOf slot.planogramVersion slot.slotId,
          row.slotSalesState =
              dispenseFailureSlotSalesState work.result.errorCode ∧
            store.saleSafetyBlockers.find?
              (slot.planogramVersion, slot.slotId) = none) := by
  cases settles with
  | ends settled last =>
    simp only [settleStep, stage] at settled
    split at settled
    · rename_i refusal refused
      cases settled
      refine ⟨⟨rfl, rfl, rfl⟩, ?_⟩
      rw [projectionOf_of_refused active refused]
      simp [SameSlotStates.refl]
    · rename_i held ok
      cases settled
      have hold :=
        dispenseFailureSlotSalesState_notReconciliation work.result.errorCode
      refine ⟨?_, sameSlotStates_hold_iff hold ok⟩
      rw [(updateSlotSalesState_hold hold ok).2]
      exact ⟨rfl, rfl, rfl⟩
  | goesOn settled later =>
    simp only [settleStep, stage] at settled
    split at settled <;> cases settled

theorem activeSlotByCoordinate_active
    {store : Store}
    {coordinate : SlotPayload}
    {preferred : PlanogramVersion × SlotId}
    (found :
      store.activeSlotByCoordinate coordinate preferred = some slot) :
    ((store.machinePlanogramSlots.find?
      (slot.planogramVersion, slot.slotId)).filter
        store.isActiveSlot).isSome = true := by
  obtain ⟨member, active, _⟩ := activeSlotByCoordinate_sound found
  rw [Table.find?_of_mem member]
  simp [Store.isActiveSlot, active]

theorem settles_slotLookup
    {store : Store}
    (stage : work.stage = .slotLookup)
    (settles : Settles store work choices final) :
    ∃ hold rest, choices = hold :: rest ∧ KeepsOutcome store final ∧
      (SameSlotStates store final ↔
        HoldQuiet store work.command work.result hold.2) := by
  cases settles with
  | ends settled last =>
    simp only [settleStep, stage] at settled
    split at settled
    · rename_i absent
      cases settled
      refine ⟨_, _, rfl, ⟨rfl, rfl, rfl⟩, ?_⟩
      simp [HoldQuiet, absent, SameSlotStates.refl]
    · cases settled
      exact (last _ rfl).elim
  | goesOn settled later =>
    simp only [settleStep, stage] at settled
    split at settled
    · cases settled
    · rename_i slot found
      cases settled
      obtain ⟨keeps, same⟩ := settles_slotUpdate rfl
        (activeSlotByCoordinate_active found) later
      refine ⟨_, _, rfl, keeps, same.trans ?_⟩
      simp [HoldQuiet, found]

theorem settles_lockLookup
    {store : Store}
    (stage : work.stage = .lockLookup)
    (requires : work.result.requiresLock = true)
    (settles : Settles store work choices final) :
    final.orderSessions = store.orderSessions ∧
      final.stockMovements = store.stockMovements ∧
      (SameSlotStates store final ∧
          final.wholeMachineMaintenanceLock =
            store.wholeMachineMaintenanceLock ↔
        BlockQuiet store work.command work.result choices) := by
  unfold BlockQuiet
  rw [if_pos requires]
  cases settles with
  | ends settled last =>
    simp only [settleStep, stage] at settled
    split at settled
    · cases settled
      exact ⟨rfl, rfl, by simp [SameSlotStates.refl]⟩
    · cases settled
      exact (last _ rfl).elim
  | goesOn settled later =>
    simp only [settleStep, stage] at settled
    split at settled
    · cases settled
    · rename_i slot found
      cases settled
      cases later with
      | ends written last =>
        simp only [settleStep, Prod.mk.injEq] at written
        exact (last _ written.2.symm).elim
      | goesOn written held =>
        simp only [settleStep, Prod.mk.injEq,
          SettleOutcome.next.injEq] at written
        obtain ⟨rfl, rfl⟩ := written
        obtain ⟨hold, rest, rfl, keeps, same⟩ :=
          settles_slotLookup rfl held
        refine ⟨keeps.sessions, keeps.ledger, ?_⟩
        -- The lock written in between touches no slot.
        have sameSlots : SameSlotStates store final ↔
            HoldQuiet store work.command work.result hold.2 := by
          constructor
          · rintro ⟨slots, blockers⟩
            exact same.mp ⟨slots, blockers⟩
          · intro quiet
            obtain ⟨slots, blockers⟩ := same.mpr quiet
            exact ⟨slots, blockers⟩
        rw [sameSlots, keeps.lock, and_comm]
        refine and_congr_left fun _ => ?_
        unfold LockQuiet
        simp only [found, Option.mem_def, Option.some.injEq,
          forall_eq']
        exact eq_comm

theorem dispenseSlot_of_applied
    {store next : Store}
    {command : DispenseCommandPayload}
    {preferred : PlanogramVersion × SlotId}
    {now : Time}
    (applied :
      applyDispenseSuccessToLocalStock store command preferred now =
        .ok next) :
    (store.dispenseSlot command preferred).isSome = true := by
  cases found : store.dispenseSlot command preferred with
  | some slot => rfl
  | none =>
    unfold Store.dispenseSlot at found
    unfold applyDispenseSuccessToLocalStock at applied
    simp only [found] at applied
    cases applied

theorem applyDispenseSuccess_recorded
    {store : Store}
    {command : DispenseCommandPayload}
    {preferred : PlanogramVersion × SlotId}
    (now : Time)
    (recorded :
      (store.stockMovements.find? (.dispense command.commandNo)).isSome =
        true)
    (slotFound : (store.dispenseSlot command preferred).isSome = true) :
    applyDispenseSuccessToLocalStock store command preferred now =
      .ok store := by
  obtain ⟨slot, found⟩ := Option.isSome_iff_exists.mp slotFound
  unfold Store.dispenseSlot at found
  unfold applyDispenseSuccessToLocalStock
  simp only [found, recorded, ↓reduceIte]

section RepeatedCommit

variable
  {store next : Store}
  {command : DispenseCommandPayload}
  {result : DispenseResultPayload}
  {preferred : PlanogramVersion × SlotId}
  {now : Time}

/-- What a repeated commit wrote: outbox, log and the command's session. -/
theorem CommitEffects.repeated
    (effects : CommitEffects store command result preferred now next)
    (recorded : result.success = true →
      (store.stockMovements.find? (.dispense command.commandNo)).isSome =
        true) :
    next = { store with
      outboxEvents := next.outboxEvents
      orderSessions := next.orderSessions
      commandLog := next.commandLog } ∧
    (∀ orderNo, orderNo ≠ command.orderNo →
      next.orderSessions.find? orderNo =
        store.orderSessions.find? orderNo) ∧
    store.sessionAdmits command ∧
    (result.success = true →
      (store.dispenseSlot command preferred).isSome = true) := by
  rcases effects.written with
    ⟨absent, failed, rfl⟩ | ⟨session, stocked, found, current, stock, rfl⟩
  · refine ⟨rfl, fun _ _ => rfl, ?_, by simp [failed]⟩
    unfold Store.sessionAdmits
    simp [absent]
  · have admits : store.sessionAdmits command := by
      unfold Store.sessionAdmits
      simp [found, current]
    have same : stocked = store ∧ (result.success = true →
        (store.dispenseSlot command preferred).isSome = true) := by
      rcases stock with ⟨succeeded, applied⟩ | ⟨failed, same⟩
      · have slotFound := dispenseSlot_of_applied applied
        rw [applyDispenseSuccess_recorded now (recorded succeeded)
          slotFound] at applied
        cases applied
        exact ⟨rfl, fun _ => slotFound⟩
      · exact ⟨same, by simp [failed]⟩
    obtain ⟨rfl, slotFound⟩ := same
    refine ⟨rfl, fun orderNo other => ?_, admits, slotFound⟩
    simp [markCommandSideEffectsCommitted, closeOrderSession, insertOutbox,
      other]

theorem CommitEffects.sameSessions_iff
    (effects : CommitEffects store command result preferred now next)
    (recorded : result.success = true →
      (store.stockMovements.find? (.dispense command.commandNo)).isSome =
        true) :
    (∀ orderNo, next.sessionOutcome orderNo = store.sessionOutcome orderNo) ↔
      CommitQuiet store command result preferred := by
  obtain ⟨_, others, admits, slotFound⟩ := effects.repeated recorded
  have closed := effects.closedSession
  constructor
  · intro same session found _ _
    have own := same command.orderNo
    unfold Store.sessionOutcome at own
    rw [closed, Option.mem_def.mp found] at own
    simp only [Option.map_some, Option.some.injEq, Prod.mk.injEq] at own
    exact ⟨own.1.symm, own.2.symm⟩
  · intro quiet orderNo
    unfold Store.sessionOutcome
    by_cases own : orderNo = command.orderNo
    · subst own
      rw [closed]
      cases found : store.orderSessions.find? command.orderNo with
      | none => rfl
      | some session =>
        obtain ⟨status, action⟩ :=
          quiet session found (admits session found) slotFound
        simp [status, action]
    · rw [others orderNo own]

/-- A repeated commit that is refused has nothing to write. -/
theorem commitQuiet_of_refused
    {refusal : StoreError}
    (journaled :
      (store.getCommand command.commandNo).bind
        CommandLogRecord.resultPayload = some result)
    (recorded : result.success = true →
      (store.stockMovements.find? (.dispense command.commandNo)).isSome =
        true)
    (refused :
      commitJournaledDispenseSideEffects
        store command result preferred now = .error refusal) :
    CommitQuiet store command result preferred ∧
      (result.success = false → ¬ store.sessionAdmits command) := by
  have notAdmitted : result.success = false →
      ¬ store.sessionAdmits command := by
    intro failed admits
    obtain ⟨committed, ok⟩ :=
      commit_failure_succeeds preferred now journaled failed admits
    rw [refused] at ok
    cases ok
  refine ⟨?_, notAdmitted⟩
  intro session found current slotFound
  exfalso
  cases succeeded : result.success with
  | false =>
    apply notAdmitted succeeded
    intro other otherFound
    rw [Option.mem_def.mp found] at otherFound
    cases otherFound
    exact current
  | true =>
    unfold commitJournaledDispenseSideEffects at refused
    simp only [journaled, ne_eq, not_true_eq_false, ↓reduceIte,
      Option.mem_def.mp found, current, succeeded,
      applyDispenseSuccess_recorded now (recorded succeeded)
        (slotFound succeeded)] at refused
    cases refused

end RepeatedCommit

theorem sameSettled_committed_iff
    {store committed : Store}
    {command : DispenseCommandPayload}
    {result : DispenseResultPayload}
    {preferred : PlanogramVersion × SlotId}
    {now : Time}
    (effects : CommitEffects store command result preferred now committed)
    (recorded : result.success = true →
      (store.stockMovements.find? (.dispense command.commandNo)).isSome =
        true)
    {block : Prop}
    (sessions : final.orderSessions = committed.orderSessions)
    (ledger : final.stockMovements = committed.stockMovements)
    (blocks : SameSlotStates store final ∧
        final.wholeMachineMaintenanceLock =
          store.wholeMachineMaintenanceLock ↔ block) :
    SameSettled store final ↔
      CommitQuiet store command result preferred ∧ block := by
  obtain ⟨frame, _⟩ := effects.repeated recorded
  have sameLedger : final.stockMovements = store.stockMovements := by
    rw [ledger, frame]
  rw [← effects.sameSessions_iff recorded, ← blocks]
  unfold Store.sessionOutcome
  rw [← sessions]
  exact ⟨fun same => ⟨same.sessions, same.slotStates, same.lock⟩,
    fun ⟨sameSessions, slotStates, lock⟩ =>
      { sessions := sameSessions
        ledger := sameLedger
        slotStates := slotStates
        lock := lock }⟩

/-- A replay changes nothing that was settled exactly when it is quiet. -/
theorem sameSettled_settles_iff
    {store final : Store}
    {command : DispenseCommandPayload}
    {result : DispenseResultPayload}
    (journaled :
      (store.getCommand command.commandNo).bind
        CommandLogRecord.resultPayload = some result)
    (recorded : result.success = true →
      (store.stockMovements.find? (.dispense command.commandNo)).isSome =
        true)
    (settles : Settles store
      { command, result, source, stage := .commit } choices final) :
    SameSettled store final ↔ ReplayQuiet store command result choices := by
  unfold ReplayQuiet
  cases settles with
  | ends settled last =>
    rename_i now preferred outcome
    simp only [settleStep] at settled
    split at settled
    · rename_i refusal refused
      cases settled
      obtain ⟨quiet, notAdmitted⟩ :=
        commitQuiet_of_refused journaled recorded refused
      exact ⟨fun _ => ⟨quiet, fun failed admits =>
          (notAdmitted failed admits).elim⟩,
        fun _ => SameSettled.refl store⟩
    · rename_i committed changed ok
      simp only [Prod.mk.injEq] at settled
      obtain ⟨rfl, rfl⟩ := settled
      have succeeded : result.success = true := by
        cases success : result.success with
        | true => rfl
        | false =>
          rw [success] at last
          exact (last _ rfl).elim
      have effects := commitJournaledDispenseSideEffects_effects ok
      refine sameSettled_committed_iff effects recorded rfl rfl ?_
      rw [(effects.repeated recorded).1]
      simp only [succeeded, Bool.true_eq_false, false_implies, iff_true]
      exact ⟨⟨fun _ => rfl, fun _ _ => rfl⟩, trivial⟩
  | goesOn settled later =>
    rename_i next now preferred stage rest
    simp only [settleStep] at settled
    split at settled
    · cases settled
    · rename_i committed changed ok
      simp only [Prod.mk.injEq] at settled
      obtain ⟨rfl, outcome⟩ := settled
      have failed : result.success = false := by
        cases success : result.success with
        | false => rfl
        | true =>
          rw [if_pos success] at outcome
          cases outcome
      rw [if_neg (by simp [failed])] at outcome
      cases outcome
      have effects := commitJournaledDispenseSideEffects_effects ok
      obtain ⟨frame, _, admits, _⟩ := effects.repeated recorded
      have onlyBlock : ∀ block : Prop,
          (result.success = false → store.sessionAdmits command → block) ↔
            block := fun block =>
        ⟨fun holds => holds failed admits, fun holds _ _ => holds⟩
      simp only [onlyBlock]
      by_cases requires : result.requiresLock = true
      · have stage : ({ command, result, source, stage := .commit } :
            Settlement).firstBlockStage = .lockLookup := if_pos requires
        rw [stage] at later
        obtain ⟨sessions, ledger, blocks⟩ :=
          settles_lockLookup rfl requires later
        refine sameSettled_committed_iff effects recorded sessions ledger ?_
        rw [frame] at blocks
        constructor
        · rintro ⟨⟨slots, blockers⟩, lock⟩
          exact blocks.mp ⟨⟨slots, blockers⟩, lock⟩
        · intro quiet
          obtain ⟨⟨slots, blockers⟩, lock⟩ := blocks.mpr quiet
          exact ⟨⟨slots, blockers⟩, lock⟩
      · have stage : ({ command, result, source, stage := .commit } :
            Settlement).firstBlockStage = .slotLookup := if_neg requires
        rw [stage] at later
        obtain ⟨hold, others, rfl, keeps, same⟩ :=
          settles_slotLookup rfl later
        refine sameSettled_committed_iff effects recorded keeps.sessions
          keeps.ledger ?_
        have sameLock := keeps.lock
        rw [frame] at same sameLock
        unfold BlockQuiet
        rw [if_neg requires]
        constructor
        · rintro ⟨⟨slots, blockers⟩, _⟩
          exact same.mp ⟨slots, blockers⟩
        · intro quiet
          obtain ⟨slots, blockers⟩ := same.mpr quiet
          exact ⟨⟨slots, blockers⟩, sameLock⟩

/-- The log has the command with its result, committed. -/
def CommittedAs
    (command : DispenseCommandPayload)
    (result : DispenseResultPayload)
    (daemon : Runtime) : Prop :=
  ∃ record, daemon.store.getCommand command.commandNo = some record ∧
    record.commandPayload = command ∧
    record.resultPayload = some result ∧
    record.sideEffectsCommittedAt.isSome = true

/-- The step does not delete the log row of the command. -/
def KeepsRow
    (commandNo : CommandNo)
    (daemon : Runtime)
    (event : Event) : Prop :=
  ∀ next, daemon.step event = some next →
    (next.store.getCommand commandNo).isSome = true

instance
    (commandNo : CommandNo)
    (daemon : Runtime)
    (event : Event) : Decidable (KeepsRow commandNo daemon event) :=
  match stepped : daemon.step event with
  | none => isTrue (by simp [KeepsRow, stepped])
  | some next =>
    decidable_of_iff ((next.store.getCommand commandNo).isSome = true)
      (by simp [KeepsRow, stepped])

theorem CommittedAs.step
    {next : Runtime}
    {command : DispenseCommandPayload}
    {result : DispenseResultPayload}
    (committed : CommittedAs command result daemon)
    (kept : KeepsRow command.commandNo daemon event)
    (step : daemon.step event = some next) :
    CommittedAs command result next := by
  obtain ⟨record, found, payload, journaled, committedAt⟩ := committed
  cases event with
  | start now =>
    have present := kept next step
    simp only [Runtime.step, Option.ite_none_right_eq_some] at step
    obtain ⟨_, same⟩ := step
    cases same
    rcases getCommand_pruneCommandLog daemon.store now
        command.commandNo with same | removed
    · exact ⟨record, same.trans found, payload, journaled, committedAt⟩
    · rw [removed] at present
      cases present
  | _ =>
    obtain ⟨later, laterFound, samePayload, _, keepsResult,
        staysCommitted⟩ :=
      (step_logEvolves step (by simp) command.commandNo).keeps record found
    exact ⟨later, laterFound, samePayload.trans payload,
      keepsResult result journaled, staysCommitted committedAt⟩

/-- Every committed success has its movement in the ledger. -/
def SuccessesInLedger (store : Store) : Prop :=
  ∀ commandNo result, store.committedResult commandNo = some result →
    result.success = true →
    (store.stockMovements.find? (.dispense commandNo)).isSome = true

theorem SuccessesInLedger.step
    {next : Runtime}
    (inLedger : SuccessesInLedger daemon.store)
    (step : LedgerStep daemon next) :
    SuccessesInLedger next.store := by
  intro commandNo result committed succeeded
  rcases step with leaves | ⟨command, stored, commits⟩
  · rw [leaves.movements]
    exact inLedger commandNo result (leaves.nothing _ _ committed) succeeded
  · obtain ⟨preferred, now, effects⟩ := commits.effects
    rw [effects.committedResult] at committed
    by_cases own : commandNo = command.commandNo
    · rw [if_pos own] at committed
      cases committed
      subst own
      cases effects.stockEffect with
      | none movements _ _ _ failedOrRepeated =>
        rw [movements]
        exact failedOrRepeated succeeded
      | takesOff movement _ _ recorded _ _ _ _ =>
        rw [recorded]
        rfl
    · rw [if_neg own] at committed
      rw [effects.otherMovement own]
      exact inLedger commandNo result committed succeeded

/-- The accounting of a daemon, whatever rows its log has lost. -/
structure LedgerInvariant (daemon : Runtime) : Prop where
  accounting : AccountingInvariant daemon
  inLedger : SuccessesInLedger daemon.store

theorem LedgerInvariant.step
    {next : Runtime}
    (invariant : LedgerInvariant daemon)
    (step : daemon.step event = some next) :
    LedgerInvariant next where
  accounting := invariant.accounting.step step
  inLedger := invariant.inLedger.step
    (invariant.accounting.logged.ledgerStep invariant.accounting.noSync step)

theorem successesInLedger
    {store : Store}
    (fresh : store.NoDispenses)
    (reaches : machine.Reaches (Runtime.initial store) daemon) :
    SuccessesInLedger daemon.store := by
  have initial : LedgerInvariant (Runtime.initial store) :=
    { accounting := AccountingInvariant.initial fresh
      inLedger := by
        intro commandNo result committed
        simp [Store.committedResult, Store.getCommand, Runtime.initial,
          fresh.commandLog] at committed }
  have invariant : LedgerInvariant daemon :=
    reaches.keeps (fun holds step => holds.step step) initial
  exact invariant.inLedger

/-- The same command again, up to the end of what it starts. -/
def redelivery
    (command : DispenseCommandPayload)
    (lookUp : Time × (PlanogramVersion × SlotId))
    (choices : List (Time × (PlanogramVersion × SlotId))) : List Event :=
  .deliver command :: advancesWith (lookUp :: choices)

/--
A command whose side effects were committed, and that is redelivered after any
run that keeps its log row, leaves sessions, ledger, slots and lock exactly as
they were if and only if the replay is quiet on the store it finds.
-/
theorem redelivery_keepsSettled_iff
    {store : Store}
    (fresh : store.NoDispenses)
    {settled : Runtime}
    (reaches : machine.Reaches (Runtime.initial store) settled)
    {command : DispenseCommandPayload}
    {result : DispenseResultPayload}
    (committed : CommittedAs command result settled)
    {operations : List Event}
    {later : Runtime}
    (keepsRow : machine.RunMeets (KeepsRow command.commandNo) settled
      operations)
    (operated : machine.run settled operations = some later)
    {lookUp : Time × (PlanogramVersion × SlotId)}
    {choices : List (Time × (PlanogramVersion × SlotId))}
    {final : Runtime}
    (redelivered :
      machine.run later (redelivery command lookUp choices) = some final)
    (done : final.main = .idle) :
    SameSettled later.store final.store ↔
      ReplayQuiet later.store command result choices := by
  have stillCommitted : CommittedAs command result later :=
    Machine.run_keeps_of_meets
      (fun holds kept step => holds.step kept step)
      committed keepsRow operated
  obtain ⟨record, found, payload, journaled, committedAt⟩ := stillCommitted
  have inLedger := successesInLedger fresh
    (reaches.trans ⟨operations, operated⟩)
  have recorded : result.success = true →
      (later.store.stockMovements.find?
        (.dispense command.commandNo)).isSome = true := by
    intro succeeded
    refine inLedger command.commandNo result ?_ succeeded
    rw [Store.committedResult, found, Option.bind_some, if_pos committedAt]
    exact journaled
  obtain ⟨delivered, deliver, lookedUp⟩ :=
    Machine.run_cons_iff.mp redelivered
  simp only [machine, Runtime.step, Option.ite_none_right_eq_some] at deliver
  obtain ⟨_, same⟩ := deliver
  cases same
  obtain ⟨settling, lookUpStep, run⟩ := Machine.run_cons_iff.mp lookedUp
  simp only [machine, Runtime.step, Runtime.advance, Option.some.injEq,
    Runtime.lookUpCommand, found, payload, ne_eq, not_true_eq_false,
    ↓reduceIte, journaled] at lookUpStep
  subst lookUpStep
  have settles := settles_of_run rfl run done
  exact sameSettled_settles_iff
    (by rw [found, Option.bind_some, journaled]) recorded settles

/-- The backend reports that the order of the dispensed command is refunded. -/
def refundedAnswer : BackendStatus :=
  { BackendStatus.blank with
    orderStatus := some "refunded"
    nextAction := some "refunded"
    vending := some { BackendVending.blank with commandNo := some 1 } }

/-- The dispensed machine after it applied that report. -/
def refundedStore : Store :=
  ((applyBackendOrderStatus (Runtime.after oneSlotStore dispensedRun).store
    11 refundedAnswer 200).toOption).getD .empty

/-- The daemon after a dispensed command and some more steps. -/
def afterDispensed (operations : List Event) : Runtime :=
  Runtime.after oneSlotStore (dispensedRun ++ operations)

theorem run_afterDispensed
    {operations : List Event}
    (possible : (machine.run (Runtime.initial oneSlotStore)
      (dispensedRun ++ operations)).isSome = true) :
    machine.run (afterDispensed []) operations =
      some (afterDispensed operations) := by
  obtain ⟨middle, first, rest⟩ :=
    Machine.run_append_iff.mp (Runtime.run_after possible)
  have same : afterDispensed [] = middle := by
    unfold afterDispensed Runtime.after
    rw [List.append_nil, first, Option.getD_some]
  rw [same]
  exact rest

theorem reaches_afterDispensed :
    machine.Reaches (Runtime.initial oneSlotStore) (afterDispensed []) :=
  ⟨dispensedRun ++ [], Runtime.run_after (by decide)⟩

theorem committedAs_dispensed :
    CommittedAs oneSlotCommand dispensedResult (afterDispensed []) := by
  have logged : ((afterDispensed []).store.getCommand 1).map (fun record =>
      (record.commandPayload, record.resultPayload,
        record.sideEffectsCommittedAt.isSome)) =
      some (oneSlotCommand, some dispensedResult, true) := by
    decide +kernel
  obtain ⟨record, found, fields⟩ := Option.map_eq_some_iff.mp logged
  simp only [Prod.mk.injEq] at fields
  exact ⟨record, found, fields.1, fields.2.1, fields.2.2⟩

/-- The dispensed command once more. -/
def redeliveredRun : List Event :=
  redelivery oneSlotCommand (107, (1, 5)) [(107, (1, 5))]

/-- A redelivery right after the commit changes nothing that was settled. -/
theorem redelivery_keepsSettled_iff_undisturbed :
    SameSettled (afterDispensed []).store
        (afterDispensed redeliveredRun).store ∧
      (afterDispensed redeliveredRun).store.sessionOutcome 11 =
        some ("succeeded", "success") := by
  have possible : (machine.run (Runtime.initial oneSlotStore)
      (dispensedRun ++ redeliveredRun)).isSome = true := by
    decide +kernel
  have done : (afterDispensed redeliveredRun).main = .idle := by
    decide +kernel
  have quiet : ReplayQuiet (afterDispensed []).store oneSlotCommand
      dispensedResult [(107, (1, 5))] := by
    refine ⟨?_, fun failed => by cases failed⟩
    have outcome : (afterDispensed []).store.sessionOutcome
        oneSlotCommand.orderNo = some ("succeeded", "success") := by
      decide +kernel
    intro session found _ _
    rw [Store.sessionOutcome, Option.mem_def.mp found, Option.map_some,
      Option.some.injEq, Prod.mk.injEq] at outcome
    exact outcome
  exact ⟨(redelivery_keepsSettled_iff oneSlotStore_noDispenses
      reaches_afterDispensed committedAs_dispensed (by trivial)
      (Machine.run_nil _) (run_afterDispensed possible) done).mpr quiet,
    by decide +kernel⟩

/-- The refund is reported after the dispense, then the command comes again. -/
def refundedRun : List Event :=
  [.otherActivity refundedStore]

/--
A success that is redelivered after the backend reported the order refunded
sets the order back to succeeded.
-/
theorem redelivery_undoesRefund :
    ¬ ∀ (store : Store) (settled later final : Runtime)
        (command : DispenseCommandPayload)
        (result : DispenseResultPayload)
        (operations : List Event)
        (lookUp : Time × (PlanogramVersion × SlotId))
        (choices : List (Time × (PlanogramVersion × SlotId))),
      store.NoDispenses →
      machine.Reaches (Runtime.initial store) settled →
      CommittedAs command result settled →
      machine.RunMeets (KeepsRow command.commandNo) settled operations →
      machine.run settled operations = some later →
      machine.run later (redelivery command lookUp choices) = some final →
      final.main = .idle →
      SameSettled later.store final.store := by
  intro always
  have refunded : (machine.run (Runtime.initial oneSlotStore)
      (dispensedRun ++ refundedRun)).isSome = true := by
    decide +kernel
  have redelivered : (machine.run (Runtime.initial oneSlotStore)
      (dispensedRun ++ (refundedRun ++ redeliveredRun))).isSome = true := by
    decide +kernel
  have operated := run_afterDispensed refunded
  obtain ⟨later, first, run⟩ :=
    Machine.run_append_iff.mp (run_afterDispensed redelivered)
  rw [operated] at first
  cases first
  have keepsRow : machine.RunMeets (KeepsRow oneSlotCommand.commandNo)
      (afterDispensed []) refundedRun := by
    decide +kernel
  have done :
      (afterDispensed (refundedRun ++ redeliveredRun)).main = .idle := by
    decide +kernel
  have same := (always oneSlotStore _ _ _ oneSlotCommand dispensedResult _ _ _
    oneSlotStore_noDispenses reaches_afterDispensed committedAs_dispensed
    keepsRow operated run done).sessions 11
  have before : (afterDispensed refundedRun).store.sessionOutcome 11 =
      some ("refunded", "refunded") := by
    decide +kernel
  have after : (afterDispensed
      (refundedRun ++ redeliveredRun)).store.sessionOutcome 11 =
        some ("succeeded", "success") := by
    decide +kernel
  rw [before, after] at same
  revert same
  decide

end VendingSystem.Daemon
