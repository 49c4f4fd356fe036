import VendingSystem.DaemonLog

namespace VendingSystem.Daemon

/-!
# The hold and the lock after a failed dispense

A journaled failure must put its slot into a hold and, when the controller
named shared hardware, lock the whole machine.  Both are written later than
the journal and the commit, so a failure can be committed and forgotten.

Every committed failure is blocked or is the settlement in hand, as long as no
step abandons or bypasses a block.
-/

/-- The hold and the lock that a failure asks for were written. -/
structure FailureBlocked
    (effects : List Effect)
    (commandNo : CommandNo)
    (result : DispenseResultPayload) : Prop where
  held :
    (∃ slotId, Effect.slotHeld commandNo slotId ∈ effects) ∨
      Effect.coordinateAbsent commandNo ∈ effects
  locked : result.requiresLock = true →
    Effect.machineLocked commandNo ∈ effects

/-- The main task is settling this result. -/
def InHand
    (daemon : Runtime)
    (commandNo : CommandNo)
    (result : DispenseResultPayload) : Prop :=
  ∃ work ∈ daemon.main.settlement,
    work.command.commandNo = commandNo ∧ work.result = result

/-- A settlement at the slot has written the lock that it had to write. -/
def LockBeforeHold (daemon : Runtime) : Prop :=
  ∀ work, daemon.main.settlement = some work →
    (work.stage = .slotLookup ∨
      ∃ version slotId, work.stage = .slotUpdate version slotId) →
    work.result.requiresLock = true →
    Effect.machineLocked work.command.commandNo ∈ daemon.effects

/-- Every committed failure is blocked or in hand. -/
def FailuresBlocked (daemon : Runtime) : Prop :=
  ∀ commandNo result,
    daemon.store.committedResult commandNo = some result →
    result.success = false →
    FailureBlocked daemon.effects commandNo result ∨
      InHand daemon commandNo result

/--
The property of one state: once nothing is pending and nothing is stale, every
journaled failure that the main task does not have in hand was blocked.
-/
def SettledFailuresBlocked (daemon : Runtime) (now : Time) : Prop :=
  (∀ record ∈ daemon.store.commandLog,
    record.pendingSideEffects = false) →
  (∀ record ∈ daemon.store.commandLog,
    record.activeUnfinished = true →
      isStaleForRestartRecovery record now = false) →
  ∀ record ∈ daemon.store.commandLog, ∀ result,
    record.resultPayload = some result →
    result.success = false →
    (∀ work, daemon.main.settlement = some work →
      work.command.commandNo ≠ record.commandNo) →
    FailureBlocked daemon.effects record.commandNo result

/-- The slot can be put into a hold: it is active and projected. -/
def Store.canHold
    (store : Store)
    (version : PlanogramVersion)
    (slotId : SlotId) : Prop :=
  ((store.machinePlanogramSlots.find? (version, slotId)).filter
      store.isActiveSlot).isSome = true ∧
    (store.projectionOf version slotId).isSome = true

/--
The settlement step of a failure does not drop its block: a commit that someone
else already made is not refused, the coordinate to lock for is in the active
planogram, and the slot to hold is active and projected.
-/
def SettlementProceeds
    (store : Store)
    (work : Settlement)
    (preferred : PlanogramVersion × SlotId) : Prop :=
  work.result.success = false →
    match work.stage with
    | .commit =>
      store.committedResult work.command.commandNo = some work.result →
        store.sessionAdmits work.command
    | .lockLookup =>
      (store.activeSlotByCoordinate
        work.command.slot preferred).isSome = true
    | .lockWrite _ => True
    | .slotLookup => True
    | .slotUpdate version slotId => store.canHold version slotId

/--
A journal recovery about to commit a failure finds it blocked already, or in
the hands of the main task.
-/
def RecoveryHarmless (daemon : Runtime) (record : CommandLogRecord) : Prop :=
  ∀ result ∈ record.resultPayload,
    result.success = false →
    daemon.store.journaledResult record.commandPayload.commandNo =
      some result →
    daemon.store.sessionAdmits record.commandPayload →
    FailureBlocked daemon.effects record.commandPayload.commandNo result ∨
      InHand daemon record.commandPayload.commandNo result

/-- The record that the startup recovery commits next. -/
def MainPhase.nextRecovered : MainPhase → Option CommandLogRecord
  | .startupJournal remaining => remaining.head?
  | _ => none

/-- No committed failure that is still to be blocked is in hand. -/
def NothingToLose (daemon : Runtime) : Prop :=
  ∀ work ∈ daemon.main.settlement,
    work.result.success = false →
    daemon.store.committedResult work.command.commandNo =
      some work.result →
    FailureBlocked daemon.effects work.command.commandNo work.result

/--
The steps that neither abandon nor bypass the block of a failure.  They are a
condition on the state before the step and on the event.
-/
def KeepsBlocking (daemon : Runtime) : Event → Prop
  | .crash
  | .giveUp => NothingToLose daemon
  | .workerAdvance _ _ =>
    ∀ record ∈ daemon.worker.bind List.head?,
      RecoveryHarmless daemon record
  | .advance _ preferred =>
    (∀ record ∈ daemon.main.nextRecovered,
      RecoveryHarmless daemon record) ∧
    ∀ work ∈ daemon.main.settlement,
      SettlementProceeds daemon.store work preferred
  | _ => True

/-- A hold of the command was written. -/
def Effect.holds (commandNo : CommandNo) : Effect → Bool
  | .slotHeld held _ => held == commandNo
  | .coordinateAbsent _
  | .machineLocked _ => false

instance
    (effects : List Effect)
    (commandNo : CommandNo)
    (result : DispenseResultPayload) :
    Decidable (FailureBlocked effects commandNo result) :=
  decidable_of_iff
    ((effects.any (Effect.holds commandNo) = true ∨
        Effect.coordinateAbsent commandNo ∈ effects) ∧
      (result.requiresLock = true →
        Effect.machineLocked commandNo ∈ effects)) (by
    have held : effects.any (Effect.holds commandNo) = true ↔
        ∃ slotId, Effect.slotHeld commandNo slotId ∈ effects := by
      simp only [List.any_eq_true]
      constructor
      · rintro ⟨effect, member, holds⟩
        cases effect with
        | slotHeld other slotId =>
          simp only [Effect.holds, beq_iff_eq] at holds
          subst holds
          exact ⟨slotId, member⟩
        | coordinateAbsent _
        | machineLocked _ => cases holds
      · rintro ⟨slotId, member⟩
        exact ⟨_, member, by simp [Effect.holds]⟩
    rw [held]
    exact ⟨fun ⟨held, locked⟩ => ⟨held, locked⟩,
      fun blocked => ⟨blocked.held, blocked.locked⟩⟩)

instance
    (daemon : Runtime)
    (commandNo : CommandNo)
    (result : DispenseResultPayload) :
    Decidable (InHand daemon commandNo result) :=
  inferInstanceAs (Decidable (∃ work ∈ daemon.main.settlement,
    work.command.commandNo = commandNo ∧ work.result = result))

instance (store : Store) (command : DispenseCommandPayload) :
    Decidable (store.sessionAdmits command) :=
  inferInstanceAs (Decidable (∀ session ∈
    store.orderSessions.find? command.orderNo,
      session.currentCommandNo = some command.commandNo))

instance
    (store : Store)
    (version : PlanogramVersion)
    (slotId : SlotId) :
    Decidable (store.canHold version slotId) :=
  inferInstanceAs (Decidable (_ ∧ _))

instance
    (store : Store)
    (work : Settlement)
    (preferred : PlanogramVersion × SlotId) :
    Decidable (SettlementProceeds store work preferred) := by
  unfold SettlementProceeds
  cases work.stage <;> infer_instance

instance (daemon : Runtime) (record : CommandLogRecord) :
    Decidable (RecoveryHarmless daemon record) := by
  unfold RecoveryHarmless
  infer_instance

instance (daemon : Runtime) : Decidable (NothingToLose daemon) := by
  unfold NothingToLose
  infer_instance

instance (daemon : Runtime) (event : Event) :
    Decidable (KeepsBlocking daemon event) := by
  cases event <;> unfold KeepsBlocking <;> infer_instance

/-- What the steps that keep blocking preserve. -/
structure HoldInvariant (daemon : Runtime) : Prop where
  sound : ∀ commandNo record,
    daemon.store.getCommand commandNo = some record → record.Sound
  lockBeforeHold : LockBeforeHold daemon
  failuresBlocked : FailuresBlocked daemon

variable {commandNo : CommandNo} {result : DispenseResultPayload}
  {store : Store}

/-- A written hold or lock is not forgotten. -/
theorem FailureBlocked.mono
    {earlier later : List Effect}
    (blocked : FailureBlocked earlier commandNo result)
    (subset : ∀ effect ∈ earlier, effect ∈ later) :
    FailureBlocked later commandNo result where
  held := blocked.held.imp
    (fun ⟨slotId, member⟩ => ⟨slotId, subset _ member⟩)
    (subset _)
  locked := fun requires => subset _ (blocked.locked requires)

theorem journaledResult_of_committedResult
    (committed : store.committedResult commandNo = some result) :
    store.journaledResult commandNo = some result := by
  obtain ⟨record, found, stored⟩ := Option.bind_eq_some_iff.mp committed
  split at stored
  · exact Option.bind_eq_some_iff.mpr ⟨record, found, stored⟩
  · cases stored

theorem updateSlotSalesState_succeeds
    {version : PlanogramVersion}
    {slotId : SlotId}
    (state : SlotSalesState)
    (source : String)
    (now : Time)
    (canHold : store.canHold version slotId) :
    ∃ held, updateSlotSalesState store version slotId state source now =
      .ok held := by
  obtain ⟨slot, activeSlot⟩ := Option.isSome_iff_exists.mp canHold.1
  obtain ⟨slotFound, _⟩ := Option.filter_eq_some_iff.mp activeSlot
  unfold updateSlotSalesState
  rw [activeSlot]
  apply projectSlotSalesState_succeeds
  · rw [markSlotSalesState_frame]
    simp [slotFound]
  · rw [markSlotSalesState_frame]
    exact canHold.2

theorem dispenseFailureSlotSalesState_isDispenseHold
    (errorCode : Option String) :
    (dispenseFailureSlotSalesState errorCode).isDispenseHold = true := by
  unfold dispenseFailureSlotSalesState
  split <;> rfl

/-- What a settlement step of the daemon leaves for the next state. -/
structure SettleStepResult
    (daemon next : Runtime)
    (work : Settlement)
    (preferred : PlanogramVersion × SlotId)
    (now : Time) : Prop where
  inHand : daemon.main.settlement = some work
  store : next.store = (settleStep daemon.store work preferred now).1
  effects : next.effects = daemon.effects ++
    settleEffects work (settleStep daemon.store work preferred now).1
      (settleStep daemon.store work preferred now).2
  settlement : next.main.settlement =
    match (settleStep daemon.store work preferred now).2 with
    | .next stage => some { work with stage }
    | .returned
    | .refused => none

namespace SettleStepResult

variable
  {daemon next : Runtime}
  {work : Settlement}
  {preferred : PlanogramVersion × SlotId}
  {now : Time}

/-- A settlement step only adds holds and locks. -/
theorem effects_mono
    (result : SettleStepResult daemon next work preferred now) :
    ∀ effect ∈ daemon.effects, effect ∈ next.effects := by
  intro effect member
  rw [result.effects]
  exact List.mem_append_left _ member

theorem failuresBlocked_of_commandLog
    (result : SettleStepResult daemon next work preferred now)
    (blocked : FailuresBlocked daemon)
    (sameStore :
      (settleStep daemon.store work preferred now).1.commandLog =
        daemon.store.commandLog)
    (own : work.result.success = false →
      daemon.store.committedResult work.command.commandNo =
        some work.result →
      FailureBlocked next.effects work.command.commandNo work.result ∨
        ∃ stage,
          (settleStep daemon.store work preferred now).2 = .next stage) :
    FailuresBlocked next := by
  intro commandNo failure committed failed
  have committedBefore :
      daemon.store.committedResult commandNo = some failure := by
    apply CommitsNothing.of_commandLog_eq sameStore
    rwa [result.store] at committed
  rcases blocked commandNo failure committedBefore failed with
    done | ⟨inHand, found, sameCommand, sameResult⟩
  · exact Or.inl (done.mono result.effects_mono)
  · have sameWork : inHand = work := by
      rw [result.inHand] at found
      exact (Option.some.inj found).symm
    subst sameWork sameCommand sameResult
    rcases own failed committedBefore with done | ⟨stage, outcome⟩
    · exact Or.inl done
    · refine Or.inr ⟨{ inHand with stage }, ?_, rfl, rfl⟩
      rw [result.settlement, outcome]
      rfl

theorem failuresBlocked_of_next
    (result : SettleStepResult daemon next work preferred now)
    (blocked : FailuresBlocked daemon)
    (sameStore :
      (settleStep daemon.store work preferred now).1.commandLog =
        daemon.store.commandLog)
    {stage : SettleStage}
    (outcome :
      (settleStep daemon.store work preferred now).2 = .next stage) :
    FailuresBlocked next :=
  result.failuresBlocked_of_commandLog blocked sameStore
    fun _ _ => Or.inr ⟨stage, outcome⟩

theorem failuresBlocked_of_end
    (result : SettleStepResult daemon next work preferred now)
    (blocked : FailuresBlocked daemon)
    (sameStore :
      (settleStep daemon.store work preferred now).1.commandLog =
        daemon.store.commandLog)
    (ended : work.result.success = false →
      daemon.store.committedResult work.command.commandNo =
        some work.result →
      FailureBlocked next.effects work.command.commandNo work.result) :
    FailuresBlocked next :=
  result.failuresBlocked_of_commandLog blocked sameStore
    fun failed committed => Or.inl (ended failed committed)

theorem failuresBlocked_commit
    (result : SettleStepResult daemon next work preferred now)
    (blocked : FailuresBlocked daemon)
    (proceeds : SettlementProceeds daemon.store work preferred)
    (stage : work.stage = .commit) :
    FailuresBlocked next := by
  cases committed : commitJournaledDispenseSideEffects
      daemon.store work.command work.result preferred now with
  | error refusal =>
    have stepped :
        settleStep daemon.store work preferred now =
          (daemon.store, .refused) := by
      simp [settleStep, stage, committed]
    refine result.failuresBlocked_of_end blocked (by rw [stepped]) ?_
    intro failed committedBefore
    simp only [SettlementProceeds, stage] at proceeds
    obtain ⟨outcome, accepted⟩ := commit_failure_succeeds preferred now
      (journaledResult_of_committedResult committedBefore) failed
      (proceeds failed committedBefore)
    rw [committed] at accepted
    cases accepted
  | ok outcome =>
    obtain ⟨after, changed⟩ := outcome
    have effects := commitJournaledDispenseSideEffects_effects committed
    have storeAfter : next.store = after := by
      rw [result.store]
      simp [settleStep, stage, committed]
    intro commandNo failure committedAfter failed
    rw [storeAfter, effects.committedResult] at committedAfter
    split at committedAfter
    · rename_i own
      cases committedAfter
      refine Or.inr
        ⟨{ work with stage := work.firstBlockStage }, ?_, own.symm, rfl⟩
      rw [result.settlement]
      simp [settleStep, stage, committed, failed]
    · rename_i other
      rcases blocked commandNo failure committedAfter failed with
        done | ⟨inHand, found, sameCommand, _⟩
      · exact Or.inl (done.mono result.effects_mono)
      · rw [result.inHand] at found
        cases found
        exact (other sameCommand.symm).elim

theorem failuresBlocked
    (result : SettleStepResult daemon next work preferred now)
    (blocked : FailuresBlocked daemon)
    (lockFirst : LockBeforeHold daemon)
    (proceeds : SettlementProceeds daemon.store work preferred) :
    FailuresBlocked next := by
  have lockWritten := lockFirst work result.inHand
  cases stage : work.stage with
  | commit => exact result.failuresBlocked_commit blocked proceeds stage
  | lockLookup =>
    cases found : daemon.store.activeSlotByCoordinate
        work.command.slot preferred with
    | none =>
      have stepped :
          settleStep daemon.store work preferred now =
            (daemon.store, .returned) := by
        simp [settleStep, stage, found]
      refine result.failuresBlocked_of_end blocked (by rw [stepped]) ?_
      intro failed _
      simp only [SettlementProceeds, stage, found] at proceeds
      exact absurd (proceeds failed) (by simp)
    | some slot =>
      have stepped :
          settleStep daemon.store work preferred now =
            (daemon.store, .next (.lockWrite slot.slotId)) := by
        simp [settleStep, stage, found]
      exact result.failuresBlocked_of_next blocked
        (by rw [stepped]) (by rw [stepped])
  | lockWrite slotId =>
    have stepped :
        settleStep daemon.store work preferred now =
          (putWholeMachineMaintenanceLock daemon.store
            work.command work.result slotId now, .next .slotLookup) := by
      simp [settleStep, stage]
    exact result.failuresBlocked_of_next blocked
      (by rw [stepped]; rfl) (by rw [stepped])
  | slotLookup =>
    cases found : daemon.store.activeSlotByCoordinate
        work.command.slot preferred with
    | none =>
      have stepped :
          settleStep daemon.store work preferred now =
            (daemon.store, .returned) := by
        simp [settleStep, stage, found]
      refine result.failuresBlocked_of_end blocked (by rw [stepped]) ?_
      intro failed _
      refine ⟨Or.inr ?_, fun requires => result.effects_mono _
        (lockWritten (Or.inl stage) requires)⟩
      rw [result.effects, stepped]
      simp [settleEffects, stage]
    | some slot =>
      have stepped :
          settleStep daemon.store work preferred now =
            (daemon.store, .next (.slotUpdate
              slot.planogramVersion slot.slotId)) := by
        simp [settleStep, stage, found]
      exact result.failuresBlocked_of_next blocked
        (by rw [stepped]) (by rw [stepped])
  | slotUpdate version slotId =>
    cases updated : updateSlotSalesState daemon.store version slotId
        (dispenseFailureSlotSalesState work.result.errorCode)
        work.source now with
    | error refusal =>
      have stepped :
          settleStep daemon.store work preferred now =
            (daemon.store, .refused) := by
        simp [settleStep, stage, updated]
      refine result.failuresBlocked_of_end blocked (by rw [stepped]) ?_
      intro failed _
      simp only [SettlementProceeds, stage] at proceeds
      obtain ⟨held, accepted⟩ := updateSlotSalesState_succeeds
        (dispenseFailureSlotSalesState work.result.errorCode)
        work.source now (proceeds failed)
      rw [updated] at accepted
      cases accepted
    | ok held =>
      have stepped :
          settleStep daemon.store work preferred now = (held, .returned) := by
        simp [settleStep, stage, updated]
      obtain ⟨frame, ⟨row, found, state⟩, _⟩ :=
        updateSlotSalesState_spec updated
      refine result.failuresBlocked_of_end blocked (by rw [stepped, frame]) ?_
      intro failed _
      refine ⟨Or.inl ⟨slotId, ?_⟩, fun requires =>
        result.effects_mono _
          (lockWritten (Or.inr ⟨version, slotId, stage⟩) requires)⟩
      rw [result.effects, stepped]
      have holds : held.holdsSlot slotId = true := by
        simp [Store.holdsSlot, found, state,
          dispenseFailureSlotSalesState_isDispenseHold]
      simp [settleEffects, stage, holds]

/-- A settlement reaches the slot only after writing the lock it owes. -/
theorem lockBeforeHold
    (result : SettleStepResult daemon next work preferred now)
    (lockFirst : LockBeforeHold daemon) :
    LockBeforeHold next := by
  intro later inHand atSlot requires
  rw [result.settlement] at inHand
  split at inHand
  · rename_i stage outcome
    cases inHand
    simp only at atSlot requires ⊢
    cases workStage : work.stage with
    | commit =>
      simp only [settleStep, workStage] at outcome
      split at outcome
      · cases outcome
      · simp only [Settlement.firstBlockStage, requires] at outcome
        split at outcome
        · cases outcome
        · cases outcome
          rcases atSlot with atLookup | ⟨_, _, atUpdate⟩
          · cases atLookup
          · cases atUpdate
    | lockLookup =>
      simp only [settleStep, workStage] at outcome
      split at outcome
      · cases outcome
      · cases outcome
        rcases atSlot with atLookup | ⟨_, _, atUpdate⟩
        · cases atLookup
        · cases atUpdate
    | lockWrite slotId =>
      rw [result.effects]
      simp [settleStep, workStage, settleEffects, Store.lockedBy,
        putWholeMachineMaintenanceLock]
    | slotLookup =>
      exact result.effects_mono _
        (lockFirst work result.inHand (Or.inl workStage) requires)
    | slotUpdate version slotId =>
      exact result.effects_mono _
        (lockFirst work result.inHand
          (Or.inr ⟨version, slotId, workStage⟩) requires)
  · cases inHand
  · cases inHand

end SettleStepResult

namespace HoldInvariant

variable {daemon next : Runtime} {work : Settlement}
  {preferred : PlanogramVersion × SlotId} {now : Time} {event : Event}

/-- A step outside settlements that commits nothing keeps the invariant. -/
theorem transfer
    (invariant : HoldInvariant daemon)
    (sound : ∀ commandNo record,
      next.store.getCommand commandNo = some record → record.Sound)
    (commitsNothing : CommitsNothing daemon.store next.store)
    (sameEffects : next.effects = daemon.effects)
    (settles : ∀ work, next.main.settlement = some work →
      daemon.main.settlement = some work ∨ work.stage = .commit)
    (keeps : NothingToLose daemon ∨
      next.main.settlement = daemon.main.settlement) :
    HoldInvariant next where
  sound := sound
  lockBeforeHold := by
    intro work inHand atSlot requires
    rw [sameEffects]
    rcases settles work inHand with before | atCommit
    · exact invariant.lockBeforeHold work before atSlot requires
    · rw [atCommit] at atSlot
      rcases atSlot with atLookup | ⟨_, _, atUpdate⟩
      · cases atLookup
      · cases atUpdate
  failuresBlocked := by
    intro commandNo result committed failed
    have before := commitsNothing commandNo result committed
    rw [sameEffects]
    rcases invariant.failuresBlocked commandNo result before failed with
      done | ⟨work, inHand, sameCommand, sameResult⟩
    · exact Or.inl done
    · rcases keeps with nothing | same
      · subst sameCommand sameResult
        exact Or.inl (nothing work inHand failed before)
      · exact Or.inr ⟨work, same.trans inHand, sameCommand, sameResult⟩

/-- Recovering a record that is blocked or in hand keeps the invariant. -/
theorem recoverJournaled
    (invariant : HoldInvariant daemon)
    {record : CommandLogRecord}
    (harmless : RecoveryHarmless daemon record)
    (preferred : PlanogramVersion × SlotId)
    (now : Time) :
    HoldInvariant (daemon.recoverJournaled record preferred now) := by
  have evolves := daemon.recoverJournaled_logEvolves record preferred now
  have sound : ∀ commandNo later,
      (daemon.recoverJournaled record preferred now).store.getCommand
        commandNo = some later → later.Sound :=
    fun commandNo later found => (evolves commandNo).sound
      (fun old stored => invariant.sound commandNo old stored) later found
  unfold Runtime.recoverJournaled at sound ⊢
  split
  · exact invariant
  · rename_i result stored
    cases committed : commitJournaledDispenseSideEffects
        daemon.store record.commandPayload result preferred now with
    | error refusal => exact invariant
    | ok outcome =>
      obtain ⟨after, changed⟩ := outcome
      simp only [stored, committed] at sound
      have effects :=
        commitJournaledDispenseSideEffects_effects committed
      refine ⟨sound, invariant.lockBeforeHold, ?_⟩
      intro commandNo failure committedAfter failed
      simp only [Runtime.afterCommit] at committedAfter ⊢
      rw [effects.committedResult] at committedAfter
      split at committedAfter
      · rename_i own
        cases committedAfter
        rw [own]
        refine harmless result stored failed effects.journaled ?_
        intro session found
        rcases effects.written with
          ⟨absent, _, _⟩ | ⟨present, _, named, current, _, _⟩
        · rw [absent] at found
          cases found
        · rw [named] at found
          cases found
          exact current
      · exact invariant.failuresBlocked commandNo failure committedAfter failed

theorem lookUpCommand_settlement
    {command : DispenseCommandPayload}
    (inHand : (daemon.lookUpCommand command).settlement = some work) :
    work.stage = .commit := by
  unfold Runtime.lookUpCommand at inHand
  split at inHand
  · cases inHand
  · split at inHand
    · cases inHand
    · split at inHand
      · cases inHand
        rfl
      · split at inHand <;> cases inHand

theorem settle
    (invariant : HoldInvariant daemon)
    (result : SettleStepResult daemon next work preferred now)
    (proceeds : SettlementProceeds daemon.store work preferred) :
    HoldInvariant next where
  sound := by
    intro commandNo record found
    rw [result.store] at found
    exact (settleStep_logEvolves daemon.store work preferred now
      commandNo).sound
        (fun old stored => invariant.sound commandNo old stored)
        record found
  lockBeforeHold := result.lockBeforeHold invariant.lockBeforeHold
  failuresBlocked := result.failuresBlocked invariant.failuresBlocked
    invariant.lockBeforeHold proceeds

theorem sound_step
    (invariant : HoldInvariant daemon)
    (step : daemon.step event = some next)
    (notStart : ∀ now, event ≠ .start now) :
    ∀ commandNo record,
      next.store.getCommand commandNo = some record → record.Sound :=
  fun commandNo record found =>
    (step_logEvolves step notStart commandNo).sound
      (fun old stored => invariant.sound commandNo old stored) record found

/-- The main task's next durable step keeps the invariant. -/
theorem advance
    (invariant : HoldInvariant daemon)
    (condition : KeepsBlocking daemon (.advance now preferred))
    (step : daemon.step (.advance now preferred) = some next) :
    HoldInvariant next := by
  have sound := invariant.sound_step step (by simp)
  simp only [Runtime.step, Runtime.advance] at step
  split at step
  case h_1 | h_2 | h_3 => cases step
  case h_4 phase =>
      cases step
      exact invariant.transfer sound (CommitsNothing.of_commandLog_eq rfl)
        rfl (by simp [MainPhase.settlement])
        (Or.inr (by rw [phase]; rfl))
  case h_5 record remaining phase =>
      cases step
      have recovered := invariant.recoverJournaled
        (condition.1 record (by rw [phase]; rfl)) preferred now
      have sameMain :
          (daemon.recoverJournaled record preferred now).main =
            daemon.main := by rw [Runtime.recoverJournaled_frame]
      exact recovered.transfer sound (CommitsNothing.of_commandLog_eq rfl)
        rfl (by simp [MainPhase.settlement])
        (Or.inr (by rw [sameMain, phase]; rfl))
  case h_6 phase =>
      cases step
      exact invariant.transfer sound (CommitsNothing.of_commandLog_eq rfl)
        rfl (by simp [MainPhase.settlement])
        (Or.inr (by rw [phase]; rfl))
  case h_7 record remaining phase =>
      have nothing : NothingToLose daemon := by
        intro work inHand
        rw [phase] at inHand
        cases inHand
      split at step
      · cases step
        refine invariant.transfer sound
          (CommitsNothing.recordCommandResultJournal
            invariant.sound _ _ _) rfl ?_ (Or.inl nothing)
        intro work inHand
        simp only at inHand
        split at inHand <;> cases inHand
        exact Or.inr rfl
      · cases step
        exact invariant.transfer sound
          (CommitsNothing.of_commandLog_eq rfl) rfl
          (by simp [MainPhase.settlement]) (Or.inl nothing)
  case h_8 work remaining phase =>
      cases step
      have inHand : daemon.main.settlement = some work := by
        rw [phase]
        rfl
      refine invariant.settle
        ⟨inHand, Runtime.settle_store _ _ _ _,
          Runtime.settle_effects _ _ _ _, ?_⟩ (condition.2 work inHand)
      simp only
      split <;> simp_all [MainPhase.settlement]
  case h_9 command phase =>
      cases step
      have nothing : NothingToLose daemon := by
        intro work inHand
        rw [phase] at inHand
        cases inHand
      refine invariant.transfer sound (CommitsNothing.of_commandLog_eq rfl)
        rfl ?_ (Or.inl nothing)
      intro work inHand
      exact Or.inr (lookUpCommand_settlement inHand)
  case h_10 command phase =>
      cases step
      exact invariant.transfer sound
        (CommitsNothing.recordCommandAck _ _ _) rfl
        (by simp [MainPhase.settlement])
        (Or.inr (by rw [phase]; rfl))
  case h_11 command phase =>
      cases step
      exact invariant.transfer sound
        (CommitsNothing.markCommandDispensing _ _ _) rfl
        (by simp [MainPhase.settlement])
        (Or.inr (by rw [phase]; rfl))
  case h_12 command phase =>
      cases step
      exact invariant.transfer sound (CommitsNothing.of_commandLog_eq rfl)
        rfl (by simp [MainPhase.settlement])
        (Or.inr (by rw [phase]; rfl))
  case h_13 command result phase =>
      cases step
      have nothing : NothingToLose daemon := by
        intro work inHand
        rw [phase] at inHand
        cases inHand
      refine invariant.transfer sound
        (CommitsNothing.recordCommandResultJournal
          invariant.sound _ _ _) rfl ?_ (Or.inl nothing)
      intro work inHand
      cases inHand
      exact Or.inr rfl
  case h_14 work phase =>
      cases step
      have inHand : daemon.main.settlement = some work := by
        rw [phase]
        rfl
      refine invariant.settle
        ⟨inHand, Runtime.settle_store _ _ _ _,
          Runtime.settle_effects _ _ _ _, ?_⟩ (condition.2 work inHand)
      simp only
      split <;> simp_all [MainPhase.settlement]

theorem step
    (invariant : HoldInvariant daemon)
    (condition : KeepsBlocking daemon event)
    (step : daemon.step event = some next) :
    HoldInvariant next := by
  cases event with
  | start now =>
    simp only [Runtime.step] at step
    split at step <;> cases step
    rename_i down
    refine invariant.transfer ?_ (CommitsNothing.pruneCommandLog _ _) rfl
      (by simp [MainPhase.settlement]) (Or.inr (by rw [down]; rfl))
    intro commandNo record found
    exact invariant.sound commandNo record (getCommand_of_pruned found)
  | advance now preferred => exact invariant.advance condition step
  | deliver command =>
    have sound := invariant.sound_step step (by simp)
    simp only [Runtime.step] at step
    split at step <;> cases step
    rename_i idle
    exact invariant.transfer sound (CommitsNothing.of_commandLog_eq rfl)
      rfl (by simp [MainPhase.settlement])
      (Or.inr (by rw [idle]; rfl))
  | hardwareAnswers result =>
    have sound := invariant.sound_step step (by simp)
    simp only [Runtime.step] at step
    split at step <;> cases step
    rename_i command phase
    exact invariant.transfer sound (CommitsNothing.of_commandLog_eq rfl)
      rfl (by simp [MainPhase.settlement])
      (Or.inr (by rw [phase]; rfl))
  | giveUp =>
    have sound := invariant.sound_step step (by simp)
    simp only [Runtime.step, Runtime.giveUp] at step
    split at step <;> cases step <;>
      exact invariant.transfer sound
        (CommitsNothing.of_commandLog_eq rfl) rfl
        (by simp [MainPhase.settlement]) (Or.inl condition)
  | crash =>
    have sound := invariant.sound_step step (by simp)
    cases step
    exact invariant.transfer sound (CommitsNothing.of_commandLog_eq rfl)
      rfl (by simp [MainPhase.settlement]) (Or.inl condition)
  | workerScan =>
    have sound := invariant.sound_step step (by simp)
    simp only [Runtime.step] at step
    split at step <;> cases step
    exact invariant.transfer sound (CommitsNothing.of_commandLog_eq rfl)
      rfl (fun _ inHand => Or.inl inHand) (Or.inr rfl)
  | workerAdvance now preferred =>
    have sound := invariant.sound_step step (by simp)
    simp only [Runtime.step] at step
    split at step <;> cases step
    · exact invariant.transfer sound
        (CommitsNothing.of_commandLog_eq rfl) rfl
        (fun _ inHand => Or.inl inHand) (Or.inr rfl)
    · rename_i record remaining scanned
      have recovered := invariant.recoverJournaled
        (condition record (by rw [scanned]; rfl)) preferred now
      exact recovered.transfer sound
        (CommitsNothing.of_commandLog_eq rfl) rfl
        (fun _ inHand => Or.inl inHand) (Or.inr rfl)
  | workerGiveUp =>
    have sound := invariant.sound_step step (by simp)
    cases step
    exact invariant.transfer sound (CommitsNothing.of_commandLog_eq rfl)
      rfl (fun _ inHand => Or.inl inHand) (Or.inr rfl)
  | recordStockMovement input upload now =>
    have sound := invariant.sound_step step (by simp)
    simp only [Runtime.step] at step
    split at step <;> cases step
    · rename_i recorded reported result
      exact invariant.transfer sound
        (CommitsNothing.of_commandLog_eq
          (recordStockMovementWithUpload_leaves result).commandLog)
        rfl (fun _ inHand => Or.inl inHand) (Or.inr rfl)
    · exact invariant
  | pruneStockMovements protectedIds cutoff =>
    have sound := invariant.sound_step step (by simp)
    cases step
    exact invariant.transfer sound (CommitsNothing.of_commandLog_eq rfl)
      rfl (fun _ inHand => Or.inl inHand) (Or.inr rfl)
  | otherActivity after =>
    have sound := invariant.sound_step step (by simp)
    obtain ⟨rfl, commandLog, _⟩ := Runtime.step_otherActivity step
    exact invariant.transfer sound
      (CommitsNothing.of_commandLog_eq commandLog) rfl
      (fun _ inHand => Or.inl inHand) (Or.inr rfl)

theorem initial
    (emptyLog : store.commandLog = .empty) :
    HoldInvariant (Runtime.initial store) where
  sound := by
    intro commandNo record found
    simp only [Runtime.initial, Store.getCommand, emptyLog,
      Table.find?_empty] at found
    cases found
  lockBeforeHold := by
    intro work inHand
    cases inHand
  failuresBlocked := by
    intro commandNo result committed
    simp only [Runtime.initial, Store.committedResult, Store.getCommand,
      emptyLog, Table.find?_empty] at committed
    cases committed

theorem settledFailuresBlocked
    (invariant : HoldInvariant daemon)
    (now : Time) :
    SettledFailuresBlocked daemon now := by
  intro nothingPending _ record member result journaled failed notInHand
  have committed :
      daemon.store.committedResult record.commandNo = some result := by
    have settled := nothingPending record member
    simp only [CommandLogRecord.pendingSideEffects, journaled,
      Option.isSome_some, Bool.true_and, Option.isNone_eq_false_iff]
      at settled
    refine Option.bind_eq_some_iff.mpr ⟨record, Table.find?_of_mem member, ?_⟩
    simp [settled, journaled]
  rcases invariant.failuresBlocked record.commandNo result committed
    failed with done | ⟨work, inHand, sameCommand, _⟩
  · exact done
  · exact (notInHand work inHand sameCommand).elim

end HoldInvariant

/--
In every run whose steps keep blocking, every journaled failure of a settled
state put its slot into a hold and, for a shared-hardware fault, locked the
machine.
-/
theorem settledFailuresBlocked_of_keepsBlocking
    {store : Store}
    (emptyLog : store.commandLog = .empty)
    {events : List Event}
    {daemon : Runtime}
    (meets :
      machine.RunMeets KeepsBlocking (Runtime.initial store) events)
    (run : machine.run (Runtime.initial store) events = some daemon)
    (now : Time) :
    SettledFailuresBlocked daemon now := by
  have invariant : HoldInvariant daemon :=
    Machine.run_keeps_of_meets
      (fun holds condition step => holds.step condition step)
      (HoldInvariant.initial emptyLog) meets run
  exact invariant.settledFailuresBlocked now

/-- The machine blocks a jammed slot and locks itself in an undisturbed run. -/
theorem settledFailuresBlocked_of_keepsBlocking_jammed :
    SettledFailuresBlocked
        (Runtime.after oneSlotStore
          (journaledRun jammedResult ++ advances 5 106)) 200 ∧
      (Runtime.after oneSlotStore
          (journaledRun jammedResult ++ advances 5 106)).effects =
        [.machineLocked 1, .slotHeld 1 5] :=
  ⟨settledFailuresBlocked_of_keepsBlocking rfl
      (by decide : machine.RunMeets KeepsBlocking
        (Runtime.initial oneSlotStore)
        (journaledRun jammedResult ++ advances 5 106))
      (Runtime.run_after (by decide)) 200,
    by decide⟩

/-- A crash after the journal write, then a start that recovers the journal. -/
def unblockedFailureRun : List Event :=
  journaledRun jammedResult ++ [.crash, .start 200] ++ advances 3 201

/--
A daemon that crashed after journaling a shared-hardware fault settles without
holding the slot and without locking the machine.
-/
theorem settledFailuresBlocked_fails_after_crash :
    ¬ ∀ events daemon now,
      machine.run (Runtime.initial oneSlotStore) events = some daemon →
      SettledFailuresBlocked daemon now := by
  intro always
  have settled := always unblockedFailureRun _ 300
    (Runtime.run_after (by decide))
  have record : ∃ record ∈
      (Runtime.after oneSlotStore
        unblockedFailureRun).store.commandLog.rows,
      record.resultPayload = some jammedResult := by decide
  obtain ⟨record, member, journaled⟩ := record
  have idle :
      (Runtime.after oneSlotStore
        unblockedFailureRun).main.settlement = none := by decide
  have blocked := settled (by decide) (by decide) record member
    jammedResult journaled rfl (by simp [idle])
  have noEffects :
      (Runtime.after oneSlotStore unblockedFailureRun).effects = [] := by
    decide
  rw [noEffects] at blocked
  rcases blocked.held with ⟨slotId, member⟩ | member
  · cases member
  · cases member

end VendingSystem.Daemon
