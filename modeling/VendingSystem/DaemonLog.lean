import VendingSystem.DaemonMachine
import VendingSystem.DaemonCommit

namespace VendingSystem.Daemon

/-!
# How the command log evolves

Every durable step other than pruning keeps a row in the log with its payload,
a command that has started stays started, and a journaled result is never
replaced.
-/

def Store.journaledResult (store : Store) (commandNo : CommandNo) :
    Option DispenseResultPayload :=
  (store.getCommand commandNo).bind CommandLogRecord.resultPayload

namespace CommandLogRecord

/-- The command is active or has a result: it must not be dispensed again. -/
def started (record : CommandLogRecord) : Bool :=
  record.active || record.resultPayload.isSome

/--
A finished status and a commit come with a result, and the payload names the
row.
-/
structure Sound (record : CommandLogRecord) : Prop where
  finishedHasResult :
    record.status = .succeeded ∨ record.status = .failed →
      record.resultPayload.isSome
  committedHasResult :
    record.sideEffectsCommittedAt.isSome → record.resultPayload.isSome
  payloadCommandNo : record.commandPayload.commandNo = record.commandNo

end CommandLogRecord

/-- How the log row under one command number may change in one step. -/
structure RowEvolves (before after : Option CommandLogRecord) : Prop where
  sound :
    (∀ old, before = some old → old.Sound) →
      ∀ record, after = some record → record.Sound
  keeps :
    ∀ old, before = some old →
      ∃ record, after = some record ∧
        record.commandPayload = old.commandPayload ∧
        (old.started = true → record.started = true) ∧
        (∀ result, old.resultPayload = some result →
          record.resultPayload = some result) ∧
        (old.sideEffectsCommittedAt.isSome = true →
          record.sideEffectsCommittedAt.isSome = true)

namespace RowEvolves

theorem refl (row : Option CommandLogRecord) : RowEvolves row row where
  sound := fun sound => sound
  keeps := fun old found =>
    ⟨old, found, rfl, id, fun _ stored => stored, id⟩

end RowEvolves

/-- How the command log may change in one step other than pruning. -/
def LogEvolves (before after : Store) : Prop :=
  ∀ commandNo,
    RowEvolves (before.getCommand commandNo) (after.getCommand commandNo)

namespace LogEvolves

theorem refl (store : Store) : LogEvolves store store :=
  fun commandNo => RowEvolves.refl (store.getCommand commandNo)

theorem of_commandLog_eq
    {before after : Store}
    (same : after.commandLog = before.commandLog) :
    LogEvolves before after := by
  intro commandNo
  unfold Store.getCommand
  rw [same]
  exact RowEvolves.refl _

variable (store : Store)

theorem recordCommandAck
    (command : DispenseCommandPayload)
    (now : Time) :
    LogEvolves store (Daemon.recordCommandAck store command now) := by
  intro commandNo
  rw [getCommand_recordCommandAck]
  by_cases same : commandNo = command.commandNo
  · rw [if_pos same]
    cases found : store.getCommand commandNo with
    | none =>
      refine ⟨?_, by simp⟩
      intro _ record stored
      cases stored
      exact ⟨by simp [CommandLogRecord.acknowledge, receivedRecord],
        by simp [CommandLogRecord.acknowledge, receivedRecord],
        by simp [CommandLogRecord.acknowledge, receivedRecord]⟩
    | some old =>
      refine ⟨?_, ?_⟩
      · intro sound record stored
        cases stored
        have oldSound := sound old rfl
        simp only [Option.getD_some, CommandLogRecord.acknowledge]
        split
        · exact ⟨by simp, oldSound.committedHasResult,
            oldSound.payloadCommandNo⟩
        · exact oldSound
      · intro other stored
        cases stored
        refine ⟨_, rfl, ?_, ?_, ?_, ?_⟩
        · simp only [Option.getD_some, CommandLogRecord.acknowledge]
          split <;> rfl
        · simp only [Option.getD_some, CommandLogRecord.acknowledge]
          split
          · intro _
            simp [CommandLogRecord.started, CommandLogRecord.active]
          · exact id
        · simp only [Option.getD_some, CommandLogRecord.acknowledge]
          split <;> exact fun _ stored => stored
        · simp only [Option.getD_some, CommandLogRecord.acknowledge]
          split <;> exact id
  · rw [if_neg same]
    exact RowEvolves.refl _

theorem markCommandDispensing
    (marked : CommandNo)
    (now : Time) :
    LogEvolves store (Daemon.markCommandDispensing store marked now) := by
  intro commandNo
  rw [getCommand_markCommandDispensing]
  by_cases same : commandNo = marked
  · simp only [same, ↓reduceIte]
    cases found : store.getCommand marked with
    | none => exact RowEvolves.refl _
    | some old =>
      refine ⟨?_, ?_⟩
      · intro sound record stored
        cases stored
        have oldSound := sound old rfl
        simp only [CommandLogRecord.startDispensing]
        split
        · exact ⟨by simp, oldSound.committedHasResult,
            oldSound.payloadCommandNo⟩
        · exact oldSound
      · intro other stored
        cases stored
        refine ⟨_, rfl, ?_, ?_, ?_, ?_⟩
        · simp only [CommandLogRecord.startDispensing]
          split <;> rfl
        · simp only [CommandLogRecord.startDispensing]
          split
          · intro _
            simp [CommandLogRecord.started, CommandLogRecord.active]
          · exact id
        · simp only [CommandLogRecord.startDispensing]
          split <;> exact fun _ stored => stored
        · simp only [CommandLogRecord.startDispensing]
          split <;> exact id
  · simp only [same, ↓reduceIte, Option.map_id']
    exact RowEvolves.refl _

theorem recordCommandResultJournal
    (command : DispenseCommandPayload)
    (result : DispenseResultPayload)
    (now : Time) :
    LogEvolves store
      (Daemon.recordCommandResultJournal store command result now).1 := by
  rcases recordCommandResultJournal_cases store command result now with
    ⟨_, _, _, _, kept⟩ | ⟨noResult, _, rows⟩
  · rw [kept]
    exact LogEvolves.refl store
  · intro commandNo
    rw [rows]
    by_cases same : commandNo = command.commandNo
    · subst same
      rw [if_pos rfl]
      cases found : store.getCommand command.commandNo with
      | none =>
        refine ⟨?_, by simp⟩
        intro _ record stored
        cases stored
        exact ⟨by simp [CommandLogRecord.finish],
          by simp [CommandLogRecord.finish],
          by simp [CommandLogRecord.finish, receivedRecord]⟩
      | some old =>
        rw [found] at noResult
        refine ⟨?_, ?_⟩
        · intro sound record stored
          cases stored
          exact ⟨by simp [CommandLogRecord.finish],
            by simp [CommandLogRecord.finish],
            (sound old rfl).payloadCommandNo⟩
        · intro other stored
          cases stored
          refine ⟨_, rfl, rfl, ?_, ?_, id⟩
          · intro _
            simp [CommandLogRecord.finish, CommandLogRecord.started]
          · intro earlier journaled
            rw [Option.bind_some, journaled] at noResult
            cases noResult
    · rw [if_neg same]
      exact RowEvolves.refl _

theorem commit
    {store next : Store}
    {command : DispenseCommandPayload}
    {result : DispenseResultPayload}
    {preferred : PlanogramVersion × SlotId}
    {now : Time}
    (effects : CommitEffects store command result preferred now next) :
    LogEvolves store next := by
  intro commandNo
  rw [effects.getCommand]
  by_cases same : commandNo = command.commandNo
  · rw [if_pos same]
    cases found : store.getCommand commandNo with
    | none => exact RowEvolves.refl _
    | some old =>
      refine ⟨?_, ?_⟩
      · intro sound record stored
        cases stored
        have journaled := effects.journaled
        rw [← same, found, Option.bind_some] at journaled
        exact ⟨(sound old rfl).finishedHasResult,
          fun _ => by simp [journaled],
          (sound old rfl).payloadCommandNo⟩
      · intro other stored
        cases stored
        exact ⟨_, rfl, rfl, id, fun _ stored => stored, fun _ => rfl⟩
  · rw [if_neg same]
    exact RowEvolves.refl _

end LogEvolves

variable (store : Store)

theorem getCommand_pruneCommandLog
    (now : Time)
    (commandNo : CommandNo) :
    (pruneCommandLog store now).getCommand commandNo =
        store.getCommand commandNo ∨
      (pruneCommandLog store now).getCommand commandNo = none := by
  unfold pruneCommandLog Store.getCommand
  simp only
  rcases Table.find?_deleteWhere_cases _ _ commandNo with kept | removed
  · rw [kept]
    exact Table.find?_deleteWhere_cases _ _ commandNo
  · exact Or.inr removed

theorem getCommand_of_pruned
    {store : Store}
    {now : Time}
    {commandNo : CommandNo}
    {record : CommandLogRecord}
    (found :
      (pruneCommandLog store now).getCommand commandNo = some record) :
    store.getCommand commandNo = some record := by
  rcases getCommand_pruneCommandLog store now commandNo with kept | removed
  · exact kept.symm.trans found
  · rw [removed] at found
    cases found

theorem mem_deletedCommandNos
    {before after : Store}
    {commandNo : CommandNo}
    {record : CommandLogRecord}
    (found : before.getCommand commandNo = some record)
    (removed : after.getCommand commandNo = none) :
    commandNo ∈ deletedCommandNos before after := by
  unfold deletedCommandNos
  rw [List.mem_filter]
  refine ⟨List.mem_map.mpr ⟨record, Table.mem_of_find? found,
    Table.key_of_find? found⟩, ?_⟩
  simp [removed]

/-- The result under which a command's side effects were committed. -/
def Store.committedResult (store : Store) (commandNo : CommandNo) :
    Option DispenseResultPayload :=
  (store.getCommand commandNo).bind fun record =>
    if record.sideEffectsCommittedAt.isSome then record.resultPayload
    else none

theorem CommitEffects.committedResult
    {store next : Store}
    {command : DispenseCommandPayload}
    {result : DispenseResultPayload}
    {preferred : PlanogramVersion × SlotId}
    {now : Time}
    (effects : CommitEffects store command result preferred now next)
    (commandNo : CommandNo) :
    next.committedResult commandNo =
      if commandNo = command.commandNo then some result
      else store.committedResult commandNo := by
  unfold Store.committedResult
  rw [effects.getCommand]
  by_cases same : commandNo = command.commandNo
  · rw [if_pos same, if_pos same, same]
    obtain ⟨record, found, stored⟩ :=
      Option.bind_eq_some_iff.mp effects.journaled
    simp [found, stored]
  · rw [if_neg same, if_neg same]

/-- No command becomes committed, and no committed result changes. -/
def CommitsNothing (before after : Store) : Prop :=
  ∀ commandNo result,
    after.committedResult commandNo = some result →
    before.committedResult commandNo = some result

namespace CommitsNothing

theorem of_commandLog_eq
    {before after : Store}
    (same : after.commandLog = before.commandLog) :
    CommitsNothing before after := by
  intro commandNo result committed
  unfold Store.committedResult Store.getCommand at *
  rw [same] at committed
  exact committed

variable (store : Store)

theorem recordCommandAck
    (command : DispenseCommandPayload)
    (now : Time) :
    CommitsNothing store (Daemon.recordCommandAck store command now) := by
  intro commandNo result committed
  unfold Store.committedResult at *
  rw [getCommand_recordCommandAck] at committed
  by_cases same : commandNo = command.commandNo
  · rw [if_pos same] at committed
    cases found : store.getCommand commandNo with
    | none =>
      rw [found] at committed
      simp [CommandLogRecord.acknowledge, receivedRecord] at committed
    | some old =>
      rw [found] at committed
      simp only [Option.getD_some, Option.bind_some,
        CommandLogRecord.acknowledge] at committed ⊢
      split at committed <;> exact committed
  · rwa [if_neg same] at committed

theorem markCommandDispensing
    (marked : CommandNo)
    (now : Time) :
    CommitsNothing store
      (Daemon.markCommandDispensing store marked now) := by
  intro commandNo result committed
  unfold Store.committedResult at *
  rw [getCommand_markCommandDispensing] at committed
  cases found : store.getCommand commandNo with
  | none =>
    rw [found] at committed
    cases committed
  | some old =>
    rw [found] at committed
    simp only [Option.map_some, Option.bind_some,
      CommandLogRecord.startDispensing] at committed ⊢
    split at committed
    · split at committed <;> exact committed
    · exact committed

theorem recordCommandResultJournal
    {store : Store}
    (sound : ∀ commandNo record,
      store.getCommand commandNo = some record → record.Sound)
    (command : DispenseCommandPayload)
    (result : DispenseResultPayload)
    (now : Time) :
    CommitsNothing store
      (Daemon.recordCommandResultJournal store command result now).1 := by
  rcases recordCommandResultJournal_cases store command result now with
    ⟨_, _, _, _, kept⟩ | ⟨noResult, _, rows⟩
  · rw [kept]
    exact CommitsNothing.of_commandLog_eq rfl
  · intro commandNo other committed
    unfold Store.committedResult at *
    rw [rows] at committed
    by_cases same : commandNo = command.commandNo
    · rw [if_pos same] at committed
      cases found : store.getCommand commandNo with
      | none =>
        rw [found] at committed
        simp [CommandLogRecord.finish, receivedRecord] at committed
      | some old =>
        rw [← same, found, Option.bind_some] at noResult
        have uncommitted : old.sideEffectsCommittedAt.isSome = false := by
          rw [Bool.eq_false_iff]
          intro committedBefore
          have hasResult := (sound commandNo old found).committedHasResult
            committedBefore
          rw [noResult] at hasResult
          cases hasResult
        rw [found] at committed
        simp [CommandLogRecord.finish, uncommitted] at committed
    · rwa [if_neg same] at committed

theorem pruneCommandLog
    (now : Time) :
    CommitsNothing store (Daemon.pruneCommandLog store now) := by
  intro commandNo result committed
  unfold Store.committedResult at *
  obtain ⟨record, found, stored⟩ := Option.bind_eq_some_iff.mp committed
  exact Option.bind_eq_some_iff.mpr ⟨record, getCommand_of_pruned found, stored⟩

end CommitsNothing

theorem settleStep_logEvolves
    (work : Settlement)
    (preferred : PlanogramVersion × SlotId)
    (now : Time) :
    LogEvolves store (settleStep store work preferred now).1 := by
  unfold settleStep
  split
  · split
    · exact LogEvolves.refl store
    · rename_i committed changed result
      exact LogEvolves.commit
        (commitJournaledDispenseSideEffects_effects result)
  · split <;> exact LogEvolves.refl store
  · exact LogEvolves.of_commandLog_eq rfl
  · split <;> exact LogEvolves.refl store
  · split
    · exact LogEvolves.refl store
    · rename_i held result
      apply LogEvolves.of_commandLog_eq
      rw [(updateSlotSalesState_spec result).1]

theorem settleStep_frame
    (work : Settlement)
    (preferred : PlanogramVersion × SlotId)
    (now : Time)
    (notCommit : work.stage ≠ .commit) :
    (settleStep store work preferred now).1 =
      { (settleStep store work preferred now).1 with
        commandLog := store.commandLog
        stockMovements := store.stockMovements
        stockMovementSync := store.stockMovementSync } := by
  unfold settleStep
  split
  · rename_i stage
    exact (notCommit stage).elim
  · split <;> rfl
  · rfl
  · split <;> rfl
  · split
    · rfl
    · rename_i held result
      rw [(updateSlotSalesState_spec result).1]

namespace Runtime

theorem recoverJournaled_logEvolves
    (daemon : Runtime)
    (record : CommandLogRecord)
    (preferred : PlanogramVersion × SlotId)
    (now : Time) :
    LogEvolves daemon.store
      (daemon.recoverJournaled record preferred now).store := by
  unfold recoverJournaled
  split
  · exact LogEvolves.refl _
  · split
    · rename_i committed changed result
      exact LogEvolves.commit
        (commitJournaledDispenseSideEffects_effects result)
    · exact LogEvolves.refl _

@[simp] theorem settle_store
    (daemon : Runtime)
    (work : Settlement)
    (preferred : PlanogramVersion × SlotId)
    (now : Time) :
    (daemon.settle work preferred now).store =
      (settleStep daemon.store work preferred now).1 := by
  unfold settle
  simp only
  split <;> rfl

@[simp] theorem settle_invocations
    (daemon : Runtime)
    (work : Settlement)
    (preferred : PlanogramVersion × SlotId)
    (now : Time) :
    (daemon.settle work preferred now).invocations =
      daemon.invocations := by
  unfold settle
  simp only
  split <;> rfl

@[simp] theorem settle_pruned
    (daemon : Runtime)
    (work : Settlement)
    (preferred : PlanogramVersion × SlotId)
    (now : Time) :
    (daemon.settle work preferred now).pruned = daemon.pruned := by
  unfold settle
  simp only
  split <;> rfl

@[simp] theorem settle_worker
    (daemon : Runtime)
    (work : Settlement)
    (preferred : PlanogramVersion × SlotId)
    (now : Time) :
    (daemon.settle work preferred now).worker = daemon.worker := by
  unfold settle
  simp only
  split <;> rfl

@[simp] theorem settle_effects
    (daemon : Runtime)
    (work : Settlement)
    (preferred : PlanogramVersion × SlotId)
    (now : Time) :
    (daemon.settle work preferred now).effects =
      daemon.effects ++
        settleEffects work (settleStep daemon.store work preferred now).1
          (settleStep daemon.store work preferred now).2 := by
  unfold settle
  simp only

theorem recoverJournaled_frame
    (daemon : Runtime)
    (record : CommandLogRecord)
    (preferred : PlanogramVersion × SlotId)
    (now : Time) :
    daemon.recoverJournaled record preferred now =
      { daemon with
        store := (daemon.recoverJournaled record preferred now).store
        committedChanges :=
          (daemon.recoverJournaled
            record preferred now).committedChanges } := by
  unfold recoverJournaled
  split
  · rfl
  · split <;> rfl

end Runtime

variable {event : Event} {daemon next : Runtime}

theorem step_logEvolves
    (step : daemon.step event = some next)
    (notStart : ∀ now, event ≠ .start now) :
    LogEvolves daemon.store next.store := by
  cases event with
  | start now => exact (notStart now rfl).elim
  | deliver command =>
    simp only [Runtime.step] at step
    split at step <;> cases step
    exact LogEvolves.refl _
  | advance now preferred =>
    simp only [Runtime.step, Runtime.advance] at step
    split at step
    case h_1 | h_2 | h_3 => cases step
    case h_4 => cases step; exact LogEvolves.refl _
    case h_5 =>
        cases step
        exact Runtime.recoverJournaled_logEvolves daemon _ preferred now
    case h_6 => cases step; exact LogEvolves.refl _
    case h_7 =>
        split at step <;> cases step
        · exact LogEvolves.recordCommandResultJournal _ _ _ _
        · exact LogEvolves.refl _
    case h_8 =>
        cases step
        simp only [Runtime.settle_store]
        exact settleStep_logEvolves _ _ _ _
    case h_9 => cases step; exact LogEvolves.refl _
    case h_10 =>
        cases step
        exact LogEvolves.recordCommandAck _ _ _
    case h_11 =>
        cases step
        exact LogEvolves.markCommandDispensing _ _ _
    case h_12 => cases step; exact LogEvolves.refl _
    case h_13 =>
        cases step
        exact LogEvolves.recordCommandResultJournal _ _ _ _
    case h_14 =>
        cases step
        simp only [Runtime.settle_store]
        exact settleStep_logEvolves _ _ _ _
  | hardwareAnswers result =>
    simp only [Runtime.step] at step
    split at step <;> cases step
    exact LogEvolves.refl _
  | giveUp =>
    simp only [Runtime.step, Runtime.giveUp] at step
    split at step <;> cases step <;> exact LogEvolves.refl _
  | crash =>
    cases step
    exact LogEvolves.refl _
  | workerScan =>
    simp only [Runtime.step] at step
    split at step <;> cases step
    exact LogEvolves.refl _
  | workerAdvance now preferred =>
    simp only [Runtime.step] at step
    split at step <;> cases step
    · exact LogEvolves.refl _
    · exact Runtime.recoverJournaled_logEvolves daemon _ preferred now
  | workerGiveUp =>
    cases step
    exact LogEvolves.refl _
  | recordStockMovement input upload now =>
    simp only [Runtime.step] at step
    split at step <;> cases step
    · rename_i recorded reported result
      exact LogEvolves.of_commandLog_eq
        (recordStockMovementWithUpload_leaves result).commandLog
    · exact LogEvolves.refl _
  | pruneStockMovements protectedIds cutoff =>
    cases step
    exact LogEvolves.of_commandLog_eq rfl
  | otherActivity after =>
    obtain ⟨rfl, commandLog, _⟩ := Runtime.step_otherActivity step
    exact LogEvolves.of_commandLog_eq commandLog

/-- Only a start deletes log rows. -/
theorem step_pruned
    (step : daemon.step event = some next)
    (notStart : ∀ now, event ≠ .start now) :
    next.pruned = daemon.pruned := by
  cases event with
  | start now => exact (notStart now rfl).elim
  | advance now preferred =>
    simp only [Runtime.step, Runtime.advance] at step
    split at step
    case h_5 =>
        cases step
        simp only
        rw [Runtime.recoverJournaled_frame]
    case h_7 =>
        split at step <;> cases step <;> rfl
    case h_8 | h_14 =>
        cases step
        simp
    all_goals cases step
    all_goals rfl
  | workerAdvance now preferred =>
    simp only [Runtime.step] at step
    split at step <;> cases step
    · rfl
    · simp only
      rw [Runtime.recoverJournaled_frame]
  | recordStockMovement input upload now =>
    simp only [Runtime.step] at step
    split at step <;> cases step <;> rfl
  | giveUp =>
    simp only [Runtime.step, Runtime.giveUp] at step
    split at step <;> cases step <;> rfl
  | deliver _
  | hardwareAnswers _
  | workerScan
  | otherActivity _ =>
    simp only [Runtime.step] at step
    split at step <;> cases step
    rfl
  | crash
  | workerGiveUp
  | pruneStockMovements _ _ =>
    cases step
    rfl

end VendingSystem.Daemon
