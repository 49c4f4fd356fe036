import VendingSystem.DaemonLog

namespace VendingSystem.Daemon

/-!
# At most one physical dispense per command

The handler reaches the hardware only through a lookup that found the command
not started, and no step other than pruning makes a started command look new.
-/

/-- The command on its way to the hardware. -/
def MainPhase.commandToDispense : MainPhase → Option CommandNo
  | .acknowledge command
  | .markDispensing command
  | .dispense command => some command.commandNo
  | _ => none

/-- The acknowledged command on its way to the hardware. -/
def MainPhase.acknowledgedCommand : MainPhase → Option CommandNo
  | .markDispensing command
  | .dispense command => some command.commandNo
  | _ => none

/-- The log holds a started row for the command. -/
def Store.hasStarted (store : Store) (commandNo : CommandNo) : Prop :=
  ∃ record, store.getCommand commandNo = some record ∧
    record.started = true

variable {commandNo : CommandNo} {after before : Store}
  {result : DispenseResultPayload}

theorem LogEvolves.hasStarted
    (evolves : LogEvolves before after)
    (started : before.hasStarted commandNo) :
    after.hasStarted commandNo := by
  obtain ⟨record, found, isStarted⟩ := started
  obtain ⟨later, laterFound, _, keepsStarted, _⟩ :=
    (evolves commandNo).keeps record found
  exact ⟨later, laterFound, keepsStarted isStarted⟩

theorem LogEvolves.journaledResult
    (evolves : LogEvolves before after)
    (journaled : before.journaledResult commandNo = some result) :
    after.journaledResult commandNo = some result := by
  obtain ⟨record, found, stored⟩ := Option.bind_eq_some_iff.mp journaled
  obtain ⟨later, laterFound, _, _, keepsResult, _⟩ :=
    (evolves commandNo).keeps record found
  exact Option.bind_eq_some_iff.mpr
    ⟨later, laterFound, keepsResult result stored⟩

/-- What keeps a command from reaching the hardware twice. -/
structure DispenseInvariant (daemon : Runtime) : Prop where
  sound : ∀ commandNo record,
    daemon.store.getCommand commandNo = some record → record.Sound
  invokedStarted : ∀ commandNo, commandNo ∈ daemon.invocations →
    commandNo ∉ daemon.pruned → daemon.store.hasStarted commandNo
  invokedOnce : ∀ commandNo, commandNo ∉ daemon.pruned →
    daemon.invocations.count commandNo ≤ 1
  pendingFresh : ∀ commandNo,
    daemon.main.commandToDispense = some commandNo →
    commandNo ∉ daemon.pruned → commandNo ∉ daemon.invocations
  pendingStarted : ∀ commandNo,
    daemon.main.acknowledgedCommand = some commandNo →
    daemon.store.hasStarted commandNo

namespace DispenseInvariant

variable {daemon next : Runtime} {command : DispenseCommandPayload}
  {store : Store}

/-- A step without a dispense only has to justify the phase it leads to. -/
theorem transfer
    (invariant : DispenseInvariant daemon)
    (evolves : LogEvolves daemon.store next.store)
    (sameInvocations : next.invocations = daemon.invocations)
    (samePruned : next.pruned = daemon.pruned)
    (fresh : ∀ commandNo,
      next.main.commandToDispense = some commandNo →
      commandNo ∉ daemon.pruned → commandNo ∉ daemon.invocations)
    (acknowledged : ∀ commandNo,
      next.main.acknowledgedCommand = some commandNo →
      next.store.hasStarted commandNo) :
    DispenseInvariant next where
  sound := by
    intro commandNo record found
    exact (evolves commandNo).sound
      (fun old stored => invariant.sound commandNo old stored) record found
  invokedStarted := by
    intro commandNo invoked notPruned
    rw [sameInvocations] at invoked
    rw [samePruned] at notPruned
    exact evolves.hasStarted
      (invariant.invokedStarted commandNo invoked notPruned)
  invokedOnce := by
    intro commandNo notPruned
    rw [samePruned] at notPruned
    rw [sameInvocations]
    exact invariant.invokedOnce commandNo notPruned
  pendingFresh := by
    intro commandNo pending notPruned
    rw [samePruned] at notPruned
    rw [sameInvocations]
    exact fresh commandNo pending notPruned
  pendingStarted := acknowledged

/-- A step to a phase without a command on its way to the hardware. -/
theorem transfer_noPending
    (invariant : DispenseInvariant daemon)
    (evolves : LogEvolves daemon.store next.store)
    (sameInvocations : next.invocations = daemon.invocations)
    (samePruned : next.pruned = daemon.pruned)
    (noPending : next.main.commandToDispense = none) :
    DispenseInvariant next := by
  refine invariant.transfer evolves sameInvocations samePruned ?_ ?_
  · intro commandNo pending
    rw [noPending] at pending
    cases pending
  · intro commandNo acknowledged
    have noAcknowledged : next.main.acknowledgedCommand = none := by
      cases shape : next.main <;> rw [shape] at noPending <;>
        simp_all [MainPhase.commandToDispense,
          MainPhase.acknowledgedCommand]
    rw [noAcknowledged] at acknowledged
    cases acknowledged

theorem transfer_sameMain
    (invariant : DispenseInvariant daemon)
    (evolves : LogEvolves daemon.store next.store)
    (sameInvocations : next.invocations = daemon.invocations)
    (samePruned : next.pruned = daemon.pruned)
    (sameMain : next.main = daemon.main) :
    DispenseInvariant next := by
  refine invariant.transfer evolves sameInvocations samePruned ?_ ?_
  · intro commandNo pending
    rw [sameMain] at pending
    exact invariant.pendingFresh commandNo pending
  · intro commandNo acknowledged
    rw [sameMain] at acknowledged
    exact evolves.hasStarted (invariant.pendingStarted commandNo acknowledged)

theorem lookUp_fresh
    (invariant : DispenseInvariant daemon)
    (pending :
      (daemon.lookUpCommand command).commandToDispense = some commandNo)
    (notPruned : commandNo ∉ daemon.pruned) :
    commandNo ∉ daemon.invocations := by
  intro invoked
  obtain ⟨record, found, started⟩ :=
    invariant.invokedStarted commandNo invoked notPruned
  unfold Runtime.lookUpCommand at pending
  split at pending
  · rename_i absent
    cases pending
    rw [absent] at found
    cases found
  · rename_i existing stored
    split at pending
    · cases pending
    · split at pending
      · cases pending
      · rename_i noResult
        split at pending
        · cases pending
        · rename_i inactive
          cases pending
          rw [stored] at found
          cases found
          simp [CommandLogRecord.started, noResult, inactive] at started

theorem lookUpCommand_acknowledged
    (acknowledged :
      (daemon.lookUpCommand command).acknowledgedCommand = some commandNo) :
    False := by
  unfold Runtime.lookUpCommand at acknowledged
  split at acknowledged
  · cases acknowledged
  · split at acknowledged
    · cases acknowledged
    · split at acknowledged
      · cases acknowledged
      · split at acknowledged <;> cases acknowledged

theorem recordCommandAck_hasStarted
    (sound : ∀ commandNo record,
      store.getCommand commandNo = some record → record.Sound)
    (command : DispenseCommandPayload)
    (now : Time) :
    (recordCommandAck store command now).hasStarted command.commandNo := by
  refine ⟨_, by rw [getCommand_recordCommandAck, if_pos rfl], ?_⟩
  cases found : store.getCommand command.commandNo with
  | none =>
    simp [CommandLogRecord.acknowledge, receivedRecord,
      CommandLogRecord.started, CommandLogRecord.active]
  | some old =>
    have oldSound := sound command.commandNo old found
    simp only [Option.getD_some, CommandLogRecord.acknowledge]
    split
    · simp [CommandLogRecord.started, CommandLogRecord.active]
    · rename_i notReceived
      cases status : old.status <;>
        simp [status, CommandLogRecord.started, CommandLogRecord.active]
          at notReceived ⊢
      · exact oldSound.finishedHasResult (Or.inl status)
      · exact oldSound.finishedHasResult (Or.inr status)

theorem dispense
    (invariant : DispenseInvariant daemon)
    (phase : daemon.main = .dispense command) :
    DispenseInvariant
      { daemon with
        invocations := daemon.invocations ++ [command.commandNo]
        main := .awaitHardware command } where
  sound := invariant.sound
  invokedStarted := by
    intro commandNo invoked notPruned
    rcases List.mem_append.mp invoked with earlier | now
    · exact invariant.invokedStarted commandNo earlier notPruned
    · rw [List.mem_singleton.mp now]
      exact invariant.pendingStarted command.commandNo (by rw [phase]; rfl)
  invokedOnce := by
    intro commandNo notPruned
    rw [List.count_append]
    by_cases same : commandNo = command.commandNo
    · subst same
      have fresh := invariant.pendingFresh command.commandNo
        (by rw [phase]; rfl) notPruned
      simp [List.count_eq_zero.mpr fresh]
    · have once := invariant.invokedOnce commandNo notPruned
      simpa [List.count_singleton, Ne.symm same] using once
  pendingFresh := by
    intro commandNo pending
    cases pending
  pendingStarted := by
    intro commandNo acknowledged
    cases acknowledged

/-- Starting the daemon prunes the log and remembers what it deleted. -/
theorem start
    (invariant : DispenseInvariant daemon)
    (now : Time)
    (remaining : List CommandLogRecord) :
    DispenseInvariant
      { daemon with
        store := pruneCommandLog daemon.store now
        main := .startupJournal remaining
        pruned := daemon.pruned ++
          deletedCommandNos daemon.store
            (pruneCommandLog daemon.store now) } where
  sound := by
    intro commandNo record found
    exact invariant.sound commandNo record (getCommand_of_pruned found)
  invokedStarted := by
    intro commandNo invoked notPruned
    rw [List.mem_append, not_or] at notPruned
    obtain ⟨record, found, started⟩ :=
      invariant.invokedStarted commandNo invoked notPruned.1
    rcases getCommand_pruneCommandLog daemon.store now commandNo with
      kept | removed
    · exact ⟨record, kept.trans found, started⟩
    · exact (notPruned.2 (mem_deletedCommandNos found removed)).elim
  invokedOnce := by
    intro commandNo notPruned
    rw [List.mem_append, not_or] at notPruned
    exact invariant.invokedOnce commandNo notPruned.1
  pendingFresh := by
    intro commandNo pending
    cases pending
  pendingStarted := by
    intro commandNo acknowledged
    cases acknowledged

/-- Every step of the daemon keeps the dispense invariant. -/
theorem step
    {event : Event}
    (invariant : DispenseInvariant daemon)
    (step : daemon.step event = some next) :
    DispenseInvariant next := by
  cases event with
  | start now =>
    simp only [Runtime.step] at step
    split at step <;> cases step
    exact invariant.start now _
  | advance now preferred =>
    have evolves := step_logEvolves step (by simp)
    simp only [Runtime.step, Runtime.advance] at step
    split at step
    case h_1 | h_2 | h_3 => cases step
    case h_4 | h_6 =>
        cases step
        exact invariant.transfer_noPending evolves rfl rfl rfl
    case h_5 =>
        cases step
        refine invariant.transfer_noPending evolves ?_ ?_ rfl <;>
          simp only <;> rw [Runtime.recoverJournaled_frame]
    case h_7 =>
        split at step
        · cases step
          refine invariant.transfer_noPending evolves rfl rfl ?_
          simp only
          split <;> rfl
        · cases step
          exact invariant.transfer_noPending evolves rfl rfl rfl
    case h_8 =>
        cases step
        refine invariant.transfer_noPending evolves (by simp) (by simp) ?_
        simp only
        split <;> rfl
    case h_9 =>
        cases step
        refine invariant.transfer evolves rfl rfl
          (fun _ => invariant.lookUp_fresh) ?_
        intro commandNo acknowledged
        exact (lookUpCommand_acknowledged acknowledged).elim
    case h_10 command phase =>
        cases step
        refine invariant.transfer evolves rfl rfl ?_ ?_
        · intro commandNo pending
          exact invariant.pendingFresh commandNo (by rw [phase]; exact pending)
        · intro commandNo acknowledged
          cases acknowledged
          exact recordCommandAck_hasStarted invariant.sound command now
    case h_11 command phase =>
        cases step
        refine invariant.transfer evolves rfl rfl ?_ ?_
        · intro commandNo pending
          exact invariant.pendingFresh commandNo (by rw [phase]; exact pending)
        · intro commandNo acknowledged
          exact evolves.hasStarted
            (invariant.pendingStarted commandNo
              (by rw [phase]; exact acknowledged))
    case h_12 command phase =>
        cases step
        exact invariant.dispense phase
    case h_13 =>
        cases step
        exact invariant.transfer_noPending evolves rfl rfl rfl
    case h_14 =>
        cases step
        refine invariant.transfer_noPending evolves (by simp) (by simp) ?_
        simp only
        split <;> rfl
  | deliver command =>
    have evolves := step_logEvolves step (by simp)
    simp only [Runtime.step] at step
    split at step <;> cases step
    exact invariant.transfer_noPending evolves rfl rfl rfl
  | hardwareAnswers result =>
    have evolves := step_logEvolves step (by simp)
    simp only [Runtime.step] at step
    split at step <;> cases step
    exact invariant.transfer_noPending evolves rfl rfl rfl
  | giveUp =>
    have evolves := step_logEvolves step (by simp)
    simp only [Runtime.step, Runtime.giveUp] at step
    split at step <;> cases step <;>
      exact invariant.transfer_noPending evolves rfl rfl rfl
  | crash =>
    have evolves := step_logEvolves step (by simp)
    cases step
    exact invariant.transfer_noPending evolves rfl rfl rfl
  | workerScan =>
    have evolves := step_logEvolves step (by simp)
    simp only [Runtime.step] at step
    split at step <;> cases step
    exact invariant.transfer_sameMain evolves rfl rfl rfl
  | workerAdvance now preferred =>
    have evolves := step_logEvolves step (by simp)
    simp only [Runtime.step] at step
    split at step <;> cases step
    · exact invariant.transfer_sameMain evolves rfl rfl rfl
    · refine invariant.transfer_sameMain evolves ?_ ?_ ?_ <;>
        simp only <;> rw [Runtime.recoverJournaled_frame]
  | workerGiveUp =>
    have evolves := step_logEvolves step (by simp)
    cases step
    exact invariant.transfer_sameMain evolves rfl rfl rfl
  | recordStockMovement input upload now =>
    have evolves := step_logEvolves step (by simp)
    simp only [Runtime.step] at step
    split at step <;> cases step
    · exact invariant.transfer_sameMain evolves rfl rfl rfl
    · exact invariant
  | pruneStockMovements protectedIds cutoff =>
    have evolves := step_logEvolves step (by simp)
    cases step
    exact invariant.transfer_sameMain evolves rfl rfl rfl
  | otherActivity after =>
    have evolves := step_logEvolves step (by simp)
    simp only [Runtime.step] at step
    split at step <;> cases step
    exact invariant.transfer_sameMain evolves rfl rfl rfl

theorem initial
    (sound : ∀ record ∈ store.commandLog, record.Sound) :
    DispenseInvariant (Runtime.initial store) where
  sound := fun _ record found => sound record (Table.mem_of_find? found)
  invokedStarted := by simp [Runtime.initial]
  invokedOnce := by simp [Runtime.initial]
  pendingFresh := by simp [Runtime.initial]
  pendingStarted := by
    intro commandNo acknowledged
    cases acknowledged

end DispenseInvariant

theorem step_journaledResult
    {daemon next : Runtime}
    {event : Event}
    (kept :
      commandNo ∈ daemon.pruned ∨
        daemon.store.journaledResult commandNo = some result)
    (step : machine.step daemon event = some next) :
    commandNo ∈ next.pruned ∨
      next.store.journaledResult commandNo = some result := by
  by_cases isStart : ∃ now, event = .start now
  · obtain ⟨now, rfl⟩ := isStart
    simp only [machine, Runtime.step] at step
    split at step <;> cases step
    simp only [List.mem_append]
    rcases kept with pruned | journaled
    · exact Or.inl (Or.inl pruned)
    · obtain ⟨record, found, stored⟩ := Option.bind_eq_some_iff.mp journaled
      rcases getCommand_pruneCommandLog daemon.store now commandNo with
        same | removed
      · exact Or.inr
          (Option.bind_eq_some_iff.mpr ⟨record, same.trans found, stored⟩)
      · exact Or.inl (Or.inr (mem_deletedCommandNos found removed))
  · have notStart : ∀ now, event ≠ .start now :=
      fun now same => isStart ⟨now, same⟩
    rw [step_pruned step notStart]
    exact kept.imp id
      (fun journaled => (step_logEvolves step notStart).journaledResult journaled)

/--
In every run, a command is handed to the hardware at most once while its log
row was not deleted, and its journaled result is never replaced.
-/
theorem physicalDispense_atMostOnce
    {store : Store}
    (sound : ∀ record ∈ store.commandLog, record.Sound)
    {daemon : Runtime}
    (reached : machine.Reaches (Runtime.initial store) daemon)
    (commandNo : CommandNo) :
    (commandNo ∉ daemon.pruned →
      daemon.invocations.count commandNo ≤ 1) ∧
    ∀ result later,
      daemon.store.journaledResult commandNo = some result →
      machine.Reaches daemon later →
      commandNo ∉ later.pruned →
      later.store.journaledResult commandNo = some result := by
  have invariant : DispenseInvariant daemon :=
    reached.keeps (fun holds step => holds.step step)
      (DispenseInvariant.initial sound)
  refine ⟨invariant.invokedOnce commandNo, ?_⟩
  intro result later journaled reaches notPruned
  have kept :
      commandNo ∈ later.pruned ∨
        later.store.journaledResult commandNo = some result :=
    reaches.keeps (fun holds step => step_journaledResult holds step)
      (Or.inr journaled)
  exact kept.resolve_left notPruned

/-- A crash and a redelivery after the journal write dispense nothing more. -/
theorem physicalDispense_atMostOnce_redelivered :
    (Runtime.after oneSlotStore
      (journaledRun dispensedResult ++ [.crash, .start 200] ++
        advances 3 201 ++ [.deliver oneSlotCommand] ++
        advances 1 202)).invocations.count 1 ≤ 1 :=
  (physicalDispense_atMostOnce
    (fun record member => (Table.not_mem_empty record member).elim)
    ⟨_, Runtime.run_after (by decide)⟩ 1).1 (by decide)

end VendingSystem.Daemon
