import VendingSystem.DaemonLog

namespace VendingSystem.Daemon

/-!
# Exactly-once dispense accounting

The movement identifier of a dispense names its command.  A command has its
movement, and its commits have taken its quantity off one slot, exactly when
its success is committed.  The payload of a commit was read earlier; it is
still the logged one, since a logged payload never changes.
-/

/-- The logged commands that the main task still works with. -/
def MainPhase.knownCommands : MainPhase → List DispenseCommandPayload
  | .down
  | .idle
  | .lookUp _
  | .acknowledge _ => []
  | .startupJournal remaining
  | .startupStale remaining =>
    remaining.map CommandLogRecord.commandPayload
  | .startupSettling work remaining =>
    work.command :: remaining.map CommandLogRecord.commandPayload
  | .markDispensing command
  | .dispense command
  | .awaitHardware command
  | .journal command _ => [command]
  | .settling work => [work.command]

/-- The logged commands that the recovery worker still works with. -/
def Runtime.workerCommands (daemon : Runtime) :
    List DispenseCommandPayload :=
  (daemon.worker.getD []).map CommandLogRecord.commandPayload

/-- The log holds the command under its number. -/
def Store.logs (store : Store) (command : DispenseCommandPayload) : Prop :=
  ∃ record, store.getCommand command.commandNo = some record ∧
    record.commandPayload = command

/-- The log does not hold a different command under the same number. -/
def Store.admits (store : Store) (command : DispenseCommandPayload) : Prop :=
  ∀ record, store.getCommand command.commandNo = some record →
    record.commandPayload = command

variable {command : DispenseCommandPayload} {after before store : Store}
  {record : CommandLogRecord} {result : DispenseResultPayload}
  {preferred : PlanogramVersion × SlotId} {now : Time} {commandNo : CommandNo}
  {daemon next : Runtime} {event : Event}

theorem LogEvolves.logs
    (evolves : LogEvolves before after)
    (logged : before.logs command) :
    after.logs command := by
  obtain ⟨record, found, payload⟩ := logged
  obtain ⟨later, laterFound, samePayload, _⟩ :=
    (evolves command.commandNo).keeps record found
  exact ⟨later, laterFound, samePayload.trans payload⟩

/-- Every row is sound, and the commands in hand are the logged ones. -/
structure LoggedInvariant (daemon : Runtime) : Prop where
  sound : ∀ commandNo record,
    daemon.store.getCommand commandNo = some record → record.Sound
  main : ∀ command ∈ daemon.main.knownCommands, daemon.store.logs command
  worker : ∀ command ∈ daemon.workerCommands, daemon.store.logs command
  acknowledging : ∀ command, daemon.main = .acknowledge command →
    daemon.store.admits command
  workerRuns : daemon.main.running = false → daemon.worker = none

theorem logs_of_mem
    (sound : ∀ commandNo record,
      store.getCommand commandNo = some record → record.Sound)
    (member : record ∈ store.commandLog.rows) :
    store.logs record.commandPayload := by
  have found : store.getCommand record.commandNo = some record :=
    Table.find?_of_mem member
  have payload := (sound record.commandNo record found).payloadCommandNo
  exact ⟨record, by rw [payload]; exact found, rfl⟩

theorem mem_listJournaledCommandsPendingSideEffects
    (member : record ∈ listJournaledCommandsPendingSideEffects store) :
    record ∈ store.commandLog.rows := by
  unfold listJournaledCommandsPendingSideEffects at member
  rw [List.mem_insertionSort] at member
  exact (List.mem_filter.mp member).1

theorem mem_listActiveUnfinishedCommands
    (member : record ∈ listActiveUnfinishedCommands store) :
    record ∈ store.commandLog.rows := by
  unfold listActiveUnfinishedCommands at member
  rw [List.mem_insertionSort] at member
  exact (List.mem_filter.mp member).1

theorem CommitEffects.admits
    {next : Store}
    (effects : CommitEffects store command result preferred now next)
    {other : DispenseCommandPayload}
    (admitted : store.admits other) :
    next.admits other := by
  intro record found
  rw [effects.getCommand] at found
  split at found
  · obtain ⟨old, oldFound, rfl⟩ := Option.map_eq_some_iff.mp found
    exact admitted old oldFound
  · exact admitted record found

theorem Runtime.recoverJournaled_admits
    (daemon : Runtime)
    (record : CommandLogRecord)
    (preferred : PlanogramVersion × SlotId)
    (now : Time)
    (admitted : daemon.store.admits command) :
    (daemon.recoverJournaled record preferred now).store.admits
      command := by
  unfold recoverJournaled
  split
  · exact admitted
  · split
    · rename_i committed changed result
      exact (commitJournaledDispenseSideEffects_effects result).admits admitted
    · exact admitted

theorem recordCommandAck_logs
    (admitted : store.admits command)
    (now : Time) :
    (recordCommandAck store command now).logs command := by
  refine ⟨_, by rw [getCommand_recordCommandAck, if_pos rfl], ?_⟩
  cases found : store.getCommand command.commandNo with
  | none => rfl
  | some record =>
    simp only [Option.getD_some, CommandLogRecord.acknowledge]
    split <;> exact admitted record found

namespace LoggedInvariant

variable {daemon next : Runtime}

theorem transfer
    (invariant : LoggedInvariant daemon)
    (evolves : LogEvolves daemon.store next.store)
    (main : ∀ command ∈ next.main.knownCommands,
      command ∈ daemon.main.knownCommands ∨ next.store.logs command)
    (worker : ∀ command ∈ next.workerCommands,
      command ∈ daemon.workerCommands ∨ next.store.logs command)
    (acknowledging : ∀ command, next.main = .acknowledge command →
      next.store.admits command)
    (workerRuns : next.main.running = false → next.worker = none) :
    LoggedInvariant next where
  sound := fun commandNo record found => (evolves commandNo).sound
    (fun old stored => invariant.sound commandNo old stored) record found
  main := by
    intro command member
    rcases main command member with before | logged
    · exact evolves.logs (invariant.main command before)
    · exact logged
  worker := by
    intro command member
    rcases worker command member with before | logged
    · exact evolves.logs (invariant.worker command before)
    · exact logged
  acknowledging := acknowledging
  workerRuns := workerRuns

theorem transfer_main
    (invariant : LoggedInvariant daemon)
    (evolves : LogEvolves daemon.store next.store)
    (sameWorker : next.worker = daemon.worker)
    (main : ∀ command ∈ next.main.knownCommands,
      command ∈ daemon.main.knownCommands ∨ next.store.logs command)
    (acknowledging : ∀ command, next.main = .acknowledge command →
      next.store.admits command)
    (stillRuns : next.main.running = false →
      daemon.main.running = false) :
    LoggedInvariant next := by
  refine invariant.transfer evolves main ?_ acknowledging ?_
  · intro command member
    unfold Runtime.workerCommands at *
    rw [sameWorker] at member
    exact Or.inl member
  · intro notRunning
    rw [sameWorker]
    exact invariant.workerRuns (stillRuns notRunning)

theorem transfer_beside
    (invariant : LoggedInvariant daemon)
    (evolves : LogEvolves daemon.store next.store)
    (sameMain : next.main = daemon.main)
    (worker : ∀ command ∈ next.workerCommands,
      command ∈ daemon.workerCommands ∨ next.store.logs command)
    (admits : ∀ command, daemon.store.admits command →
      next.store.admits command)
    (workerRuns : daemon.main.running = false → next.worker = none) :
    LoggedInvariant next := by
  refine invariant.transfer evolves ?_ worker ?_ ?_
  · intro command member
    rw [sameMain] at member
    exact Or.inl member
  · intro command phase
    rw [sameMain] at phase
    exact admits command (invariant.acknowledging command phase)
  · intro notRunning
    rw [sameMain] at notRunning
    exact workerRuns notRunning

theorem transfer_commandLog
    (invariant : LoggedInvariant daemon)
    (same : after.commandLog = daemon.store.commandLog) :
    LoggedInvariant { daemon with store := after } := by
  refine invariant.transfer_beside (LogEvolves.of_commandLog_eq same) rfl
    (fun _ member => Or.inl member) ?_ invariant.workerRuns
  intro command admitted record found
  unfold Store.getCommand at found
  rw [same] at found
  exact admitted record found

theorem lookUpCommand_running
    (daemon : Runtime)
    (command : DispenseCommandPayload) :
    (daemon.lookUpCommand command).running = true := by
  unfold Runtime.lookUpCommand
  split
  · rfl
  · split
    · rfl
    · split
      · rfl
      · split <;> rfl

/-- A looked-up command is admitted or already logged. -/
theorem lookUp
    (daemon : Runtime)
    (command : DispenseCommandPayload) :
    (∀ known ∈ (daemon.lookUpCommand command).knownCommands,
      daemon.store.logs known) ∧
    ∀ other, daemon.lookUpCommand command = .acknowledge other →
      daemon.store.admits other := by
  unfold Runtime.lookUpCommand
  split
  · rename_i absent
    refine ⟨by simp [MainPhase.knownCommands], ?_⟩
    intro other phase record found
    cases phase
    rw [absent] at found
    cases found
  · rename_i existing stored
    split
    · exact ⟨by simp [MainPhase.knownCommands], by simp⟩
    · rename_i samePayload
      have payload : existing.commandPayload = command := by
        simpa using samePayload
      split
      · refine ⟨?_, by simp⟩
        intro known member
        simp only [MainPhase.knownCommands, List.mem_singleton] at member
        subst member
        exact ⟨existing, stored, payload⟩
      · split
        · exact ⟨by simp [MainPhase.knownCommands], by simp⟩
        · refine ⟨by simp [MainPhase.knownCommands], ?_⟩
          intro other phase record found
          cases phase
          rw [stored] at found
          cases found
          exact payload

/-- The next durable step of the main task keeps the commands logged. -/
theorem advance
    (invariant : LoggedInvariant daemon)
    (step : daemon.step (.advance now preferred) = some next) :
    LoggedInvariant next := by
  have evolves := step_logEvolves step (by simp)
  simp only [Runtime.step, Runtime.advance] at step
  split at step
  case h_1 | h_2 | h_3 => cases step
  case h_4 phase =>
      cases step
      refine invariant.transfer_main evolves rfl ?_ (by simp)
        (by simp [phase, MainPhase.running])
      intro command member
      obtain ⟨record, listed, rfl⟩ := List.mem_map.mp member
      exact Or.inr (logs_of_mem invariant.sound
        (mem_listActiveUnfinishedCommands listed))
  case h_5 record remaining phase =>
      cases step
      refine invariant.transfer_main evolves ?_ ?_ (by simp)
        (by simp [phase, MainPhase.running])
      · simp only
        rw [Runtime.recoverJournaled_frame]
      · intro command member
        rw [phase]
        exact Or.inl (List.mem_cons_of_mem _ member)
  case h_6 phase =>
      cases step
      exact invariant.transfer_main evolves rfl
        (by simp [MainPhase.knownCommands]) (by simp)
        (by simp [phase, MainPhase.running])
  case h_7 record remaining phase =>
      have known : ∀ command,
          command = record.commandPayload ∨
            command ∈ remaining.map CommandLogRecord.commandPayload →
          command ∈ daemon.main.knownCommands := by
        intro command member
        rw [phase]
        simpa [MainPhase.knownCommands] using member
      split at step
      · cases step
        refine invariant.transfer_main evolves rfl ?_ ?_
          (by simp [phase, MainPhase.running])
        · intro command member
          simp only at member
          split at member
          · exact Or.inl (known command (by
              simpa [MainPhase.knownCommands] using member))
          · exact Or.inl (known command (Or.inr member))
        · intro command
          simp only
          split <;> simp
      · cases step
        refine invariant.transfer_main evolves rfl ?_ (by simp)
          (by simp [phase, MainPhase.running])
        intro command member
        exact Or.inl (known command (Or.inr member))
  case h_8 work remaining phase =>
      cases step
      refine invariant.transfer_main evolves (by simp) ?_ ?_
        (by simp [phase, MainPhase.running])
      · intro command member
        rw [phase]
        simp only at member
        split at member
        · exact Or.inl member
        · exact Or.inl (List.mem_cons_of_mem _ member)
        · cases member
      · intro command
        simp only
        split <;> simp
  case h_9 command phase =>
      cases step
      obtain ⟨known, admitted⟩ := lookUp daemon command
      exact invariant.transfer_main evolves rfl
        (fun other member => Or.inr (known other member)) admitted
        (by simp [lookUpCommand_running])
  case h_10 command phase =>
      cases step
      refine invariant.transfer_main evolves rfl ?_ (by simp)
        (by simp [MainPhase.running])
      intro other member
      simp only [MainPhase.knownCommands, List.mem_singleton] at member
      subst member
      exact Or.inr (recordCommandAck_logs
        (invariant.acknowledging other phase) now)
  case h_11 command phase | h_12 command phase =>
      cases step
      refine invariant.transfer_main evolves rfl ?_ (by simp)
        (by simp [MainPhase.running])
      intro other member
      rw [phase]
      exact Or.inl member
  case h_13 command result phase =>
      cases step
      refine invariant.transfer_main evolves rfl ?_ (by simp)
        (by simp [MainPhase.running])
      intro other member
      rw [phase]
      exact Or.inl member
  case h_14 work phase =>
      cases step
      refine invariant.transfer_main evolves (by simp) ?_ ?_ ?_
      · intro command member
        rw [phase]
        simp only at member
        split at member
        · exact Or.inl member
        all_goals cases member
      · intro command
        simp only
        split <;> simp
      · simp only
        split <;> simp [MainPhase.running]

theorem start
    (invariant : LoggedInvariant daemon)
    (down : daemon.main = .down)
    (now : Time)
    (pruned : List CommandNo) :
    LoggedInvariant
      { daemon with
        store := pruneCommandLog daemon.store now
        main := .startupJournal (listJournaledCommandsPendingSideEffects
          (pruneCommandLog daemon.store now))
        pruned := pruned } := by
  have idleWorker : daemon.worker = none :=
    invariant.workerRuns (by rw [down]; rfl)
  have sound : ∀ commandNo record,
      (pruneCommandLog daemon.store now).getCommand commandNo =
        some record → record.Sound := by
    exact fun commandNo record found =>
      invariant.sound commandNo record (getCommand_of_pruned found)
  refine ⟨sound, ?_, ?_, by simp, fun _ => idleWorker⟩
  · intro command member
    obtain ⟨record, listed, rfl⟩ := List.mem_map.mp member
    exact logs_of_mem sound (mem_listJournaledCommandsPendingSideEffects listed)
  · intro command member
    simp [Runtime.workerCommands, idleWorker] at member

/-- Every step keeps the commands in hand logged. -/
theorem step
    (invariant : LoggedInvariant daemon)
    (step : daemon.step event = some next) :
    LoggedInvariant next := by
  cases event with
  | start now =>
    simp only [Runtime.step] at step
    split at step <;> cases step
    rename_i down
    exact invariant.start down now _
  | advance now preferred => exact invariant.advance step
  | deliver command =>
    have evolves := step_logEvolves step (by simp)
    simp only [Runtime.step] at step
    split at step <;> cases step
    exact invariant.transfer_main evolves rfl
      (by simp [MainPhase.knownCommands]) (by simp)
      (by simp [MainPhase.running])
  | hardwareAnswers result =>
    have evolves := step_logEvolves step (by simp)
    simp only [Runtime.step] at step
    split at step <;> cases step
    rename_i command phase
    refine invariant.transfer_main evolves rfl ?_ (by simp)
      (by simp [MainPhase.running])
    intro other member
    rw [phase]
    exact Or.inl member
  | giveUp =>
    have evolves := step_logEvolves step (by simp)
    simp only [Runtime.step, Runtime.giveUp] at step
    split at step <;> cases step
    · rename_i remaining phase
      refine invariant.transfer_main evolves rfl ?_ (by simp)
        (by simp [phase, MainPhase.running])
      intro command member
      obtain ⟨record, listed, rfl⟩ := List.mem_map.mp member
      exact Or.inr (logs_of_mem invariant.sound
        (mem_listActiveUnfinishedCommands listed))
    · exact invariant.transfer_main evolves rfl
        (by simp [MainPhase.knownCommands]) (by simp)
        (by simp [MainPhase.running])
  | crash =>
    have evolves := step_logEvolves step (by simp)
    cases step
    exact invariant.transfer evolves
      (by simp [MainPhase.knownCommands])
      (by simp [Runtime.workerCommands]) (by simp) (by simp)
  | workerScan =>
    have evolves := step_logEvolves step (by simp)
    simp only [Runtime.step] at step
    split at step <;> cases step
    rename_i idle
    refine invariant.transfer_beside evolves rfl ?_
      (fun _ admitted => admitted) ?_
    · intro command member
      obtain ⟨record, listed, rfl⟩ := List.mem_map.mp member
      exact Or.inr (logs_of_mem invariant.sound
        (mem_listJournaledCommandsPendingSideEffects listed))
    · intro notRunning
      rw [notRunning] at idle
      cases idle.1
  | workerAdvance now preferred =>
    have evolves := step_logEvolves step (by simp)
    simp only [Runtime.step] at step
    split at step
    · cases step
    · cases step
      exact invariant.transfer_beside evolves rfl
        (by simp [Runtime.workerCommands])
        (fun _ admitted => admitted) (fun _ => rfl)
    · rename_i record remaining scanned
      cases step
      refine invariant.transfer_beside evolves ?_ ?_
        (fun _ admitted =>
          daemon.recoverJournaled_admits record preferred now admitted)
        ?_
      · simp only
        rw [Runtime.recoverJournaled_frame]
      · intro command member
        left
        unfold Runtime.workerCommands at member ⊢
        rw [scanned]
        exact List.mem_cons_of_mem _ member
      · intro notRunning
        rw [invariant.workerRuns notRunning] at scanned
        cases scanned
  | workerGiveUp =>
    have evolves := step_logEvolves step (by simp)
    cases step
    exact invariant.transfer_beside evolves rfl
      (by simp [Runtime.workerCommands])
      (fun _ admitted => admitted) (fun _ => rfl)
  | recordStockMovement input upload now =>
    simp only [Runtime.step] at step
    split at step <;> cases step
    · rename_i recorded reported result
      exact invariant.transfer_commandLog
        (recordStockMovementWithUpload_leaves result).commandLog
    · exact invariant
  | pruneStockMovements protectedIds cutoff =>
    cases step
    exact invariant.transfer_commandLog rfl
  | otherActivity after =>
    obtain ⟨rfl, commandLog, _⟩ := Runtime.step_otherActivity step
    exact invariant.transfer_commandLog commandLog

theorem initial
    (sound : ∀ record ∈ store.commandLog, record.Sound) :
    LoggedInvariant (Runtime.initial store) where
  sound := fun _ record found => sound record (Table.mem_of_find? found)
  main := by simp [Runtime.initial, MainPhase.knownCommands]
  worker := by simp [Runtime.initial, Runtime.workerCommands]
  acknowledging := by simp [Runtime.initial]
  workerRuns := fun _ => rfl

end LoggedInvariant

theorem stockChanges_of_same
    (same : ∀ slotId,
      after.physicalStockOf slotId = before.physicalStockOf slotId) :
    stockChanges before after = [] := by
  unfold stockChanges
  rw [List.filterMap_eq_nil_iff]
  intro row member
  have stored : after.physicalStockOf row.slotId =
      some row.physicalStock := by
    unfold Store.physicalStockOf
    rw [Table.find?_of_mem (Table.mem_def.mpr member)]
    rfl
  rw [same] at stored
  simp only [Store.physicalStockOf] at stored
  simp [stored]

theorem stockChanges_of_decrement
    {slotId : SlotId}
    {physicalStock quantity : Int}
    (counted : before.physicalStockOf slotId = some physicalStock)
    (decremented : ∀ other, after.physicalStockOf other =
      if other = slotId then some (physicalStock - quantity)
      else before.physicalStockOf other) :
    stockChanges before after =
      if quantity = 0 then []
      else
        [{ slotId := slotId
           before := some physicalStock
           after := physicalStock - quantity }] := by
  unfold stockChanges
  rw [Table.filterMap_of_key slotId]
  · have own := decremented slotId
    rw [if_pos rfl, Store.physicalStockOf, Option.map_eq_some_iff] at own
    obtain ⟨row, found, physical⟩ := own
    have rowSlot := Table.key_of_find? found
    unfold Store.physicalStockOf at counted
    simp only [found, Option.bind_some, rowSlot, counted, physical]
    by_cases none : quantity = 0
    · simp [none]
    · have changed :
          some physicalStock ≠ some (physicalStock - quantity) := by
        intro same
        have := Option.some.inj same
        omega
      simp [none, changed]
  · intro row member differs
    have own := decremented row.slotId
    rw [if_neg differs, Store.physicalStockOf,
      Table.find?_of_mem member] at own
    unfold Store.physicalStockOf at own
    simp [← own]

def Store.committedSuccess (store : Store) (commandNo : CommandNo) :
    Option DispenseCommandPayload :=
  (store.getCommand commandNo).bind fun record =>
    if record.sideEffectsCommittedAt.isSome &&
        record.resultPayload.any DispenseResultPayload.success then
      some record.commandPayload
    else none

/-- The stock changes made by the commits of one command. -/
def Runtime.changesBy (daemon : Runtime) (commandNo : CommandNo) :
    List StockChange :=
  daemon.committedChanges.filterMap fun change =>
    if change.1 = commandNo then some change.2 else none

/-- The stock change that a dispense movement stands for. -/
def StockMovement.stockChange (movement : StockMovement) :
    List StockChange :=
  if movement.quantity = 0 then []
  else
    [{ slotId := movement.slotId
       before := some movement.beforeQuantity
       after := movement.afterQuantity }]

/-- The dispense movements that the ledger holds for a command. -/
def Store.dispenseMovements (store : Store) (commandNo : CommandNo) :
    List StockMovement :=
  store.stockMovements.rows.filter
    (fun row => decide (row.movementId = .dispense commandNo))

/-- A dispense movement takes its quantity off the stock before it. -/
structure StockMovement.TakesOff (movement : StockMovement) : Prop where
  movementType : movement.movementType = .dispenseSucceeded
  decrement :
    movement.afterQuantity = movement.beforeQuantity - movement.quantity

/--
The dispense accounting of one state.  The commits of a command changed the
physical stock exactly as its one ledger movement says, or not at all.  A
logged command has that movement, with its own quantity, exactly when its
success is committed.
-/
structure DispenseAccounting (daemon : Runtime) : Prop where
  ledger : ∀ commandNo,
    (daemon.store.dispenseMovements commandNo = [] ∧
      daemon.changesBy commandNo = []) ∨
    ∃ movement, daemon.store.dispenseMovements commandNo = [movement] ∧
      movement.TakesOff ∧
      daemon.changesBy commandNo = movement.stockChange
  committed : ∀ commandNo command,
    commandNo ∉ daemon.pruned →
    daemon.store.committedSuccess commandNo = some command →
    ∃ movement, daemon.store.dispenseMovements commandNo = [movement] ∧
      movement.quantity = command.quantity
  uncommitted : ∀ commandNo,
    commandNo ∉ daemon.pruned →
    daemon.store.committedSuccess commandNo = none →
    daemon.store.dispenseMovements commandNo = []

theorem dispenseMovements_eq_find?
    (store : Store)
    (commandNo : CommandNo) :
    store.dispenseMovements commandNo =
      (store.stockMovements.find? (.dispense commandNo)).toList :=
  store.stockMovements.filter_key (.dispense commandNo)

/-- The ledger entry of a command matches the changes its commits made. -/
def LedgerMatches (daemon : Runtime) (commandNo : CommandNo) : Prop :=
  match daemon.store.stockMovements.find? (.dispense commandNo) with
  | none => daemon.changesBy commandNo = []
  | some movement => movement.TakesOff ∧
      daemon.changesBy commandNo = movement.stockChange

/-- A command is in the ledger exactly when its success is committed. -/
def SuccessRecorded (store : Store) (commandNo : CommandNo) : Prop :=
  match store.committedSuccess commandNo with
  | none => store.stockMovements.find? (.dispense commandNo) = none
  | some command => ∃ movement,
      store.stockMovements.find? (.dispense commandNo) = some movement ∧
        movement.quantity = command.quantity

theorem committedSuccess_eq_some_iff :
    store.committedSuccess commandNo = some command ↔
      ∃ record result, store.getCommand commandNo = some record ∧
        record.commandPayload = command ∧
        store.committedResult commandNo = some result ∧
        result.success = true := by
  unfold Store.committedSuccess Store.committedResult
  cases store.getCommand commandNo with
  | none => simp
  | some record =>
    cases committed : record.sideEffectsCommittedAt <;>
      cases journaled : record.resultPayload <;>
      simp [committed, journaled, and_comm]

/-- A log that keeps its rows and commits nothing keeps the successes. -/
theorem LogEvolves.committedSuccess
    (evolves : LogEvolves before after)
    (nothing : CommitsNothing before after)
    (commandNo : CommandNo) :
    after.committedSuccess commandNo =
      before.committedSuccess commandNo := by
  apply Option.ext
  intro command
  rw [committedSuccess_eq_some_iff, committedSuccess_eq_some_iff]
  constructor
  · rintro ⟨record, result, found, payload, committed, success⟩
    have earlier := nothing commandNo result committed
    obtain ⟨old, oldFound, _⟩ := Option.bind_eq_some_iff.mp earlier
    obtain ⟨later, laterFound, samePayload, _⟩ :=
      (evolves commandNo).keeps old oldFound
    rw [found] at laterFound
    cases laterFound
    exact ⟨old, result, oldFound, samePayload.symm.trans payload, earlier,
      success⟩
  · rintro ⟨old, result, found, payload, committed, success⟩
    obtain ⟨later, laterFound, samePayload, _, keepsResult, staysCommitted⟩ :=
      (evolves commandNo).keeps old found
    refine ⟨later, result, laterFound, samePayload.trans payload, ?_,
      success⟩
    unfold Store.committedResult at committed ⊢
    rw [found, Option.bind_some] at committed
    rw [laterFound, Option.bind_some]
    split at committed
    · rename_i wasCommitted
      rw [if_pos (staysCommitted wasCommitted)]
      exact keepsResult result committed
    · cases committed

theorem CommitEffects.committedSuccess
    {next : Store}
    (effects : CommitEffects store command result preferred now next)
    (logged : store.logs command)
    (commandNo : CommandNo) :
    next.committedSuccess commandNo =
      if commandNo = command.commandNo then
        if result.success then some command else none
      else store.committedSuccess commandNo := by
  unfold Store.committedSuccess
  rw [effects.getCommand]
  by_cases same : commandNo = command.commandNo
  · rw [if_pos same, if_pos same, same]
    obtain ⟨record, found, payload⟩ := logged
    have journaled := effects.journaled
    rw [found, Option.bind_some] at journaled
    simp [found, journaled, payload]
  · rw [if_neg same, if_neg same]

theorem CommitEffects.otherMovement
    {next : Store}
    (effects : CommitEffects store command result preferred now next)
    (other : commandNo ≠ command.commandNo) :
    next.stockMovements.find? (.dispense commandNo) =
      store.stockMovements.find? (.dispense commandNo) := by
  cases success : result.success with
  | false => rw [(effects.failure_frame success).1]
  | true =>
    obtain ⟨stocked, applied, movements, _⟩ :=
      effects.success_applied success
    rw [movements]
    rcases applyDispenseSuccessToLocalStock_cases applied with
      ⟨_, rfl⟩ | ⟨_, slot, projection, _, frame, _, _⟩
    · rfl
    · rw [frame]
      simp [dispenseMovement, other]

/-- What a commit does to the ledger and the stock of its own command. -/
inductive CommitStockEffect
    (store next : Store)
    (command : DispenseCommandPayload)
    (result : DispenseResultPayload) : Prop where
  | none
      (movements : next.stockMovements = store.stockMovements)
      (projections :
        next.currentStockProjection = store.currentStockProjection)
      (saleView : next.saleViewProjection = store.saleViewProjection)
      (changes : stockChanges store next = [])
      (failedOrRepeated : result.success = true →
        (store.stockMovements.find?
          (.dispense command.commandNo)).isSome = true)
  | takesOff
      (movement : StockMovement)
      (success : result.success = true)
      (absent : store.stockMovements.find?
        (.dispense command.commandNo) = Option.none)
      (recorded : next.stockMovements.find?
        (.dispense command.commandNo) = some movement)
      (takes : movement.TakesOff)
      (quantity : movement.quantity = command.quantity)
      (changes : stockChanges store next = movement.stockChange)
      (saleView : (next.saleViewProjection.find? movement.slotId).map
        SaleViewItem.physicalStock = some movement.afterQuantity)

/-- A commit takes the stock of a success off once, and of nothing else. -/
theorem CommitEffects.stockEffect
    {next : Store}
    (effects : CommitEffects store command result preferred now next) :
    CommitStockEffect store next command result := by
  cases success : result.success with
  | false =>
    obtain ⟨movements, projections, saleView⟩ :=
      effects.failure_frame success
    refine .none movements projections saleView
      (stockChanges_of_same ?_) (by simp [success])
    intro slotId
    unfold Store.physicalStockOf
    rw [projections]
  | true =>
    obtain ⟨stocked, applied, movements, projections, saleView⟩ :=
      effects.success_applied success
    rcases applyDispenseSuccessToLocalStock_cases applied with
      ⟨present, rfl⟩ |
        ⟨absent, slot, projection, counted, frame, physical, shown⟩
    · refine .none movements projections saleView
        (stockChanges_of_same ?_) (fun _ => present)
      intro slotId
      unfold Store.physicalStockOf
      rw [projections]
    · have countedStock : store.physicalStockOf slot.slotId =
          some projection.physicalStock := by
        unfold Store.physicalStockOf
        rw [counted.projected]
        rfl
      have decremented : ∀ other, next.physicalStockOf other =
          if other = slot.slotId then
            some (projection.physicalStock - (command.quantity : Int))
          else store.physicalStockOf other := by
        intro other
        rw [← physical other]
        unfold Store.physicalStockOf
        rw [projections]
      have changes := stockChanges_of_decrement countedStock decremented
      refine .takesOff (dispenseMovement command slot projection now)
        success absent ?_ ⟨rfl, rfl⟩ rfl changes ?_
      · rw [movements, frame]
        simp [dispenseMovement, absent]
      · rw [saleView]
        exact shown

theorem Runtime.changesBy_of_commit
    {committed : CommandNo}
    (tagged : next.committedChanges =
      (daemon.afterCommit committed next.store).committedChanges)
    (commandNo : CommandNo) :
    next.changesBy commandNo =
      daemon.changesBy commandNo ++
        if committed = commandNo then stockChanges daemon.store next.store
        else [] := by
  unfold changesBy
  rw [tagged]
  unfold afterCommit
  simp only [List.filterMap_append, List.filterMap_map]
  congr 1
  by_cases same : committed = commandNo
  · rw [if_pos same]
    have kept :
        (stockChanges daemon.store next.store).filterMap some =
          stockChanges daemon.store next.store := List.filterMap_some
    conv_rhs => rw [← kept]
    simp [same]
  · rw [if_neg same, List.filterMap_eq_nil_iff]
    intro change _
    simp [same]

/-- The step commits a logged command. -/
structure CommitsCommand
    (daemon next : Runtime)
    (command : DispenseCommandPayload)
    (result : DispenseResultPayload) : Prop where
  effects : ∃ preferred now,
    CommitEffects daemon.store command result preferred now next.store
  logged : daemon.store.logs command
  tagged : next.committedChanges =
    (daemon.afterCommit command.commandNo next.store).committedChanges

/-- The step touches no dispense movement and commits nothing. -/
structure LeavesLedger (daemon next : Runtime) : Prop where
  movements : ∀ commandNo,
    next.store.stockMovements.find? (.dispense commandNo) =
      daemon.store.stockMovements.find? (.dispense commandNo)
  movementSync : daemon.store.NoDispenseSync → next.store.NoDispenseSync
  changes : next.committedChanges = daemon.committedChanges
  nothing : CommitsNothing daemon.store next.store

/-- The two kinds of steps. -/
def LedgerStep (daemon next : Runtime) : Prop :=
  LeavesLedger daemon next ∨
    ∃ command result, CommitsCommand daemon next command result

theorem LedgerMatches.step
    (matched : LedgerMatches daemon commandNo)
    (step : LedgerStep daemon next) :
    LedgerMatches next commandNo := by
  unfold LedgerMatches at *
  rcases step with leaves | ⟨command, result, commits⟩
  · rw [leaves.movements]
    simp only [Runtime.changesBy, leaves.changes]
    exact matched
  · obtain ⟨preferred, now, effects⟩ := commits.effects
    rw [Runtime.changesBy_of_commit commits.tagged]
    by_cases same : commandNo = command.commandNo
    · subst same
      rw [if_pos rfl]
      cases effects.stockEffect with
      | none movements _ _ changes _ =>
        rw [movements, changes, List.append_nil]
        exact matched
      | takesOff movement _ absent recorded takes _ changes _ =>
        rw [absent] at matched
        rw [recorded, matched, changes]
        exact ⟨takes, rfl⟩
    · rw [effects.otherMovement same, if_neg (Ne.symm same),
        List.append_nil]
      exact matched

theorem SuccessRecorded.commit
    (commits : CommitsCommand daemon next command result)
    (recorded : SuccessRecorded daemon.store commandNo) :
    SuccessRecorded next.store commandNo := by
  obtain ⟨preferred, now, effects⟩ := commits.effects
  unfold SuccessRecorded at *
  rw [effects.committedSuccess commits.logged]
  by_cases same : commandNo = command.commandNo
  · subst same
    rw [if_pos rfl]
    obtain ⟨record, found, payload⟩ := commits.logged
    have journaled : record.resultPayload = some result := by
      have stored := effects.journaled
      rwa [found, Option.bind_some] at stored
    cases effects.stockEffect with
    | none movements _ _ _ failedOrRepeated =>
      rw [movements]
      cases success : result.success with
      | false =>
        have noSuccess : daemon.store.committedSuccess
            command.commandNo = none := by
          simp [Store.committedSuccess, found, journaled, success]
        rw [noSuccess] at recorded
        exact recorded
      | true =>
        -- The movement exists, so this success was committed before.
        have present := failedOrRepeated success
        cases before : daemon.store.committedSuccess
            command.commandNo with
        | none =>
          rw [before] at recorded
          rw [recorded] at present
          cases present
        | some stored =>
          rw [before] at recorded
          obtain ⟨other, _, otherFound, otherPayload, _⟩ :=
            committedSuccess_eq_some_iff.mp before
          rw [found] at otherFound
          cases otherFound
          rw [payload] at otherPayload
          subst otherPayload
          exact recorded
    | takesOff movement success _ movementFound _ quantity _ _ =>
      rw [success]
      exact ⟨movement, movementFound, quantity⟩
  · rw [if_neg same, effects.otherMovement same]
    exact recorded

theorem LeavesLedger.of_records
    (leaves : LeavesDispenseRecords daemon.store after) :
    LeavesLedger daemon { daemon with store := after } where
  movements := leaves.movements
  movementSync := fun noSync commandNo =>
    (leaves.movementSync commandNo).trans (noSync commandNo)
  changes := rfl
  nothing := CommitsNothing.of_commandLog_eq leaves.commandLog

theorem LeavesLedger.of_tables
    (movements :
      next.store.stockMovements = daemon.store.stockMovements)
    (movementSync :
      next.store.stockMovementSync = daemon.store.stockMovementSync)
    (changes : next.committedChanges = daemon.committedChanges)
    (nothing : CommitsNothing daemon.store next.store) :
    LeavesLedger daemon next where
  movements := fun _ => by rw [movements]
  movementSync := by
    unfold Store.NoDispenseSync
    rw [movementSync]
    exact id
  changes := changes
  nothing := nothing

theorem LeavesLedger.of_store
    (store : next.store = daemon.store)
    (changes : next.committedChanges = daemon.committedChanges) :
    LeavesLedger daemon next :=
  LeavesLedger.of_tables (by rw [store]) (by rw [store]) changes
    (CommitsNothing.of_commandLog_eq (by rw [store]))

theorem Runtime.recoverJournaled_ledgerStep
    (logged : daemon.store.logs record.commandPayload)
    (store : next.store =
      (daemon.recoverJournaled record preferred now).store)
    (changes : next.committedChanges =
      (daemon.recoverJournaled record preferred now).committedChanges) :
    LedgerStep daemon next := by
  unfold recoverJournaled at store changes
  cases journaled : record.resultPayload with
  | none =>
    simp only [journaled] at store changes
    exact Or.inl (LeavesLedger.of_store store changes)
  | some result =>
    simp only [journaled] at store changes
    split at store
    · rename_i committed changed done
      simp only [done] at changes
      have sameStore : next.store = committed := store
      exact Or.inr ⟨record.commandPayload, result,
        { effects := ⟨preferred, now, by
            rw [sameStore]
            exact commitJournaledDispenseSideEffects_effects done⟩
          logged := logged
          tagged := by rw [changes, sameStore] }⟩
    · rename_i refusal refused
      simp only [refused] at changes
      exact Or.inl (LeavesLedger.of_store store changes)

/-- A settlement step commits its command or leaves the ledger alone. -/
theorem Runtime.settle_ledgerStep
    {work : Settlement}
    (logged : daemon.store.logs work.command)
    (store : next.store = (daemon.settle work preferred now).store)
    (changes : next.committedChanges =
      (daemon.settle work preferred now).committedChanges) :
    LedgerStep daemon next := by
  rw [settle_store] at store
  unfold settle at changes
  simp only at changes
  by_cases stage : work.stage = .commit
  · rw [if_pos stage] at changes
    unfold settleStep at store changes
    simp only [stage] at store changes
    split at store
    · rename_i refusal refused
      simp only [refused] at changes
      refine Or.inl (LeavesLedger.of_store store (changes.trans ?_))
      simp [afterCommit, stockChanges_of_same]
    · rename_i committed changed done
      simp only [done] at changes
      have sameStore : next.store = committed := store
      exact Or.inr ⟨work.command, work.result,
        { effects := ⟨preferred, now, by
            rw [sameStore]
            exact commitJournaledDispenseSideEffects_effects done⟩
          logged := logged
          tagged := by rw [changes, sameStore] }⟩
  · rw [if_neg stage] at changes
    have frame := settleStep_frame daemon.store work preferred now stage
    exact Or.inl (LeavesLedger.of_tables (by rw [store, frame])
      (by rw [store, frame]) changes
      (CommitsNothing.of_commandLog_eq (by rw [store, frame])))

/-- The next durable step of the main task. -/
theorem LoggedInvariant.advance_ledgerStep
    (invariant : LoggedInvariant daemon)
    (step : daemon.advance now preferred = some next) :
    LedgerStep daemon next := by
  simp only [Runtime.advance] at step
  split at step
  case h_1 | h_2 | h_3 => cases step
  case h_4 | h_6 | h_9 | h_12 =>
      cases step
      exact Or.inl (LeavesLedger.of_store rfl rfl)
  case h_5 record remaining phase =>
      cases step
      have logged := invariant.main record.commandPayload (by
        simp [phase, MainPhase.knownCommands])
      exact Runtime.recoverJournaled_ledgerStep logged rfl rfl
  case h_7 record remaining phase =>
      split at step <;> cases step
      · refine Or.inl (LeavesLedger.of_tables ?_ ?_ rfl
          (CommitsNothing.recordCommandResultJournal
            invariant.sound _ _ _))
        all_goals
          simp only
          rw [recordCommandResultJournal_frame]
      · exact Or.inl (LeavesLedger.of_store rfl rfl)
  case h_8 work remaining phase =>
      cases step
      have logged := invariant.main work.command (by
        simp [phase, MainPhase.knownCommands])
      exact Runtime.settle_ledgerStep logged rfl rfl
  case h_10 command phase =>
      cases step
      exact Or.inl (LeavesLedger.of_tables rfl rfl rfl
        (CommitsNothing.recordCommandAck _ _ _))
  case h_11 command phase =>
      cases step
      exact Or.inl (LeavesLedger.of_tables rfl rfl rfl
        (CommitsNothing.markCommandDispensing _ _ _))
  case h_13 command result phase =>
      cases step
      refine Or.inl (LeavesLedger.of_tables ?_ ?_ rfl
        (CommitsNothing.recordCommandResultJournal
          invariant.sound _ _ _))
      all_goals
        simp only
        rw [recordCommandResultJournal_frame]
  case h_14 work phase =>
      cases step
      have logged := invariant.main work.command (by
        simp [phase, MainPhase.knownCommands])
      exact Runtime.settle_ledgerStep logged rfl rfl

theorem find?_dispense_of_filter_eq
    (same : after.stockMovements.rows.filter StockMovement.isDispense =
      before.stockMovements.rows.filter StockMovement.isDispense)
    (commandNo : CommandNo) :
    after.stockMovements.find? (.dispense commandNo) =
      before.stockMovements.find? (.dispense commandNo) := by
  have viaFilter : ∀ store : Store,
      store.stockMovements.find? (.dispense commandNo) =
        (store.stockMovements.rows.filter StockMovement.isDispense).find?
          (fun row => decide (row.movementId = .dispense commandNo)) := by
    intro store
    rw [List.find?_filter]
    unfold Table.find?
    congr 1
    funext row
    cases movementId : row.movementId <;>
      simp [StockMovement.isDispense, movementId]
  rw [viaFilter, viaFilter, same]

/-- Every step is a commit or leaves the dispense records alone. -/
theorem LoggedInvariant.ledgerStep
    (invariant : LoggedInvariant daemon)
    (noSync : daemon.store.NoDispenseSync)
    (step : daemon.step event = some next) :
    LedgerStep daemon next := by
  cases event with
  | start now =>
    simp only [Runtime.step] at step
    split at step <;> cases step
    exact Or.inl (LeavesLedger.of_tables rfl rfl rfl
      (CommitsNothing.pruneCommandLog _ _))
  | advance now preferred => exact invariant.advance_ledgerStep step
  | deliver command
  | hardwareAnswers result
  | workerScan =>
    simp only [Runtime.step] at step
    split at step <;> cases step
    exact Or.inl (LeavesLedger.of_store rfl rfl)
  | giveUp =>
    simp only [Runtime.step, Runtime.giveUp] at step
    split at step <;> cases step <;>
      exact Or.inl (LeavesLedger.of_store rfl rfl)
  | crash
  | workerGiveUp =>
    cases step
    exact Or.inl (LeavesLedger.of_store rfl rfl)
  | workerAdvance now preferred =>
    simp only [Runtime.step] at step
    split at step
    · cases step
    · cases step
      exact Or.inl (LeavesLedger.of_store rfl rfl)
    · rename_i record remaining scanned
      cases step
      have logged := invariant.worker record.commandPayload (by
        simp [Runtime.workerCommands, scanned])
      exact Runtime.recoverJournaled_ledgerStep logged rfl rfl
  | recordStockMovement input upload now =>
    simp only [Runtime.step] at step
    split at step <;> cases step
    · rename_i recorded reported result
      exact Or.inl (LeavesLedger.of_records
        (recordStockMovementWithUpload_leaves result))
    · exact Or.inl (LeavesLedger.of_store rfl rfl)
  | pruneStockMovements protectedIds cutoff =>
    cases step
    exact Or.inl (LeavesLedger.of_records
      (pruneAcceptedStockMovementHistory_leaves noSync _ _))
  | otherActivity after =>
    obtain ⟨rfl, commandLog, movements, syncs⟩ :=
      Runtime.step_otherActivity step
    exact Or.inl
      { movements := find?_dispense_of_filter_eq movements
        changes := rfl
        movementSync := fun _ commandNo => by
          rw [Table.find?_eq_none_iff]
          intro sync member movementId
          have notDispense := List.all_eq_true.mp syncs sync member
          simp [StockMovementSync.isDispense, movementId] at notDispense
        nothing := CommitsNothing.of_commandLog_eq commandLog }

theorem step_pruned_mono
    (step : daemon.step event = some next)
    (member : commandNo ∈ daemon.pruned) :
    commandNo ∈ next.pruned := by
  cases event with
  | start now =>
    simp only [Runtime.step] at step
    split at step <;> cases step
    exact List.mem_append_left _ member
  | _ =>
    rw [step_pruned step (by simp)]
    exact member

theorem step_committedSuccess
    (step : daemon.step event = some next)
    (nothing : CommitsNothing daemon.store next.store)
    (notPruned : commandNo ∉ next.pruned) :
    next.store.committedSuccess commandNo =
      daemon.store.committedSuccess commandNo := by
  cases event with
  | start now =>
    simp only [Runtime.step] at step
    split at step <;> cases step
    unfold Store.committedSuccess
    rcases getCommand_pruneCommandLog daemon.store now commandNo with
      kept | removed
    · simp only [kept]
    · cases found : daemon.store.getCommand commandNo with
      | none => simp only [removed]
      | some record =>
        exact (notPruned (List.mem_append_right _
          (mem_deletedCommandNos found removed))).elim
  | _ =>
    exact (step_logEvolves step (by simp)).committedSuccess nothing commandNo

/-- A store that no dispense command has written to yet. -/
structure Store.NoDispenses (store : Store) : Prop where
  commandLog : store.commandLog = .empty
  movements : ∀ commandNo,
    store.stockMovements.find? (.dispense commandNo) = none
  movementSync : store.NoDispenseSync

/-- What every step of the daemon keeps about its dispense accounting. -/
structure AccountingInvariant (daemon : Runtime) : Prop where
  logged : LoggedInvariant daemon
  noSync : daemon.store.NoDispenseSync
  ledger : ∀ commandNo, LedgerMatches daemon commandNo
  recorded : ∀ commandNo, commandNo ∉ daemon.pruned →
    SuccessRecorded daemon.store commandNo

namespace AccountingInvariant

theorem step
    (invariant : AccountingInvariant daemon)
    (step : daemon.step event = some next) :
    AccountingInvariant next := by
  have ledgerStep := invariant.logged.ledgerStep invariant.noSync step
  refine ⟨invariant.logged.step step, ?_,
    fun commandNo => (invariant.ledger commandNo).step ledgerStep, ?_⟩
  · rcases ledgerStep with leaves | ⟨command, result, commits⟩
    · exact leaves.movementSync invariant.noSync
    · obtain ⟨preferred, now, effects⟩ := commits.effects
      unfold Store.NoDispenseSync
      rw [effects.stockMovementSync]
      exact invariant.noSync
  · intro commandNo notPruned
    have keptBefore : commandNo ∉ daemon.pruned := fun member =>
      notPruned (step_pruned_mono step member)
    have recorded := invariant.recorded commandNo keptBefore
    rcases ledgerStep with leaves | ⟨command, result, commits⟩
    · have same : next.store.committedSuccess commandNo =
          daemon.store.committedSuccess commandNo :=
        step_committedSuccess step leaves.nothing notPruned
      unfold SuccessRecorded at recorded ⊢
      rw [same, leaves.movements]
      exact recorded
    · exact recorded.commit commits

theorem initial
    (fresh : store.NoDispenses) :
    AccountingInvariant (Runtime.initial store) where
  logged := LoggedInvariant.initial (by simp [fresh.commandLog])
  noSync := fresh.movementSync
  ledger := by
    intro commandNo
    unfold LedgerMatches
    simp only [Runtime.initial, fresh.movements]
    rfl
  recorded := by
    intro commandNo _
    have noSuccess : store.committedSuccess commandNo = none := by
      simp [Store.committedSuccess, Store.getCommand, fresh.commandLog]
    unfold SuccessRecorded
    simp only [Runtime.initial, noSuccess]
    exact fresh.movements commandNo

theorem accounting
    (invariant : AccountingInvariant daemon) :
    DispenseAccounting daemon where
  ledger := by
    intro commandNo
    have matched := invariant.ledger commandNo
    rw [dispenseMovements_eq_find?]
    unfold LedgerMatches at matched
    split at matched
    · rename_i absent
      exact Or.inl ⟨by rw [absent]; rfl, matched⟩
    · rename_i movement found
      exact Or.inr ⟨movement, by rw [found]; rfl, matched⟩
  committed := by
    intro commandNo command notPruned success
    have recorded := invariant.recorded commandNo notPruned
    unfold SuccessRecorded at recorded
    rw [success] at recorded
    obtain ⟨movement, found, quantity⟩ := recorded
    exact ⟨movement, by rw [dispenseMovements_eq_find?, found]; rfl,
      quantity⟩
  uncommitted := by
    intro commandNo notPruned noSuccess
    have recorded := invariant.recorded commandNo notPruned
    unfold SuccessRecorded at recorded
    rw [noSuccess] at recorded
    rw [dispenseMovements_eq_find?, recorded]
    rfl

end AccountingInvariant

/-- Everything that a commit of this result writes was written. -/
structure CommittedTogether
    (store next : Store)
    (command : DispenseCommandPayload)
    (result : DispenseResultPayload)
    (now : Time) : Prop where
  committedAt : (next.getCommand command.commandNo).bind
    CommandLogRecord.sideEffectsCommittedAt = some now
  resultEvent : (next.outboxEvents.find? (.result result.commandNo)).map
    OutboxEvent.payload = some (.dispenseResult result)
  session : result.success = true →
    (store.orderSessions.find? command.orderNo).isSome = true
  closed : ∀ session,
    next.orderSessions.find? command.orderNo = some session →
    session.status = (if result.success then "succeeded" else "failed") ∧
      session.nextAction =
        if result.success then "success" else "dispense_failed"
  stock : CommitStockEffect store next command result

/-- A commit writes all that belongs to its result, or nothing. -/
def CommitsTogetherOrNothing
    (daemon : Runtime)
    (command : DispenseCommandPayload)
    (result : DispenseResultPayload)
    (preferred : PlanogramVersion × SlotId)
    (now : Time) : Prop :=
  match commitJournaledDispenseSideEffects
      daemon.store command result preferred now with
  | .ok (next, _) =>
    CommittedTogether daemon.store next command result now
  | .error _ =>
    (∀ record : CommandLogRecord,
      record.commandPayload = command →
      record.resultPayload = some result →
      (daemon.recoverJournaled record preferred now).store =
        daemon.store) ∧
    ∀ work : Settlement,
      work.command = command →
      work.result = result →
      work.stage = .commit →
      (daemon.settle work preferred now).store = daemon.store

theorem CommitEffects.committedTogether
    {next : Store}
    (effects : CommitEffects store command result preferred now next) :
    CommittedTogether store next command result now where
  committedAt := by
    rw [effects.getCommand, if_pos rfl]
    obtain ⟨record, found, _⟩ :=
      Option.bind_eq_some_iff.mp effects.journaled
    simp [found]
  resultEvent := effects.resultEvent
  session := effects.session_of_success
  closed := by
    intro session found
    rw [effects.closedSession] at found
    obtain ⟨open_, _, rfl⟩ := Option.map_eq_some_iff.mp found
    exact ⟨rfl, rfl⟩
  stock := effects.stockEffect

theorem commitsTogetherOrNothing
    (daemon : Runtime)
    (command : DispenseCommandPayload)
    (result : DispenseResultPayload)
    (preferred : PlanogramVersion × SlotId)
    (now : Time) :
    CommitsTogetherOrNothing daemon command result preferred now := by
  unfold CommitsTogetherOrNothing
  split
  · rename_i next changed committed
    exact (commitJournaledDispenseSideEffects_effects
      committed).committedTogether
  · rename_i refusal refused
    refine ⟨?_, ?_⟩
    · rintro record rfl journaled
      unfold Runtime.recoverJournaled
      simp only [journaled, refused]
    · rintro work rfl rfl stage
      rw [Runtime.settle_store]
      unfold settleStep
      simp only [stage, refused]

/--
In every run, a command's success is accounted for once, by one movement and
one decrement of its quantity, exactly when it is committed; and every commit
writes all that belongs to its result, or nothing.
-/
theorem dispenseAccounting_exactlyOnce
    {store : Store}
    (fresh : store.NoDispenses)
    {daemon : Runtime}
    (reaches : machine.Reaches (Runtime.initial store) daemon) :
    DispenseAccounting daemon ∧
      ∀ command result preferred now,
        CommitsTogetherOrNothing daemon command result preferred now := by
  have invariant : AccountingInvariant daemon :=
    reaches.keeps (fun holds step => holds.step step)
      (AccountingInvariant.initial fresh)
  exact ⟨invariant.accounting, commitsTogetherOrNothing daemon⟩

/-- The paid order's command, dispensed and committed. -/
def dispensedRun : List Event :=
  journaledRun dispensedResult ++ advances 1 106

theorem oneSlotStore_noDispenses : oneSlotStore.NoDispenses where
  commandLog := rfl
  movements := fun _ => rfl
  movementSync := fun _ => rfl

/-- One dispensed command is accounted for by one movement of one item. -/
theorem dispenseAccounting_exactlyOnce_dispensed :
    (DispenseAccounting (Runtime.after oneSlotStore dispensedRun) ∧
      ∀ command result preferred now,
        CommitsTogetherOrNothing (Runtime.after oneSlotStore dispensedRun)
          command result preferred now) ∧
      (Runtime.after oneSlotStore dispensedRun).store.committedSuccess 1 =
        some oneSlotCommand ∧
      (Runtime.after oneSlotStore dispensedRun).changesBy 1 =
        [{ slotId := 5, before := some 4, after := 3 }] :=
  ⟨dispenseAccounting_exactlyOnce oneSlotStore_noDispenses
      ⟨dispensedRun, Runtime.run_after (by decide)⟩,
    by decide, by decide⟩

/-- The six records that a commit can write all changed. -/
def AllWritten (before after : Store) : Prop :=
  after.stockMovements ≠ before.stockMovements ∧
    after.currentStockProjection ≠ before.currentStockProjection ∧
    after.saleViewProjection ≠ before.saleViewProjection ∧
    after.outboxEvents ≠ before.outboxEvents ∧
    after.orderSessions ≠ before.orderSessions ∧
    after.commandLog ≠ before.commandLog

/--
The commit of a journaled failure writes the outbox, the session and the log
but no movement, so it neither writes all six records nor leaves all alone.
-/
theorem commit_allOrNothing_fails_for_failure :
    ¬ ∀ daemon command result preferred now next changed,
      machine.Reaches (Runtime.initial oneSlotStore) daemon →
      commitJournaledDispenseSideEffects
        daemon.store command result preferred now = .ok (next, changed) →
      AllWritten daemon.store next ∨ next = daemon.store := by
  intro always
  have reaches : machine.Reaches (Runtime.initial oneSlotStore)
      (Runtime.after oneSlotStore (journaledRun jammedResult)) :=
    ⟨_, Runtime.run_after (by decide)⟩
  have committed : ∃ outcome, commitJournaledDispenseSideEffects
      (Runtime.after oneSlotStore (journaledRun jammedResult)).store
      oneSlotCommand jammedResult (1, 5) 106 = .ok outcome :=
    commit_failure_succeeds (1, 5) 106 (by decide) rfl (by
      unfold Store.sessionAdmits
      decide)
  obtain ⟨⟨next, changed⟩, done⟩ := committed
  have effects := commitJournaledDispenseSideEffects_effects done
  rcases always _ _ _ _ _ _ _ reaches done with written | unchanged
  · exact written.1 (effects.failure_frame rfl).1
  · have committedAt := effects.committedTogether.committedAt
    rw [unchanged] at committedAt
    revert committedAt
    decide

end VendingSystem.Daemon
