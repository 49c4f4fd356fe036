import VendingSystem.DaemonLockClearing

namespace VendingSystem.Daemon

/-!
# What a cleared lock was cleared for

A removal deletes whatever lock is stored.  It is right only as long as that
is the lock that was read, evidence and lock carry times in order, and a fault
reset was confirmed over a production path.
-/

/-- The times of a lock and of evidence say which of them came first. -/
def TimesInOrder (lock : LockRecord) (evidence : LockEvidence) : Prop :=
  lock.step < evidence.step ∨
    evidence.value.checkedAt < lock.value.createdAt

instance (lock : LockRecord) (evidence : LockEvidence) :
    Decidable (TimesInOrder lock evidence) :=
  inferInstanceAs (Decidable (_ ∨ _))

/--
A lock is recorded in a later millisecond than the stored evidence was taken,
and evidence is stored while its time is in order with the stored lock.  A
removal finds the lock that it read, with evidence of a production path.
-/
def ClearsWhatItRead
    (db : LockStore)
    (task : LockTask)
    (input : LockInput) : Prop :=
  match task with
  | .lockingForStatus _
  | .lockingForDispense _ _ _ =>
    ∀ evidence ∈ db.recoveryEvidence,
      evidence.value.checkedAt < db.clock + input.elapsed
  | .storingSelfCheck evidence
  | .storingReset _ _ evidence =>
    ∀ lock ∈ db.wholeMachineMaintenanceLock, TimesInOrder lock evidence
  | .clearing audit =>
    ∀ lock ∈ db.wholeMachineMaintenanceLock,
      lock = audit.previous ∧
        audit.recoveryEvidence.value.productionDispensePathReady = true
  | _ => True

instance (db : LockStore) (task : LockTask) (input : LockInput) :
    Decidable (ClearsWhatItRead db task input) := by
  unfold ClearsWhatItRead
  cases task
  all_goals infer_instance

/-- Evidence is only stored for a controller that was found in order. -/
structure WholeMachineMaintenanceLockClearEvidence.Sound
    (evidence : WholeMachineMaintenanceLockClearEvidence) : Prop where
  online : evidence.online = true
  ready : evidence.productionDispensePathReady =
    Daemon.productionDispensePathReady evidence.adapter evidence.portPath

structure LockStore.Ordered (db : LockStore) : Prop where
  recorded : ∀ lock ∈ db.wholeMachineMaintenanceLock, lock.step ≤ db.steps
  sound : ∀ evidence ∈ db.recoveryEvidence, evidence.value.Sound
  times : ∀ lock ∈ db.wholeMachineMaintenanceLock,
    ∀ evidence ∈ db.recoveryEvidence, TimesInOrder lock evidence

/-- What a task has read and obtained, in its order. -/
def LockTask.InOrder (db : LockStore) : LockTask → Prop
  | .selfChecked status _ => status.online = true
  | .storingSelfCheck evidence => evidence.value.Sound
  | .resetting _ previous => ∀ lock ∈ previous, lock.step ≤ db.steps
  | .storingReset _ previous evidence =>
    evidence.value.Sound ∧ ∀ lock ∈ previous,
      lock.step ≤ db.steps ∧ lock.step < evidence.step
  | .comparingFault _ previous evidence =>
    evidence.value.Sound ∧ previous.step ≤ db.steps ∧
      previous.step < evidence.step
  | .checkingEvidence _ previous => previous.step ≤ db.steps
  | .clearing audit =>
    audit.recoveryEvidence.value.Sound ∧
      audit.previous.step ≤ db.steps ∧
      (db.wholeMachineMaintenanceLock = some audit.previous →
        audit.previous.step < audit.recoveryEvidence.step)
  | _ => True

open Transaction

variable {before after : LockStore} {task : LockTask} {answer : List LockTask}
  {elapsed : Nat} {input : LockInput}

/-- What a step leaves of the lock: the old one, none, or a new one. -/
structure LockKept (before after : LockStore) : Prop where
  steps : before.steps ≤ after.steps
  lock : ∀ lock ∈ after.wholeMachineMaintenanceLock,
    before.wholeMachineMaintenanceLock = some lock ∨
      before.steps < lock.step

theorem LockTask.InOrder.later
    (inOrder : task.InOrder before)
    (kept : LockKept before after) :
    task.InOrder after := by
  have later : ∀ {step : Nat}, step ≤ before.steps → step ≤ after.steps :=
    fun earlier => Nat.le_trans earlier kept.steps
  cases task with
  | resetting note previous =>
    exact fun lock held => later (inOrder lock held)
  | storingReset note previous evidence =>
    exact ⟨inOrder.1, fun lock held =>
      ⟨later (inOrder.2 lock held).1, (inOrder.2 lock held).2⟩⟩
  | comparingFault note previous evidence =>
    exact ⟨inOrder.1, later inOrder.2.1, inOrder.2.2⟩
  | checkingEvidence note previous => exact later inOrder
  | clearing audit =>
    refine ⟨inOrder.1, later inOrder.2.1, fun stored => ?_⟩
    rcases kept.lock _ stored with same | newer
    · exact inOrder.2.2 same
    · exact absurd inOrder.2.1 (Nat.not_le.mpr newer)
  | selfChecked status step => exact inOrder
  | storingSelfCheck evidence => exact inOrder
  | _ => trivial

theorem selfCheckEvidence_sound
    {status : HardwareStatus}
    (online : status.online = true)
    (checkedAt : Time) :
    (selfCheckEvidence status checkedAt).Sound :=
  ⟨online, rfl⟩

theorem faultResetEvidence_sound
    (reset : LowerControllerResetResult)
    (reportedAt : Time) :
    (faultResetEvidence reset reportedAt).Sound :=
  ⟨rfl, rfl⟩

theorem LockStore.Ordered.tick
    {db : LockStore}
    (ordered : db.Ordered)
    (elapsed : Nat) :
    (db.tick elapsed).Ordered where
  recorded lock stored :=
    Nat.le_trans (ordered.recorded lock stored) (Nat.le_succ _)
  sound := ordered.sound
  times := ordered.times

theorem LockKept.tick (db : LockStore) (elapsed : Nat) :
    LockKept db (db.tick elapsed) :=
  ⟨Nat.le_succ _, fun _ stored => Or.inl stored⟩

/-- What a step must leave: order in the store and in every task's hands. -/
structure StepInOrder
    (before after : LockStore)
    (answer : List LockTask) : Prop where
  ordered : after.Ordered
  kept : LockKept before after
  followUps : ∀ followUp ∈ answer, followUp.InOrder after

theorem StepInOrder.reads
    (ordered : before.Ordered)
    (followUps :
      ∀ followUp ∈ answer, followUp.InOrder (before.tick elapsed)) :
    StepInOrder before (before.tick elapsed) answer :=
  ⟨ordered.tick elapsed, LockKept.tick before elapsed, followUps⟩

theorem StepInOrder.records
    (lock : Time → WholeMachineMaintenanceLock)
    (createdAt : ∀ now, (lock now).createdAt = now)
    (ordered : before.Ordered)
    (later : ∀ evidence ∈ before.recoveryEvidence,
      evidence.value.checkedAt < before.clock + elapsed) :
    StepInOrder before
      { before.tick elapsed with
        wholeMachineMaintenanceLock := some
          { value := lock (before.tick elapsed).clock
            step := (before.tick elapsed).steps } }
      [] where
  ordered :=
    { recorded := by
        rintro _ ⟨rfl⟩
        exact Nat.le_refl _
      sound := ordered.sound
      times := by
        rintro _ ⟨rfl⟩ evidence stored
        right
        rw [createdAt]
        exact later evidence stored }
  kept :=
    { steps := Nat.le_succ _
      lock := by
        rintro _ ⟨rfl⟩
        exact Or.inr (Nat.lt_succ_self _) }
  followUps _ member := by cases member

theorem StepInOrder.storesEvidence
    {evidence : LockEvidence}
    (ordered : before.Ordered)
    (sound : evidence.value.Sound)
    (inOrder : ∀ lock ∈ before.wholeMachineMaintenanceLock,
      TimesInOrder lock evidence)
    (followUps : ∀ followUp ∈ answer,
      followUp.InOrder
        { before.tick elapsed with recoveryEvidence := some evidence }) :
    StepInOrder before
      { before.tick elapsed with recoveryEvidence := some evidence }
      answer where
  ordered :=
    { recorded := (ordered.tick elapsed).recorded
      sound := by
        rintro _ ⟨rfl⟩
        exact sound
      times := by
        rintro lock stored _ ⟨rfl⟩
        exact inOrder lock stored }
  kept := ⟨Nat.le_succ _, fun _ stored => Or.inl stored⟩
  followUps := followUps

theorem LockTask.InOrder.performs
    (ordered : before.Ordered)
    (inOrder : task.InOrder before)
    (met : ClearsWhatItRead before task input)
    (committed : Commits (task.perform input) before answer after) :
    StepInOrder before after answer := by
  replace committed := commits_modify_bind.mp committed
  have one : ∀ {next : LockTask} {db : LockStore}, next.InOrder db →
      ∀ followUp ∈ [next], followUp.InOrder db := by
    intro next db nextInOrder followUp member
    rw [List.mem_singleton.mp member]
    exact nextInOrder
  cases task with
  -- what records a lock
  | lockingForStatus message =>
    obtain ⟨_, middle, recorded, returned⟩ := commits_bind.mp committed
    obtain rfl := commits_modify.mp recorded
    obtain ⟨rfl, rfl⟩ := commits_pure.mp returned
    exact .records _ (fun _ => rfl) ordered met
  | lockingForDispense command result slotId =>
    obtain ⟨_, middle, recorded, returned⟩ := commits_bind.mp committed
    obtain rfl := commits_modify.mp recorded
    obtain ⟨rfl, rfl⟩ := commits_pure.mp returned
    exact .records _ (fun _ => rfl) ordered met
  -- what stores evidence
  | storingSelfCheck evidence =>
    obtain ⟨_, middle, recorded, returned⟩ := commits_bind.mp committed
    obtain rfl := commits_modify.mp recorded
    obtain ⟨rfl, rfl⟩ := commits_pure.mp returned
    exact .storesEvidence ordered inOrder met (fun _ member => by cases member)
  | storingReset operatorNote previous evidence =>
    obtain ⟨_, middle, recorded, returned⟩ := commits_bind.mp committed
    obtain rfl := commits_modify.mp recorded
    obtain ⟨rfl, rfl⟩ := commits_pure.mp returned
    apply StepInOrder.storesEvidence ordered inOrder.1 met
    intro followUp member
    obtain ⟨read, held, rfl⟩ := List.mem_map.mp member
    obtain ⟨recordedBefore, older⟩ :=
      inOrder.2 read (Option.mem_toList.mp held)
    exact ⟨inOrder.1, Nat.le_succ_of_le recordedBefore, older⟩
  -- the removal
  | clearing audit =>
    obtain ⟨_, middle, cleared, returned⟩ := commits_bind.mp committed
    obtain rfl := commits_modify.mp cleared
    obtain ⟨rfl, rfl⟩ := commits_pure.mp returned
    exact
      { ordered :=
          { recorded := fun _ stored => by cases stored
            sound := ordered.sound
            times := fun _ stored => by cases stored }
        kept := ⟨Nat.le_succ _, fun _ stored => by cases stored⟩
        followUps := fun _ member => by cases member }
  -- what only reads, and talks to the hardware
  | watchHardware =>
    obtain ⟨rfl, rfl⟩ := commits_pure.mp committed
    apply StepInOrder.reads ordered
    intro followUp member
    split at member
    · rw [List.mem_singleton.mp member]
      trivial
    · cases member
  | dispenseFailed command result =>
    obtain ⟨rfl, rfl⟩ := commits_pure.mp committed
    apply StepInOrder.reads ordered
    intro followUp member
    split at member
    · obtain ⟨slotId, _, rfl⟩ := List.mem_map.mp member
      trivial
    · cases member
  | hardwareSelfCheck =>
    replace committed := commits_get_bind.mp committed
    obtain ⟨rfl, rfl⟩ := commits_pure.mp committed
    apply StepInOrder.reads ordered
    intro followUp member
    split at member
    · rename_i online
      rw [List.mem_singleton.mp member]
      exact online
    · cases member
  | selfChecked status step =>
    replace committed := commits_get_bind.mp committed
    obtain ⟨rfl, rfl⟩ := commits_pure.mp committed
    exact .reads ordered (one (selfCheckEvidence_sound inOrder _))
  | faultReset operatorNote =>
    replace committed := commits_get_bind.mp committed
    obtain ⟨rfl, rfl⟩ := commits_pure.mp committed
    exact .reads ordered (one (ordered.tick input.elapsed).recorded)
  | resetting operatorNote previous =>
    replace committed := commits_get_bind.mp committed
    obtain ⟨rfl, rfl⟩ := commits_pure.mp committed
    apply StepInOrder.reads ordered
    intro followUp member
    split at member
    · rw [List.mem_singleton.mp member]
      exact ⟨faultResetEvidence_sound _ _, fun lock held =>
        ⟨Nat.le_succ_of_le (inOrder lock held),
          Nat.lt_succ_of_le (inOrder lock held)⟩⟩
    · cases member
  | comparingFault operatorNote previous evidence =>
    replace committed := commits_get_bind.mp committed
    split at committed
    · obtain ⟨rfl, rfl⟩ := commits_pure.mp committed
      exact .reads ordered (one
        ⟨inOrder.1, Nat.le_succ_of_le inOrder.2.1, fun _ => inOrder.2.2⟩)
    · obtain ⟨rfl, rfl⟩ := commits_pure.mp committed
      exact .reads ordered (fun _ member => by cases member)
  | clearLock operatorNote =>
    replace committed := commits_get_bind.mp committed
    obtain ⟨rfl, rfl⟩ := commits_pure.mp committed
    apply StepInOrder.reads ordered
    intro followUp member
    obtain ⟨lock, stored, rfl⟩ := List.mem_map.mp member
    exact (ordered.tick input.elapsed).recorded lock
      (Option.mem_toList.mp stored)
  | checkingEvidence operatorNote previous =>
    obtain ⟨evidence, stored, committed⟩ :=
      commits_requireSome_bind.mp (commits_get_bind.mp committed)
    obtain ⟨allows, committed⟩ := commits_require_bind.mp committed
    obtain ⟨rfl, rfl⟩ := commits_pure.mp committed
    apply StepInOrder.reads ordered
    apply one
    refine ⟨ordered.sound evidence stored, Nat.le_succ_of_le inOrder,
      fun isStored => ?_⟩
    rcases ordered.times previous isStored evidence stored with
      older | newer
    · exact older
    · have refused : ¬ evidence.value.checkedAt <
          previous.value.createdAt := by
        intro tooOld
        simp [WholeMachineMaintenanceLockClearEvidence.allowsClear,
          tooOld] at allows
      exact absurd newer refused

theorem lockService_keeps :
    lockService.Keeps ClearsWhatItRead LockStore.Ordered
      (fun db task => task.InOrder db) where
  starts {db task} starts := by
    cases task <;> trivial
  recovers _ member := by cases member
  performs ordered inOrder met committed :=
    let step := inOrder.performs ordered met committed
    ⟨step.ordered, step.followUps⟩
  others ordered inOrder met committed otherInOrder :=
    otherInOrder.later (inOrder.performs ordered met committed).kept

theorem commits_removes_lock
    {lock : LockRecord}
    (committed : Commits (task.perform input) before answer after)
    (stored : before.wholeMachineMaintenanceLock = some lock)
    (removed : after.wholeMachineMaintenanceLock = none) :
    ∃ audit, task = .clearing audit ∧
      after.clearAudits = before.clearAudits ++ [audit] := by
  replace committed := commits_modify_bind.mp committed
  have unchanged :
      after.wholeMachineMaintenanceLock =
        before.wholeMachineMaintenanceLock → False := by
    intro same
    rw [same, stored] at removed
    cases removed
  cases task with
  | clearing audit =>
    obtain ⟨_, middle, cleared, returned⟩ := commits_bind.mp committed
    obtain rfl := commits_modify.mp cleared
    obtain ⟨_, rfl⟩ := commits_pure.mp returned
    exact ⟨audit, rfl, rfl⟩
  | lockingForStatus message | lockingForDispense command result slotId =>
    obtain ⟨_, middle, recorded, returned⟩ := commits_bind.mp committed
    obtain rfl := commits_modify.mp recorded
    obtain ⟨_, rfl⟩ := commits_pure.mp returned
    cases removed
  | storingSelfCheck evidence | storingReset operatorNote previous evidence =>
    obtain ⟨_, middle, recorded, returned⟩ := commits_bind.mp committed
    obtain rfl := commits_modify.mp recorded
    obtain ⟨_, rfl⟩ := commits_pure.mp returned
    exact (unchanged rfl).elim
  | watchHardware | dispenseFailed command result =>
    obtain ⟨_, rfl⟩ := commits_pure.mp committed
    exact (unchanged rfl).elim
  | hardwareSelfCheck | selfChecked status step | faultReset operatorNote
  | resetting operatorNote previous | clearLock operatorNote =>
    replace committed := commits_get_bind.mp committed
    obtain ⟨_, rfl⟩ := commits_pure.mp committed
    exact (unchanged rfl).elim
  | comparingFault operatorNote previous evidence =>
    replace committed := commits_get_bind.mp committed
    split at committed
    all_goals
      obtain ⟨_, rfl⟩ := commits_pure.mp committed
      exact (unchanged rfl).elim
  | checkingEvidence operatorNote previous =>
    obtain ⟨evidence, _, committed⟩ :=
      commits_requireSome_bind.mp (commits_get_bind.mp committed)
    obtain ⟨_, committed⟩ := commits_require_bind.mp committed
    obtain ⟨_, rfl⟩ := commits_pure.mp committed
    exact (unchanged rfl).elim

/-- Nothing is locked, and no recovery was recorded. -/
def LockStore.initial : LockStore where
  wholeMachineMaintenanceLock := none
  recoveryEvidence := none
  clearAudits := []
  clock := 0
  steps := 0

theorem LockStore.initial_ordered : LockStore.initial.Ordered where
  recorded _ stored := by cases stored
  sound _ stored := by cases stored
  times _ stored := by cases stored

/-- Evidence of an online controller on a production path. -/
def WholeMachineMaintenanceLockClearEvidence.IsProduction
    (evidence : WholeMachineMaintenanceLockClearEvidence) : Prop :=
  evidence.online = true ∧
    Daemon.productionDispensePathReady evidence.adapter evidence.portPath =
      true ∧
    evidence.adapter ≠ "mock" ∧
    evidence.portPath.any isTcpPath = false

theorem WholeMachineMaintenanceLockClearEvidence.Sound.isProduction
    {evidence : WholeMachineMaintenanceLockClearEvidence}
    (sound : evidence.Sound)
    (ready : evidence.productionDispensePathReady = true) :
    evidence.IsProduction := by
  have isReady := sound.ready.symm.trans ready
  refine ⟨sound.online, isReady, ?_⟩
  cases path : evidence.portPath with
  | none => simp [Daemon.productionDispensePathReady, path] at isReady
  | some portPath =>
    simp only [Daemon.productionDispensePathReady, path, Option.any_some,
      Bool.and_eq_true, decide_eq_true_eq, Bool.not_eq_eq_eq_not,
      Bool.not_true] at isReady
    obtain ⟨serial, notTcp⟩ := isReady
    rw [serial, Option.any_some]
    exact ⟨by decide, notTcp⟩

abbrev LockEvent : Type :=
  Service.Event LockError LockTask LockInput

abbrev LockRuntime : Type :=
  Service.Runtime LockStore LockTask

/--
A step that removes the lock stores one audit of that very lock, with evidence
from a production path that was obtained after the lock was recorded.
-/
def RemovalIsRight (before after : LockStore) : Prop :=
  ∀ lock, before.wholeMachineMaintenanceLock = some lock →
    after.wholeMachineMaintenanceLock = none →
      ∃ audit, after.clearAudits = before.clearAudits ++ [audit] ∧
        audit.previous = lock ∧
        lock.step < audit.recoveryEvidence.step ∧
        audit.recoveryEvidence.value.IsProduction

/-- In a run that meets the condition every removal is right. -/
theorem removal_has_newer_evidence
    (events : List LockEvent)
    (event : LockEvent)
    (runtime next : LockRuntime)
    (meets :
      lockService.machine.RunMeets (Service.Meets ClearsWhatItRead)
        { db := LockStore.initial, tasks := [] } (events ++ [event]))
    (run :
      lockService.machine.run { db := LockStore.initial, tasks := [] }
        events = some runtime)
    (step : lockService.machine.step runtime event = some next) :
    RemovalIsRight runtime.db next.db := by
  obtain ⟨leadingMeets, lastMeets⟩ := meets.split
  have holds := Service.Holds.run lockService_keeps
    (Service.Holds.idle LockStore.initial_ordered) leadingMeets run
  intro lock stored removed
  rcases Service.step_db_cases step with
    same | ⟨position, input, task, answer, rfl, found, committed⟩
  · rw [same, stored] at removed
    cases removed
  · obtain ⟨audit, rfl, stores⟩ :=
      commits_removes_lock committed stored removed
    have inOrder := holds.tasks _ (List.mem_of_getElem? found)
    have met := (lastMeets runtime run).1 _ found
    obtain ⟨rfl, ready⟩ := met lock stored
    exact ⟨audit, stores, rfl, inOrder.2.2 stored,
      inOrder.1.isProduction ready⟩

/-- A step at some time, with a controller that answers as it should. -/
def lockInput (elapsed : Nat) (fault : Option LowerControllerFault) :
    LockInput where
  elapsed := elapsed
  status :=
    { adapter := "serial", online := fault.isNone, message := "checked"
      portPath := some "COM3", lowerControllerFault := fault }
  reset :=
    { adapter := "serial", status := .succeeded, message := "reset"
      portPath := some "COM3" }
  activeSlotId := none

/-- The watcher finds a faulty controller and records a lock. -/
def lockByWatcher (position : Nat) : List LockEvent :=
  [.submit .watchHardware,
    .advance position (lockInput 5 (some .sharedMechanical)),
    .advance position (lockInput 0 none)]

/-- A fault reset reads the lock, resets, and stores its evidence. -/
def resetUntilStored : List LockEvent :=
  [.submit (.faultReset "cleared by hand"),
    .advance 0 (lockInput 1 none),
    .advance 0 (lockInput 2 none),
    .advance 0 (lockInput 1 none)]

/-- The removal after a comparison. -/
def compareFault : LockEvent := .advance 0 (lockInput 0 none)

/-- A fault reset without interference removes the lock that it read. -/
theorem removal_has_newer_evidence_reset :
    ∃ runtime next,
      lockService.machine.run { db := LockStore.initial, tasks := [] }
          (lockByWatcher 0 ++ resetUntilStored ++ [compareFault]) =
        some runtime ∧
      lockService.machine.step runtime (.advance 0 (lockInput 0 none)) =
        some next ∧
      runtime.db.wholeMachineMaintenanceLock.isSome = true ∧
      next.db.wholeMachineMaintenanceLock = none ∧
      RemovalIsRight runtime.db next.db :=
  ⟨_, _, rfl, rfl, by decide +kernel, by decide +kernel,
    removal_has_newer_evidence
      (lockByWatcher 0 ++ resetUntilStored ++ [compareFault])
      (.advance 0 (lockInput 0 none)) _ _ (by decide +kernel) rfl rfl⟩

/--
The watcher records a new lock after the reset.  It has the same codes as the
one that was read, so the fault reset takes it for the same and removes it.
-/
theorem removal_has_newer_evidence_fails_for_newer_lock :
    ¬ ∀ (events : List LockEvent) (event : LockEvent)
        (runtime next : LockRuntime),
      lockService.machine.run { db := LockStore.initial, tasks := [] }
          events = some runtime →
        lockService.machine.step runtime event = some next →
          RemovalIsRight runtime.db next.db := by
  intro always
  obtain ⟨audit, stores, previous, _⟩ := always
    (lockByWatcher 0 ++ resetUntilStored ++ lockByWatcher 1 ++
      [compareFault])
    (.advance 0 (lockInput 0 none)) _ _ rfl rfl _ rfl rfl
  have last := congrArg
    (fun audits => audits.getLast?.map
      WholeMachineMaintenanceLockClearAudit.previous) stores
  dsimp only at last
  rw [List.getLast?_concat, Option.map_some, previous] at last
  revert last
  decide +kernel

end VendingSystem.Daemon
