import VendingSystem.DaemonMachine
import VendingSystem.DaemonOrderTasks

namespace VendingSystem.Daemon

/-!
# Settled orders that are reopened

Nothing in the daemon compares a stored row with the information that
overwrites it.  A settled session is reopened when older information about it
is still waiting to be applied.
-/

/-- The actions with which an order goes on. -/
def opensOrder (action : String) : Bool :=
  ["wait_payment", "dispensing"].contains action

/-- The write reopened the order on information older than another write. -/
structure Reopens (settled later : SessionWrite) : Prop where
  sameOrder : later.orderNo = settled.orderNo
  terminal : orderSessionTerminalNextAction settled.after = true
  after : settled.writtenAt < later.writtenAt
  outdated : later.informedAt ≤ settled.writtenAt
  opens : opensOrder later.after = true
  changes : later.before ≠ some later.after

/-- No settled order was reopened on information from before. -/
def TerminalKept (daemon : OrderDaemon) : Prop :=
  ∀ settled ∈ daemon.writes, ∀ later ∈ daemon.writes,
    ¬ Reopens settled later

/-- The order that the work will let go on, and since when it knows. -/
def OrderTask.openInformation : OrderTask → Option (OrderNo × Nat)
  | .answered _ orderNo status asOf =>
    if status.nextAction.any opensOrder then some (orderNo, asOf) else none
  | .upserting _ input asOf =>
    if opensOrder input.nextAction then some (input.orderNo, asOf)
    else none
  | _ => none

/-- The order that the work's next step may settle. -/
def OrderTask.settles : OrderTask → Option OrderNo
  | .upserting _ input _ =>
    if orderSessionTerminalNextAction input.nextAction then
      some input.orderNo
    else none
  | .restoring snapshot _ _ =>
    if orderSessionTerminalNextAction snapshot.nextAction then
      some snapshot.orderNo
    else none
  | .committing command _ => some command.orderNo
  | _ => none

/-- The snapshot that the work's next step restores. -/
def OrderTask.restores : OrderTask → Option CurrentTransaction
  | .restoring snapshot _ _ => some snapshot
  | _ => none

/--
An order is settled only while no other work holds information with which the
order goes on, and a snapshot is restored only over the action it shows.
-/
def Undisturbed (daemon : OrderDaemon) : OrderEvent → Prop
  | .advance position _ =>
    ∀ task ∈ daemon.tasks[position]?,
      (∀ orderNo ∈ task.settles,
        ∀ other ∈ daemon.tasks.eraseIdx position,
          ∀ known ∈ other.openInformation, known.1 ≠ orderNo) ∧
      ∀ snapshot ∈ task.restores,
        daemon.store.nextActionOf snapshot.orderNo =
          some snapshot.nextAction
  | _ => True

instance (daemon : OrderDaemon) :
    ∀ event, Decidable (Undisturbed daemon event)
  | .advance position _ => by
    unfold Undisturbed
    infer_instance
  | .begin _
  | .fail _
  | .elsewhere _
  | .crash => isTrue trivial

/-- The write is the one that the work's next step makes. -/
def OrderTask.Writes (task : OrderTask) (write : SessionWrite) : Prop :=
  match task with
  | .upserting _ input asOf =>
    write.orderNo = input.orderNo ∧ write.informedAt = asOf ∧
      write.after = input.nextAction
  | .restoring snapshot _ _ =>
    write.orderNo = snapshot.orderNo ∧
      write.after = snapshot.nextAction
  | .committing command result =>
    write.orderNo = command.orderNo ∧ write.after = result.nextAction
  | _ => False

/-- What the next step of a piece of work did. -/
inductive Performed
    (daemon after : OrderDaemon)
    (task : OrderTask)
    (followUps : List OrderTask) : Prop where
  | learned
      (writes : after.writes = daemon.writes)
      (informed : ∀ followUp ∈ followUps,
        ∀ known ∈ followUp.openInformation,
          known.2 = daemon.clock ∨ task.openInformation = some known)
  | wrote
      (write : SessionWrite)
      (writes : after.writes = daemon.writes ++ [write])
      (writtenAt : write.writtenAt = daemon.clock)
      (before : write.before = daemon.store.nextActionOf write.orderNo)
      (owned : task.Writes write)
      (ignorant : ∀ followUp ∈ followUps, followUp.openInformation = none)

variable {followUps : List OrderTask}

/-- A step that writes no action and learns nothing. -/
theorem Performed.quiet
    {daemon after : OrderDaemon}
    {task : OrderTask}
    (writes : after.writes = daemon.writes)
    (ignorant : ∀ followUp ∈ followUps, followUp.openInformation = none) :
    Performed daemon after task followUps := by
  refine .learned writes fun followUp member known information => ?_
  rw [ignorant followUp member] at information
  cases information

theorem Caller.followUps_ignorant
    (caller : Caller)
    (store : Store)
    (orderNo : OrderNo) :
    ∀ followUp ∈ caller.followUps store orderNo,
      followUp.openInformation = none := by
  intro followUp member
  cases caller with
  | refresh
  | cancel => cases member
  | poll
  | submit _ _ =>
    simp only [Caller.followUps, List.mem_ite_nil_right,
      List.mem_singleton] at member
    rw [member.2]
    rfl

theorem openInformation_merged
    {caller : Caller}
    {record : OrderSession}
    {status : BackendStatus}
    {asOf clock : Nat}
    {known : OrderNo × Nat}
    (information : known ∈ OrderTask.openInformation
      (.upserting caller (record.mergedWith status)
        (if status.nextAction.isSome then asOf else clock))) :
    known.2 = clock ∨
      OrderTask.openInformation
        (.answered caller record.orderNo status asOf) = some known := by
  cases answered : status.nextAction with
  | none =>
    left
    simp only [OrderTask.openInformation, answered, Option.isSome_none,
      Bool.false_eq_true, ↓reduceIte, Option.mem_def,
      Option.ite_none_right_eq_some, Option.some.injEq] at information
    rw [← information.2]
  | some action =>
    right
    simp only [OrderTask.openInformation, OrderSession.mergedWith,
      answered, Option.getD_some, Option.isSome_some, ↓reduceIte,
      Option.mem_def, Option.ite_none_right_eq_some,
      Option.some.injEq] at information
    simp only [OrderTask.openInformation, answered, Option.any_some,
      information.1, ↓reduceIte, information.2]

/-- The next step of every piece of work, told by its writes. -/
theorem OrderDaemon.perform_performed
    {daemon after : OrderDaemon}
    {input : OrderInput}
    {task : OrderTask}
    (performed : daemon.perform input task = some (after, followUps)) :
    Performed daemon after task followUps := by
  cases task with
  | refresh =>
    simp only [OrderDaemon.perform] at performed
    split at performed <;> cases performed
    · refine Performed.quiet rfl fun followUp member => ?_
      split at member
      · cases member
      · rw [List.mem_singleton.mp member]
        rfl
    · exact Performed.quiet rfl (by simp)
  | request caller orderNo =>
    simp only [OrderDaemon.perform] at performed
    split at performed <;> cases performed
    · rename_i status _ _
      refine .learned rfl fun followUp member known information => ?_
      rw [List.mem_singleton.mp member] at information
      simp only [OrderTask.openInformation, Option.mem_def,
        Option.ite_none_right_eq_some, Option.some.injEq] at information
      exact Or.inl (by rw [← information.2])
    · exact Performed.quiet rfl (by simp [OrderTask.openInformation])
    · exact Performed.quiet rfl (by simp)
  | answered caller orderNo status asOf =>
    simp only [OrderDaemon.perform] at performed
    split at performed
    · cases performed
    · split at performed <;> cases performed
      · exact Performed.quiet rfl (by simp)
      · rename_i record found
        refine .learned rfl fun followUp member known information => ?_
        rw [List.mem_singleton.mp member] at information
        have merged := openInformation_merged information
        rwa [Table.key_of_find? found] at merged
  | upserting caller upsert asOf =>
    simp only [OrderDaemon.perform] at performed
    split at performed <;> cases performed
    · exact Performed.quiet rfl (by simp)
    · exact Performed.wrote _ rfl rfl rfl ⟨rfl, rfl, rfl⟩
        (caller.followUps_ignorant _ _)
  | scanned scan =>
    simp only [OrderDaemon.perform] at performed
    split at performed
    · cases performed
    · split at performed
      · split at performed <;> cases performed
        · exact Performed.quiet rfl (by simp [OrderTask.openInformation])
        · exact Performed.quiet rfl (by simp)
      · cases performed
        exact Performed.quiet rfl (by simp)
  | beginning scan snapshot asOf =>
    simp only [OrderDaemon.perform] at performed
    split at performed <;> cases performed
    · exact Performed.quiet rfl (by simp)
    · exact Performed.quiet rfl (by simp [OrderTask.openInformation])
  | submitting scan snapshot asOf retries =>
    simp only [OrderDaemon.perform] at performed
    split at performed
    · split at performed <;> cases performed <;>
        exact Performed.quiet rfl (by simp [OrderTask.openInformation])
    · cases performed
      exact Performed.quiet rfl (by simp)
  | finishing snapshot asOf response =>
    simp only [OrderDaemon.perform] at performed
    cases performed
    refine Performed.quiet rfl fun followUp member => ?_
    split at member
    · rw [List.mem_singleton.mp member]
      rfl
    · cases member
  | restoring snapshot asOf error =>
    simp only [OrderDaemon.perform] at performed
    split at performed <;> cases performed
    · exact Performed.quiet rfl (by simp)
    · exact Performed.wrote _ rfl rfl rfl ⟨rfl, rfl⟩
        (Caller.followUps_ignorant _ _ _)
  | committing command result =>
    simp only [OrderDaemon.perform] at performed
    split at performed <;> cases performed
    · exact Performed.quiet rfl (by simp)
    · split
      · exact Performed.wrote _ rfl rfl rfl ⟨rfl, rfl⟩ (by simp)
      · exact Performed.quiet rfl (by simp)

/-- Everything known was learned after every write that settled its order. -/
def UpToDate (daemon : OrderDaemon) (known : OrderNo × Nat) : Prop :=
  known.2 < daemon.clock ∧
    ∀ write ∈ daemon.writes, write.orderNo = known.1 →
      orderSessionTerminalNextAction write.after = true →
      write.writtenAt < known.2

/-- What every step of the daemon keeps while it is undisturbed. -/
structure FinalityInvariant (daemon : OrderDaemon) : Prop where
  past : ∀ write ∈ daemon.writes, write.writtenAt < daemon.clock
  upToDate : ∀ task ∈ daemon.tasks, ∀ known ∈ task.openInformation,
    UpToDate daemon known
  kept : TerminalKept daemon

namespace FinalityInvariant

variable {daemon next : OrderDaemon} {task : OrderTask} {write : SessionWrite}

theorem of_same_writes
    (invariant : FinalityInvariant daemon)
    (clock : next.clock = daemon.clock + 1)
    (writes : next.writes = daemon.writes)
    (tasks : ∀ task ∈ next.tasks, ∀ known ∈ task.openInformation,
      UpToDate daemon known ∨ known.2 = daemon.clock) :
    FinalityInvariant next where
  past := by
    rw [writes, clock]
    exact fun write member => Nat.lt_succ_of_lt (invariant.past write member)
  upToDate := by
    intro task member known information
    unfold UpToDate
    rw [writes, clock]
    rcases tasks task member known information with ⟨past, newer⟩ | learned
    · exact ⟨by omega, newer⟩
    · rw [learned]
      exact ⟨by omega, fun write written _ _ =>
        invariant.past write written⟩
  kept := by
    unfold TerminalKept
    rw [writes]
    exact invariant.kept

/-- A write that reopens an order knows of every write that settled it. -/
theorem not_reopens
    (invariant : FinalityInvariant daemon)
    (inHand : task ∈ daemon.tasks)
    (restoresSame : ∀ snapshot ∈ task.restores,
      daemon.store.nextActionOf snapshot.orderNo =
        some snapshot.nextAction)
    (before : write.before = daemon.store.nextActionOf write.orderNo)
    (owned : task.Writes write)
    {settled : SessionWrite}
    (earlier : settled ∈ daemon.writes) :
    ¬ Reopens settled write := by
  intro reopens
  cases task with
  | upserting caller input asOf =>
    obtain ⟨sameOrder, informedAt, action⟩ := owned
    have opens := reopens.opens
    rw [action] at opens
    have known := (invariant.upToDate _ inHand (input.orderNo, asOf)
      (by simp [OrderTask.openInformation, opens])).2 settled earlier
      (reopens.sameOrder.symm.trans sameOrder) reopens.terminal
    have outdated := reopens.outdated
    rw [informedAt] at outdated
    exact absurd known (by simpa using outdated)
  | restoring snapshot asOf error =>
    obtain ⟨sameOrder, action⟩ := owned
    have same := restoresSame snapshot rfl
    rw [← sameOrder, ← before, ← action] at same
    exact reopens.changes same
  | committing command result =>
    obtain ⟨_, action⟩ := owned
    have opens := reopens.opens
    rw [action] at opens
    revert opens
    unfold DispenseResultPayload.nextAction
    split <;> decide
  | _ => exact owned

theorem settles_of_writes
    (owned : task.Writes write)
    (terminal : orderSessionTerminalNextAction write.after = true) :
    task.settles = some write.orderNo := by
  cases task with
  | upserting caller input asOf =>
    obtain ⟨sameOrder, _, action⟩ := owned
    rw [action] at terminal
    simp [OrderTask.settles, terminal, sameOrder]
  | restoring snapshot asOf error =>
    obtain ⟨sameOrder, action⟩ := owned
    rw [action] at terminal
    simp [OrderTask.settles, terminal, sameOrder]
  | committing command result =>
    rw [owned.1]
    rfl
  | _ => exact owned.elim

/-- A piece of work taking its next step undisturbed. -/
theorem advance
    (invariant : FinalityInvariant daemon)
    {position : Nat}
    {input : OrderInput}
    (found : daemon.tasks[position]? = some task)
    (undisturbed : Undisturbed daemon (.advance position input))
    {after : OrderDaemon}
    (performed : Performed daemon after task followUps) :
    FinalityInvariant
      { after with
        clock := daemon.clock + 1
        tasks := daemon.tasks.eraseIdx position ++ followUps } := by
  obtain ⟨alone, restoresSame⟩ := undisturbed task found
  have inHand := List.mem_of_getElem? found
  cases performed with
  | learned writes informed =>
    refine invariant.of_same_writes rfl writes ?_
    intro other member known information
    rcases List.mem_append.mp member with old | new
    · exact Or.inl (invariant.upToDate other
        (List.mem_of_mem_eraseIdx old) known information)
    · rcases informed other new known information with now | earlier
      · exact Or.inr now
      · exact Or.inl (invariant.upToDate task inHand known earlier)
  | wrote write writes writtenAt before owned ignorant =>
    refine ⟨?_, ?_, ?_⟩
    · intro other member
      simp only [writes, List.mem_append, List.mem_singleton] at member
      rcases member with old | rfl
      · exact Nat.lt_succ_of_lt (invariant.past other old)
      · exact Nat.lt_succ_of_le (Nat.le_of_eq writtenAt)
    · intro other member known information
      rcases List.mem_append.mp member with old | new
      · obtain ⟨past, newer⟩ := invariant.upToDate other
          (List.mem_of_mem_eraseIdx old) known information
        refine ⟨Nat.lt_succ_of_lt past, ?_⟩
        intro other' member' sameOrder terminal
        simp only [writes, List.mem_append, List.mem_singleton] at member'
        rcases member' with earlier | rfl
        · exact newer other' earlier sameOrder terminal
        · exact (alone _ (settles_of_writes owned terminal) other old
            known information sameOrder.symm).elim
      · rw [ignorant other new] at information
        cases information
    · intro settled settledMember later laterMember reopens
      simp only [writes, List.mem_append, List.mem_singleton]
        at settledMember laterMember
      rcases laterMember with old | rfl
      · rcases settledMember with earlier | rfl
        · exact invariant.kept settled earlier later old reopens
        · have past := invariant.past later old
          have order := reopens.after
          omega
      · rcases settledMember with earlier | rfl
        · exact invariant.not_reopens inHand restoresSame before owned
            earlier reopens
        · exact absurd reopens.after (lt_irrefl _)

/-- Every step that is undisturbed keeps the settled orders settled. -/
theorem step
    (invariant : FinalityInvariant daemon)
    {event : OrderEvent}
    (undisturbed : Undisturbed daemon event)
    (step : daemon.step event = some next) :
    FinalityInvariant next := by
  cases event with
  | begin task =>
    simp only [OrderDaemon.step, Option.ite_none_right_eq_some] at step
    obtain ⟨starts, same⟩ := step
    cases same
    refine invariant.of_same_writes rfl rfl ?_
    intro other member known information
    rcases List.mem_append.mp member with old | new
    · exact Or.inl (invariant.upToDate other old known information)
    · rw [List.mem_singleton.mp new] at information
      cases task with
      | answered _ _ _ _
      | upserting _ _ _ => cases starts
      | _ => cases information
  | advance position input =>
    simp only [OrderDaemon.step, Option.bind_eq_some_iff,
      Option.map_eq_some_iff] at step
    obtain ⟨task, found, ⟨after, followUps⟩, performed, rfl⟩ := step
    exact invariant.advance found undisturbed
      (OrderDaemon.perform_performed performed)
  | fail position =>
    simp only [OrderDaemon.step, Option.map_eq_some_iff] at step
    obtain ⟨task, _, rfl⟩ := step
    exact invariant.of_same_writes rfl rfl
      fun other member known information =>
        Or.inl (invariant.upToDate other (List.mem_of_mem_eraseIdx member)
          known information)
  | elsewhere after =>
    simp only [OrderDaemon.step, Option.ite_none_right_eq_some] at step
    obtain ⟨_, same⟩ := step
    cases same
    exact invariant.of_same_writes rfl rfl
      fun other member known information =>
        Or.inl (invariant.upToDate other member known information)
  | crash =>
    cases step
    exact invariant.of_same_writes rfl rfl (by simp)

theorem initial (store : Store) :
    FinalityInvariant (OrderDaemon.initial store) where
  past := by simp [OrderDaemon.initial]
  upToDate := by simp [OrderDaemon.initial]
  kept := by simp [TerminalKept, OrderDaemon.initial]

end FinalityInvariant

/--
In every run whose steps are undisturbed, no settled order is reopened on
information from before it was settled.
-/
theorem terminalKept_of_undisturbed
    {store : Store}
    {events : List OrderEvent}
    {daemon : OrderDaemon}
    (undisturbed : orderMachine.RunMeets Undisturbed
      (OrderDaemon.initial store) events)
    (run : orderMachine.run (OrderDaemon.initial store) events =
      some daemon) :
    TerminalKept daemon := by
  have invariant : FinalityInvariant daemon :=
    Machine.run_keeps_of_meets
      (fun holds meets step => holds.step meets step)
      (FinalityInvariant.initial store) undisturbed run
  exact invariant.kept

/-- The backend's answer about the order, with its next action. -/
def orderAnswer (nextAction : String) : OrderInput where
  now := 107
  preferred := (1, 5)
  answer := .ok { BackendStatus.blank with nextAction := some nextAction }
  response := none

/-- The poller gets its answer, the dispense commits, the answer is applied. -/
def polledCommitRun (nextAction : String) : List OrderEvent :=
  [.begin (.request .poll 11),
    .advance 0 (orderAnswer nextAction),
    .begin (.committing oneSlotCommand dispensedResult),
    .advance 1 (orderAnswer nextAction),
    .advance 0 (orderAnswer nextAction),
    .advance 0 (orderAnswer nextAction)]

/-- The daemon after a run, or its initial state if the run is impossible. -/
def OrderDaemon.after (store : Store) (events : List OrderEvent) :
    OrderDaemon :=
  (orderMachine.run (OrderDaemon.initial store) events).getD
    (OrderDaemon.initial store)

theorem OrderDaemon.run_after
    {store : Store}
    {events : List OrderEvent}
    (possible :
      (orderMachine.run (OrderDaemon.initial store) events).isSome = true) :
    orderMachine.run (OrderDaemon.initial store) events =
      some (OrderDaemon.after store events) := by
  obtain ⟨daemon, run⟩ := Option.isSome_iff_exists.mp possible
  rw [OrderDaemon.after, run, Option.getD_some]

/-- An older answer that the order is refunded does not reopen it. -/
theorem terminalKept_of_undisturbed_refunded :
    TerminalKept
        (OrderDaemon.after dispensedStore (polledCommitRun "refunded")) ∧
      (OrderDaemon.after dispensedStore
        (polledCommitRun "refunded")).store.nextActionOf 11 =
          some "refunded" := by
  have undisturbed : orderMachine.RunMeets Undisturbed
      (OrderDaemon.initial dispensedStore) (polledCommitRun "refunded") := by
    decide +kernel
  have possible : (orderMachine.run (OrderDaemon.initial dispensedStore)
      (polledCommitRun "refunded")).isSome = true := by
    decide +kernel
  exact ⟨terminalKept_of_undisturbed undisturbed
      (OrderDaemon.run_after possible),
    by decide +kernel⟩

/--
An answer that the order is dispensing, computed before the dispense was
committed and applied after it, takes the order back to dispensing.
-/
theorem terminalKept_fails_for_olderAnswer :
    ¬ ∀ events daemon,
      orderMachine.run (OrderDaemon.initial dispensedStore) events =
        some daemon →
      TerminalKept daemon := by
  intro always
  have possible : (orderMachine.run (OrderDaemon.initial dispensedStore)
      (polledCommitRun "dispensing")).isSome = true := by
    decide +kernel
  have kept := always _ _ (OrderDaemon.run_after possible)
  have writes : (OrderDaemon.after dispensedStore
      (polledCommitRun "dispensing")).writes =
        [{ orderNo := 11
           informedAt := 3
           writtenAt := 3
           before := some "dispensing"
           after := "success" },
         { orderNo := 11
           informedAt := 1
           writtenAt := 5
           before := some "success"
           after := "dispensing" }] := by
    decide +kernel
  unfold TerminalKept at kept
  rw [writes] at kept
  refine kept _ (List.mem_cons_self) _
    (List.mem_cons_of_mem _ List.mem_cons_self) ?_
  exact
    { sameOrder := rfl
      terminal := by decide
      after := by decide
      outdated := by decide
      opens := by decide
      changes := by decide }

end VendingSystem.Daemon
