import VendingSystem.DaemonSlotWrites
import VendingSystem.DaemonMachine

namespace VendingSystem.Daemon

/-!
# Platform snapshots and dispenses the platform has not seen

A snapshot is what the platform has processed by then; it reaches the daemon
at any later time, or twice, or never.  Dispense results travel in neither the
movement uploads nor the order session that the daemon looks at.
-/

/-- A dispense that a commit took off a slot. -/
structure CommittedDispense where
  commandNo : CommandNo
  slotId : SlotId
  quantity : Nat
  deriving Repr, DecidableEq

/-- A snapshot and the commands the platform had processed for it. -/
structure ComputedSnapshot where
  snapshot : MachineStockSnapshot
  processed : List CommandNo
  deriving Repr, DecidableEq

/-- What an applied snapshot made of a slot. -/
structure AppliedSlot where
  onHandQty : Int
  unprocessed : Nat
  physicalStock : Option Int
  deriving Repr, DecidableEq

/-- The daemon's store beside the platform's progress. -/
structure SnapshotExchange where
  store : Store
  dispensed : List CommittedDispense
  processed : List CommandNo
  computed : List ComputedSnapshot
  applied : List AppliedSlot
  deriving DecidableEq

def SnapshotExchange.initial (store : Store) : SnapshotExchange where
  store := store
  dispensed := []
  processed := []
  computed := []
  applied := []

inductive ExchangeEvent where
  | transact (timed : TimedStockEvent)
  | platformProcesses (commandNo : CommandNo)
  | platformComputes (snapshot : MachineStockSnapshot)
  | applySnapshot (position : Nat) (now : Time)
  deriving DecidableEq

/-- The dispense that a transaction took off a slot, if it did. -/
def newlyDispensed
    (before after : Store) : StockEvent → List CommittedDispense
  | .commitDispense command _ _ =>
    match before.stockMovements.find? (.dispense command.commandNo),
        after.stockMovements.find? (.dispense command.commandNo) with
    | none, some movement =>
      [{ commandNo := command.commandNo
         slotId := movement.slotId
         quantity := command.quantity }]
    | _, _ => []
  | _ => []

def StockEvent.isSnapshot : StockEvent → Bool
  | .applySnapshot _ => true
  | _ => false

/-- What was dispensed from a slot and not processed for a snapshot. -/
def SnapshotExchange.unprocessed
    (exchange : SnapshotExchange)
    (computed : ComputedSnapshot)
    (slotId : SlotId) : List CommittedDispense :=
  exchange.dispensed.filter fun dispense =>
    dispense.slotId == slotId &&
      !computed.processed.contains dispense.commandNo

def SnapshotExchange.appliedSlots
    (exchange : SnapshotExchange)
    (computed : ComputedSnapshot)
    (after : Store) : List AppliedSlot :=
  computed.snapshot.slots.map fun slot =>
    { onHandQty := slot.onHandQty
      unprocessed :=
        ((exchange.unprocessed computed slot.slotId).map
          CommittedDispense.quantity).sum
      physicalStock := after.physicalStockOf slot.slotId }

/-- Apply a computed snapshot; one that is deferred or rejected is dropped. -/
def SnapshotExchange.apply
    (exchange : SnapshotExchange)
    (computed : ComputedSnapshot)
    (now : Time) : SnapshotExchange :=
  match (applyPlatformStockSnapshot computed.snapshot now).execute
      exchange.store with
  | (.ok _, after) =>
    { exchange with
      store := after
      applied := exchange.applied ++
        exchange.appliedSlots computed after }
  | (.error _, _) => exchange

/-- A result is processed after its dispense; the rest happens in any order. -/
def SnapshotExchange.step (exchange : SnapshotExchange) :
    ExchangeEvent → Option SnapshotExchange
  | .transact timed =>
    if timed.event.isSnapshot then none
    else
      let after := exchange.store.perform timed.now timed.event
      some { exchange with
        store := after
        dispensed := exchange.dispensed ++
          newlyDispensed exchange.store after timed.event }
  | .platformProcesses commandNo =>
    if exchange.dispensed.any
        (fun dispense => dispense.commandNo == commandNo) then
      some { exchange with processed := commandNo :: exchange.processed }
    else none
  | .platformComputes snapshot =>
    some { exchange with
      computed := exchange.computed ++
        [{ snapshot := snapshot, processed := exchange.processed }] }
  | .applySnapshot position now =>
    exchange.computed[position]?.map fun computed =>
      exchange.apply computed now

def exchangeMachine : Machine SnapshotExchange ExchangeEvent where
  step := SnapshotExchange.step

/-- The slot holds no more than the platform has, less what it has not seen. -/
def AppliedSlot.KeepsDispenses (slot : AppliedSlot) : Prop :=
  ∀ physical ∈ slot.physicalStock,
    physical ≤ slot.onHandQty - slot.unprocessed

/-- No applied snapshot gave back what was dispensed. -/
def DispensesKept (exchange : SnapshotExchange) : Prop :=
  ∀ slot ∈ exchange.applied, slot.KeepsDispenses

/--
A snapshot that is neither deferred nor rejected was computed after the
platform had processed every dispense of its slots.
-/
def SnapshotCurrent (exchange : SnapshotExchange) : ExchangeEvent → Prop
  | .applySnapshot position now =>
    ∀ computed ∈ exchange.computed[position]?,
      ((applyPlatformStockSnapshot computed.snapshot now).execute
        exchange.store).1 = .ok () →
      ∀ slot ∈ computed.snapshot.slots,
        ∀ dispense ∈ exchange.dispensed,
          dispense.slotId = slot.slotId →
            dispense.commandNo ∈ computed.processed ∨
              dispense.quantity = 0
  | _ => True

variable {version : PlanogramVersion} {now : Time} {before : Store}
  {slots : List MachineStockSnapshotSlot} {seen : List SlotId}

theorem physicalStockOf_projectSnapshotSlot
    {store next : Store}
    {slot : MachineStockSnapshotSlot}
    (projected :
      projectSnapshotSlot store version slot now = .ok next) :
    next.physicalStockOf slot.slotId = some (max slot.onHandQty 0) := by
  unfold projectSnapshotSlot at projected
  rw [physicalStockOf_upsertSaleViewProjection projected,
    Store.physicalStockOf, find?_upsertStockProjectionWithState]
  rfl

open Transaction

theorem physicalStockOf_projectSnapshotSlots_seen
    {after : Store}
    (commits :
      (projectSnapshotSlots version now seen slots).Commits before () after)
    {slotId : SlotId}
    (known : slotId ∈ seen) :
    after.physicalStockOf slotId = before.physicalStockOf slotId := by
  induction slots generalizing before seen with
  | nil =>
    obtain ⟨_, rfl⟩ := commits_pure.mp commits
    rfl
  | cons slot rest inductionHypothesis =>
    unfold projectSnapshotSlots at commits
    simp only [commits_require_bind, commits_get_bind,
      commits_ofExcept_bind, commits_statement_bind] at commits
    obtain ⟨fresh, _, _, middle, projected, later⟩ := commits
    have differs : slotId ≠ slot.slotId := by
      rintro rfl
      simp [known] at fresh
    rw [inductionHypothesis later (List.mem_cons_of_mem _ known)]
    unfold Store.physicalStockOf
    rw [((TouchesOnly.projectSnapshotSlot projected).others slotId
      differs).row]

theorem physicalStockOf_projectSnapshotSlots
    {after : Store}
    (commits :
      (projectSnapshotSlots version now seen slots).Commits before () after) :
    ∀ slot ∈ slots,
      after.physicalStockOf slot.slotId = some slot.onHandQty := by
  induction slots generalizing before seen with
  | nil => simp
  | cons slot rest inductionHypothesis =>
    unfold projectSnapshotSlots at commits
    simp only [commits_require_bind, commits_get_bind,
      commits_ofExcept_bind, commits_statement_bind] at commits
    obtain ⟨_, _, checked, middle, projected, later⟩ := commits
    intro other member
    rcases List.mem_cons.mp member with rfl | inRest
    · rw [physicalStockOf_projectSnapshotSlots_seen later
        List.mem_cons_self, physicalStockOf_projectSnapshotSlot projected]
      have notNegative : 0 ≤ other.onHandQty := by
        unfold checkSnapshotSlot at checked
        split at checked
        · cases checked
        · omega
      rw [max_eq_left notNegative]
    · exact inductionHypothesis later other inRest

theorem physicalStockOf_applyPlatformStockSnapshot
    {after : Store}
    {snapshot : MachineStockSnapshot}
    (commits :
      (applyPlatformStockSnapshot snapshot now).Commits before () after) :
    ∀ slot ∈ snapshot.slots,
      after.physicalStockOf slot.slotId = some slot.onHandQty := by
  unfold applyPlatformStockSnapshot at commits
  simp only [commits_get_bind, commits_require_bind] at commits
  obtain ⟨_, _, _, _, projected⟩ := commits
  exact physicalStockOf_projectSnapshotSlots projected

theorem unprocessed_sum_eq_zero_iff
    (exchange : SnapshotExchange)
    (computed : ComputedSnapshot)
    (slotId : SlotId) :
    ((exchange.unprocessed computed slotId).map
        CommittedDispense.quantity).sum = 0 ↔
      ∀ dispense ∈ exchange.dispensed, dispense.slotId = slotId →
        dispense.commandNo ∈ computed.processed ∨
          dispense.quantity = 0 := by
  simp only [SnapshotExchange.unprocessed, List.sum_eq_zero_iff,
    List.mem_map, List.mem_filter, Bool.and_eq_true, beq_iff_eq,
    Bool.not_eq_true', List.contains_eq_mem, decide_eq_false_iff_not]
  constructor
  · intro none dispense member sameSlot
    by_cases processed : dispense.commandNo ∈ computed.processed
    · exact Or.inl processed
    · exact Or.inr (none _ ⟨dispense, ⟨member, sameSlot, processed⟩, rfl⟩)
  · rintro all _ ⟨dispense, ⟨member, sameSlot, notProcessed⟩, rfl⟩
    exact (all dispense member sameSlot).resolve_left notProcessed

theorem keepsDispenses_iff
    {slot : AppliedSlot}
    (physical : slot.physicalStock = some slot.onHandQty) :
    slot.KeepsDispenses ↔ slot.unprocessed = 0 := by
  unfold AppliedSlot.KeepsDispenses
  simp only [physical, Option.mem_def, Option.some.injEq, forall_eq']
  omega

theorem SnapshotExchange.appliedSlots_keep_iff
    (exchange : SnapshotExchange)
    {computed : ComputedSnapshot}
    {after : Store}
    (commits :
      (applyPlatformStockSnapshot computed.snapshot now).Commits
        exchange.store () after) :
    (∀ slot ∈ exchange.appliedSlots computed after, slot.KeepsDispenses) ↔
      ∀ slot ∈ computed.snapshot.slots,
        ∀ dispense ∈ exchange.dispensed,
          dispense.slotId = slot.slotId →
            dispense.commandNo ∈ computed.processed ∨
              dispense.quantity = 0 := by
  unfold SnapshotExchange.appliedSlots
  simp only [List.mem_map, forall_exists_index, and_imp,
    forall_apply_eq_imp_iff₂]
  refine forall₂_congr fun slot member => ?_
  rw [keepsDispenses_iff
    (physicalStockOf_applyPlatformStockSnapshot commits slot member)]
  exact unprocessed_sum_eq_zero_iff exchange computed slot.slotId

theorem SnapshotExchange.dispensesKept_step_iff
    {exchange next : SnapshotExchange}
    {event : ExchangeEvent}
    (step : exchange.step event = some next) :
    DispensesKept next ↔
      DispensesKept exchange ∧ SnapshotCurrent exchange event := by
  cases event with
  | transact timed =>
    simp only [SnapshotExchange.step,
      Option.ite_none_left_eq_some] at step
    obtain ⟨_, same⟩ := step
    cases same
    exact (and_iff_left trivial).symm
  | platformProcesses commandNo =>
    simp only [SnapshotExchange.step,
      Option.ite_none_right_eq_some] at step
    obtain ⟨_, same⟩ := step
    cases same
    exact (and_iff_left trivial).symm
  | platformComputes snapshot =>
    cases step
    exact (and_iff_left trivial).symm
  | applySnapshot position now =>
    simp only [SnapshotExchange.step, Option.map_eq_some_iff] at step
    obtain ⟨computed, found, rfl⟩ := step
    unfold SnapshotCurrent SnapshotExchange.apply
    simp only [found, Option.mem_def, Option.some.injEq, forall_eq']
    rcases execute_cases
        (applyPlatformStockSnapshot computed.snapshot now)
        exchange.store with
      ⟨refusal, refused⟩ | ⟨_, after, commits, executed⟩
    · simp only [refused, reduceCtorEq, false_implies, and_true]
    · simp only [executed, true_implies]
      rw [← exchange.appliedSlots_keep_iff commits]
      unfold DispensesKept
      simp only [List.mem_append, or_imp, forall_and]

/--
In every run, the applied snapshots give back nothing that was dispensed if and
only if each of them was computed after the platform had processed every
dispense of its slots.
-/
theorem dispensesKept_iff_snapshotsCurrent
    {store : Store}
    {events : List ExchangeEvent}
    {last : SnapshotExchange}
    (run : exchangeMachine.run (SnapshotExchange.initial store) events =
      some last) :
    DispensesKept last ↔
      exchangeMachine.RunMeets SnapshotCurrent
        (SnapshotExchange.initial store) events := by
  have general : ∀ first, exchangeMachine.run first events = some last →
      (DispensesKept last ↔ DispensesKept first ∧
        exchangeMachine.RunMeets SnapshotCurrent first events) := by
    clear run
    induction events with
    | nil =>
      intro first run
      cases run
      exact (and_iff_left trivial).symm
    | cons event rest inductionHypothesis =>
      intro first run
      obtain ⟨next, step, later⟩ := Machine.run_cons_iff.mp run
      rw [inductionHypothesis next later,
        SnapshotExchange.dispensesKept_step_iff step, and_assoc]
      refine and_congr_right fun _ => and_congr_right fun _ => ?_
      refine ⟨fun meets other stepped => ?_, fun meets => meets next step⟩
      rw [step] at stepped
      cases stepped
      exact meets
  have nothing : DispensesKept (SnapshotExchange.initial store) := by
    simp [DispensesKept, SnapshotExchange.initial]
  rw [general _ run]
  exact and_iff_right nothing

/-- The platform's stock of the one slot. -/
def oneSlotSnapshot (onHandQty : Int) : MachineStockSnapshot where
  planogramVersion := 1
  slots :=
    [{ slotId := 5
       inventoryId := 50
       capacity := 10
       onHandQty := onHandQty
       reservedQty := 0
       availableQty := onHandQty
       slotSalesState := none }]

/-- The daemon commits the journaled dispense. -/
def commitOneSlot : ExchangeEvent :=
  .transact
    { now := 106
      event := .commitDispense oneSlotCommand dispensedResult (1, 5) }

/-- The result is processed before the snapshot is computed. -/
def currentSnapshotRun : List ExchangeEvent :=
  [commitOneSlot, .platformProcesses 1,
    .platformComputes (oneSlotSnapshot 3), .applySnapshot 0 107]

/-- The result is still in the outbox when the snapshot is computed. -/
def olderSnapshotRun : List ExchangeEvent :=
  [commitOneSlot, .platformComputes (oneSlotSnapshot 4),
    .applySnapshot 0 107]

/-- The exchange after a run, or its initial state if it is impossible. -/
def SnapshotExchange.after (events : List ExchangeEvent) :
    SnapshotExchange :=
  (exchangeMachine.run (.initial dispensedStore) events).getD
    (.initial dispensedStore)

theorem SnapshotExchange.run_after
    {events : List ExchangeEvent}
    (possible : (exchangeMachine.run (.initial dispensedStore)
      events).isSome = true) :
    exchangeMachine.run (.initial dispensedStore) events =
      some (SnapshotExchange.after events) := by
  obtain ⟨exchange, run⟩ := Option.isSome_iff_exists.mp possible
  rw [SnapshotExchange.after, run, Option.getD_some]

/-- The snapshot that leaves the slot at three is current. -/
theorem dispensesKept_iff_snapshotsCurrent_processed :
    exchangeMachine.RunMeets SnapshotCurrent (.initial dispensedStore)
        currentSnapshotRun ∧
      (SnapshotExchange.after currentSnapshotRun).applied =
        [{ onHandQty := 3, unprocessed := 0, physicalStock := some 3 }] := by
  have possible : (exchangeMachine.run (.initial dispensedStore)
      currentSnapshotRun).isSome = true := by
    decide +kernel
  have applied : (SnapshotExchange.after currentSnapshotRun).applied =
      [{ onHandQty := 3, unprocessed := 0, physicalStock := some 3 }] := by
    decide +kernel
  have kept : DispensesKept (SnapshotExchange.after currentSnapshotRun) := by
    unfold DispensesKept
    rw [applied]
    simp [AppliedSlot.KeepsDispenses]
  exact ⟨(dispensesKept_iff_snapshotsCurrent
    (SnapshotExchange.run_after possible)).mp kept, applied⟩

/--
A snapshot computed while the result is still in the outbox puts the dispensed
item back into the slot.
-/
theorem dispensesKept_fails_for_olderSnapshot :
    ¬ ∀ events last,
      exchangeMachine.run (.initial dispensedStore) events = some last →
      DispensesKept last := by
  intro always
  have possible : (exchangeMachine.run (.initial dispensedStore)
      olderSnapshotRun).isSome = true := by
    decide +kernel
  have applied : (SnapshotExchange.after olderSnapshotRun).applied =
      [{ onHandQty := 4, unprocessed := 1, physicalStock := some 4 }] := by
    decide +kernel
  have kept := always _ _ (SnapshotExchange.run_after possible)
  unfold DispensesKept at kept
  rw [applied] at kept
  have bound := kept _ List.mem_cons_self 4 rfl
  revert bound
  decide

end VendingSystem.Daemon
