import VendingSystem.DaemonRefillSubmissions

namespace VendingSystem.Daemon

/-!
# Refills over whole runs

A task is current until it is superseded, and a superseded task never becomes
current again; while it is current its batch is kept.  So the additions of a
task are committed once, and what is submitted for it later is compared with
the batch, as long as that is kept, or refused.
-/

/-- The tasks of applied refills were issued and, while current, have a batch. -/
structure TasksSound (state : MaintenanceStore) : Prop where
  current : ∀ identity, state.stockMaintenanceRefillTask = some identity →
    identity.taskId < state.nextTaskId
  issued : ∀ input ∈ state.applied, input.taskId < state.nextTaskId
  once :
    (state.applied.map StockMaintenanceBatchInput.taskId).Nodup
  stored : ∀ input ∈ state.applied, ∀ identity,
    state.stockMaintenanceRefillTask = some identity →
    identity.taskId = input.taskId →
      state.store.stockMaintenanceBatches.find? input.taskId ≠ none
  normalized : ∀ input ∈ state.applied, ∀ batch,
    state.store.stockMaintenanceBatches.find? input.taskId = some batch →
      NormalizesTo input batch.slots
  listed : ∀ input ∈ state.applied, ∀ identity,
    state.stockMaintenanceRefillTask = some identity →
    identity.taskId = input.taskId →
      ∀ slot ∈ input.slots, slot.slotId ∈ identity.slots.map
        StockMaintenanceTaskIdentitySlot.slotId

namespace TasksSound

variable {before : MaintenanceStore}

/-- Reading the current task supersedes one task by a fresh one at most. -/
theorem reads
    {after : MaintenanceStore}
    (sound : TasksSound before)
    (reads : ReadsTask before after)
    (batches : after.store.stockMaintenanceBatches =
      before.store.stockMaintenanceBatches) :
    TasksSound after := by
  have earlier : ∀ input ∈ after.applied, ∀ identity,
      after.stockMaintenanceRefillTask = some identity →
      identity.taskId = input.taskId →
        input ∈ before.applied ∧
          before.stockMaintenanceRefillTask = some identity := by
    intro input member identity named same
    rw [reads.applied] at member
    rcases reads.refillTask with kept | ⟨fresh, isFresh, taskId, _⟩
    · exact ⟨member, kept ▸ named⟩
    · rw [isFresh, Option.some.injEq] at named
      have below := sound.issued input member
      rw [← same, ← named, taskId] at below
      exact absurd below (lt_irrefl _)
  constructor
  · intro identity named
    rcases reads.refillTask with kept | ⟨fresh, isFresh, taskId, below⟩
    · exact (sound.current identity (kept ▸ named)).trans_le reads.issued
    · rw [isFresh, Option.some.injEq] at named
      rw [← named, taskId]
      exact below
  · intro input member
    rw [reads.applied] at member
    exact (sound.issued input member).trans_le reads.issued
  · rw [reads.applied]
    exact sound.once
  · intro input member identity named same
    rw [batches]
    obtain ⟨inBefore, before⟩ := earlier input member identity named same
    exact sound.stored input inBefore identity before same
  · intro input member batch found
    rw [batches] at found
    rw [reads.applied] at member
    exact sound.normalized input member batch found
  · intro input member identity named same
    obtain ⟨inBefore, before⟩ := earlier input member identity named same
    exact sound.listed input inBefore identity before same

theorem withStore
    {state : MaintenanceStore}
    {after : Store}
    (sound : TasksSound state)
    (batches : after.stockMaintenanceBatches =
      state.store.stockMaintenanceBatches) :
    TasksSound { state with store := after } :=
  sound.reads ⟨rfl, le_refl _, Or.inl rfl⟩ batches

theorem unapplied
    {opened : MaintenanceStore}
    {read : Store}
    {input : StockMaintenanceBatchInput}
    {identity : StockMaintenanceTaskIdentity}
    (sound : TasksSound opened)
    (holds : HoldsRefillTask opened input.taskId identity)
    (batches : read.stockMaintenanceBatches =
      opened.store.stockMaintenanceBatches)
    (unbatched : read.stockMaintenanceBatches.find? input.taskId = none) :
    ∀ earlier ∈ opened.applied, earlier.taskId ≠ input.taskId := by
  intro earlier member same
  refine sound.stored earlier member identity holds.named
    (holds.task.trans same.symm) ?_
  rw [same, ← batches]
  exact unbatched

/-- Applying a refill of the current task. -/
theorem applies
    {opened : MaintenanceStore}
    {read recorded : Store}
    {input : StockMaintenanceBatchInput}
    {identity : StockMaintenanceTaskIdentity}
    {refills : List NormalizedStockMaintenanceRefillSlot}
    {operatorId : Nat}
    {now : Time}
    (sound : TasksSound opened)
    (holds : HoldsRefillTask opened input.taskId identity)
    (listed : ∀ slot ∈ input.slots, slot.slotId ∈ identity.slots.map
      StockMaintenanceTaskIdentitySlot.slotId)
    (batches : read.stockMaintenanceBatches =
      opened.store.stockMaintenanceBatches)
    (applied : AppliesRefill input refills identity.planogramVersion
      operatorId now read recorded) :
    TasksSound
      { opened with
        store := recorded
        applied := opened.applied ++ [input] } := by
  have fresh := sound.unapplied holds batches applied.unbatched
  have member_cases : ∀ earlier ∈ opened.applied ++ [input],
      earlier ∈ opened.applied ∨ earlier = input := by
    intro earlier member
    simpa using member
  have lookup : ∀ taskId,
      recorded.stockMaintenanceBatches.find? taskId =
        if taskId = input.taskId then
          some ((read.stockMaintenanceBatches.find? taskId).getD
            { taskId := input.taskId
              planogramVersion := identity.planogramVersion
              operatorId := operatorId
              slots := refills
              createdAt := now })
        else opened.store.stockMaintenanceBatches.find? taskId := by
    intro taskId
    rw [applied.batch, Table.find?_insertOrIgnore, batches]
  constructor
  · exact sound.current
  · intro earlier member
    rcases member_cases earlier member with inOpened | rfl
    · exact sound.issued earlier inOpened
    · rw [← holds.task]
      exact sound.current identity holds.named
  · rw [List.map_append, List.map_singleton, List.nodup_append]
    refine ⟨sound.once, List.nodup_singleton _, ?_⟩
    intro taskId member other isInput
    rw [List.mem_singleton] at isInput
    obtain ⟨earlier, inOpened, same⟩ := List.mem_map.mp member
    rw [isInput, ← same]
    exact fresh earlier inOpened
  · intro earlier member named isNamed same
    rw [lookup]
    split
    · exact fun none => by cases none
    · rename_i differs
      rcases member_cases earlier member with inOpened | rfl
      · exact sound.stored earlier inOpened named isNamed same
      · exact absurd rfl differs
  · intro earlier member batch found
    rw [lookup] at found
    rcases member_cases earlier member with inOpened | rfl
    · rw [if_neg (fresh earlier inOpened)] at found
      exact sound.normalized earlier inOpened batch found
    · rw [if_pos rfl, applied.unbatched] at found
      cases found
      exact applied.normalizes
  · intro earlier member named isNamed same
    rcases member_cases earlier member with inOpened | rfl
    · exact sound.listed earlier inOpened named isNamed same
    · have isIdentity : named = identity :=
        Option.some.inj (isNamed.symm.trans holds.named)
      rw [isIdentity]
      exact listed

theorem answers
    {recorded : MaintenanceStore}
    (sound : TasksSound recorded)
    (duplicate : Bool)
    (now : Time) :
    TasksSound (recorded.answerWithTask duplicate now).1 := by
  obtain ⟨store, reads, _⟩ := recorded.stockMaintenanceTask_reads now
  refine sound.reads reads ?_
  rcases store with same | settled
  · exact congrArg Store.stockMaintenanceBatches same
  · exact (congrArg Store.stockMaintenanceBatches settled).trans
      (settled_sameTables recorded.store now).batches

/-- Pruning keeps the batch of the current task. -/
theorem prunes
    (sound : TasksSound before)
    (retentionDays : Int)
    (now : Time) :
    TasksSound
      (before.pruneAcceptedStockMovementHistory retentionDays now) := by
  generalize cutoffIs :
    now - MaintenanceStore.retention retentionDays = cutoff
  have lookup : ∀ taskId batch,
      (before.pruneAcceptedStockMovementHistory retentionDays
          now).store.stockMaintenanceBatches.find? taskId = some batch →
        before.store.stockMaintenanceBatches.find? taskId = some batch := by
    intro taskId batch found
    simp only [MaintenanceStore.pruneAcceptedStockMovementHistory,
      pruneStockMovementHistory, Daemon.pruneAcceptedStockMovementHistory,
      Table.find?_deleteWhere] at found
    exact (Option.filter_eq_some_iff.mp found).1
  refine ⟨sound.current, sound.issued, sound.once, ?_, ?_, sound.listed⟩
  · intro input member identity named same
    have kept : input.taskId ∉ before.taskIdsToPrune cutoff := by
      intro pruned
      obtain ⟨row, inRows, isRow⟩ := List.mem_map.mp pruned
      have prunable := (List.mem_filter.mp inRows).2
      simp only [MaintenanceStore.isPrunable, Bool.and_eq_true,
        Bool.not_eq_true'] at prunable
      have current : row.taskId ∈ before.protectedTaskIds := by
        unfold MaintenanceStore.protectedTaskIds
        change before.stockMaintenanceRefillTask = some identity at named
        simp [named, isRow, same]
      have protects := prunable.1.1.1.1.2
      rw [List.contains_eq_mem, decide_eq_false_iff_not] at protects
      exact protects current
    have batched := sound.stored input member identity named same
    simp only [MaintenanceStore.pruneAcceptedStockMovementHistory,
      pruneStockMovementHistory, Daemon.pruneAcceptedStockMovementHistory,
      Table.find?_deleteWhere, cutoffIs]
    cases found : before.store.stockMaintenanceBatches.find?
        input.taskId with
    | none => exact absurd found batched
    | some batch =>
      have ofTask : batch.taskId = input.taskId :=
        Table.key_of_find? found
      simp [Option.filter, ofTask, kept]
  · intro input member batch found
    exact sound.normalized input member batch (lookup _ _ found)

/-- A submission keeps the tasks sound. -/
theorem submits
    {after : MaintenanceStore}
    {input : StockMaintenanceBatchInput}
    {found : Option Store}
    {now : Time}
    {answer : Except StoreError StockMaintenanceBatchResponse}
    (sound : TasksSound before)
    (keepsBatches : ∀ read ∈ found, read.stockMaintenanceBatches =
      before.store.stockMaintenanceBatches)
    (ends : SubmissionEnds input found now before after answer) :
    TasksSound after := by
  have settledBatches :=
    (settled_sameTables before.store now).batches
  have openedSound : ∀ {opened : MaintenanceStore},
      ReadsTask before opened →
      opened.store = before.store.settled now → TasksSound opened :=
    fun reads store => sound.reads reads
      ((congrArg Store.stockMaintenanceBatches store).trans
        settledBatches)
  have foundBatches : ∀ {opened : MaintenanceStore},
      opened.store = before.store.settled now →
      (found.getD opened.store).stockMaintenanceBatches =
        opened.store.stockMaintenanceBatches := by
    intro opened store
    cases found with
    | none => rfl
    | some read =>
      rw [store, settledBatches]
      exact keepsBatches read rfl
  cases ends with
  | refused refusal reads store =>
    rcases store with same | settled
    · exact sound.reads reads (congrArg Store.stockMaintenanceBatches same)
    · exact openedSound reads settled
  | repeatsOther task reads store _ => exact openedSound reads store
  | transactionRefused refusal reads store keeps =>
    exact (openedSound reads store).withStore
      (keeps.batches.trans (foundBatches store))
  | repeats reads store _ _ _ =>
    exact ((openedSound reads store).withStore
      (foundBatches store)).answers true now
  | applies reads store holds listed applied =>
    exact ((openedSound reads store).applies holds listed
      (foundBatches store) applied).answers false now

end TasksSound

variable {after : Store} {input : StockMaintenanceBatchInput}
  {answer : Except StoreError StockMaintenanceBatchResponse}

theorem KeepsStock.stockChecked
    {before : Store}
    (keeps : KeepsStock before after)
    (checked : before.StockChecked) :
    after.StockChecked := by
  rw [stockChecked_iff] at checked ⊢
  intro slotId count counted
  rw [keeps.counts] at counted
  exact checked slotId count counted

theorem AppliesRefill.stockChecked
    {before : Store}
    {refills : List NormalizedStockMaintenanceRefillSlot}
    {version : PlanogramVersion}
    {operatorId : Nat}
    {now : Time}
    (applied :
      AppliesRefill input refills version operatorId now before after)
    (checked : before.StockChecked) :
    after.StockChecked := by
  rw [stockChecked_iff] at checked ⊢
  intro slotId count counted
  by_cases listed : slotId ∈
      refills.map NormalizedStockMaintenanceRefillSlot.slotId
  · obtain ⟨refill, member, rfl⟩ := List.mem_map.mp listed
    have projected := (applied.refilled refill member).recorded.count
    simp only [plannedRefill] at projected
    rw [projected] at counted
    cases counted
    exact le_max_right _ _
  · rw [applied.counts slotId listed] at counted
    exact checked slotId count counted

theorem answerWithTask_stockChecked
    {recorded : MaintenanceStore}
    (checked : recorded.store.StockChecked)
    (duplicate : Bool)
    (now : Time) :
    (recorded.answerWithTask duplicate now).1.store.StockChecked := by
  have settled := (settled_sameTables recorded.store now).checked checked
  rcases (recorded.stockMaintenanceTask_reads now).1 with same | isSettled
  · unfold MaintenanceStore.answerWithTask
    rw [same]
    exact checked
  · unfold MaintenanceStore.answerWithTask
    rw [isSettled]
    exact settled

/-- A submission keeps the schema's check. -/
theorem SubmissionEnds.stockChecked
    {before after : MaintenanceStore}
    {found : Option Store}
    {now : Time}
    (ends : SubmissionEnds input found now before after answer)
    (checked : before.store.StockChecked)
    (foundChecked : ∀ read ∈ found, read.StockChecked) :
    after.store.StockChecked := by
  have settled := (settled_sameTables before.store now).checked checked
  have readChecked : ∀ {opened : MaintenanceStore},
      opened.store = before.store.settled now →
        (found.getD opened.store).StockChecked := by
    intro opened store
    cases found with
    | none =>
      rw [Option.getD_none, store]
      exact settled
    | some read => exact foundChecked read rfl
  cases ends with
  | refused refusal reads store =>
    rcases store with same | isSettled
    · rw [same]
      exact checked
    · rw [isSettled]
      exact settled
  | repeatsOther task reads store _ =>
    rw [store]
    exact settled
  | transactionRefused refusal reads store keeps =>
    exact keeps.stockChecked (readChecked store)
  | repeats reads store _ _ _ =>
    exact answerWithTask_stockChecked (readChecked store) true now
  | applies reads store _ _ applied =>
    exact answerWithTask_stockChecked
      (applied.stockChecked (readChecked store)) false now

/-- A store that satisfies the schema, with sound tasks. -/
structure MaintenanceSound (state : MaintenanceStore) : Prop where
  checked : state.store.StockChecked
  tasks : TasksSound state

/-- What the other operations may leave. -/
theorem allowsOther_iff
    {before : Store} :
    before.allowsOther after = true ↔
      after.stockMaintenanceBatches = before.stockMaintenanceBatches ∧
        after.StockChecked := by
  simp [Store.allowsOther]

/-- One operation keeps the tasks sound. -/
theorem maintenanceSound_step
    {before after : MaintenanceStore}
    {timed : TimedMaintenanceEvent}
    (sound : MaintenanceSound before)
    (step : maintenanceMachine.step before timed = some after) :
    MaintenanceSound after := by
  obtain ⟨now, event⟩ := timed
  change before.perform now event = some after at step
  cases event with
  | submit input operatorId found =>
    unfold MaintenanceStore.perform at step
    simp only at step
    split at step
    · rename_i guard
      cases step
      have others : ∀ read ∈ found,
          read.stockMaintenanceBatches =
              before.store.stockMaintenanceBatches ∧
            read.StockChecked := by
        intro read isFound
        have allowed := guard.2
        cases isFound
        exact allowsOther_iff.mp allowed
      have ends := submitStockMaintenanceBatch_ends operatorId found now
        guard.1 sound.checked
        (fun read member => (others read member).2)
      exact ⟨ends.stockChecked sound.checked
          (fun read member => (others read member).2),
        sound.tasks.submits
          (fun read member => (others read member).1) ends⟩
    · cases step
  | readTask =>
    cases step
    obtain ⟨store, reads, _⟩ := before.stockMaintenanceTask_reads now
    have tables := settled_sameTables before.store now
    rcases store with same | settled
    · refine ⟨?_, sound.tasks.reads reads
        (congrArg Store.stockMaintenanceBatches same)⟩
      rw [same]
      exact sound.checked
    · refine ⟨?_, sound.tasks.reads reads
        ((congrArg Store.stockMaintenanceBatches settled).trans
          tables.batches)⟩
      rw [settled]
      exact tables.checked sound.checked
  | prune retentionDays =>
    cases step
    exact ⟨sound.checked, sound.tasks.prunes retentionDays now⟩
  | other other =>
    unfold MaintenanceStore.perform at step
    simp only at step
    split at step
    · rename_i allowed
      cases step
      obtain ⟨batches, checked⟩ := allowsOther_iff.mp allowed
      exact ⟨checked, sound.tasks.withStore batches⟩
    · cases step

/-- A store from which refills are counted. -/
structure MaintenanceStore.Starts (initial : MaintenanceStore) : Prop where
  checked : initial.store.StockChecked
  unapplied : initial.applied = []
  current : ∀ identity,
    initial.stockMaintenanceRefillTask = some identity →
      identity.taskId < initial.nextTaskId

theorem maintenanceSound_run
    {initial last : MaintenanceStore}
    {events : List TimedMaintenanceEvent}
    (starts : initial.Starts)
    (run : maintenanceMachine.run initial events = some last) :
    MaintenanceSound last := by
  refine Machine.run_keeps (fun sound step =>
    maintenanceSound_step sound step) ⟨starts.checked, ?_⟩ run
  refine ⟨starts.current, ?_, ?_, ?_, ?_, ?_⟩ <;>
    simp [starts.unapplied]

/--
An effect on the store that the transaction found, with what the platform
accepted finalised by the readings of the task before and after it.
-/
def EffectAround
    (effect : Store → Store → Prop)
    (now : Time)
    (found : Option Store)
    (before after : Store) : Prop :=
  ∃ read recorded,
    (read = before ∨ read = before.settled now ∨ found = some read) ∧
      effect read recorded ∧
      (after = recorded ∨ after = recorded.settled now)

/-- The submission changes no stock. -/
structure AppliesNothing
    (now : Time)
    (found : Option Store)
    (before after : MaintenanceStore) : Prop where
  keeps : EffectAround KeepsStock now found before.store after.store
  applied : after.applied = before.applied

/-- The submission adds to each listed slot what it lists. -/
def AppliesWhole
    (input : StockMaintenanceBatchInput)
    (now : Time)
    (found : Option Store)
    (before after : MaintenanceStore) : Prop :=
  ∃ refills version operatorId,
    EffectAround (AppliesRefill input refills version operatorId now) now
        found before.store after.store ∧
      after.applied = before.applied ++ [input]

/-- The store that a transaction finds is the one read or one in between. -/
theorem found_cases
    {before : MaintenanceStore}
    {opened : MaintenanceStore}
    {found : Option Store}
    {now : Time}
    (store : opened.store = before.store.settled now) :
    found.getD opened.store = before.store ∨
      found.getD opened.store = before.store.settled now ∨
      found = some (found.getD opened.store) := by
  cases found with
  | none => exact Or.inr (Or.inl store)
  | some read => exact Or.inr (Or.inr rfl)

/-- A submission applies nothing or the whole batch. -/
theorem SubmissionEnds.effect
    {before after : MaintenanceStore}
    {found : Option Store}
    {now : Time}
    (ends : SubmissionEnds input found now before after answer) :
    AppliesNothing now found before after ∨
      AppliesWhole input now found before after := by
  cases ends with
  | refused refusal reads store =>
    refine Or.inl ⟨?_, reads.applied⟩
    rcases store with same | settled
    · exact ⟨_, _, Or.inl rfl, .refl _, Or.inl same⟩
    · exact ⟨_, _, Or.inl rfl, .refl _, Or.inr settled⟩
  | repeatsOther task reads store _ =>
    exact Or.inl ⟨⟨_, _, Or.inl rfl, .refl _, Or.inr store⟩,
      reads.applied⟩
  | transactionRefused refusal reads store keeps =>
    exact Or.inl ⟨⟨_, _, found_cases store, keeps, Or.inl rfl⟩,
      reads.applied⟩
  | @repeats opened _ _ reads store _ _ _ =>
    have closing := MaintenanceStore.stockMaintenanceTask_reads
      { opened with store := found.getD opened.store } now
    exact Or.inl ⟨⟨_, _, found_cases store, .refl _, closing.1⟩,
      closing.2.1.applied.trans reads.applied⟩
  | @applies opened identity operatorId refills recorded reads store _ _
      applied =>
      have closing := MaintenanceStore.stockMaintenanceTask_reads
        { opened with
          store := recorded
          applied := opened.applied ++ [input] } now
      refine Or.inr ⟨refills, identity.planogramVersion, operatorId,
        ⟨_, _, found_cases store, applied, closing.1⟩, ?_⟩
      exact closing.2.1.applied.trans
        (congrArg (fun earlier => earlier ++ [input]) reads.applied)

section Resubmission

variable
  {before : MaintenanceStore}
  {first second : StockMaintenanceBatchInput}
  {found : Option Store}
  {now : Time}

theorem historical_eq_true_iff
    {store : Store} :
    historicalStockMaintenanceBatchMatches store input = true ↔
      ∃ stored,
        store.stockMaintenanceBatches.find? input.taskId = some stored ∧
          NormalizesTo input stored.slots := by
  unfold historicalStockMaintenanceBatchMatches
  cases normalized : normalizeRefillBatch input with
  | error refusal =>
    simp only [Bool.false_eq_true, false_iff]
    rintro ⟨stored, _, normalizes⟩
    rw [normalizeRefillBatch_eq_ok_iff.mpr normalizes] at normalized
    cases normalized
  | ok refills =>
    simp only [Option.any_eq_true, beq_iff_eq]
    have normalizes := normalizeRefillBatch_eq_ok_iff.mp normalized
    constructor
    · rintro ⟨stored, isStored, rfl⟩
      exact ⟨stored, isStored, normalizes⟩
    · rintro ⟨stored, isStored, other⟩
      rw [normalizeRefillBatch_eq_ok_iff.mpr other] at normalized
      exact ⟨stored, isStored, Except.ok.inj normalized⟩

/-- Only a repetition of the stored batch is not refused. -/
theorem resubmission_cases
    {after : MaintenanceStore}
    (sound : TasksSound before)
    (member : first ∈ before.applied)
    (sameTask : second.taskId = first.taskId)
    (foundBatches : ∀ read ∈ found, read.stockMaintenanceBatches =
      before.store.stockMaintenanceBatches)
    (ends : SubmissionEnds second found now before after answer) :
    AppliesNothing now found before after ∧
      ((∃ refusal, answer = .error refusal) ∨
        (second.slots.Perm first.slots ∧
          before.store.stockMaintenanceBatches.find? first.taskId ≠
            none)) := by
  have settledBatches := (settled_sameTables before.store now).batches
  have readBatches : ∀ {opened : MaintenanceStore},
      opened.store = before.store.settled now →
      (found.getD opened.store).stockMaintenanceBatches =
        before.store.stockMaintenanceBatches := by
    intro opened store
    cases found with
    | none =>
      rw [Option.getD_none, store]
      exact settledBatches
    | some read => exact foundBatches read rfl
  have repeatsStored : ∀ {stored : StockMaintenanceBatch},
      before.store.stockMaintenanceBatches.find? second.taskId = some stored →
      NormalizesTo second stored.slots →
        second.slots.Perm first.slots ∧
          before.store.stockMaintenanceBatches.find? first.taskId ≠ none := by
    intro stored isStored normalizes
    rw [sameTask] at isStored
    exact ⟨slots_perm_of_normalizes
        (sound.normalized first member stored isStored) normalizes,
      by simp [isStored]⟩
  have effect := ends.effect
  cases ends with
  | refused refusal reads store =>
    refine ⟨?_, Or.inl ⟨refusal, rfl⟩⟩
    rcases effect with nothing | ⟨_, _, _, _, applied⟩
    · exact nothing
    · simp [reads.applied] at applied
  | repeatsOther task reads store matched =>
    obtain ⟨stored, isStored, normalizes⟩ :=
      historical_eq_true_iff.mp matched
    rw [store, settledBatches] at isStored
    refine ⟨?_, Or.inr (repeatsStored isStored normalizes)⟩
    rcases effect with nothing | ⟨_, _, _, _, applied⟩
    · exact nothing
    · simp [reads.applied] at applied
  | @transactionRefused opened recorded refusal reads store keeps =>
    refine ⟨?_, Or.inl ⟨refusal, rfl⟩⟩
    rcases effect with nothing | ⟨_, _, _, _, applied⟩
    · exact nothing
    · simp [reads.applied] at applied
  | @repeats opened refills stored reads store normalizes isStored same =>
    rw [readBatches store] at isStored
    subst same
    refine ⟨?_, Or.inr (repeatsStored isStored normalizes)⟩
    rcases effect with nothing | ⟨_, _, _, _, applied⟩
    · exact nothing
    · have closing := (MaintenanceStore.stockMaintenanceTask_reads
        { opened with store := found.getD opened.store } now).2.1
      have kept := closing.applied.trans reads.applied
      unfold MaintenanceStore.answerWithTask at applied
      rw [kept] at applied
      simp at applied
  | @applies opened identity _ refills recorded reads store holds _
      applied =>
      have openedSound := sound.reads reads
        ((congrArg Store.stockMaintenanceBatches store).trans
          settledBatches)
      have batches := (readBatches store).trans
        (settledBatches.symm.trans
          (congrArg Store.stockMaintenanceBatches store).symm)
      refine absurd sameTask.symm (openedSound.unapplied holds batches
        applied.unbatched first ?_)
      rw [reads.applied]
      exact member

/-- The answer reports a repetition, if the current task can be read. -/
def ReportsDuplicate
    (answer : Except StoreError StockMaintenanceBatchResponse) : Prop :=
  ∃ reading : Except StoreError StockMaintenanceTask,
    answer = reading.map (fun task => { task := task, duplicate := true })

/-- A repetition of a stored batch is reported as one. -/
theorem resubmission_duplicate
    {operatorId : Nat}
    {task : StockMaintenanceTask}
    (sound : TasksSound before)
    (member : first ∈ before.applied)
    (sameTask : second.taskId = first.taskId)
    (refill : second.mode = .routineRefill)
    (samePayload : second.slots.Perm first.slots)
    (isStored :
      before.store.stockMaintenanceBatches.find? first.taskId ≠ none)
    (isRead : (before.stockMaintenanceTask now).2 = .ok task)
    (foundPlanograms : ∀ read ∈ found, SamePlanograms before.store read)
    (foundBatches : ∀ read ∈ found, read.stockMaintenanceBatches =
      before.store.stockMaintenanceBatches) :
    ReportsDuplicate (before.submitStockMaintenanceBatch second
        (some operatorId) found now).2 ∧
      (found = none →
        (before.submitStockMaintenanceBatch second (some operatorId)
          found now).2 = .ok { task := task, duplicate := true }) := by
  obtain ⟨_, reads, answered⟩ := before.stockMaintenanceTask_reads now
  obtain ⟨⟨opened, reading⟩, opens⟩ :
      ∃ result, before.stockMaintenanceTask now = result := ⟨_, rfl⟩
  rw [opens] at isRead reads answered
  simp only at isRead reads answered
  subst isRead
  obtain ⟨settled, named⟩ := answered task rfl
  have tables := settled_sameTables before.store now
  obtain ⟨stored, isBatch⟩ := Option.ne_none_iff_exists'.mp isStored
  have normalizes : NormalizesTo second stored.slots :=
    (sound.normalized first member stored isBatch).reordered refill samePayload
  unfold MaintenanceStore.submitStockMaintenanceBatch
  have operator : (some operatorId).filter
      (fun _ => !second.slots.isEmpty) = some operatorId := by
    simp [Option.filter, normalizes.nonempty]
  rw [operator, opens]
  simp only
  rw [← sameTask] at isBatch
  split
  · have matched :
        historicalStockMaintenanceBatchMatches opened.store second = true := by
      refine historical_eq_true_iff.mpr ⟨stored, ?_, normalizes⟩
      rw [settled, tables.batches]
      exact isBatch
    unfold MaintenanceStore.answerForOtherTask
    rw [if_pos matched]
    exact ⟨⟨.ok task, rfl⟩, fun _ => rfl⟩
  · rename_i current
    simp only [not_or, not_not] at current
    have refillTask := current.2.trans refill
    obtain ⟨continues, held, holds⟩ := named refillTask
    have openedSound := sound.reads reads
      ((congrArg Store.stockMaintenanceBatches settled).trans
        tables.batches)
    have inOpened : first ∈ opened.applied := by
      rw [reads.applied]
      exact member
    have ofTask : held.taskId = first.taskId :=
      holds.task.trans (current.1.trans sameTask)
    have admitted : opened.admitRefill second task = .ok held := by
      refine admitRefill_of_listed holds refillTask ?_ ?_
      · intro slot inSecond
        exact openedSound.listed first inOpened held holds.named ofTask
          slot (samePayload.mem_iff.mp inSecond)
      · have listed := normalizes.listed.map
          StockMaintenanceBatchSlotInput.slotId
        rw [List.map_map] at listed
        exact listed.nodup_iff.mpr normalizes.distinct
    have planograms :
        SamePlanograms opened.store (found.getD opened.store) := by
      cases found with
      | none => exact ⟨rfl, rfl, rfl⟩
      | some read =>
        have other := foundPlanograms read rfl
        rw [settled]
        exact ⟨other.active.trans tables.active.symm,
          other.versions.trans tables.versions.symm,
          other.slots.trans tables.slots.symm⟩
    have batches : (found.getD opened.store).stockMaintenanceBatches =
        before.store.stockMaintenanceBatches := by
      cases found with
      | none =>
        rw [Option.getD_none, settled]
        exact tables.batches
      | some read => exact foundBatches read rfl
    have repeated := submitRefillBatch_repeats operatorId now normalizes
      (by
        rw [batches]
        exact isBatch)
      (holds.noDifferences planograms)
    unfold MaintenanceStore.submitForCurrentTask
    simp only [admitted, MaintenanceStore.submitRefillBatchInTx, repeated]
    refine ⟨⟨_, rfl⟩, ?_⟩
    rintro rfl
    have notOver : opened.store.refillIsOver task.taskId = false := by
      rcases continues with kept | fresh
      · exact kept
      · have below := sound.issued first member
        rw [← ofTask, holds.task, fresh] at below
        exact absurd below (lt_irrefl _)
    have reread := MaintenanceStore.stockMaintenanceTask_again opens
      refillTask holds notOver
    unfold MaintenanceStore.answerWithTask
    simp only [Option.getD_none, if_true]
    rw [reread]
    rfl

/--
What is submitted for a task whose refill was applied.  Nothing is applied
again; another payload, and one whose batch was pruned, is refused; the same
payload in any order is reported as a duplicate.
-/
structure Resubmitted
    (before : MaintenanceStore)
    (first second : StockMaintenanceBatchInput)
    (operatorId : Option Nat)
    (found : Option Store)
    (now : Time) : Prop where
  nothing : AppliesNothing now found before
    (before.submitStockMaintenanceBatch second operatorId found now).1
  otherPayload : ¬ second.slots.Perm first.slots →
    ∃ refusal, (before.submitStockMaintenanceBatch second operatorId
      found now).2 = .error refusal
  pruned :
    before.store.stockMaintenanceBatches.find? first.taskId = none →
    ∃ refusal, (before.submitStockMaintenanceBatch second operatorId
      found now).2 = .error refusal
  duplicate : ∀ operator task, operatorId = some operator →
    second.slots.Perm first.slots →
    before.store.stockMaintenanceBatches.find? first.taskId ≠ none →
    (before.stockMaintenanceTask now).2 = .ok task →
    (∀ read ∈ found, SamePlanograms before.store read) →
      ReportsDuplicate (before.submitStockMaintenanceBatch second
          operatorId found now).2 ∧
        (found = none →
          (before.submitStockMaintenanceBatch second operatorId
            found now).2 = .ok { task := task, duplicate := true })

theorem resubmitted
    (operatorId : Option Nat)
    (sound : MaintenanceSound before)
    (member : first ∈ before.applied)
    (refill : second.mode = .routineRefill)
    (sameTask : second.taskId = first.taskId)
    (others : found.all before.store.allowsOther = true) :
    Resubmitted before first second operatorId found now := by
  have foundAllowed : ∀ read ∈ found,
      read.stockMaintenanceBatches =
          before.store.stockMaintenanceBatches ∧
        read.StockChecked := by
    intro read isFound
    cases isFound
    exact allowsOther_iff.mp others
  have ends := submitStockMaintenanceBatch_ends operatorId found now
    refill sound.checked
    (fun read isFound => (foundAllowed read isFound).2)
  obtain ⟨nothing, answers⟩ := resubmission_cases sound.tasks member
    sameTask (fun read isFound => (foundAllowed read isFound).1) ends
  refine ⟨nothing, ?_, ?_, ?_⟩
  · intro otherPayload
    rcases answers with refused | ⟨same, _⟩
    · exact refused
    · exact absurd same otherPayload
  · intro pruned
    rcases answers with refused | ⟨_, isStored⟩
    · exact refused
    · exact absurd pruned isStored
  · rintro operator task rfl same isStored isRead planograms
    exact resubmission_duplicate sound.tasks member sameTask refill same
      isStored isRead planograms
      (fun read isFound => (foundAllowed read isFound).1)

end Resubmission

/--
A submission of a refill applies nothing or the whole batch.  In every run the
refills of a task are applied once, and what is submitted for the task later
is a duplicate or refused.
-/
theorem refills_apply_once :
    (∀ before input operatorId found now,
      input.mode = .routineRefill →
      before.store.StockChecked →
      (∀ read ∈ found, read.StockChecked) →
        AppliesNothing now found before
            (before.submitStockMaintenanceBatch
              input operatorId found now).1 ∨
          AppliesWhole input now found before
            (before.submitStockMaintenanceBatch
              input operatorId found now).1) ∧
      ∀ initial events last, initial.Starts →
        maintenanceMachine.run initial events = some last →
          (last.applied.map StockMaintenanceBatchInput.taskId).Nodup ∧
            ∀ first ∈ last.applied, ∀ second operatorId found now,
              second.mode = .routineRefill →
              second.taskId = first.taskId →
              found.all last.store.allowsOther = true →
                Resubmitted last first second operatorId found now := by
  constructor
  · intro before input operatorId found now refill checked foundChecked
    exact (submitStockMaintenanceBatch_ends operatorId found now refill
      checked foundChecked).effect
  · intro initial events last starts run
    have sound := maintenanceSound_run starts run
    exact ⟨sound.tasks.once,
      fun first member second operatorId found now refill same others =>
        resubmitted operatorId sound member refill same others⟩

/-- A counted machine with two slots and no task yet. -/
def twoSlotTasks : MaintenanceStore where
  store :=
    { oneSlotStore with
      machinePlanogramSlots :=
        oneSlotStore.machinePlanogramSlots.insertOrIgnore
          { oneSlotInput with
            slotId := 6
            cellNo := 4
            planogramVersion := 1 }
      physicalStockAttestation := some
        { attestationId := 7
          planogramVersion := 1
          operatorId := 3
          attestedAt := 90
          slots := [] } }
  stockMaintenanceRefillTask := none
  stockMaintenanceCountTask := none
  stockMaintenanceTaskIdentities := .empty
  stockMaintenanceTaskTombstones := .empty
  nextTaskId := 10
  applied := []

def bothSlotsRefill : StockMaintenanceBatchInput where
  taskId := 10
  mode := .routineRefill
  slots :=
    [{ slotId := 5, quantity := none, addition := some 1 },
      { slotId := 6, quantity := none, addition := some 1 }]

/-- The same refill with its slots in the other order. -/
def reorderedRefill : StockMaintenanceBatchInput :=
  { bothSlotsRefill with slots := bothSlotsRefill.slots.reverse }

/-- The refill is submitted once and then again in another order. -/
theorem refills_apply_once_twoSlots :
    ∃ last,
      maintenanceMachine.run twoSlotTasks
          [⟨100, .readTask⟩, ⟨101, .submit bothSlotsRefill (some 3) none⟩] =
        some last ∧
      last.applied = [bothSlotsRefill] ∧
      Resubmitted last bothSlotsRefill reorderedRefill (some 4) none 102 := by
  have reached : (maintenanceMachine.run twoSlotTasks
      [⟨100, .readTask⟩,
        ⟨101, .submit bothSlotsRefill (some 3) none⟩]).any
          (fun last => last.applied == [bothSlotsRefill]) = true := by
    decide +kernel
  obtain ⟨last, run, applied⟩ := (Option.any_eq_true _ _).mp reached
  rw [beq_iff_eq] at applied
  have starts : twoSlotTasks.Starts :=
    ⟨by decide +kernel, rfl, fun identity named => by cases named⟩
  exact ⟨last, run, applied, (refills_apply_once.2 _ _ last starts run).2
    bothSlotsRefill (by simp [applied]) reorderedRefill (some 4) none 102
    rfl rfl rfl⟩

/-- A count of six that the platform accepted, and not finalised yet. -/
def acceptedCountTasks : MaintenanceStore where
  store :=
    { oneSlotStore with
      pendingPhysicalStockAttestation := some
        { input :=
            { attestationId := 7
              planogramVersion := 1
              operatorId := 3
              slots :=
                [{ slotId := 5
                   sku := oneSlotInput.sku
                   quantity := 6
                   enabled := true }] }
          attestedAt := 90
          movementIds := [.stockTask 7 5]
          slotGenerations := [] }
      stockMovementSync := Table.empty.insertOrIgnore
        { movementId := .stockTask 7 5
          status := .accepted
          attemptCount := 1
          lastError := none
          acceptedAt := some 95
          platformReceipt := none
          updatedAt := 95 } }
  stockMaintenanceRefillTask := none
  stockMaintenanceCountTask := none
  stockMaintenanceTaskIdentities := .empty
  stockMaintenanceTaskTombstones := .empty
  nextTaskId := 20
  applied := []

/-- A refused refill finalises a count, so it changes a physical stock. -/
theorem submission_finalises_count :
    ¬ ∀ (before : MaintenanceStore) (input : StockMaintenanceBatchInput)
      (operatorId : Option Nat) (now : Time),
      input.mode = .routineRefill →
      before.store.StockChecked →
        KeepsStock before.store
            (before.submitStockMaintenanceBatch
              input operatorId none now).1.store ∨
          ∃ refills version operator,
            AppliesRefill input refills version operator now before.store
              (before.submitStockMaintenanceBatch
                input operatorId none now).1.store := by
  intro whole
  have counted : (acceptedCountTasks.submitStockMaintenanceBatch
      bothSlotsRefill (some 3) none 100).1.store.countOf 5 =
        some (1, 6) := by decide +kernel
  have unrecorded : (acceptedCountTasks.submitStockMaintenanceBatch
      bothSlotsRefill (some 3) none 100).1.store.stockMovements.find?
        (.stockTask 10 5) = none := by decide +kernel
  rcases whole acceptedCountTasks bothSlotsRefill (some 3) 100 rfl
      (by decide +kernel) with keeps | ⟨refills, version, operator, applied⟩
  · have same := (keeps.counts 5).symm.trans counted
    revert same
    decide +kernel
  · have listed : (⟨5, none, some 1⟩ : StockMaintenanceBatchSlotInput) ∈
        refills.map NormalizedStockMaintenanceRefillSlot.submitted :=
      applied.normalizes.listed.mem_iff.mp List.mem_cons_self
    obtain ⟨refill, member, isSubmitted⟩ := List.mem_map.mp listed
    have ofSlot : refill.slotId = 5 :=
      congrArg StockMaintenanceBatchSlotInput.slotId isSubmitted
    have entry := (applied.refilled refill member).recorded.entry
    simp only [plannedRefill, ofSlot] at entry
    cases unrecorded.symm.trans entry

end VendingSystem.Daemon
