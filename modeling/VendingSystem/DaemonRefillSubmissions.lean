import VendingSystem.DaemonRefillEffects

namespace VendingSystem.Daemon

/-!
# One submission of a refill

Reading the current task finalises what the platform accepted and changes
nothing else that a refill depends on.  A refill of the current task is
compared with the slots that the task remembers; while the planogram stays,
none of them differs, and the transaction decides.
-/

/-- The store after finalising what the platform accepted. -/
def Store.settled (store : Store) (now : Time) : Store :=
  match finalizePendingPhysicalStockAttestationIfAccepted store now with
  | .ok (finalized, _) => finalized
  | .error _ => store

/-- What a refill depends on, apart from the stock. -/
structure SameRefillTables (before after : Store) : Prop
    extends SamePlanograms before after where
  batches : after.stockMaintenanceBatches = before.stockMaintenanceBatches
  checked : before.StockChecked → after.StockChecked

namespace SameRefillTables

theorem refl (store : Store) : SameRefillTables store store :=
  ⟨⟨rfl, rfl, rfl⟩, rfl, id⟩

theorem trans
    {first middle last : Store}
    (leading : SameRefillTables first middle)
    (trailing : SameRefillTables middle last) :
    SameRefillTables first last where
  active := trailing.active.trans leading.active
  versions := trailing.versions.trans leading.versions
  slots := trailing.slots.trans leading.slots
  batches := trailing.batches.trans leading.batches
  checked := trailing.checked ∘ leading.checked

end SameRefillTables

theorem stockChecked_iff
    {store : Store} :
    store.StockChecked ↔
      ∀ slotId, ∀ count ∈ store.countOf slotId, 0 ≤ count.2 := by
  constructor
  · intro checked slotId count counted
    obtain ⟨row, found, rfl⟩ := Option.map_eq_some_iff.mp counted
    exact checked row (Table.mem_of_find? found)
  · intro checked row member
    have found := Table.find?_of_mem member
    exact checked row.slotId (row.planogramVersion, row.physicalStock)
      (by rw [Store.countOf, found]; rfl)

variable {after before : Store} {input : StockMaintenanceBatchInput}
  {task : StockMaintenanceTask} {held : StockMaintenanceTaskIdentity}

theorem Moves.stockChecked
    {movement : StockMovement}
    (moves : Moves movement before after)
    (checked : before.StockChecked) :
    after.StockChecked := by
  rw [stockChecked_iff] at checked ⊢
  intro slotId count counted
  by_cases moved : slotId = movement.slotId
  · rw [moved, moves.count] at counted
    cases counted
    exact le_max_right _ _
  · rw [moves.others slotId moved] at counted
    exact checked slotId count counted

open Transaction

/-- Making one count a fact. -/
theorem finalizeSlot_sameTables
    {pending : PendingPhysicalStockAttestation}
    {now : Time}
    {slot : PhysicalStockAttestationSlotInput}
    (commits :
      (finalizeSlot pending now slot).Commits before () after) :
    SameRefillTables before after := by
  obtain ⟨movement, moves, _⟩ := finalizeSlot_moves commits
  unfold finalizeSlot at commits
  simp only [commits_get_bind, commits_requireSome_bind, commits_require_bind,
    commits_statement_bind, commits_statement] at commits
  obtain ⟨_, _, _, _, _, noted, inserted, projected⟩ := commits
  obtain ⟨_, rfl⟩ :=
    insertStockMovement_ok (mapError_eq_ok_iff.mp inserted)
  rw [mapError_eq_ok_iff] at projected
  have planograms :=
    (TouchesOnly.projectAttestedSlot projected).samePlanograms
  refine ⟨⟨planograms.active, planograms.versions, planograms.slots⟩, ?_,
    moves.stockChecked⟩
  unfold projectAttestedSlot at projected
  rw [upsertSaleViewProjection_frame projected]
  rfl

/-- Finalising keeps the planogram and the batches. -/
theorem settled_sameTables
    (store : Store)
    (now : Time) :
    SameRefillTables store (store.settled now) := by
  unfold Store.settled
  split
  · rename_i finalized done settles
    rcases finalizePending_cases settles with
      ⟨_, rfl⟩ | ⟨_, pending, _, _, _, commits⟩
    · exact .refl _
    · unfold finalizeSlots at commits
      obtain ⟨_, counted, attested, stored⟩ :=
        commits_bind.mp commits
      rw [commits_modify] at stored
      subst stored
      have tables : SameRefillTables store counted :=
        forM_keeps
          (fun _ reached => SameRefillTables store reached)
          (fun earlier round =>
            earlier.trans (finalizeSlot_sameTables round))
          (.refl store) attested
      exact tables.trans ⟨⟨rfl, rfl, rfl⟩, rfl, id⟩
  · exact .refl _

structure ReadsTask (before after : MaintenanceStore) : Prop where
  applied : after.applied = before.applied
  issued : before.nextTaskId ≤ after.nextTaskId
  refillTask :
    after.stockMaintenanceRefillTask = before.stockMaintenanceRefillTask ∨
      ∃ identity, after.stockMaintenanceRefillTask = some identity ∧
        identity.taskId = before.nextTaskId ∧
        before.nextTaskId < after.nextTaskId

/-- The refill task that the metadata name is for the active planogram. -/
structure HoldsRefillTask
    (opened : MaintenanceStore)
    (taskId : TaskId)
    (identity : StockMaintenanceTaskIdentity) : Prop where
  named : opened.stockMaintenanceRefillTask = some identity
  task : identity.taskId = taskId
  active : opened.store.activePlanogramVersion =
    some identity.planogramVersion
  isFor : identity.isFor
    (opened.store.stockMaintenanceTaskIdentitySnapshot
      identity.planogramVersion .routineRefill) = true

/-- A task that a reading continued or issued. -/
def Continues
    (before opened : MaintenanceStore)
    (taskId : TaskId) : Prop :=
  opened.store.refillIsOver taskId = false ∨ taskId = before.nextTaskId

namespace MaintenanceStore

@[simp] theorem rememberExisting_refillTask
    (before : MaintenanceStore)
    (existing : Option StockMaintenanceTaskIdentity)
    (now : Time) :
    (before.rememberExisting existing now).stockMaintenanceRefillTask =
      before.stockMaintenanceRefillTask := by
  cases existing <;> rfl

@[simp] theorem rememberExisting_store
    (before : MaintenanceStore)
    (existing : Option StockMaintenanceTaskIdentity)
    (now : Time) :
    (before.rememberExisting existing now).store = before.store := by
  cases existing <;> rfl

@[simp] theorem rememberExisting_applied
    (before : MaintenanceStore)
    (existing : Option StockMaintenanceTaskIdentity)
    (now : Time) :
    (before.rememberExisting existing now).applied = before.applied := by
  cases existing <;> rfl

@[simp] theorem rememberExisting_nextTaskId
    (before : MaintenanceStore)
    (existing : Option StockMaintenanceTaskIdentity)
    (now : Time) :
    (before.rememberExisting existing now).nextTaskId =
      before.nextTaskId := by
  cases existing <;> rfl

theorem currentRefillTaskId_reads
    (before : MaintenanceStore)
    (version : PlanogramVersion)
    (now : Time)
    (active : before.store.activePlanogramVersion = some version) :
    (before.currentRefillTaskId version now).1.store = before.store ∧
      ReadsTask before (before.currentRefillTaskId version now).1 ∧
      Continues before (before.currentRefillTaskId version now).1
        (before.currentRefillTaskId version now).2 ∧
      ∃ identity, HoldsRefillTask
        (before.currentRefillTaskId version now).1
        (before.currentRefillTaskId version now).2 identity := by
  unfold currentRefillTaskId
  simp only
  split
  · rename_i existing continued
    unfold continuedRefillTask at continued
    obtain ⟨named, kept⟩ := Option.filter_eq_some_iff.mp continued
    rw [Bool.and_eq_true] at kept
    have ofVersion : existing.planogramVersion = version := by
      have isFor := kept.1
      simp only [StockMaintenanceTaskIdentity.isFor, Bool.and_eq_true,
        beq_iff_eq] at isFor
      exact isFor.1.1.1
    subst ofVersion
    exact ⟨by simp, ⟨by simp, by simp, by simp⟩,
      Or.inl (by simpa using kept.2), existing,
      ⟨by simpa using named, rfl, by simpa using active,
        by simpa using kept.1⟩⟩
  · refine ⟨?_, ⟨?_, ?_, Or.inr ⟨_, rfl, rfl, ?_⟩⟩, Or.inr rfl, _,
      ⟨rfl, rfl, ?_, ?_⟩⟩
    · simp [rememberStockMaintenanceTaskIdentity]
    · simp [rememberStockMaintenanceTaskIdentity]
    · simp
    · simp
    · simpa [rememberStockMaintenanceTaskIdentity, freshIdentity,
        Store.stockMaintenanceTaskIdentitySnapshot] using active
    · simp [rememberStockMaintenanceTaskIdentity, freshIdentity,
        StockMaintenanceTaskIdentity.isFor,
        Store.stockMaintenanceTaskIdentitySnapshot, Store.planogramSlots]

theorem countTaskAfter_reads
    (before : MaintenanceStore)
    (snapshot : StockMaintenancePlanogramRevision)
    (predecessorTaskId : Option TaskId)
    (now : Time) :
    (before.countTaskAfter snapshot predecessorTaskId now).1.store =
        before.store ∧
      ReadsTask before
        (before.countTaskAfter snapshot predecessorTaskId now).1 := by
  unfold countTaskAfter
  simp only
  split
  · exact ⟨by simp, ⟨by simp, by simp, by simp⟩⟩
  · exact ⟨by simp [rememberStockMaintenanceTaskIdentity],
      ⟨by simp [rememberStockMaintenanceTaskIdentity], by simp,
        Or.inl (by simp [rememberStockMaintenanceTaskIdentity])⟩⟩

theorem currentCountTaskId_reads
    (before : MaintenanceStore)
    (version : PlanogramVersion)
    (now : Time) :
    (before.currentCountTaskId version now).1.store = before.store ∧
      ReadsTask before (before.currentCountTaskId version now).1 := by
  unfold currentCountTaskId
  simp only
  split
  · exact countTaskAfter_reads ..
  · split
    · exact countTaskAfter_reads ..
    · exact ⟨rfl, ⟨rfl, le_refl _, Or.inl rfl⟩⟩

theorem taskOf_reads
    (before : MaintenanceStore)
    (version : PlanogramVersion)
    (now : Time)
    (active : before.store.activePlanogramVersion = some version) :
    (before.taskOf version now).1.store = before.store ∧
      ReadsTask before (before.taskOf version now).1 ∧
      ((before.taskOf version now).2.mode = .routineRefill →
        Continues before (before.taskOf version now).1
            (before.taskOf version now).2.taskId ∧
          ∃ identity, HoldsRefillTask (before.taskOf version now).1
            (before.taskOf version now).2.taskId identity) := by
  unfold taskOf
  split
  · obtain ⟨same, reads, holds⟩ :=
      before.currentRefillTaskId_reads version now active
    exact ⟨same, reads, fun _ => holds⟩
  · obtain ⟨same, reads⟩ := before.currentCountTaskId_reads version now
    refine ⟨same, reads, fun refill => ?_⟩
    simp only at refill
    split at refill <;> cases refill

theorem stockMaintenanceTask_reads
    (before : MaintenanceStore)
    (now : Time) :
    ((before.stockMaintenanceTask now).1.store = before.store ∨
      (before.stockMaintenanceTask now).1.store =
        before.store.settled now) ∧
      ReadsTask before (before.stockMaintenanceTask now).1 ∧
      ∀ task, (before.stockMaintenanceTask now).2 = .ok task →
        (before.stockMaintenanceTask now).1.store =
            before.store.settled now ∧
          (task.mode = .routineRefill →
            Continues before (before.stockMaintenanceTask now).1
                task.taskId ∧
              ∃ identity, HoldsRefillTask
                (before.stockMaintenanceTask now).1 task.taskId
                  identity) := by
  unfold stockMaintenanceTask
  split
  · exact ⟨Or.inl rfl, ⟨rfl, le_refl _, Or.inl rfl⟩,
      fun task impossible => by cases impossible⟩
  · rename_i version active
    split
    · exact ⟨Or.inl rfl, ⟨rfl, le_refl _, Or.inl rfl⟩,
        fun task impossible => by cases impossible⟩
    · rename_i finalized done settles
      have settled : before.store.settled now = finalized := by
        unfold Store.settled
        rw [settles]
      have tables := settled_sameTables before.store now
      rw [settled] at tables
      have stillActive :
          ({ before with store := finalized } :
            MaintenanceStore).store.activePlanogramVersion =
              some version :=
        tables.active.trans active
      obtain ⟨same, reads, holds⟩ :=
        taskOf_reads { before with store := finalized } version now stillActive
      refine ⟨Or.inr (same.trans settled.symm),
        ⟨reads.applied, reads.issued, reads.refillTask⟩, ?_⟩
      intro task answered
      cases answered
      exact ⟨same.trans settled.symm, holds⟩

/-- A task of the metadata that is not over is still current when read again. -/
theorem stockMaintenanceTask_again
    {before opened : MaintenanceStore}
    {identity : StockMaintenanceTaskIdentity}
    {now : Time}
    (isRead : before.stockMaintenanceTask now = (opened, .ok task))
    (refill : task.mode = .routineRefill)
    (holds : HoldsRefillTask opened task.taskId identity)
    (continues : opened.store.refillIsOver task.taskId = false) :
    (opened.stockMaintenanceTask now).2 = .ok task := by
  have attested : opened.store.physicalStockAttestation.any (fun stored =>
      stored.planogramVersion == identity.planogramVersion) = true ∧
      finalizePendingPhysicalStockAttestationIfAccepted opened.store now =
        .ok (opened.store, false) := by
    unfold stockMaintenanceTask at isRead
    split at isRead
    · cases isRead
    rename_i version active
    split at isRead
    · cases isRead
    rename_i finalized done settles
    cases isRead
    have tables := settled_sameTables before.store now
    have settled : before.store.settled now = finalized := by
      unfold Store.settled
      rw [settles]
    rw [settled] at tables
    obtain ⟨same, _⟩ := taskOf_reads { before with store := finalized }
      version now (tables.active.trans active)
    have ofVersion : identity.planogramVersion = version := by
      have held := holds.active
      rw [same] at held
      exact (Option.some.inj ((tables.active.trans active).symm.trans
        held)).symm
    rw [same, ofVersion]
    refine ⟨?_, ?_⟩
    · by_contra unattested
      unfold taskOf at refill
      rw [if_neg unattested] at refill
      simp only at refill
      split at refill <;> cases refill
    · rcases finalizePending_cases settles with
        ⟨rfl, rfl⟩ | ⟨_, pending, _, _, _, commits⟩
      · exact settles
      · unfold finalizeSlots at commits
        obtain ⟨_, counted, _, stored⟩ :=
          commits_bind.mp commits
        rw [commits_modify] at stored
        rw [stored]
        rfl
  have continued : opened.continuedRefillTask
      (opened.store.stockMaintenanceTaskIdentitySnapshot
        identity.planogramVersion .routineRefill) = some identity := by
    unfold continuedRefillTask
    rw [holds.named]
    simp [Option.filter, holds.isFor, holds.task, continues]
  unfold stockMaintenanceTask
  simp only [holds.active, attested.2]
  unfold taskOf
  rw [if_pos attested.1]
  simp only [currentRefillTaskId]
  rw [continued]
  simp only [holds.task]
  rw [← refill]

end MaintenanceStore

namespace HoldsRefillTask

variable
  {opened : MaintenanceStore}
  {taskId : TaskId}
  {identity : StockMaintenanceTaskIdentity}

theorem slots
    (holds : HoldsRefillTask opened taskId identity) :
    identity.slots = opened.store.currentIdentitySlots := by
  have isFor := holds.isFor
  simp only [StockMaintenanceTaskIdentity.isFor, Bool.and_eq_true,
    beq_iff_eq] at isFor
  rw [isFor.1.2, Store.currentIdentitySlots, holds.active]
  rfl

theorem activeSlotIds
    (holds : HoldsRefillTask opened taskId identity) :
    opened.store.activeSlotIds = .ok (identity.slots.map
      StockMaintenanceTaskIdentitySlot.slotId) := by
  rw [holds.slots, Store.activeSlotIds, Store.currentIdentitySlots,
    holds.active]
  simp only [List.map_map]
  rfl

/-- A planogram that stayed differs in no slot. -/
theorem noDifferences
    (holds : HoldsRefillTask opened taskId identity)
    {found : Store}
    (same : SamePlanograms opened.store found) :
    (found.stockMaintenanceIdentityDifferences identity).isEmpty =
      true := by
  have current : found.currentIdentitySlots = identity.slots := by
    rw [holds.slots]
    unfold Store.currentIdentitySlots Store.planogramSlots
    rw [same.active, same.slots]
  have distinct : (identity.slots.map
      StockMaintenanceTaskIdentitySlot.slotId).Nodup := by
    have listed := planogramSlots_distinct opened.store
      identity.planogramVersion
    rw [holds.slots, Store.currentIdentitySlots, holds.active]
    simp only [List.map_map]
    exact listed
  have noSlotDiffers : ∀ slotId,
      found.slotDifference identity slotId = none := by
    intro slotId
    have once : (identity.slots.filter
        (fun slot => slot.slotId == slotId)).length ≤ 1 := by
      have counted := List.nodup_iff_count_le_one.mp distinct slotId
      rw [List.count, List.countP_map, List.countP_eq_length_filter] at counted
      exact counted
    unfold Store.slotDifference
    simp only [current]
    generalize identity.slots.filter
      (fun slot => slot.slotId == slotId) = listed at once
    have unchanged : slotChanges listed listed = [] := by
      unfold slotChanges
      rw [if_neg (by omega)]
      cases listed <;> simp
    simp [unchanged]
  have isFor := holds.isFor
  simp only [StockMaintenanceTaskIdentity.isFor, Bool.and_eq_true,
    beq_iff_eq] at isFor
  have active : found.activePlanogramVersion =
      some identity.planogramVersion := same.active.trans holds.active
  have revision : StockMaintenancePlanogramRevision.mk
      identity.planogramVersion identity.mode identity.slots =
        identity.planogramRevision := by
    rw [isFor.1.1.2, isFor.2, isFor.1.2]
    rfl
  unfold Store.stockMaintenanceIdentityDifferences
  simp only [current, active, Option.map_some, revision]
  have noneDiffers : ∀ slotIds : List SlotId,
      slotIds.filterMap (found.slotDifference identity) = [] := by
    intro slotIds
    rw [List.filterMap_eq_nil_iff]
    exact fun slotId _ => noSlotDiffers slotId
  rw [noneDiffers]
  simp

end HoldsRefillTask

/-- Submitted slots pass when they are distinct slots of the planogram. -/
theorem checkTaskSlots_eq_ok_iff
    {planogram seen : List SlotId}
    {slots : List StockMaintenanceBatchSlotInput} :
    checkTaskSlots planogram seen slots = .ok () ↔
      (∀ slot ∈ slots, slot.slotId ∈ planogram ∧ slot.slotId ∉ seen) ∧
        (slots.map StockMaintenanceBatchSlotInput.slotId).Nodup := by
  induction slots generalizing seen with
  | nil => simp [checkTaskSlots]
  | cons slot rest inductionHypothesis =>
    unfold checkTaskSlots
    split
    · rename_i refused
      constructor
      · intro impossible
        cases impossible
      · rintro ⟨admitted, _⟩
        obtain ⟨listed, unseen⟩ := admitted slot List.mem_cons_self
        rcases refused with repeated | unlisted
        · exact absurd repeated unseen
        · exact absurd listed unlisted
    · rename_i admitted
      simp only [not_or, not_not] at admitted
      rw [inductionHypothesis, List.map_cons, List.nodup_cons]
      constructor
      · rintro ⟨others, distinct⟩
        refine ⟨?_, ?_, distinct⟩
        · intro listed member
          rcases List.mem_cons.mp member with rfl | inRest
          · exact ⟨admitted.2, admitted.1⟩
          · exact ⟨(others listed inRest).1, fun wasSeen =>
              (others listed inRest).2
                (List.mem_cons_of_mem _ wasSeen)⟩
        · intro again
          obtain ⟨other, inRest, same⟩ := List.mem_map.mp again
          refine (others other inRest).2 ?_
          rw [same]
          exact List.mem_cons_self
      · rintro ⟨listed, fresh, distinct⟩
        refine ⟨fun other inRest => ?_, distinct⟩
        have ofPlanogram := listed other (List.mem_cons_of_mem _ inRest)
        refine ⟨ofPlanogram.1, fun wasSeen => ?_⟩
        rcases List.mem_cons.mp wasSeen with same | earlier
        · refine fresh ?_
          rw [← same]
          exact List.mem_map_of_mem inRest
        · exact ofPlanogram.2 earlier

theorem admitRefill_ok
    {opened : MaintenanceStore}
    {identity : StockMaintenanceTaskIdentity}
    (holds : HoldsRefillTask opened task.taskId held)
    (admitted : opened.admitRefill input task = .ok identity) :
    identity = held ∧
      ∀ slot ∈ input.slots, slot.slotId ∈ identity.slots.map
        StockMaintenanceTaskIdentitySlot.slotId := by
  unfold MaintenanceStore.admitRefill at admitted
  obtain ⟨named, isNamed, later⟩ :=
    bind_eq_ok_iff.mp admitted
  rw [holds.activeSlotIds] at later
  obtain ⟨planogram, samePlanogram, checked⟩ :=
    bind_eq_ok_iff.mp later
  cases samePlanogram
  obtain ⟨_, slotsOk, same⟩ := bind_eq_ok_iff.mp checked
  cases same
  have isHeld : identity = held := by
    unfold MaintenanceStore.stockMaintenanceTaskIdentity at isNamed
    split at isNamed
    · rename_i found filtered
      cases isNamed
      obtain ⟨stored, _⟩ := Option.filter_eq_some_iff.mp filtered
      rw [holds.named] at stored
      exact (Option.some.inj stored).symm
    · cases isNamed
  refine ⟨isHeld, fun slot member => ?_⟩
  rw [isHeld]
  exact ((checkTaskSlots_eq_ok_iff.mp slotsOk).1 slot member).1

theorem admitRefill_of_listed
    {opened : MaintenanceStore}
    (holds : HoldsRefillTask opened task.taskId held)
    (refill : task.mode = .routineRefill)
    (listed : ∀ slot ∈ input.slots, slot.slotId ∈ held.slots.map
      StockMaintenanceTaskIdentitySlot.slotId)
    (distinct :
      (input.slots.map StockMaintenanceBatchSlotInput.slotId).Nodup) :
    opened.admitRefill input task = .ok held := by
  have isFor := holds.isFor
  simp only [StockMaintenanceTaskIdentity.isFor, Bool.and_eq_true,
    beq_iff_eq] at isFor
  have ofMode : held.mode = task.mode := by
    rw [isFor.2, refill]
    rfl
  have named : opened.stockMaintenanceTaskIdentity task = .ok held := by
    unfold MaintenanceStore.stockMaintenanceTaskIdentity
    simp [holds.named, Option.filter, holds.task, ofMode]
  unfold MaintenanceStore.admitRefill
  refine bind_eq_ok_iff.mpr ⟨held, named, ?_⟩
  refine bind_eq_ok_iff.mpr ⟨_, holds.activeSlotIds, ?_⟩
  refine bind_eq_ok_iff.mpr ⟨(), ?_, rfl⟩
  exact checkTaskSlots_eq_ok_iff.mpr
    ⟨fun slot member => ⟨listed slot member, List.not_mem_nil⟩, distinct⟩

/-- How a submission ends, from what it read of the current task. -/
inductive SubmissionEnds
    (input : StockMaintenanceBatchInput)
    (found : Option Store)
    (now : Time)
    (before : MaintenanceStore) :
    MaintenanceStore → Except StoreError StockMaintenanceBatchResponse →
      Prop where
  | refused
      {after : MaintenanceStore}
      (refusal : StoreError)
      (reads : ReadsTask before after)
      (store : after.store = before.store ∨
        after.store = before.store.settled now) :
      SubmissionEnds input found now before after (.error refusal)
  | repeatsOther
      {after : MaintenanceStore}
      (task : StockMaintenanceTask)
      (reads : ReadsTask before after)
      (store : after.store = before.store.settled now)
      (matched :
        historicalStockMaintenanceBatchMatches after.store input = true) :
      SubmissionEnds input found now before after
        (.ok { task := task, duplicate := true })
  | transactionRefused
      {opened : MaintenanceStore}
      {recorded : Store}
      (refusal : StoreError)
      (reads : ReadsTask before opened)
      (store : opened.store = before.store.settled now)
      (keeps : KeepsStock (found.getD opened.store) recorded) :
      SubmissionEnds input found now before
        { opened with store := recorded } (.error refusal)
  | repeats
      {opened : MaintenanceStore}
      {refills : List NormalizedStockMaintenanceRefillSlot}
      {stored : StockMaintenanceBatch}
      (reads : ReadsTask before opened)
      (store : opened.store = before.store.settled now)
      (normalizes : NormalizesTo input refills)
      (isStored : (found.getD opened.store).stockMaintenanceBatches.find?
        input.taskId = some stored)
      (same : stored.slots = refills) :
      SubmissionEnds input found now before
        (MaintenanceStore.answerWithTask
          { opened with store := found.getD opened.store } true now).1
        (MaintenanceStore.answerWithTask
          { opened with store := found.getD opened.store } true now).2
  | applies
      {opened : MaintenanceStore}
      {identity : StockMaintenanceTaskIdentity}
      {operatorId : Nat}
      {refills : List NormalizedStockMaintenanceRefillSlot}
      {recorded : Store}
      (reads : ReadsTask before opened)
      (store : opened.store = before.store.settled now)
      (holds : HoldsRefillTask opened input.taskId identity)
      (listed : ∀ slot ∈ input.slots, slot.slotId ∈ identity.slots.map
        StockMaintenanceTaskIdentitySlot.slotId)
      (applied : AppliesRefill input refills identity.planogramVersion
        operatorId now (found.getD opened.store) recorded) :
      SubmissionEnds input found now before
        (MaintenanceStore.answerWithTask
          { opened with
            store := recorded
            applied := opened.applied ++ [input] } false now).1
        (MaintenanceStore.answerWithTask
          { opened with
            store := recorded
            applied := opened.applied ++ [input] } false now).2

theorem answerForOtherTask_cases
    (opened : MaintenanceStore)
    (input : StockMaintenanceBatchInput)
    (task : StockMaintenanceTask)
    (now : Time) :
    (∃ refusal,
      opened.answerForOtherTask input task now = .error refusal) ∨
      (historicalStockMaintenanceBatchMatches opened.store input = true ∧
        opened.answerForOtherTask input task now =
          .ok { task := task, duplicate := true }) := by
  unfold MaintenanceStore.answerForOtherTask
  split
  · rename_i matched
    exact Or.inr ⟨matched, rfl⟩
  · split <;> exact Or.inl ⟨_, rfl⟩

/-- Every submission of a refill ends in one of these ways. -/
theorem submitStockMaintenanceBatch_ends
    {before : MaintenanceStore}
    (operatorId : Option Nat)
    (found : Option Store)
    (now : Time)
    (refill : input.mode = .routineRefill)
    (checked : before.store.StockChecked)
    (foundChecked : ∀ store ∈ found, store.StockChecked) :
    SubmissionEnds input found now before
      (before.submitStockMaintenanceBatch input operatorId found now).1
      (before.submitStockMaintenanceBatch input operatorId found now).2 := by
  obtain ⟨store, reads, answered⟩ := before.stockMaintenanceTask_reads now
  unfold MaintenanceStore.submitStockMaintenanceBatch
  split
  · exact .refused _ ⟨rfl, le_refl _, Or.inl rfl⟩ (Or.inl rfl)
  rename_i operator _
  split
  · rename_i opened refusal isRead
    rw [isRead] at reads store
    exact .refused refusal reads store
  rename_i opened task isRead
  rw [isRead] at reads answered
  obtain ⟨settled, named⟩ := answered task rfl
  split
  · rcases answerForOtherTask_cases opened input task now with
      ⟨refusal, answer⟩ | ⟨matched, answer⟩
    · rw [answer]
      exact .refused refusal reads (Or.inr settled)
    · rw [answer]
      exact .repeatsOther task reads settled matched
  rename_i current
  simp only [not_or, not_not] at current
  obtain ⟨_, held, holds⟩ := named (current.2.trans refill)
  unfold MaintenanceStore.submitForCurrentTask
  cases admitted : opened.admitRefill input task with
  | error refusal => exact .refused refusal reads (Or.inr settled)
  | ok identity =>
    obtain ⟨rfl, listed⟩ := admitRefill_ok holds admitted
    have readChecked : (found.getD opened.store).StockChecked := by
      cases found with
      | some read => exact foundChecked read rfl
      | none =>
        simp only [Option.getD_none]
        rw [settled]
        exact (settled_sameTables before.store now).checked checked
    obtain ⟨⟨answer, recorded⟩, executed⟩ :
        ∃ result, (submitRefillBatch input operator identity
          now).execute (found.getD opened.store) = result := ⟨_, rfl⟩
    have transacts := submitRefillBatch_transacts readChecked executed
    simp only [MaintenanceStore.submitRefillBatchInTx, executed]
    cases transacts with
    | refused refusal =>
      exact .transactionRefused refusal reads settled (.refl _)
    | frozen keeps _ =>
      exact .transactionRefused _ reads settled keeps
    | repeated normalizes isStored same =>
      exact .repeats reads settled normalizes isStored same
    | applied applies =>
      refine .applies reads settled ?_ listed applies
      rw [← current.1]
      exact holds

end VendingSystem.Daemon
