import VendingSystem.DaemonStockTasks
import VendingSystem.DaemonAttestationConsistency
import Mathlib.Data.Set.List

namespace VendingSystem.Daemon

/-!
# What a refill changes

The transaction of a refill either leaves every count, ledger row and upload
row as it was, also when it freezes what a stale task saw, or it moves every
listed slot by its addition, with one movement, one upload state and one
queued upload for each.
-/

/-- No count, ledger row, upload row or batch differs. -/
structure KeepsStock (before after : Store) : Prop
    extends KeepsCounts before after where
  syncs : after.stockMovementSync = before.stockMovementSync
  uploads : after.outboxEvents = before.outboxEvents
  batches : after.stockMaintenanceBatches = before.stockMaintenanceBatches

open Transaction

namespace KeepsStock

theorem refl (store : Store) : KeepsStock store store :=
  ⟨⟨rfl, fun _ => rfl⟩, rfl, rfl, rfl⟩

theorem trans
    {first middle last : Store}
    (leading : KeepsStock first middle)
    (trailing : KeepsStock middle last) :
    KeepsStock first last where
  ledger := trailing.ledger.trans leading.ledger
  counts := fun slotId =>
    (trailing.counts slotId).trans (leading.counts slotId)
  syncs := trailing.syncs.trans leading.syncs
  uploads := trailing.uploads.trans leading.uploads
  batches := trailing.batches.trans leading.batches

variable {now : Time}

theorem blockSlotForReview
    {before after : Store}
    {version : PlanogramVersion}
    {slotId : SlotId}
    {reason source : String}
    (blocked :
      Daemon.blockSlotForReview before version slotId reason source now =
        .ok after) :
    KeepsStock before after := by
  have keeps : KeepsCounts before after := projectBlocker_keeps blocked
  refine ⟨keeps, ?_, ?_, ?_⟩
  · rw [upsertSaleViewProjection_frame blocked]
    rfl
  · rw [upsertSaleViewProjection_frame blocked]
    rfl
  · rw [upsertSaleViewProjection_frame blocked]
    rfl

theorem refuseStaleTask
    {Answer : Type}
    {before after : Store}
    {differences : List StockMaintenanceSlotDifference}
    {answer : Except StoreError Answer}
    (commits :
      (Daemon.refuseStaleTask Answer differences now).Commits
        before answer after) :
    KeepsStock before after ∧
      answer = .error staleStockMaintenanceTask := by
  unfold Daemon.refuseStaleTask freezeStockIdentityDifferences at commits
  obtain ⟨_, _, froze, answered⟩ := commits_bind.mp commits
  obtain ⟨rfl, rfl⟩ := commits_pure.mp answered
  refine ⟨forM_keeps (fun _ store => KeepsStock before store)
    ?_ (.refl before) froze, rfl⟩
  intro difference _ store next earlier round
  unfold freezeStockIdentityDifference at round
  split at round
  · obtain ⟨_, rfl⟩ := commits_pure.mp round
    exact earlier
  · refine forM_keeps (fun _ store => KeepsStock before store) ?_ earlier round
    intro slot _ frozen later reached blocked
    exact reached.trans (.blockSlotForReview (commits_statement.mp blocked))

end KeepsStock

/-- The movement that refills a slot of a version. -/
def plannedRefill
    (store : Store)
    (version : PlanogramVersion)
    (taskId : TaskId)
    (operatorId : Nat)
    (now : Time)
    (refill : NormalizedStockMaintenanceRefillSlot) : StockMovement where
  movementId := .stockTask taskId refill.slotId
  planogramVersion := version
  slotId := refill.slotId
  movementType := .plannedRefill
  quantity := refill.addition
  beforeQuantity := store.projectedStock version refill.slotId
  afterQuantity :=
    store.projectedStock version refill.slotId + refill.addition
  source := .localMaintenance
  attributedTo := some operatorId
  occurredAt := now

/-- The upload state of a movement that was just recorded. -/
def StockMovement.pendingSync
    (movement : StockMovement)
    (now : Time) : StockMovementSync where
  movementId := movement.movementId
  status := .pending
  attemptCount := 0
  lastError := none
  acceptedAt := none
  platformReceipt := none
  updatedAt := now

/-- The movement is new, recorded, queued for upload and projected. -/
structure StockMovement.Recorded
    (movement : StockMovement)
    (now : Time)
    (before after : Store) : Prop where
  fresh : before.stockMovements.find? movement.movementId = none
  unsynced : before.stockMovementSync.find? movement.movementId = none
  entry : after.stockMovements.find? movement.movementId = some movement
  sync : after.stockMovementSync.find? movement.movementId =
    some (movement.pendingSync now)
  upload : ∃ event,
    after.outboxEvents.find? (.stockMovement movement.movementId) =
        some event ∧
      event.payload = .stockMovementUpload movement
  count : after.countOf movement.slotId =
    some (movement.planogramVersion, max movement.afterQuantity 0)

/-- Only the listed movements were recorded, and only their slots moved. -/
structure MovesOnly
    (movements : List StockMovement)
    (before after : Store) : Prop where
  batches : after.stockMaintenanceBatches = before.stockMaintenanceBatches
  counts : ∀ slotId, slotId ∉ movements.map StockMovement.slotId →
    after.countOf slotId = before.countOf slotId
  ledger : ∀ movementId,
    movementId ∉ movements.map StockMovement.movementId →
      after.stockMovements.find? movementId =
        before.stockMovements.find? movementId
  syncs : ∀ movementId,
    movementId ∉ movements.map StockMovement.movementId →
      after.stockMovementSync.find? movementId =
        before.stockMovementSync.find? movementId
  uploads : ∀ eventId,
    eventId ∉ movements.map
        (fun movement => OutboxId.stockMovement movement.movementId) →
      after.outboxEvents.find? eventId = before.outboxEvents.find? eventId

variable {after before store found : Store}
  {refill : NormalizedStockMaintenanceRefillSlot}
  {refills : List NormalizedStockMaintenanceRefillSlot}
  {input first second : StockMaintenanceBatchInput} {operatorId : Nat}
  {identity : StockMaintenanceTaskIdentity}

theorem writeRefill_records
    {refill : StockMovement × Int}
    {now : Time}
    (commits : (writeRefill now refill).Commits before () after) :
    refill.1.Recorded now before after ∧ MovesOnly [refill.1] before after := by
  unfold writeRefill at commits
  simp only [commits_get_bind, commits_require_bind, commits_statement,
    Store.movementIsFresh, Bool.and_eq_true, Option.isNone_iff_eq_none] at commits
  obtain ⟨⟨fresh, unsynced⟩, applied⟩ := commits
  have moves := applyStockMovement_moves fresh applied
  have frame := upsertSaleViewProjection_frame applied
  have syncs : after.stockMovementSync =
      before.stockMovementSync.insertOrIgnore (refill.1.pendingSync now) := by
    rw [frame]
    cases refill.1.source <;> rfl
  have uploads : after.outboxEvents =
      (insertOutbox before
        { id := .stockMovement refill.1.movementId
          payload := .stockMovementUpload refill.1
          priority := 250
          createdAt := now
          nextAttemptAt := now
          attemptCount := 0
          expiresAt := now + outboxTtlDays * secondsPerDay
          }).outboxEvents := by
    rw [frame]
    cases refill.1.source <;> rfl
  have batches :
      after.stockMaintenanceBatches = before.stockMaintenanceBatches := by
    rw [frame]
    cases refill.1.source <;> rfl
  refine ⟨⟨fresh, unsynced, ?_, ?_, ?_, moves.count⟩, batches, ?_, ?_,
    ?_, ?_⟩
  · rw [moves.ledger, Table.find?_insertOrIgnore, if_pos rfl, fresh]
    rfl
  · rw [syncs, Table.find?_insertOrIgnore,
      if_pos (show refill.1.movementId =
        (refill.1.pendingSync now).movementId from rfl), unsynced]
    rfl
  · rw [uploads]
    simp only [insertOutbox, Table.find?_insertOrUpdate, if_true]
    refine ⟨_, rfl, ?_⟩
    cases before.outboxEvents.find? (.stockMovement refill.1.movementId) <;>
      rfl
  · intro slotId other
    exact moves.others slotId (by simpa using other)
  · intro movementId other
    have differs : movementId ≠ refill.1.movementId := by simpa using other
    rw [moves.ledger, Table.find?_insertOrIgnore, if_neg differs]
  · intro movementId other
    have differs : movementId ≠ refill.1.movementId := by simpa using other
    rw [syncs, Table.find?_insertOrIgnore]
    exact if_neg differs
  · intro eventId other
    have differs : eventId ≠ .stockMovement refill.1.movementId := by
      simpa using other
    rw [uploads]
    simp [insertOutbox, differs]

namespace MovesOnly

theorem refl (store : Store) : MovesOnly [] store store :=
  ⟨rfl, fun _ _ => rfl, fun _ _ => rfl, fun _ _ => rfl, fun _ _ => rfl⟩

theorem cons
    {movement : StockMovement}
    {rest : List StockMovement}
    {first middle last : Store}
    (leading : MovesOnly [movement] first middle)
    (trailing : MovesOnly rest middle last) :
    MovesOnly (movement :: rest) first last := by
  refine ⟨trailing.batches.trans leading.batches, ?_, ?_, ?_, ?_⟩
  · intro slotId other
    simp only [List.map_cons, List.mem_cons, not_or] at other
    exact (trailing.counts slotId other.2).trans
      (leading.counts slotId (by simpa using other.1))
  · intro movementId other
    simp only [List.map_cons, List.mem_cons, not_or] at other
    exact (trailing.ledger movementId other.2).trans
      (leading.ledger movementId (by simpa using other.1))
  · intro movementId other
    simp only [List.map_cons, List.mem_cons, not_or] at other
    exact (trailing.syncs movementId other.2).trans
      (leading.syncs movementId (by simpa using other.1))
  · intro eventId other
    simp only [List.map_cons, List.mem_cons, not_or] at other
    exact (trailing.uploads eventId other.2).trans
      (leading.uploads eventId (by simpa using other.1))

end MovesOnly

namespace StockMovement.Recorded

variable {movement : StockMovement} {now : Time} {others : List StockMovement}
  {first last middle : Store}

theorem before_others
    (recorded : movement.Recorded now first middle)
    (later : MovesOnly others middle last)
    (otherSlots : movement.slotId ∉ others.map StockMovement.slotId)
    (otherNames :
      movement.movementId ∉ others.map StockMovement.movementId) :
    movement.Recorded now first last where
  fresh := recorded.fresh
  unsynced := recorded.unsynced
  entry := (later.ledger _ otherNames).trans recorded.entry
  sync := (later.syncs _ otherNames).trans recorded.sync
  upload := by
    rw [later.uploads _ (by simpa using otherNames)]
    exact recorded.upload
  count := (later.counts _ otherSlots).trans recorded.count

theorem after_others
    (earlier : MovesOnly others first middle)
    (recorded : movement.Recorded now middle last)
    (otherNames :
      movement.movementId ∉ others.map StockMovement.movementId) :
    movement.Recorded now first last where
  fresh := (earlier.ledger _ otherNames).symm.trans recorded.fresh
  unsynced := (earlier.syncs _ otherNames).symm.trans recorded.unsynced
  entry := recorded.entry
  sync := recorded.sync
  upload := recorded.upload
  count := recorded.count

end StockMovement.Recorded

theorem writeRefills_record
    {refills : List (StockMovement × Int)}
    {now : Time}
    (slotsDistinct :
      (refills.map (fun refill => refill.1.slotId)).Nodup)
    (namesDistinct :
      (refills.map (fun refill => refill.1.movementId)).Nodup)
    (commits :
      (forM refills (writeRefill now)).Commits before () after) :
    (∀ refill ∈ refills, refill.1.Recorded now before after) ∧
      MovesOnly (refills.map Prod.fst) before after := by
  induction refills generalizing before with
  | nil =>
    rw [commits_forM_nil] at commits
    subst commits
    exact ⟨fun _ none => absurd none List.not_mem_nil, .refl after⟩
  | cons refill rest inductionHypothesis =>
    obtain ⟨middle, round, later⟩ :=
      commits_forM_cons.mp commits
    rw [List.map_cons, List.nodup_cons] at slotsDistinct namesDistinct
    obtain ⟨recorded, only⟩ := writeRefill_records round
    obtain ⟨others, onlyOthers⟩ :=
      inductionHypothesis slotsDistinct.2 namesDistinct.2 later
    refine ⟨?_, only.cons onlyOthers⟩
    intro listed member
    rcases List.mem_cons.mp member with rfl | inRest
    · exact recorded.before_others onlyOthers
        (by simpa using slotsDistinct.1) (by simpa using namesDistinct.1)
    · refine .after_others only (others listed inRest) ?_
      intro sameName
      rw [List.map_singleton, List.mem_singleton] at sameName
      refine namesDistinct.1 ?_
      rw [← sameName]
      exact List.mem_map_of_mem (f := fun refill => refill.1.movementId) inRest

/-- What a submission lists for one refilled slot. -/
def NormalizedStockMaintenanceRefillSlot.submitted
    (refill : NormalizedStockMaintenanceRefillSlot) :
    StockMaintenanceBatchSlotInput where
  slotId := refill.slotId
  quantity := none
  addition := some refill.addition

theorem normalized_eq_ok_iff
    {slot : StockMaintenanceBatchSlotInput} :
    slot.normalized = .ok refill ↔
      slot = refill.submitted ∧ 0 < refill.addition := by
  obtain ⟨slotId, quantity, addition⟩ := slot
  cases quantity with
  | some quantity =>
    simp [StockMaintenanceBatchSlotInput.normalized,
      NormalizedStockMaintenanceRefillSlot.submitted]
  | none =>
    cases addition with
    | none =>
      simp [StockMaintenanceBatchSlotInput.normalized,
        NormalizedStockMaintenanceRefillSlot.submitted]
    | some addition =>
      simp only [StockMaintenanceBatchSlotInput.normalized,
        NormalizedStockMaintenanceRefillSlot.submitted]
      split
      · rename_i positive
        constructor
        · rintro equal
          cases equal
          exact ⟨rfl, positive⟩
        · rintro ⟨equal, _⟩
          cases equal
          rfl
      · rename_i notPositive
        constructor
        · rintro equal
          cases equal
        · rintro ⟨equal, positive⟩
          cases equal
          exact absurd positive notPositive

/-- The slots of a submission normalize to the additions they list. -/
theorem mapM_normalized_eq_ok_iff
    {slots : List StockMaintenanceBatchSlotInput} :
    slots.mapM StockMaintenanceBatchSlotInput.normalized = .ok refills ↔
      slots =
          refills.map NormalizedStockMaintenanceRefillSlot.submitted ∧
        ∀ refill ∈ refills, 0 < refill.addition := by
  induction slots generalizing refills with
  | nil =>
    constructor
    · intro computed
      cases computed
      exact ⟨rfl, fun _ none => absurd none List.not_mem_nil⟩
    · rintro ⟨equal, _⟩
      rw [List.map_eq_nil_iff.mp equal.symm]
      rfl
  | cons slot rest inductionHypothesis =>
    rw [List.mapM_cons]
    constructor
    · intro computed
      obtain ⟨first, firstOk, later⟩ :=
        bind_eq_ok_iff.mp computed
      obtain ⟨others, othersOk, same⟩ :=
        bind_eq_ok_iff.mp later
      cases same
      obtain ⟨sameSlot, positive⟩ := normalized_eq_ok_iff.mp firstOk
      obtain ⟨sameRest, positives⟩ := inductionHypothesis.mp othersOk
      exact ⟨by rw [List.map_cons, ← sameSlot, ← sameRest],
        List.forall_mem_cons.mpr ⟨positive, positives⟩⟩
    · rintro ⟨equal, positives⟩
      cases refills with
      | nil => cases equal
      | cons first others =>
        rw [List.map_cons, List.cons.injEq] at equal
        rw [List.forall_mem_cons] at positives
        exact bind_eq_ok_iff.mpr
          ⟨first, normalized_eq_ok_iff.mpr ⟨equal.1, positives.1⟩,
            bind_eq_ok_iff.mpr
              ⟨others, inductionHypothesis.mpr
                ⟨equal.2, positives.2⟩, rfl⟩⟩

theorem submitted_injective :
    Function.Injective
      NormalizedStockMaintenanceRefillSlot.submitted := by
  rintro ⟨firstSlot, first⟩ ⟨secondSlot, second⟩ equal
  simp only [NormalizedStockMaintenanceRefillSlot.submitted,
    StockMaintenanceBatchSlotInput.mk.injEq, Option.some.injEq,
    true_and] at equal
  rw [equal.1, equal.2]

/-- A normalized batch. -/
structure NormalizesTo
    (input : StockMaintenanceBatchInput)
    (refills : List NormalizedStockMaintenanceRefillSlot) : Prop where
  mode : input.mode = .routineRefill
  nonempty : input.slots ≠ []
  listed : input.slots.Perm
    (refills.map NormalizedStockMaintenanceRefillSlot.submitted)
  positive : ∀ refill ∈ refills, 0 < refill.addition
  distinct :
    (refills.map NormalizedStockMaintenanceRefillSlot.slotId).Nodup
  sorted : refills.Pairwise
    (fun first second => first.slotId ≤ second.slotId)

instance : Std.Total (fun first second :
    NormalizedStockMaintenanceRefillSlot =>
      first.slotId ≤ second.slotId) :=
  ⟨fun first second => Nat.le_total first.slotId second.slotId⟩

instance : IsTrans NormalizedStockMaintenanceRefillSlot
    (fun first second => first.slotId ≤ second.slotId) :=
  ⟨fun _ _ _ => Nat.le_trans⟩

theorem sortedRefills_unique
    {first second : List NormalizedStockMaintenanceRefillSlot}
    (distinct :
      (second.map NormalizedStockMaintenanceRefillSlot.slotId).Nodup)
    (firstSorted : first.Pairwise
      (fun first second => first.slotId ≤ second.slotId))
    (secondSorted : second.Pairwise
      (fun first second => first.slotId ≤ second.slotId))
    (same : first.Perm second) :
    first = second := by
  refine List.Perm.eq_of_pairwise ?_ firstSorted secondSorted same
  intro left right inFirst inSecond below above
  exact List.inj_on_of_nodup_map distinct
    (same.mem_iff.mp inFirst) inSecond (Nat.le_antisymm below above)

/-- Normalization sorts what a submission lists, and refuses the rest. -/
theorem normalizeRefillBatch_eq_ok_iff :
    normalizeRefillBatch input = .ok refills ↔
      NormalizesTo input refills := by
  constructor
  · intro normalized
    have distinct := normalizeRefillBatch_nodup normalized
    unfold normalizeRefillBatch at normalized
    split at normalized
    · cases normalized
    rename_i admitted
    simp only [not_or, not_not, List.isEmpty_iff] at admitted
    obtain ⟨additions, computed, sorted⟩ :=
      bind_eq_ok_iff.mp normalized
    simp only at sorted
    split at sorted
    · cases sorted
      obtain ⟨listed, positive⟩ := mapM_normalized_eq_ok_iff.mp computed
      have order := List.perm_insertionSort
        (fun first second : NormalizedStockMaintenanceRefillSlot =>
          first.slotId ≤ second.slotId) additions
      refine ⟨admitted.1, admitted.2, ?_, ?_, distinct,
        List.pairwise_insertionSort _ _⟩
      · rw [listed]
        exact (order.map _).symm
      · exact fun refill member =>
          positive refill (order.mem_iff.mp member)
    · cases sorted
  · intro normalizes
    obtain ⟨additions, listed⟩ : input.slots ∈ Set.range
        (List.map NormalizedStockMaintenanceRefillSlot.submitted) := by
      rw [Set.range_list_map]
      intro slot member
      obtain ⟨refill, _, same⟩ :=
        List.mem_map.mp (normalizes.listed.mem_iff.mp member)
      exact ⟨refill, same⟩
    have order : additions.Perm refills := by
      refine (List.map_perm_map_iff submitted_injective).mp ?_
      rw [listed]
      exact normalizes.listed
    have computed : input.slots.mapM
        StockMaintenanceBatchSlotInput.normalized = .ok additions :=
      mapM_normalized_eq_ok_iff.mpr ⟨listed.symm, fun refill member =>
        normalizes.positive refill (order.mem_iff.mp member)⟩
    have sorted : additions.insertionSort
        (fun first second => first.slotId ≤ second.slotId) = refills :=
      sortedRefills_unique normalizes.distinct
        (List.pairwise_insertionSort _ _) normalizes.sorted
        ((List.perm_insertionSort _ _).trans order)
    unfold normalizeRefillBatch
    rw [if_neg (by simp [normalizes.mode, normalizes.nonempty])]
    refine bind_eq_ok_iff.mpr ⟨additions, computed, ?_⟩
    simp only [sorted, if_pos normalizes.distinct]

theorem slots_perm_of_normalizes
    (firstNormalizes : NormalizesTo first refills)
    (secondNormalizes : NormalizesTo second refills) :
    second.slots.Perm first.slots :=
  secondNormalizes.listed.trans firstNormalizes.listed.symm

theorem NormalizesTo.reordered
    (normalizes : NormalizesTo first refills)
    (mode : second.mode = .routineRefill)
    (same : second.slots.Perm first.slots) :
    NormalizesTo second refills where
  mode := mode
  nonempty := fun none => normalizes.nonempty
    (List.perm_nil.mp (by rw [none] at same; exact same.symm))
  listed := same.trans normalizes.listed
  positive := normalizes.positive
  distinct := normalizes.distinct
  sorted := normalizes.sorted

theorem Store.StockChecked.projectedStock_nonneg
    (checked : store.StockChecked)
    (version : PlanogramVersion)
    (slotId : SlotId) :
    0 ≤ store.projectedStock version slotId := by
  unfold Store.projectedStock Store.projectionOf
  cases found : store.currentStockProjection.find? slotId with
  | none => simp
  | some row =>
    by_cases ofVersion : row.planogramVersion = version
    · simp [Option.filter, ofVersion, checked row (Table.mem_of_find? found)]
    · simp [Option.filter, ofVersion]

/-- One listed slot of an applied refill. -/
structure RefillsSlot
    (version : PlanogramVersion)
    (taskId : TaskId)
    (operatorId : Nat)
    (now : Time)
    (before after : Store)
    (refill : NormalizedStockMaintenanceRefillSlot) : Prop where
  positive : 0 < refill.addition
  fits : ∃ row,
    before.machinePlanogramSlots.find? (version, refill.slotId) =
        some row ∧
      before.projectedStock version refill.slotId + refill.addition ≤
        row.capacity
  stock : after.projectedStock version refill.slotId =
    before.projectedStock version refill.slotId + refill.addition
  recorded : (plannedRefill before version taskId operatorId now
    refill).Recorded now before after

/-- The refill is applied to each listed slot, and to nothing else. -/
structure AppliesRefill
    (input : StockMaintenanceBatchInput)
    (refills : List NormalizedStockMaintenanceRefillSlot)
    (version : PlanogramVersion)
    (operatorId : Nat)
    (now : Time)
    (before after : Store) : Prop where
  active : before.activePlanogramVersion = some version
  normalizes : NormalizesTo input refills
  refilled : ∀ refill ∈ refills,
    RefillsSlot version input.taskId operatorId now before after refill
  counts : ∀ slotId,
    slotId ∉ refills.map NormalizedStockMaintenanceRefillSlot.slotId →
      after.countOf slotId = before.countOf slotId
  ledger : ∀ movementId,
    movementId ∉ refills.map
        (fun refill => MovementId.stockTask input.taskId refill.slotId) →
      after.stockMovements.find? movementId =
        before.stockMovements.find? movementId
  syncs : ∀ movementId,
    movementId ∉ refills.map
        (fun refill => MovementId.stockTask input.taskId refill.slotId) →
      after.stockMovementSync.find? movementId =
        before.stockMovementSync.find? movementId
  uploads : ∀ eventId,
    eventId ∉ refills.map (fun refill =>
        OutboxId.stockMovement (.stockTask input.taskId refill.slotId)) →
      after.outboxEvents.find? eventId = before.outboxEvents.find? eventId
  unbatched :
    before.stockMaintenanceBatches.find? input.taskId = none
  batch : after.stockMaintenanceBatches =
    before.stockMaintenanceBatches.insertOrIgnore
      { taskId := input.taskId
        planogramVersion := version
        operatorId := operatorId
        slots := refills
        createdAt := now }

theorem refillMovement_planned
    {taskId : TaskId}
    {now : Time}
    {answer : StockMovement × Int}
    (computed :
      refillMovement store identity taskId operatorId now refill =
        .ok answer) :
    answer.1 = plannedRefill store identity.planogramVersion taskId
      operatorId now refill := by
  unfold refillMovement at computed
  split at computed
  · cases computed
  simp only at computed
  split at computed
  · cases computed
  · cases computed
    rfl

/-- A committed batch is applied. -/
theorem recordRefillBatch_applies
    {now : Time}
    (checked : before.StockChecked)
    (normalizes : NormalizesTo input refills)
    (active :
      before.activePlanogramVersion = some identity.planogramVersion)
    (unbatched :
      before.stockMaintenanceBatches.find? input.taskId = none)
    (commits :
      (recordRefillBatch input refills operatorId identity now).Commits
        before () after) :
    AppliesRefill input refills identity.planogramVersion operatorId now
      before after := by
  unfold recordRefillBatch at commits
  simp only [commits_get_bind, commits_ofExcept_bind, commits_modify_bind] at commits
  obtain ⟨movements, computed, recorded⟩ := commits
  have planned : movements.map Prod.fst =
      refills.map (plannedRefill before identity.planogramVersion
        input.taskId operatorId now) :=
    map_eq_map_of_mapM_eq_ok refillMovement_planned computed
  have slots : movements.map (fun movement => movement.1.slotId) =
      refills.map NormalizedStockMaintenanceRefillSlot.slotId :=
    map_eq_map_of_mapM_eq_ok (fun ok => (refillMovement_ok ok).2.1) computed
  have names : movements.map (fun movement => movement.1.movementId) =
      refills.map (fun refill =>
        MovementId.stockTask input.taskId refill.slotId) :=
    map_eq_map_of_mapM_eq_ok (fun ok => (refillMovement_ok ok).2.2.1) computed
  have namesDistinct : (refills.map (fun refill =>
      MovementId.stockTask input.taskId refill.slotId)).Nodup := by
    have injective : Function.Injective
        (MovementId.stockTask input.taskId) := by
      intro first second equal
      cases equal
      rfl
    have mapped := normalizes.distinct.map injective
    rwa [List.map_map] at mapped
  obtain ⟨each, only⟩ := writeRefills_record
    (by rw [slots]; exact normalizes.distinct)
    (by rw [names]; exact namesDistinct) recorded
  rw [planned] at only
  refine ⟨active, normalizes, ?_, ?_, ?_, ?_, ?_, unbatched, only.batches⟩
  · intro refill member
    have inPlanned : plannedRefill before identity.planogramVersion
        input.taskId operatorId now refill ∈ movements.map Prod.fst := by
      rw [planned]
      exact List.mem_map_of_mem member
    obtain ⟨movement, inMovements, same⟩ := List.mem_map.mp inPlanned
    have record := each movement inMovements
    rw [same] at record
    obtain ⟨source, _, computedOk⟩ :=
      mem_of_mapM_eq_ok computed inMovements
    obtain ⟨_, sameSlot, _, _, _, _, _, row, found, capacity, within⟩ :=
      refillMovement_ok computedOk
    have added := normalizes.positive refill member
    have stocked := checked.projectedStock_nonneg
      identity.planogramVersion refill.slotId
    refine ⟨added, ⟨row, ?_, ?_⟩, ?_, ⟨record.fresh, record.unsynced,
      record.entry, record.sync, record.upload, record.count⟩⟩
    · rw [← sameSlot, same] at found
      exact found
    · rw [same, ← capacity] at within
      exact within
    · rw [Store.projectedStock, physicalStock_eq_countOf]
      have count := record.count
      simp only [plannedRefill] at count
      rw [count]
      simp [Option.filter]
      omega
  · intro slotId other
    exact only.counts slotId (by simpa [plannedRefill] using other)
  · intro movementId other
    exact only.ledger movementId (by simpa [plannedRefill] using other)
  · intro movementId other
    exact only.syncs movementId (by simpa [plannedRefill] using other)
  · intro eventId other
    exact only.uploads eventId (by simpa [plannedRefill] using other)

/--
What a caller of the transaction sees.  A refill that is not applied keeps
every stock; one that repeats a stored batch answers so.
-/
inductive RefillTransacts
    (input : StockMaintenanceBatchInput)
    (operatorId : Nat)
    (identity : StockMaintenanceTaskIdentity)
    (now : Time)
    (found : Store) : Except StoreError (Except StoreError Bool) →
      Store → Prop where
  | refused
      (refusal : StoreError) :
      RefillTransacts input operatorId identity now found
        (.error refusal) found
  | frozen
      {after : Store}
      (keeps : KeepsStock found after)
      (differs :
        (found.stockMaintenanceIdentityDifferences identity).isEmpty =
          false) :
      RefillTransacts input operatorId identity now found
        (.ok (.error staleStockMaintenanceTask)) after
  | repeated
      {refills : List NormalizedStockMaintenanceRefillSlot}
      {stored : StockMaintenanceBatch}
      (normalizes : NormalizesTo input refills)
      (isStored :
        found.stockMaintenanceBatches.find? input.taskId = some stored)
      (same : stored.slots = refills) :
      RefillTransacts input operatorId identity now found
        (.ok (.ok true)) found
  | applied
      {refills : List NormalizedStockMaintenanceRefillSlot}
      {after : Store}
      (applies : AppliesRefill input refills identity.planogramVersion
        operatorId now found after) :
      RefillTransacts input operatorId identity now found
        (.ok (.ok false)) after

/-- Every refill transaction ends in one of these ways. -/
theorem submitRefillBatch_transacts
    {now : Time}
    {answer : Except StoreError (Except StoreError Bool)}
    (checked : found.StockChecked)
    (executed :
      (submitRefillBatch input operatorId identity now).execute found =
        (answer, after)) :
    RefillTransacts input operatorId identity now found answer after := by
  rcases execute_cases
      (submitRefillBatch input operatorId identity now) found with
    ⟨refusal, failed⟩ | ⟨result, next, commits, succeeded⟩
  · rw [failed] at executed
    cases executed
    exact .refused refusal
  · rw [succeeded] at executed
    cases executed
    unfold submitRefillBatch at commits
    simp only [commits_ofExcept_bind, commits_get_bind] at commits
    obtain ⟨refills, normalized, submitted⟩ := commits
    have normalizes := normalizeRefillBatch_eq_ok_iff.mp normalized
    split at submitted
    · rename_i current
      unfold submitCurrentRefillBatch at submitted
      simp only [commits_get_bind] at submitted
      split at submitted
      · rename_i stored isStored
        simp only [commits_map, commits_ofExcept] at submitted
        obtain ⟨duplicate, ⟨replayed, rfl⟩, rfl⟩ := submitted
        unfold replayRefillBatch at replayed
        split at replayed
        · rename_i same
          cases replayed
          exact .repeated normalizes isStored same
        · cases replayed
      · rename_i unbatched
        obtain ⟨_, middle, recorded, answered⟩ :=
          commits_bind.mp submitted
        obtain ⟨rfl, rfl⟩ := commits_pure.mp answered
        exact .applied (recordRefillBatch_applies checked normalizes
          (isActive_of_no_differences current) unbatched recorded)
    · rename_i differs
      obtain ⟨keeps, rfl⟩ := KeepsStock.refuseStaleTask submitted
      exact .frozen keeps (by simpa using differs)

theorem submitRefillBatch_repeats
    {stored : StockMaintenanceBatch}
    (operatorId : Nat)
    (now : Time)
    (normalizes : NormalizesTo input stored.slots)
    (isStored :
      found.stockMaintenanceBatches.find? input.taskId = some stored)
    (current :
      (found.stockMaintenanceIdentityDifferences identity).isEmpty =
        true) :
    (submitRefillBatch input operatorId identity now).execute found =
      (.ok (.ok true), found) := by
  refine execute_of_commits ?_
  unfold submitRefillBatch
  simp only [commits_ofExcept_bind, commits_get_bind]
  refine ⟨stored.slots, normalizeRefillBatch_eq_ok_iff.mpr normalizes, ?_⟩
  rw [if_pos current]
  unfold submitCurrentRefillBatch
  simp only [commits_get_bind, isStored, commits_map, commits_ofExcept]
  exact ⟨true, ⟨if_pos rfl, trivial⟩, rfl⟩

end VendingSystem.Daemon
