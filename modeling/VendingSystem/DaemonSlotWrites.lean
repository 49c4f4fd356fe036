import VendingSystem.DaemonProjection
import Mathlib.Logic.Relation

namespace VendingSystem.Daemon

/-!
# Transactions as chains of slot writes

Apart from the activation of a planogram, every transaction on stock is a
chain of writes to one slot at a time.  A fact that each kind of write keeps
is therefore kept by every transaction.  Only a movement, an attested count
and a platform quantity count the stock of their slot anew.
-/

/-- Two stores with the same slots and the same ledger. -/
structure SameStock (before after : Store) : Prop
    extends SameSlots before after where
  ledger : after.stockMovements = before.stockMovements

namespace SameStock

theorem trans
    {first middle last : Store}
    (leading : SameStock first middle)
    (trailing : SameStock middle last) :
    SameStock first last where
  toSameSlots := leading.toSameSlots.trans trailing.toSameSlots
  ledger := trailing.ledger.trans leading.ledger

instance : IsPreorder Store SameStock where
  refl store := ⟨.refl store, rfl⟩
  trans _ _ _ := trans

end SameStock

/-- Two stores with the same attestations. -/
structure SameAttestations (before after : Store) : Prop where
  stored :
    after.physicalStockAttestation = before.physicalStockAttestation
  pending : after.pendingPhysicalStockAttestation =
    before.pendingPhysicalStockAttestation
  failed : after.failedPhysicalStockAttestation =
    before.failedPhysicalStockAttestation

namespace SameAttestations

theorem trans
    {first middle last : Store}
    (leading : SameAttestations first middle)
    (trailing : SameAttestations middle last) :
    SameAttestations first last where
  stored := trailing.stored.trans leading.stored
  pending := trailing.pending.trans leading.pending
  failed := trailing.failed.trans leading.failed

instance : IsPreorder Store SameAttestations where
  refl _ := ⟨rfl, rfl, rfl⟩
  trans _ _ _ := trans

end SameAttestations

/-- What a write does, apart from stopping sales. -/
inductive SlotWriteKind where
  | entry (slotId : SlotId)
  | attestation (slotId : SlotId)
  | snapshot (slotId : SlotId)
  | sale
  | state
  | prune
  | submission
  deriving Repr, DecidableEq

/-- A fresh entry made now that fits the slot it is projected into. -/
structure StockMovement.EnteredAt
    (movement : StockMovement)
    (now : Time)
    (store : Store)
    (slot : PlanogramSlot) : Prop where
  fresh : store.stockMovements.find? movement.movementId = none
  occurred : movement.occurredAt = now
  within : movement.afterQuantity ≤ slot.capacity
  before : movement.beforeQuantity =
    store.projectedStock movement.planogramVersion movement.slotId
  nonneg : 0 ≤ movement.beforeQuantity → 0 ≤ movement.afterQuantity

/-- The movement counts its slot under a version. -/
structure StockMovement.Counts
    (movement : StockMovement)
    (version : PlanogramVersion)
    (slot : PhysicalStockAttestationSlotInput) : Prop where
  ofVersion : movement.planogramVersion = version
  ofSlot : movement.slotId = slot.slotId
  counted : movement.afterQuantity = slot.quantity

/--
One write of a transaction on stock.  `allows` bounds its kind and `records`
the movement that it adds to the ledger.
-/
inductive SlotWrite
    (trusted : Prop)
    (now : Time)
    (allows : SlotWriteKind → Prop)
    (records : StockMovement → Prop) : Store → Store → Prop where
  | quiet
      {before after : Store}
      (same : SameStock before after)
      (submitted : allows .submission ∨ SameAttestations before after) :
      SlotWrite trusted now allows records before after
  | pruned
      {before after : Store}
      (allowed : allows .prune)
      (same : SameSlots before after)
      (fewer : ∀ movement ∈ after.stockMovements,
        movement ∈ before.stockMovements)
      (attestations : SameAttestations before after) :
      SlotWrite trusted now allows records before after
  | movement
      {before after : Store}
      {movement : StockMovement}
      {slot : PlanogramSlot}
      {upload : Bool}
      (allowed : allows (.entry movement.slotId))
      (recorded : records movement)
      (slotFound : before.machinePlanogramSlots.find?
        (movement.planogramVersion, movement.slotId) = some slot)
      (isActive :
        before.activePlanogramVersion = some movement.planogramVersion)
      (entered : movement.EnteredAt now before slot)
      (applied :
        applyStockMovement before movement slot.capacity upload now =
          .ok after) :
      SlotWrite trusted now allows records before after
  | attested
      {before noted after : Store}
      {movement : StockMovement}
      {version : PlanogramVersion}
      {row : PlanogramSlot}
      {slot : PhysicalStockAttestationSlotInput}
      (allowed : allows (.attestation slot.slotId))
      (recorded : records movement)
      (counts : movement.Counts version slot)
      (slotFound : before.machinePlanogramSlots.find?
        (version, slot.slotId) = some row)
      (isActive : before.activePlanogramVersion = some version)
      (withinCapacity : slot.quantity ≤ row.capacity)
      (inserted : insertStockMovement before movement = .ok noted)
      (projected :
        projectAttestedSlot noted version slot now = .ok after) :
      SlotWrite trusted now allows records before after
  | snapshot
      {before after : Store}
      {version : PlanogramVersion}
      {slot : MachineStockSnapshotSlot}
      (allowed : allows (.snapshot slot.slotId))
      (isActive : before.activePlanogramVersion = some version)
      (checked : checkSnapshotSlot before version slot = .ok ())
      (available : trusted → slot.availableQty ≤ slot.onHandQty)
      (projected :
        projectSnapshotSlot before version slot now = .ok after) :
      SlotWrite trusted now allows records before after
  | review
      {before after : Store}
      {version : PlanogramVersion}
      {slotId : SlotId}
      {reason source : String}
      (isActive : before.activePlanogramVersion = some version)
      (blocked :
        blockSlotForReview before version slotId reason source now =
          .ok after) :
      SlotWrite trusted now allows records before after
  | blocker
      {before after : Store}
      {blocker : StockMovementSaleSafetyBlocker}
      (applied : applySaleSafetyBlocker before blocker now = .ok after) :
      SlotWrite trusted now allows records before after
  | state
      {before after : Store}
      {version : PlanogramVersion}
      {slotId : SlotId}
      {state : SlotSalesState}
      {source : String}
      (allowed : allows .state)
      (updated :
        updateSlotSalesState before version slotId state source now =
          .ok after) :
      SlotWrite trusted now allows records before after
  | sold
      {before after : Store}
      {command : DispenseCommandPayload}
      {preferred : PlanogramVersion × SlotId}
      (allowed : allows .sale)
      (recorded : ∀ slot projection,
        records (dispenseMovement command slot projection now))
      (applied :
        applyDispenseSuccessToLocalStock before command preferred now =
          .ok after) :
      SlotWrite trusted now allows records before after

/-- The write is an entry for one of the given slots. -/
def EntersOneOf (slotIds : List SlotId) (kind : SlotWriteKind) : Prop :=
  ∃ slotId ∈ slotIds, kind = .entry slotId

/-- The write attests one of the given slots. -/
def AttestsOneOf (slotIds : List SlotId) (kind : SlotWriteKind) : Prop :=
  ∃ slotId ∈ slotIds, kind = .attestation slotId

/-- The write takes over a platform quantity for one of the given slots. -/
def SnapshotsOneOf (slotIds : List SlotId) (kind : SlotWriteKind) : Prop :=
  ∃ slotId ∈ slotIds, kind = .snapshot slotId

/-- Any number of writes. -/
abbrev SlotWrites
    (trusted : Prop)
    (now : Time)
    (allows : SlotWriteKind → Prop)
    (records : StockMovement → Prop) : Store → Store → Prop :=
  Relation.ReflTransGen (SlotWrite trusted now allows records)

variable {trusted : Prop} {now : Time} {allows : SlotWriteKind → Prop}
  {records : StockMovement → Prop} {movement : StockMovement}
  {next store after before : Store} {slot : PhysicalStockAttestationSlotInput}
  {version : PlanogramVersion} {slotId : SlotId}
  {identity : StockMaintenanceTaskIdentity}
  {difference : StockMaintenanceSlotDifference} {Answer : Type}
  {slots : List NormalizedStockMaintenanceRefillSlot}
  {input : StockMaintenanceBatchInput} {operatorId : Nat}
  {carried : List PendingPhysicalStockAttestationSlotGeneration}
  {pending : PendingPhysicalStockAttestation}

theorem insertStockMovement_ok
    (inserted : insertStockMovement store movement = .ok next) :
    store.stockMovements.find? movement.movementId = none ∧
      next = { store with
        stockMovements := store.stockMovements.insertOrIgnore movement } := by
  unfold insertStockMovement at inserted
  split at inserted
  · cases inserted
  · rename_i fresh
    cases inserted
    exact ⟨by simpa using fresh, rfl⟩

theorem insertStockMovement_same
    (inserted : insertStockMovement store movement = .ok next) :
    SameSlots store next := by
  obtain ⟨_, rfl⟩ := insertStockMovement_ok inserted
  exact ⟨rfl, rfl, rfl, rfl, rfl, rfl⟩

theorem TouchesOnly.attestSlot
    {noted : Store}
    (inserted : insertStockMovement before movement = .ok noted)
    (projected :
      Daemon.projectAttestedSlot noted version slot now = .ok after) :
    TouchesOnly slot.slotId before after :=
  (TouchesOnly.of_same (insertStockMovement_same inserted)).trans
    (.projectAttestedSlot projected)

theorem TouchesOnly.projectedStock
    {other : SlotId}
    (touches : TouchesOnly slotId before after)
    (differs : other ≠ slotId)
    (version : PlanogramVersion) :
    after.projectedStock version other =
      before.projectedStock version other := by
  rw [Store.projectedStock, Store.projectedStock, Store.projectionOf,
    Store.projectionOf, (touches.others other differs).row]

/-- A write leaves the planograms as they are. -/
structure SamePlanograms (before after : Store) : Prop where
  active : after.activePlanogramVersion = before.activePlanogramVersion
  versions :
    after.machinePlanogramVersions = before.machinePlanogramVersions
  slots : after.machinePlanogramSlots = before.machinePlanogramSlots

theorem TouchesOnly.samePlanograms
    (touches : TouchesOnly slotId before after) :
    SamePlanograms before after :=
  ⟨touches.active, touches.versions, touches.slots⟩

theorem SlotWrite.samePlanograms
    (write : SlotWrite trusted now allows records before after) :
    SamePlanograms before after := by
  cases write with
  | quiet same _ => exact ⟨same.active, same.versions, same.slots⟩
  | pruned _ same _ _ => exact ⟨same.active, same.versions, same.slots⟩
  | movement _ _ _ _ _ applied =>
    exact (TouchesOnly.applyStockMovement applied).samePlanograms
  | attested _ _ _ _ _ _ inserted projected =>
    exact (TouchesOnly.attestSlot inserted projected).samePlanograms
  | snapshot _ _ _ _ projected =>
    exact (TouchesOnly.projectSnapshotSlot projected).samePlanograms
  | review _ blocked =>
    exact (TouchesOnly.blockSlotForReview blocked).samePlanograms
  | blocker applied =>
    exact (TouchesOnly.applySaleSafetyBlocker applied).samePlanograms
  | state _ updated =>
    exact (TouchesOnly.updateSlotSalesState updated).samePlanograms
  | sold _ _ applied =>
    rcases TouchesOnly.applyDispenseSuccess applied with
      rfl | ⟨_, _, _, touches⟩
    · exact ⟨rfl, rfl, rfl⟩
    · exact touches.samePlanograms

theorem SlotWrites.keeps
    (invariant : Store → Prop)
    (writeKeeps : ∀ {before after},
      SlotWrite trusted now allows records before after →
        invariant before → invariant after)
    (writes : SlotWrites trusted now allows records before after)
    (start : invariant before) :
    invariant after := by
  induction writes with
  | refl => exact start
  | tail _ write inductionHypothesis =>
    exact writeKeeps write inductionHypothesis

theorem SlotWrites.samePlanograms
    (writes : SlotWrites trusted now allows records before after) :
    SamePlanograms before after := by
  refine SlotWrites.keeps (SamePlanograms before)
    (fun write earlier => ?_) writes ⟨rfl, rfl, rfl⟩
  have same := write.samePlanograms
  exact ⟨same.active.trans earlier.active,
    same.versions.trans earlier.versions, same.slots.trans earlier.slots⟩

open Transaction

/-- A refill or a count of one slot. -/
theorem recordStockMovementWithUpload_writes
    {input : StockMovementInput}
    {upload : Bool}
    {reported : Option StoreError}
    (allowed : allows (.entry input.slotId))
    (recordsEntry : records (enteredMovement before input now))
    (recorded :
      recordStockMovementWithUpload before input upload now =
        .ok (after, reported)) :
    SlotWrites trusted now allows records before after := by
  unfold recordStockMovementWithUpload at recorded
  split at recorded
  · cases recorded
  rename_i nonnegative
  split at recorded
  · cases recorded
  split at recorded
  · cases recorded
  split at recorded
  · split at recorded <;> cases recorded
    exact .refl
  rename_i fresh
  split at recorded
  · cases recorded
  rename_i slot mapped
  obtain ⟨slotFound, isActive⟩ := Option.filter_eq_some_iff.mp mapped
  have slotVersion : slot.planogramVersion = input.planogramVersion :=
    congrArg Prod.fst (Table.key_of_find? slotFound)
  simp only [Store.isActiveSlot, beq_iff_eq, slotVersion] at isActive
  simp only at recorded
  split at recorded
  · obtain ⟨frozen, froze, same⟩ := map_eq_ok_iff.mp recorded
    cases same
    exact .single (.review isActive froze)
  · rename_i fits
    obtain ⟨projected, applied, same⟩ :=
      map_eq_ok_iff.mp recorded
    cases same
    have entered :
        (enteredMovement before input now).EnteredAt now before slot := by
      refine ⟨fresh, rfl, not_lt.mp fits, rfl, fun stocked => ?_⟩
      simp only [enteredMovement] at stocked ⊢
      split <;> omega
    exact .single (.movement allowed recordsEntry slotFound isActive
      entered applied)

theorem commitJournaledDispenseSideEffects_writes
    {command : DispenseCommandPayload}
    {result : DispenseResultPayload}
    {preferred : PlanogramVersion × SlotId}
    {changed : Bool}
    (allowed : allows .sale)
    (recorded : ∀ slot projection,
      records (dispenseMovement command slot projection now))
    (committed :
      commitJournaledDispenseSideEffects before command result preferred
        now = .ok (after, changed)) :
    SlotWrites trusted now allows records before after := by
  unfold commitJournaledDispenseSideEffects at committed
  split at committed
  · cases committed
  split at committed
  · cases committed
  simp only at committed
  split at committed
  · split at committed
    · cases committed
    · cases committed
      exact .single (.quiet ⟨⟨rfl, rfl, rfl, rfl, rfl, rfl⟩, rfl⟩
      (Or.inr ⟨rfl, rfl, rfl⟩))
  split at committed
  · cases committed
  obtain ⟨stocked, sold, same⟩ := map_eq_ok_iff.mp committed
  cases same
  have finish : SlotWrites trusted now allows records stocked
      (markCommandSideEffectsCommitted
        (closeOrderSession
          (insertOutbox stocked (OutboxEvent.dispenseResult result now))
          command result now)
        command.commandNo now) :=
    .single (.quiet ⟨⟨rfl, rfl, rfl, rfl, rfl, rfl⟩, rfl⟩
      (Or.inr ⟨rfl, rfl, rfl⟩))
  split at sold
  · exact .head (.sold allowed recorded sold) finish
  · cases sold
    exact finish

theorem recordStockMovementUploadResponse_writes
    {event : OutboxEvent}
    {response : StockMovementUploadResponse}
    (commits :
      (recordStockMovementUploadResponse event response now).Commits
        before () after) :
    SlotWrites trusted now allows records before after := by
  unfold recordStockMovementUploadResponse at commits
  simp only [commits_get_bind, commits_require_bind, commits_modify_bind,
    commits_statement_bind, commits_modify] at commits
  obtain ⟨_, answered, applied, rfl⟩ := commits
  have settled : SlotWrite trusted now allows records before
      (settleMovementSync before event response now) :=
    .quiet ⟨⟨rfl, rfl, rfl, rfl, rfl, rfl⟩, rfl⟩ (Or.inr ⟨rfl, rfl, rfl⟩)
  have removed : SlotWrite trusted now allows records answered
      (removeOutboxEvent answered event.id) :=
    .quiet ⟨⟨rfl, rfl, rfl, rfl, rfl, rfl⟩, rfl⟩ (Or.inr ⟨rfl, rfl, rfl⟩)
  unfold applyResponseBlocker at applied
  split at applied
  · cases applied
    exact .head settled (.single removed)
  split at applied
  · exact .head settled (.head (.blocker applied) (.single removed))
  · cases applied
    exact .head settled (.single removed)

theorem markStockMovementUploadFailed_write
    {eventId : OutboxId}
    {movementId : MovementId}
    {error : String}
    {nextAttemptAt : Time}
    (commits :
      (markStockMovementUploadFailed eventId movementId error
        nextAttemptAt now).Commits before () after) :
    SlotWrite trusted now allows records before after := by
  unfold markStockMovementUploadFailed at commits
  simp only [commits_get_bind, commits_requireSome_bind, commits_require_bind,
    commits_modify] at commits
  obtain ⟨_, _, _, rfl⟩ := commits
  exact .quiet ⟨⟨rfl, rfl, rfl, rfl, rfl, rfl⟩, rfl⟩ (Or.inr ⟨rfl, rfl, rfl⟩)

theorem stockMaintenanceIdentityDifferences_version
    (member :
      difference ∈ store.stockMaintenanceIdentityDifferences identity) :
    difference.currentPlanogramVersion = store.activePlanogramVersion := by
  unfold Store.stockMaintenanceIdentityDifferences at member
  simp only at member
  split at member
  · rw [List.mem_singleton] at member
    rw [member]
  · obtain ⟨slotId, _, compared⟩ := List.mem_filterMap.mp member
    unfold Store.slotDifference at compared
    simp only at compared
    split at compared
    · cases compared
    · cases compared
      rfl

theorem freezeStockIdentityDifference_writes
    (ofActive : difference.currentPlanogramVersion =
      before.activePlanogramVersion)
    (commits :
      (freezeStockIdentityDifference now difference).Commits
        before () after) :
    SlotWrites trusted now allows records before after := by
  unfold freezeStockIdentityDifference at commits
  split at commits
  · obtain ⟨_, rfl⟩ := commits_pure.mp commits
    exact .refl
  · rename_i version named
    refine forM_keeps
      (fun _ store => SlotWrites trusted now allows records before store)
      ?_ .refl commits
    intro slot rest store next earlier froze
    have isActive : store.activePlanogramVersion = some version := by
      rw [earlier.samePlanograms.active, ← ofActive, named]
    exact earlier.tail (.review isActive (commits_statement.mp froze))

theorem refuseStaleTask_writes
    {differences : List StockMaintenanceSlotDifference}
    {answer : Except StoreError Answer}
    (ofActive : ∀ difference ∈ differences,
      difference.currentPlanogramVersion = before.activePlanogramVersion)
    (commits :
      (refuseStaleTask Answer differences now).Commits
        before answer after) :
    SlotWrites trusted now allows records before after := by
  unfold refuseStaleTask freezeStockIdentityDifferences at commits
  obtain ⟨_, _, froze, answered⟩ := commits_bind.mp commits
  obtain ⟨_, rfl⟩ := commits_pure.mp answered
  have finished := forM_keeps
    (fun remaining store =>
      SlotWrites trusted now allows records before store ∧
        ∀ difference ∈ remaining,
          difference.currentPlanogramVersion =
            before.activePlanogramVersion)
    (fun {difference rest store next} progress round => by
      obtain ⟨earlier, active⟩ := progress
      have ofStore : difference.currentPlanogramVersion =
          store.activePlanogramVersion := by
        rw [earlier.samePlanograms.active]
        exact active difference List.mem_cons_self
      exact ⟨earlier.trans
        (freezeStockIdentityDifference_writes ofStore round),
        fun other member => active other (List.mem_cons_of_mem _ member)⟩)
    ⟨.refl, ofActive⟩ froze
  exact finished.1

theorem isActive_of_no_differences
    (current :
      (store.stockMaintenanceIdentityDifferences identity).isEmpty =
        true) :
    store.activePlanogramVersion = some identity.planogramVersion := by
  unfold Store.stockMaintenanceIdentityDifferences at current
  simp only at current
  split at current
  · cases current
  · rename_i same
    by_contra differs
    exact same ⟨current, Or.inl differs⟩

theorem normalizeRefillBatch_mem
    (normalized : normalizeRefillBatch input = .ok slots)
    {slot : NormalizedStockMaintenanceRefillSlot}
    (member : slot ∈ slots) :
    slot.slotId ∈
        input.slots.map StockMaintenanceBatchSlotInput.slotId ∧
      0 < slot.addition := by
  unfold normalizeRefillBatch at normalized
  split at normalized
  · cases normalized
  obtain ⟨additions, computed, sorted⟩ :=
    bind_eq_ok_iff.mp normalized
  simp only at sorted
  split at sorted
  · cases sorted
    rw [List.mem_insertionSort] at member
    obtain ⟨submitted, inInput, normalizedSlot⟩ :=
      mem_of_mapM_eq_ok computed member
    unfold StockMaintenanceBatchSlotInput.normalized at normalizedSlot
    split at normalizedSlot
    · split at normalizedSlot
      · rename_i positive
        cases normalizedSlot
        exact ⟨List.mem_map.mpr ⟨submitted, inInput, rfl⟩, positive⟩
      · cases normalizedSlot
    · cases normalizedSlot
  · cases sorted

theorem refillMovement_ok
    {taskId : TaskId}
    {refill : NormalizedStockMaintenanceRefillSlot}
    {capacity : Int}
    (computed :
      refillMovement store identity taskId operatorId now refill =
        .ok (movement, capacity)) :
    movement.planogramVersion = identity.planogramVersion ∧
      movement.slotId = refill.slotId ∧
      movement.movementId = .stockTask taskId refill.slotId ∧
      movement.occurredAt = now ∧
      movement.source = .localMaintenance ∧
      movement.beforeQuantity =
        store.projectedStock identity.planogramVersion refill.slotId ∧
      movement.afterQuantity =
        movement.beforeQuantity + refill.addition ∧
      ∃ slot, store.machinePlanogramSlots.find?
          (identity.planogramVersion, refill.slotId) = some slot ∧
        slot.capacity = capacity ∧ movement.afterQuantity ≤ capacity := by
  unfold refillMovement at computed
  split at computed
  · cases computed
  rename_i slot slotFound
  simp only at computed
  split at computed
  · cases computed
  · rename_i fits
    cases computed
    exact ⟨rfl, rfl, rfl, rfl, rfl, rfl, rfl, slot, slotFound, rfl,
      not_lt.mp fits⟩

theorem normalizeRefillBatch_nodup
    (normalized : normalizeRefillBatch input = .ok slots) :
    (slots.map NormalizedStockMaintenanceRefillSlot.slotId).Nodup := by
  unfold normalizeRefillBatch at normalized
  split at normalized
  · cases normalized
  obtain ⟨additions, computed, sorted⟩ :=
    bind_eq_ok_iff.mp normalized
  simp only at sorted
  split at sorted
  · rename_i distinct
    cases sorted
    exact distinct
  · cases sorted

theorem recordRefillBatch_writes
    (isActive :
      before.activePlanogramVersion = some identity.planogramVersion)
    (allowed : ∀ slot ∈ slots, allows (.entry slot.slotId))
    (named : ∀ movement,
      movement.movementId = .stockTask input.taskId movement.slotId →
        records movement)
    (positive : ∀ slot ∈ slots, 0 < slot.addition)
    (distinct :
      (slots.map NormalizedStockMaintenanceRefillSlot.slotId).Nodup)
    (commits :
      (recordRefillBatch input slots operatorId identity now).Commits
        before () after) :
    SlotWrites trusted now allows records before after := by
  unfold recordRefillBatch at commits
  simp only [commits_get_bind, commits_ofExcept_bind, commits_modify_bind] at commits
  obtain ⟨refills, computed, recorded⟩ := commits
  have mapped : ∀ refill ∈ refills, allows (.entry refill.1.slotId) ∧
      records refill.1 ∧
      refill.1.planogramVersion = identity.planogramVersion ∧
      refill.1.occurredAt = now ∧
      refill.1.beforeQuantity ≤ refill.1.afterQuantity ∧
      refill.1.afterQuantity ≤ refill.2 ∧
      ∃ slot, before.machinePlanogramSlots.find?
          (identity.planogramVersion, refill.1.slotId) = some slot ∧
        slot.capacity = refill.2 := by
    intro refill member
    obtain ⟨slot, inSlots, refillComputed⟩ :=
      mem_of_mapM_eq_ok computed member
    obtain ⟨version, sameSlot, sameTask, occurred, _, beforeStock,
      addition, row, found, capacity, within⟩ :=
      refillMovement_ok refillComputed
    rw [← sameSlot] at found sameTask
    refine ⟨?_, named _ sameTask, version, occurred, ?_, within, row, found,
      capacity⟩
    · rw [sameSlot]
      exact allowed slot inSlots
    · have added := positive slot inSlots
      omega
  have oncePerSlot : (refills.map (fun refill => refill.1.slotId)).Nodup := by
    rw [map_eq_map_of_mapM_eq_ok (fun refillComputed => (refillMovement_ok
      refillComputed).2.1) computed]
    exact distinct
  refine (forM_keeps
    (fun remaining store =>
      SlotWrites trusted now allows records before store ∧
        (∀ refill ∈ remaining, refill ∈ refills) ∧
        (remaining.map (fun refill => refill.1.slotId)).Nodup ∧
        ∀ refill ∈ remaining, refill.1.beforeQuantity =
          store.projectedStock refill.1.planogramVersion refill.1.slotId)
    ?_ ⟨?_, fun _ => id, oncePerSlot, ?_⟩ recorded).1
  · rintro refill rest store next
      ⟨earlier, fromBatch, remainingDistinct, unprojected⟩ round
    unfold writeRefill at round
    simp only [commits_get_bind, commits_require_bind, commits_statement,
      Store.movementIsFresh, Bool.and_eq_true, Option.isNone_iff_eq_none] at round
    obtain ⟨inBatch, ofTask, version, occurred, grows, within, slot,
      slotFound, capacity⟩ := mapped refill (fromBatch refill List.mem_cons_self)
    have same := earlier.samePlanograms
    rw [← version, ← same.slots] at slotFound
    rw [← version, ← same.active] at isActive
    have applied := round.2
    rw [← capacity] at applied within
    have entered : refill.1.EnteredAt now store slot :=
      ⟨round.1.1, occurred, within, unprojected refill List.mem_cons_self,
        fun stocked => le_trans stocked grows⟩
    have touches := TouchesOnly.applyStockMovement applied
    rw [List.map_cons, List.nodup_cons] at remainingDistinct
    refine ⟨earlier.tail
      (.movement inBatch ofTask slotFound isActive entered applied), ?_,
      remainingDistinct.2, ?_⟩
    · exact fun other member =>
        fromBatch other (List.mem_cons_of_mem _ member)
    · intro other member
      have differs : other.1.slotId ≠ refill.1.slotId := by
        intro same
        refine remainingDistinct.1 ?_
        rw [← same]
        exact List.mem_map_of_mem member
      rw [unprojected other (List.mem_cons_of_mem _ member)]
      exact (touches.projectedStock differs _).symm
  · exact .single (.quiet ⟨⟨rfl, rfl, rfl, rfl, rfl, rfl⟩, rfl⟩
      (Or.inr ⟨rfl, rfl, rfl⟩))
  · intro refill member
    obtain ⟨slot, _, refillComputed⟩ :=
      mem_of_mapM_eq_ok computed member
    obtain ⟨version, sameSlot, _, _, _, beforeStock, _⟩ :=
      refillMovement_ok refillComputed
    rw [beforeStock, version, sameSlot]
    rfl

theorem submitRefillBatch_writes
    {answer : Except StoreError Bool}
    (allowed : ∀ slotId ∈
      input.slots.map StockMaintenanceBatchSlotInput.slotId,
      allows (.entry slotId))
    (named : ∀ movement,
      movement.movementId = .stockTask input.taskId movement.slotId →
        records movement)
    (commits :
      (submitRefillBatch input operatorId identity now).Commits
        before answer after) :
    SlotWrites trusted now allows records before after := by
  unfold submitRefillBatch at commits
  simp only [commits_ofExcept_bind, commits_get_bind] at commits
  obtain ⟨slots, normalized, submitted⟩ := commits
  split at submitted
  · rename_i current
    unfold submitCurrentRefillBatch at submitted
    simp only [commits_get_bind] at submitted
    split at submitted
    · simp only [commits_map, commits_ofExcept] at submitted
      obtain ⟨_, ⟨_, rfl⟩, _⟩ := submitted
      exact .refl
    · obtain ⟨_, middle, recorded, answered⟩ :=
        commits_bind.mp submitted
      obtain ⟨_, rfl⟩ := commits_pure.mp answered
      exact recordRefillBatch_writes (isActive_of_no_differences current)
        (fun slot member =>
          allowed _ (normalizeRefillBatch_mem normalized member).1)
        named
        (fun slot member =>
          (normalizeRefillBatch_mem normalized member).2)
        (normalizeRefillBatch_nodup normalized) recorded
  · exact refuseStaleTask_writes
      (fun _ => stockMaintenanceIdentityDifferences_version) submitted

theorem planogramSlots_mem
    {slot : PlanogramSlot}
    (member : slot ∈ store.planogramSlots version) :
    store.machinePlanogramSlots.find? (version, slot.slotId) =
      some slot := by
  unfold Store.planogramSlots at member
  rw [List.mem_insertionSort] at member
  obtain ⟨stored, ofVersion⟩ := List.mem_filter.mp member
  rw [beq_iff_eq] at ofVersion
  rw [← ofVersion]
  exact Table.find?_of_mem (show slot ∈ store.machinePlanogramSlots from stored)

theorem mem_planogramSlots
    {slot : PlanogramSlot}
    (found :
      store.machinePlanogramSlots.find? (version, slotId) = some slot) :
    slot ∈ store.planogramSlots version := by
  unfold Store.planogramSlots
  rw [List.mem_insertionSort]
  refine List.mem_filter.mpr ⟨Table.mem_of_find? found, ?_⟩
  exact beq_iff_eq.mpr (congrArg Prod.fst (Table.key_of_find? found))

theorem attestedSlotFor_ok
    {slots : List PhysicalStockAttestationSlotInput}
    {row : PlanogramSlot}
    (fits : attestedSlotFor slots row = .ok slot) :
    slot ∈ slots ∧ slot.slotId = row.slotId ∧
      slot.quantity ≤ row.capacity := by
  unfold attestedSlotFor at fits
  split at fits
  · cases fits
  rename_i other found
  split at fits
  · cases fits
  rename_i mapped
  split at fits
  · cases fits
  · rename_i within
    cases fits
    refine ⟨List.mem_of_find?_eq_some found, ?_, not_lt.mp within⟩
    by_contra differs
    exact mapped (Or.inl differs)

theorem admitAttestation_commits
    {input : PhysicalStockAttestationInput}
    {rows : List PlanogramSlot}
    (commits :
      (admitAttestation input).Commits before rows after) :
    after = before ∧
      before.activePlanogramVersion = some input.planogramVersion ∧
      rows = before.planogramSlots input.planogramVersion ∧
      rows.length = input.slots.length ∧
      checkAttestedSlots [] input.slots = .ok () := by
  unfold admitAttestation at commits
  simp only [commits_get_bind, commits_require_bind, commits_ofExcept_bind,
    commits_pure, beq_iff_eq] at commits
  obtain ⟨isActive, sameLength, _, checked, rfl, rfl⟩ := commits
  exact ⟨rfl, isActive, rfl, sameLength, checked⟩

/-- An attestation that becomes a stock fact at once. -/
theorem recordPhysicalStockAttestation_writes
    {input : PhysicalStockAttestationInput}
    (submitted : allows .submission)
    (allowed : ∀ slot ∈ input.slots, allows (.attestation slot.slotId))
    (counted : ∀ slot ∈ input.slots, ∀ beforeQuantity, records
      (attestedMovement input slot
        (.stockTask input.attestationId slot.slotId) beforeQuantity now))
    (commits :
      (recordPhysicalStockAttestation input now).Commits
        before () after) :
    SlotWrites trusted now allows records before after := by
  unfold recordPhysicalStockAttestation at commits
  simp only [commits_require_bind] at commits
  obtain ⟨_, admits⟩ := commits
  obtain ⟨rows, middle, admitted, attests⟩ :=
    commits_bind.mp admits
  obtain ⟨rfl, isActive, rfl, _, _⟩ := admitAttestation_commits admitted
  obtain ⟨_, recorded, attested, stored⟩ :=
    commits_bind.mp attests
  rw [commits_modify] at stored
  subst stored
  have stores : SlotWrite trusted now allows records recorded
      { recorded with
        physicalStockAttestation := some
          { attestationId := input.attestationId
            planogramVersion := input.planogramVersion
            operatorId := input.operatorId
            attestedAt := now
            slots := input.slots } } :=
    .quiet ⟨⟨rfl, rfl, rfl, rfl, rfl, rfl⟩, rfl⟩ (Or.inl submitted)
  refine Relation.ReflTransGen.tail ?_ stores
  refine (forM_keeps
    (fun remaining store =>
      SlotWrites trusted now allows records middle store ∧
        ∀ row ∈ remaining,
          row ∈ middle.planogramSlots input.planogramVersion)
    ?_ ⟨.refl, fun _ => id⟩ attested).1
  rintro row rest store next ⟨earlier, listed⟩ round
  unfold attestSlot at round
  simp only [commits_ofExcept_bind, commits_statement_bind, commits_statement]
    at round
  obtain ⟨slot, fits, noted, inserted, projected⟩ := round
  obtain ⟨inInput, sameSlot, within⟩ := attestedSlotFor_ok fits
  have slotFound := planogramSlots_mem (listed row List.mem_cons_self)
  have same := earlier.samePlanograms
  rw [← sameSlot, ← same.slots] at slotFound
  rw [← same.active] at isActive
  refine ⟨earlier.tail
    (.attested (allowed slot inInput) (counted slot inInput _)
      ⟨rfl, rfl, rfl⟩ slotFound isActive within inserted projected), ?_⟩
  exact fun other member => listed other (List.mem_cons_of_mem _ member)

theorem stageSlot_within
    (input : PhysicalStockAttestationInput)
    (carried : List PendingPhysicalStockAttestationSlotGeneration)
    (now : Time)
    (row : PlanogramSlot) :
    Within SameStock (stageSlot input carried now row) := by
  apply Within.bind (Within.ofExcept _)
  intro slot
  apply Within.bind Within.get
  intro store
  split
  · exact Within.pure _
  · apply Within.bind (Within.require _ _)
    intro _
    apply Within.bind
      (Within.modify fun _ =>
        ⟨⟨rfl, rfl, rfl, rfl, rfl, rfl⟩, rfl⟩)
    exact fun _ => Within.pure _

theorem stageAdmittedAttestation_same
    {input : PhysicalStockAttestationInput}
    (commits :
      (stageAdmittedAttestation input carried now).Commits
        before () after) :
    SameStock before after := by
  unfold stageAdmittedAttestation at commits
  obtain ⟨rows, middle, admitted, later⟩ :=
    commits_bind.mp commits
  obtain ⟨generations, staged, stages, stored⟩ :=
    commits_bind.mp later
  rw [(admitAttestation_commits admitted).1] at stages
  rw [commits_modify] at stored
  subst stored
  exact (Within.mapM (stageSlot_within input carried now) rows
    stages).trans ⟨⟨rfl, rfl, rfl, rfl, rfl, rfl⟩, rfl⟩

theorem stagePhysicalStockAttestation_writes
    {input : PhysicalStockAttestationInput}
    {identity : Option StockMaintenanceTaskIdentity}
    {answer : Except StoreError Unit}
    (submitted : allows .submission)
    (commits :
      (stagePhysicalStockAttestation input carried identity now).Commits
        before answer after) :
    SlotWrites trusted now allows records before after := by
  unfold stagePhysicalStockAttestation at commits
  simp only [commits_get_bind] at commits
  split at commits
  · unfold stageCurrentAttestation at commits
    obtain ⟨_, middle, staged, answered⟩ :=
      commits_bind.mp commits
    obtain ⟨_, rfl⟩ := commits_pure.mp answered
    exact .single
      (.quiet (stageAdmittedAttestation_same staged) (Or.inl submitted))
  · refine refuseStaleTask_writes (fun difference member => ?_) commits
    unfold Store.taskDifferences at member
    split at member
    · exact stockMaintenanceIdentityDifferences_version member
    · cases member

/-- The identifier under which a pending count is recorded. -/
def PendingPhysicalStockAttestation.countedAs
    (pending : PendingPhysicalStockAttestation)
    (slotId : SlotId) : MovementId :=
  ((pending.generationOf slotId).map
    PendingPhysicalStockAttestationSlotGeneration.movementId).getD
    (.stockTask pending.input.attestationId slotId)

/-- The time at which a slot of a pending attestation was counted. -/
def PendingPhysicalStockAttestation.countedAt
    (pending : PendingPhysicalStockAttestation)
    (slotId : SlotId) : Time :=
  ((pending.generationOf slotId).map
    PendingPhysicalStockAttestationSlotGeneration.occurredAt).getD
    pending.attestedAt

theorem observationOf_some
    {observation : MovementId × Int × Time}
    (observed : pending.observationOf store slot = some observation) :
    observation.1 = pending.countedAs slot.slotId ∧
      observation.2.2 = pending.countedAt slot.slotId := by
  unfold PendingPhysicalStockAttestation.observationOf at observed
  unfold PendingPhysicalStockAttestation.countedAs
    PendingPhysicalStockAttestation.countedAt
  split at observed
  · rename_i generation found
    split at observed
    · cases observed
    · cases observed
      simp [found]
  · rename_i missing
    cases observed
    simp [missing]

/-- Making a pending attestation a stock fact. -/
theorem finalizeSlots_writes
    (isActive :
      before.activePlanogramVersion = some pending.input.planogramVersion)
    (submitted : allows .submission)
    (allowed : ∀ slot ∈ pending.input.slots,
      allows (.attestation slot.slotId))
    (counted : ∀ slot ∈ pending.input.slots, ∀ beforeQuantity, records
      (attestedMovement pending.input slot
        (pending.countedAs slot.slotId) beforeQuantity
        (pending.countedAt slot.slotId)))
    (commits :
      (finalizeSlots pending now).Commits before () after) :
    SlotWrites trusted now allows records before after := by
  unfold finalizeSlots at commits
  obtain ⟨_, finalized, attested, stored⟩ :=
    commits_bind.mp commits
  rw [commits_modify] at stored
  subst stored
  have stores : SlotWrite trusted now allows records finalized
      { finalized with
        physicalStockAttestation := some
          { attestationId := pending.input.attestationId
            planogramVersion := pending.input.planogramVersion
            operatorId := pending.input.operatorId
            attestedAt := pending.attestedAt
            slots := pending.input.slots }
        pendingPhysicalStockAttestation := none
        failedPhysicalStockAttestation := none } :=
    .quiet ⟨⟨rfl, rfl, rfl, rfl, rfl, rfl⟩, rfl⟩ (Or.inl submitted)
  refine Relation.ReflTransGen.tail ?_ stores
  refine (forM_keeps
    (fun remaining store =>
      SlotWrites trusted now allows records before store ∧
        ∀ slot ∈ remaining, slot ∈ pending.input.slots)
    ?_ ⟨.refl, fun _ => id⟩ attested).1
  rintro slot rest store next ⟨earlier, inInput⟩ round
  unfold finalizeSlot at round
  simp only [commits_get_bind, commits_requireSome_bind, commits_require_bind,
    commits_statement_bind, commits_statement, Bool.and_eq_true, beq_iff_eq,
    decide_eq_true_eq] at round
  obtain ⟨row, slotFound, ⟨_, within⟩, observation, observed, _, inserted,
    projected⟩ := round
  obtain ⟨sameName, sameTime⟩ := observationOf_some observed
  rw [← earlier.samePlanograms.active] at isActive
  rw [sameName, sameTime] at inserted
  have ofInput := inInput slot List.mem_cons_self
  refine ⟨earlier.tail
    (.attested (allowed slot ofInput) (counted slot ofInput _)
      ⟨rfl, rfl, rfl⟩ slotFound isActive within
      (mapError_eq_ok_iff.mp inserted)
      (mapError_eq_ok_iff.mp projected)), ?_⟩
  exact fun other member =>
    inInput other (List.mem_cons_of_mem _ member)

/-- A finalisation that commits turns a pending attestation into a fact. -/
theorem finalizePending_cases
    {done : Bool}
    (finalized :
      finalizePendingPhysicalStockAttestationIfAccepted store now =
        .ok (next, done)) :
    (done = false ∧ next = store) ∨
      (done = true ∧ ∃ pending,
        store.pendingPhysicalStockAttestation = some pending ∧
        pending.accepted store = true ∧
        store.activePlanogramVersion =
          some pending.input.planogramVersion ∧
        (finalizeSlots pending now).Commits store () next) := by
  unfold finalizePendingPhysicalStockAttestationIfAccepted at finalized
  split at finalized
  · cases finalized
    exact Or.inl ⟨rfl, rfl⟩
  rename_i pending isPending
  split at finalized
  · cases finalized
    exact Or.inl ⟨rfl, rfl⟩
  rename_i accepted
  split at finalized
  · cases finalized
    exact Or.inl ⟨rfl, rfl⟩
  rename_i isActive
  split at finalized
  · rename_i answer result ran
    cases finalized
    exact Or.inr ⟨rfl, pending, isPending, by simpa using accepted,
      by simpa using isActive, ran⟩
  · cases finalized
    exact Or.inl ⟨rfl, rfl⟩
  · cases finalized

theorem projectSnapshotSlots_writes
    {seen : List SlotId}
    {slots : List MachineStockSnapshotSlot}
    (isActive : before.activePlanogramVersion = some version)
    (allowed : ∀ slot ∈ slots, allows (.snapshot slot.slotId))
    (available : trusted → ∀ slot ∈ slots,
      slot.availableQty ≤ slot.onHandQty)
    (commits :
      (projectSnapshotSlots version now seen slots).Commits
        before () after) :
    SlotWrites trusted now allows records before after := by
  induction slots generalizing before seen with
  | nil =>
    obtain ⟨_, rfl⟩ := commits_pure.mp commits
    exact .refl
  | cons slot rest inductionHypothesis =>
    unfold projectSnapshotSlots at commits
    simp only [commits_require_bind, commits_get_bind,
      commits_ofExcept_bind, commits_statement_bind] at commits
    obtain ⟨_, _, checked, middle, projected, later⟩ := commits
    have touches := TouchesOnly.projectSnapshotSlot projected
    refine .head (.snapshot (allowed slot List.mem_cons_self) isActive
      checked (fun trust => available trust slot List.mem_cons_self)
      projected) ?_
    refine inductionHypothesis (touches.active.trans isActive) ?_ ?_ later
    · exact fun other member =>
        allowed other (List.mem_cons_of_mem _ member)
    · exact fun trust other member =>
        available trust other (List.mem_cons_of_mem _ member)

theorem applyPlatformStockSnapshot_writes
    {snapshot : MachineStockSnapshot}
    (allowed : ∀ slot ∈ snapshot.slots, allows (.snapshot slot.slotId))
    (available : trusted → ∀ slot ∈ snapshot.slots,
      slot.availableQty ≤ slot.onHandQty)
    (commits :
      (applyPlatformStockSnapshot snapshot now).Commits before () after) :
    SlotWrites trusted now allows records before after := by
  unfold applyPlatformStockSnapshot at commits
  simp only [commits_get_bind, commits_require_bind, beq_iff_eq] at commits
  obtain ⟨_, _, isActive, _, projected⟩ := commits
  exact projectSnapshotSlots_writes isActive allowed available projected

/-- The kinds of writes that a transaction consists of. -/
def StockEvent.writeKinds
    (store : Store) : StockEvent → SlotWriteKind → Prop
  | .recordStockMovement input _ => (· = .entry input.slotId)
  | .submitRefillBatch input _ _ =>
    EntersOneOf (input.slots.map StockMaintenanceBatchSlotInput.slotId)
  | .recordAttestation input => fun kind =>
    kind = .submission ∨
      AttestsOneOf
        (input.slots.map PhysicalStockAttestationSlotInput.slotId) kind
  | .finalizeAttestation => fun kind =>
    ∃ pending ∈ store.pendingPhysicalStockAttestation,
      kind = .submission ∨
        AttestsOneOf
          (pending.input.slots.map
            PhysicalStockAttestationSlotInput.slotId) kind
  | .applySnapshot snapshot =>
    SnapshotsOneOf (snapshot.slots.map MachineStockSnapshotSlot.slotId)
  | .commitDispense _ _ _ => (· = .sale)
  | .updateSlotSalesState _ _ _ _ => (· = .state)
  | .pruneStockMovements _ _ => (· = .prune)
  | .stageAttestation _ _ _ => (· = .submission)
  | .applyPlanogram _
  | .uploadAnswered _ _
  | .uploadFailed _ _ _ _
  | .journalDispense _ _
  | .otherActivity _ => fun _ => False

/-- The movements that a transaction may add to the ledger. -/
def StockEvent.recordsMovement
    (store : Store)
    (now : Time) : StockEvent → StockMovement → Prop
  | .recordStockMovement input _ =>
    fun movement => movement = enteredMovement store input now
  | .submitRefillBatch input _ _ => fun movement =>
    movement.movementId = .stockTask input.taskId movement.slotId
  | .recordAttestation input => fun movement =>
    ∃ slot ∈ input.slots, ∃ beforeQuantity,
      movement = attestedMovement input slot
        (.stockTask input.attestationId slot.slotId) beforeQuantity now
  | .finalizeAttestation => fun movement =>
    ∃ pending ∈ store.pendingPhysicalStockAttestation,
      ∃ slot ∈ pending.input.slots, ∃ beforeQuantity,
        movement = attestedMovement pending.input slot
          (pending.countedAs slot.slotId) beforeQuantity
          (pending.countedAt slot.slotId)
  | .commitDispense command _ _ => fun movement =>
    ∃ slot projection,
      movement = dispenseMovement command slot projection now
  | .applyPlanogram _
  | .stageAttestation _ _ _
  | .uploadAnswered _ _
  | .uploadFailed _ _ _ _
  | .applySnapshot _
  | .journalDispense _ _
  | .updateSlotSalesState _ _ _ _
  | .pruneStockMovements _ _
  | .otherActivity _ => fun _ => False

/-- A snapshot offers no more of a slot than the platform has on hand. -/
def StockEvent.OffersOnHandOnly : StockEvent → Prop
  | .applySnapshot snapshot =>
    ∀ slot ∈ snapshot.slots, slot.availableQty ≤ slot.onHandQty
  | .applyPlanogram _
  | .recordStockMovement _ _
  | .submitRefillBatch _ _ _
  | .recordAttestation _
  | .stageAttestation _ _ _
  | .finalizeAttestation
  | .uploadAnswered _ _
  | .uploadFailed _ _ _ _
  | .journalDispense _ _
  | .commitDispense _ _ _
  | .updateSlotSalesState _ _ _ _
  | .pruneStockMovements _ _
  | .otherActivity _ => True

theorem writes_of_execute
    {transaction : Transaction Store StoreError Answer}
    (writes : ∀ {answer after}, transaction.Commits before answer after →
      SlotWrites trusted now allows records before after) :
    SlotWrites trusted now allows records before
      (transaction.execute before).2 := by
  rcases execute_cases transaction before with
    ⟨_, failed⟩ | ⟨_, _, commits, executed⟩
  · rw [failed]
  · rw [executed]
    exact writes commits

/-- Apart from planograms, a transaction is a chain of slot writes. -/
theorem perform_writes
    {event : StockEvent}
    (noPlanogram : ∀ input, event ≠ .applyPlanogram input)
    (onHandOnly : trusted → event.OffersOnHandOnly) :
    SlotWrites trusted now (event.writeKinds store)
      (event.recordsMovement store now) store (store.perform now event) := by
  cases event with
  | applyPlanogram input => exact absurd rfl (noPlanogram input)
  | recordStockMovement input upload =>
    simp only [Store.perform]
    split
    · rename_i recorded
      exact recordStockMovementWithUpload_writes rfl rfl recorded
    · exact .refl
  | submitRefillBatch input operatorId identity =>
    exact writes_of_execute (submitRefillBatch_writes
      (fun _ member => ⟨_, member, rfl⟩) (fun _ => id))
  | recordAttestation input =>
    exact writes_of_execute (recordPhysicalStockAttestation_writes
      (Or.inl rfl)
      (fun _ member => Or.inr ⟨_, List.mem_map_of_mem member, rfl⟩)
      (fun slot member _ => ⟨slot, member, _, rfl⟩))
  | stageAttestation input carried identity =>
    exact writes_of_execute (stagePhysicalStockAttestation_writes rfl)
  | finalizeAttestation =>
    simp only [Store.perform]
    split
    · rename_i finalized
      rcases finalizePending_cases finalized with
        ⟨_, rfl⟩ | ⟨_, pending, isPending, _, isActive, commits⟩
      · exact .refl
      · exact finalizeSlots_writes isActive
          ⟨pending, isPending, Or.inl rfl⟩
          (fun _ member => ⟨pending, isPending, Or.inr ⟨_,
            List.mem_map_of_mem member, rfl⟩⟩)
          (fun slot member _ =>
            ⟨pending, isPending, slot, member, _, rfl⟩)
          commits
    · exact .refl
  | uploadAnswered event response =>
    exact writes_of_execute recordStockMovementUploadResponse_writes
  | uploadFailed eventId movementId error nextAttemptAt =>
    exact writes_of_execute fun commits =>
      .single (markStockMovementUploadFailed_write commits)
  | applySnapshot snapshot =>
    exact writes_of_execute
      (applyPlatformStockSnapshot_writes
        (fun _ member => ⟨_, List.mem_map_of_mem member, rfl⟩)
        onHandOnly)
  | journalDispense command result =>
    simp only [Store.perform]
    rw [recordCommandResultJournal_frame]
    exact .single (.quiet ⟨⟨rfl, rfl, rfl, rfl, rfl, rfl⟩, rfl⟩
    (Or.inr ⟨rfl, rfl, rfl⟩))
  | commitDispense command result preferred =>
    simp only [Store.perform]
    split
    · rename_i committed
      exact commitJournaledDispenseSideEffects_writes rfl
        (fun slot projection => ⟨slot, projection, rfl⟩) committed
    · exact .refl
  | updateSlotSalesState version slotId state source =>
    simp only [Store.perform]
    split
    · rename_i updated
      exact .single (.state rfl updated)
    · exact .refl
  | pruneStockMovements taskIds cutoff =>
    refine .single (.pruned rfl ⟨rfl, rfl, rfl, rfl, rfl, rfl⟩ ?_
      ⟨rfl, rfl, rfl⟩)
    exact fun movement member => (List.mem_filter.mp member).1
  | otherActivity after =>
    simp only [Store.perform]
    split
    · rename_i keeps
      simp only [Store.keepsStock, Bool.and_eq_true,
        decide_eq_true_eq] at keeps
      obtain ⟨⟨⟨⟨⟨⟨⟨⟨⟨⟨⟨active, versions⟩, slots⟩, ledger⟩, _⟩, rows⟩,
        shown⟩, blockers⟩, _⟩, stored⟩, pending⟩, failed⟩ := keeps
      exact .single
        (.quiet ⟨⟨active, versions, slots, rows, blockers, shown⟩, ledger⟩
          (Or.inr ⟨stored, pending, failed⟩))
    · exact .refl

end VendingSystem.Daemon
